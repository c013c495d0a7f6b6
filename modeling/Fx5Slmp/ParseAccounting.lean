import Fx5Slmp.FaithfulParser
import Fx5Slmp.ParseEffects

/-!
# What the parse loops discard

The operations of the namespace `Recorded` keep a record: how many bytes left the buffer in each drop
outside a parsed frame.  The record is a number without bound, and nothing the parser does depends on
it.

* `Recorded.parseResponse_erase` — without the record, a call is that of the model;
* `Recorded.parseResponse_counter` — the counter of the context is the record;
* `parse_progress` — a call that does not ask for more bytes takes at least two;
* `parse_accounting` — the counter at the return, and repeated calls.
-/

set_option autoImplicit false

namespace Fx5

open Instrumented StreamScan

/-- How many bytes left the buffer. -/
def lostBytes (before after : RingBuf) : Nat := before.size - after.size

/-- The context with which a turn ends. -/
def Turn.context : Turn → Context
  | .again context => context
  | .done result => result.2

namespace Recorded

/-- `fx5_ringbuf_drop_front` with a record of the bytes that it removes. -/
def discard (rb : RingBuf) : StateT Nat Option RingBuf := fun n =>
  some ((ringbufDropFront rb 1).2, n + lostBytes rb (ringbufDropFront rb 1).2)

/-- Drops that belong to no parsed frame are recorded. -/
def ops : Ops (StateT Nat Option) where
  narrow n := pure (u16 n)
  narrowSub a b := pure (u16 (a - b))
  peek rb index := StateT.lift (ringbufPeek rb index)
  drop rb count := pure (ringbufDropFront rb count).2
  discard := discard

/-- `fx5_parse_response`: its result, and how many bytes it dropped outside a parsed frame. -/
def parseResponse (cfg : Config) (context : Context) : Option ((Status × Context) × Nat) :=
  (ops.parseResponse cfg context).run 0

theorem ops_faithful : ops.Faithful Reading.forget where
  narrow _ _ := rfl
  narrowSub _ _ _ := rfl
  peek {rb i} _ _ _ n := by
    show ((ringbufPeek rb i).bind fun value => some (value, n)).map Prod.fst = ringbufPeek rb i
    cases ringbufPeek rb i <;> rfl
  drop _ _ _ := rfl

/-- Outside the drops that are recorded, the record stays. -/
theorem ops_silent : ops.Faithful Reading.silent where
  narrow _ _ := rfl
  narrowSub _ _ _ := rfl
  peek {rb i} _ _ _ n := by
    show ((ringbufPeek rb i).bind fun value => some (value, n)) = (ringbufPeek rb i).map (·, n)
    cases ringbufPeek rb i <;> rfl
  drop _ _ _ := rfl

theorem discards : ops.Discards Reading.forget := fun _ _ _ => rfl

/-- **The record changes nothing** in a call. -/
theorem parseResponse_erase {cfg : Config} {ctx : Context} (hinv : ctx.Inv cfg) :
    (parseResponse cfg ctx).map Prod.fst = Fx5.parseResponse cfg ctx :=
  ops_faithful.parseResponse discards hinv 0

theorem discard_run (rb : RingBuf) (n : Nat) : (ops.discard rb).run n =
    some ((ringbufDropFront rb 1).2, n + lostBytes rb (ringbufDropFront rb 1).2) := rfl

theorem narrow_run (k n : Nat) : (ops.narrow k).run n = some (u16 k, n) := rfl

theorem drop_run (rb : RingBuf) (count n : Nat) :
    (ops.drop rb count).run n = some ((ringbufDropFront rb count).2, n) := rfl

/-- **The scan** loses what its buffer is shorter in the end. -/
theorem tryResync_run {rb : RingBuf} (h : SmallRing rb) (d n : Nat) : (ops.tryResync rb d).run n =
    (Fx5.tryResync rb d).map fun r => (r, n + lostBytes rb r.2.1) := by
  induction hsize : rb.size using Nat.strong_induction_on generalizing rb d n with
  | _ size ih =>
    have hnone (n : Nat) : n = n + lostBytes rb rb := by rw [lostBytes, Nat.sub_self, Nat.add_zero]
    rw [Ops.tryResync, Fx5.tryResync]
    split
    · rename_i hlong
      rw [ringbufSize] at hlong
      have hless := dropFront_size h.inv (Nat.le_of_lt hlong)
      rw [StateT.run_bind, ops_silent.detectResponseHeader h n]
      cases Fx5.detectResponseHeader rb with
      | none => rfl
      | some headerType =>
        simp only [Option.bind_eq_bind, Option.bind_some, Option.map_some]
        split
        · exact congrArg (fun k => some (_, k)) (hnone n)
        · simp only [StateT.run_bind, discard_run, narrow_run, Option.bind_eq_bind,
            Option.bind_some]
          rw [dif_pos (by omega), ih _ (by omega) (h.dropFront 1) _ _ rfl]
          refine Option.map_congr fun r hr => ?_
          have hle := tryResync_size_le (show _ = some (r.1, r.2.1, r.2.2) from hr)
          simp only [lostBytes, Prod.mk.injEq, true_and]
          omega
    · split
      · rename_i hone
        rw [ringbufSize] at hone
        rw [StateT.run_bind, ops_silent.peek h (by omega) (Nat.zero_le _) n]
        cases ringbufPeek rb 0 with
        | none => rfl
        | some byte =>
          simp only [Option.bind_eq_bind, Option.bind_some, Option.map_some]
          cases byte with
          | none => exact congrArg (fun k => some (_, k)) (hnone n)
          | some byte0 =>
            simp only
            split
            · rfl
            · exact congrArg (fun k => some (_, k)) (hnone n)
      · exact congrArg (fun k => some (_, k)) (hnone n)

/-! ## The counter -/

section Payload

variable {cfg : Config} {ctx ctx' : Context} {status : Status}

/-- The guarded drop leaves the counter alone. -/
theorem dropPayload_counter (ctx : Context) (rb : RingBuf) (n : Nat) :
    (if n > 0 then { ctx with rxCbuffer := rb } else ctx).resyncCounter = ctx.resyncCounter := by
  split <;> rfl

theorem parseBitResponsePayload_counter {payloadSize : Nat}
    (h : parseBitResponsePayload cfg ctx payloadSize = some (status, ctx')) :
    ctx'.resyncCounter = ctx.resyncCounter := by
  unfold parseBitResponsePayload at h
  simp only at h
  split at h
  · cases h
    exact dropPayload_counter _ _ _
  split at h
  · cases h
    exact dropPayload_counter _ _ _
  obtain ⟨_, _, h⟩ := Option.bind_eq_some_iff.mp h
  cases h
  rfl

theorem parseWordResponsePayload_counter {payloadSize : Nat}
    (h : parseWordResponsePayload cfg ctx payloadSize = some (status, ctx')) :
    ctx'.resyncCounter = ctx.resyncCounter := by
  unfold parseWordResponsePayload at h
  simp only at h
  split at h
  · cases h
    rfl
  split at h
  · cases h
    exact dropPayload_counter _ _ _
  split at h
  · cases h
    exact dropPayload_counter _ _ _
  obtain ⟨_, _, h⟩ := Option.bind_eq_some_iff.mp h
  cases h
  rfl

/-- The payload stage leaves the counter alone. -/
theorem parseResponsePdu_counter {packetSize : Nat}
    (h : parseResponsePdu cfg ctx packetSize = some (status, ctx')) :
    ctx'.resyncCounter = ctx.resyncCounter := by
  unfold parseResponsePdu at h
  split at h
  · cases h
    rfl
  obtain ⟨⟨code, rb⟩, _, h⟩ := Option.bind_eq_some_iff.mp h
  unfold parseResponseBranches at h
  simp only at h
  by_cases hcode : code ≠ FX5_RESPONSE_OK
  · rw [if_pos hcode] at h
    cases h
    exact dropPayload_counter { ctx with responseCode := code, rxCbuffer := rb } _ _
  rw [if_neg hcode] at h
  split at h
  · split at h
    · cases h
      rfl
    · cases h
      rfl
  split at h
  · exact (parseBitResponsePayload_counter h).trans rfl
  · exact (parseWordResponsePayload_counter h).trans rfl

end Payload

section Counter

variable {cfg : Config} {ctx : Context}

/-- **One turn** counts what it records. -/
theorem parseResponseTurn_counter (hinv : ctx.Inv cfg)
    (hcount : ctx.resyncCounter + ctx.rxCbuffer.size < 65536) {turn : Turn} {n : Nat}
    (h : (ops.parseResponseTurn cfg ctx).run ctx.resyncCounter = some (turn, n)) :
    turn.context.resyncCounter = n := by
  obtain ⟨m, hm⟩ : ∃ m, skip Candidate ctx.rxCbuffer.contents = m := ⟨_, rfl⟩
  have hle : m ≤ ctx.rxCbuffer.contents.length := hm ▸ skip_le_length _ _
  have hlen := hinv.ring.contents_length
  have hscan := tryResync_spec hinv.ring (capacity_le hinv) hcount
  rw [hm] at hscan
  have hinv' := hinv.discard hle
  rw [Context.discard] at hinv'
  have hlost : lostBytes ctx.rxCbuffer (ctx.rxCbuffer.advance m) = m := by
    rw [lostBytes, RingBuf.advance_size]
    omega
  unfold Ops.parseResponseTurn at h
  rw [StateT.run_bind, tryResync_run (smallRing hinv), hscan] at h
  simp only [Option.bind_eq_bind, Option.bind_some, Option.map_some, hlost] at h
  by_cases hlimit : ctx.resyncCounter + m > FX5_RESYNC_LIMIT
  · rw [if_pos hlimit] at h
    cases h
    rfl
  rw [if_neg hlimit] at h
  by_cases hfound : magicOf (ctx.rxCbuffer.contents.drop m) = .unknown
  · rw [if_pos hfound] at h
    cases h
    rfl
  rw [if_neg hfound, StateT.run_bind, ops_silent.parseResponseHeader hinv'] at h
  obtain ⟨found, hparsed, h⟩ := Option.bind_eq_some_iff.mp h
  obtain ⟨⟨status, packetSize, headerSize⟩, hheader, rfl⟩ := Option.map_eq_some_iff.mp hparsed
  simp only at h
  split at h
  · cases h
    rfl
  split at h
  · -- a mismatch is found in a buffer that is not empty
    rename_i hmismatch
    subst hmismatch
    have hpos : 1 ≤ (ctx.rxCbuffer.advance m).size := parseResponseHeader_mismatch hheader
    have hless : (ringbufDropFront (ctx.rxCbuffer.advance m) 1).2.size =
        (ctx.rxCbuffer.advance m).size - 1 := dropFront_size hinv'.ring hpos
    simp only [StateT.run_bind, discard_run, narrow_run, Option.bind_eq_bind, Option.bind_some] at h
    have hone : lostBytes (ctx.rxCbuffer.advance m)
        (ringbufDropFront (ctx.rxCbuffer.advance m) 1).2 = 1 := by
      rw [lostBytes]
      omega
    rw [RingBuf.advance_size] at hpos
    have hsmall : ctx.resyncCounter + m + 1 < 65536 := by omega
    rw [hone, u16_of_lt hsmall] at h
    split at h
    · cases h
      rfl
    · cases h
      rfl
  split at h
  · cases h
    rfl
  split at h
  · cases h
    rfl
  rename_i htotal
  rw [ringbufSize] at htotal
  have htotal' : headerSize + packetSize ≤ (ctx.rxCbuffer.advance m).size :=
    Nat.le_of_not_lt htotal
  have hroom : headerSize ≤ (ctx.rxCbuffer.advance m).size := by omega
  have hless : (ringbufDropFront (ctx.rxCbuffer.advance m) headerSize).2.size =
      (ctx.rxCbuffer.advance m).size - headerSize := dropFront_size hinv'.ring hroom
  have harrived : packetSize ≤ (ringbufDropFront (ctx.rxCbuffer.advance m) headerSize).2.size := by
    omega
  simp only [StateT.run_bind, drop_run, Option.bind_eq_bind, Option.bind_some] at h
  rw [ops_silent.parseResponsePdu (inv_dropFront hinv' headerSize ctx.responseCode) harrived] at h
  obtain ⟨_, hparsed, h⟩ := Option.bind_eq_some_iff.mp h
  obtain ⟨⟨status', ctx'⟩, hpdu, rfl⟩ := Option.map_eq_some_iff.mp hparsed
  cases h
  exact parseResponsePdu_counter hpdu

/-- **The loop** counts what it records. -/
theorem parseResponseLoop_counter (hinv : ctx.Inv cfg)
    (hlimit : ctx.resyncCounter ≤ FX5_RESYNC_LIMIT) {result : Status × Context} {n : Nat}
    (h : (ops.parseResponseLoop cfg ctx).run ctx.resyncCounter = some (result, n)) :
    result.2.resyncCounter = n := by
  have h64 : FX5_RESYNC_LIMIT = 64 := rfl
  induction hsize : ctx.rxCbuffer.size using Nat.strong_induction_on generalizing ctx with
  | _ size ih =>
    have hle := hinv.size_le
    have hbounds := iobufSize_bounds cfg
    rw [Ops.parseResponseLoop, StateT.run_bind] at h
    obtain ⟨⟨turn, m⟩, hturn, h⟩ := Option.bind_eq_some_iff.mp h
    have hcounter := parseResponseTurn_counter hinv (by omega) hturn
    have herase := ops_faithful.parseResponseTurn discards hinv (by omega) ctx.resyncCounter
    rw [hturn, Option.map_some] at herase
    cases turn with
    | done result' =>
      cases h
      exact hcounter
    | again next =>
      have hlt := parseResponseTurn_again_size herase.symm
      obtain ⟨hinv', hlimit'⟩ := parseResponseTurn_again hinv hlimit herase.symm
      obtain rfl : next.resyncCounter = m := hcounter
      simp only at h
      rw [dif_pos hlt] at h
      exact ih _ (by omega) hinv' hlimit' h rfl

/-- **A call** counts what it records. -/
theorem parseResponse_counter (hinv : ctx.Inv cfg) (huse : ctx.inUse = true)
    {result : Status × Context} {n : Nat} (h : parseResponse cfg ctx = some (result, n)) :
    result.2.resyncCounter = n := by
  have hreset : { ctx with resyncCounter := 0 : Context }.Inv cfg := { hinv with }
  unfold parseResponse Ops.parseResponse at h
  rw [requireAcquired_ok huse] at h
  exact parseResponseLoop_counter hreset (Nat.zero_le _) h

end Counter

end Recorded

/-! ## Progress -/

/-- The first `m` calls do not ask for more bytes, and the next one does. -/
def NeedMoreAfter (cfg : Config) : Nat → Context → Prop
  | 0, ctx => ∃ ctx', parseResponse cfg ctx = some (.errNeedMore, ctx')
  | m + 1, ctx => ∃ status ctx', parseResponse cfg ctx = some (status, ctx') ∧
      status ≠ .errNeedMore ∧ NeedMoreAfter cfg m ctx'

section Progress

variable {cfg : Config} {ctx : Context}

/-- **Every call** takes the garbage that it counts out of the buffer; one that does not ask for
more bytes takes at least two. -/
theorem parse_progress (hinv : ctx.Inv cfg) (huse : ctx.inUse = true) :
    ∃ status ctx', parseResponse cfg ctx = some (status, ctx') ∧
      ctx'.resyncCounter + ctx'.rxCbuffer.contents.length ≤ ctx.rxCbuffer.contents.length ∧
      (status ≠ .errNeedMore →
        ctx'.rxCbuffer.contents.length + 2 ≤ ctx.rxCbuffer.contents.length) := by
  obtain ⟨k, hk⟩ : ∃ k, frameStart cfg ctx.serial ctx.rxCbuffer.contents = k := ⟨_, rfl⟩
  have hle := frameStart_le_length hk
  have htaken (j : Nat) (hj : j ≤ k) : (ctx.taken j 0).rxCbuffer.contents.length =
      ctx.rxCbuffer.contents.length - j := by
    have hj' : j + 0 ≤ ctx.rxCbuffer.contents.length := Nat.le_trans hj hle
    rw [hinv.contents_taken hj', List.length_drop, Nat.add_zero]
  rcases parseResponse_outcome hinv huse hk rfl with
    ⟨hlimit, hres⟩ | ⟨_, _, hres⟩ | ⟨_, hcomplete, hres⟩
  · obtain ⟨hbeyond, hend⟩ := resyncEnd_bounds hk hlimit
    have hlen := htaken _ hend
    have h64 : FX5_RESYNC_LIMIT = 64 := rfl
    have hcounter : (ctx.taken (resyncEnd FX5_RESYNC_LIMIT ctx.rxCbuffer.contents)
        0).resyncCounter = resyncEnd FX5_RESYNC_LIMIT ctx.rxCbuffer.contents := rfl
    exact ⟨_, _, hres, by omega, fun _ => by omega⟩
  · have hlen := htaken k (Nat.le_refl k)
    have hcounter : (ctx.taken k 0).resyncCounter = k := rfl
    exact ⟨_, _, hres, by omega, fun h => absurd rfl h⟩
  · have hlen := congrArg List.length (contents_apply_taken hinv hle rfl hcomplete)
    rw [List.length_drop, List.length_drop] at hlen
    obtain ⟨hheader, _⟩ := headerSize_bounds (magicOf (ctx.rxCbuffer.contents.drop k))
    have hframe := hcomplete.2
    rw [frameSizeOf, List.length_drop] at hframe
    refine ⟨_, _, hres, ?_, fun _ => by omega⟩
    have hcounter : ((pduResult ctx (packetOf (ctx.rxCbuffer.contents.drop k))).apply
        (ctx.taken k (getResponseHeaderSize
          (magicOf (ctx.rxCbuffer.contents.drop k))))).resyncCounter = k := rfl
    omega

/-- **Repeated calls** ask for more bytes within as many calls as there are bytes, and at once when
there are none. -/
theorem needMoreAfter_le (hinv : ctx.Inv cfg) (huse : ctx.inUse = true) :
    ∃ m, m + 1 ≤ max 1 ctx.rxCbuffer.contents.length ∧ NeedMoreAfter cfg m ctx := by
  induction hlen : ctx.rxCbuffer.contents.length using Nat.strong_induction_on generalizing ctx with
  | _ len ih =>
    obtain ⟨status, ctx', hres, _, hless⟩ := parse_progress hinv huse
    obtain ⟨_, _, hres', hinv', huse', _⟩ := parseResponse_inv hinv huse
    rw [hres] at hres'
    cases hres'
    by_cases hstatus : status = .errNeedMore
    · subst hstatus
      exact ⟨0, by omega, ctx', hres⟩
    · have hshort := hless hstatus
      obtain ⟨m, hm, hafter⟩ := ih _ (by omega) hinv' huse' rfl
      exact ⟨m + 1, by omega, status, ctx', hres, hstatus, hafter⟩

/-- **The parse loops terminate with exact accounting.**  A call has a result; its counter is the
number of bytes that it dropped outside a parsed frame, which all were in the buffer; unless it
asks for more bytes it leaves fewer; and repeated calls end up asking for more. -/
theorem parse_accounting (cfg : Config) (ctx : Context) (hinv : ctx.Inv cfg)
    (huse : ctx.inUse = true) :
    (∃ status ctx' n, Recorded.parseResponse cfg ctx = some ((status, ctx'), n) ∧
      parseResponse cfg ctx = some (status, ctx') ∧
      ctx'.resyncCounter = n ∧ n < 65536 ∧
      n + ctx'.rxCbuffer.contents.length ≤ ctx.rxCbuffer.contents.length ∧
      (status ≠ .errNeedMore →
        ctx'.rxCbuffer.contents.length < ctx.rxCbuffer.contents.length)) ∧
    ∃ m, m + 1 ≤ max 1 ctx.rxCbuffer.contents.length ∧ NeedMoreAfter cfg m ctx := by
  obtain ⟨status, ctx', hres, hbalance, hless⟩ := parse_progress hinv huse
  have herase := Recorded.parseResponse_erase hinv
  rw [hres] at herase
  obtain ⟨⟨result, n⟩, hrecord, rfl⟩ := Option.map_eq_some_iff.mp herase
  obtain rfl : ctx'.resyncCounter = n := Recorded.parseResponse_counter hinv huse hrecord
  have hsize := hinv.size_le
  have hbounds := iobufSize_bounds cfg
  have hcontents := hinv.ring.contents_length
  refine ⟨⟨status, ctx', _, hrecord, hres, rfl, by omega, hbalance, fun h => ?_⟩,
    needMoreAfter_le hinv huse⟩
  have := hless h
  omega

end Progress

/-- Garbage in front of a partial header is counted. -/
theorem garbage_accounted :
    ∃ status ctx' n, Recorded.parseResponse .smallest garbageContext = some ((status, ctx'), n) ∧
      ctx'.resyncCounter = n ∧ n < 65536 := by
  obtain ⟨hinv, huse⟩ := acquired_inv garbageContext_acquired
  obtain ⟨⟨status, ctx', n, hrecord, _, hcounter, hsmall, _⟩, _⟩ :=
    parse_accounting .smallest garbageContext hinv huse
  exact ⟨status, ctx', n, hrecord, hcounter, hsmall⟩

end Fx5
