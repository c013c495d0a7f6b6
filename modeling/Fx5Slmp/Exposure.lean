import Fx5Slmp.ResponseDecoding
import Fx5Slmp.Traces

/-!
# What the getters expose behind a response

One field holds both the requested and the received count.  A getter should report what the
frame that was consumed last delivered, and nothing that was in the value store before.

* `CountMatches` — the field is the count the caller requested, or 0, in every history;
* `pduResult_exits` — what each exit of the payload stage leaves in the field;
* `exposes_only_delivered_iff` — the getters report what the frame delivered exactly if the
  frame is not one that is rejected while a count is active;
* `rejected_frame_exposes_store` — a rejected frame after which the store is exposed.
-/

set_option autoImplicit false

namespace Fx5

/-! ## The requested count -/

/-- The count that an event makes the requested one on handle `h`, if it does. -/
def Event.requests (h : Nat) (e : Event) : Option Nat :=
  match e.call, e.reply with
  | .setRequest h' _ _ _ count, .done .ok => if h' = h then some count.toNat else none
  | .reset h', .done .ok => if h' = h then some 0 else none
  | .acquire, .handle .ok (some h') => if h' = h then some 0 else none
  | _, _ => none

/-- The count that was requested last on handle `h`. -/
def requestedCount (h : Nat) (es : List Event) : Nat :=
  ((es.filterMap (Event.requests h)).getLast?).getD 0

theorem requestedCount_append (h : Nat) (es : List Event) (e : Event) :
    requestedCount h (es ++ [e]) = (e.requests h).getD (requestedCount h es) := by
  cases hreq : e.requests h <;> simp [requestedCount, List.filterMap_append, hreq]

theorem requests_of_target {h handle : Nat} {e : Event} (ht : e.call.target = some handle)
    (hne : handle ≠ h) : e.requests h = none := by
  unfold Event.requests
  split
  · rename_i hcall _
    rw [hcall] at ht
    cases ht
    rw [if_neg hne]
  · rename_i hcall _
    rw [hcall] at ht
    cases ht
    rw [if_neg hne]
  · rename_i hcall _
    rw [hcall] at ht
    cases ht
  · rfl

theorem requests_of_status {h : Nat} {e : Event} (hne : e.reply.status ≠ .ok) :
    e.requests h = none := by
  unfold Event.requests
  split
  all_goals first | rfl | (rename_i hreply; rw [hreply] at hne; exact absurd rfl hne)

section Count

variable {cfg : Config}

/-- **The effect of a call on the count**: a request sets it, a reset clears it, a parse keeps
or clears it, and the other calls keep it. -/
theorem CallEffect.count {ctx ctx' : Context} {h : Nat} {e : Event}
    (heffect : CallEffect cfg ctx e.call e.reply ctx') (hinv : ctx.Inv cfg)
    (huse : ctx.inUse = true) (ht : e.call.target = some h) (huse' : ctx'.inUse = true) :
    ctx'.count = 0 ∨ e.requests h = some ctx'.count ∨
      (e.requests h = none ∧ ctx'.count = ctx.count) := by
  obtain ⟨call, reply⟩ := e
  simp only at heffect ht
  cases heffect with
  | read hget =>
    refine Or.inr (Or.inr ⟨?_, rfl⟩)
    cases call <;> first | rfl | cases hget
  | refused _ hne => exact Or.inr (Or.inr ⟨requests_of_status hne, rfl⟩)
  | released _ => cases huse'
  | cleared _ => exact Or.inl rfl
  | configured hset _ =>
    refine Or.inr (Or.inr ⟨?_, rfl⟩)
    cases call <;> first | rfl | cases hset
  | requested _ _ =>
    cases ht
    exact Or.inr (Or.inl (if_pos rfl))
  | written _ _ => exact Or.inr (Or.inr ⟨rfl, rfl⟩)
  | sent _ _ _ _ =>
    refine Or.inr (Or.inr ⟨rfl, ?_⟩)
    unfold Context.sent
    split <;> rfl
  | fed _ _ _ => exact Or.inr (Or.inr ⟨rfl, rfl⟩)
  | parsed _ hres =>
    obtain ⟨k, hk⟩ : ∃ k, frameStart cfg ctx.serial ctx.rxCbuffer.contents = k := ⟨_, rfl⟩
    rcases parseResponse_outcome hinv huse hk rfl with ⟨_, h⟩ | ⟨_, _, h⟩ | ⟨_, _, h⟩
    · rw [h] at hres
      cases hres
      exact Or.inr (Or.inr ⟨rfl, rfl⟩)
    · rw [h] at hres
      cases hres
      exact Or.inr (Or.inr ⟨rfl, rfl⟩)
    · have hcount := pduResult_count ctx (packetOf (ctx.rxCbuffer.contents.drop k))
      obtain ⟨r, hr⟩ : ∃ r, pduResult ctx (packetOf (ctx.rxCbuffer.contents.drop k)) = r :=
        ⟨_, rfl⟩
      rw [hr] at h hcount
      rw [h] at hres
      cases hres
      rcases hcount with hsame | hzero
      · exact Or.inr (Or.inr ⟨rfl, hsame⟩)
      · exact Or.inl hzero

/-- The count of the context at `h` is the requested one, or it was cleared. -/
def CountMatches (h : Nat) (es : List Event) (pool : Pool) : Prop :=
  ∀ ctx, pool[h]? = some ctx → ctx.inUse = true → ctx.count = 0 ∨ ctx.count = requestedCount h es

/-- **One event** keeps the match. -/
theorem CountMatches.step {pool pool' : Pool} {h : Nat} {es : List Event} {e : Event}
    (hmatch : CountMatches h es pool) (hpool : PoolInv cfg pool)
    (hnext : NextEvent cfg pool e pool') : CountMatches h (es ++ [e]) pool' := by
  intro ctx' hctx' huse'
  rw [requestedCount_append]
  rcases hnext.cases hpool with
    ⟨handle, ctx, ctx₁, ht, hctx, huse, hinv, hmem, hcall, rfl⟩ | ⟨_, rfl, hreply⟩ |
    ⟨k, ctx, ht, hctx, _, hk, rfl⟩
  · by_cases hh : handle = h
    · subst hh
      have hlt := (List.getElem?_eq_some_iff.mp hctx).1
      rw [List.getElem?_set_self hlt] at hctx'
      cases hctx'
      have heffect := callContext_effect hinv huse hmem hcall ht
      rcases heffect.count hinv huse ht huse' with hzero | hreq | ⟨hnone, hsame⟩
      · exact Or.inl hzero
      · exact Or.inr (by rw [hreq, Option.getD_some])
      · rw [hnone, Option.getD_none, hsame]
        exact hmatch ctx hctx huse
    · rw [List.getElem?_set_ne hh] at hctx'
      rw [requests_of_target ht hh]
      exact hmatch ctx' hctx' huse'
  · have hrefused : e.reply.status ≠ .ok := by
      rw [hreply]
      intro h
      cases h
    rw [requests_of_status hrefused]
    exact hmatch ctx' hctx' huse'
  · by_cases hh : k = h
    · subst hh
      have hlt := (List.getElem?_eq_some_iff.mp hctx).1
      rw [List.getElem?_set_self hlt] at hctx'
      cases hctx'
      exact Or.inl rfl
    · rw [List.getElem?_set_ne hh] at hctx'
      have hnone : e.requests h = none := by
        obtain ⟨call, reply⟩ := e
        simp only [Event.Acquires] at hk
        subst hk
        cases call <;> first | exact if_neg hh | rfl
      rw [hnone]
      exact hmatch ctx' hctx' huse'

/-- **A whole history** keeps it. -/
theorem CountMatches.run {pool pool' : Pool} {h : Nat} {before es : List Event}
    (hmatch : CountMatches h before pool) (hpool : PoolInv cfg pool)
    (htrace : Trace cfg pool es pool') : CountMatches h (before ++ es) pool' := by
  induction htrace generalizing before with
  | nil _ =>
    rw [List.append_nil]
    exact hmatch
  | @cons _ _ _ e es hnext _ ih =>
    have hrest := ih (hmatch.step hpool hnext) (step_inv hpool hnext.next)
    rw [List.append_assoc, List.singleton_append] at hrest
    exact hrest

theorem countMatches_zero (h : Nat) : CountMatches h [] (Pool.zero cfg) := by
  intro ctx hctx huse
  rw [List.eq_of_mem_replicate (List.mem_of_getElem? hctx)] at huse
  cases huse

end Count

/-! ## The exits of the payload stage -/

/-- The payload length that the active request expects of a successful response. -/
def expectedPayloadLength (ctx : Context) : Nat :=
  if ctx.command = .batchWrite then 0 else readPayloadLength ctx.device ctx.count

section Exits

variable {cfg : Config} {ctx : Context}

/-- **The exits of the payload stage** and the count each of them leaves. -/
theorem pduResult_exits (hcommand : isSupportedCommand ctx.command = true) {packet p : List Byte}
    (hp : packet.drop FX5_RESP_PDU_HEADER_SIZE = p) :
    (le16At packet 0 ≠ FX5_RESPONSE_OK ∧ (pduResult ctx packet).status = .responseError ∧
      (pduResult ctx packet).count = 0) ∨
    (le16At packet 0 = FX5_RESPONSE_OK ∧ p.length = expectedPayloadLength ctx ∧
      ctx.command = .batchWrite ∧ (pduResult ctx packet).status = .ok ∧
      (pduResult ctx packet).count = 0) ∨
    (le16At packet 0 = FX5_RESPONSE_OK ∧ p.length = expectedPayloadLength ctx ∧
      ctx.command = .batchRead ∧ ctx.count ≠ 0 ∧ (pduResult ctx packet).status = .ok ∧
      (pduResult ctx packet).count = ctx.count) ∨
    (le16At packet 0 = FX5_RESPONSE_OK ∧ (ctx.count = 0 ∨ p.length ≠ expectedPayloadLength ctx) ∧
      (pduResult ctx packet).status = .errInvalidCount ∧
      (pduResult ctx packet).count = ctx.count) := by
  unfold pduResult expectedPayloadLength
  rw [hp]
  by_cases hcode : le16At packet 0 = FX5_RESPONSE_OK
  · rcases isSupportedCommand_cases hcommand with hread | hwrite
    · -- a read: accepted with the expected length, or rejected with the count as it was
      have hnot : ctx.command ≠ .batchWrite := by
        rw [hread]
        decide
      simp only [hcode, payloadResult, ne_eq, not_true_eq_false, if_false, hnot, readPayloadLength]
      cases hdevice : isBitDevice ctx.device with
      | true =>
        simp only [if_true, bitPayloadResult]
        split
        · rename_i hbad
          exact Or.inr (Or.inr (Or.inr ⟨trivial, hbad, rfl, rfl⟩))
        · rename_i hgood
          rw [not_or, not_not] at hgood
          exact Or.inr (Or.inr (Or.inl ⟨trivial, hgood.2, hread, hgood.1, rfl, rfl⟩))
      | false =>
        simp only [Bool.false_eq_true, if_false, wordPayloadResult]
        split
        · rename_i hodd
          exact Or.inr (Or.inr (Or.inr ⟨trivial, Or.inr (by omega), rfl, rfl⟩))
        split
        · rename_i hbad
          exact Or.inr (Or.inr (Or.inr ⟨trivial, hbad, rfl, rfl⟩))
        · rename_i hgood
          rw [not_or, not_not] at hgood
          exact Or.inr (Or.inr (Or.inl ⟨trivial, hgood.2, hread, hgood.1, rfl, rfl⟩))
    · simp only [hcode, payloadResult, ne_eq, not_true_eq_false, if_false, hwrite, if_true]
      split
      · rename_i hnil
        refine Or.inr (Or.inl ⟨trivial, ?_, trivial, rfl, rfl⟩)
        rw [hnil]
        rfl
      · rename_i hne
        refine Or.inr (Or.inr (Or.inr ⟨trivial, Or.inr ?_, rfl, rfl⟩))
        rw [List.length_eq_zero_iff]
        exact hne
  · refine Or.inl ⟨hcode, ?_, ?_⟩
    · simp [payloadResult, hcode]
    · simp [payloadResult, hcode]

/-! ## What the getters report -/

/-- Behind a call that consumed a frame, the getters report the values of this frame and nothing
else: the requested number of values of the payload `p` if a read succeeded, and none
otherwise. -/
def ReportsDelivered (cfg : Config) (ctx ctx' : Context) (status : Status) (requested : Nat)
    (p : List Byte) : Prop :=
  getResponseCount ctx' = (if status = .ok ∧ ctx.command = .batchRead then requested else 0) ∧
  ∀ (i : Word) (v : Word), getResponseValue cfg ctx' i = some (.ok, some v) →
    status = .ok ∧ ctx.command = .batchRead ∧ i.toNat < requested ∧
      v = payloadValue ctx.device requested p i.toNat

theorem getResponseCount_inUse {ctx : Context} (huse : ctx.inUse = true) :
    getResponseCount ctx = ctx.count := by
  simp [getResponseCount, isAcquired, huse]

/-- Without a count, no value can be read. -/
theorem reportsDelivered_none {ctx' : Context} {status : Status} {requested : Nat} {p : List Byte}
    (hinv' : ctx'.Inv cfg) (huse' : ctx'.inUse = true) (hcount : ctx'.count = 0)
    (hno : ¬ (status = .ok ∧ ctx.command = .batchRead)) :
    ReportsDelivered cfg ctx ctx' status requested p := by
  refine ⟨?_, ?_⟩
  · rw [if_neg hno, getResponseCount_inUse huse', hcount]
  · intro i v hv
    rw [getResponseValue_spec hinv' huse', hcount, if_neg (Nat.not_lt_zero _)] at hv
    cases hv

/-- A count without a successful read shows what is in the store. -/
theorem not_reportsDelivered {ctx' : Context} {status : Status} {requested : Nat} {p : List Byte}
    (huse' : ctx'.inUse = true) (hcount : ctx'.count ≠ 0) (hstatus : status ≠ .ok) :
    ¬ ReportsDelivered cfg ctx ctx' status requested p := by
  rintro ⟨hreport, _⟩
  rw [if_neg (fun h => hstatus h.1), getResponseCount_inUse huse'] at hreport
  exact hcount hreport

/-- The values behind a successful read are those of the payload. -/
theorem pduResult_read {packet p : List Byte} (hinv : ctx.Inv cfg)
    (hp : packet.drop FX5_RESP_PDU_HEADER_SIZE = p) (hread : ctx.command = .batchRead)
    (hcode : le16At packet 0 = FX5_RESPONSE_OK) (hok : (pduResult ctx packet).status = .ok)
    {i : Nat} (hi : i < ctx.count) :
    valueAt ctx.device (pduResult ctx packet).values i = payloadValue ctx.device ctx.count p i := by
  have hinv' : { ctx with responseCode := le16At packet 0 : Context }.Inv cfg := { hinv with }
  unfold pduResult at hok ⊢
  rw [hp] at hok ⊢
  obtain ⟨values, hres, hvalues⟩ := payloadResult_ok hinv' hread hcode hok
  simp only [hres]
  exact hvalues i hi

/-- **Only delivered data is exposed, exactly if** the response is an error, or no count is
active, or the payload has the length that the active request expects. -/
theorem exposes_only_delivered_iff {es : List Event} {pool : Pool} {h : Nat}
    (hrun : Trace cfg (Pool.zero cfg) es pool) (hctx : pool[h]? = some ctx)
    (huse : ctx.inUse = true) {k : Nat} (hk : LeastViable cfg ctx.serial ctx.rxCbuffer.contents k)
    (hlimit : k ≤ FX5_RESYNC_LIMIT) {b : List Byte} (hb : ctx.rxCbuffer.contents.drop k = b)
    (hframe : CompleteFrame cfg ctx.serial b) {p : List Byte}
    (hp : (packetOf b).drop FX5_RESP_PDU_HEADER_SIZE = p) :
    ∃ status ctx', parseResponse cfg ctx = some (status, ctx') ∧
      (status = .ok ∨ status = .responseError ∨ status = .errInvalidCount) ∧
      (ReportsDelivered cfg ctx ctx' status (requestedCount h es) p ↔
        le16At (packetOf b) 0 ≠ FX5_RESPONSE_OK ∨ ctx.count = 0 ∨
          p.length = expectedPayloadLength ctx) := by
  have hpool := poolInv_zero cfg
  have hinv : ctx.Inv cfg :=
    (hrun.poolInv hpool).inv ctx (List.mem_of_getElem? hctx) huse
  have hcount : ctx.count = 0 ∨ ctx.count = requestedCount h es := by
    have hmatch := (countMatches_zero h).run hpool hrun
    rw [List.nil_append] at hmatch
    exact hmatch ctx hctx huse
  have hres := parseResponse_complete hinv huse (leastViable_iff.mp hk) hlimit hb hframe
  have hstatus := pduResult_status ctx (packetOf b)
  have hexits := pduResult_exits hinv.command hp
  have hread := pduResult_read hinv hp
  obtain ⟨r, hr⟩ : ∃ r, pduResult ctx (packetOf b) = r := ⟨_, rfl⟩
  rw [hr] at hres hstatus hexits hread
  obtain ⟨_, _, hres', hinv', huse', _, _, _, _, hdevice⟩ := parseResponse_inv hinv huse
  rw [hres] at hres'
  cases hres'
  refine ⟨_, _, hres, hstatus, ?_⟩
  rcases hexits with ⟨hcode, hstatus, hzero⟩ | ⟨hcode, hlen, hwrite, hstatus, hzero⟩ |
    ⟨hcode, hlen, hcommand, hne, hok, hsame⟩ | ⟨hcode, hbad, hstatus, hsame⟩
  · refine iff_of_true (reportsDelivered_none hinv' huse' hzero ?_) (Or.inl hcode)
    rw [hstatus]
    rintro ⟨hok, _⟩
    cases hok
  · refine iff_of_true (reportsDelivered_none hinv' huse' hzero ?_) (Or.inr (Or.inr hlen))
    rw [hwrite]
    rintro ⟨_, hcommand⟩
    cases hcommand
  · -- a read that succeeds: the count is still the requested one
    have hrequested : ctx.count = requestedCount h es := hcount.resolve_left hne
    refine iff_of_true ⟨?_, ?_⟩ (Or.inr (Or.inr hlen))
    · rw [hok, if_pos ⟨rfl, hcommand⟩, ← hrequested, getResponseCount_inUse huse']
      exact hsame
    · intro i v hv
      rw [getResponseValue_spec hinv' huse', hdevice] at hv
      simp only [PduResult.apply, hsame] at hv
      split at hv
      · rename_i hi
        cases hv
        refine ⟨hok, hcommand, hrequested ▸ hi, ?_⟩
        rw [← hrequested]
        exact hread hcommand hcode hok hi
      · cases hv
  · by_cases hzero : ctx.count = 0
    · refine iff_of_true (reportsDelivered_none hinv' huse' (hsame.trans hzero) ?_)
        (Or.inr (Or.inl hzero))
      rw [hstatus]
      rintro ⟨hok, _⟩
      cases hok
    · have hne : r.status ≠ .ok := by
        rw [hstatus]
        intro h
        cases h
      have hcount' : (r.apply (ctx.taken k (getResponseHeaderSize (magicOf b)))).count ≠ 0 := by
        show r.count ≠ 0
        rw [hsame]
        exact hzero
      refine iff_of_false (not_reportsDelivered huse' hcount' hne) ?_
      rintro (h | h | h)
      · exact h hcode
      · exact hzero h
      · exact hbad.elim hzero (fun hlen => hlen h)

/-- A read of one word is active, and a 3E frame with end code 0 and two words has arrived. -/
def rejectingCalls : List Call :=
  [.acquire, .setRequest 0 .batchRead .D 100 1,
    .feedResponseBytes 0 (some [0xD0, 0x00, 0x00, 0xFF, 0xFF, 0x03, 0x00, 0x06, 0x00, 0x00, 0x00,
      0x11, 0x11, 0x22, 0x22]) 15]

/-- The frame is rejected, and yet one value is reported: the zero that `fx5_set_request` put
into the store. -/
theorem rejected_frame_exposes_store :
    ∃ es pool ctx ctx', Trace .smallest (Pool.zero .smallest) es pool ∧
      es.map Event.call = rejectingCalls ∧ pool[0]? = some ctx ∧ ctx.inUse = true ∧
      parseResponse .smallest ctx = some (.errInvalidCount, ctx') ∧
      getResponseCount ctx' = 1 ∧ getResponseValue .smallest ctx' 0 = some (.ok, some 0) ∧
      ¬ ReportsDelivered .smallest ctx ctx' .errInvalidCount (requestedCount 0 es)
        [0x11, 0x11, 0x22, 0x22] := by
  have huse : (contextAfter .smallest rejectingCalls).inUse = true := by decide +kernel
  obtain ⟨es, pool, htrace, hcalls, hctx⟩ := trace_contextAfter huse
  have hinv := (acquired_inv (acquired_contextAfter huse)).1
  have hk : frameStart .smallest (contextAfter .smallest rejectingCalls).serial
      (contextAfter .smallest rejectingCalls).rxCbuffer.contents = 0 := by decide +kernel
  have hframe : CompleteFrame .smallest (contextAfter .smallest rejectingCalls).serial
      ((contextAfter .smallest rejectingCalls).rxCbuffer.contents.drop 0) := by decide +kernel
  have hres := parseResponse_complete hinv huse hk (by decide) rfl hframe
  have hstatus : (pduResult (contextAfter .smallest rejectingCalls) (packetOf
      ((contextAfter .smallest rejectingCalls).rxCbuffer.contents.drop 0))).status =
      .errInvalidCount := by decide +kernel
  rw [hstatus] at hres
  refine ⟨es, pool, _, _, htrace, hcalls, hctx, huse, hres, by decide +kernel, by decide +kernel, ?_⟩
  exact not_reportsDelivered huse (by decide +kernel) (by decide)

/-- A frame with one word for the same request. -/
def deliveringCalls : List Call :=
  [.acquire, .setRequest 0 .batchRead .D 100 1,
    .feedResponseBytes 0 (some [0xD0, 0x00, 0x00, 0xFF, 0xFF, 0x03, 0x00, 0x04, 0x00, 0x00, 0x00,
      0x11, 0x11]) 13]

theorem delivered_word_reported :
    ∃ es status ctx', es.map Event.call = deliveringCalls ∧
      parseResponse .smallest (contextAfter .smallest deliveringCalls) = some (status, ctx') ∧
      ReportsDelivered .smallest (contextAfter .smallest deliveringCalls) ctx' status
        (requestedCount 0 es) [0x11, 0x11] := by
  have huse : (contextAfter .smallest deliveringCalls).inUse = true := by decide +kernel
  obtain ⟨es, pool, htrace, hcalls, hctx⟩ := trace_contextAfter huse
  have hk : LeastViable .smallest (contextAfter .smallest deliveringCalls).serial
      (contextAfter .smallest deliveringCalls).rxCbuffer.contents 0 := by decide +kernel
  have hframe : CompleteFrame .smallest (contextAfter .smallest deliveringCalls).serial
      ((contextAfter .smallest deliveringCalls).rxCbuffer.contents.drop 0) := by decide +kernel
  have hp : (packetOf ((contextAfter .smallest deliveringCalls).rxCbuffer.contents.drop 0)).drop
      FX5_RESP_PDU_HEADER_SIZE = [0x11, 0x11] := by decide +kernel
  obtain ⟨status, ctx', hres, _, hiff⟩ :=
    exposes_only_delivered_iff htrace hctx huse hk (by decide) rfl hframe hp
  exact ⟨es, status, ctx', hcalls, hres, hiff.mpr (Or.inr (Or.inr (by decide +kernel)))⟩

end Exits

end Fx5
