import Fx5Slmp.ResponseDecoding

/-!
# A late response in front of the expected one

After a timeout the response to an earlier request may still arrive.  Its serial number does
not match, so the header stage rejects it; but what the parser then discards is one byte and
not the frame, and the scan goes on inside the stale frame.

* `parseRepeatedly_skip` — calling again after every `FX5_ST_ERR_RESYNC` amounts to skipping to
  the least viable index and parsing once;
* `stale_response_skipped_iff` — the stale frame is skipped, and the expected one decoded,
  exactly when no accepted header starts inside the stale frame;
* `stale_response_is_consumed` — a stale frame with an accepted header inside.
-/

set_option autoImplicit false

namespace Fx5

open StreamScan

/-- Call `fx5_parse_response` again after every `FX5_ST_ERR_RESYNC`, at most `fuel` times.  The
first component is the number of bytes that were skipped in front of what the last call
selected. -/
def parseRepeatedly (cfg : Config) : Nat → Context → Option (Nat × Status × Context)
  | 0, _ => none
  | fuel + 1, ctx =>
    match parseResponse cfg ctx with
    | none => none
    | some (status, ctx') =>
      if status = .errResync then
        (parseRepeatedly cfg fuel ctx').map fun r => (ctx'.resyncCounter + r.1, r.2)
      else some (ctx'.resyncCounter, status, ctx')

section Repeated

variable {cfg : Config} {ctx : Context}

/-- A call starts with resetting the counter of skipped bytes. -/
theorem parseResponse_counter (huse : ctx.inUse = true) (c : Nat) :
    parseResponse cfg { ctx with resyncCounter := c } = parseResponse cfg ctx := by
  have huse' : { ctx with resyncCounter := c : Context }.inUse = true := huse
  rw [parseResponse_eq huse, parseResponse_eq huse']

/-- **Repeated calls** skip to the least viable index and parse what follows, however many
calls that takes. -/
theorem parseRepeatedly_skip (hinv : ctx.Inv cfg) (huse : ctx.inUse = true) {k : Nat}
    (hk : frameStart cfg ctx.serial ctx.rxCbuffer.contents = k) {fuel : Nat}
    (hfuel : ctx.rxCbuffer.contents.length < fuel) :
    ∃ status ctx' c,
      parseResponse cfg { ctx with rxCbuffer := ctx.rxCbuffer.advance k } = some (status, ctx') ∧
      parseRepeatedly cfg fuel ctx = some (k, status, { ctx' with resyncCounter := c }) := by
  induction fuel generalizing ctx k with
  | zero => exact absurd hfuel (Nat.not_lt_zero _)
  | succ fuel ih =>
    have hle : k ≤ ctx.rxCbuffer.contents.length := hk ▸ skip_le_length _ _
    rcases Nat.lt_or_ge FX5_RESYNC_LIMIT k with hlimit | hlimit
    · -- the call gives up after `j` bytes; the next one continues there
      obtain ⟨j, hjk, hjlimit, hres⟩ := parseResponse_resync hinv huse hk hlimit
      have hjle : j + 0 ≤ ctx.rxCbuffer.contents.length := Nat.le_trans hjk hle
      have hcont := hinv.contents_taken hjle
      have hstart : frameStart cfg (ctx.taken j 0).serial (ctx.taken j 0).rxCbuffer.contents =
          k - j := by
        rw [hcont]
        exact frameStart_drop hk hjk
      have hlimit64 : FX5_RESYNC_LIMIT = 64 := rfl
      have hshort : (ctx.taken j 0).rxCbuffer.contents.length < fuel := by
        rw [hcont, List.length_drop]
        omega
      obtain ⟨status, ctx', c, hparse, hrun⟩ := ih (hinv.taken hjle) huse hstart hshort
      obtain ⟨ctx₀, hctx₀⟩ : ∃ ctx₀, ctx₀ = { ctx with rxCbuffer := ctx.rxCbuffer.advance k } :=
        ⟨_, rfl⟩
      have huse₀ : ctx₀.inUse = true := hctx₀ ▸ huse
      have hsame : { ctx.taken j 0 with
          rxCbuffer := (ctx.taken j 0).rxCbuffer.advance (k - j) } =
          { ctx₀ with resyncCounter := j } := by
        simp only [hctx₀, Context.taken, RingBuf.advance_advance, Nat.add_zero,
          Nat.add_sub_cancel' hjk]
      rw [hsame, parseResponse_counter huse₀, hctx₀] at hparse
      refine ⟨status, ctx', c, hparse, ?_⟩
      have hsum : (ctx.taken j 0).resyncCounter + (k - j) = k := Nat.add_sub_cancel' hjk
      rw [parseRepeatedly, hres]
      simp only [if_true, hrun, Option.map_some, hsum]
    · -- the call decides
      obtain ⟨status, ctx', hparse, hres⟩ := parseResponse_skip hinv huse hk hlimit rfl
      have hstatus : status ≠ .errResync := by
        rintro rfl
        rcases parseResponse_cases hinv huse hk with
          ⟨hover, _⟩ | ⟨_, _, hmore⟩ | ⟨_, _, _, _, hdone, _, hdone'⟩
        · omega
        · rw [hres] at hmore
          cases hmore
        · rw [hres] at hdone
          cases hdone
          rcases hdone' with h | h | h <;> cases h
      refine ⟨status, ctx', k, hparse, ?_⟩
      rw [parseRepeatedly, hres]
      simp only [if_neg hstatus]

end Repeated

/-! ## The stale frame -/

section Stale

variable {cfg : Config} {ctx : Context}

/-- The least viable index of a stale frame followed by the expected one is the start of the
expected one exactly when no accepted header starts before it. -/
theorem frameStart_stale_iff {serial : Nat} {stale F : List Byte} (hF : IsFrame cfg serial F)
    (hlong : 13 ≤ F.length) :
    frameStart cfg serial (stale ++ F) = stale.length ↔
      ∀ i, i < stale.length → ¬ AcceptedHeader cfg serial ((stale ++ F).drop i) := by
  constructor
  · intro hstart i hi hacc
    have hnot : ¬ Viable cfg serial ((stale ++ F).drop i) :=
      not_of_lt_skip (by rw [← frameStart, hstart]; exact hi)
    exact hnot (Or.inr (Or.inr hacc))
  · intro hnone
    apply skip_unique
    · rw [List.length_append]
      exact Nat.le_add_right _ _
    · intro _
      rw [List.drop_left]
      exact Or.inr (Or.inr hF.1)
    · intro i hi hv
      -- no header is cut off by the end of the buffer, since the expected frame follows
      have hlen : ((stale ++ F).drop i).length = stale.length - i + F.length := by
        rw [List.length_drop, List.length_append]
        omega
      rcases hv with hlone | hpart | hacc
      · rcases hlone with h | h <;> rw [h] at hlen <;> simp at hlen <;> omega
      · have hshort := hpart.2
        have hbounds := headerSize_bounds (magicOf ((stale ++ F).drop i))
        omega
      · exact hnone i hi hacc

/-- A 4E response to another request is not accepted. -/
theorem stale_header_rejected {own serial endCode : Nat} {r : Routing} {payload : List Byte}
    (hserial : serial < 65536) (hne : serial ≠ own) (t : List Byte) :
    ¬ AcceptedHeader cfg own (responseFrame .h4E serial r endCode payload ++ t) := by
  intro hacc
  have hlen : (responseFrame .h4E serial r endCode payload).length = _ := responseFrame_length
  have hlong : 13 ≤ (responseFrame .h4E serial r endCode payload).length := by
    rw [hlen]
    exact Nat.le_add_right 13 _
  have hmagic : magicOf (responseFrame .h4E serial r endCode payload) = .h4E :=
    responseFrame_magic (Or.inr rfl)
  have hfield := hacc.2.2.2.2 (by rw [magicOf_append t (by omega), hmagic])
  rw [le16At_append t (Nat.le_trans (by decide) hlong), responseFrame_serial hserial] at hfield
  exact hne hfield

/-- **A late response is skipped and the expected one decoded exactly when no accepted header
starts inside the late one.**  The calls before the last one only give up (`parseRepeatedly`),
the last one selects the frame behind the late one, answers OK and stores its values. -/
theorem stale_response_skipped_iff (hctx : Acquired cfg ctx) (hread : ctx.command = .batchRead)
    (hcount : ctx.count ≠ 0) {serial endCode : Nat} (hserial : serial < 65536)
    (hne : serial ≠ ctx.serial) {r r' : Routing} {payload : List Byte} {v : Payload}
    (hv : v.Matches ctx.device ctx.count) {stale F : List Byte}
    (hstale : stale = responseFrame .h4E serial r endCode payload)
    (hF : F = responseFrame .h4E ctx.serial r' FX5_RESPONSE_OK v.encode)
    (hcont : ctx.rxCbuffer.contents = stale ++ F) {fuel : Nat}
    (hfuel : ctx.rxCbuffer.contents.length < fuel) :
    (∃ ctx', parseRepeatedly cfg fuel ctx = some (stale.length, .ok, ctx') ∧
      ctx'.rxCbuffer.contents = [] ∧ getResponseCount ctx' = ctx.count ∧
      ∀ i : Word, i.toNat < ctx.count →
        getResponseValue cfg ctx' i = some (.ok, some (v.value i.toNat))) ↔
    ∀ i, 0 < i → i < stale.length → ¬ AcceptedHeader cfg ctx.serial ((stale ++ F).drop i) := by
  obtain ⟨hinv, huse⟩ := acquired_inv hctx
  have hlen := hinv.contents_length_le
  have hFlen : F.length = 13 + (2 + v.encode.length) := by
    rw [hF]
    exact responseFrame_length
  rw [hcont, List.length_append] at hlen
  have hframe : IsFrame cfg ctx.serial F := by
    rw [hF]
    exact responseFrame_isFrame (Or.inr rfl) hinv.serial (by
      rw [FX5_RESP_PDU_HEADER_SIZE]
      omega)
  obtain ⟨k, hk⟩ : ∃ k, frameStart cfg ctx.serial ctx.rxCbuffer.contents = k := ⟨_, rfl⟩
  obtain ⟨status, ctx₁, c, hparse, hrun⟩ := parseRepeatedly_skip hinv huse hk hfuel
  rw [hcont] at hk
  constructor
  · rintro ⟨ctx', hres, -⟩ i _ hi
    rw [hrun] at hres
    have hskipped := (Prod.mk.inj (Option.some.inj hres)).1
    exact (frameStart_stale_iff hframe (by omega)).mp (hk.trans hskipped) i hi
  · intro hnone
    have hstart : frameStart cfg ctx.serial (stale ++ F) = stale.length := by
      rw [frameStart_stale_iff hframe (by omega)]
      intro i hi
      rcases Nat.eq_zero_or_pos i with rfl | hpos
      · rw [hstale]
        exact stale_header_rejected hserial hne F
      · exact hnone i hpos hi
    obtain rfl : k = stale.length := hk.symm.trans hstart
    -- what is parsed in the end is the expected frame alone
    have hle : stale.length ≤ ctx.rxCbuffer.size := by
      rw [← hinv.ring.contents_length, hcont, List.length_append]
      exact Nat.le_add_right _ _
    obtain ⟨ctx₀, hctx₀⟩ : ∃ ctx₀, ctx₀ =
        { ctx with rxCbuffer := ctx.rxCbuffer.advance stale.length } := ⟨_, rfl⟩
    have hinv₀ : ctx₀.Inv cfg := hctx₀ ▸ hinv.advance hle ctx.resyncCounter
    have huse₀ : ctx₀.inUse = true := hctx₀ ▸ huse
    have hcont₀ : ctx₀.rxCbuffer.contents = F ++ [] := by
      rw [hctx₀, hinv.ring.contents_advance hle, hcont, List.drop_left, List.append_nil]
    have hdevice₀ : ctx₀.device = ctx.device := by rw [hctx₀]
    have hcount₀ : ctx₀.count = ctx.count := by rw [hctx₀]
    have hv₀ : v.Matches ctx₀.device ctx₀.count := by
      rw [hdevice₀, hcount₀]
      exact hv
    obtain ⟨ctx₂, hparse₂, hleft, hshows⟩ := parseResponse_shows hinv₀ huse₀
      (Or.inr rfl) (by rw [hctx₀]; exact hread) (by rw [hcount₀]; exact hcount) hv₀
      (by rw [FX5_RESP_PDU_HEADER_SIZE]; omega)
      (by rw [hcont₀, hF, hctx₀])
    rw [← hctx₀, hparse₂] at hparse
    cases hparse
    obtain ⟨_, hcnt, hvalues⟩ := hshows c
    rw [hcount₀] at hcnt hvalues
    refine ⟨_, hrun, hleft, hcnt, ?_⟩
    intro i hi
    rw [hvalues i, if_pos hi]

/-! ## A stale frame that is consumed -/

/-- The late response to a read of one word with serial number 0xD0. -/
def staleFrame : List Byte := responseFrame .h4E 0xD0 .default 0 (Payload.words [0x1111]).encode

/-- The response to the next read. -/
def expectedFrame : List Byte := responseFrame .h4E 0xD1 .default 0 (Payload.words [0x2222]).encode

/-- Of 210 reads of one word the last two are answered, both late. -/
def lateCalls : List Call :=
  [.acquire, .setRequest 0 .batchRead .D 100 1] ++
    List.replicate 210 (.buildRequest 0 (some (List.replicate 49 0x00)) 49 (some 0)) ++
    [.feedResponseBytes 0 (some (staleFrame ++ expectedFrame)) 34]

/-- The context these calls lead to. -/
def staleContext : Context :=
  { Context.zero .smallest with
    inUse := true
    networkSettings := networkSettingsInit
    nextSerial := 0xD2
    serial := 0xD1
    device := .D
    command := .batchRead
    address := 100
    count := 1
    rxCbuffer := ⟨staleFrame ++ expectedFrame ++ List.replicate 15 0x00, 49, 34, 0, 34⟩ }

theorem staleContext_acquired : Acquired .smallest staleContext := by
  have hreach : contextAfter .smallest lateCalls = staleContext := by decide +kernel
  rw [← hreach]
  exact acquired_contextAfter (by rw [hreach]; rfl)

/-- The serial number 0xD0 and the default routing bytes read as a 3E header that announces
three bytes, and the call reports the end code found there. -/
theorem stale_response_is_consumed :
    ¬ ∀ (cfg : Config) (ctx : Context) (serial endCode : Nat) (r r' : Routing)
      (payload : List Byte) (v : Payload) (fuel : Nat),
      Acquired cfg ctx → ctx.command = .batchRead → ctx.count ≠ 0 → serial < 65536 →
      serial ≠ ctx.serial → v.Matches ctx.device ctx.count →
      ctx.rxCbuffer.contents = responseFrame .h4E serial r endCode payload ++
        responseFrame .h4E ctx.serial r' FX5_RESPONSE_OK v.encode →
      ctx.rxCbuffer.contents.length < fuel →
      ∃ skipped ctx', parseRepeatedly cfg fuel ctx = some (skipped, .ok, ctx') := by
  intro hall
  obtain ⟨skipped, ctx', hrun⟩ := hall .smallest staleContext 0xD0 0 .default .default
    (Payload.words [0x1111]).encode (.words [0x2222]) 35 staleContext_acquired
    (by decide +kernel) (by decide +kernel) (by decide) (by decide +kernel) (by decide +kernel)
    (by decide +kernel) (by decide +kernel)
  have hreal : (parseRepeatedly .smallest 35 staleContext).map (fun r => (r.1, r.2.1)) =
      some (2, .responseError) := by decide +kernel
  rw [hrun] at hreal
  cases hreal

/-- The responses to the first two reads. -/
def firstFrame : List Byte := responseFrame .h4E 0 .default 0 (Payload.words [0x1111]).encode

def secondFrame : List Byte := responseFrame .h4E 1 .default 0 (Payload.words [0x2222]).encode

def skippedContext : Context :=
  contextAfter .smallest
    [.acquire, .setRequest 0 .batchRead .D 100 1,
      .buildRequest 0 (some (List.replicate 49 0x00)) 49 (some 0),
      .buildRequest 0 (some (List.replicate 49 0x00)) 49 (some 0),
      .feedResponseBytes 0 (some (firstFrame ++ secondFrame)) 34]

theorem first_response_skipped :
    ∃ ctx', parseRepeatedly .smallest 35 skippedContext = some (firstFrame.length, .ok, ctx') ∧
      getResponseValue .smallest ctx' 0 = some (.ok, some 0x2222) := by
  have hctx : Acquired .smallest skippedContext := acquired_contextAfter (by decide +kernel)
  have hne : 0 ≠ skippedContext.serial := by decide +kernel
  have hv : (Payload.words [0x2222]).Matches skippedContext.device skippedContext.count := by
    decide +kernel
  have hstale : firstFrame = responseFrame .h4E 0 .default 0 (Payload.words [0x1111]).encode := rfl
  have hF : secondFrame =
      responseFrame .h4E skippedContext.serial .default FX5_RESPONSE_OK
        (Payload.words [0x2222]).encode := by decide +kernel
  have hcont : skippedContext.rxCbuffer.contents = firstFrame ++ secondFrame := by decide +kernel
  have hfuel : skippedContext.rxCbuffer.contents.length < 35 := by decide +kernel
  have hnone : ∀ i, i < firstFrame.length →
      ¬ AcceptedHeader .smallest skippedContext.serial ((firstFrame ++ secondFrame).drop i) := by
    decide +kernel
  obtain ⟨ctx', hrun, _, _, hvalues⟩ :=
    (stale_response_skipped_iff hctx (by decide +kernel) (by decide +kernel) (by decide) hne hv
      hstale hF hcont hfuel).mpr fun i _ hi => hnone i hi
  refine ⟨ctx', hrun, ?_⟩
  rw [hvalues 0 (by decide +kernel)]
  rfl

end Stale

end Fx5
