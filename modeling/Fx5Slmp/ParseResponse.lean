import Fx5Slmp.FrameSelection
import Fx5Slmp.PayloadStage

/-!
# One call of `fx5_parse_response`

The three outcomes of a call by the least viable index of the receive buffer
(`parseResponse_resync`, `parseResponse_needMore`, `parseResponse_complete`), and what follows
for the caller:

* `parseResponse_cases` — the three together, by the answer for the selected frame
  (`frameAnswer`);
* `parseResponse_skip` — skipped bytes change nothing but their counter;
* `frameStart_garbage` — garbage without a subheader is skipped up to the frame behind it;
* `parseResponse_inv` — a call is defined and keeps the invariant.
-/

set_option autoImplicit false

namespace Fx5

open StreamScan

/-- `k` is the least viable index of `b`, or the length of `b` if no index is viable. -/
def LeastViable (cfg : Config) (serial : Nat) (b : List Byte) (k : Nat) : Prop :=
  k ≤ b.length ∧ (k < b.length → Viable cfg serial (b.drop k)) ∧
    ∀ i, i < k → ¬ Viable cfg serial (b.drop i)

instance (cfg : Config) (serial : Nat) (b : List Byte) (k : Nat) :
    Decidable (LeastViable cfg serial b k) :=
  inferInstanceAs (Decidable (_ ∧ _ ∧ ∀ i, i < k → _))

theorem leastViable_iff {cfg : Config} {serial : Nat} {b : List Byte} {k : Nat} :
    LeastViable cfg serial b k ↔ frameStart cfg serial b = k := by
  constructor
  · rintro ⟨hle, hk, hlt⟩
    exact skip_unique hle hk hlt
  · rintro rfl
    exact ⟨skip_le_length _ _, fun h => skip_holds h, fun i hi => not_of_lt_skip hi⟩

/-- The packet behind the wire header of the frame at the front. -/
def packetOf (b : List Byte) : List Byte :=
  (b.drop (getResponseHeaderSize (magicOf b))).take (packetSizeOf b)

theorem packetOf_length {cfg : Config} {serial : Nat} {b : List Byte}
    (h : CompleteFrame cfg serial b) : (packetOf b).length = packetSizeOf b := by
  have := h.2
  rw [frameSizeOf] at this
  rw [packetOf, List.length_take_of_le]
  rw [List.length_drop]
  omega

theorem packetOf_append {cfg : Config} {serial : Nat} {b : List Byte}
    (h : CompleteFrame cfg serial b) (t : List Byte) : packetOf (b ++ t) = packetOf b := by
  obtain ⟨⟨hm, hfull, _⟩, hsize⟩ := h
  rw [frameSizeOf] at hsize
  rw [packetOf, packetOf, packetSizeOf_append t hm hfull, magicOf_append t (two_le_of_magicOf hm),
    List.drop_append_of_le_length hfull, List.take_append_of_le_length]
  rw [List.length_drop]
  omega

/-- The context after a call that discarded `k` bytes of garbage and took `h` more. -/
def Context.taken (ctx : Context) (k h : Nat) : Context :=
  { ctx with resyncCounter := k, rxCbuffer := ctx.rxCbuffer.advance (k + h) }

section Call

variable {cfg : Config} {ctx : Context}

theorem Context.Inv.taken (hinv : ctx.Inv cfg) {k h : Nat}
    (hle : k + h ≤ ctx.rxCbuffer.contents.length) : (ctx.taken k h).Inv cfg :=
  hinv.advance (by rw [← hinv.ring.contents_length]; exact hle) _

theorem Context.Inv.contents_taken (hinv : ctx.Inv cfg) {k h : Nat}
    (hle : k + h ≤ ctx.rxCbuffer.contents.length) :
    (ctx.taken k h).rxCbuffer.contents = ctx.rxCbuffer.contents.drop (k + h) :=
  hinv.ring.contents_advance (by rw [← hinv.ring.contents_length]; exact hle)

theorem parseResponse_eq (huse : ctx.inUse = true) :
    parseResponse cfg ctx = parseResponseLoop cfg { ctx with resyncCounter := 0 } := by
  simp only [parseResponse, requireAcquired, huse, if_true]

theorem discard_reset (ctx : Context) (k : Nat) :
    { ctx with resyncCounter := 0 : Context }.discard k = ctx.taken k 0 := by
  simp only [Context.discard, Context.taken, Nat.zero_add, Nat.add_zero]

/-- Both loops run on the buffer as it is, with the counter at zero. -/
theorem parseResponse_exact (hinv : ctx.Inv cfg) (huse : ctx.inUse = true) {k : Nat}
    (hk : frameStart cfg ctx.serial ctx.rxCbuffer.contents = k) :
    parseResponse cfg ctx =
      if k ≤ FX5_RESYNC_LIMIT then parseFront cfg (ctx.taken k 0)
      else some (.errResync,
        ctx.taken (resyncEnd FX5_RESYNC_LIMIT ctx.rxCbuffer.contents) 0) := by
  have hinv0 : { ctx with resyncCounter := 0 : Context }.Inv cfg := { hinv with }
  have hloop := parseResponseLoop_spec hinv0 (Nat.zero_le _) hk
  simp only [Nat.zero_add, Nat.sub_zero, discard_reset] at hloop
  rw [parseResponse_eq huse, hloop]

/-- Beyond the limit the call gives up, at the place that the content alone determines. -/
theorem parseResponse_resync_exact (hinv : ctx.Inv cfg) (huse : ctx.inUse = true) {k : Nat}
    (hk : frameStart cfg ctx.serial ctx.rxCbuffer.contents = k) (hlimit : FX5_RESYNC_LIMIT < k) :
    parseResponse cfg ctx =
      some (.errResync, ctx.taken (resyncEnd FX5_RESYNC_LIMIT ctx.rxCbuffer.contents) 0) := by
  rw [parseResponse_exact hinv huse hk, if_neg (Nat.not_le_of_lt hlimit)]

theorem parseResponse_resync (hinv : ctx.Inv cfg) (huse : ctx.inUse = true) {k : Nat}
    (hk : frameStart cfg ctx.serial ctx.rxCbuffer.contents = k) (hlimit : FX5_RESYNC_LIMIT < k) :
    ∃ j, j ≤ k ∧ FX5_RESYNC_LIMIT < j ∧
      parseResponse cfg ctx = some (.errResync, ctx.taken j 0) := by
  obtain ⟨hlower, hupper⟩ := resyncEnd_bounds hk hlimit
  exact ⟨_, hupper, hlower, parseResponse_resync_exact hinv huse hk hlimit⟩

/-- Within the limit the call is the header and payload stage at the least viable index. -/
theorem parseResponse_front (hinv : ctx.Inv cfg) (huse : ctx.inUse = true) {k : Nat}
    (hk : frameStart cfg ctx.serial ctx.rxCbuffer.contents = k) (hlimit : k ≤ FX5_RESYNC_LIMIT) :
    parseResponse cfg ctx = parseFront cfg (ctx.taken k 0) := by
  rw [parseResponse_exact hinv huse hk, if_pos hlimit]

theorem parseResponse_needMore (hinv : ctx.Inv cfg) (huse : ctx.inUse = true) {k : Nat}
    (hk : frameStart cfg ctx.serial ctx.rxCbuffer.contents = k) (hlimit : k ≤ FX5_RESYNC_LIMIT)
    (h : ¬ CompleteFrame cfg ctx.serial (ctx.rxCbuffer.contents.drop k)) :
    parseResponse cfg ctx = some (.errNeedMore, ctx.taken k 0) := by
  have hle : k + 0 ≤ ctx.rxCbuffer.contents.length := hk ▸ skip_le_length _ _
  rw [parseResponse_front hinv huse hk hlimit, parseFront_not_complete]
  rw [hinv.contents_taken hle]
  exact h

/-- A complete frame at the least viable index is handed to the payload stage. -/
theorem parseResponse_payload (hinv : ctx.Inv cfg) (huse : ctx.inUse = true) {k : Nat}
    (hk : frameStart cfg ctx.serial ctx.rxCbuffer.contents = k) (hlimit : k ≤ FX5_RESYNC_LIMIT)
    {b : List Byte} (hb : ctx.rxCbuffer.contents.drop k = b) (h : CompleteFrame cfg ctx.serial b) :
    parseResponse cfg ctx =
      parseResponsePdu cfg (ctx.taken k (getResponseHeaderSize (magicOf b))) (packetSizeOf b) := by
  have hle : k + 0 ≤ ctx.rxCbuffer.contents.length := hk ▸ skip_le_length _ _
  have hcont : (ctx.taken k 0).rxCbuffer.contents = b := by
    rw [hinv.contents_taken hle]
    exact hb
  have hctx : { ctx.taken k 0 with rxCbuffer :=
      (ctx.taken k 0).rxCbuffer.advance (getResponseHeaderSize (magicOf b)) } =
      ctx.taken k (getResponseHeaderSize (magicOf b)) := by
    simp only [Context.taken, RingBuf.advance_advance, Nat.add_zero]
  have hfront : CompleteFrame cfg (ctx.taken k 0).serial b := h
  rw [parseResponse_front hinv huse hk hlimit, parseFront, hcont, if_pos hfront]
  simp only [hctx]

/-- The payload stage on a complete frame behind `k` bytes of garbage. -/
theorem parseResponsePdu_taken (hinv : ctx.Inv cfg) {k : Nat} {b : List Byte}
    (hb : ctx.rxCbuffer.contents.drop k = b) (h : CompleteFrame cfg ctx.serial b) :
    parseResponsePdu cfg (ctx.taken k (getResponseHeaderSize (magicOf b))) (packetSizeOf b) =
      some ((pduResult ctx (packetOf b)).status,
        (pduResult ctx (packetOf b)).apply (ctx.taken k (getResponseHeaderSize (magicOf b)))) := by
  have hlen : b.length = ctx.rxCbuffer.contents.length - k := by rw [← hb, List.length_drop]
  have hsize := h.2
  have htwo := two_le_of_magicOf h.1.1
  rw [frameSizeOf] at hsize
  have hle' : k + getResponseHeaderSize (magicOf b) ≤ ctx.rxCbuffer.contents.length := by omega
  have hcont : (ctx.taken k (getResponseHeaderSize (magicOf b))).rxCbuffer.contents =
      b.drop (getResponseHeaderSize (magicOf b)) := by
    rw [hinv.contents_taken hle', ← List.drop_drop, hb]
  have hpdu := parseResponsePdu_spec (hinv.taken hle') h.1.2.2.1
    (by rw [hcont, List.length_drop]; omega)
  rw [hcont] at hpdu
  exact hpdu

theorem parseResponse_complete (hinv : ctx.Inv cfg) (huse : ctx.inUse = true) {k : Nat}
    (hk : frameStart cfg ctx.serial ctx.rxCbuffer.contents = k) (hlimit : k ≤ FX5_RESYNC_LIMIT)
    {b : List Byte} (hb : ctx.rxCbuffer.contents.drop k = b) (h : CompleteFrame cfg ctx.serial b) :
    parseResponse cfg ctx = some ((pduResult ctx (packetOf b)).status,
      (pduResult ctx (packetOf b)).apply (ctx.taken k (getResponseHeaderSize (magicOf b)))) := by
  rw [parseResponse_payload hinv huse hk hlimit hb h, parseResponsePdu_taken hinv hb h]

/-- What is left in the buffer behind a frame that was handed to the payload stage. -/
theorem contents_apply_taken (hinv : ctx.Inv cfg) {k : Nat} {b : List Byte}
    (hk : k ≤ ctx.rxCbuffer.contents.length) (hb : ctx.rxCbuffer.contents.drop k = b)
    (h : CompleteFrame cfg ctx.serial b) :
    ((pduResult ctx (packetOf b)).apply
      (ctx.taken k (getResponseHeaderSize (magicOf b)))).rxCbuffer.contents =
      b.drop (getResponseHeaderSize (magicOf b) + (pduResult ctx (packetOf b)).consumed) := by
  have hlen : b.length = ctx.rxCbuffer.contents.length - k := by rw [← hb, List.length_drop]
  have hsize := h.2
  have hpacket := packetOf_length h
  have hmin := h.1.2.2.1
  have hconsumed : (pduResult ctx (packetOf b)).consumed ≤ (packetOf b).length :=
    pduResult_consumed_le (by rw [hpacket]; exact hmin)
  rw [frameSizeOf] at hsize
  have hcont := hinv.ring.contents_advance
    (k := k + getResponseHeaderSize (magicOf b) + (pduResult ctx (packetOf b)).consumed)
    (by rw [← hinv.ring.contents_length]; omega)
  simp only [PduResult.apply, Context.taken, RingBuf.advance_advance]
  rw [hcont, ← hb, List.drop_drop, Nat.add_assoc]

/-! ## The answer of a call -/

/-- What a caller can observe after a call: the status, the answer fields and the bytes left in
the buffer. -/
structure Answer where
  status : Status
  responseCode : Nat
  count : Nat
  values : List Word
  left : List Byte
  deriving DecidableEq

def answerOf (status : Status) (ctx : Context) : Answer :=
  ⟨status, ctx.responseCode, ctx.count, ctx.values, ctx.rxCbuffer.contents⟩

/-- The answer for a viable suffix `b`.  Of the context it depends on the serial number, the
active request and the old answer fields only. -/
def frameAnswer (cfg : Config) (ctx : Context) (b : List Byte) : Answer :=
  if CompleteFrame cfg ctx.serial b then
    let r := pduResult ctx (packetOf b)
    ⟨r.status, r.responseCode, r.count, r.values,
      b.drop (getResponseHeaderSize (magicOf b) + r.consumed)⟩
  else ⟨.errNeedMore, ctx.responseCode, ctx.count, ctx.values, b⟩

/-- Within the limit, the answer of a call is the answer for the least viable suffix. -/
theorem parseResponse_answer (hinv : ctx.Inv cfg) (huse : ctx.inUse = true) {k : Nat}
    (hk : frameStart cfg ctx.serial ctx.rxCbuffer.contents = k) (hlimit : k ≤ FX5_RESYNC_LIMIT) :
    ∃ status ctx', parseResponse cfg ctx = some (status, ctx') ∧
      answerOf status ctx' = frameAnswer cfg ctx (ctx.rxCbuffer.contents.drop k) := by
  have hle : k + 0 ≤ ctx.rxCbuffer.contents.length := hk ▸ skip_le_length _ _
  unfold frameAnswer
  by_cases h : CompleteFrame cfg ctx.serial (ctx.rxCbuffer.contents.drop k)
  · refine ⟨_, _, parseResponse_complete hinv huse hk hlimit rfl h, ?_⟩
    have hle0 : k ≤ ctx.rxCbuffer.contents.length := hle
    rw [if_pos h, answerOf, contents_apply_taken hinv hle0 rfl h]
    generalize pduResult ctx (packetOf (ctx.rxCbuffer.contents.drop k)) = r
    rfl
  · refine ⟨_, _, parseResponse_needMore hinv huse hk hlimit h, ?_⟩
    rw [if_neg h, answerOf, hinv.contents_taken hle]
    rfl

/-! ## Definedness and the invariant -/

theorem pduResult_status (ctx : Context) (packet : List Byte) :
    (pduResult ctx packet).status = .ok ∨ (pduResult ctx packet).status = .responseError ∨
      (pduResult ctx packet).status = .errInvalidCount := by
  unfold pduResult payloadResult
  simp only
  split
  · exact Or.inr (Or.inl rfl)
  split
  · split
    · exact Or.inl rfl
    · exact Or.inr (Or.inr rfl)
  split
  · unfold bitPayloadResult
    split
    · exact Or.inr (Or.inr rfl)
    · exact Or.inl rfl
  · unfold wordPayloadResult
    split
    · exact Or.inr (Or.inr rfl)
    split
    · exact Or.inr (Or.inr rfl)
    · exact Or.inl rfl

/-- The status for a complete frame is one of the payload stage. -/
theorem frameAnswer_status {b : List Byte} (h : CompleteFrame cfg ctx.serial b) :
    (frameAnswer cfg ctx b).status = .ok ∨ (frameAnswer cfg ctx b).status = .responseError ∨
      (frameAnswer cfg ctx b).status = .errInvalidCount := by
  rw [frameAnswer, if_pos h]
  have hstatus := pduResult_status ctx (packetOf b)
  generalize pduResult ctx (packetOf b) = r at hstatus
  exact hstatus

/-- **The outcomes of a call**: it gives up, or asks for more bytes, or answers for the complete
frame at the least viable index. -/
theorem parseResponse_cases (hinv : ctx.Inv cfg) (huse : ctx.inUse = true) {k : Nat}
    (hk : frameStart cfg ctx.serial ctx.rxCbuffer.contents = k) :
    (FX5_RESYNC_LIMIT < k ∧ ∃ j, j ≤ k ∧ FX5_RESYNC_LIMIT < j ∧
      parseResponse cfg ctx = some (.errResync, ctx.taken j 0)) ∨
    (k ≤ FX5_RESYNC_LIMIT ∧ ¬ CompleteFrame cfg ctx.serial (ctx.rxCbuffer.contents.drop k) ∧
      parseResponse cfg ctx = some (.errNeedMore, ctx.taken k 0)) ∨
    (k ≤ FX5_RESYNC_LIMIT ∧ CompleteFrame cfg ctx.serial (ctx.rxCbuffer.contents.drop k) ∧
      ∃ status ctx', parseResponse cfg ctx = some (status, ctx') ∧
        answerOf status ctx' = frameAnswer cfg ctx (ctx.rxCbuffer.contents.drop k) ∧
        (status = .ok ∨ status = .responseError ∨ status = .errInvalidCount)) := by
  rcases Nat.lt_or_ge FX5_RESYNC_LIMIT k with hlimit | hlimit
  · exact Or.inl ⟨hlimit, parseResponse_resync hinv huse hk hlimit⟩
  · by_cases hcomplete : CompleteFrame cfg ctx.serial (ctx.rxCbuffer.contents.drop k)
    · obtain ⟨status, ctx', hres, hanswer⟩ := parseResponse_answer hinv huse hk hlimit
      have hstatus := frameAnswer_status hcomplete
      rw [← hanswer] at hstatus
      exact Or.inr (Or.inr ⟨hlimit, hcomplete, status, ctx', hres, hanswer, hstatus⟩)
    · exact Or.inr (Or.inl ⟨hlimit, hcomplete, parseResponse_needMore hinv huse hk hlimit hcomplete⟩)

/-- **A call is defined and keeps the invariant**, whatever the buffer holds; it changes
neither the request fields nor the settings and serial numbers. -/
theorem parseResponse_inv (hinv : ctx.Inv cfg) (huse : ctx.inUse = true) :
    ∃ status ctx', parseResponse cfg ctx = some (status, ctx') ∧ ctx'.Inv cfg ∧
      ctx'.inUse = true ∧ ctx'.serial = ctx.serial ∧ ctx'.nextSerial = ctx.nextSerial ∧
      ctx'.networkSettings = ctx.networkSettings ∧ ctx'.command = ctx.command ∧
      ctx'.device = ctx.device := by
  obtain ⟨k, hk⟩ : ∃ k, frameStart cfg ctx.serial ctx.rxCbuffer.contents = k := ⟨_, rfl⟩
  have hle : k ≤ ctx.rxCbuffer.contents.length := hk ▸ skip_le_length _ _
  rcases Nat.lt_or_ge FX5_RESYNC_LIMIT k with hlimit | hlimit
  · obtain ⟨j, hj, _, hres⟩ := parseResponse_resync hinv huse hk hlimit
    exact ⟨_, _, hres, hinv.taken (Nat.le_trans hj hle), huse, rfl, rfl, rfl, rfl, rfl⟩
  · by_cases hcomplete : CompleteFrame cfg ctx.serial (ctx.rxCbuffer.contents.drop k)
    · have hsize := hcomplete.2
      have hmin := hcomplete.1.2.2.1
      have hlen := packetOf_length hcomplete
      rw [frameSizeOf, List.length_drop] at hsize
      have hres := parseResponse_complete hinv huse hk hlimit rfl hcomplete
      have hinv' := hinv.taken (k := k)
        (h := getResponseHeaderSize (magicOf (ctx.rxCbuffer.contents.drop k))) (by omega)
      refine ⟨_, _, hres, ?_, huse, rfl, rfl, rfl, rfl, rfl⟩
      refine pduResult_inv hinv' (by rw [hlen]; exact hmin) ?_
      rw [hlen, ← hinv'.ring.contents_length, hinv.contents_taken (by omega), List.length_drop]
      omega
    · have hres := parseResponse_needMore hinv huse hk hlimit hcomplete
      exact ⟨_, _, hres, hinv.taken hle, huse, rfl, rfl, rfl, rfl, rfl⟩

/-! ## Leading garbage -/

/-- Neither subheader occurs in `g`. -/
def NoSubheader (g : List Byte) : Prop := ∀ i, i < g.length → magicOf (g.drop i) = .unknown

instance (g : List Byte) : Decidable (NoSubheader g) :=
  inferInstanceAs (Decidable (∀ i, i < g.length → _))

/-- A viable suffix starts with the first byte of a subheader. -/
theorem Viable.head {serial : Nat} {f : List Byte} (h : Viable cfg serial f) :
    ∃ x rest, f = x :: rest ∧ (x = 0xD0#8 ∨ x = 0xD4#8) := by
  rcases h.candidate with hm | hlone
  · match f, two_le_of_magicOf hm with
    | x :: y :: rest, _ =>
      refine ⟨x, y :: rest, rfl, ?_⟩
      by_contra hx
      exact hm (magicOf_of_head (fun h => hx (Or.inl h)) (fun h => hx (Or.inr h)))
  · rcases hlone with rfl | rfl
    · exact ⟨_, [], rfl, Or.inl rfl⟩
    · exact ⟨_, [], rfl, Or.inr rfl⟩

theorem magicOf_second_ne_zero {x y : Byte} {rest : List Byte} (h : y ≠ 0x00#8) :
    magicOf (x :: y :: rest) = .unknown := by
  simp [magicOf, List.isPrefixOf, Ne.symm h]

/-- Garbage without a subheader is skipped up to the viable suffix behind it. -/
theorem frameStart_garbage {serial : Nat} {g f : List Byte} (hg : NoSubheader g)
    (hf : Viable cfg serial f) : frameStart cfg serial (g ++ f) = g.length := by
  obtain ⟨y, rest, rfl, hy⟩ := hf.head
  apply skip_unique (by simp)
  · intro _
    rw [List.drop_left]
    exact hf
  · intro i hi hv
    rw [List.drop_append_of_le_length (Nat.le_of_lt hi)] at hv
    have hlen : (g.drop i).length = g.length - i := List.length_drop
    have hmagic : magicOf (g.drop i ++ y :: rest) = .unknown := by
      rcases Nat.lt_or_ge (g.drop i).length 2 with hshort | hlong
      · obtain ⟨x, hx⟩ : ∃ x, g.drop i = [x] := List.length_eq_one_iff.mp (by omega)
        rw [hx]
        apply magicOf_second_ne_zero
        rcases hy with rfl | rfl <;> decide
      · rw [magicOf_append _ hlong]
        exact hg i hi
    rcases hv with h | h | h
    · rcases h with h | h <;>
      · have := congrArg List.length h
        simp only [List.length_append, List.length_cons, List.length_nil] at this
        omega
    · exact h.1 hmagic
    · exact h.1 hmagic

/-- Skipping `k` bytes and parsing what is left differs only in the counter of skipped
bytes. -/
theorem parseResponse_skip (hinv : ctx.Inv cfg) (huse : ctx.inUse = true) {k : Nat}
    (hk : frameStart cfg ctx.serial ctx.rxCbuffer.contents = k) (hlimit : k ≤ FX5_RESYNC_LIMIT)
    {ctx₀ : Context} (hctx₀ : ctx₀ = { ctx with rxCbuffer := ctx.rxCbuffer.advance k }) :
    ∃ status ctx', parseResponse cfg ctx₀ = some (status, ctx') ∧
      parseResponse cfg ctx = some (status, { ctx' with resyncCounter := k }) := by
  have hle : k ≤ ctx.rxCbuffer.contents.length := hk ▸ skip_le_length _ _
  have hle' : k ≤ ctx.rxCbuffer.size := by rw [← hinv.ring.contents_length]; exact hle
  have hinv₀ : ctx₀.Inv cfg := hctx₀ ▸ hinv.advance hle' ctx.resyncCounter
  have huse₀ : ctx₀.inUse = true := hctx₀ ▸ huse
  have hserial : ctx₀.serial = ctx.serial := by rw [hctx₀]
  have hcont : ctx₀.rxCbuffer.contents = ctx.rxCbuffer.contents.drop k := by
    rw [hctx₀]
    exact hinv.ring.contents_advance hle'
  have htaken : ∀ h, ctx.taken k h = { ctx₀.taken 0 h with resyncCounter := k } := by
    intro h
    simp only [Context.taken, hctx₀, RingBuf.advance_advance, Nat.zero_add]
  have hstart : frameStart cfg ctx₀.serial ctx₀.rxCbuffer.contents = 0 := by
    rw [hcont, hserial, frameStart_drop hk (Nat.le_refl k), Nat.sub_self]
  by_cases hcomplete : CompleteFrame cfg ctx.serial (ctx.rxCbuffer.contents.drop k)
  · refine ⟨_, _, parseResponse_complete hinv₀ huse₀ hstart (Nat.zero_le _) rfl ?_, ?_⟩
    · rw [List.drop_zero, hcont, hserial]
      exact hcomplete
    · have hpdu : ∀ packet, pduResult ctx₀ packet = pduResult ctx packet := by
        intro packet
        rw [hctx₀]
        rfl
      rw [parseResponse_complete hinv huse hk hlimit rfl hcomplete, htaken, List.drop_zero, hcont,
        hpdu]
      rfl
  · refine ⟨_, _, parseResponse_needMore hinv₀ huse₀ hstart (Nat.zero_le _) ?_, ?_⟩
    · rw [List.drop_zero, hcont, hserial]
      exact hcomplete
    · rw [parseResponse_needMore hinv huse hk hlimit hcomplete, htaken]

end Call

end Fx5
