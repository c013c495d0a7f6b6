import Fx5Slmp.Core
import Fx5Slmp.Lib.StreamScan

/-!
# Which frame the parser selects

The two nested loops of `fx5_parse_response` (the scan for a subheader in `fx5_try_resync`,
and the header validation around it) amount to one search: the least index of the receive
buffer whose suffix is *viable*, that is, is the start of a frame the header stage accepts,
or may still become one when more bytes arrive.

* `Viable`, `frameStart` — the declarative search;
* `viable_persistent` — a suffix that is not viable never becomes viable;
* `tryResync_spec` — the inner loop is a search for the subheader;
* `parseResponseTurn_spec` — one turn of the outer loop by the first candidate;
* `parseResponseLoop_spec` — both loops together are the search for a viable suffix, with the
  discard limit tested on the way.
-/

set_option autoImplicit false

namespace Fx5

open StreamScan

/-! ## Headers in a byte string -/

/-- The header type that the first two bytes announce. -/
def magicOf (b : List Byte) : HeaderType :=
  if [0xD4#8, 0x00#8].isPrefixOf b then .h4E
  else if [0xD0#8, 0x00#8].isPrefixOf b then .h3E
  else .unknown

/-- The length field of the header at the front. -/
def packetSizeOf (b : List Byte) : Nat :=
  le16At b (if magicOf b = .h4E then FX5_PACKET_SIZE_OFFSET_4E else FX5_PACKET_SIZE_OFFSET_3E)

/-- Wire header and packet of the frame announced at the front. -/
def frameSizeOf (b : List Byte) : Nat := getResponseHeaderSize (magicOf b) + packetSizeOf b

/-- A single last byte that may be the first of a subheader. -/
def LoneMagicByte (b : List Byte) : Prop := b = [0xD0#8] ∨ b = [0xD4#8]

/-- A subheader followed by less than a whole wire header. -/
def PartialHeader (b : List Byte) : Prop :=
  magicOf b ≠ .unknown ∧ b.length < getResponseHeaderSize (magicOf b)

/-- A complete wire header that the header stage accepts. -/
def AcceptedHeader (cfg : Config) (serial : Nat) (b : List Byte) : Prop :=
  magicOf b ≠ .unknown ∧ getResponseHeaderSize (magicOf b) ≤ b.length ∧
    FX5_RESP_PDU_HEADER_SIZE ≤ packetSizeOf b ∧ packetSizeOf b ≤ FX5_IOBUF_SIZE cfg ∧
    (magicOf b = .h4E → le16At b FX5_SERIAL_OFFSET_4E = serial)

def Viable (cfg : Config) (serial : Nat) (b : List Byte) : Prop :=
  LoneMagicByte b ∨ PartialHeader b ∨ AcceptedHeader cfg serial b

/-- An accepted header with all the bytes it announces. -/
def CompleteFrame (cfg : Config) (serial : Nat) (b : List Byte) : Prop :=
  AcceptedHeader cfg serial b ∧ frameSizeOf b ≤ b.length

instance (b : List Byte) : Decidable (LoneMagicByte b) :=
  inferInstanceAs (Decidable (_ ∨ _))

instance (b : List Byte) : Decidable (PartialHeader b) :=
  inferInstanceAs (Decidable (_ ∧ _))

instance (cfg : Config) (serial : Nat) (b : List Byte) : Decidable (AcceptedHeader cfg serial b) :=
  inferInstanceAs (Decidable (_ ∧ _))

instance (cfg : Config) (serial : Nat) (b : List Byte) : Decidable (Viable cfg serial b) :=
  inferInstanceAs (Decidable (_ ∨ _))

instance (cfg : Config) (serial : Nat) (b : List Byte) : Decidable (CompleteFrame cfg serial b) :=
  inferInstanceAs (Decidable (_ ∧ _))

/-- The least index with a viable suffix, or the length. -/
def frameStart (cfg : Config) (serial : Nat) (b : List Byte) : Nat := skip (Viable cfg serial) b

theorem headerSize_bounds (t : HeaderType) :
    9 ≤ getResponseHeaderSize t ∧ getResponseHeaderSize t ≤ 13 := by
  unfold getResponseHeaderSize
  split <;> decide

/-! ### The subheader -/

theorem magicOf_cases (b : List Byte) :
    magicOf b = .h4E ∨ magicOf b = .h3E ∨ magicOf b = .unknown := by
  unfold magicOf
  split
  · exact Or.inl rfl
  · split
    · exact Or.inr (Or.inl rfl)
    · exact Or.inr (Or.inr rfl)

theorem magicOf_short {b : List Byte} (h : b.length < 2) : magicOf b = .unknown := by
  match b, h with
  | [], _ => rfl
  | [x], _ => simp [magicOf, List.isPrefixOf]

theorem two_le_of_magicOf {b : List Byte} (h : magicOf b ≠ .unknown) : 2 ≤ b.length :=
  Nat.le_of_not_lt fun hlt => h (magicOf_short hlt)

theorem magicOf_append {b : List Byte} (t : List Byte) (h : 2 ≤ b.length) :
    magicOf (b ++ t) = magicOf b := by
  match b, h with
  | x :: y :: rest, _ => simp [magicOf, List.isPrefixOf]

/-- Comparing the 16-bit number of the first two bytes is comparing the bytes. -/
theorem le16At_zero_eq {x y : Byte} {rest : List Byte} {n : Nat} (hn : n < 256) :
    le16At (x :: y :: rest) 0 = n ↔ x = BitVec.ofNat 8 n ∧ y = 0x00#8 := by
  have hx := x.isLt
  simp only [le16At, List.getD_cons_zero, List.getD_cons_succ, BitVec.toNat_eq, BitVec.toNat_ofNat]
  omega

theorem magicOf_eq_le16At {b : List Byte} (h : 2 ≤ b.length) :
    magicOf b =
      if le16At b 0 = FX5_TCP_RESPONSE_SUBHEADER_4E_BINARY then .h4E
      else if le16At b 0 = FX5_TCP_RESPONSE_SUBHEADER_3E_BINARY then .h3E
      else .unknown := by
  match b, h with
  | x :: y :: rest, _ =>
    have h4 : le16At (x :: y :: rest) 0 = 0xD4 ↔ x = 0xD4#8 ∧ y = 0x00#8 :=
      le16At_zero_eq (by decide)
    have h3 : le16At (x :: y :: rest) 0 = 0xD0 ↔ x = 0xD0#8 ∧ y = 0x00#8 :=
      le16At_zero_eq (by decide)
    simp only [FX5_TCP_RESPONSE_SUBHEADER_4E_BINARY, FX5_TCP_RESPONSE_SUBHEADER_3E_BINARY, h4, h3]
    simp only [magicOf, List.isPrefixOf, Bool.and_true, Bool.and_eq_true, beq_iff_eq,
      eq_comm (b := x), eq_comm (b := y)]

/-- A byte that is no subheader byte starts nothing viable. -/
theorem magicOf_of_head {x : Byte} {rest : List Byte} (h0 : x ≠ 0xD0#8) (h4 : x ≠ 0xD4#8) :
    magicOf (x :: rest) = .unknown := by
  cases rest with
  | nil => exact magicOf_short (by simp)
  | cons y rest => simp [magicOf, List.isPrefixOf, Ne.symm h0, Ne.symm h4]

/-! ### Rejection is final -/

section Persistence

variable {cfg : Config} {serial : Nat} {b : List Byte}

theorem packetSizeOf_append (t : List Byte) (hm : magicOf b ≠ .unknown)
    (h : getResponseHeaderSize (magicOf b) ≤ b.length) :
    packetSizeOf (b ++ t) = packetSizeOf b := by
  unfold packetSizeOf
  rw [magicOf_append t (two_le_of_magicOf hm)]
  apply le16At_append
  unfold getResponseHeaderSize at h
  split at h <;> rename_i h4
  · rw [if_pos h4]
    exact h
  · rw [if_neg h4]
    exact h

theorem acceptedHeader_append (t : List Byte) (hm : magicOf b ≠ .unknown)
    (h : getResponseHeaderSize (magicOf b) ≤ b.length) :
    AcceptedHeader cfg serial (b ++ t) ↔ AcceptedHeader cfg serial b := by
  have h2 := two_le_of_magicOf hm
  unfold AcceptedHeader
  rw [packetSizeOf_append t hm h, magicOf_append t h2, List.length_append]
  have hserial : magicOf b = .h4E →
      le16At (b ++ t) FX5_SERIAL_OFFSET_4E = le16At b FX5_SERIAL_OFFSET_4E := by
    intro h4
    rw [h4] at h
    exact le16At_append t (Nat.le_trans (by decide) h)
  constructor
  · rintro ⟨h1, _, h3, h4, h5⟩
    exact ⟨h1, h, h3, h4, fun hh => (hserial hh).symm.trans (h5 hh)⟩
  · rintro ⟨h1, h2, h3, h4, h5⟩
    exact ⟨h1, by omega, h3, h4, fun hh => (hserial hh).trans (h5 hh)⟩

theorem AcceptedHeader.append (h : AcceptedHeader cfg serial b) (t : List Byte) :
    AcceptedHeader cfg serial (b ++ t) :=
  (acceptedHeader_append t h.1 h.2.1).mpr h

theorem frameSizeOf_append (h : AcceptedHeader cfg serial b) (t : List Byte) :
    frameSizeOf (b ++ t) = frameSizeOf b := by
  unfold frameSizeOf
  rw [packetSizeOf_append t h.1 h.2.1, magicOf_append t (two_le_of_magicOf h.1)]

theorem CompleteFrame.append (h : CompleteFrame cfg serial b) (t : List Byte) :
    CompleteFrame cfg serial (b ++ t) := by
  refine ⟨h.1.append t, ?_⟩
  rw [frameSizeOf_append h.1 t, List.length_append]
  exact Nat.le_trans h.2 (Nat.le_add_right _ _)

/-- **A suffix that is not viable never becomes viable.** -/
theorem viable_persistent (cfg : Config) (serial : Nat) : Persistent (Viable cfg serial) := by
  intro b t hne hb hbt
  have hlone : ¬ LoneMagicByte b := fun h => hb (Or.inl h)
  rcases Nat.lt_or_ge b.length 2 with hlen | hlen
  · obtain ⟨x, rfl⟩ : ∃ x, b = [x] := by
      match b, hne, hlen with
      | [x], _, _ => exact ⟨x, rfl⟩
    have hx0 : x ≠ 0xD0#8 := fun h => hlone (Or.inl (by rw [h]))
    have hx4 : x ≠ 0xD4#8 := fun h => hlone (Or.inr (by rw [h]))
    have hm : magicOf ([x] ++ t) = .unknown := magicOf_of_head hx0 hx4
    rcases hbt with h | h | h
    · rcases h with h | h <;> simp only [List.cons_append, List.nil_append, List.cons.injEq] at h
      · exact hx0 h.1
      · exact hx4 h.1
    · exact h.1 hm
    · exact h.1 hm
  · have hm := magicOf_append t hlen
    rcases hbt with h | h | h
    · rcases h with h | h <;>
      · have := congrArg List.length h
        simp at this
        omega
    · refine hb (Or.inr (Or.inl ⟨hm ▸ h.1, ?_⟩))
      have := h.2
      rw [hm, List.length_append] at this
      omega
    · have hmb : magicOf b ≠ .unknown := hm ▸ h.1
      have hfull : getResponseHeaderSize (magicOf b) ≤ b.length :=
        Nat.le_of_not_lt fun hlt => hb (Or.inr (Or.inl ⟨hmb, hlt⟩))
      exact hb (Or.inr (Or.inr ((acceptedHeader_append t hmb hfull).mp h)))

end Persistence

/-- Scanning what is left after a part of the scan. -/
theorem frameStart_drop {cfg : Config} {serial : Nat} {b : List Byte} {j k : Nat}
    (hk : frameStart cfg serial b = k) (hj : j ≤ k) : frameStart cfg serial (b.drop j) = k - j := by
  rw [← hk] at hj ⊢
  exact skip_drop hj

/-- The scan goes on where it stopped when more bytes arrive. -/
theorem frameStart_append (cfg : Config) (serial : Nat) (b t : List Byte) :
    frameStart cfg serial (b ++ t) = frameStart cfg serial b +
      frameStart cfg serial (b.drop (frameStart cfg serial b) ++ t) :=
  skip_append (viable_persistent cfg serial) b t

/-! ## The inner loop -/

/-- What stops the scan of `fx5_try_resync`. -/
def Candidate (b : List Byte) : Prop := magicOf b ≠ .unknown ∨ LoneMagicByte b

instance (b : List Byte) : Decidable (Candidate b) := inferInstanceAs (Decidable (_ ∨ _))

theorem Viable.candidate {cfg : Config} {serial : Nat} {b : List Byte} (h : Viable cfg serial b) :
    Candidate b := by
  rcases h with h | h | h
  · exact Or.inr h
  · exact Or.inl h.1
  · exact Or.inl h.1

theorem detectResponseHeader_spec {rb : RingBuf} (hinv : rb.Inv) (hfit : rb.tail + 1 < 65536) :
    detectResponseHeader rb = some (magicOf rb.contents) := by
  have hlen := hinv.contents_length
  unfold detectResponseHeader ringbufSize
  split
  · rw [magicOf_short (by omega)]
  · rw [pduPeekcU16Le_spec hinv (by simp only [FX5_MAGIC_NUMBER_OFFSET]; omega),
      magicOf_eq_le16At (by omega), FX5_MAGIC_NUMBER_OFFSET]
    simp only [Option.bind_eq_bind, Option.bind_some]
    split
    · rfl
    · split <;> rfl

/-- **The scan for a subheader** discards exactly the bytes in front of the first candidate and
counts them. -/
theorem tryResync_spec {rb : RingBuf} (hinv : rb.Inv) (hcap : rb.capacity ≤ 65000) :
    ∀ {d : Nat}, d + rb.size < 65536 →
      tryResync rb d =
        some (magicOf (rb.contents.drop (skip Candidate rb.contents)),
          rb.advance (skip Candidate rb.contents), d + skip Candidate rb.contents) := by
  obtain ⟨n, hn⟩ : ∃ n, n = rb.size := ⟨_, rfl⟩
  induction n generalizing rb with
  | zero =>
    intro d _
    have hnil : rb.contents = [] := by
      rw [← List.length_eq_zero_iff, hinv.contents_length, ← hn]
    have hrs : ringbufSize rb = 0 := hn.symm
    rw [tryResync, dif_neg (by omega), if_neg (by omega), hnil, skip, hinv.advance_zero]
    rfl
  | succ n ih =>
    intro d hd
    have htail := hinv.tail_lt
    have hlen := hinv.contents_length
    have hdrop1 : ringbufDropFront rb 1 = (1, rb.advance 1) := ringbufDropFront_of_le hinv (by omega)
    have hrs : ringbufSize rb = rb.size := rfl
    rw [tryResync]
    by_cases hsize : ringbufSize rb > 1
    · rw [dif_pos hsize, detectResponseHeader_spec hinv (by omega)]
      simp only [Option.bind_eq_bind, Option.bind_some]
      split
      · rename_i hm
        rw [skip_eq_zero (Or.inl hm), hinv.advance_zero]
        rfl
      · rename_i hm
        have hnot : ¬ Candidate rb.contents := by
          rintro (h | h)
          · exact hm h
          · rcases h with h | h <;> rw [h] at hlen <;> simp at hlen <;> omega
        have hskip : skip Candidate rb.contents = 1 + skip Candidate (rb.contents.drop 1) := by
          apply skip_of_forall_not (by omega)
          intro i hi
          rw [show i = 0 by omega]
          exact hnot
        rw [hdrop1, u16_of_lt (by omega), ih (hinv.advance (by omega)) hcap (by simp; omega)
          (by simp; omega), hinv.contents_advance (by omega), RingBuf.advance_advance, hskip,
          List.drop_drop, Nat.add_assoc]
    · have hone : ringbufSize rb = 1 := by omega
      obtain ⟨x, hx⟩ : ∃ x, rb.contents = [x] := List.length_eq_one_iff.mp (by omega)
      rw [dif_neg hsize, if_pos hone, ringbufPeek_spec hinv (by omega), hx]
      simp only [Option.bind_eq_bind, Option.bind_some, List.getElem?_cons_zero]
      split
      · rename_i hbyte
        have hnot : ¬ Candidate [x] := by
          rintro (h | h)
          · exact h (magicOf_short (by simp))
          · rcases h with h | h
            · exact hbyte.1 (List.cons.inj h).1
            · exact hbyte.2 (List.cons.inj h).1
        rw [hdrop1, u16_of_lt (by omega), skip, if_neg hnot]
        rfl
      · rename_i hbyte
        have hcand : Candidate [x] := by
          refine Or.inr ?_
          by_cases h0 : x = 0xD0#8
          · exact Or.inl (by rw [h0])
          · by_cases h4 : x = 0xD4#8
            · exact Or.inr (by rw [h4])
            · exact absurd ⟨h0, h4⟩ hbyte
        rw [skip_eq_zero hcand, hinv.advance_zero, List.drop_zero, magicOf_short (by simp)]
        rfl

/-! ## The header stage -/

section HeaderStage

variable {cfg : Config} {ctx : Context}

theorem ringbufSize_contents (hinv : ctx.Inv cfg) :
    ringbufSize ctx.rxCbuffer = ctx.rxCbuffer.contents.length :=
  hinv.ring.contents_length.symm

theorem parseResponseHeader_partial (hinv : ctx.Inv cfg)
    (h : PartialHeader ctx.rxCbuffer.contents) : ∃ p q,
      parseResponseHeader cfg ctx (magicOf ctx.rxCbuffer.contents) = some (.errNeedMore, p, q) := by
  have hlt := h.2
  rw [getResponseHeaderSize] at hlt
  rw [parseResponseHeader]
  by_cases h4 : magicOf ctx.rxCbuffer.contents = .h4E
  · rw [if_pos h4] at hlt ⊢
    rw [parseResponseHeader4E, ringbufSize_contents hinv, if_pos hlt]
    exact ⟨_, _, rfl⟩
  · rw [if_neg h4] at hlt ⊢
    rw [parseResponseHeader3E, ringbufSize_contents hinv, if_pos hlt]
    exact ⟨_, _, rfl⟩

/-- The length-field test of both header parsers. -/
theorem packetSize_reject_iff {p : Nat} :
    (p < FX5_RESP_PDU_HEADER_SIZE ∨ p > FX5_IOBUF_SIZE cfg) ↔
      ¬ (FX5_RESP_PDU_HEADER_SIZE ≤ p ∧ p ≤ FX5_IOBUF_SIZE cfg) := by
  omega

/-- What the two header parsers compute on a complete header. -/
theorem parseResponseHeader_complete (hinv : ctx.Inv cfg)
    (hm : magicOf ctx.rxCbuffer.contents ≠ .unknown)
    (hfull : getResponseHeaderSize (magicOf ctx.rxCbuffer.contents) ≤ ctx.rxCbuffer.contents.length) :
    (AcceptedHeader cfg ctx.serial ctx.rxCbuffer.contents ∧
      parseResponseHeader cfg ctx (magicOf ctx.rxCbuffer.contents) =
        some (.ok, packetSizeOf ctx.rxCbuffer.contents,
          getResponseHeaderSize (magicOf ctx.rxCbuffer.contents))) ∨
    (¬ AcceptedHeader cfg ctx.serial ctx.rxCbuffer.contents ∧ ∃ p q,
      parseResponseHeader cfg ctx (magicOf ctx.rxCbuffer.contents) =
        some (.errHeaderMismatch, p, q)) := by
  have hs := ringbufSize_contents hinv
  have hpeek : ∀ {i : Nat}, i ≤ 31000 →
      pduPeekcU16Le ctx.rxCbuffer i = some (le16At ctx.rxCbuffer.contents i) :=
    fun hi => pduPeekcU16Le_spec hinv.ring (hinv.tail_add_lt (by omega))
  generalize hb : ctx.rxCbuffer.contents = b at *
  unfold getResponseHeaderSize at hfull ⊢
  unfold parseResponseHeader AcceptedHeader packetSizeOf getResponseHeaderSize
  by_cases h4 : magicOf b = .h4E
  · simp only [h4, if_true] at hfull ⊢
    rw [parseResponseHeader4E, hs, if_neg (by omega), hpeek (by decide)]
    simp only [Option.bind_eq_bind, Option.bind_some]
    by_cases hserial : le16At b FX5_SERIAL_OFFSET_4E = ctx.serial
    · rw [if_neg (fun h => h hserial), hpeek (by decide)]
      simp only [Option.bind_some]
      by_cases hp : FX5_RESP_PDU_HEADER_SIZE ≤ le16At b FX5_PACKET_SIZE_OFFSET_4E ∧
          le16At b FX5_PACKET_SIZE_OFFSET_4E ≤ FX5_IOBUF_SIZE cfg
      · rw [if_neg (fun h => packetSize_reject_iff.mp h hp)]
        exact Or.inl ⟨⟨by decide, hfull, hp.1, hp.2, fun _ => hserial⟩, rfl⟩
      · rw [if_pos (packetSize_reject_iff.mpr hp)]
        exact Or.inr ⟨fun h => hp ⟨h.2.2.1, h.2.2.2.1⟩, _, _, rfl⟩
    · rw [if_pos hserial]
      exact Or.inr ⟨fun h => hserial (h.2.2.2.2 trivial), _, _, rfl⟩
  · simp only [h4, if_false] at hfull ⊢
    rw [parseResponseHeader3E, hs, if_neg (by omega), hpeek (by decide)]
    simp only [Option.bind_eq_bind, Option.bind_some]
    by_cases hp : FX5_RESP_PDU_HEADER_SIZE ≤ le16At b FX5_PACKET_SIZE_OFFSET_3E ∧
        le16At b FX5_PACKET_SIZE_OFFSET_3E ≤ FX5_IOBUF_SIZE cfg
    · rw [if_neg (fun h => packetSize_reject_iff.mp h hp)]
      exact Or.inl ⟨⟨hm, hfull, hp.1, hp.2, fun h => absurd h (by decide)⟩, rfl⟩
    · rw [if_pos (packetSize_reject_iff.mpr hp)]
      exact Or.inr ⟨fun h => hp ⟨h.2.2.1, h.2.2.2.1⟩, _, _, rfl⟩

end HeaderStage

/-! ## Both loops -/

/-- The context after `k` bytes of garbage were discarded. -/
def Context.discard (ctx : Context) (k : Nat) : Context :=
  { ctx with resyncCounter := ctx.resyncCounter + k, rxCbuffer := ctx.rxCbuffer.advance k }

theorem Context.discard_discard (ctx : Context) (j k : Nat) :
    (ctx.discard j).discard k = ctx.discard (j + k) := by
  simp only [Context.discard, RingBuf.advance_advance, Nat.add_assoc]

theorem Context.Inv.discard {cfg : Config} {ctx : Context} (h : ctx.Inv cfg) {k : Nat}
    (hk : k ≤ ctx.rxCbuffer.contents.length) : (ctx.discard k).Inv cfg :=
  h.advance (by rw [← h.ring.contents_length]; exact hk) _

theorem Context.Inv.contents_discard {cfg : Config} {ctx : Context} (h : ctx.Inv cfg) {k : Nat}
    (hk : k ≤ ctx.rxCbuffer.contents.length) :
    (ctx.discard k).rxCbuffer.contents = ctx.rxCbuffer.contents.drop k :=
  h.ring.contents_advance (by rw [← h.ring.contents_length]; exact hk)

/-- The result of a call when the selected frame starts at the front of the buffer: the payload
stage behind the wire header if all of it has arrived, else a request for more bytes. -/
def parseFront (cfg : Config) (ctx : Context) : Option (Status × Context) :=
  if CompleteFrame cfg ctx.serial ctx.rxCbuffer.contents then
    let headerSize := getResponseHeaderSize (magicOf ctx.rxCbuffer.contents)
    parseResponsePdu cfg { ctx with rxCbuffer := ctx.rxCbuffer.advance headerSize }
      (packetSizeOf ctx.rxCbuffer.contents)
  else some (.errNeedMore, ctx)

theorem parseFront_not_complete {cfg : Config} {ctx : Context}
    (h : ¬ CompleteFrame cfg ctx.serial ctx.rxCbuffer.contents) :
    parseFront cfg ctx = some (.errNeedMore, ctx) := if_neg h

/-! ### A turn behind the scan -/

/-- What a turn does with a subheader of the given type at the front of the buffer. -/
def headerTurn (cfg : Config) (ctx : Context) (headerType : HeaderType) : Option Turn :=
  (parseResponseHeader cfg ctx headerType).bind fun (status, packetSize, headerSize) =>
    if status = .errNeedMore then some (.done (status, ctx))
    else if status = .errHeaderMismatch then
      let ctx := { ctx with
        rxCbuffer := (ringbufDropFront ctx.rxCbuffer 1).2
        resyncCounter := u16 (ctx.resyncCounter + 1) }
      if ctx.resyncCounter > FX5_RESYNC_LIMIT then some (.done (.errResync, ctx))
      else some (.again ctx)
    else if status ≠ .ok then some (.done (status, ctx))
    else if ringbufSize ctx.rxCbuffer < headerSize + packetSize then
      some (.done (.errNeedMore, ctx))
    else
      (parseResponsePdu cfg
        { ctx with rxCbuffer := (ringbufDropFront ctx.rxCbuffer headerSize).2 } packetSize).map .done

section HeaderTurn

variable {cfg : Config} {ctx : Context}

theorem headerTurn_partial (hinv : ctx.Inv cfg) (h : PartialHeader ctx.rxCbuffer.contents) :
    headerTurn cfg ctx (magicOf ctx.rxCbuffer.contents) = (parseFront cfg ctx).map .done := by
  obtain ⟨p, q, hheader⟩ := parseResponseHeader_partial hinv h
  have hnot : ¬ CompleteFrame cfg ctx.serial ctx.rxCbuffer.contents := by
    intro hcomplete
    have h1 := hcomplete.1.2.1
    have h2 := h.2
    omega
  rw [headerTurn, hheader, parseFront_not_complete hnot]
  rfl

/-- For an accepted header the size test of the loop is the completeness of the frame. -/
theorem headerTurn_accepted (hinv : ctx.Inv cfg)
    (h : AcceptedHeader cfg ctx.serial ctx.rxCbuffer.contents) :
    headerTurn cfg ctx (magicOf ctx.rxCbuffer.contents) = (parseFront cfg ctx).map .done := by
  have hheader : parseResponseHeader cfg ctx (magicOf ctx.rxCbuffer.contents) =
      some (.ok, packetSizeOf ctx.rxCbuffer.contents,
        getResponseHeaderSize (magicOf ctx.rxCbuffer.contents)) := by
    rcases parseResponseHeader_complete hinv h.1 h.2.1 with ⟨_, hheader⟩ | ⟨hnot, _⟩
    · exact hheader
    · exact absurd h hnot
  rw [headerTurn, hheader, Option.bind_some]
  simp only [reduceCtorEq, if_false, ne_eq, not_true_eq_false]
  rw [ringbufSize_contents hinv, parseFront, ← frameSizeOf]
  by_cases htotal : frameSizeOf ctx.rxCbuffer.contents ≤ ctx.rxCbuffer.contents.length
  · have hdrop : ringbufDropFront ctx.rxCbuffer
        (getResponseHeaderSize (magicOf ctx.rxCbuffer.contents)) = _ :=
      ringbufDropFront_of_le hinv.ring (by rw [← hinv.ring.contents_length]; exact h.2.1)
    rw [if_neg (Nat.not_lt_of_le htotal), if_pos ⟨h, htotal⟩, hdrop]
  · rw [if_pos (Nat.lt_of_not_le htotal), if_neg (fun hcomplete => htotal hcomplete.2)]
    rfl

/-- For a rejected header one byte is dropped. -/
theorem headerTurn_rejected (hinv : ctx.Inv cfg) (hc : ctx.resyncCounter + 1 < 65536)
    (hm : magicOf ctx.rxCbuffer.contents ≠ .unknown)
    (h : ¬ Viable cfg ctx.serial ctx.rxCbuffer.contents) :
    headerTurn cfg ctx (magicOf ctx.rxCbuffer.contents) =
      if ctx.resyncCounter + 1 > FX5_RESYNC_LIMIT then some (.done (.errResync, ctx.discard 1))
      else some (.again (ctx.discard 1)) := by
  have hfull : getResponseHeaderSize (magicOf ctx.rxCbuffer.contents) ≤
      ctx.rxCbuffer.contents.length :=
    Nat.le_of_not_lt fun hlt => h (Or.inr (Or.inl ⟨hm, hlt⟩))
  obtain ⟨p, q, hheader⟩ : ∃ p q, parseResponseHeader cfg ctx (magicOf ctx.rxCbuffer.contents) =
      some (.errHeaderMismatch, p, q) := by
    rcases parseResponseHeader_complete hinv hm hfull with ⟨hacc, _⟩ | ⟨_, hheader⟩
    · exact absurd (Or.inr (Or.inr hacc)) h
    · exact hheader
  have hlen : 1 ≤ ctx.rxCbuffer.size := by
    rw [← hinv.ring.contents_length]
    have := two_le_of_magicOf hm
    omega
  rw [headerTurn, hheader, Option.bind_some]
  simp only [reduceCtorEq, if_false, if_true]
  rw [ringbufDropFront_of_le hinv.ring hlen, u16_of_lt hc]
  rfl

/-- **A turn behind the scan**: the call ends at a viable suffix, and otherwise one byte is
dropped. -/
theorem headerTurn_spec (hinv : ctx.Inv cfg) (hc : ctx.resyncCounter + 1 < 65536)
    (hm : magicOf ctx.rxCbuffer.contents ≠ .unknown) :
    headerTurn cfg ctx (magicOf ctx.rxCbuffer.contents) =
      if Viable cfg ctx.serial ctx.rxCbuffer.contents then (parseFront cfg ctx).map .done
      else if ctx.resyncCounter + 1 > FX5_RESYNC_LIMIT then
        some (.done (.errResync, ctx.discard 1))
      else some (.again (ctx.discard 1)) := by
  split
  · rename_i hv
    rcases hv with hlone | hpart | hacc
    · have htwo := two_le_of_magicOf hm
      rcases hlone with h | h <;> rw [h] at htwo <;> simp at htwo
    · exact headerTurn_partial hinv hpart
    · exact headerTurn_accepted hinv hacc
  · rename_i hv
    exact headerTurn_rejected hinv hc hm hv

end HeaderTurn

/-- A turn is the scan for the first candidate and what follows it. -/
theorem parseResponseTurn_eq {cfg : Config} {ctx : Context} (hinv : ctx.Inv cfg) {m : Nat}
    (hm : skip Candidate ctx.rxCbuffer.contents = m)
    (hc : ctx.resyncCounter + ctx.rxCbuffer.size < 65536) :
    parseResponseTurn cfg ctx =
      if ctx.resyncCounter + m > FX5_RESYNC_LIMIT then some (.done (.errResync, ctx.discard m))
      else if magicOf (ctx.rxCbuffer.contents.drop m) = .unknown then
        some (.done (.errNeedMore, ctx.discard m))
      else headerTurn cfg (ctx.discard m) (magicOf (ctx.rxCbuffer.contents.drop m)) := by
  have hcap : ctx.rxCbuffer.capacity ≤ 65000 := by
    have := (iobufSize_bounds cfg).2
    rw [hinv.capacity]
    omega
  have htr := tryResync_spec hinv.ring hcap hc
  rw [hm] at htr
  rw [parseResponseTurn, htr]
  simp only [Option.bind_eq_bind, Option.bind_some, headerTurn, Option.map_eq_bind]
  rfl

/-- **One turn**: discard up to the first candidate; if it is viable the call ends here, and
otherwise one byte more is discarded. -/
theorem parseResponseTurn_spec {cfg : Config} {ctx : Context} (hinv : ctx.Inv cfg) {m : Nat}
    (hm : skip Candidate ctx.rxCbuffer.contents = m)
    (hc : ctx.resyncCounter + ctx.rxCbuffer.size < 65536) :
    parseResponseTurn cfg ctx =
      if ctx.resyncCounter + m > FX5_RESYNC_LIMIT then some (.done (.errResync, ctx.discard m))
      else if ctx.rxCbuffer.contents.drop m = [] ∨
          Viable cfg ctx.serial (ctx.rxCbuffer.contents.drop m) then
        (parseFront cfg (ctx.discard m)).map .done
      else if ctx.resyncCounter + m + 1 > FX5_RESYNC_LIMIT then
        some (.done (.errResync, ctx.discard (m + 1)))
      else some (.again (ctx.discard (m + 1))) := by
  have hle : m ≤ ctx.rxCbuffer.contents.length := by
    rw [← hm]
    exact skip_le_length _ _
  have hsize := hinv.ring.contents_length
  have hinv' := hinv.discard hle
  have hcont := hinv.contents_discard hle
  rw [parseResponseTurn_eq hinv hm hc]
  split
  · rfl
  by_cases hunknown : magicOf (ctx.rxCbuffer.contents.drop m) = .unknown
  · -- the buffer is empty or holds a lone subheader byte
    have hnot : ¬ CompleteFrame cfg (ctx.discard m).serial (ctx.discard m).rxCbuffer.contents := by
      rw [hcont]
      exact fun h => h.1.1 hunknown
    have hstop : ctx.rxCbuffer.contents.drop m = [] ∨
        Viable cfg ctx.serial (ctx.rxCbuffer.contents.drop m) := by
      by_cases hend : m = ctx.rxCbuffer.contents.length
      · exact Or.inl (by rw [hend, List.drop_length])
      · have hcand : Candidate (ctx.rxCbuffer.contents.drop m) := by
          rw [← hm] at hend ⊢
          exact skip_holds (by omega)
        rcases hcand with h | h
        · exact absurd hunknown h
        · exact Or.inr (Or.inl h)
    rw [if_pos hunknown, if_pos hstop, parseFront_not_complete hnot]
    rfl
  · have hlong := two_le_of_magicOf hunknown
    have hne : ctx.rxCbuffer.contents.drop m ≠ [] := by
      intro h
      rw [h] at hlong
      exact absurd hlong (by simp)
    rw [List.length_drop] at hlong
    have hcounter : (ctx.discard m).resyncCounter + 1 < 65536 := by
      simp only [Context.discard]
      omega
    have hturn := headerTurn_spec hinv' hcounter (by rw [hcont]; exact hunknown)
    rw [hcont, Context.discard_discard] at hturn
    rw [if_neg hunknown, hturn]
    simp only [hne, false_or]
    rfl

/-- One unfolding of the loop, by the outcome of the turn. -/
theorem parseResponseLoop_eq (cfg : Config) (ctx : Context) :
    parseResponseLoop cfg ctx = (parseResponseTurn cfg ctx).bind fun
      | .done result => some result
      | .again context => parseResponseLoop cfg context := by
  rw [parseResponseLoop]
  split <;> rename_i h <;> rw [h] <;> rfl

/-- Where a call gives up that discards more than `limit` bytes: right behind a candidate at the
limit, or at the first candidate beyond it. -/
def resyncEnd (limit : Nat) (b : List Byte) : Nat :=
  if Candidate (b.drop limit) then limit + 1 else limit + skip Candidate (b.drop limit)

theorem resyncEnd_drop {limit j : Nat} (h : j ≤ limit) (b : List Byte) :
    resyncEnd limit b = j + resyncEnd (limit - j) (b.drop j) := by
  unfold resyncEnd
  rw [List.drop_drop, show j + (limit - j) = limit by omega]
  split <;> omega

/-- The scan that runs past the limit ends there. -/
theorem resyncEnd_of_lt_skip {limit m : Nat} {b : List Byte} (hm : skip Candidate b = m)
    (h : limit < m) : resyncEnd limit b = m := by
  have hnot : ¬ Candidate (b.drop limit) := not_of_lt_skip (hm ▸ h)
  rw [resyncEnd, if_neg hnot, skip_drop (by omega), hm]
  omega

/-- A candidate at the limit is the last byte that is discarded. -/
theorem resyncEnd_of_candidate {limit : Nat} {b : List Byte} (h : Candidate (b.drop limit)) :
    resyncEnd limit b = limit + 1 := if_pos h

theorem resyncEnd_bounds {cfg : Config} {serial limit k : Nat} {b : List Byte}
    (hk : frameStart cfg serial b = k) (h : limit < k) :
    limit < resyncEnd limit b ∧ resyncEnd limit b ≤ k := by
  have hle : k ≤ b.length := hk ▸ skip_le_length _ _
  have hcut := frameStart_drop hk (Nat.le_of_lt h)
  have hskip : skip Candidate (b.drop limit) ≤ k - limit := by
    rw [← hcut]
    exact skip_le_skip (fun _ h => h.candidate) _
  unfold resyncEnd
  split
  · omega
  · rename_i hnot
    have hpos : skip Candidate (b.drop limit) ≠ 0 := by
      intro h0
      have hholds := skip_holds (p := Candidate) (l := b.drop limit)
        (by rw [h0, List.length_drop]; omega)
      rw [h0, List.drop_zero] at hholds
      exact hnot hholds
    omega

/-- **Both loops** find the least viable suffix; the call gives up as soon as it has discarded
more than `FX5_RESYNC_LIMIT` bytes. -/
theorem parseResponseLoop_spec {cfg : Config} {ctx : Context} (hinv : ctx.Inv cfg)
    (hc : ctx.resyncCounter ≤ FX5_RESYNC_LIMIT) {k : Nat}
    (hk : frameStart cfg ctx.serial ctx.rxCbuffer.contents = k) :
    parseResponseLoop cfg ctx =
      if ctx.resyncCounter + k ≤ FX5_RESYNC_LIMIT then parseFront cfg (ctx.discard k)
      else some (.errResync, ctx.discard
        (resyncEnd (FX5_RESYNC_LIMIT - ctx.resyncCounter) ctx.rxCbuffer.contents)) := by
  obtain ⟨n, hn⟩ : ∃ n, n = ctx.rxCbuffer.contents.length := ⟨_, rfl⟩
  induction n using Nat.strongRecOn generalizing ctx k with
  | ind n ih =>
    obtain ⟨m, hm⟩ : ∃ m, skip Candidate ctx.rxCbuffer.contents = m := ⟨_, rfl⟩
    have hmk : m ≤ k := by
      rw [← hm, ← hk]
      exact skip_le_skip (fun _ h => h.candidate) _
    have hkle : k ≤ ctx.rxCbuffer.contents.length := hk ▸ skip_le_length _ _
    have hsize := hinv.contents_length_le
    have hbounds := (iobufSize_bounds cfg).2
    have hlimit : FX5_RESYNC_LIMIT = 64 := rfl
    have hturn := parseResponseTurn_spec hinv hm (by rw [← hinv.ring.contents_length]; omega)
    rw [parseResponseLoop_eq]
    by_cases hover : ctx.resyncCounter + m > FX5_RESYNC_LIMIT
    · rw [if_pos hover] at hturn
      rw [if_neg (by omega), hturn, resyncEnd_of_lt_skip hm (by omega)]
      rfl
    rw [if_neg hover] at hturn
    by_cases hstop : ctx.rxCbuffer.contents.drop m = [] ∨
        Viable cfg ctx.serial (ctx.rxCbuffer.contents.drop m)
    · rw [if_pos hstop] at hturn
      have hkm : k = m := by
        rw [← hk]
        rcases hstop with h | h
        · rw [List.drop_eq_nil_iff] at h
          omega
        · refine skip_unique (by omega) (fun _ => h) fun i hi hv => ?_
          exact not_of_lt_skip (hm ▸ hi) hv.candidate
      rw [hkm, if_pos (by omega), hturn]
      cases parseFront cfg (ctx.discard m) <;> rfl
    rw [if_neg hstop] at hturn
    have hlt : m < k := by
      refine Nat.lt_of_le_of_ne hmk fun h => hstop ?_
      by_cases hend : k < ctx.rxCbuffer.contents.length
      · rw [h, ← hk]
        exact Or.inr (skip_holds (by rw [← frameStart, hk]; exact hend))
      · exact Or.inl (List.drop_eq_nil_of_le (by omega))
    by_cases hover1 : ctx.resyncCounter + m + 1 > FX5_RESYNC_LIMIT
    · rw [if_pos hover1] at hturn
      have hcandidate : Candidate (ctx.rxCbuffer.contents.drop m) := by
        rw [← hm]
        exact skip_holds (by omega)
      have hend : FX5_RESYNC_LIMIT - ctx.resyncCounter = m := by omega
      rw [if_neg (by omega), hturn, hend, resyncEnd_of_candidate hcandidate]
      rfl
    · -- the turn continues: the induction hypothesis for what is left
      rw [if_neg hover1] at hturn
      have hle1 : m + 1 ≤ ctx.rxCbuffer.contents.length := by omega
      have hcont := hinv.contents_discard hle1
      have hrest : frameStart cfg (ctx.discard (m + 1)).serial
          (ctx.discard (m + 1)).rxCbuffer.contents = k - (m + 1) := by
        have hcut := frameStart_drop hk (show m + 1 ≤ k by omega)
        rw [hcont]
        exact hcut
      have hcounter : (ctx.discard (m + 1)).resyncCounter = ctx.resyncCounter + (m + 1) := rfl
      have hih := ih _ (by rw [hcont, List.length_drop]; omega) (hinv.discard hle1)
        (by rw [hcounter]; omega) hrest rfl
      have hend := resyncEnd_drop (show m + 1 ≤ FX5_RESYNC_LIMIT - ctx.resyncCounter by omega)
        ctx.rxCbuffer.contents
      rw [hturn, Option.bind_some]
      simp only [hcounter, hcont, Context.discard_discard] at hih
      rw [show ctx.resyncCounter + (m + 1) + (k - (m + 1)) = ctx.resyncCounter + k by omega,
        show m + 1 + (k - (m + 1)) = k by omega,
        show FX5_RESYNC_LIMIT - (ctx.resyncCounter + (m + 1)) =
          FX5_RESYNC_LIMIT - ctx.resyncCounter - (m + 1) by omega, ← hend] at hih
      exact hih

end Fx5
