import Fx5Slmp.Pool

/-!
# Whether the receiver can get out of `FX5_ST_ERR_NEED_MORE`

`fx5_parse_response` answers `FX5_ST_ERR_NEED_MORE` as long as the frame it has selected is
incomplete.  The header stage compares the length field alone with the capacity of the receive
buffer, and not the length of header and packet together, so it selects frames that the buffer
cannot hold.

* `NeedsMore`, `parseResponse_needMore_iff` — when a call asks for more bytes;
* `Wedged` — a selected frame is too long, and no other bytes can displace it;
* `recoverable_iff` — the bytes in the buffer can be followed by some that end the wait exactly
  when they are not wedged;
* `needMore_recoverable_iff` — the same for every context the API can reach;
* `overlong_header_wedges` — a context that is wedged.
-/

set_option autoImplicit false

namespace Fx5

open StreamScan

/-! ## When a call asks for more bytes -/

section NeedsMore

variable {cfg : Config} {ctx : Context} {serial : Nat}

/-- The least viable suffix of `b` is within the limit and incomplete. -/
def NeedsMore (cfg : Config) (serial : Nat) (b : List Byte) : Prop :=
  frameStart cfg serial b ≤ FX5_RESYNC_LIMIT ∧
    ¬ CompleteFrame cfg serial (b.drop (frameStart cfg serial b))

theorem parseResponse_needMore_iff (hinv : ctx.Inv cfg) (huse : ctx.inUse = true) :
    (∃ ctx', parseResponse cfg ctx = some (.errNeedMore, ctx')) ↔
      NeedsMore cfg ctx.serial ctx.rxCbuffer.contents := by
  constructor
  · rintro ⟨ctx', hres⟩
    rcases parseResponse_cases hinv huse rfl with
      ⟨_, j, _, _, h⟩ | ⟨hlimit, hnot, _⟩ | ⟨_, _, status, ctx₁, h, _, hstatus⟩
    · rw [h] at hres
      cases hres
    · exact ⟨hlimit, hnot⟩
    · rw [h] at hres
      cases hres
      rcases hstatus with h | h | h <;> cases h
  · rintro ⟨hlimit, hnot⟩
    exact ⟨_, parseResponse_needMore hinv huse rfl hlimit hnot⟩

theorem not_needsMore {b : List Byte} {k : Nat} (hk : frameStart cfg serial b = k)
    (h : CompleteFrame cfg serial (b.drop k)) : ¬ NeedsMore cfg serial b := by
  rintro ⟨_, hnot⟩
  rw [hk] at hnot
  exact hnot h

/-- Some bytes that fit behind `s` end the wait. -/
def Recoverable (cfg : Config) (serial : Nat) (s : List Byte) : Prop :=
  ∃ x, s.length + x.length ≤ FX5_IOBUF_SIZE cfg ∧ ¬ NeedsMore cfg serial (s ++ x)

end NeedsMore

/-! ## Wedged buffers -/

/-- The frame announced by the accepted header at index `i` ends behind the receive buffer. -/
def OverlongAt (cfg : Config) (serial : Nat) (s : List Byte) (i : Nat) : Prop :=
  AcceptedHeader cfg serial (s.drop i) ∧ FX5_IOBUF_SIZE cfg < i + frameSizeOf (s.drop i)

instance (cfg : Config) (serial : Nat) (s : List Byte) (i : Nat) :
    Decidable (OverlongAt cfg serial s i) :=
  inferInstanceAs (Decidable (_ ∧ _))

/-- The missing bytes of the 4E header at the front can still announce a frame that fits. -/
def Completable (cfg : Config) (serial : Nat) (s : List Byte) : Prop :=
  le16At s FX5_SERIAL_OFFSET_4E = serial ∧
    ∃ size, size < 65536 ∧ FX5_RESP_PDU_HEADER_SIZE ≤ size ∧
      FX5_RESP_TCP_HEADER_SIZE_4E + size ≤ FX5_IOBUF_SIZE cfg ∧
      (FX5_PACKET_SIZE_OFFSET_4E < s.length →
        size % 256 = (s.getD FX5_PACKET_SIZE_OFFSET_4E 0).toNat)

/-- The selected frame is too long; or a frame that starts inside the selected incomplete
header is too long, and the header itself cannot be completed to one that fits. -/
def Wedged (cfg : Config) (serial : Nat) (s : List Byte) : Prop :=
  OverlongAt cfg serial s 0 ∨
    (PartialHeader s ∧ (∃ i, i < s.length ∧ OverlongAt cfg serial s i) ∧
      ¬ Completable cfg serial s)

section Shapes

variable {cfg : Config} {serial : Nat} {s : List Byte}

/-- The last byte of a wire header is the high byte of the length field. -/
theorem packetSizeOf_high (b : List Byte) :
    256 * (b.getD (getResponseHeaderSize (magicOf b) - 1) 0).toNat ≤ packetSizeOf b := by
  unfold packetSizeOf getResponseHeaderSize
  split
  · exact Nat.le_add_left _ _
  · exact Nat.le_add_left _ _

theorem OverlongAt.lt_length {i : Nat} (h : OverlongAt cfg serial s i) : i + 9 ≤ s.length := by
  have hbounds := headerSize_bounds (magicOf (s.drop i))
  have hlen := h.1.2.1
  rw [List.length_drop] at hlen
  omega

/-- Two suffixes one byte apart cannot both be viable. -/
theorem not_viable_before {i : Nat} (h : Viable cfg serial (s.drop (i + 1))) :
    ¬ Viable cfg serial (s.drop i) := by
  obtain ⟨y, rest, hy, hyval⟩ := h.head
  have hlen := congrArg List.length hy
  rw [List.length_drop, List.length_cons] at hlen
  have hs : s.drop i = s[i] :: y :: rest := by
    rw [List.drop_eq_getElem_cons (by omega), hy]
  have hmagic : magicOf (s.drop i) = .unknown := by
    rw [hs]
    apply magicOf_second_ne_zero
    rcases hyval with rfl | rfl <;> decide
  intro hv
  rcases hv.candidate with hm | hlone
  · exact hm hmagic
  · have htwo : 2 ≤ (s.drop i).length := by
      rw [List.length_drop]
      omega
    rcases hlone with h | h <;> rw [h] at htwo <;> simp at htwo

/-- An incomplete header with an accepted one inside is a 4E header that lacks one or two
bytes, with a 3E header at index 2 or 3. -/
theorem partial_with_overlong (hs : PartialHeader s) {i : Nat} (hi : OverlongAt cfg serial s i) :
    magicOf s = .h4E ∧ 11 ≤ s.length ∧ s.length ≤ 12 ∧ (i = 2 ∨ i = 3) ∧
      ∀ j, 0 < j → j < i → ¬ Viable cfg serial (s.drop j) := by
  have hlen := hi.lt_length
  have hshort := hs.2
  have hv : Viable cfg serial (s.drop i) := Or.inr (Or.inr hi.1)
  have hpos : i ≠ 0 := by
    rintro rfl
    have := hi.1.2.1
    rw [List.drop_zero] at this
    omega
  have hmagic : magicOf s = .h4E := by
    rcases magicOf_cases s with h | h | h
    · exact h
    · rw [h] at hshort
      change s.length < 9 at hshort
      omega
    · exact absurd h hs.1
  rw [hmagic] at hshort
  change s.length < 13 at hshort
  -- the second byte of the subheader starts nothing
  have hone : ¬ Viable cfg serial (s.drop 1) := by
    match s, hlen with
    | x :: y :: rest, _ =>
      intro h
      obtain ⟨z, rest', hz, hzval⟩ := h.head
      cases hz
      have hy : y ≠ 0x00#8 := by rcases hzval with rfl | rfl <;> decide
      rw [magicOf_second_ne_zero hy] at hmagic
      cases hmagic
  have hi1 : i ≠ 1 := by
    rintro rfl
    exact hone hv
  refine ⟨hmagic, by omega, by omega, by omega, ?_⟩
  intro j hj hji
  rcases (by omega : j = 1 ∨ j + 1 = i) with rfl | h
  · exact hone
  · rw [← h] at hv
    exact not_viable_before hv

end Shapes

/-! ## A wedged buffer never recovers -/

section Stuck

variable {cfg : Config} {serial : Nat} {s : List Byte}

theorem completable_of_complete (hm : magicOf s = .h4E) (hlen : 11 ≤ s.length) {x : List Byte}
    (h : CompleteFrame cfg serial (s ++ x))
    (hfit : (s ++ x).length ≤ FX5_IOBUF_SIZE cfg) : Completable cfg serial s := by
  have hmagic : magicOf (s ++ x) = .h4E := by rw [magicOf_append x (by omega), hm]
  have hsize := h.2
  rw [frameSizeOf, hmagic] at hsize
  change 13 + packetSizeOf (s ++ x) ≤ _ at hsize
  have hfield : packetSizeOf (s ++ x) = le16At (s ++ x) FX5_PACKET_SIZE_OFFSET_4E := by
    rw [packetSizeOf, if_pos hmagic]
  have hserial := h.1.2.2.2.2 hmagic
  rw [le16At_append x (Nat.le_trans (by decide) hlen)] at hserial
  refine ⟨hserial, packetSizeOf (s ++ x), ?_, h.1.2.2.1, Nat.le_trans hsize hfit, ?_⟩
  · rw [hfield]
    exact le16At_lt _ _
  · intro hlow
    have hbyte : (s ++ x).getD FX5_PACKET_SIZE_OFFSET_4E 0 = s.getD FX5_PACKET_SIZE_OFFSET_4E 0 := by
      rw [List.getD_append _ _ _ _ hlow]
    have hlt := (s.getD FX5_PACKET_SIZE_OFFSET_4E 0).isLt
    rw [hfield, le16At, hbyte]
    omega

theorem overlong_not_complete {i : Nat} (h : OverlongAt cfg serial s i) (hi : i ≤ s.length)
    {x : List Byte} (hfit : (s ++ x).length ≤ FX5_IOBUF_SIZE cfg) :
    ¬ CompleteFrame cfg serial ((s ++ x).drop i) := by
  intro hcomplete
  have hsize := hcomplete.2
  have hlong := h.2
  rw [List.length_drop] at hsize
  rw [List.drop_append_of_le_length hi, frameSizeOf_append h.1] at hsize
  have hle : i ≤ (s ++ x).length := by
    rw [List.length_append]
    omega
  omega

/-- A wedged frame is incomplete. -/
theorem Wedged.not_complete (h : Wedged cfg serial s) (hlen : s.length ≤ FX5_IOBUF_SIZE cfg) :
    ¬ CompleteFrame cfg serial s := by
  intro hcomplete
  rcases h with h0 | ⟨hincomplete, _, _⟩
  · have hfit : (s ++ []).length ≤ FX5_IOBUF_SIZE cfg := by
      rw [List.append_nil]
      exact hlen
    have hnot := overlong_not_complete h0 (Nat.zero_le _) hfit
    rw [List.append_nil] at hnot
    exact hnot hcomplete
  · exact Nat.not_lt_of_le hcomplete.1.2.1 hincomplete.2

theorem not_recoverable_of_wedged (h : Wedged cfg serial s) : ¬ Recoverable cfg serial s := by
  rintro ⟨x, hfit, hnot⟩
  rw [← List.length_append] at hfit
  apply hnot
  rcases h with h0 | ⟨hincomplete, ⟨i, hi, hover⟩, hcompletable⟩
  · have hacc : AcceptedHeader cfg serial s := h0.1
    have hstart : frameStart cfg serial (s ++ x) = 0 :=
      skip_eq_zero (Or.inr (Or.inr (hacc.append x)))
    rw [NeedsMore, hstart]
    exact ⟨Nat.zero_le _, overlong_not_complete h0 (Nat.zero_le _) hfit⟩
  · obtain ⟨hmagic, hlong, _, hi23, hbefore⟩ := partial_with_overlong hincomplete hover
    by_cases hv : Viable cfg serial (s ++ x)
    · -- the outer header stays selected, and cannot be completed
      have hstart : frameStart cfg serial (s ++ x) = 0 := skip_eq_zero hv
      rw [NeedsMore, hstart, List.drop_zero]
      exact ⟨Nat.zero_le _, fun hc => hcompletable (completable_of_complete hmagic hlong hc hfit)⟩
    · -- the outer header is rejected, and the inner frame is selected
      have hle : i ≤ s.length := Nat.le_of_lt hi
      have hstart : frameStart cfg serial (s ++ x) = i := by
        apply skip_unique
        · rw [List.length_append]
          omega
        · intro _
          rw [List.drop_append_of_le_length hle]
          exact Or.inr (Or.inr (hover.1.append x))
        · intro j hj
          rcases Nat.eq_zero_or_pos j with rfl | hpos
          · exact hv
          · rw [List.drop_append_of_le_length (by omega)]
            refine viable_persistent cfg serial _ x ?_ (hbefore j hpos hj)
            rw [ne_eq, List.drop_eq_nil_iff]
            omega
      rw [NeedsMore, hstart]
      have hlimit : i ≤ FX5_RESYNC_LIMIT := by
        rcases hi23 with rfl | rfl <;> decide
      exact ⟨hlimit, overlong_not_complete hover hle hfit⟩

end Stuck

/-! ## Every other buffer recovers -/

/-- Enough bytes to complete any header in a way that the header stage rejects. -/
def padding : List Byte := List.replicate 11 0xFF#8

/-- The shortest response: a 3E frame with an end code and no payload. -/
def shortestFrame : List Byte :=
  [0xD0, 0x00, 0x00, 0xFF, 0xFF, 0x03, 0x00, 0x02, 0x00, 0x01, 0x00]

section Recover

variable {cfg : Config} {serial : Nat} {s : List Byte}

theorem shortestFrame_complete (cfg : Config) (serial : Nat) :
    CompleteFrame cfg serial shortestFrame := by
  have hbounds := (iobufSize_bounds cfg).1
  have hmagic : magicOf shortestFrame = .h3E := by decide
  have hpacket : packetSizeOf shortestFrame = 2 := by decide
  refine ⟨⟨?_, ?_, ?_, ?_, ?_⟩, ?_⟩
  · rw [hmagic]
    nofun
  · rw [hmagic]
    decide
  · rw [hpacket]
    decide
  · rw [hpacket]
    omega
  · rw [hmagic]
    nofun
  · rw [frameSizeOf, hmagic, hpacket]
    decide

/-- A viable index of padded bytes is an accepted header that was there before the padding. -/
theorem accepted_of_padded {k : Nat} (hk : k < (s ++ padding).length)
    (hv : Viable cfg serial ((s ++ padding).drop k)) : AcceptedHeader cfg serial (s.drop k) := by
  have hpad : padding.length = 11 := List.length_replicate
  rw [List.length_append, hpad] at hk
  obtain ⟨y, rest, hy, hyval⟩ := hv.head
  -- the padding itself starts nothing
  have hks : k < s.length := by
    by_contra hge
    rw [List.drop_append, List.drop_eq_nil_of_le (by omega), List.nil_append, padding,
      List.drop_replicate] at hy
    obtain ⟨n, hn⟩ : ∃ n, 11 - (k - s.length) = n + 1 := ⟨10 - (k - s.length), by omega⟩
    rw [hn, List.replicate_succ] at hy
    rcases hyval with h | h <;> rw [h] at hy <;> exact absurd (List.cons.inj hy).1 (by decide)
  rw [List.drop_append_of_le_length (Nat.le_of_lt hks)] at hv hy
  have hrest : (s.drop k).length = s.length - k := List.length_drop
  have hlen : (s.drop k ++ padding).length = s.length - k + 11 := by
    rw [List.length_append, hrest, hpad]
  have hnotLone : ¬ LoneMagicByte (s.drop k ++ padding) := by
    rintro (h | h) <;> rw [h] at hlen <;> simp at hlen
  have hm : magicOf (s.drop k ++ padding) ≠ .unknown := by
    rcases hv.candidate with h | h
    · exact h
    · exact absurd h hnotLone
  -- nor does the last byte in front of it
  have htwo : 2 ≤ (s.drop k).length := by
    by_contra hlt
    obtain ⟨x, hx⟩ : ∃ x, s.drop k = [x] := List.length_eq_one_iff.mp (by omega)
    rw [hx] at hm
    exact hm (magicOf_second_ne_zero (by decide))
  have hbounds := headerSize_bounds (magicOf (s.drop k ++ padding))
  have hacc : AcceptedHeader cfg serial (s.drop k ++ padding) := by
    rcases hv with h | h | h
    · exact absurd h hnotLone
    · exact absurd h.2 (by omega)
    · exact h
  rw [magicOf_append padding htwo] at hm hbounds
  by_cases hfull : getResponseHeaderSize (magicOf (s.drop k)) ≤ (s.drop k).length
  · exact (acceptedHeader_append padding hm hfull).mp hacc
  · -- the high byte of the length field is a padding byte
    exfalso
    have hhigh := packetSizeOf_high (s.drop k ++ padding)
    rw [magicOf_append padding htwo, List.getD_append_right _ _ _ _ (by omega), padding,
      List.getD_replicate _ (by omega)] at hhigh
    have hmax := hacc.2.2.2.1
    have hiobuf := (iobufSize_bounds cfg).2
    simp only [BitVec.toNat_ofNat] at hhigh
    rw [padding] at hmax
    omega

/-- Bytes without an accepted header at the front recover by padding, which lets the parser
skip them or complete a frame inside them. -/
theorem recoverable_of_short (hlen : s.length ≤ 12) (h : ∀ i, ¬ OverlongAt cfg serial s i) :
    Recoverable cfg serial s := by
  have hpad : padding.length = 11 := List.length_replicate
  have hiobuf := (iobufSize_bounds cfg).1
  obtain ⟨k, hk⟩ : ∃ k, frameStart cfg serial (s ++ padding) = k := ⟨_, rfl⟩
  have hkle : k ≤ (s ++ padding).length := hk ▸ skip_le_length _ _
  have hsplit : ∀ t, frameStart cfg serial ((s ++ padding) ++ t) =
      k + frameStart cfg serial ((s ++ padding).drop k ++ t) := by
    intro t
    rw [← hk]
    exact frameStart_append cfg serial _ t
  rcases Nat.lt_or_ge k (s ++ padding).length with hlt | hge
  · -- a frame inside: complete it
    have hv : Viable cfg serial ((s ++ padding).drop k) := by
      rw [← hk] at hlt ⊢
      exact skip_holds hlt
    have hacc := accepted_of_padded hlt hv
    have hlen9 : 9 ≤ (s.drop k).length :=
      Nat.le_trans (headerSize_bounds _).1 hacc.2.1
    rw [List.length_drop] at hlen9
    have hfit : k + frameSizeOf (s.drop k) ≤ FX5_IOBUF_SIZE cfg :=
      Nat.le_of_not_lt fun hover => h k ⟨hacc, hover⟩
    obtain ⟨m, hm⟩ : ∃ m, m = k + frameSizeOf (s.drop k) - (s.length + 11) := ⟨_, rfl⟩
    have hdrop : (s ++ padding).drop k = s.drop k ++ padding :=
      List.drop_append_of_le_length (by omega)
    refine ⟨padding ++ List.replicate m 0x00#8, ?_, ?_⟩
    · rw [List.length_append, hpad, List.length_replicate]
      omega
    · rw [← List.append_assoc]
      have hacc' := (hacc.append padding).append (List.replicate m 0x00#8)
      have hstart : frameStart cfg serial ((s ++ padding) ++ List.replicate m 0x00#8) = k := by
        rw [hsplit, hdrop, frameStart, skip_eq_zero (Or.inr (Or.inr hacc')), Nat.add_zero]
      apply not_needsMore hstart
      rw [List.drop_append_of_le_length hkle, hdrop]
      refine ⟨hacc', ?_⟩
      rw [frameSizeOf_append (hacc.append padding), frameSizeOf_append hacc]
      simp only [List.length_append, List.length_drop, List.length_replicate, hpad]
      omega
  · -- nothing inside: a new frame behind the padding
    have hend : k = (s ++ padding).length := Nat.le_antisymm hkle hge
    refine ⟨padding ++ shortestFrame, ?_, ?_⟩
    · rw [List.length_append, hpad]
      show s.length + (11 + 11) ≤ _
      omega
    · rw [← List.append_assoc]
      have hframe := shortestFrame_complete cfg serial
      have hstart : frameStart cfg serial ((s ++ padding) ++ shortestFrame) = k := by
        rw [hsplit, hend, List.drop_length, List.nil_append, frameStart,
          skip_eq_zero (Or.inr (Or.inr hframe.1)), Nat.add_zero]
      apply not_needsMore hstart
      rw [hend, List.drop_left]
      exact hframe

/-- An accepted frame that fits is completed. -/
theorem recoverable_of_accepted (hacc : AcceptedHeader cfg serial s)
    (hlen : s.length ≤ FX5_IOBUF_SIZE cfg) (hfit : frameSizeOf s ≤ FX5_IOBUF_SIZE cfg) :
    Recoverable cfg serial s := by
  refine ⟨List.replicate (frameSizeOf s - s.length) 0x00#8, ?_, ?_⟩
  · rw [List.length_replicate]
    omega
  · have hacc' := hacc.append (List.replicate (frameSizeOf s - s.length) 0x00#8)
    have hstart : frameStart cfg serial (s ++ List.replicate (frameSizeOf s - s.length) 0x00#8) = 0 :=
      skip_eq_zero (Or.inr (Or.inr hacc'))
    apply not_needsMore hstart
    refine ⟨hacc', ?_⟩
    rw [List.drop_zero, frameSizeOf_append hacc, List.length_append, List.length_replicate]
    omega

/-- A 4E header that lacks one or two bytes is completed to a frame that fits. -/
theorem recoverable_of_completable (hm : magicOf s = .h4E) (h11 : 11 ≤ s.length)
    (h12 : s.length ≤ 12) (h : Completable cfg serial s) : Recoverable cfg serial s := by
  obtain ⟨hserial, size, hsize, hmin, hfit, hlow⟩ := h
  obtain ⟨x, hx⟩ : ∃ x, x = (pduWrU16Le size).drop (s.length - 11) ++ List.replicate size 0x00#8 :=
    ⟨_, rfl⟩
  -- the bytes from the length field on
  have hfield : (s ++ x).drop 11 = pduWrU16Le size ++ List.replicate size 0x00#8 := by
    rw [List.drop_append_of_le_length h11, hx]
    rcases (by omega : s.length = 11 ∨ s.length = 12) with h | h
    · rw [List.drop_eq_nil_of_le (by omega), h]
      rfl
    · obtain ⟨y, hy⟩ : ∃ y, s.drop 11 = [y] :=
        List.length_eq_one_iff.mp (by rw [List.length_drop]; omega)
      have hbyte : y = BitVec.ofNat 8 (size &&& 0xFF) := by
        have hlow' := hlow (by rw [FX5_PACKET_SIZE_OFFSET_4E]; omega)
        have hget : s.getD 11 0 = y := by
          have hdrop := congrArg (List.getD · 0 0) hy
          simpa only [List.getD_eq_getElem?_getD, List.getElem?_drop, Nat.add_zero,
            List.getElem?_cons_zero, Option.getD_some] using hdrop
        apply BitVec.eq_of_toNat_eq
        rw [FX5_PACKET_SIZE_OFFSET_4E, hget] at hlow'
        rw [BitVec.toNat_ofNat, ← hlow', show (0xFF : Nat) = 2 ^ 8 - 1 by rfl,
          Nat.and_two_pow_sub_one_eq_mod]
        omega
      rw [hy, h, hbyte]
      rfl
  have hmagic : magicOf (s ++ x) = .h4E := by rw [magicOf_append x (by omega), hm]
  have hpacket : packetSizeOf (s ++ x) = size := by
    rw [packetSizeOf, if_pos hmagic, FX5_PACKET_SIZE_OFFSET_4E]
    have hat := le16At_drop (s ++ x) 11 0
    rw [hfield, le16At_pduWrU16Le hsize] at hat
    exact hat.symm
  have hlen : (s ++ x).length = 13 + size := by
    have hdrop : ((s ++ x).drop 11).length = 2 + size := by
      rw [hfield, List.length_append, pduWrU16Le_length, List.length_replicate]
    rw [List.length_drop] at hdrop
    omega
  have hcomplete : CompleteFrame cfg serial (s ++ x) := by
    refine ⟨⟨?_, ?_, ?_, ?_, ?_⟩, ?_⟩
    · rw [hmagic]
      nofun
    · rw [hmagic, hlen]
      exact Nat.le_add_right 13 size
    · rw [hpacket]
      exact hmin
    · rw [hpacket]
      omega
    · intro _
      rw [le16At_append x (Nat.le_trans (by decide) h11)]
      exact hserial
    · rw [frameSizeOf, hmagic, hpacket, hlen]
      exact Nat.le_refl _
  have hstart : frameStart cfg serial (s ++ x) = 0 := skip_eq_zero (Or.inr (Or.inr hcomplete.1))
  refine ⟨x, ?_, not_needsMore hstart hcomplete⟩
  rw [← List.length_append, hlen]
  exact hfit

/-- **The bytes of a selected, incomplete frame can be followed by some that end the wait
exactly when they are not wedged.** -/
theorem recoverable_iff (hs : s = [] ∨ Viable cfg serial s)
    (hlen : s.length ≤ FX5_IOBUF_SIZE cfg) : Recoverable cfg serial s ↔ ¬ Wedged cfg serial s := by
  constructor
  · exact fun hrec hwedged => not_recoverable_of_wedged hwedged hrec
  · intro hnot
    by_cases hacc : AcceptedHeader cfg serial s
    · refine recoverable_of_accepted hacc hlen (Nat.le_of_not_lt fun hlong => hnot ?_)
      refine Or.inl ⟨hacc, ?_⟩
      rw [Nat.zero_add]
      exact hlong
    have hshort : s.length ≤ 12 := by
      rcases hs with rfl | (rfl | rfl) | h | h
      · exact Nat.zero_le _
      · exact Nat.le_add_left 1 11
      · exact Nat.le_add_left 1 11
      · have hlt := h.2
        have hbounds := (headerSize_bounds (magicOf s)).2
        omega
      · exact absurd h hacc
    by_cases hover : ∃ i, OverlongAt cfg serial s i
    · obtain ⟨i, hi⟩ := hover
      have hlong := hi.lt_length
      have hincomplete : PartialHeader s := by
        rcases hs with rfl | (rfl | rfl) | h | h
        · exact absurd hlong (Nat.not_succ_le_zero _)
        · exact absurd hlong (by simp)
        · exact absurd hlong (by simp)
        · exact h
        · exact absurd h hacc
      obtain ⟨hm, h11, h12, _, _⟩ := partial_with_overlong hincomplete hi
      apply recoverable_of_completable hm h11 h12
      by_contra hcompletable
      exact hnot (Or.inr ⟨hincomplete, ⟨i, by omega, hi⟩, hcompletable⟩)
    · exact recoverable_of_short hshort fun i hi => hover ⟨i, hi⟩

end Recover

/-! ## Reachable contexts -/

section Reachable

variable {cfg : Config} {ctx : Context}

/-- Some bytes that fit the free receive space make the next call answer something else than
`FX5_ST_ERR_NEED_MORE`. -/
def CanAnswer (cfg : Config) (ctx : Context) : Prop :=
  ∃ x ctx₁ status ctx₂, x.length ≤ FX5_IOBUF_SIZE cfg - ctx.rxCbuffer.contents.length ∧
    feedResponseBytes cfg ctx (some x) (BitVec.ofNat 16 x.length) = some (.ok, ctx₁) ∧
    parseResponse cfg ctx₁ = some (status, ctx₂) ∧ status ≠ .errNeedMore

theorem canAnswer_iff (hinv : ctx.Inv cfg) (huse : ctx.inUse = true) :
    CanAnswer cfg ctx ↔ Recoverable cfg ctx.serial ctx.rxCbuffer.contents := by
  have hle := hinv.contents_length_le
  constructor
  · rintro ⟨x, ctx₁, status, ctx₂, hx, hfeed, hparse, hstatus⟩
    have hfit : ctx.rxCbuffer.contents.length + x.length ≤ FX5_IOBUF_SIZE cfg := by omega
    obtain ⟨hinv', hcont⟩ := hinv.received hfit
    rw [feed_fitting hinv huse hfit] at hfeed
    cases hfeed
    refine ⟨x, hfit, fun hmore => ?_⟩
    rw [← hcont] at hmore
    obtain ⟨ctx', hres⟩ := (parseResponse_needMore_iff hinv' huse).mpr hmore
    rw [hparse] at hres
    cases hres
    exact hstatus rfl
  · rintro ⟨x, hfit, hnot⟩
    obtain ⟨hinv', hcont⟩ := hinv.received hfit
    obtain ⟨status, ctx₂, hparse, _⟩ := parseResponse_inv hinv' huse
    refine ⟨x, _, status, ctx₂, by omega, feed_fitting hinv huse hfit, hparse, ?_⟩
    rintro rfl
    have hmore := (parseResponse_needMore_iff hinv' huse).mp ⟨_, hparse⟩
    rw [hcont] at hmore
    exact hnot hmore

/-- **Whenever a call asks for more bytes, the receive buffer has room and some bytes end the
wait, exactly when** the selected bytes are not wedged. -/
theorem needMore_recoverable_iff (hctx : Acquired cfg ctx) {k : Nat}
    (hk : LeastViable cfg ctx.serial ctx.rxCbuffer.contents k) :
    (∀ ctx', parseResponse cfg ctx = some (.errNeedMore, ctx') →
      ctx'.rxCbuffer.contents.length < FX5_IOBUF_SIZE cfg ∧ CanAnswer cfg ctx') ↔
    (k ≤ FX5_RESYNC_LIMIT → ¬ Wedged cfg ctx.serial (ctx.rxCbuffer.contents.drop k)) := by
  obtain ⟨hinv, huse⟩ := acquired_inv hctx
  have hstart := leastViable_iff.mp hk
  have hle : k + 0 ≤ ctx.rxCbuffer.contents.length := hk.1
  have hinv' : (ctx.taken k 0).Inv cfg := hinv.taken hle
  have hcont : (ctx.taken k 0).rxCbuffer.contents = ctx.rxCbuffer.contents.drop k :=
    hinv.contents_taken hle
  have hlen := hinv'.contents_length_le
  rw [hcont] at hlen
  have hselected : ctx.rxCbuffer.contents.drop k = [] ∨
      Viable cfg ctx.serial (ctx.rxCbuffer.contents.drop k) := by
    rcases Nat.lt_or_ge k ctx.rxCbuffer.contents.length with h | h
    · exact Or.inr (hk.2.1 h)
    · exact Or.inl (List.drop_eq_nil_of_le h)
  have hanswer : CanAnswer cfg (ctx.taken k 0) ↔
      ¬ Wedged cfg ctx.serial (ctx.rxCbuffer.contents.drop k) := by
    have hiff := canAnswer_iff hinv' huse
    rw [hcont] at hiff
    exact hiff.trans (recoverable_iff hselected hlen)
  constructor
  · intro hall hlimit hwedged
    have hnot : ¬ CompleteFrame cfg ctx.serial (ctx.rxCbuffer.contents.drop k) :=
      hwedged.not_complete hlen
    have hcan := (hall _ (parseResponse_needMore hinv huse hstart hlimit hnot)).2
    exact hanswer.mp hcan hwedged
  · intro hnot ctx' hres
    obtain ⟨hlimit, hincomplete⟩ := (parseResponse_needMore_iff hinv huse).mp ⟨_, hres⟩
    rw [hstart] at hlimit hincomplete
    rw [parseResponse_needMore hinv huse hstart hlimit hincomplete] at hres
    cases hres
    have hcan := hanswer.mpr (hnot hlimit)
    refine ⟨Nat.lt_of_le_of_ne hinv'.contents_length_le fun hfull => ?_, hcan⟩
    -- behind a full buffer there is room for nothing, and nothing changes nothing
    obtain ⟨x, hx, hmore⟩ := (canAnswer_iff hinv' huse).mp hcan
    obtain rfl : x = [] := List.eq_nil_of_length_eq_zero (by omega)
    apply hmore
    have hzero : frameStart cfg ctx.serial (ctx.rxCbuffer.contents.drop k) = 0 := by
      rcases hselected with h | h
      · rw [h]
        rfl
      · exact skip_eq_zero h
    rw [List.append_nil, hcont]
    show NeedsMore cfg ctx.serial _
    rw [NeedsMore, hzero]
    exact ⟨Nat.zero_le _, hincomplete⟩

/-! ## A wedged context -/

/-- A 3E header has arrived that announces 49 bytes, which is the size of the whole receive
buffer. -/
def wedgedContext : Context :=
  contextAfter .smallest
    [.acquire, .setRequest 0 .batchRead .D 100 1,
      .feedResponseBytes 0 (some [0xD0, 0x00, 0x00, 0xFF, 0xFF, 0x03, 0x00, 0x31, 0x00]) 9]

theorem wedgedContext_acquired : Acquired .smallest wedgedContext :=
  acquired_contextAfter (by decide +kernel)

theorem wedgedContext_leastViable :
    LeastViable .smallest wedgedContext.serial wedgedContext.rxCbuffer.contents 0 := by
  decide +kernel

theorem wedgedContext_overlong :
    OverlongAt .smallest wedgedContext.serial (wedgedContext.rxCbuffer.contents.drop 0) 0 := by
  decide +kernel

/-- No bytes that fit make the parser answer. -/
theorem overlong_header_wedges :
    ¬ ∀ (cfg : Config) (ctx ctx' : Context), Acquired cfg ctx →
      parseResponse cfg ctx = some (.errNeedMore, ctx') → CanAnswer cfg ctx' := by
  intro hall
  obtain ⟨hinv, huse⟩ := acquired_inv wedgedContext_acquired
  have hstart := leastViable_iff.mp wedgedContext_leastViable
  have hwedged : Wedged .smallest wedgedContext.serial (wedgedContext.rxCbuffer.contents.drop 0) :=
    Or.inl wedgedContext_overlong
  have hle : 0 + 0 ≤ wedgedContext.rxCbuffer.contents.length := Nat.zero_le _
  have hinv' : (wedgedContext.taken 0 0).Inv .smallest := hinv.taken hle
  have hcont := hinv.contents_taken hle
  have hcan := hall _ _ _ wedgedContext_acquired
    (parseResponse_needMore hinv huse hstart (Nat.zero_le _)
      (hwedged.not_complete (by decide +kernel)))
  have hrec := (canAnswer_iff hinv' huse).mp hcan
  rw [hcont] at hrec
  exact not_recoverable_of_wedged hwedged hrec

theorem needMore_recoverable_iff_wedgedContext :
    (∀ ctx', parseResponse .smallest wedgedContext = some (.errNeedMore, ctx') →
      ctx'.rxCbuffer.contents.length < FX5_IOBUF_SIZE .smallest ∧ CanAnswer .smallest ctx') ↔
    (0 ≤ FX5_RESYNC_LIMIT →
      ¬ Wedged .smallest wedgedContext.serial (wedgedContext.rxCbuffer.contents.drop 0)) :=
  needMore_recoverable_iff wedgedContext_acquired wedgedContext_leastViable

end Reachable

end Fx5
