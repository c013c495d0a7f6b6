import Mathlib.Data.List.GetD

/-!
# Booleans packed into machine words and into nibbles

Two encodings of a list of booleans:

* one bit each in an array of `w`-bit words, lowest bit first (`bitAt`, `setBit`), the
  layout of a bit set in memory.  `bitAt_setBitAt` says that storing one bit changes that bit
  and no other, `bitAt_storeBits` the same of a block of bits;
* one nibble each in a byte string, high nibble first (`packPairs`, `unpackPairs`), with the
  strict reader `decodePairs` that rejects every nibble other than 0 and 1 and every byte too
  many.  `decodePairs_packPairs` and `unpackPairs_packPairs` are the round trips.
-/

set_option autoImplicit false

namespace PackedBits

/-! ## Bits in words -/

variable {w : Nat}

/-- The word with bit `j` set to `b`. -/
def setBit (x : BitVec w) (j : Nat) (b : Bool) : BitVec w :=
  if b then x ||| (1#w <<< j) else x &&& ~~~(1#w <<< j)

/-- Bit `i` of an array of words; beyond the array every bit is off. -/
def bitAt (xs : List (BitVec w)) (i : Nat) : Bool := (xs.getD (i / w) 0).getLsbD (i % w)

theorem getLsbD_mask {j k : Nat} (hk : k < w) : (1#w <<< j).getLsbD k = decide (k = j) := by
  rw [BitVec.getLsbD_shiftLeft, BitVec.getLsbD_one]
  by_cases hj : k < j
  · simp [hj, hk, show k ≠ j by omega]
  · simp [hj, hk, show 0 < w by omega]
    omega

theorem getLsbD_setBit {x : BitVec w} {j k : Nat} (b : Bool) (hk : k < w) :
    (setBit x j b).getLsbD k = if k = j then b else x.getLsbD k := by
  unfold setBit
  cases b with
  | true =>
    rw [if_pos rfl, BitVec.getLsbD_or, getLsbD_mask hk]
    by_cases h : k = j <;> simp [h]
  | false =>
    rw [if_neg (by decide), BitVec.getLsbD_and, BitVec.getLsbD_not, getLsbD_mask hk]
    by_cases h : k = j <;> simp [h, hk]

/-- Testing a word against the one-bit mask reads that bit. -/
theorem and_mask_ne_zero {x : BitVec w} {j : Nat} (hj : j < w) :
    (x &&& (1#w <<< j) ≠ 0) ↔ x.getLsbD j = true := by
  constructor
  · intro h
    refine Decidable.byContradiction fun hx => h ?_
    apply BitVec.eq_of_getLsbD_eq
    intro k hk
    rw [BitVec.getLsbD_and, getLsbD_mask hk]
    by_cases hkj : k = j
    · subst hkj
      simp [hx]
    · simp [hkj]
  · intro hx h
    have := congrArg (fun y => BitVec.getLsbD y j) h
    simp only [BitVec.getLsbD_and, getLsbD_mask hj, hx] at this
    simp at this

/-- Bit `i` of an array of words is set to `b`. -/
def setBitAt (xs : List (BitVec w)) (i : Nat) (b : Bool) : List (BitVec w) :=
  xs.set (i / w) (setBit (xs.getD (i / w) 0) (i % w) b)

@[simp] theorem setBitAt_length (xs : List (BitVec w)) (i : Nat) (b : Bool) :
    (setBitAt xs i b).length = xs.length := List.length_set

/-- **Storing one bit changes that bit and no other.** -/
theorem bitAt_setBitAt {xs : List (BitVec w)} {i : Nat} (b : Bool) (hw : 0 < w)
    (hi : i / w < xs.length) (k : Nat) :
    bitAt (setBitAt xs i b) k = if k = i then b else bitAt xs k := by
  unfold bitAt setBitAt
  by_cases hslot : k / w = i / w
  · rw [hslot, List.getD_eq_getElem _ _ (by rw [List.length_set]; exact hi),
      List.getElem_set_self, getLsbD_setBit b (Nat.mod_lt _ hw)]
    have hiff : k % w = i % w ↔ k = i := by
      constructor
      · intro h
        rw [← Nat.div_add_mod k w, ← Nat.div_add_mod i w, hslot, h]
      · rintro rfl
        rfl
    simp only [hiff]
  · rw [if_neg (by rintro rfl; exact hslot rfl), List.getD_eq_getElem?_getD,
      List.getElem?_set_ne (Ne.symm hslot), ← List.getD_eq_getElem?_getD]

/-- The bits `bs` are stored from bit `i` on. -/
def storeBits (xs : List (BitVec w)) : Nat → List Bool → List (BitVec w)
  | _, [] => xs
  | i, b :: bs => storeBits (setBitAt xs i b) (i + 1) bs

@[simp] theorem storeBits_length (xs : List (BitVec w)) (i : Nat) (bs : List Bool) :
    (storeBits xs i bs).length = xs.length := by
  induction bs generalizing xs i with
  | nil => rfl
  | cons b bs ih => rw [storeBits, ih, setBitAt_length]

theorem storeBits_append (xs : List (BitVec w)) (i : Nat) (bs cs : List Bool) :
    storeBits xs i (bs ++ cs) = storeBits (storeBits xs i bs) (i + bs.length) cs := by
  induction bs generalizing xs i with
  | nil => rfl
  | cons b bs ih =>
    rw [List.cons_append, storeBits, storeBits, ih, List.length_cons, Nat.add_right_comm,
      Nat.add_assoc]

/-- **A stored block is read back, and the other bits are unchanged.** -/
theorem bitAt_storeBits {xs : List (BitVec w)} {i : Nat} {bs : List Bool} (hw : 0 < w)
    (h : i + bs.length ≤ w * xs.length) (k : Nat) :
    bitAt (storeBits xs i bs) k =
      if i ≤ k ∧ k < i + bs.length then bs.getD (k - i) false else bitAt xs k := by
  induction bs generalizing xs i with
  | nil => rw [storeBits, if_neg (by simp)]
  | cons b bs ih =>
    rw [List.length_cons] at h
    have hslot : i / w < xs.length := by
      rw [Nat.div_lt_iff_lt_mul hw, Nat.mul_comm]
      omega
    rw [storeBits, ih (by rw [setBitAt_length]; omega), bitAt_setBitAt b hw hslot,
      List.length_cons]
    rcases Nat.lt_trichotomy k i with hk | hk | hk
    · rw [if_neg (by omega), if_neg (by omega), if_neg (by omega)]
    · subst hk
      rw [if_neg (by omega), if_pos rfl, if_pos (by omega), Nat.sub_self, List.getD_cons_zero]
    · by_cases hend : k < i + 1 + bs.length
      · rw [if_pos ⟨by omega, hend⟩, if_pos (by omega), show k - i = k - (i + 1) + 1 by omega,
          List.getD_cons_succ]
      · rw [if_neg (by omega), if_neg (by omega), if_neg (by omega)]

/-! ## Nibble pairs in bytes -/

def nibblePair (hi lo : Bool) : BitVec 8 :=
  (if hi then 0x10#8 else 0x00#8) ||| (if lo then 0x01#8 else 0x00#8)

def packPairs : List Bool → List (BitVec 8)
  | [] => []
  | [b] => [nibblePair b false]
  | b :: c :: bs => nibblePair b c :: packPairs bs

def highNibble (b : BitVec 8) : BitVec 8 := (b >>> 4) &&& 0x0F#8
def lowNibble (b : BitVec 8) : BitVec 8 := b &&& 0x0F#8

def unpackPairs : List (BitVec 8) → List Bool
  | [] => []
  | b :: bs => (highNibble b == 0x01#8) :: (lowNibble b == 0x01#8) :: unpackPairs bs

/-- A nibble that stands for a boolean. -/
def nibbleBool (x : BitVec 8) : Option Bool :=
  if x = 0x00#8 then some false else if x = 0x01#8 then some true else none

/-- Read exactly `n` booleans; the unused low nibble of an odd count must be 0. -/
def decodePairs : Nat → List (BitVec 8) → Option (List Bool)
  | 0, [] => some []
  | 1, [b] => if lowNibble b = 0x00#8 then (nibbleBool (highNibble b)).map ([·]) else none
  | n + 2, b :: bs => do
    let hi ← nibbleBool (highNibble b)
    let lo ← nibbleBool (lowNibble b)
    let rest ← decodePairs n bs
    some (hi :: lo :: rest)
  | _, _ => none

@[simp] theorem highNibble_nibblePair (hi lo : Bool) :
    highNibble (nibblePair hi lo) = if hi then 0x01#8 else 0x00#8 := by
  cases hi <;> cases lo <;> decide

@[simp] theorem lowNibble_nibblePair (hi lo : Bool) :
    lowNibble (nibblePair hi lo) = if lo then 0x01#8 else 0x00#8 := by
  cases hi <;> cases lo <;> decide

@[simp] theorem nibbleBool_ite (b : Bool) :
    nibbleBool (if b then 0x01#8 else 0x00#8) = some b := by
  cases b <;> decide

theorem packPairs_length : ∀ bs, (packPairs bs).length = (bs.length + 1) / 2
  | [] => rfl
  | [b] => by simp [packPairs]
  | b :: c :: bs => by
    rw [packPairs, List.length_cons, packPairs_length bs, List.length_cons, List.length_cons]
    omega

theorem unpackPairs_length : ∀ bs, (unpackPairs bs).length = 2 * bs.length
  | [] => rfl
  | b :: bs => by
    rw [unpackPairs, List.length_cons, List.length_cons, unpackPairs_length bs, List.length_cons]
    omega

theorem unpackPairs_append (bs cs : List (BitVec 8)) :
    unpackPairs (bs ++ cs) = unpackPairs bs ++ unpackPairs cs := by
  induction bs with
  | nil => rfl
  | cons b bs ih => rw [List.cons_append, unpackPairs, ih, unpackPairs, List.cons_append,
      List.cons_append]

/-- **Round trip through the lenient reader.** -/
theorem unpackPairs_packPairs : ∀ bs, (unpackPairs (packPairs bs)).take bs.length = bs
  | [] => rfl
  | [b] => by cases b <;> decide
  | b :: c :: bs => by
    rw [packPairs, unpackPairs, List.length_cons, List.length_cons, List.take_succ_cons,
      List.take_succ_cons, unpackPairs_packPairs bs, highNibble_nibblePair, lowNibble_nibblePair]
    cases b <;> cases c <;> rfl

/-- **Round trip through the strict reader.** -/
theorem decodePairs_packPairs : ∀ bs, decodePairs bs.length (packPairs bs) = some bs
  | [] => rfl
  | [b] => by cases b <;> decide
  | b :: c :: bs => by
    simp only [packPairs, List.length_cons, decodePairs, highNibble_nibblePair,
      lowNibble_nibblePair, nibbleBool_ite, decodePairs_packPairs bs]
    rfl

end PackedBits
