import Fx5Slmp.Lib.CText
import Mathlib.Data.Nat.Digits.Lemmas

/-!
# Numerals as `printf` writes them

`%lo`, `%lu` and `%lX` write a number in base 8, 10 or 16 with upper-case letters and without
leading zeros.

* `printNumeral_isNumeral` — what is printed is a numeral for the number;
* `digitsValue_append`, `digitsValue_suffix_lt` — the digits behind a first digit that is not zero
  stand for a smaller number.
-/

set_option autoImplicit false

namespace CText

/-- A digit below 16. -/
def digitChar (d : Nat) : Char :=
  if d < 10 then Char.ofNat ('0'.toNat + d) else Char.ofNat ('A'.toNat + (d - 10))

/-- The numeral for a number, with the most significant digit first. -/
def printNumeral (base n : Nat) : List Char :=
  if n = 0 then ['0'] else (Nat.digits base n).reverse.map digitChar

section Printing

variable {base : Nat}

theorem digitChar_spec {d : Nat} (h : d < 16) :
    (digitChar d).isAlphanum = true ∧ digitValue (digitChar d) = d := by
  have hall : ∀ d, d < 16 → (digitChar d).isAlphanum = true ∧ digitValue (digitChar d) = d := by
    decide
  exact hall d h

theorem isDigitIn_digitChar {d : Nat} (hbase : base ≤ 16) (h : d < base) :
    isDigitIn base (digitChar d) = true := by
  obtain ⟨halnum, hvalue⟩ := digitChar_spec (by omega : d < 16)
  rw [isDigitIn, halnum, hvalue, decide_eq_true h]
  rfl

/-- The digits stand for the number they were taken from. -/
theorem digitsValue_digits (hbase : base ≤ 16) {ds : List Nat} (h : ∀ d ∈ ds, d < base) :
    digitsValue base (ds.reverse.map digitChar) = Nat.ofDigits base ds := by
  rw [digitsValue, List.foldl_map, List.foldl_reverse]
  induction ds with
  | nil => rfl
  | cons d ds ih =>
    have hd := h d List.mem_cons_self
    rw [List.foldr_cons, ih fun e he => h e (List.mem_cons_of_mem _ he), Nat.ofDigits_cons,
      (digitChar_spec (by omega : d < 16)).2, Nat.mul_comm, Nat.add_comm]

/-- **A number is printed as a numeral for it.** -/
theorem printNumeral_isNumeral (hbase : 2 ≤ base) (hle : base ≤ 16) (n : Nat) :
    IsNumeral base (printNumeral base n) n := by
  rw [printNumeral]
  split
  · rename_i h0
    subst h0
    have hzero : isDigitIn base '0' = true :=
      isDigitIn_digitChar hle (by omega : 0 < base)
    refine ⟨List.cons_ne_nil _ _, fun c hc => ?_, ?_⟩
    · rw [List.mem_singleton.mp hc]
      exact hzero
    · show 0 * base + 0 = 0
      omega
  · rename_i h0
    have hdigits : ∀ d ∈ Nat.digits base n, d < base := fun d hd => Nat.digits_lt_base hbase hd
    refine ⟨?_, fun c hc => ?_, ?_⟩
    · rw [ne_eq, List.map_eq_nil_iff, List.reverse_eq_nil_iff]
      exact Nat.digits_ne_nil_iff_ne_zero.mpr h0
    · obtain ⟨d, hd, rfl⟩ := List.mem_map.mp hc
      exact isDigitIn_digitChar hle (hdigits d (List.mem_reverse.mp hd))
    · rw [digitsValue_digits hle hdigits, Nat.ofDigits_digits]

end Printing

/-! ## Digits behind other digits -/

/-- A letter is a digit above 9. -/
theorem digitValue_letter {c : Char} (h : c.isAlpha = true) : 10 ≤ digitValue c := by
  have hupper (hu : c.isUpper = true) : 65 ≤ c.toNat := by
    have hle : 'A'.val ≤ c.val := (of_decide_eq_true hu).1
    exact UInt32.le_iff_toNat_le.mp hle
  have hlower (hl : c.isLower = true) : 97 ≤ c.toNat := by
    have hle : 'a'.val ≤ c.val := of_decide_eq_true (Bool.and_eq_true_iff.mp hl).1
    exact UInt32.le_iff_toNat_le.mp hle
  have hdigit : ¬c.isDigit = true := by
    intro hd
    have hle := (isDigit_iff_toNat.mp hd).2
    rcases Bool.or_eq_true_iff.mp h with hu | hl
    · have := hupper hu
      omega
    · have := hlower hl
      omega
  rw [digitValue, if_neg hdigit]
  split
  · omega
  · omega

theorem digitsValue_append (base : Nat) (a b : List Char) :
    digitsValue base (a ++ b) = digitsValue base a * base ^ b.length + digitsValue base b := by
  induction b using List.reverseRecOn with
  | nil => simp [digitsValue]
  | append_singleton b c ih =>
    have hlast : ∀ l : List Char, digitsValue base (l ++ [c]) =
        digitsValue base l * base + digitValue c := fun l => by
      rw [digitsValue, List.foldl_append]
      rfl
    rw [← List.append_assoc, hlast, hlast, ih, List.length_append, List.length_singleton,
      Nat.pow_succ, Nat.add_mul, Nat.mul_assoc]
    omega

/-- What follows a first digit that is not zero stands for less. -/
theorem digitsValue_suffix_lt {base : Nat} (hbase : 0 < base) {c : Char} (hc : 0 < digitValue c)
    (a b : List Char) : digitsValue base b < digitsValue base (c :: a ++ b) := by
  have hfirst : digitsValue base (c :: a) = digitValue c * base ^ a.length + digitsValue base a := by
    have happend := digitsValue_append base [c] a
    rw [show digitsValue base [c] = digitValue c by simp [digitsValue]] at happend
    exact happend
  have hpos : 0 < digitsValue base (c :: a) * base ^ b.length := by
    rw [hfirst]
    have := Nat.mul_pos hc (Nat.pow_pos (n := a.length) hbase)
    exact Nat.mul_pos (by omega) (Nat.pow_pos hbase)
  rw [digitsValue_append]
  omega

end CText
