import Mathlib.Data.List.Basic

/-!
# C strings and the cursor functions of the C library

A cursor into a string is the text from the cursor to the end; the character there is the
terminating NUL when the text is used up.  The character classes are those of the C locale.

* `skipSpaces`, `startsWith`, `strcmpEq` — `while (isspace(*p)) ++p`, `strncmp(p, s, strlen(s)) == 0`
  and `strcmp(p, s) == 0`;
* `strtoul` — with white space, sign, hexadecimal prefix and saturation at `ULONG_MAX`;
* `strtoul_of_digit`, `strtoul_numeral` — on a digit it reads the whole run of digits, and so a
  numeral exactly.
-/

set_option autoImplicit false

namespace CText

/-- The range of `unsigned long`, which has at least 32 bits. -/
structure Platform where
  ULONG_MAX : Nat
  ulong_max_ge : 0xFFFFFFFF ≤ ULONG_MAX

/-- `*p`. -/
def peek (p : List Char) : Char := p.headD '\x00'

/-- `isspace`. -/
def isSpace (c : Char) : Bool := [' ', '\t', '\n', '\x0b', '\x0c', '\r'].contains c

/-- The value of a letter or digit as a digit. -/
def digitValue (c : Char) : Nat :=
  if c.isDigit then c.toNat - '0'.toNat
  else if c.isLower then c.toNat - 'a'.toNat + 10
  else c.toNat - 'A'.toNat + 10

/-- `c` is a digit in `base`. -/
def isDigitIn (base : Nat) (c : Char) : Bool := c.isAlphanum && digitValue c < base

/-- `isxdigit`. -/
def isXDigit (c : Char) : Bool := isDigitIn 16 c

/-- `while (*p != '\0' && isspace(*p)) ++p`. -/
def skipSpaces (p : List Char) : List Char := p.dropWhile isSpace

/-- `strncmp(p, s, strlen(s)) == 0`. -/
def startsWith (p s : List Char) : Bool := s.isPrefixOf p

/-- `strcmp(p, s) == 0`. -/
def strcmpEq (p s : List Char) : Bool := p.takeWhile (· ≠ '\x00') = s

/-- The number a string of digits stands for. -/
def digitsValue (base : Nat) (digits : List Char) : Nat :=
  digits.foldl (fun n c => n * base + digitValue c) 0

/-- An optional sign: whether it is a minus, and the text behind it. -/
def strtoulSign (p : List Char) : Bool × List Char :=
  if peek p = '-' then (true, p.drop 1)
  else if peek p = '+' then (false, p.drop 1)
  else (false, p)

/-- The prefix `0x`, which counts only in front of a hexadecimal digit. -/
def hasHexPrefix (p : List Char) : Bool :=
  peek p = '0' && (peek (p.drop 1) = 'x' || peek (p.drop 1) = 'X') && isXDigit (peek (p.drop 2))

/-- `strtoul(s, &endptr, base)` for the bases 2 to 36: the result and `endptr`. -/
def strtoul (platform : Platform) (s : List Char) (base : Nat) : Nat × List Char :=
  let (negative, p) := strtoulSign (skipSpaces s)
  let p := if base = 16 && hasHexPrefix p then p.drop 2 else p
  let digits := p.takeWhile (isDigitIn base)
  if digits = [] then (0, s)
  else
    let n := digitsValue base digits
    (if n > platform.ULONG_MAX then platform.ULONG_MAX
      else if negative then (platform.ULONG_MAX + 1 - n) % (platform.ULONG_MAX + 1)
      else n, p.dropWhile (isDigitIn base))

/-- `text` is a numeral for `n` in `base`. -/
structure IsNumeral (base : Nat) (text : List Char) (n : Nat) : Prop where
  nonempty : text ≠ []
  digits : ∀ c ∈ text, isDigitIn base c = true
  value : digitsValue base text = n

/-! ## Characters -/

@[simp] theorem peek_nil : peek [] = '\x00' := rfl

@[simp] theorem peek_cons (c : Char) (p : List Char) : peek (c :: p) = c := rfl

theorem peek_append {p : List Char} (h : p ≠ []) (q : List Char) : peek (p ++ q) = peek p := by
  cases p with
  | nil => exact absurd rfl h
  | cons c p => rfl

theorem eq_cons_of_peek {p : List Char} {c : Char} (h : peek p = c) (hc : c ≠ '\x00') :
    p = c :: p.drop 1 := by
  cases p with
  | nil => exact absurd h.symm hc
  | cons d p => rw [← h]; rfl

theorem isAlphanum_of_isDigitIn {base : Nat} {c : Char} (h : isDigitIn base c = true) :
    c.isAlphanum = true := (Bool.and_eq_true_iff.mp h).1

theorem strcmpEq_of_peek_ne {p s : List Char} (h : peek p ≠ peek s) (hs : peek s ≠ '\x00') :
    strcmpEq p s = false := by
  refine decide_eq_false ?_
  rintro rfl
  cases p with
  | nil => exact hs rfl
  | cons c p =>
    by_cases hc : c = '\x00'
    · exact hs (by rw [hc, List.takeWhile_cons_of_neg (by decide)]; rfl)
    · exact h (by rw [List.takeWhile_cons_of_pos (by simpa using hc)]; rfl)

/-- A digit is no white space, no sign, no separator and no NUL. -/
theorem plain_of_isAlphanum {c : Char} (h : c.isAlphanum = true) :
    isSpace c = false ∧ c ≠ '-' ∧ c ≠ '+' ∧ c ≠ ',' ∧ c ≠ '=' ∧ c ≠ '\x00' := by
  refine ⟨?_, ?_, ?_, ?_, ?_, ?_⟩
  · refine Bool.eq_false_iff.mpr fun hs => ?_
    simp only [isSpace, List.contains_eq_mem, List.mem_cons, List.not_mem_nil, or_false,
      decide_eq_true_eq] at hs
    rcases hs with rfl | rfl | rfl | rfl | rfl | rfl <;> exact absurd h (by decide)
  all_goals
    rintro rfl
    exact absurd h (by decide)

theorem isDigit_iff_toNat {c : Char} : c.isDigit = true ↔ 48 ≤ c.toNat ∧ c.toNat ≤ 57 := by
  simp [Char.isDigit, UInt32.le_iff_toNat_le, ← Char.toNat_val]

/-- `isdigit` is the class of the decimal digits. -/
theorem isDigitIn_ten (c : Char) : isDigitIn 10 c = c.isDigit := by
  have h0 : '0'.toNat = 48 := rfl
  have ha : 'a'.toNat = 97 := rfl
  have hA : 'A'.toNat = 65 := rfl
  have halnum : c.isAlphanum = (c.isUpper || c.isLower || c.isDigit) := rfl
  rw [isDigitIn, digitValue, halnum]
  by_cases hd : c.isDigit = true
  · have hbounds := isDigit_iff_toNat.mp hd
    rw [if_pos hd, hd]
    simp only [Bool.or_true, Bool.true_and, decide_eq_true_eq]
    omega
  · rw [if_neg hd, Bool.eq_false_iff.mpr hd]
    simp only [Bool.or_false, Bool.and_eq_false_iff, decide_eq_false_iff_not]
    by_cases hl : c.isLower = true
    · rw [if_pos hl]
      right
      omega
    · rw [if_neg hl]
      right
      omega

/-- A digit of a base is a digit of every larger base. -/
theorem isDigitIn_mono {base base' : Nat} (h : base ≤ base') {c : Char}
    (hc : isDigitIn base c = true) : isDigitIn base' c = true := by
  simp only [isDigitIn, Bool.and_eq_true, decide_eq_true_eq] at hc ⊢
  exact ⟨hc.1, by omega⟩

/-! ## White space -/

theorem skipSpaces_of_not_space {p : List Char} (h : isSpace (peek p) = false) :
    skipSpaces p = p := by
  cases p with
  | nil => rfl
  | cons c p => exact List.dropWhile_cons_of_neg (by simpa using h)

theorem skipSpaces_length_le (p : List Char) : (skipSpaces p).length ≤ p.length :=
  (List.dropWhile_sublist _).length_le

/-! ## Numbers -/

section Numbers

variable {platform : Platform} {base n : Nat} {s text rest : List Char}

/-- On a digit, `strtoul` reads the whole run of digits. -/
theorem strtoul_of_digit (hd : isDigitIn base (peek s) = true)
    (hhex : base = 16 → hasHexPrefix s = false) :
    strtoul platform s base = (min (digitsValue base (s.takeWhile (isDigitIn base)))
      platform.ULONG_MAX, s.dropWhile (isDigitIn base)) := by
  obtain ⟨hspace, hminus, hplus, _, _, hnul⟩ := plain_of_isAlphanum (isAlphanum_of_isDigitIn hd)
  have hno : (decide (base = 16) && hasHexPrefix s) = false := by
    by_cases h16 : base = 16
    · rw [hhex h16, Bool.and_false]
    · rw [decide_eq_false h16, Bool.false_and]
  have hdigits : s.takeWhile (isDigitIn base) ≠ [] := by
    rw [eq_cons_of_peek rfl hnul, List.takeWhile_cons_of_pos hd]
    exact List.cons_ne_nil _ _
  rw [strtoul, skipSpaces_of_not_space hspace, strtoulSign, if_neg hminus, if_neg hplus]
  simp only [hno, Bool.false_eq_true, if_false, hdigits]
  congr 1
  split
  · omega
  · omega

theorem IsNumeral.unique {m : Nat} (hm : IsNumeral base text m) (hn : IsNumeral base text n) :
    m = n := hm.value.symm.trans hn.value

theorem IsNumeral.peek_append (h : IsNumeral base text n) (rest : List Char) :
    isDigitIn base (peek (text ++ rest)) = true := by
  rw [CText.peek_append h.nonempty]
  cases text with
  | nil => exact absurd rfl h.nonempty
  | cons c text => exact h.digits c List.mem_cons_self

/-- The letter of the prefix is no hexadecimal digit, so a numeral never has the prefix. -/
theorem IsNumeral.no_hexPrefix (h : IsNumeral 16 text n)
    (hx : peek rest ≠ 'x' ∧ peek rest ≠ 'X') : hasHexPrefix (text ++ rest) = false := by
  have hletter : peek ((text ++ rest).drop 1) ≠ 'x' ∧ peek ((text ++ rest).drop 1) ≠ 'X' := by
    cases text with
    | nil => exact absurd rfl h.nonempty
    | cons c text =>
      cases text with
      | nil => exact hx
      | cons d text =>
        have hd := h.digits d (List.mem_cons_of_mem _ List.mem_cons_self)
        constructor
        · rintro rfl
          exact absurd hd (by decide)
        · rintro rfl
          exact absurd hd (by decide)
  rw [hasHexPrefix, decide_eq_false hletter.1, decide_eq_false hletter.2, Bool.or_false,
    Bool.and_false, Bool.false_and]

/-- **`strtoul` reads a numeral exactly**, up to saturation. -/
theorem strtoul_numeral (h : IsNumeral base text n) (hrest : isDigitIn base (peek rest) = false)
    (hx : peek rest ≠ 'x' ∧ peek rest ≠ 'X') :
    strtoul platform (text ++ rest) base = (min n platform.ULONG_MAX, rest) := by
  have hstop : rest.takeWhile (isDigitIn base) = [] ∧ rest.dropWhile (isDigitIn base) = rest := by
    cases rest with
    | nil => exact ⟨rfl, rfl⟩
    | cons c rest =>
      have hc : ¬isDigitIn base c = true := by simpa using hrest
      exact ⟨List.takeWhile_cons_of_neg hc, List.dropWhile_cons_of_neg hc⟩
  rw [strtoul_of_digit (h.peek_append rest), List.takeWhile_append_of_pos h.digits,
    List.dropWhile_append_of_pos h.digits, hstop.1, hstop.2, List.append_nil, h.value]
  rintro rfl
  exact h.no_hexPrefix hx

end Numbers

end CText
