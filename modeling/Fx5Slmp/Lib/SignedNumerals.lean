import Fx5Slmp.Lib.TextFields

/-!
# Signed numerals

`strtol` and `strtoul` read white space, an optional sign and a numeral, and stop behind it; a number
beyond the range of the result is replaced by the bound.

* `SignedText` — what they read, and what is left;
* `strtol_signedText`, `strtoul_signedText`, `signedText_or` — they read this whenever it is there,
  and nothing otherwise;
* `signedText_cstr` — a string that is such a text and nothing more.
-/

set_option autoImplicit false

namespace CText

/-- `LONG_MAX`, half of the range of `unsigned long`. -/
def Platform.LONG_MAX (platform : Platform) : Nat := platform.ULONG_MAX / 2

/-- `strtol(s, &endptr, base)` for the bases 2 to 36: the result and `endptr`. -/
def strtol (platform : Platform) (s : List Char) (base : Nat) : Int × List Char :=
  let (negative, p) := strtoulSign (skipSpaces s)
  let p := if base = 16 && hasHexPrefix p then p.drop 2 else p
  let digits := p.takeWhile (isDigitIn base)
  if digits = [] then (0, s)
  else
    let n := digitsValue base digits
    (if negative then -((min n (platform.LONG_MAX + 1) : Nat) : Int)
      else ((min n platform.LONG_MAX : Nat) : Int), p.dropWhile (isDigitIn base))

/-- What an `unsigned long` holds of a number that was written with or without a minus: the bound
where the number is beyond it, and the number modulo the range where it is not. -/
def Platform.loaded (platform : Platform) (negative : Bool) (n : Nat) : Nat :=
  if n > platform.ULONG_MAX then platform.ULONG_MAX
  else if negative then (platform.ULONG_MAX + 1 - n) % (platform.ULONG_MAX + 1)
  else n

/-- An optional sign. -/
def IsSign (negative : Bool) (sign : List Char) : Prop :=
  if negative then sign = ['-'] else sign = [] ∨ sign = ['+']

/-- White space, an optional sign and a numeral for `n`, with `rest` behind it. -/
structure SignedText (base : Nat) (text : List Char) (negative : Bool) (n : Nat) (rest : List Char) :
    Prop where
  split : ∃ spaces sign digits, text = spaces ++ (sign ++ (digits ++ rest)) ∧
    (∀ c ∈ spaces, isSpace c = true) ∧ IsSign negative sign ∧ IsNumeral base digits n
  stop : isDigitIn base (peek rest) = false

section Signed

variable {base n : Nat} {text rest : List Char} {negative : Bool}

theorem takeWhile_of_stop {p : Char → Bool} (h : p (peek rest) = false) :
    rest.takeWhile p = [] ∧ rest.dropWhile p = rest := by
  cases rest with
  | nil => exact ⟨rfl, rfl⟩
  | cons c rest =>
    have hc : ¬p c = true := by simpa using h
    exact ⟨List.takeWhile_cons_of_neg hc, List.dropWhile_cons_of_neg hc⟩

theorem stop_of_dropWhile {p : Char → Bool} (hp : p '\x00' = false) (l : List Char) :
    p (peek (l.dropWhile p)) = false := by
  have hhead := List.head?_dropWhile_not p l
  cases hrest : l.dropWhile p with
  | nil => exact hp
  | cons c rest =>
    rw [hrest] at hhead
    exact hhead

/-- A sign in front of something that is no sign and no space. -/
theorem strtoulSign_append {sign p : List Char} (hsign : IsSign negative sign)
    (hp : peek p ≠ '-' ∧ peek p ≠ '+' ∧ isSpace (peek p) = false) :
    skipSpaces (sign ++ p) = sign ++ p ∧ strtoulSign (sign ++ p) = (negative, p) := by
  cases negative with
  | true =>
    obtain rfl : sign = ['-'] := hsign
    exact ⟨skipSpaces_of_not_space (show isSpace '-' = false by decide), rfl⟩
  | false =>
    have hsign : sign = [] ∨ sign = ['+'] := hsign
    rcases hsign with rfl | rfl
    · rw [List.nil_append]
      exact ⟨skipSpaces_of_not_space hp.2.2, by rw [strtoulSign, if_neg hp.1, if_neg hp.2.1]⟩
    · exact ⟨skipSpaces_of_not_space (show isSpace '+' = false by decide), rfl⟩

/-- What is scanned of a signed numeral. -/
theorem SignedText.scan (h : SignedText base text negative n rest) :
    ∃ p, strtoulSign (skipSpaces text) = (negative, p) ∧
      IsNumeral base (p.takeWhile (isDigitIn base)) n ∧ p.dropWhile (isDigitIn base) = rest := by
  obtain ⟨⟨spaces, sign, digits, rfl, hspaces, hsign, hdigits⟩, hstop⟩ := h
  obtain ⟨htake, hdrop⟩ := takeWhile_of_stop hstop
  have hhead := hdigits.peek_append rest
  obtain ⟨hspace, hminus, hplus, _⟩ := plain_of_isAlphanum (isAlphanum_of_isDigitIn hhead)
  obtain ⟨hskip, hsigned⟩ := strtoulSign_append hsign ⟨hminus, hplus, hspace⟩
  refine ⟨digits ++ rest, ?_, ?_, ?_⟩
  · rw [skipSpaces_append hspaces, hskip, hsigned]
  · rwa [List.takeWhile_append_of_pos hdigits.digits, htake, List.append_nil]
  · rw [List.dropWhile_append_of_pos hdigits.digits, hdrop]

/-- **What is there is read**, up to saturation. -/
theorem strtol_signedText (platform : Platform) (h16 : base ≠ 16)
    (h : SignedText base text negative n rest) :
    strtol platform text base =
      (if negative then -((min n (platform.LONG_MAX + 1) : Nat) : Int)
        else ((min n platform.LONG_MAX : Nat) : Int), rest) := by
  obtain ⟨p, hsigned, hdigits, hrest⟩ := h.scan
  rw [strtol, hsigned]
  simp only [h16, decide_false, Bool.false_and, Bool.false_eq_true, if_false, hrest,
    hdigits.nonempty, hdigits.value]

/-- **What is there is loaded** into an `unsigned long`. -/
theorem strtoul_signedText (platform : Platform) (h16 : base ≠ 16)
    (h : SignedText base text negative n rest) :
    strtoul platform text base = (platform.loaded negative n, rest) := by
  obtain ⟨p, hsigned, hdigits, hrest⟩ := h.scan
  rw [strtoul, hsigned]
  simp only [h16, decide_false, Bool.false_and, Bool.false_eq_true, if_false, hrest,
    hdigits.nonempty, hdigits.value, Platform.loaded]

/-- **Nothing else is read.** -/
theorem signedText_or (platform : Platform) (h16 : base ≠ 16) (text : List Char) :
    (∃ negative n rest, SignedText base text negative n rest) ∨
      strtol platform text base = (0, text) ∧ strtoul platform text base = (0, text) := by
  obtain ⟨spaces, htext, hspaces⟩ := exists_spaces text
  obtain ⟨negative, p, hsigned⟩ : ∃ negative p, strtoulSign (skipSpaces text) = (negative, p) :=
    ⟨_, _, rfl⟩
  by_cases hnone : p.takeWhile (isDigitIn base) = []
  · refine Or.inr ?_
    rw [strtol, strtoul, hsigned]
    simp only [h16, decide_false, Bool.false_and, Bool.false_eq_true, if_false, hnone, if_true,
      and_self]
  · obtain ⟨sign, hsplit, hsign⟩ : ∃ sign, skipSpaces text = sign ++ p ∧ IsSign negative sign := by
      unfold strtoulSign at hsigned
      split at hsigned
      · rename_i hminus
        cases hsigned
        exact ⟨['-'], eq_cons_of_peek hminus (by decide), rfl⟩
      split at hsigned
      · rename_i hplus
        cases hsigned
        exact ⟨['+'], eq_cons_of_peek hplus (by decide), Or.inr rfl⟩
      · cases hsigned
        exact ⟨[], rfl, Or.inl rfl⟩
    refine Or.inl ⟨negative, _, p.dropWhile (isDigitIn base),
      ⟨spaces, sign, p.takeWhile (isDigitIn base), ?_, hspaces, hsign,
        hnone, fun c hc => List.mem_takeWhile_imp hc, rfl⟩, ?_⟩
    · rw [List.takeWhile_append_dropWhile, ← hsplit]
      exact htext
    · exact stop_of_dropWhile rfl p

theorem IsSign.plain {sign : List Char} (h : IsSign negative sign) : ∀ c ∈ sign, c ≠ '\x00' := by
  intro c hc
  cases negative with
  | true =>
    obtain rfl : sign = ['-'] := h
    obtain rfl := List.mem_singleton.mp hc
    decide
  | false =>
    have h : sign = [] ∨ sign = ['+'] := h
    rcases h with rfl | rfl
    · cases hc
    · obtain rfl := List.mem_singleton.mp hc
      decide

theorem SignedText.peek_ne (h : SignedText base text negative n rest) : peek text ≠ '\x00' := by
  obtain ⟨⟨spaces, sign, digits, rfl, hspaces, hsign, hdigits⟩, _⟩ := h
  have hhead := hdigits.peek_append rest
  obtain ⟨_, _, _, _, _, hnul⟩ := plain_of_isAlphanum (isAlphanum_of_isDigitIn hhead)
  cases spaces with
  | cons c spaces => exact ne_nul_of_isSpace (hspaces c List.mem_cons_self)
  | nil =>
    cases sign with
    | cons c sign => exact hsign.plain c List.mem_cons_self
    | nil => exact hnul

/-- **A string that is such a text** and nothing more. -/
theorem signedText_cstr : SignedText base (cstr text) negative n [] ↔
    ∃ rest, SignedText base text negative n rest ∧ peek rest = '\x00' := by
  constructor
  · rintro ⟨⟨spaces, sign, digits, htext, hparts⟩, hstop⟩
    have hend : peek (text.dropWhile (· ≠ '\x00')) = '\x00' := by
      simpa using stop_of_dropWhile (p := fun c => decide (c ≠ '\x00')) rfl text
    refine ⟨text.dropWhile (· ≠ '\x00'), ⟨⟨spaces, sign, digits, ?_, hparts⟩, ?_⟩, hend⟩
    · have hsplit : cstr text ++ text.dropWhile (· ≠ '\x00') = text :=
        List.takeWhile_append_dropWhile
      rw [htext, List.append_nil] at hsplit
      simpa only [List.append_assoc] using hsplit.symm
    · rw [hend]
      exact hstop
  · rintro ⟨rest, ⟨⟨spaces, sign, digits, rfl, hspaces, hsign, hdigits⟩, hstop⟩, hend⟩
    refine ⟨⟨spaces, sign, digits, ?_, hspaces, hsign, hdigits⟩, by rwa [hend] at hstop⟩
    rw [cstr_append fun c hc => ne_nul_of_isSpace (hspaces c hc), cstr_append hsign.plain,
      cstr_append fun c hc => ?_, cstr_of_peek hend]
    obtain ⟨_, _, _, _, _, hnul⟩ := plain_of_isAlphanum (isAlphanum_of_isDigitIn (hdigits.digits c hc))
    exact hnul

end Signed

end CText
