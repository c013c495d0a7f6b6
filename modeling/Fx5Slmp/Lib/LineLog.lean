import Fx5Slmp.Lib.PrintedNumerals
import Mathlib.Data.List.Basic

/-!
# Logs in text

A program writes a text piece by piece; a reader takes it line by line, and makes an entry of some
of the lines.  A prompt is a piece without a line break that the reader does not see.

* `Writes` — a piece of text gives these entries, whatever is written behind it;
* `Writes.append`, `Writes.flatMap` — pieces one after the other;
* `Writes.line`, `Writes.unseen` — a line, and a prompt;
* `printHexBytes`, `readHexBytes_print` — bytes as hexadecimal numerals with blanks between them,
  and back.
-/

set_option autoImplicit false

namespace LineLog

open CText

variable {ε ι : Type} {read : List Char → Option ε}

/-- What a reader makes of the lines of a text. -/
def readLines (read : List Char → Option ε) (text : List Char) : List ε :=
  (text.splitOn '\n').filterMap read

/-- The text adds these entries to a log, whatever is written behind it. -/
def Writes (read : List Char → Option ε) (text : List Char) (entries : List ε) : Prop :=
  ∀ rest, readLines read (text ++ rest) = entries ++ readLines read rest

theorem Writes.nil : Writes read [] [] := fun _ => rfl

/-- **One text behind another.** -/
theorem Writes.append {a b : List Char} {es fs : List ε} (ha : Writes read a es)
    (hb : Writes read b fs) : Writes read (a ++ b) (es ++ fs) := by
  intro rest
  rw [List.append_assoc, ha, hb, List.append_assoc]

/-- **A line** gives what the reader makes of it. -/
theorem Writes.line {body : List Char} (h : '\n' ∉ body) :
    Writes read (body ++ ['\n']) (read body).toList := by
  intro rest
  rw [List.append_assoc, List.singleton_append, readLines,
    List.splitOn_append_cons_self_of_not_mem h, List.filterMap_cons]
  cases read body <;> rfl

/-- **A prompt** gives nothing, when the reader passes over it. -/
theorem Writes.unseen {prompt : List Char} (h : '\n' ∉ prompt)
    (hread : ∀ line, read (prompt ++ line) = read line) : Writes read prompt [] := by
  intro rest
  rw [List.nil_append, readLines, readLines]
  -- the prompt stands in front of the first line
  by_cases hbreak : '\n' ∈ rest
  · obtain ⟨line, more, rfl, hline⟩ := List.eq_append_cons_of_mem hbreak
    have hlong : '\n' ∉ prompt ++ line := fun hmem =>
      (List.mem_append.mp hmem).elim h hline
    rw [← List.append_assoc, List.splitOn_append_cons_self_of_not_mem hlong,
      List.splitOn_append_cons_self_of_not_mem hline, List.filterMap_cons, List.filterMap_cons,
      hread]
  · have hlong : '\n' ∉ prompt ++ rest := fun hmem => (List.mem_append.mp hmem).elim h hbreak
    rw [List.splitOn_eq_singleton hlong, List.splitOn_eq_singleton hbreak, List.filterMap_cons,
      List.filterMap_cons, hread]

/-- **Pieces one after the other.** -/
theorem Writes.flatMap {items : List ι} {text : ι → List Char} {entries : ι → List ε}
    (h : ∀ i ∈ items, Writes read (text i) (entries i)) :
    Writes read (items.flatMap text) (items.flatMap entries) := by
  induction items with
  | nil => exact Writes.nil
  | cons i items ih =>
    obtain ⟨hi, hitems⟩ := List.forall_mem_cons.mp h
    exact hi.append (ih hitems)

/-- Lines of which the reader makes nothing. -/
theorem Writes.lines {bodies : List (List Char)} (hbreak : ∀ body ∈ bodies, '\n' ∉ body)
    (hread : ∀ body ∈ bodies, read body = none) :
    Writes read (bodies.flatMap (· ++ ['\n'])) [] := by
  have hlines := @Writes.flatMap _ _ read bodies (· ++ ['\n']) (fun _ => []) fun body hmem => by
    have hline := @Writes.line _ read _ (hbreak body hmem)
    rwa [hread body hmem] at hline
  rwa [List.flatMap_eq_nil_iff.mpr fun _ _ => rfl] at hlines

/-- **The log is read back**, when the reader makes nothing of an empty line. -/
theorem Writes.read_back {text : List Char} {entries : List ε} (h : Writes read text entries)
    (hempty : read [] = none) : readLines read text = entries := by
  have hall := h []
  rw [List.append_nil, readLines, readLines, List.splitOn_nil, List.filterMap_cons, hempty,
    List.filterMap_nil, List.append_nil] at hall
  exact hall

/-! ## Padded numerals -/

/-- `%0*X`, in upper-case letters. -/
def printPadded (width n : Nat) : List Char := (printNumeral 16 n).leftpad width '0'

section Padded

variable {text : List Char} {n : Nat}

/-- Zeros in front of a numeral. -/
theorem isNumeral_leftpad {base : Nat} (hbase : 0 < base) (h : IsNumeral base text n)
    (width : Nat) : IsNumeral base (text.leftpad width '0') n := by
  have hzero : isDigitIn base '0' = true := by
    rw [isDigitIn]
    exact Bool.and_eq_true_iff.mpr ⟨by decide, decide_eq_true hbase⟩
  have hzeros : ∀ k, digitsValue base (List.replicate k '0') = 0 := fun k => by
    induction k with
    | zero => rfl
    | succ k ih =>
      have hone : digitsValue base ['0'] = 0 := by simp [digitsValue, digitValue]
      rw [List.replicate_succ', digitsValue_append, ih, Nat.zero_mul, hone]
  rw [List.leftpad]
  refine ⟨?_, fun c hc => ?_, ?_⟩
  · exact List.append_ne_nil_of_right_ne_nil _ h.nonempty
  · rcases List.mem_append.mp hc with hc | hc
    · rw [List.eq_of_mem_replicate hc]
      exact hzero
    · exact h.digits c hc
  · rw [digitsValue_append, hzeros, Nat.zero_mul, Nat.zero_add, h.value]

theorem printPadded_isNumeral (width n : Nat) : IsNumeral 16 (printPadded width n) n :=
  isNumeral_leftpad (by decide) (printNumeral_isNumeral (by decide) (by decide) n) width

/-- A numeral has no line break, no blank and no other white space in it. -/
theorem not_mem_numeral {base : Nat} (h : IsNumeral base text n) {c : Char}
    (hc : c.isAlphanum = false) : c ∉ text := fun hmem => by
  rw [isAlphanum_of_isDigitIn (h.digits c hmem)] at hc
  cases hc

end Padded

/-! ## Bytes -/

/-- Bytes as `%02X`, with blanks between them. -/
def printHexBytes (data : List (BitVec 8)) : List Char :=
  [' '].intercalate (data.map fun b => printPadded 2 b.toNat)

/-- The byte of a hexadecimal numeral. -/
def readHexByte (text : List Char) : Option (BitVec 8) :=
  if text ≠ [] ∧ text.all isXDigit ∧ digitsValue 16 text < 256 then
    some (BitVec.ofNat 8 (digitsValue 16 text))
  else none

/-- Hexadecimal bytes with blanks between them. -/
def readHexBytes (text : List Char) : Option (List (BitVec 8)) :=
  if text = [] then some [] else (text.splitOn ' ').mapM readHexByte

section Bytes

theorem readHexByte_print (b : BitVec 8) : readHexByte (printPadded 2 b.toNat) = some b := by
  have hnumeral := printPadded_isNumeral 2 b.toNat
  have hlt := b.isLt
  rw [readHexByte, hnumeral.value, if_pos ⟨hnumeral.nonempty,
    List.all_eq_true.mpr hnumeral.digits, by omega⟩, BitVec.ofNat_toNat, BitVec.setWidth_eq]

theorem mapM_readHexByte (data : List (BitVec 8)) :
    (data.map fun b => printPadded 2 b.toNat).mapM readHexByte = some data := by
  induction data with
  | nil => rfl
  | cons b data ih =>
    rw [List.map_cons, List.mapM_cons, readHexByte_print, ih]
    rfl

/-- **Bytes are read back.** -/
theorem readHexBytes_print (data : List (BitVec 8)) :
    readHexBytes (printHexBytes data) = some data := by
  unfold readHexBytes printHexBytes
  cases data with
  | nil => rfl
  | cons b data =>
    have hblank : ∀ text ∈ (b :: data).map fun b => printPadded 2 b.toNat, ' ' ∉ text := by
      intro text hmem
      obtain ⟨c, _, rfl⟩ := List.mem_map.mp hmem
      exact not_mem_numeral (printPadded_isNumeral 2 c.toNat) (by decide)
    have hsplit := List.splitOn_intercalate ' ' hblank (List.cons_ne_nil _ _)
    rw [if_neg, hsplit, mapM_readHexByte]
    intro hempty
    rw [hempty, List.splitOn_nil, List.map_cons] at hsplit
    exact (printPadded_isNumeral 2 b.toNat).nonempty (List.cons.inj hsplit).1.symm

/-- The bytes stand on one line. -/
theorem break_not_mem_hexBytes (data : List (BitVec 8)) : '\n' ∉ printHexBytes data := by
  have hnumeral (b : BitVec 8) : '\n' ∉ printPadded 2 b.toNat :=
    not_mem_numeral (printPadded_isNumeral 2 b.toNat) (by decide)
  unfold printHexBytes
  induction data with
  | nil => exact List.not_mem_nil
  | cons b data ih =>
    cases data with
    | nil =>
      rw [List.map_singleton, List.intercalate_singleton]
      exact hnumeral b
    | cons c data =>
      rw [List.map_cons, List.map_cons, List.intercalate_cons_cons]
      rw [List.map_cons] at ih
      simp only [List.mem_append, not_or, List.mem_singleton]
      exact ⟨⟨hnumeral b, by decide⟩, ih⟩

end Bytes

end LineLog
