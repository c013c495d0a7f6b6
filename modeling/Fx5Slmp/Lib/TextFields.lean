import Fx5Slmp.Lib.CText
import Mathlib.Data.List.DropRight

/-!
# Fields of a C string

A C string ends at its first NUL.  Its fields are what stands between the separators, each
without the white space around it.

* `cstr_append`, `trim_pad` — the text before a NUL, and a text with white space around it;
* `fields_cons`, `fields_last` — the first field of a text, in front of a separator or the end.
-/

set_option autoImplicit false

namespace CText

/-- The characters of a string, up to NUL. -/
def cstr (p : List Char) : List Char := p.takeWhile (· ≠ '\x00')

/-- White space is cut off at the end. -/
def trimRight (p : List Char) : List Char := p.rdropWhile isSpace

/-- White space is cut off at both ends. -/
def trim (p : List Char) : List Char := trimRight (skipSpaces p)

/-- What stands between the separators. -/
def fields (sep : Char) (p : List Char) : List (List Char) := ((cstr p).splitOn sep).map trim

/-! ## The end of a string -/

theorem cstr_append {a : List Char} (h : ∀ c ∈ a, c ≠ '\x00') (b : List Char) :
    cstr (a ++ b) = a ++ cstr b :=
  List.takeWhile_append_of_pos fun c hc => decide_eq_true (h c hc)

theorem cstr_of_plain {a : List Char} (h : ∀ c ∈ a, c ≠ '\x00') : cstr a = a := by
  simpa [cstr] using cstr_append h []

theorem cstr_of_peek {p : List Char} (h : peek p = '\x00') : cstr p = [] := by
  cases p with
  | nil => rfl
  | cons c p => exact List.takeWhile_cons_of_neg (by simpa using h)

theorem cstr_cons {c : Char} (h : c ≠ '\x00') (p : List Char) : cstr (c :: p) = c :: cstr p :=
  List.takeWhile_cons_of_pos (decide_eq_true h)

theorem ne_nul_of_isSpace {c : Char} (h : isSpace c = true) : c ≠ '\x00' := by
  rintro rfl
  exact absurd h (by decide)

theorem peek_cstr (p : List Char) : peek (cstr p) = peek p := by
  cases p with
  | nil => rfl
  | cons c p =>
    by_cases hc : c = '\x00'
    · rw [cstr_of_peek (show peek (c :: p) = '\x00' from hc), peek_cons, hc]
      rfl
    · rw [cstr_cons hc, peek_cons, peek_cons]

/-- White space is skipped inside the string. -/
theorem cstr_skipSpaces (p : List Char) : cstr (skipSpaces p) = skipSpaces (cstr p) := by
  induction p with
  | nil => rfl
  | cons c p ih =>
    by_cases hs : isSpace c = true
    · rw [cstr_cons (ne_nul_of_isSpace hs), skipSpaces, skipSpaces, List.dropWhile_cons_of_pos hs,
        List.dropWhile_cons_of_pos hs]
      exact ih
    · rw [skipSpaces, List.dropWhile_cons_of_neg hs]
      by_cases hc : c = '\x00'
      · rw [cstr_of_peek (show peek (c :: p) = '\x00' from hc)]
        rfl
      · rw [cstr_cons hc, skipSpaces, List.dropWhile_cons_of_neg hs]

/-! ## White space around a text -/

/-- A text is white space, in front of one that does not begin with any. -/
theorem exists_spaces (p : List Char) : ∃ spaces, p = spaces ++ skipSpaces p ∧
    ∀ c ∈ spaces, isSpace c = true :=
  ⟨p.takeWhile isSpace, (List.takeWhile_append_dropWhile ..).symm,
    fun _ hc => List.mem_takeWhile_imp hc⟩

theorem skipSpaces_append {spaces : List Char} (h : ∀ c ∈ spaces, isSpace c = true)
    (p : List Char) : skipSpaces (spaces ++ p) = skipSpaces p := List.dropWhile_append_of_pos h

@[simp] theorem skipSpaces_skipSpaces (p : List Char) : skipSpaces (skipSpaces p) = skipSpaces p :=
  List.dropWhile_idempotent isSpace p

theorem not_space_skipSpaces (p : List Char) : isSpace (peek (skipSpaces p)) = false := by
  cases h : skipSpaces p with
  | nil => rfl
  | cons c q =>
    rw [peek_cons, ← Bool.not_eq_true]
    intro hc
    have hself := skipSpaces_skipSpaces p
    rw [h, skipSpaces, List.dropWhile_cons_of_pos hc] at hself
    have hlen := skipSpaces_length_le q
    rw [skipSpaces, hself, List.length_cons] at hlen
    omega

theorem trimRight_append {a spaces : List Char} (h : ∀ c ∈ spaces, isSpace c = true) :
    trimRight (a ++ spaces) = trimRight a := by
  rw [trimRight, trimRight, List.rdropWhile, List.rdropWhile, List.reverse_append,
    List.dropWhile_append_of_pos fun c hc => h c (List.mem_reverse.mp hc)]

/-- A text without white space, between white space. -/
theorem trim_pad {before text after : List Char} (hbefore : ∀ c ∈ before, isSpace c = true)
    (htext : ∀ c ∈ text, isSpace c = false) (hafter : ∀ c ∈ after, isSpace c = true) :
    trim (before ++ (text ++ after)) = text := by
  have hright : trimRight text = text := by
    refine List.rdropWhile_eq_self_iff.mpr fun hl => ?_
    rw [htext _ (List.getLast_mem hl)]
    exact Bool.false_ne_true
  rw [trim, skipSpaces_append hbefore]
  cases text with
  | nil =>
    have hblank : skipSpaces after = [] := List.dropWhile_eq_nil_iff.mpr hafter
    rw [List.nil_append, hblank]
    exact hright
  | cons c text =>
    have hc : isSpace (peek (c :: text ++ after)) = false := htext c List.mem_cons_self
    rw [skipSpaces_of_not_space hc, trimRight_append hafter, hright]

/-- White space at the end does not matter. -/
theorem trim_append {spaces : List Char} (h : ∀ c ∈ spaces, isSpace c = true) (a : List Char) :
    trim (a ++ spaces) = trim a := by
  obtain ⟨before, ha, hbefore⟩ := exists_spaces a
  generalize hrest : skipSpaces a = rest at ha
  have hnot : isSpace (peek rest) = false := hrest ▸ not_space_skipSpaces a
  subst ha
  rw [trim, trim, List.append_assoc, skipSpaces_append hbefore, skipSpaces_append hbefore]
  cases rest with
  | nil =>
    rw [List.nil_append, show skipSpaces spaces = [] from List.dropWhile_eq_nil_iff.mpr h]
    rfl
  | cons c rest =>
    rw [skipSpaces_of_not_space hnot, skipSpaces_of_not_space (p := c :: rest ++ spaces) hnot,
      trimRight_append h]

/-- What is left of a text stands between white space. -/
theorem exists_pad (p : List Char) : ∃ before after, p = before ++ skipSpaces p ∧
    skipSpaces p = trim p ++ after ∧ (∀ c ∈ before, isSpace c = true) ∧
    ∀ c ∈ after, isSpace c = true := by
  obtain ⟨before, hp, hbefore⟩ := exists_spaces p
  refine ⟨before, (skipSpaces p).rtakeWhile isSpace, hp, ?_, hbefore, ?_⟩
  · rw [trim, trimRight, List.rdropWhile_append_rtakeWhile]
  · intro c hc
    rw [List.rtakeWhile, List.mem_reverse] at hc
    exact List.mem_takeWhile_imp hc

/-- Only white space is cut off. -/
theorem countP_trim (p : List Char) :
    (trim p).countP (fun c => !isSpace c) = p.countP fun c => !isSpace c := by
  obtain ⟨before, after, hp, hskip, hbefore, hafter⟩ := exists_pad p
  have hnone {spaces : List Char} (h : ∀ c ∈ spaces, isSpace c = true) :
      spaces.countP (fun c => !isSpace c) = 0 := by
    rw [List.countP_eq_zero]
    intro c hc
    rw [h c hc]
    exact Bool.false_ne_true
  conv_rhs => rw [hp, hskip]
  rw [List.countP_append, List.countP_append, hnone hbefore, hnone hafter, Nat.zero_add,
    Nat.add_zero]

/-- The order in which the two ends are trimmed does not matter. -/
theorem skipSpaces_trimRight (p : List Char) : skipSpaces (trimRight p) = trim p := by
  obtain ⟨before, after, hp, hskip, hbefore, hafter⟩ := exists_pad p
  by_cases htrim : trim p = []
  · have hblank : trimRight p = [] := by
      refine List.rdropWhile_eq_nil_iff.mpr fun c hc => ?_
      rw [hp, hskip, htrim, List.nil_append, List.mem_append] at hc
      exact hc.elim (hbefore c) (hafter c)
    rw [hblank, htrim]
    rfl
  · have hfirst : isSpace (peek (trim p)) = false := by
      rw [← peek_append htrim after, ← hskip]
      exact not_space_skipSpaces p
    have hright : trimRight (before ++ trim p) = before ++ trim p := by
      refine List.rdropWhile_eq_self_iff.mpr fun hne => ?_
      rw [List.getLast_append_of_ne_nil _ htrim]
      exact List.rdropWhile_last_not isSpace (skipSpaces p) htrim
    have hwhole : trimRight p = trimRight (before ++ trim p) := by
      have happend := trimRight_append (a := before ++ trim p) hafter
      rwa [List.append_assoc, ← hskip, ← hp] at happend
    rw [hwhole, hright, skipSpaces_append hbefore, skipSpaces_of_not_space hfirst]

/-- What is left of a string begins behind the white space at its beginning. -/
theorem peek_trim_cstr (p : List Char) : peek (trim (cstr p)) = peek (skipSpaces p) := by
  obtain ⟨_, after, _, hskip, _, hafter⟩ := exists_pad (cstr p)
  have hfirst := not_space_skipSpaces (cstr p)
  rw [← peek_cstr (skipSpaces p), cstr_skipSpaces]
  by_cases htrim : trim (cstr p) = []
  · rw [htrim, List.nil_append] at hskip
    cases after with
    | nil => rw [htrim, hskip]
    | cons c after =>
      rw [hskip, peek_cons, hafter c List.mem_cons_self] at hfirst
      cases hfirst
  · rw [hskip, peek_append htrim]

/-- A line break at the end does not matter. -/
theorem trim_cstr_break (a : List Char) : trim (cstr (a ++ ['\n'])) = trim (cstr a) := by
  by_cases hnul : '\x00' ∈ a
  · obtain ⟨x, y, rfl, hx⟩ := List.eq_append_cons_of_mem hnul
    have hplain : ∀ c ∈ x, c ≠ '\x00' := fun c hc h => hx (h ▸ hc)
    rw [List.append_assoc, cstr_append hplain, cstr_append hplain, cstr_of_peek rfl, cstr_of_peek rfl]
  · have hplain : ∀ c ∈ a, c ≠ '\x00' := fun c hc h => hnul (h ▸ hc)
    rw [cstr_append hplain, cstr_of_plain hplain]
    exact trim_append (List.all_eq_true.mp (by decide)) a

theorem trim_ne_nil {p : List Char} (h : p ≠ []) (hspace : isSpace (peek p) = false) :
    trim p ≠ [] := by
  rw [trim, skipSpaces_of_not_space hspace, trimRight, ne_eq, List.rdropWhile_eq_nil_iff]
  cases p with
  | nil => exact absurd rfl h
  | cons c p =>
    intro hall
    rw [peek_cons, hall c List.mem_cons_self] at hspace
    cases hspace

/-! ## Fields -/

section Fields

variable {sep : Char} {a b : List Char}

theorem fields_ne_nil (sep : Char) (p : List Char) : fields sep p ≠ [] := by
  rw [fields, ne_eq, List.map_eq_nil_iff]
  exact List.splitOn_ne_nil _ _

/-- A field in front of a separator. -/
theorem fields_cons (ha : ∀ c ∈ a, c ≠ sep ∧ c ≠ '\x00') (hsep : sep ≠ '\x00') :
    fields sep (a ++ sep :: b) = trim a :: fields sep b := by
  have hstr : cstr (a ++ sep :: b) = a ++ sep :: cstr b := by
    rw [cstr_append fun c hc => (ha c hc).2, cstr_cons hsep]
  rw [fields, hstr, List.splitOn_append_cons_self_of_not_mem fun h => (ha sep h).1 rfl]
  rfl

/-- The last field. -/
theorem fields_last (ha : ∀ c ∈ a, c ≠ sep ∧ c ≠ '\x00') (hb : peek b = '\x00') :
    fields sep (a ++ b) = [trim a] := by
  rw [fields, cstr_append fun c hc => (ha c hc).2, cstr_of_peek hb, List.append_nil,
    List.splitOn_eq_singleton fun h => (ha sep h).1 rfl]
  rfl

/-- A text is its first field, in front of a separator or of the end. -/
theorem exists_field (sep : Char) (p : List Char) : ∃ a b, p = a ++ b ∧
    (∀ c ∈ a, c ≠ sep ∧ c ≠ '\x00') ∧ (peek b = '\x00' ∨ ∃ b', b = sep :: b') := by
  refine ⟨p.takeWhile fun c => c ≠ sep && c ≠ '\x00', p.dropWhile fun c => c ≠ sep && c ≠ '\x00',
    (List.takeWhile_append_dropWhile ..).symm, fun c hc => ?_, ?_⟩
  · simpa using List.mem_takeWhile_imp hc
  · cases h : p.dropWhile fun c => c ≠ sep && c ≠ '\x00' with
    | nil => exact Or.inl rfl
    | cons c q =>
      have hc := List.head?_dropWhile_not (fun c => c ≠ sep && c ≠ '\x00') p
      rw [h] at hc
      simp only [List.head?_cons, Bool.and_eq_false_iff, decide_eq_false_iff_not,
        ne_eq, not_not] at hc
      rcases hc with rfl | rfl
      · exact Or.inr ⟨q, rfl⟩
      · exact Or.inl rfl

/-- White space in front of a text belongs to no field. -/
theorem fields_skipSpaces (hspace : isSpace sep = false) (hsep : sep ≠ '\x00') (p : List Char) :
    fields sep (skipSpaces p) = fields sep p := by
  obtain ⟨spaces, hp, hspaces⟩ := exists_spaces p
  obtain ⟨a, b, hab, ha, hb⟩ := exists_field sep (skipSpaces p)
  have hplain : ∀ c ∈ spaces ++ a, c ≠ sep ∧ c ≠ '\x00' := by
    intro c hc
    rcases List.mem_append.mp hc with hc | hc
    · refine ⟨?_, ne_nul_of_isSpace (hspaces c hc)⟩
      rintro rfl
      exact absurd (hspaces c hc) (by rw [hspace]; exact Bool.false_ne_true)
    · exact ha c hc
  have htrim : trim (spaces ++ a) = trim a := by rw [trim, skipSpaces_append hspaces, trim]
  rw [hab, ← List.append_assoc] at hp
  rw [hp, ← hp, hab]
  rcases hb with hb | ⟨b', rfl⟩
  · rw [hp, fields_last hplain hb, fields_last ha hb, htrim]
  · rw [hp, fields_cons hplain hsep, fields_cons ha hsep, htrim]

end Fields

end CText
