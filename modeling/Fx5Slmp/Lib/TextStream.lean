import Fx5Slmp.Lib.TextFields

/-!
# Reading a text stream with `fgets`

`fgets` stores characters up to and including a line break, but no more than fit into the buffer
in front of the NUL.  A loop over `fgets` therefore sees the pieces of a text, not its lines: a
line that does not fit comes in several pieces.

A stream is the list of its bytes.  One `Char` stands for one byte, as a C `char` does, and not for a
character of an encoding: a character that takes several bytes is as many items of the list.

* `pieces_line`, `kept_pieces` — the pieces of a text are those of its lines, in order;
* `pieces_of_length_le`, `pieces_cut` — a line that fits is one piece, and another is cut;
* `map_pieces_lines` — when the lines fit with their breaks, the pieces are numbered like them;
* `flatMap_eq_iff` — two decompositions of a list agree when they agree part by part.
-/

set_option autoImplicit false

namespace CText

/-- The bytes that `fgets` stores with room for `n` of them, and the rest of the stream; one `Char` is
one byte. -/
def fgetsPiece : Nat → List Char → List Char × List Char
  | 0, text => ([], text)
  | _ + 1, [] => ([], [])
  | n + 1, c :: text =>
    if c = '\n' then ([c], text)
    else (c :: (fgetsPiece n text).1, (fgetsPiece n text).2)

/-- `fgets(buffer, size, stream)`: NULL at the end of the stream. -/
def fgets (size : Nat) (text : List Char) : Option (List Char × List Char) :=
  if text = [] then none else some (fgetsPiece (size - 1) text)

/-- What is not stored stays in the stream. -/
theorem fgetsPiece_append (n : Nat) (text : List Char) :
    (fgetsPiece n text).1 ++ (fgetsPiece n text).2 = text := by
  induction n generalizing text with
  | zero => rfl
  | succ n ih =>
    cases text with
    | nil => rfl
    | cons c text =>
      rw [fgetsPiece]
      split
      · rfl
      · rw [List.cons_append, ih]

/-- A call with room for a character takes one. -/
theorem fgetsPiece_rest_lt (n : Nat) {text : List Char} (h : text ≠ []) :
    (fgetsPiece (n + 1) text).2.length < text.length := by
  have hsplit := congrArg List.length (fgetsPiece_append (n + 1) text)
  have hpos : (fgetsPiece (n + 1) text).1 ≠ [] := by
    cases text with
    | nil => exact absurd rfl h
    | cons c text =>
      rw [fgetsPiece]
      split
      · exact List.cons_ne_nil _ _
      · exact List.cons_ne_nil _ _
  have := List.length_pos_of_ne_nil hpos
  rw [List.length_append] at hsplit
  omega

theorem fgets_rest_lt {size : Nat} (hsize : 2 ≤ size) {text piece rest : List Char}
    (h : fgets size text = some (piece, rest)) : rest.length < text.length := by
  unfold fgets at h
  split at h
  · cases h
  · rename_i hne
    have hlt := fgetsPiece_rest_lt (size - 2) hne
    rw [show size - 2 + 1 = size - 1 by omega, Option.some.inj h] at hlt
    exact hlt

/-- The buffers that a loop over `fgets` sees; one has room for `room + 1` characters. -/
def pieces (room : Nat) (text : List Char) : List (List Char) :=
  if _h : text = [] then []
  else (fgetsPiece (room + 1) text).1 :: pieces room (fgetsPiece (room + 1) text).2
termination_by text.length
decreasing_by exact fgetsPiece_rest_lt room _h

section Pieces

variable {room : Nat} {a b : List Char}

theorem pieces_nil (room : Nat) : pieces room [] = [] := by rw [pieces, dif_pos rfl]

theorem pieces_cons {text : List Char} (h : text ≠ []) :
    pieces room text =
      (fgetsPiece (room + 1) text).1 :: pieces room (fgetsPiece (room + 1) text).2 := by
  rw [pieces, dif_neg h]

/-- Nothing is lost between the pieces. -/
theorem pieces_flatten (text : List Char) : (pieces room text).flatten = text := by
  induction hn : text.length using Nat.strong_induction_on generalizing text with
  | _ n ih =>
    by_cases hne : text = []
    · rw [hne, pieces_nil, List.flatten_nil]
    · have hless := fgetsPiece_rest_lt room hne
      rw [pieces_cons hne, List.flatten_cons, ih _ (by omega) _ rfl, fgetsPiece_append]

/-- One call of the loop. -/
theorem pieces_fgets {text piece rest : List Char} (h : fgets (room + 2) text = some (piece, rest)) :
    pieces room text = piece :: pieces room rest := by
  unfold fgets at h
  split at h
  · cases h
  · rename_i hne
    rw [pieces_cons hne, show room + 1 = room + 2 - 1 by omega, Option.some.inj h]

/-- The last call of the loop. -/
theorem pieces_of_fgets_none {size : Nat} {text : List Char} (h : fgets size text = none) :
    pieces room text = [] := by
  unfold fgets at h
  split at h
  · rename_i hempty
    rw [hempty, pieces_nil]
  · cases h

/-- The end of a line that fits. -/
theorem fgetsPiece_line {n : Nat} (ha : '\n' ∉ a) (hfit : a.length < n) (b : List Char) :
    fgetsPiece n (a ++ '\n' :: b) = (a ++ ['\n'], b) := by
  induction a generalizing n with
  | nil =>
    obtain ⟨n, rfl⟩ : ∃ m, n = m + 1 := ⟨n - 1, by rw [List.length_nil] at hfit; omega⟩
    rfl
  | cons c a ih =>
    rw [List.length_cons] at hfit
    obtain ⟨n, rfl⟩ : ∃ m, n = m + 1 := ⟨n - 1, by omega⟩
    have hc : c ≠ '\n' := fun h => ha (h ▸ List.mem_cons_self)
    rw [List.cons_append, fgetsPiece, if_neg hc, ih (fun h => ha (List.mem_cons_of_mem _ h)) (by omega)]
    rfl

/-- A text without a line break that fits. -/
theorem fgetsPiece_last {n : Nat} (ha : '\n' ∉ a) (hfit : a.length ≤ n) :
    fgetsPiece n a = (a, []) := by
  induction a generalizing n with
  | nil => cases n <;> rfl
  | cons c a ih =>
    rw [List.length_cons] at hfit
    obtain ⟨n, rfl⟩ : ∃ m, n = m + 1 := ⟨n - 1, by omega⟩
    have hc : c ≠ '\n' := fun h => ha (h ▸ List.mem_cons_self)
    rw [fgetsPiece, if_neg hc, ih (fun h => ha (List.mem_cons_of_mem _ h)) (by omega)]

/-- A line that does not fit is cut. -/
theorem fgetsPiece_cut {n : Nat} (ha : '\n' ∉ a) (hfit : n ≤ a.length) (b : List Char) :
    fgetsPiece n (a ++ b) = (a.take n, a.drop n ++ b) := by
  induction a generalizing n with
  | nil =>
    obtain rfl : n = 0 := Nat.le_zero.mp hfit
    rfl
  | cons c a ih =>
    cases n with
    | zero => rfl
    | succ n =>
      rw [List.length_cons] at hfit
      have hc : c ≠ '\n' := fun h => ha (h ▸ List.mem_cons_self)
      rw [List.cons_append, fgetsPiece, if_neg hc, ih (fun h => ha (List.mem_cons_of_mem _ h)) (by omega)]
      rfl

/-- **The pieces of a line** come before those of the lines behind it. -/
theorem pieces_line (ha : '\n' ∉ a) (b : List Char) :
    pieces room (a ++ '\n' :: b) = pieces room (a ++ ['\n']) ++ pieces room b := by
  induction hn : a.length using Nat.strong_induction_on generalizing a with
  | _ n ih =>
    have hne : ∀ b : List Char, a ++ '\n' :: b ≠ [] := by simp
    rw [pieces_cons (hne b), pieces_cons (hne [])]
    by_cases hfit : a.length < room + 1
    · rw [fgetsPiece_line ha hfit, fgetsPiece_line ha hfit, pieces_nil]
      rfl
    · have hrest : '\n' ∉ a.drop (room + 1) := fun h => ha (List.mem_of_mem_drop h)
      rw [fgetsPiece_cut ha (by omega), fgetsPiece_cut ha (by omega),
        ih _ (by rw [List.length_drop]; omega) hrest rfl]
      rfl

/-- **A line that fits** is one piece. -/
theorem pieces_of_length_le (ha : '\n' ∉ a) (hfit : a.length ≤ room + 1) (hne : a ≠ []) :
    pieces room a = [a] := by
  rw [pieces_cons hne, fgetsPiece_last ha hfit, pieces_nil]

/-- **A line that does not fit** is cut into pieces. -/
theorem pieces_cut (ha : '\n' ∉ a) (hlong : room + 1 ≤ a.length) :
    pieces room a = a.take (room + 1) :: pieces room (a.drop (room + 1)) := by
  have hne : a ≠ [] := by
    rintro rfl
    exact Nat.not_succ_le_zero room hlong
  have hcut := fgetsPiece_cut ha hlong []
  rw [List.append_nil, List.append_nil] at hcut
  rw [pieces_cons hne, hcut]

end Pieces

/-- No line has a line break. -/
theorem break_not_mem_line {text line : List Char} (h : line ∈ text.splitOn '\n') :
    '\n' ∉ line := by
  induction hn : text.length using Nat.strong_induction_on generalizing text with
  | _ n ih =>
    by_cases hmem : '\n' ∈ text
    · obtain ⟨a, b, rfl, ha⟩ := List.eq_append_cons_of_mem hmem
      rw [List.splitOn_append_cons_self_of_not_mem ha] at h
      rcases List.mem_cons.mp h with rfl | h
      · exact ha
      · exact ih _ (by rw [← hn, List.length_append, List.length_cons]; omega) h rfl
    · rw [List.splitOn_eq_singleton hmem] at h
      rw [List.mem_singleton.mp h]
      exact hmem

/-! ## What is kept of a text -/

section Kept

variable {β : Type} {room : Nat} {keep : List Char → Option β}

/-- The line break at the end of a line does not matter when it does not matter for a piece. -/
theorem kept_line (hbreak : ∀ a, '\n' ∉ a → keep (a ++ ['\n']) = keep a) (hempty : keep [] = none)
    {a : List Char} (ha : '\n' ∉ a) :
    (pieces room (a ++ ['\n'])).filterMap keep = (pieces room a).filterMap keep := by
  induction hn : a.length using Nat.strong_induction_on generalizing a with
  | _ n ih =>
    rw [pieces_cons (by simp)]
    by_cases hfit : a.length < room + 1
    · rw [fgetsPiece_line ha hfit, pieces_nil]
      by_cases hne : a = []
      · subst hne
        rw [pieces_nil, List.filterMap_cons, hbreak [] (by simp), hempty]
      · rw [pieces_of_length_le ha (by omega) hne, List.filterMap_cons, List.filterMap_cons,
          hbreak a ha]
    · have hrest : '\n' ∉ a.drop (room + 1) := fun h => ha (List.mem_of_mem_drop h)
      rw [fgetsPiece_cut ha (by omega), pieces_cut ha (by omega), List.filterMap_cons,
        List.filterMap_cons, ih _ (by rw [List.length_drop]; omega) hrest rfl]

/-- **What is kept of the pieces of a text** is what is kept of the pieces of its lines. -/
theorem kept_pieces (hbreak : ∀ a, '\n' ∉ a → keep (a ++ ['\n']) = keep a) (hempty : keep [] = none)
    (text : List Char) : (pieces room text).filterMap keep =
      (text.splitOn '\n').flatMap fun line => (pieces room line).filterMap keep := by
  induction hn : text.length using Nat.strong_induction_on generalizing text with
  | _ n ih =>
    by_cases hmem : '\n' ∈ text
    · obtain ⟨a, b, rfl, ha⟩ := List.eq_append_cons_of_mem hmem
      rw [List.splitOn_append_cons_self_of_not_mem ha, List.flatMap_cons, pieces_line ha,
        List.filterMap_append, kept_line hbreak hempty ha]
      rw [ih b.length (by rw [← hn, List.length_append, List.length_cons]; omega) b rfl]
    · rw [List.splitOn_eq_singleton hmem, List.flatMap_singleton]

/-- **Of a text whose lines fit**, what is kept of the pieces is what is kept of the lines. -/
theorem kept_lines (hbreak : ∀ a, '\n' ∉ a → keep (a ++ ['\n']) = keep a) (hempty : keep [] = none)
    {text : List Char} (hfit : ∀ line ∈ text.splitOn '\n', line.length ≤ room + 1) :
    (pieces room text).filterMap keep = (text.splitOn '\n').filterMap keep := by
  rw [kept_pieces hbreak hempty, List.filterMap_eq_flatMap_toList]
  refine List.flatMap_congr fun line hmem => ?_
  by_cases hne : line = []
  · rw [hne, pieces_nil, hempty]
    rfl
  · rw [pieces_of_length_le (break_not_mem_line hmem) (hfit line hmem) hne,
      List.filterMap_cons]
    cases keep line <;> rfl

/-- **Of a text whose lines fit with their line breaks**, every piece is the line of its number. -/
theorem map_pieces_lines {f : List Char → β} (hbreak : ∀ a, '\n' ∉ a → f (a ++ ['\n']) = f a)
    {text : List Char} (hfit : ∀ line ∈ text.splitOn '\n', line.length ≤ room) :
    (pieces room text).map f <+: (text.splitOn '\n').map f := by
  induction hn : text.length using Nat.strong_induction_on generalizing text with
  | _ n ih =>
    by_cases hmem : '\n' ∈ text
    · obtain ⟨a, b, rfl, ha⟩ := List.eq_append_cons_of_mem hmem
      rw [List.splitOn_append_cons_self_of_not_mem ha] at hfit ⊢
      obtain ⟨hfirst, hrest⟩ := List.forall_mem_cons.mp hfit
      rw [pieces_cons (by simp), fgetsPiece_line ha (by omega), List.map_cons, List.map_cons,
        hbreak a ha]
      have hb := ih b.length (by rw [← hn, List.length_append, List.length_cons]; omega) hrest rfl
      exact List.cons_prefix_cons.mpr ⟨rfl, hb⟩
    · rw [List.splitOn_eq_singleton hmem] at hfit ⊢
      by_cases hne : text = []
      · rw [hne, pieces_nil]
        exact List.nil_prefix
      · have hlen := hfit text (List.mem_singleton.mpr rfl)
        have hone := pieces_of_length_le hmem (Nat.le_succ_of_le hlen) hne
        exact ⟨[], by rw [List.append_nil, hone]⟩

end Kept

/-- **Two decompositions** with parts of at least the same length agree when each part does. -/
theorem flatMap_eq_iff {α β : Type} {f g : α → List β} {l : List α}
    (h : ∀ x ∈ l, (g x).length ≤ (f x).length) :
    l.flatMap f = l.flatMap g ↔ ∀ x ∈ l, f x = g x := by
  have hlen : ∀ l : List α, (∀ x ∈ l, (g x).length ≤ (f x).length) →
      (l.flatMap g).length ≤ (l.flatMap f).length := by
    intro l h
    induction l with
    | nil => exact Nat.le_refl _
    | cons x l ih =>
      rw [List.flatMap_cons, List.flatMap_cons, List.length_append, List.length_append]
      exact Nat.add_le_add (h x List.mem_cons_self) (ih fun y hy => h y (List.mem_cons_of_mem _ hy))
  induction l with
  | nil => simp
  | cons x l ih =>
    have htail : ∀ y ∈ l, (g y).length ≤ (f y).length := fun y hy => h y (List.mem_cons_of_mem _ hy)
    rw [List.flatMap_cons, List.flatMap_cons, List.forall_mem_cons]
    constructor
    · intro heq
      have htotal := congrArg List.length heq
      have h1 := h x List.mem_cons_self
      have h2 := hlen l htail
      rw [List.length_append, List.length_append] at htotal
      obtain ⟨hfirst, hrest⟩ := List.append_inj heq (by omega)
      exact ⟨hfirst, (ih htail).mp hrest⟩
    · rintro ⟨hfirst, hrest⟩
      rw [hfirst, (ih htail).mpr hrest]

end CText
