import Mathlib.Data.List.Induction

/-!
# The last update wins

A state goes through a list of inputs; some of them assign a new value to one field of it, and the
others leave the field alone.  In the end the field has the value of the last assignment.

* `foldl_lastSome` — the field at the end;
* `lastSome_zipIdx` — assignments that also depend on the place of the input in the list;
* `exists_last`, `lastSome_split` — the input that makes the last assignment.
-/

set_option autoImplicit false

namespace LastUpdate

/-- The last value that a list of inputs gives. -/
def lastSome {α β : Type} (f : α → Option β) (l : List α) : Option β := (l.filterMap f).getLast?

section LastUpdate

variable {α β γ σ : Type} {f : α → Option β}

theorem lastSome_concat (f : α → Option β) (l : List α) (x : α) :
    lastSome f (l ++ [x]) = (f x).or (lastSome f l) := by
  rw [lastSome, lastSome, List.filterMap_append]
  cases h : f x with
  | none => simp [h]
  | some y => simp [h]

theorem lastSome_cons (f : α → Option β) (x : α) (l : List α) :
    lastSome f (x :: l) = (lastSome f l).or (f x) := by
  rw [lastSome, lastSome, List.filterMap_cons]
  cases f x with
  | none => rw [Option.or_none]
  | some y =>
    rw [List.getLast?_cons]
    cases (l.filterMap f).getLast? <;> rfl

/-- **The last assignment wins.** -/
theorem foldl_lastSome {step : σ → α → σ} {field : σ → β}
    (h : ∀ s x, field (step s x) = (f x).getD (field s)) (s : σ) (l : List α) :
    field (l.foldl step s) = (lastSome f l).getD (field s) := by
  induction l using List.reverseRecOn with
  | nil => rfl
  | append_singleton l x ih =>
    rw [List.foldl_append, List.foldl_cons, List.foldl_nil, h, ih, lastSome_concat]
    cases f x with
    | none => rw [Option.none_or, Option.getD_none]
    | some y => rfl

/-- What is assigned may depend on the place of the input; which input is last does not. -/
theorem lastSome_zipIdx (g : Nat → β → γ) (l : List α) (n : Nat) :
    ∃ i, lastSome (fun x : α × Nat => (f x.1).map (g x.2)) (l.zipIdx n) =
      (lastSome f l).map (g i) := by
  induction l using List.reverseRecOn with
  | nil => exact ⟨0, rfl⟩
  | append_singleton l x ih =>
    obtain ⟨i, hi⟩ := ih
    rw [List.zipIdx_append, List.zipIdx_singleton, lastSome_concat, lastSome_concat, hi]
    cases h : f x with
    | none => exact ⟨i, by rw [Option.map_none, Option.none_or, Option.none_or]⟩
    | some y => exact ⟨n + l.length, rfl⟩

/-- Inputs that assign nothing may follow the last assignment. -/
theorem lastSome_append {later : List α} (hlater : ∀ x ∈ later, f x = none) (l : List α) :
    lastSome f (l ++ later) = lastSome f l := by
  have hnone : later.filterMap f = [] := List.filterMap_eq_nil_iff.mpr hlater
  rw [lastSome, lastSome, List.filterMap_append, hnone, List.append_nil]

/-- What the last assignment is, where an input is followed by such as assign nothing. -/
theorem lastSome_split {x : α} {later : List α} (hlater : ∀ z ∈ later, f z = none)
    (earlier : List α) :
    lastSome f (earlier ++ x :: later) = (f x).or (lastSome f earlier) := by
  have hsplit : earlier ++ x :: later = earlier ++ [x] ++ later := by simp
  rw [hsplit, lastSome_append hlater, lastSome_concat]

/-- **The input that makes the last assignment**, if there is one. -/
theorem exists_last (f : α → Option β) (l : List α) :
    (∀ x ∈ l, f x = none) ∨
      ∃ earlier x later, l = earlier ++ x :: later ∧ f x ≠ none ∧ ∀ z ∈ later, f z = none := by
  induction l using List.reverseRecOn with
  | nil => exact Or.inl fun _ h => absurd h List.not_mem_nil
  | append_singleton l last ih =>
    cases hlast : f last with
    | some y => exact Or.inr ⟨l, last, [], rfl, by simp [hlast], fun _ h => absurd h List.not_mem_nil⟩
    | none =>
      rcases ih with hnone | ⟨earlier, x, later, rfl, hx, hlater⟩
      · refine Or.inl fun x hmem => ?_
        rcases List.mem_append.mp hmem with hx | hx
        · exact hnone x hx
        · rw [List.mem_singleton.mp hx, hlast]
      · refine Or.inr ⟨earlier, x, later ++ [last], by simp, hx, fun z hmem => ?_⟩
        rcases List.mem_append.mp hmem with hz | hz
        · exact hlater z hz
        · rw [List.mem_singleton.mp hz, hlast]

theorem lastSome_map (g : β → γ) (l : List α) :
    lastSome (fun x => (f x).map g) l = (lastSome f l).map g := by
  rw [lastSome, lastSome, ← List.map_filterMap, List.getLast?_map]

theorem lastSome_mem {l : List α} {y : β} (h : lastSome f l = some y) : ∃ x ∈ l, f x = some y :=
  List.mem_filterMap.mp (List.mem_of_getLast? h)

theorem lastSome_eq_none {l : List α} : lastSome f l = none ↔ ∀ x ∈ l, f x = none := by
  rw [lastSome, List.getLast?_eq_none_iff, List.filterMap_eq_nil_iff]

end LastUpdate

end LastUpdate
