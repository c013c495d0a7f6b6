import Mathlib.Data.List.Basic

/-!
# The bounded first-in first-out queue

A queue of at most `cap` items.  The bound is a field, so no operation can build a queue that
is too long.  Each operation returns its result and the queue after it.
-/

set_option autoImplicit false

/-- A queue with room for `cap` items, oldest first. -/
structure BoundedQueue (α : Type) (cap : Nat) where
  items : List α
  le : items.length ≤ cap

namespace BoundedQueue

variable {α : Type} {cap : Nat}

def empty : BoundedQueue α cap := ⟨[], Nat.zero_le _⟩

/-- Append one item; a full queue refuses it and is unchanged. -/
def push (q : BoundedQueue α cap) (v : α) : Bool × BoundedQueue α cap :=
  if h : q.items.length < cap then
    (true, ⟨q.items ++ [v], by rw [List.length_append]; exact h⟩)
  else (false, q)

/-- Remove the oldest item; an empty queue has none. -/
def pop (q : BoundedQueue α cap) : Option α × BoundedQueue α cap :=
  (q.items.head?, ⟨q.items.tail, by rw [List.length_tail]; exact Nat.le_trans (Nat.sub_le _ _) q.le⟩)

/-- Append the longest prefix of `vs` that fits and return its length. -/
def pushMany (q : BoundedQueue α cap) (vs : List α) : Nat × BoundedQueue α cap :=
  (min vs.length (cap - q.items.length), ⟨q.items ++ vs.take (cap - q.items.length), by
    have := q.le
    rw [List.length_append, List.length_take]
    omega⟩)

/-- Remove the `n` oldest items, or all if there are fewer, and return their number. -/
def drop (q : BoundedQueue α cap) (n : Nat) : Nat × BoundedQueue α cap :=
  (min n q.items.length, ⟨q.items.drop n, by
    rw [List.length_drop]
    exact Nat.le_trans (Nat.sub_le _ _) q.le⟩)

@[simp] theorem pop_items (q : BoundedQueue α cap) : q.pop.2.items = q.items.tail := rfl

@[simp] theorem drop_items (q : BoundedQueue α cap) (n : Nat) :
    (q.drop n).2.items = q.items.drop n := rfl

/-! ## Operations as data -/

inductive Op (α : Type) where
  | push (v : α)
  | pop
  | pushMany (vs : List α)
  | drop (n : Nat)
  | clear

/-- What an operation returns. -/
inductive Out (α : Type) where
  | accepted (b : Bool)
  | item (v : Option α)
  | count (n : Nat)
  | done
  deriving DecidableEq

def step : Op α → BoundedQueue α cap → Out α × BoundedQueue α cap
  | .push v, q => (.accepted (q.push v).1, (q.push v).2)
  | .pop, q => (.item q.pop.1, q.pop.2)
  | .pushMany vs, q => (.count (q.pushMany vs).1, (q.pushMany vs).2)
  | .drop n, q => (.count (q.drop n).1, (q.drop n).2)
  | .clear, _ => (.done, empty)

end BoundedQueue
