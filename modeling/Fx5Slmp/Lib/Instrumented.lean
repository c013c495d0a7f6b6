import Fx5Slmp.Lib.CheckedMem

/-!
# Instrumented computations

A program that may be undefined computes in `Option`.  The same program, written once for any monad,
may check more on its way, or keep a record.  A `Reading` says which computation in `Option` an
instrumented one reads as; sequencing and loops respect it, so what is left to show are the basic
operations.

* `Reading.same`, `Reading.forget`, `Reading.silent` — computations that are equal, that forget a
  record, and that leave it alone;
* `Reading.next` — after a step whose result is known;
* `Reading.forRange` — **loops** whose turns read as the turns of another one.
-/

set_option autoImplicit false

namespace Instrumented

open CheckedMem

/-- A monad whose computations may be undefined. -/
class MayFail (m : Type → Type) extends Monad m where
  undefined : ∀ {α : Type}, m α

instance : MayFail Option where
  undefined := none

instance {ρ : Type} : MayFail (StateT ρ Option) where
  undefined := StateT.lift none

/-- What the computations of a monad read as. -/
structure Reading (m : Type → Type) [MayFail m] where
  reads : ∀ {α : Type}, m α → Option α → Prop
  pure : ∀ {α : Type} (a : α), reads (pure a) (some a)
  bind : ∀ {α β : Type} {x : m α} {y : Option α} {f : α → m β} {g : α → Option β}, reads x y →
    (∀ a, y = some a → reads (f a) (g a)) → reads (x >>= f) (y.bind g)
  undefined : ∀ {α : Type}, reads (MayFail.undefined : m α) none

section Reading

variable {m : Type → Type} [MayFail m]

/-- An access that may be undefined. -/
def access {α : Type} : Option α → m α
  | some a => pure a
  | none => MayFail.undefined

/-- `for (k = lo; k < lo + n; ++k) s = body k s`. -/
def forRangeM {σ : Type} (body : Nat → σ → m σ) : Nat → Nat → σ → m σ
  | _, 0, s => pure s
  | lo, n + 1, s => body lo s >>= forRangeM body (lo + 1) n

namespace Reading

variable (R : Reading m) {α β σ : Type}

theorem access (y : Option α) : R.reads (Instrumented.access y) y := by
  cases y with
  | none => exact R.undefined
  | some a => exact R.pure a

/-- After a step whose result is known. -/
theorem next {x : m α} {a : α} {f : α → m β} {z : Option β} (hx : R.reads x (some a))
    (hf : R.reads (f a) z) : R.reads (x >>= f) z :=
  R.bind (g := fun _ => z) hx fun b hb => by
    cases hb
    exact hf

/-- **Loops** whose turns read as the turns of another one, on the states that this one can reach;
what holds of a state may depend on the turn. -/
theorem forRange {body : Nat → σ → m σ} {body' : Nat → σ → Option σ} (P : Nat → σ → Prop) {hi : Nat}
    (hstep : ∀ k s s', k < hi → P k s → body' k s = some s' → P (k + 1) s')
    (hread : ∀ k s, k < hi → P k s → R.reads (body k s) (body' k s)) :
    ∀ (n lo : Nat) (s : σ), lo + n ≤ hi → P lo s →
      R.reads (forRangeM body lo n s) (CheckedMem.forRange body' lo n s)
  | 0, _, s, _, _ => R.pure s
  | n + 1, lo, s, hle, h => by
    have hlo : lo < hi := by omega
    refine R.bind (hread lo s hlo h) fun s₁ hbody => ?_
    exact forRange P hstep hread n (lo + 1) s₁ (by omega) (hstep lo s s₁ hlo h hbody)

end Reading

end Reading

/-! ## Readings -/

/-- Equal computations. -/
def Reading.same : Reading Option where
  reads x y := x = y
  pure _ := rfl
  bind := by
    rintro _ _ x _ f g rfl hf
    cases x with
    | none => rfl
    | some a => exact hf a rfl
  undefined := rfl

section Records

variable {ρ : Type}

/-- Computations with a record, which is forgotten. -/
def Reading.forget : Reading (StateT ρ Option) where
  reads x y := ∀ r, (x.run r).map Prod.fst = y
  pure _ _ := rfl
  bind := by
    intro _ _ x y f g hx hf r
    have hone := hx r
    rw [StateT.run_bind]
    cases hrun : x.run r with
    | none =>
      rw [hrun] at hone
      cases hone
      rfl
    | some p =>
      rw [hrun] at hone
      cases hone
      exact hf p.1 rfl p.2
  undefined _ := rfl

/-- Computations that leave the record alone. -/
def Reading.silent : Reading (StateT ρ Option) where
  reads x y := ∀ r, x.run r = y.map (·, r)
  pure _ _ := rfl
  bind := by
    intro _ _ x y f g hx hf r
    rw [StateT.run_bind, hx r]
    cases y with
    | none => rfl
    | some a => exact hf a rfl r
  undefined _ := rfl

end Records

end Instrumented
