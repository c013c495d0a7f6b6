import Mathlib.Logic.Relation

/-!
# Runs of a transition system

States, an initial predicate and a step relation labelled by actions.

* `Reachable` — the states of finite runs from an initial state;
* `Reachable.invariant` — a predicate that holds initially and is preserved by every step
  holds of every reachable state;
* `Run` — runs with their list of actions, which compose (`Run.append`), come apart (`Run.split`)
  and stay within the reachable states (`Run.reachable`);
* `Run.history` — what holds of a run and the actions that led to it.
-/

set_option autoImplicit false

namespace Runs

variable {σ α : Type} (init : σ → Prop) (next : σ → α → σ → Prop)

inductive Reachable : σ → Prop where
  | start {s : σ} : init s → Reachable s
  | step {s t : σ} {a : α} : Reachable s → next s a t → Reachable t

/-- A run from one state to another. -/
inductive Run : σ → List α → σ → Prop where
  | nil (s : σ) : Run s [] s
  | cons {s t u : σ} {a : α} {as : List α} : next s a t → Run t as u → Run s (a :: as) u

variable {init next}

/-- **Invariant rule.** -/
theorem Reachable.invariant {P : σ → Prop} (hinit : ∀ s, init s → P s)
    (hstep : ∀ s a t, P s → next s a t → P t) {s : σ} (h : Reachable init next s) : P s := by
  induction h with
  | start h => exact hinit _ h
  | step _ hnext ih => exact hstep _ _ _ ih hnext

theorem Run.append {s t u : σ} {as bs : List α} (h : Run next s as t) (h' : Run next t bs u) :
    Run next s (as ++ bs) u := by
  induction h with
  | nil _ => exact h'
  | cons hnext _ ih => exact .cons hnext (ih h')

theorem Run.split {s u : σ} {as bs : List α} (h : Run next s (as ++ bs) u) :
    ∃ t, Run next s as t ∧ Run next t bs u := by
  induction as generalizing s with
  | nil => exact ⟨s, .nil s, h⟩
  | cons a as ih =>
    cases h with
    | cons hnext hrest =>
      obtain ⟨t, hfront, hback⟩ := ih hrest
      exact ⟨t, .cons hnext hfront, hback⟩

theorem Run.reachable {s t : σ} {as : List α} (hs : Reachable init next s)
    (h : Run next s as t) : Reachable init next t := by
  induction h with
  | nil _ => exact hs
  | cons hnext _ ih => exact ih (.step hs hnext)

/-- **History rule.**  What every action adds to a history holds of the history of a whole run. -/
theorem Run.history {J : List α → σ → Prop} {as : List α}
    (hstep : ∀ before s a t, a ∈ as → J before s → next s a t → J (before ++ [a]) t)
    {before : List α} {s t : σ} (hs : J before s) (h : Run next s as t) : J (before ++ as) t := by
  induction h generalizing before with
  | nil _ => rwa [List.append_nil]
  | @cons s t _ a as hnext _ ih =>
    rw [← List.singleton_append, ← List.append_assoc]
    exact ih (fun before s a t ha => hstep before s a t (List.mem_cons_of_mem _ ha))
      (hstep before s a t List.mem_cons_self hs hnext)

end Runs
