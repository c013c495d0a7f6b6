import Mathlib.Data.List.Basic

/-!
# Bounds-checked memory and counted loops

A C program that reads or writes outside an array has no defined result.  The functions
here make that visible: a computation has type `Option`, and an access outside the array
it goes to yields `none`.

* `store`, `storeMany` — write one cell, or a block of consecutive cells;
* `forRange` — `for (k = lo; k < lo + n; ++k)` over an explicit state;
* `forRange_rule` — the invariant rule: what one turn preserves, the whole loop preserves,
  and a loop whose turns are all defined is defined;
* `forRange_undefined` — a loop that reaches an undefined turn is undefined;
* `forRange_fill` — the loop that stores one value into consecutive cells.
-/

set_option autoImplicit false

namespace CheckedMem

variable {α σ : Type}

/-- `xs[i] = v`. -/
def store (xs : List α) (i : Nat) (v : α) : Option (List α) :=
  if i < xs.length then some (xs.set i v) else none

/-- Write the cells `ys` at `xs[off], xs[off + 1], …`. -/
def storeMany (xs : List α) (off : Nat) (ys : List α) : Option (List α) :=
  if off + ys.length ≤ xs.length then
    some (xs.take off ++ (ys ++ xs.drop (off + ys.length)))
  else none

theorem store_of_lt {xs : List α} {i : Nat} (h : i < xs.length) (v : α) :
    store xs i v = some (xs.set i v) := if_pos h

/-- Storing behind the first `k` cells of an overwritten prefix. -/
theorem store_append_drop {xs ys : List α} {k : Nat} (hk : xs.length = k) (h : k < ys.length)
    (v : α) : store (xs ++ ys.drop k) k v = some (xs ++ [v] ++ ys.drop (k + 1)) := by
  rw [store_of_lt (by simp; omega), List.set_append_right _ _ (by omega), hk, Nat.sub_self,
    List.drop_eq_getElem_cons h, List.set_cons_zero, List.append_assoc]
  rfl

theorem storeMany_of_le {xs : List α} {off : Nat} {ys : List α}
    (h : off + ys.length ≤ xs.length) :
    storeMany xs off ys = some (xs.take off ++ (ys ++ xs.drop (off + ys.length))) := if_pos h

theorem storeMany_length {xs ys zs : List α} {off : Nat} (h : storeMany xs off ys = some zs) :
    zs.length = xs.length := by
  unfold storeMany at h
  split at h
  · cases h
    simp only [List.length_append, List.length_take, List.length_drop]
    omega
  · cases h

/-- Two blocks written one behind the other are one block. -/
theorem storeMany_append {xs ys zs : List α} {off : Nat}
    (h : off + (ys.length + zs.length) ≤ xs.length) :
    (storeMany xs off ys).bind (fun m => storeMany m (off + ys.length) zs) =
      storeMany xs off (ys ++ zs) := by
  rw [storeMany_of_le (by omega), Option.bind_some, storeMany_of_le, storeMany_of_le]
  · have hys : (xs.take off ++ (ys ++ xs.drop (off + ys.length))).take (off + ys.length) =
        xs.take off ++ ys := by
      rw [← List.append_assoc, List.take_left']
      simp only [List.length_append, List.length_take]
      omega
    have hzs : (xs.take off ++ (ys ++ xs.drop (off + ys.length))).drop
        (off + ys.length + zs.length) = xs.drop (off + (ys ++ zs).length) := by
      rw [← List.append_assoc, List.drop_append, List.drop_eq_nil_of_le, List.drop_drop,
        List.nil_append]
      · congr 1
        simp only [List.length_append, List.length_take]
        omega
      · simp only [List.length_append, List.length_take]
        omega
    rw [hys, hzs]
    simp only [List.append_assoc]
  · simp only [List.length_append]
    omega
  · simp only [List.length_append, List.length_take, List.length_drop]
    omega

/-- `for (k = lo; k < lo + n; ++k) s = body k s`. -/
def forRange (body : Nat → σ → Option σ) : Nat → Nat → σ → Option σ
  | _, 0, s => some s
  | lo, n + 1, s => (body lo s).bind (forRange body (lo + 1) n)

/-- **Invariant rule of the counted loop.** -/
theorem forRange_rule {body : Nat → σ → Option σ} (P : Nat → σ → Prop) :
    ∀ (n lo : Nat) (s : σ), P lo s →
      (∀ k s, lo ≤ k → k < lo + n → P k s → ∃ s', body k s = some s' ∧ P (k + 1) s') →
      ∃ s', forRange body lo n s = some s' ∧ P (lo + n) s'
  | 0, _, s, h, _ => ⟨s, rfl, h⟩
  | n + 1, lo, s, h, hstep => by
    obtain ⟨s₁, hbody, h₁⟩ := hstep lo s (Nat.le_refl _) (by omega) h
    obtain ⟨s', hrest, h'⟩ := forRange_rule P n (lo + 1) s₁ h₁
      (fun k s hlo hhi => hstep k s (by omega) (by omega))
    refine ⟨s', ?_, ?_⟩
    · rw [forRange, hbody, Option.bind_some, hrest]
    · rw [show lo + (n + 1) = lo + 1 + n by omega]
      exact h'

/-- **A loop that reaches an undefined turn is undefined.** -/
theorem forRange_undefined {body : Nat → σ → Option σ} (P : σ → Prop) {m : Nat}
    (hstep : ∀ k s s', P s → body k s = some s' → P s') (hturn : ∀ s, P s → body m s = none) :
    ∀ (n lo : Nat) (s : σ), P s → lo ≤ m → m < lo + n → forRange body lo n s = none
  | 0, _, _, _, hlo, hhi => absurd hhi (by omega)
  | n + 1, lo, s, h, hlo, hhi => by
    rw [forRange]
    cases hbody : body lo s with
    | none => rfl
    | some s₁ =>
      have hne : lo ≠ m := by
        rintro rfl
        rw [hturn s h] at hbody
        cases hbody
      exact forRange_undefined P hstep hturn n (lo + 1) s₁ (hstep lo s s₁ h hbody) (by omega)
        (by omega)

theorem store_length {xs ys : List α} {i : Nat} {v : α} (h : store xs i v = some ys) :
    ys.length = xs.length := by
  unfold store at h
  split at h
  · cases h
    exact List.length_set
  · cases h

theorem store_of_ge {xs : List α} {i : Nat} (h : xs.length ≤ i) (v : α) :
    store xs i v = none := if_neg (Nat.not_lt_of_le h)

/-- **A loop that stores one value** into the cells from `lo` on, all before them holding it. -/
theorem forRange_fill (body : Nat → List α → Option (List α)) (v : α) {values : List α}
    {lo n : Nat} (hfit : lo + n ≤ values.length)
    (hbody : ∀ k, lo ≤ k → body k (List.replicate k v ++ values.drop k) =
      store (List.replicate k v ++ values.drop k) k v) :
    forRange body lo n (List.replicate lo v ++ values.drop lo) =
      some (List.replicate (lo + n) v ++ values.drop (lo + n)) := by
  have hturn : ∀ k s, lo ≤ k → k < lo + n → s = List.replicate k v ++ values.drop k →
      ∃ s', body k s = some s' ∧ s' = List.replicate (k + 1) v ++ values.drop (k + 1) := by
    rintro k _ hlo hhi rfl
    refine ⟨_, ?_, rfl⟩
    rw [hbody k hlo, store_append_drop List.length_replicate (by omega), List.replicate_succ']
  obtain ⟨s', hloop, rfl⟩ :=
    forRange_rule (fun k s => s = List.replicate k v ++ values.drop k) n lo _ rfl hturn
  exact hloop

end CheckedMem
