import Mathlib.Data.List.Basic

/-!
# Scanning a stream for the first acceptable suffix

A receiver that looks for the start of a message drops items from the front of its input
until what is left is acceptable.  `skip p l` is the number of items it drops: the least
index whose suffix satisfies `p`, or the length of `l` if no suffix does.

* `skip_unique` — the two conditions that determine `skip`;
* `skip_of_forall_not`, `skip_drop` — a rejected prefix may be cut off;
* `skip_append` — if rejection is final (`Persistent`: no further input makes a rejected
  suffix acceptable), scanning commutes with arrival, so input may come in pieces.
-/

set_option autoImplicit false

namespace StreamScan

variable {α : Type} (p : List α → Prop) [DecidablePred p]

def skip : List α → Nat
  | [] => 0
  | a :: l => if p (a :: l) then 0 else skip l + 1

theorem skip_le_length : ∀ l : List α, skip p l ≤ l.length
  | [] => Nat.le_refl _
  | a :: l => by
    have := skip_le_length l
    simp only [skip, List.length_cons]
    split <;> omega

variable {p}

theorem skip_holds : ∀ {l : List α}, skip p l < l.length → p (l.drop (skip p l))
  | [], h => absurd h (Nat.lt_irrefl _)
  | a :: l, h => by
    simp only [skip, List.length_cons] at h ⊢
    split
    · assumption
    · rename_i hp
      rw [if_neg hp] at h
      rw [List.drop_succ_cons]
      exact skip_holds (by omega)

theorem not_of_lt_skip : ∀ {l : List α} {i : Nat}, i < skip p l → ¬ p (l.drop i)
  | [], i, h => absurd h (Nat.not_lt_zero i)
  | a :: l, i, h => by
    simp only [skip] at h
    split at h
    · exact absurd h (Nat.not_lt_zero i)
    · rename_i hp
      cases i with
      | zero => exact hp
      | succ i =>
        rw [List.drop_succ_cons]
        exact not_of_lt_skip (by omega)

/-- The least index with an acceptable suffix, or the length, is `skip`. -/
theorem skip_unique {l : List α} {k : Nat} (hle : k ≤ l.length)
    (hk : k < l.length → p (l.drop k)) (hlt : ∀ i, i < k → ¬ p (l.drop i)) : skip p l = k := by
  rcases Nat.lt_trichotomy (skip p l) k with h | h | h
  · exact absurd (skip_holds (by omega)) (hlt _ h)
  · exact h
  · have := skip_le_length p l
    exact absurd (hk (by omega)) (not_of_lt_skip h)

/-- A prefix at whose indices nothing is acceptable may be cut off. -/
theorem skip_of_forall_not {l : List α} {k : Nat} (hle : k ≤ l.length)
    (hlt : ∀ i, i < k → ¬ p (l.drop i)) : skip p l = k + skip p (l.drop k) := by
  have hlen := skip_le_length p (l.drop k)
  rw [List.length_drop] at hlen
  apply skip_unique (by omega)
  · intro h
    rw [← List.drop_drop]
    apply skip_holds
    rw [List.length_drop]
    omega
  · intro i hi
    by_cases hik : i < k
    · exact hlt i hik
    · have := not_of_lt_skip (p := p) (l := l.drop k) (i := i - k) (by omega)
      rwa [List.drop_drop, Nat.add_sub_cancel' (by omega)] at this

/-- Scanning what is left after a part of the scan. -/
theorem skip_drop {l : List α} {k : Nat} (hk : k ≤ skip p l) :
    skip p (l.drop k) = skip p l - k := by
  have hle := skip_le_length p l
  have hcut : skip p l = k + skip p (l.drop k) :=
    skip_of_forall_not (by omega) fun i hi => not_of_lt_skip (by omega)
  omega

theorem skip_eq_zero {l : List α} (h : p l) : skip p l = 0 := by
  cases l with
  | nil => rfl
  | cons a l => exact if_pos h

/-- A predicate that accepts more stops no later. -/
theorem skip_le_skip {q : List α → Prop} [DecidablePred q] (h : ∀ s, q s → p s) (l : List α) :
    skip p l ≤ skip q l := by
  by_contra hlt
  have hq := skip_le_length p l
  exact not_of_lt_skip (Nat.lt_of_not_le hlt) (h _ (skip_holds (by omega)))

/-- No further input makes a rejected suffix acceptable. -/
def Persistent (p : List α → Prop) : Prop := ∀ s t, s ≠ [] → ¬ p s → ¬ p (s ++ t)

theorem not_append_of_lt_skip (hp : Persistent p) {l : List α} {i : Nat} (h : i < skip p l)
    (t : List α) : ¬ p ((l ++ t).drop i) := by
  have hle := skip_le_length p l
  rw [List.drop_append_of_le_length (by omega)]
  refine hp _ t ?_ (not_of_lt_skip h)
  rw [ne_eq, List.drop_eq_nil_iff]
  omega

/-- **Scanning commutes with arrival.** -/
theorem skip_append (hp : Persistent p) (l t : List α) :
    skip p (l ++ t) = skip p l + skip p (l.drop (skip p l) ++ t) := by
  have hle := skip_le_length p l
  rw [skip_of_forall_not (k := skip p l) (by rw [List.length_append]; omega)
    (fun i hi => not_append_of_lt_skip hp hi t), List.drop_append_of_le_length hle]

end StreamScan
