import Mathlib.Data.List.Rotate

/-!
# Windows of a circular array

`window xs t n` is the list of the `n` cells of `xs` found from index `t` on, going round at
the end of the array.  It is the logical content of a ring buffer whose read position is `t`
and whose fill level is `n`.

* `window_getElem?` — the `i`-th item lies in cell `(t + i) % length`;
* `window_set` — writing the first free cell appends one item;
* `window_drop` — advancing the read position removes items from the front;
* `wrap_succ`, `wrap_add` — the two ways of stepping an index without a division.
-/

set_option autoImplicit false

namespace CircularWindow

variable {α : Type}

def window (xs : List α) (t n : Nat) : List α := (xs.rotate t).take n

@[simp] theorem window_zero (xs : List α) (t : Nat) : window xs t 0 = [] := by
  simp [window]

theorem window_length {xs : List α} {n : Nat} (t : Nat) (h : n ≤ xs.length) :
    (window xs t n).length = n := by
  simp [window, h]

theorem window_getElem? {xs : List α} {t n i : Nat} (hi : i < n) (hn : n ≤ xs.length) :
    (window xs t n)[i]? = xs[(t + i) % xs.length]? := by
  rw [window, List.getElem?_take_of_lt hi, List.getElem?_rotate (by omega), Nat.add_comm i t]

/-- Distinct offsets below the length reach distinct cells. -/
theorem wrap_ne {t i j len : Nat} (hi : i < j) (hj : j < len) :
    (t + i) % len ≠ (t + j) % len := by
  intro h
  have hdvd := Nat.sub_mod_eq_zero_of_mod_eq h.symm
  rw [show t + j - (t + i) = j - i by omega, Nat.mod_eq_of_lt (by omega)] at hdvd
  omega

/-- **Writing the first free cell appends one item.** -/
theorem window_set {xs : List α} {t n : Nat} (v : α) (hn : n < xs.length) :
    window (xs.set ((t + n) % xs.length) v) t (n + 1) = window xs t n ++ [v] := by
  apply List.ext_getElem?
  intro i
  have hlen : (xs.set ((t + n) % xs.length) v).length = xs.length := List.length_set
  by_cases hi : i < n + 1
  · rw [window_getElem? hi (by omega), hlen, List.getElem?_set]
    by_cases hin : i = n
    · subst hin
      rw [if_pos rfl, if_pos (Nat.mod_lt _ (by omega)),
        List.getElem?_append_right (by rw [window_length t (by omega)]),
        window_length t (by omega), Nat.sub_self]
      rfl
    · rw [if_neg (wrap_ne (by omega) hn).symm,
        List.getElem?_append_left (by rw [window_length t (by omega)]; omega),
        window_getElem? (by omega) (by omega)]
  · rw [List.getElem?_eq_none, List.getElem?_eq_none]
    · rw [List.length_append, window_length t (by omega)]
      simp
      omega
    · rw [window_length t (by omega)]
      omega

/-- **Advancing the read position removes items from the front.** -/
theorem window_drop {xs : List α} {t n k : Nat} (hk : k ≤ n) (hn : n ≤ xs.length) :
    window xs ((t + k) % xs.length) (n - k) = (window xs t n).drop k := by
  apply List.ext_getElem?
  intro i
  rw [List.getElem?_drop]
  by_cases hi : i < n - k
  · rw [window_getElem? hi (by omega), window_getElem? (by omega) hn, Nat.mod_add_mod,
      Nat.add_assoc]
  · rw [List.getElem?_eq_none, List.getElem?_eq_none]
    · rw [window_length t hn]
      omega
    · rw [window_length _ (by omega)]
      omega

/-! ## Stepping an index -/

/-- Adding one and going back to zero at the end is addition modulo the length. -/
theorem wrap_succ {i cap : Nat} (h : i < cap) :
    (if i + 1 ≥ cap then 0 else i + 1) = (i + 1) % cap := by
  split
  · rw [show i + 1 = cap by omega, Nat.mod_self]
  · rw [Nat.mod_eq_of_lt (by omega)]

/-- One conditional subtraction is enough for two indices inside the array. -/
theorem wrap_add {t i cap : Nat} (ht : t < cap) (hi : i < cap) :
    (if t + i ≥ cap then t + i - cap else t + i) = (t + i) % cap := by
  split
  · rw [Nat.mod_eq_sub_mod (by omega), Nat.mod_eq_of_lt (by omega)]
  · rw [Nat.mod_eq_of_lt (by omega)]

end CircularWindow
