import Fx5Slmp.Atomicity
import Fx5Slmp.ParseEffects

/-!
# Histories of the public API

A history is a list of calls with their replies.  `CallEffect` says once what a call on a
context can do; everything about histories is derived from it.

* `Trace.on_handle` — **projection**: what a history with any interleaving of handles does to
  one context is what the calls on its handle do, one after the other;
* `History` — histories with calls on handles that nobody holds; `History.trace` — such calls are
  refused, and the history without them leaves the same pool;
* `Fresh` — the states right after `fx5_acquire` returned a handle, or `fx5_reset` on it.
-/

set_option autoImplicit false

namespace Fx5

section Effect

variable {cfg : Config} {ctx ctx' : Context}

/-- No call on a context hands out a handle. -/
theorem callContext_reply {call : Call} {h : Nat} (ht : call.target = some h) {reply : Reply}
    (hcall : callContext cfg call ctx = some (reply, ctx')) {status : Status}
    {handle : Option Nat} : reply ≠ .handle status handle := by
  rintro rfl
  cases call with
  | acquire => cases ht
  | _ =>
    simp only [callContext] at hcall
    repeat' (split at hcall)
    all_goals simp [Option.bind_eq_some_iff] at hcall

/-- Only a release takes the context out of use. -/
theorem CallEffect.inUse {call : Call} {reply : Reply} (heffect : CallEffect cfg ctx call reply ctx')
    (hinv : ctx.Inv cfg) (huse : ctx.inUse = true) :
    ctx'.inUse = true ∨ ∃ h, call = .release h := by
  cases heffect with
  | released h => exact Or.inr ⟨h, rfl⟩
  | sent h _ _ _ => exact Or.inl (by rw [Context.sent_inUse, huse])
  | parsed h hres =>
    obtain ⟨_, _, hres', _, huse', _⟩ := parseResponse_inv hinv huse
    rw [hres] at hres'
    cases hres'
    exact Or.inl huse'
  | read _ => exact Or.inl huse
  | refused _ _ => exact Or.inl huse
  | cleared h => exact Or.inl huse
  | configured _ _ => exact Or.inl huse
  | requested h _ => exact Or.inl huse
  | written h _ => exact Or.inl huse
  | fed h _ _ => exact Or.inl huse

end Effect

/-! ## Histories -/

/-- A call with the reply it got. -/
structure Event where
  call : Call
  reply : Reply

/-- One legal call that returns, with its reply. -/
def NextEvent (cfg : Config) (pool : Pool) (e : Event) (pool' : Pool) : Prop :=
  e.call.Legal pool ∧ step cfg pool e.call = some (e.reply, pool')

/-- The legal calls of a finite run with their replies; a `History` may have others. -/
abbrev Trace (cfg : Config) : Pool → List Event → Pool → Prop := Runs.Run (NextEvent cfg)

/-- A call on a handle that is not in use: it was not handed out, or was given back. -/
def Call.OnFree (pool : Pool) (call : Call) : Prop :=
  ∃ h ctx, call.target = some h ∧ pool[h]? = some ctx ∧ ctx.inUse = false

/-- One call that returns, legal or on a handle that is not in use, with its reply. -/
def AnyEvent (cfg : Config) (pool : Pool) (e : Event) (pool' : Pool) : Prop :=
  (e.call.Legal pool ∨ e.call.OnFree pool) ∧ step cfg pool e.call = some (e.reply, pool')

/-- All calls of a finite run with their replies. -/
abbrev History (cfg : Config) : Pool → List Event → Pool → Prop := Runs.Run (AnyEvent cfg)

/-- The event hands out handle `h`. -/
def Event.Acquires (h : Nat) (e : Event) : Prop := e.reply = .handle .ok (some h)

/-- The calls on handle `h`. -/
def eventsOn (h : Nat) (es : List Event) : List Event := es.filter fun e => e.call.target = some h

/-- A slot that was just handed out. -/
def Context.acquired (cfg : Config) (ctx : Context) : Context :=
  { contextResetInternal cfg ctx with inUse := true }

/-- Resetting a context in use hands it out anew. -/
theorem contextResetInternal_acquired {cfg : Config} {ctx : Context} (huse : ctx.inUse = true) :
    contextResetInternal cfg ctx = ctx.acquired cfg := by
  have hreset : (contextResetInternal cfg ctx).inUse = true := huse
  rw [Context.acquired, ← hreset]

section History

variable {cfg : Config} {pool pool' : Pool} {e : Event}

theorem NextEvent.next (h : NextEvent cfg pool e pool') : Next cfg pool e.call pool' :=
  ⟨h.1, e.reply, h.2⟩

/-- **What an event does to the pool**: a call runs on the context at its handle; an acquisition
hands out a free slot, or none. -/
theorem NextEvent.cases (hpool : PoolInv cfg pool) (hnext : NextEvent cfg pool e pool') :
    (∃ handle ctx ctx', e.call.target = some handle ∧ pool[handle]? = some ctx ∧
      ctx.inUse = true ∧ ctx.Inv cfg ∧ e.call.MemoryOk ∧
      callContext cfg e.call ctx = some (e.reply, ctx') ∧ pool' = pool.set handle ctx') ∨
    (e.call.target = none ∧ pool' = pool ∧ e.reply = .handle .errNoContext none) ∨
    (∃ k ctx, e.call.target = none ∧ pool[k]? = some ctx ∧ ctx.inUse = false ∧
      e.Acquires k ∧ pool' = pool.set k (ctx.acquired cfg)) := by
  obtain ⟨hlegal, hstep⟩ := hnext
  cases ht : e.call.target with
  | some handle =>
    obtain ⟨ctx, hctx, huse, hinv⟩ := hlegal.context hpool ht
    obtain ⟨reply, ctx₁, ctx', hctx₁, hcall, hstep', _⟩ := step_defined hpool hlegal ht
    rw [hctx] at hctx₁
    cases hctx₁
    rw [hstep] at hstep'
    simp only [Option.some.injEq, Prod.mk.injEq] at hstep'
    obtain ⟨hreply, rfl⟩ := hstep'
    rw [← hreply] at hcall
    exact Or.inl ⟨handle, ctx, ctx', rfl, hctx, huse, hinv, hlegal.1, hcall, rfl⟩
  | none =>
    unfold step at hstep
    rw [ht] at hstep
    simp only [Option.bind_eq_bind, Option.bind_eq_some_iff] at hstep
    obtain ⟨⟨status, handle, pool''⟩, hacquire, hstep⟩ := hstep
    simp only [Option.some.injEq, Prod.mk.injEq] at hstep
    obtain ⟨hreply, rfl⟩ := hstep
    rcases acquire_cases hacquire with ⟨rfl, rfl, rfl⟩ | ⟨k, ctx, hctx, hfree, rfl, rfl, rfl⟩
    · exact Or.inr (Or.inl ⟨rfl, rfl, hreply.symm⟩)
    · exact Or.inr (Or.inr ⟨k, ctx, rfl, hctx, hfree, hreply.symm, rfl⟩)

theorem Trace.poolInv {es : List Event} (hpool : PoolInv cfg pool) (htrace : Trace cfg pool es pool') :
    PoolInv cfg pool' := by
  induction htrace with
  | nil _ => exact hpool
  | cons hnext _ ih => exact ih (step_inv hpool hnext.next)

/-! ## Calls on free handles -/

/-- The reply to a call on a handle that is not in use. -/
def Call.refusal : Call → Reply
  | .acquire => .handle .errNoContext none
  | .release _ => .released
  | .getNetworkSettings _ _ => .settings .errNotAcquired none
  | .buildRequest _ (some out) _ (some actual) =>
    .built .errNotAcquired (some out) (some actual)
  | .buildRequest _ out _ actual => .built .errNull out actual
  | .getResponseValue _ _ _ => .value .errNotAcquired none
  | .getResponseCode _ | .getResponseCount _ | .getLastSerial _ => .number 0
  | _ => .done .errNotAcquired

/-- **A context that is not in use** refuses every call and stays as it is. -/
theorem callContext_free {ctx : Context} {call : Call} {h : Nat} (ht : call.target = some h)
    (hfree : ctx.inUse = false) : callContext cfg call ctx = some (call.refusal, ctx) := by
  have hrequire : requireAcquired (some ctx) = .errNotAcquired := by
    rw [requireAcquired, hfree]
    rfl
  cases call with
  | acquire => cases ht
  | release h =>
    rw [callContext, release, hfree]
    rfl
  | reset h =>
    rw [callContext, reset, hrequire]
    rfl
  | setNetworkSettings h settings =>
    simp only [callContext, setNetworkSettings, hrequire]
    rfl
  | getNetworkSettings h hasOut =>
    rw [callContext, getNetworkSettings, requireOut, hrequire]
    cases hasOut <;> rfl
  | setHeaderMode h mode =>
    rw [callContext, setHeaderMode, hrequire]
    rfl
  | setMonitoringTimer h timer =>
    rw [callContext, setMonitoringTimer, hrequire]
    rfl
  | setRequest h command device address count =>
    rw [callContext, setRequest, hrequire]
    rfl
  | setWriteValue h index value =>
    rw [callContext, setWriteValue, hrequire]
    rfl
  | buildRequest h out size actual =>
    rcases out with _ | out
    · rfl
    rcases actual with _ | actual
    · rfl
    · simp only [callContext, buildRequest, hrequire]
      rfl
  | feedResponseBytes h data size =>
    simp only [callContext, feedResponseBytes, hrequire]
    rfl
  | parseResponse h =>
    rw [callContext, parseResponse, hrequire]
    rfl
  | getResponseCode h =>
    rw [callContext, getResponseCode, isAcquired, hfree]
    rfl
  | getResponseCount h =>
    rw [callContext, getResponseCount, isAcquired, hfree]
    rfl
  | getResponseValue h index hasOut =>
    cases hasOut with
    | false =>
      rw [callContext, requireOut, hrequire]
      rfl
    | true =>
      rw [callContext, getResponseValue, hrequire]
      rfl
  | getLastSerial h =>
    rw [callContext, getLastSerial, isAcquired, hfree]
    rfl

/-- **A call on a free handle** is refused and changes nothing. -/
theorem step_free {call : Call} (hfree : call.OnFree pool) :
    step cfg pool call = some (call.refusal, pool) := by
  obtain ⟨h, ctx, ht, hctx, huse⟩ := hfree
  unfold step onContext
  simp only [ht, hctx, Option.bind_eq_bind, Option.bind_some, callContext_free ht huse]
  obtain ⟨hlt, rfl⟩ := List.getElem?_eq_some_iff.mp hctx
  rw [List.set_getElem_self]

/-- **What an event does**: it is one of a legal call, or it is refused. -/
theorem AnyEvent.cases (hnext : AnyEvent cfg pool e pool') :
    NextEvent cfg pool e pool' ∨
      e.call.OnFree pool ∧ e.reply = e.call.refusal ∧ pool' = pool := by
  obtain ⟨hlegal | hfree, hstep⟩ := hnext
  · exact Or.inl ⟨hlegal, hstep⟩
  · rw [step_free hfree, Option.some.injEq, Prod.mk.injEq] at hstep
    exact Or.inr ⟨hfree, hstep.1.symm, hstep.2.symm⟩

theorem AnyEvent.poolInv (hpool : PoolInv cfg pool) (hnext : AnyEvent cfg pool e pool') :
    PoolInv cfg pool' := by
  rcases hnext.cases with hnext | ⟨_, _, rfl⟩
  · exact step_inv hpool hnext.next
  · exact hpool

theorem onFree_of_inUseAt {call : Call} {h : Nat} (hpool : PoolInv cfg pool)
    (ht : call.target = some h) (hlt : h < cfg.FX5_CONTEXT_POOL_SIZE)
    (hfree : pool.inUseAt h = false) : call.OnFree pool := by
  have hslot : h < pool.length := hpool.length ▸ hlt
  refine ⟨h, pool[h], ht, List.getElem?_eq_getElem hslot, ?_⟩
  rw [Pool.inUseAt, List.getElem?_eq_getElem hslot] at hfree
  exact hfree

/-- A history goes on with a refused call. -/
theorem History.refused {es : List Event} {call : Call} (hhistory : History cfg pool es pool')
    (hfree : call.OnFree pool') : History cfg pool (es ++ [⟨call, call.refusal⟩]) pool' :=
  Runs.Run.append hhistory (.cons ⟨Or.inr hfree, step_free hfree⟩ (.nil _))

theorem Trace.history {es : List Event} (htrace : Trace cfg pool es pool') :
    History cfg pool es pool' := by
  induction htrace with
  | nil _ => exact .nil _
  | cons hnext _ ih => exact .cons ⟨Or.inl hnext.1, hnext.2⟩ ih

/-! ## One context of a history -/

/-- One call on an acquired context, with its reply. -/
def ContextNext (cfg : Config) (ctx : Context) (e : Event) (ctx' : Context) : Prop :=
  ctx.inUse = true ∧ ctx.Inv cfg ∧ e.call.MemoryOk ∧ (∃ h, e.call.target = some h) ∧
    callContext cfg e.call ctx = some (e.reply, ctx')

/-- Calls on one context, one after the other. -/
abbrev ContextTrace (cfg : Config) : Context → List Event → Context → Prop :=
  Runs.Run (ContextNext cfg)

theorem ContextNext.effect {ctx ctx' : Context} (h : ContextNext cfg ctx e ctx') :
    CallEffect cfg ctx e.call e.reply ctx' := by
  obtain ⟨huse, hinv, hmem, ⟨handle, ht⟩, hcall⟩ := h
  exact callContext_effect hinv huse hmem hcall ht

/-- A context that is not released stays in use and well formed. -/
theorem ContextTrace.inUse {ctx ctx' : Context} {es : List Event}
    (htrace : ContextTrace cfg ctx es ctx') (hinv : ctx.Inv cfg) (huse : ctx.inUse = true)
    (hkeep : ∀ e ∈ es, ∀ h, e.call ≠ .release h) : ctx'.Inv cfg ∧ ctx'.inUse = true := by
  induction htrace with
  | nil _ => exact ⟨hinv, huse⟩
  | @cons ctx ctx₁ _ e es hnext _ ih =>
    have huse₁ : ctx₁.inUse = true := by
      rcases hnext.effect.inUse hinv huse with huse₁ | ⟨h, hrelease⟩
      · exact huse₁
      · exact absurd hrelease (hkeep e (List.mem_cons_self ..) h)
    have hinv₁ := (hnext.effect.inv hinv huse).2 huse₁
    exact ih hinv₁ huse₁ fun e he => hkeep e (List.mem_cons_of_mem _ he)

theorem eventsOn_cons_eq {h : Nat} (he : e.call.target = some h) (es : List Event) :
    eventsOn h (e :: es) = e :: eventsOn h es := by
  simp [eventsOn, he]

theorem eventsOn_cons_ne {h : Nat} (he : e.call.target ≠ some h) (es : List Event) :
    eventsOn h (e :: es) = eventsOn h es := by
  simp [eventsOn, he]

theorem eventsOn_calls (h : Nat) (es : List Event) :
    (eventsOn h es).map Event.call = (es.map Event.call).filter fun call => call.target = some h := by
  rw [eventsOn, List.filter_map]
  rfl

/-- **Projection.**  Unless its handle is handed out again, a context changes in a history only
by the calls on its handle. -/
theorem Trace.on_handle {es : List Event} (htrace : Trace cfg pool es pool')
    (hpool : PoolInv cfg pool) {h : Nat} {ctx : Context} (hctx : pool[h]? = some ctx)
    (hkeep : ∀ e ∈ es, ¬ e.Acquires h) :
    ∃ ctx', pool'[h]? = some ctx' ∧ ContextTrace cfg ctx (eventsOn h es) ctx' := by
  induction htrace generalizing ctx with
  | nil _ => exact ⟨ctx, hctx, .nil _⟩
  | @cons pool pool₁ _ e es hnext _ ih =>
    have hkeep' : ∀ e ∈ es, ¬ e.Acquires h := fun e he => hkeep e (List.mem_cons_of_mem _ he)
    have hpool₁ : PoolInv cfg pool₁ := step_inv hpool hnext.next
    rcases hnext.cases hpool with
      ⟨handle, ctx₀, ctx₁, ht, hctx₀, huse, hinv, hmem, hcall, rfl⟩ | ⟨ht, rfl, _⟩ |
      ⟨k, ctx₀, ht, _, _, hk, rfl⟩
    · by_cases hh : handle = h
      · subst hh
        rw [hctx] at hctx₀
        cases hctx₀
        have hlt := (List.getElem?_eq_some_iff.mp hctx).1
        obtain ⟨ctx', hctx', hrest⟩ := ih hpool₁ (List.getElem?_set_self hlt) hkeep'
        refine ⟨ctx', hctx', ?_⟩
        rw [eventsOn_cons_eq ht]
        exact .cons ⟨huse, hinv, hmem, ⟨_, ht⟩, hcall⟩ hrest
      · obtain ⟨ctx', hctx', hrest⟩ := ih hpool₁ (by rw [List.getElem?_set_ne hh, hctx]) hkeep'
        refine ⟨ctx', hctx', ?_⟩
        rw [eventsOn_cons_ne (by simp [ht, hh])]
        exact hrest
    · obtain ⟨ctx', hctx', hrest⟩ := ih hpool₁ hctx hkeep'
      refine ⟨ctx', hctx', ?_⟩
      rw [eventsOn_cons_ne (by simp [ht])]
      exact hrest
    · have hh : k ≠ h := by
        intro hkh
        exact hkeep e (List.mem_cons_self ..) (hkh ▸ hk)
      obtain ⟨ctx', hctx', hrest⟩ := ih hpool₁ (by rw [List.getElem?_set_ne hh, hctx]) hkeep'
      refine ⟨ctx', hctx', ?_⟩
      rw [eventsOn_cons_ne (by simp [ht])]
      exact hrest

/-- A handle that is in use stays so unless it is released, and is not handed out. -/
theorem NextEvent.keeps (hpool : PoolInv cfg pool) (hnext : NextEvent cfg pool e pool') {h : Nat}
    {ctx : Context} (hctx : pool[h]? = some ctx) (huse : ctx.inUse = true)
    (hkeep : e.call ≠ .release h) :
    (∃ ctx', pool'[h]? = some ctx' ∧ ctx'.inUse = true) ∧ ¬ e.Acquires h := by
  rcases hnext.cases hpool with
    ⟨handle, ctx₀, ctx₁, ht, hctx₀, huse₀, hinv, hmem, hcall, rfl⟩ | ⟨_, rfl, hreply⟩ |
    ⟨k, ctx₀, _, hctx₀, hfree, hk, rfl⟩
  · have heffect := callContext_effect hinv huse₀ hmem hcall ht
    refine ⟨?_, callContext_reply ht hcall⟩
    by_cases hh : handle = h
    · subst hh
      have hlt := (List.getElem?_eq_some_iff.mp hctx).1
      refine ⟨ctx₁, List.getElem?_set_self hlt, ?_⟩
      rcases heffect.inUse hinv huse₀ with huse₁ | ⟨h', hrelease⟩
      · exact huse₁
      · rw [hrelease] at ht
        cases ht
        exact absurd hrelease hkeep
    · exact ⟨ctx, by rw [List.getElem?_set_ne hh, hctx], huse⟩
  · refine ⟨⟨ctx, hctx, huse⟩, ?_⟩
    rw [Event.Acquires, hreply]
    intro h
    cases h
  · have hh : k ≠ h := by
      intro hkh
      subst hkh
      rw [hctx] at hctx₀
      cases hctx₀
      rw [huse] at hfree
      cases hfree
    refine ⟨⟨ctx, by rw [List.getElem?_set_ne hh, hctx], huse⟩, ?_⟩
    rw [Event.Acquires] at hk ⊢
    rw [hk]
    intro h
    cases h
    exact hh rfl

/-- A handle that is not released is not handed out again. -/
theorem Trace.not_acquires {es : List Event} (htrace : Trace cfg pool es pool')
    (hpool : PoolInv cfg pool) {h : Nat} {ctx : Context} (hctx : pool[h]? = some ctx)
    (huse : ctx.inUse = true) (hkeep : ∀ e ∈ es, e.call ≠ .release h) :
    ∀ e ∈ es, ¬ e.Acquires h := by
  induction htrace generalizing ctx with
  | nil _ => exact fun e he => absurd he List.not_mem_nil
  | @cons pool pool₁ _ e es hnext _ ih =>
    obtain ⟨hfirst, hkeep'⟩ := List.forall_mem_cons.mp hkeep
    obtain ⟨⟨ctx₁, hctx₁, huse₁⟩, hnot⟩ := hnext.keeps hpool hctx huse hfirst
    exact List.forall_mem_cons.mpr ⟨hnot, ih (step_inv hpool hnext.next) hctx₁ huse₁ hkeep'⟩

/-- **Without the refused calls** a history is one of legal calls, in which nothing is missing of the
calls on a handle that is held all the time. -/
theorem History.trace {es : List Event} (hhistory : History cfg pool es pool')
    (hpool : PoolInv cfg pool) {h : Nat} {ctx : Context} (hctx : pool[h]? = some ctx)
    (huse : ctx.inUse = true) (hkeep : ∀ e ∈ es, e.call ≠ .release h) :
    ∃ legal, Trace cfg pool legal pool' ∧ legal.Sublist es ∧ eventsOn h legal = eventsOn h es := by
  induction hhistory generalizing ctx with
  | nil _ => exact ⟨[], .nil _, .slnil, rfl⟩
  | @cons pool pool₁ _ e es hnext _ ih =>
    obtain ⟨hfirst, hkeep'⟩ := List.forall_mem_cons.mp hkeep
    rcases hnext.cases with hnext | ⟨⟨free, ctx₀, ht, hctx₀, hfree⟩, _, rfl⟩
    · obtain ⟨⟨ctx₁, hctx₁, huse₁⟩, _⟩ := hnext.keeps hpool hctx huse hfirst
      obtain ⟨legal, htrace, hsub, hsame⟩ := ih (step_inv hpool hnext.next) hctx₁ huse₁ hkeep'
      refine ⟨e :: legal, .cons hnext htrace, hsub.cons_cons e, ?_⟩
      rw [eventsOn, eventsOn, List.filter_cons, List.filter_cons]
      rw [eventsOn, eventsOn] at hsame
      rw [hsame]
    · obtain ⟨legal, htrace, hsub, hsame⟩ := ih hpool hctx huse hkeep'
      have hother : e.call.target ≠ some h := by
        rintro hth
        rw [ht] at hth
        cases hth
        rw [hctx] at hctx₀
        cases hctx₀
        rw [huse] at hfree
        cases hfree
      exact ⟨legal, htrace, hsub.cons e, by rw [hsame, eventsOn_cons_ne hother]⟩

end History

/-! ## Fresh contexts -/

/-- The states right after an acquisition returned handle `h`, or right after a reset on it. -/
inductive Fresh (cfg : Config) : Pool → Nat → Prop where
  | acquired {pool pool' : Pool} {h : Nat} : Reachable cfg pool →
      acquire cfg pool = some (.ok, some h, pool') → Fresh cfg pool' h
  | cleared {pool pool' : Pool} {h : Nat} : Reachable cfg pool → (Call.reset h).Legal pool →
      step cfg pool (.reset h) = some (.done .ok, pool') → Fresh cfg pool' h

/-- A fresh context is what the reset makes of a slot with arrays of the declared sizes. -/
theorem Fresh.context {cfg : Config} {pool : Pool} {h : Nat} (hfresh : Fresh cfg pool h) :
    PoolInv cfg pool ∧ ∃ ctx₀ : Context, ctx₀.Sized cfg ∧
      pool[h]? = some (ctx₀.acquired cfg) := by
  cases hfresh with
  | @acquired pool _ _ hreach hacquire =>
    have hpool := reachable_poolInv hreach
    refine ⟨acquire_inv hpool hacquire, ?_⟩
    rcases acquire_cases hacquire with ⟨hstatus, _⟩ | ⟨k, ctx₀, hctx₀, _, _, hk, rfl⟩
    · cases hstatus
    · cases hk
      have hlt := (List.getElem?_eq_some_iff.mp hctx₀).1
      exact ⟨ctx₀, hpool.sized ctx₀ (List.mem_of_getElem? hctx₀), List.getElem?_set_self hlt⟩
  | @cleared pool _ _ hreach hlegal hstep =>
    have hpool := reachable_poolInv hreach
    obtain ⟨ctx₀, hctx₀, huse, hinv⟩ := hlegal.context hpool rfl
    refine ⟨step_inv hpool ⟨hlegal, _, hstep⟩, ctx₀, hinv.sized, ?_⟩
    have hlt := (List.getElem?_eq_some_iff.mp hctx₀).1
    unfold step onContext at hstep
    simp only [Call.target, hctx₀, Option.bind_eq_bind, Option.bind_some, callContext, reset,
      requireAcquired_ok huse, Option.some.injEq, Prod.mk.injEq, true_and] at hstep
    rw [← hstep, List.getElem?_set_self hlt, contextResetInternal_acquired huse]

/-- A fresh context is in use and well formed, with an empty buffer and no request. -/
theorem Context.Sized.acquired {cfg : Config} {ctx₀ : Context} (h : ctx₀.Sized cfg) :
    (ctx₀.acquired cfg).Inv cfg ∧ (ctx₀.acquired cfg).inUse = true ∧
      (ctx₀.acquired cfg).rxCbuffer.contents = [] := by
  have hinv := contextResetInternal_inv h
  exact ⟨{ hinv with }, rfl, contextResetInternal_contents h⟩

/-! ## Running a history -/

/-- A run of legal calls is a history of these calls. -/
theorem trace_of_runCalls {cfg : Config} {calls : List Call} {pool pool' : Pool}
    (h : runCalls cfg pool calls = some pool') :
    ∃ es, Trace cfg pool es pool' ∧ es.map Event.call = calls := by
  induction calls generalizing pool with
  | nil =>
    cases h
    exact ⟨[], .nil _, rfl⟩
  | cons call calls ih =>
    unfold runCalls at h
    split at h
    · rename_i hlegal
      obtain ⟨⟨reply, pool₁⟩, hstep, hrest⟩ := Option.bind_eq_some_iff.mp h
      obtain ⟨es, htrace, hcalls⟩ := ih hrest
      exact ⟨⟨call, reply⟩ :: es, .cons ⟨hlegal, hstep⟩ htrace, by rw [List.map_cons, hcalls]⟩
    · cases h

/-- The context in slot 0 after a list of calls from program start, with the history of these
calls. -/
theorem trace_contextAfter {cfg : Config} {calls : List Call}
    (h : (contextAfter cfg calls).inUse = true) :
    ∃ es pool, Trace cfg (Pool.zero cfg) es pool ∧ es.map Event.call = calls ∧
      pool[0]? = some (contextAfter cfg calls) := by
  cases hrun : runCalls cfg (Pool.zero cfg) calls with
  | none =>
    rw [contextAfter, hrun] at h
    cases h
  | some pool =>
    obtain ⟨es, htrace, hcalls⟩ := trace_of_runCalls hrun
    refine ⟨es, pool, htrace, hcalls, ?_⟩
    cases hslot : pool[0]? with
    | none =>
      rw [contextAfter, hrun, Option.bind_some, hslot] at h
      cases h
    | some ctx =>
      rw [contextAfter, hrun, Option.bind_some, hslot, Option.getD_some]

/-- The pool right after the first acquisition. -/
def Pool.first (cfg : Config) : Pool :=
  (Pool.zero cfg).set 0 ((Context.zero cfg).acquired cfg)

theorem fresh_first {cfg : Config}
    (h : acquire cfg (Pool.zero cfg) = some (.ok, some 0, Pool.first cfg)) :
    Fresh cfg (Pool.first cfg) 0 := .acquired (.start rfl) h

end Fx5
