import Fx5Slmp.ApiSpecs
import Fx5Slmp.Lib.Runs

/-!
# The context pool and runs of the public API

`s_context_pool` with `fx5_acquire` and `fx5_release`, and the public API as one transition
system: a state is the pool, a step is one call on a handle that was acquired and not yet
released, with any arguments.

* `CallEffect` — what a call on a context can do, `callContext_outcome` — every call is defined
  and has one of these effects;
* `PoolInv` — the arrays of every slot have their declared sizes, and every slot in use
  satisfies `Context.Inv`;
* `step_inv` — every call keeps it, `step_defined` — no call accesses memory it must not;
* `acquired_inv` — so every context that is in use in a reachable pool satisfies its
  invariant.
-/

set_option autoImplicit false

namespace Fx5

/-- `s_context_pool`; a handle is an index into it. -/
abbrev Pool := List Context

/-- The pool as static storage holds it at program start. -/
def Pool.zero (cfg : Config) : Pool := List.replicate cfg.FX5_CONTEXT_POOL_SIZE (Context.zero cfg)

/-- The loop of `fx5_acquire` from index `k` on: the first slot not in use, or the inner `none`
if there is none.  The loop index is a `uint16_t`: in a pool of more than 65535 contexts that
are all in use it wraps to 0, and the call never returns. -/
def acquireLoop (cfg : Config) (pool : Pool) (k : Nat) : Option (Option Nat) :=
  if k < cfg.FX5_CONTEXT_POOL_SIZE then do
    let context ← pool[k]?
    if !context.inUse then some (some k)
    else if _h : k + 1 < 65536 then acquireLoop cfg pool (k + 1)
    else none
  else some none
termination_by 65536 - k

/-- `fx5_acquire` with a non-NULL `out_ctx`: status, handle and pool. -/
def acquire (cfg : Config) (pool : Pool) : Option (Status × Option Nat × Pool) := do
  match ← acquireLoop cfg pool 0 with
  | some k => do
    let context ← pool[k]?
    some (.ok, some k, pool.set k { contextResetInternal cfg context with inUse := true })
  | none => some (.errNoContext, none, pool)

/-- `fx5_release` on the context a handle points to. -/
def release (cfg : Config) (context : Context) : Context :=
  if !context.inUse then context else { contextResetInternal cfg context with inUse := false }

/-! ## Calls -/

/-- A call of the public API.  `none` arguments stand for NULL pointers; `hasOut` says whether
the output pointer of a getter is given. -/
inductive Call where
  | acquire
  | release (handle : Nat)
  | reset (handle : Nat)
  | setNetworkSettings (handle : Nat) (settings : Option NetworkSettings)
  | getNetworkSettings (handle : Nat) (hasOut : Bool)
  | setHeaderMode (handle : Nat) (mode : HeaderType)
  | setMonitoringTimer (handle : Nat) (timer : Word)
  | setRequest (handle : Nat) (command : Command) (device : Device) (address : BitVec 32)
      (count : Word)
  | setWriteValue (handle : Nat) (index value : Word)
  | buildRequest (handle : Nat) (outBuf : Option (List Byte)) (outBufSize : Word)
      (actualSize : Option Nat)
  | feedResponseBytes (handle : Nat) (data : Option (List Byte)) (size : Word)
  | parseResponse (handle : Nat)
  | getResponseCode (handle : Nat)
  | getResponseCount (handle : Nat)
  | getResponseValue (handle : Nat) (index : Word) (hasOut : Bool)
  | getLastSerial (handle : Nat)

/-- What a call returns to the caller. -/
inductive Reply where
  | done (status : Status)
  | handle (status : Status) (handle : Option Nat)
  | settings (status : Status) (settings : Option NetworkSettings)
  | built (status : Status) (outBuf : Option (List Byte)) (actualSize : Option Nat)
  | value (status : Status) (value : Option Word)
  | number (n : Nat)
  | released

/-- The status a reply carries; the calls without one cannot fail. -/
def Reply.status : Reply → Status
  | .done status | .handle status _ | .settings status _ | .built status _ _ | .value status _ =>
    status
  | .number _ | .released => .ok

/-- A call on the context at a handle. -/
def onContext (pool : Pool) (handle : Nat) (f : Context → Option (Reply × Context)) :
    Option (Reply × Pool) := do
  let context ← pool[handle]?
  let (reply, context) ← f context
  some (reply, pool.set handle context)

/-- The effect of a call on the context at its handle; `fx5_acquire` has none. -/
def callContext (cfg : Config) : Call → Context → Option (Reply × Context)
  | .acquire, ctx => some (.handle .ok none, ctx)
  | .release _, ctx => some (.released, release cfg ctx)
  | .reset _, ctx => some (.done (reset cfg ctx).1, (reset cfg ctx).2)
  | .setNetworkSettings _ settings, ctx =>
    some (.done (setNetworkSettings ctx settings).1, (setNetworkSettings ctx settings).2)
  | .getNetworkSettings _ hasOut, ctx =>
    if hasOut then some (.settings (getNetworkSettings ctx).1 (getNetworkSettings ctx).2, ctx)
    else some (.settings (requireOut ctx) none, ctx)
  | .setHeaderMode _ mode, ctx => some (.done (setHeaderMode ctx mode).1, (setHeaderMode ctx mode).2)
  | .setMonitoringTimer _ timer, ctx =>
    some (.done (setMonitoringTimer ctx timer).1, (setMonitoringTimer ctx timer).2)
  | .setRequest _ command device address count, ctx => do
    let (status, ctx) ← setRequest cfg ctx command device address count
    some (.done status, ctx)
  | .setWriteValue _ index value, ctx => do
    let (status, ctx) ← setWriteValue cfg ctx index value
    some (.done status, ctx)
  | .buildRequest _ outBuf outBufSize actualSize, ctx =>
    match outBuf, actualSize with
    | some out, some size => do
      let r ← buildRequest cfg ctx out outBufSize size
      some (.built r.status (some r.outBuf) (some r.actualSize), r.context)
    | _, _ => some (.built .errNull outBuf actualSize, ctx)
  | .feedResponseBytes _ data size, ctx => do
    let (status, ctx) ← feedResponseBytes cfg ctx data size
    some (.done status, ctx)
  | .parseResponse _, ctx => do
    let (status, ctx) ← parseResponse cfg ctx
    some (.done status, ctx)
  | .getResponseCode _, ctx => some (.number (getResponseCode ctx), ctx)
  | .getResponseCount _, ctx => some (.number (getResponseCount ctx), ctx)
  | .getResponseValue _ index hasOut, ctx =>
    if hasOut then do
      let (status, value) ← getResponseValue cfg ctx index
      some (.value status value, ctx)
    else some (.value (requireOut ctx) none, ctx)
  | .getLastSerial _, ctx => some (.number (getLastSerial ctx), ctx)

/-- The handle of a call. -/
def Call.target : Call → Option Nat
  | .acquire => none
  | .release h | .reset h | .setNetworkSettings h _ | .getNetworkSettings h _ | .setHeaderMode h _
  | .setMonitoringTimer h _ | .setRequest h _ _ _ _ | .setWriteValue h _ _
  | .buildRequest h _ _ _ | .feedResponseBytes h _ _ | .parseResponse h | .getResponseCode h
  | .getResponseCount h | .getResponseValue h _ _ | .getLastSerial h => some h

/-- One call of the public API. -/
def step (cfg : Config) (pool : Pool) (call : Call) : Option (Reply × Pool) :=
  match call.target with
  | none => do
    let (status, handle, pool) ← acquire cfg pool
    some (.handle status handle, pool)
  | some handle => onContext pool handle (callContext cfg call)

/-- The memory a call promises: `data` and `out_buf` are as long as their size arguments say. -/
def Call.MemoryOk : Call → Prop
  | .buildRequest _ (some outBuf) outBufSize _ => outBufSize.toNat ≤ outBuf.length
  | .feedResponseBytes _ (some data) size => size.toNat ≤ data.length
  | _ => True

/-- A call on a handle obtained from `fx5_acquire` and not yet released. -/
def Call.Legal (pool : Pool) (call : Call) : Prop :=
  call.MemoryOk ∧ ∀ h, call.target = some h → ∃ ctx, pool[h]? = some ctx ∧ ctx.inUse = true

/-- One legal call that returns. -/
def Next (cfg : Config) (pool : Pool) (call : Call) (pool' : Pool) : Prop :=
  call.Legal pool ∧ ∃ reply, step cfg pool call = some (reply, pool')

/-- The pools of finite runs from program start. -/
abbrev Reachable (cfg : Config) : Pool → Prop := Runs.Reachable (· = Pool.zero cfg) (Next cfg)

/-- A context that is in use in a reachable pool. -/
def Acquired (cfg : Config) (ctx : Context) : Prop :=
  ∃ pool, Reachable cfg pool ∧ ctx ∈ pool ∧ ctx.inUse = true

/-! ## What a call on a context can do -/

/-- The calls that change a context and can fail. -/
def Call.isMutator : Call → Bool
  | .setRequest .. | .setWriteValue .. | .setNetworkSettings .. | .setHeaderMode ..
  | .feedResponseBytes .. | .buildRequest .. => true
  | _ => false

/-- The calls that only read the context. -/
def Call.isGetter : Call → Bool
  | .getNetworkSettings .. | .getResponseCode .. | .getResponseCount .. | .getResponseValue ..
  | .getLastSerial .. => true
  | _ => false

/-- The calls that only write the network settings. -/
def Call.isSetting : Call → Bool
  | .setNetworkSettings .. | .setHeaderMode .. | .setMonitoringTimer .. => true
  | _ => false

/-- The effect of a call on an acquired context, with the reply that goes with it. -/
inductive CallEffect (cfg : Config) (ctx : Context) : Call → Reply → Context → Prop where
  | read {call : Call} {reply : Reply} : call.isGetter = true → CallEffect cfg ctx call reply ctx
  | refused {call : Call} {reply : Reply} :
      call.isMutator = true → reply.status ≠ .ok → CallEffect cfg ctx call reply ctx
  | released (h : Nat) :
      CallEffect cfg ctx (.release h) .released { contextResetInternal cfg ctx with inUse := false }
  | cleared (h : Nat) : CallEffect cfg ctx (.reset h) (.done .ok) (contextResetInternal cfg ctx)
  | configured {call : Call} {settings : NetworkSettings} :
      call.isSetting = true → HeaderAccepted settings.headerType →
      CallEffect cfg ctx call (.done .ok) { ctx with networkSettings := settings }
  | requested (h : Nat) {command : Command} {device : Device} {address : BitVec 32}
      {count : Word} : RequestAccepted cfg command device address count →
      CallEffect cfg ctx (.setRequest h command device address count) (.done .ok)
        (ctx.withRequest cfg command device address count)
  | written (h : Nat) {index value : Word} : index.toNat < ctx.count →
      CallEffect cfg ctx (.setWriteValue h index value) (.done .ok)
        { ctx with values := writtenValues ctx index.toNat value }
  | sent (h : Nat) {out : List Byte} {size : Word} {actual : Nat} : ctx.Valid cfg →
      (requestBytes ctx).length ≤ size.toNat → size.toNat ≤ out.length →
      CallEffect cfg ctx (.buildRequest h (some out) size (some actual))
        (.built .ok (some (requestBytes ctx ++ out.drop (requestBytes ctx).length))
          (some (requestBytes ctx).length)) ctx.sent
  | fed (h : Nat) {data : List Byte} {size : Word} : size.toNat ≤ data.length →
      ctx.rxCbuffer.contents.length + size.toNat ≤ FX5_IOBUF_SIZE cfg →
      CallEffect cfg ctx (.feedResponseBytes h (some data) size) (.done .ok)
        (ctx.received (data.take size.toNat))
  | parsed (h : Nat) {status : Status} {ctx' : Context} :
      parseResponse cfg ctx = some (status, ctx') →
      CallEffect cfg ctx (.parseResponse h) (.done status) ctx'

section Effect

variable {cfg : Config} {ctx ctx' : Context}

/-- The input of a feed that may be read holds the announced bytes. -/
theorem feed_length_le {h : Nat} {data : Option (List Byte)} {size : Word}
    (hmem : (Call.feedResponseBytes h data size).MemoryOk) :
    ∀ d, data = some d → size.toNat ≤ d.length := by
  rintro d rfl
  exact hmem

/-- The effect of the calls that return a status and a context. -/
theorem callEffect_of_result {call : Call} {result : Option (Status × Context)} {status : Status}
    (hcall : callContext cfg call ctx = result.bind fun r => some (Reply.done r.1, r.2))
    (hres : result = some (status, ctx')) (heffect : CallEffect cfg ctx call (.done status) ctx') :
    ∃ reply ctx', callContext cfg call ctx = some (reply, ctx') ∧
      CallEffect cfg ctx call reply ctx' :=
  ⟨.done status, ctx', by rw [hcall, hres, Option.bind_some], heffect⟩

/-- **Every call on a context in use is defined and has one of these effects.** -/
theorem callContext_outcome (hinv : ctx.Inv cfg) (huse : ctx.inUse = true) {call : Call}
    (hmem : call.MemoryOk) {h : Nat} (ht : call.target = some h) :
    ∃ reply ctx', callContext cfg call ctx = some (reply, ctx') ∧
      CallEffect cfg ctx call reply ctx' := by
  cases call with
  | acquire => cases ht
  | release h =>
    refine ⟨_, _, rfl, ?_⟩
    rw [release, huse]
    exact .released h
  | reset h =>
    refine ⟨_, _, rfl, ?_⟩
    rw [reset, requireAcquired_ok huse]
    exact .cleared h
  | setNetworkSettings h settings =>
    refine ⟨_, _, rfl, ?_⟩
    rcases setNetworkSettings_cases huse settings with ⟨status, hne, hres⟩ | ⟨s, _, hs, hres⟩
    · rw [hres]
      exact .refused rfl hne
    · rw [hres]
      exact .configured rfl hs
  | getNetworkSettings h hasOut =>
    cases hasOut with
    | true => exact ⟨_, _, rfl, .read rfl⟩
    | false => exact ⟨_, _, rfl, .read rfl⟩
  | setHeaderMode h mode =>
    refine ⟨_, _, rfl, ?_⟩
    rcases setHeaderMode_cases huse mode with ⟨status, hne, hres⟩ | ⟨hmode, hres⟩
    · rw [hres]
      exact .refused rfl hne
    · rw [hres]
      exact .configured rfl hmode
  | setMonitoringTimer h timer =>
    refine ⟨_, _, rfl, ?_⟩
    rw [setMonitoringTimer, requireAcquired_ok huse]
    exact .configured rfl hinv.header
  | setRequest h command device address count =>
    rcases setRequest_cases hinv.values huse command device address count with
      ⟨status, hne, _, hres⟩ | ⟨hacc, hres⟩
    · exact callEffect_of_result rfl hres (.refused rfl hne)
    · exact callEffect_of_result rfl hres (.requested h hacc)
  | setWriteValue h index value =>
    rcases setWriteValue_cases hinv huse index value with ⟨status, hne, _, hres⟩ | ⟨hlt, hres⟩
    · exact callEffect_of_result rfl hres (.refused rfl hne)
    · exact callEffect_of_result rfl hres (.written h hlt)
  | buildRequest h outBuf outBufSize actualSize =>
    cases outBuf with
    | none => exact ⟨_, _, rfl, .refused rfl (by intro h; cases h)⟩
    | some out =>
      cases actualSize with
      | none => exact ⟨_, _, rfl, .refused rfl (by intro h; cases h)⟩
      | some size =>
        have hcall : ∀ {r : BuildResult}, buildRequest cfg ctx out outBufSize size = some r →
            callContext cfg (.buildRequest h (some out) outBufSize (some size)) ctx =
              some (.built r.status (some r.outBuf) (some r.actualSize), r.context) := by
          intro r hres
          rw [callContext, hres]
          rfl
        rcases buildRequest_cases hinv huse hmem size with
          ⟨hbad, hres⟩ | ⟨_, _, hres⟩ | ⟨hvalid, hroom, hres⟩
        · exact ⟨_, _, hcall hres, .refused rfl hbad⟩
        · exact ⟨_, _, hcall hres, .refused rfl (by intro h; cases h)⟩
        · exact ⟨_, _, hcall hres, .sent h hvalid hroom hmem⟩
  | feedResponseBytes h data size =>
    have hdata := feed_length_le hmem
    rcases feedResponseBytes_cases hinv huse hdata with ⟨status, hne, _, hres⟩ | ⟨d, hd, hroom, hres⟩
    · exact callEffect_of_result rfl hres (.refused rfl hne)
    · subst hd
      exact callEffect_of_result rfl hres (.fed h (hdata d rfl) hroom)
  | parseResponse h =>
    obtain ⟨status, ctx₁, hres, _⟩ := parseResponse_inv hinv huse
    exact callEffect_of_result rfl hres (.parsed h hres)
  | getResponseCode h => exact ⟨_, _, rfl, .read rfl⟩
  | getResponseCount h => exact ⟨_, _, rfl, .read rfl⟩
  | getResponseValue h index hasOut =>
    cases hasOut with
    | false => exact ⟨_, _, rfl, .read rfl⟩
    | true =>
      obtain ⟨status, value, hres⟩ :
          ∃ status value, getResponseValue cfg ctx index = some (status, value) := by
        rw [getResponseValue_spec hinv huse]
        split
        · exact ⟨_, _, rfl⟩
        · exact ⟨_, _, rfl⟩
      refine ⟨.value status value, ctx, ?_, .read rfl⟩
      simp only [callContext, if_true, hres]
      rfl
  | getLastSerial h => exact ⟨_, _, rfl, .read rfl⟩

/-- The effect that goes with the reply of a call. -/
theorem callContext_effect (hinv : ctx.Inv cfg) (huse : ctx.inUse = true) {call : Call}
    (hmem : call.MemoryOk) {reply : Reply} (hcall : callContext cfg call ctx = some (reply, ctx'))
    {h : Nat} (ht : call.target = some h) : CallEffect cfg ctx call reply ctx' := by
  obtain ⟨reply', ctx₁, hcall', heffect⟩ := callContext_outcome hinv huse hmem ht
  rw [hcall'] at hcall
  cases hcall
  exact heffect

/-- An effect keeps the sizes of the arrays, and the invariant unless the context is released. -/
theorem CallEffect.inv {call : Call} {reply : Reply} (h : CallEffect cfg ctx call reply ctx')
    (hinv : ctx.Inv cfg) (huse : ctx.inUse = true) :
    ctx'.Sized cfg ∧ (ctx'.inUse = true → ctx'.Inv cfg) := by
  have hkeeps : ∀ {next : Context}, next.Inv cfg →
      next.Sized cfg ∧ (next.inUse = true → next.Inv cfg) :=
    fun hnext => ⟨hnext.sized, fun _ => hnext⟩
  have hreset := contextResetInternal_inv hinv.sized
  cases h with
  | read _ => exact hkeeps hinv
  | refused _ _ => exact hkeeps hinv
  | released h =>
    refine ⟨⟨hreset.sized.values_length, hreset.sized.data_length⟩, fun huse' => ?_⟩
    cases huse'
  | cleared h => exact hkeeps hreset
  | configured _ hheader => exact hkeeps { hinv with header := hheader }
  | requested h hacc => exact hkeeps (hinv.withRequest hacc)
  | written h _ => exact hkeeps (Context.Inv.written hinv _ _)
  | sent h _ _ _ => exact hkeeps hinv.sent
  | fed h hdata hroom =>
    refine hkeeps (hinv.received ?_).1
    rw [List.length_take_of_le hdata]
    exact hroom
  | parsed h hparse =>
    obtain ⟨status, ctx₁, hres, hinv', _⟩ := parseResponse_inv hinv huse
    rw [hres] at hparse
    cases hparse
    exact hkeeps hinv'

end Effect

/-! ## The invariant -/

structure PoolInv (cfg : Config) (pool : Pool) : Prop where
  length : pool.length = cfg.FX5_CONTEXT_POOL_SIZE
  sized : ∀ ctx ∈ pool, ctx.Sized cfg
  inv : ∀ ctx ∈ pool, ctx.inUse = true → ctx.Inv cfg

theorem poolInv_zero (cfg : Config) : PoolInv cfg (Pool.zero cfg) where
  length := List.length_replicate
  sized := by
    intro ctx hctx
    rw [List.eq_of_mem_replicate hctx]
    exact Context.zero_sized cfg
  inv := by
    intro ctx hctx huse
    rw [List.eq_of_mem_replicate hctx] at huse
    cases huse

theorem PoolInv.set {cfg : Config} {pool : Pool} (h : PoolInv cfg pool) {k : Nat} {ctx : Context}
    (hsized : ctx.Sized cfg) (hinv : ctx.inUse = true → ctx.Inv cfg) :
    PoolInv cfg (pool.set k ctx) where
  length := by
    rw [List.length_set]
    exact h.length
  sized := by
    intro c hc
    rcases List.mem_or_eq_of_mem_set hc with hc | rfl
    · exact h.sized c hc
    · exact hsized
  inv := by
    intro c hc huse
    rcases List.mem_or_eq_of_mem_set hc with hc | rfl
    · exact h.inv c hc huse
    · exact hinv huse

/-! ## Acquiring -/

theorem acquireLoop_free {cfg : Config} {pool : Pool} {k j : Nat}
    (h : acquireLoop cfg pool k = some (some j)) :
    ∃ ctx, pool[j]? = some ctx ∧ ctx.inUse = false := by
  fun_induction acquireLoop cfg pool k with
  | case1 k hk ih =>
    simp only [Option.bind_eq_bind, Option.bind_eq_some_iff] at h
    obtain ⟨ctx, hctx, h⟩ := h
    split at h
    · rename_i hfree
      cases h
      exact ⟨ctx, hctx, by simpa using hfree⟩
    · split at h
      · rename_i hfit
        exact ih hfit h
      · cases h
  | case2 k hk => cases h

/-- A pool whose size fits the loop index is scanned to its end. -/
theorem acquireLoop_defined {cfg : Config} {pool : Pool}
    (hlen : pool.length = cfg.FX5_CONTEXT_POOL_SIZE) (hfit : cfg.FX5_CONTEXT_POOL_SIZE < 65536)
    (k : Nat) : ∃ result, acquireLoop cfg pool k = some result := by
  fun_induction acquireLoop cfg pool k with
  | case1 k hk ih =>
    have hslot : k < pool.length := by omega
    rw [List.getElem?_eq_getElem hslot]
    simp only [Option.bind_eq_bind, Option.bind_some]
    split
    · exact ⟨_, rfl⟩
    · rw [dif_pos (by omega)]
      exact ih (by omega)
  | case2 k hk => exact ⟨_, rfl⟩

/-- An acquisition resets one slot and marks it as used, or changes nothing. -/
theorem acquire_cases {cfg : Config} {pool pool' : Pool} {status : Status} {handle : Option Nat}
    (h : acquire cfg pool = some (status, handle, pool')) :
    (status = .errNoContext ∧ handle = none ∧ pool' = pool) ∨
    (∃ k ctx, pool[k]? = some ctx ∧ ctx.inUse = false ∧ status = .ok ∧ handle = some k ∧
      pool' = pool.set k { contextResetInternal cfg ctx with inUse := true }) := by
  unfold acquire at h
  simp only [Option.bind_eq_bind, Option.bind_eq_some_iff] at h
  obtain ⟨result, hloop, h⟩ := h
  cases result with
  | none =>
    cases h
    exact Or.inl ⟨rfl, rfl, rfl⟩
  | some k =>
    obtain ⟨ctx, hctx, hfree⟩ := acquireLoop_free hloop
    simp only [hctx, Option.bind_some] at h
    cases h
    exact Or.inr ⟨k, ctx, hctx, hfree, rfl, rfl, rfl⟩

theorem acquire_inv {cfg : Config} {pool pool' : Pool} {status : Status} {handle : Option Nat}
    (hinv : PoolInv cfg pool) (h : acquire cfg pool = some (status, handle, pool')) :
    PoolInv cfg pool' := by
  rcases acquire_cases h with ⟨_, _, rfl⟩ | ⟨k, ctx, hctx, _, _, _, rfl⟩
  · exact hinv
  · have hsized := hinv.sized ctx (List.mem_of_getElem? hctx)
    have hreset := contextResetInternal_inv hsized
    exact hinv.set ⟨hreset.sized.values_length, hreset.sized.data_length⟩
      fun _ => { hreset with }

/-! ## Steps and runs -/

section Step

variable {cfg : Config} {pool : Pool}

/-- A legal call on a handle runs on a context that satisfies its invariant. -/
theorem Call.Legal.context (hpool : PoolInv cfg pool) {call : Call} (hlegal : call.Legal pool)
    {h : Nat} (ht : call.target = some h) :
    ∃ ctx, pool[h]? = some ctx ∧ ctx.inUse = true ∧ ctx.Inv cfg := by
  obtain ⟨ctx, hctx, huse⟩ := hlegal.2 h ht
  exact ⟨ctx, hctx, huse, hpool.inv ctx (List.mem_of_getElem? hctx) huse⟩

/-- **Every legal call but `fx5_acquire` is defined**: it stays inside every array it reads or
writes. -/
theorem step_defined (hpool : PoolInv cfg pool) {call : Call} (hlegal : call.Legal pool)
    {h : Nat} (ht : call.target = some h) :
    ∃ reply ctx ctx', pool[h]? = some ctx ∧ callContext cfg call ctx = some (reply, ctx') ∧
      step cfg pool call = some (reply, pool.set h ctx') ∧ PoolInv cfg (pool.set h ctx') := by
  obtain ⟨ctx, hctx, huse, hinv⟩ := hlegal.context hpool ht
  obtain ⟨reply, ctx', hcall, heffect⟩ := callContext_outcome hinv huse hlegal.1 ht
  obtain ⟨hsized, hinv'⟩ := heffect.inv hinv huse
  refine ⟨reply, ctx, ctx', hctx, hcall, ?_, hpool.set hsized hinv'⟩
  unfold step onContext
  rw [ht]
  simp only [hctx, Option.bind_eq_bind, Option.bind_some, hcall]

/-- **Every call keeps the invariant of the pool.** -/
theorem step_inv {pool' : Pool} {call : Call} (hpool : PoolInv cfg pool)
    (hnext : Next cfg pool call pool') : PoolInv cfg pool' := by
  obtain ⟨hlegal, reply, hstep⟩ := hnext
  cases ht : call.target with
  | some h =>
    obtain ⟨reply', ctx, ctx', _, _, hstep', hinv'⟩ := step_defined hpool hlegal ht
    rw [hstep'] at hstep
    cases hstep
    exact hinv'
  | none =>
    unfold step at hstep
    rw [ht] at hstep
    simp only [Option.bind_eq_bind, Option.bind_eq_some_iff] at hstep
    obtain ⟨⟨status, handle, pool''⟩, hacquire, hstep⟩ := hstep
    cases hstep
    exact acquire_inv hpool hacquire

theorem reachable_poolInv (h : Reachable cfg pool) : PoolInv cfg pool := by
  refine h.invariant ?_ ?_
  · rintro _ rfl
    exact poolInv_zero cfg
  · intro _ _ _ hpool hnext
    exact step_inv hpool hnext

theorem acquired_inv {ctx : Context} (h : Acquired cfg ctx) : ctx.Inv cfg ∧ ctx.inUse = true := by
  obtain ⟨pool, hreach, hmem, huse⟩ := h
  exact ⟨(reachable_poolInv hreach).inv ctx hmem huse, huse⟩

instance (call : Call) : Decidable call.MemoryOk :=
  match call with
  | .buildRequest _ (some _) _ _ => inferInstanceAs (Decidable (_ ≤ _))
  | .feedResponseBytes _ (some _) _ => inferInstanceAs (Decidable (_ ≤ _))
  | .buildRequest _ none _ _ | .feedResponseBytes _ none _ | .acquire | .release _ | .reset _
  | .setNetworkSettings _ _ | .getNetworkSettings _ _ | .setHeaderMode _ _
  | .setMonitoringTimer _ _ | .setRequest _ _ _ _ _ | .setWriteValue _ _ _ | .parseResponse _
  | .getResponseCode _ | .getResponseCount _ | .getResponseValue _ _ _ | .getLastSerial _ =>
    .isTrue trivial

/-- The slot at a handle is in use. -/
def Pool.inUseAt (pool : Pool) (h : Nat) : Bool := (pool[h]?.map Context.inUse).getD false

theorem legal_iff (call : Call) (pool : Pool) :
    call.Legal pool ↔ call.MemoryOk ∧ (call.target.all pool.inUseAt) = true := by
  unfold Call.Legal Pool.inUseAt
  constructor
  · rintro ⟨hmem, hslot⟩
    refine ⟨hmem, ?_⟩
    cases ht : call.target with
    | none => rfl
    | some h =>
      obtain ⟨ctx, hctx, huse⟩ := hslot h ht
      simp [hctx, huse]
  · rintro ⟨hmem, hslot⟩
    refine ⟨hmem, ?_⟩
    intro h ht
    rw [ht] at hslot
    cases hctx : pool[h]? with
    | none => simp [hctx] at hslot
    | some ctx => exact ⟨ctx, rfl, by simpa [hctx] using hslot⟩

instance (call : Call) (pool : Pool) : Decidable (call.Legal pool) :=
  decidable_of_iff _ (legal_iff call pool).symm

/-- The calls of a list one after the other, each of them legal. -/
def runCalls (cfg : Config) : Pool → List Call → Option Pool
  | pool, [] => some pool
  | pool, call :: calls =>
    if call.Legal pool then (step cfg pool call).bind fun r => runCalls cfg r.2 calls else none

theorem runCalls_run {calls : List Call} {pool' : Pool}
    (h : runCalls cfg pool calls = some pool') : Runs.Run (Next cfg) pool calls pool' := by
  induction calls generalizing pool with
  | nil =>
    cases h
    exact .nil _
  | cons call calls ih =>
    unfold runCalls at h
    split at h
    · rename_i hlegal
      obtain ⟨⟨reply, pool₁⟩, hstep, hrest⟩ := Option.bind_eq_some_iff.mp h
      exact .cons ⟨hlegal, reply, hstep⟩ (ih hrest)
    · cases h

theorem reachable_of_runCalls {calls : List Call} {pool' : Pool} (hreach : Reachable cfg pool)
    (h : runCalls cfg pool calls = some pool') : Reachable cfg pool' :=
  (runCalls_run h).reachable hreach

/-- The context in slot 0 after a list of calls from program start. -/
def contextAfter (cfg : Config) (calls : List Call) : Context :=
  ((runCalls cfg (Pool.zero cfg) calls).bind (·[0]?)).getD (Context.zero cfg)

theorem acquired_contextAfter {calls : List Call}
    (h : (contextAfter cfg calls).inUse = true) : Acquired cfg (contextAfter cfg calls) := by
  cases hrun : runCalls cfg (Pool.zero cfg) calls with
  | none =>
    rw [contextAfter, hrun] at h
    cases h
  | some pool =>
    cases hslot : pool[0]? with
    | none =>
      rw [contextAfter, hrun, Option.bind_some, hslot] at h
      cases h
    | some ctx =>
      have hctx : contextAfter cfg calls = ctx := by
        rw [contextAfter, hrun, Option.bind_some, hslot]
        rfl
      rw [hctx] at h ⊢
      exact ⟨pool, reachable_of_runCalls (.start rfl) hrun, List.mem_of_getElem? hslot, h⟩

/-- **Every context in use in every reachable pool is well formed**, for any sequence of calls
with any arguments; and no later call on a handle in use reads or writes outside `values` or
the ring storage. -/
theorem reachable_contexts_well_formed (hreach : Reachable cfg pool) :
    (∀ ctx ∈ pool, ctx.inUse = true →
      isSupportedDevice ctx.device = true ∧ isSupportedCommand ctx.command = true ∧
      (ctx.networkSettings.headerType = .h3E ∨ ctx.networkSettings.headerType = .h4E) ∧
      ctx.address ≤ FX5_MAX_ADDRESS ∧
      ctx.count ≤ (if isBitDevice ctx.device then FX5_MAX_BIT_VALUE_COUNT cfg
        else FX5_MAX_WORD_VALUE_COUNT cfg) ∧
      ctx.values.length = cfg.FX5_MAX_VALUE_COUNT ∧
      ctx.rxCbuffer.data.length = FX5_IOBUF_SIZE cfg ∧
      ctx.rxCbuffer.capacity = FX5_IOBUF_SIZE cfg ∧
      ctx.rxCbuffer.size ≤ ctx.rxCbuffer.capacity ∧
      ctx.rxCbuffer.head < ctx.rxCbuffer.capacity ∧
      ctx.rxCbuffer.tail < ctx.rxCbuffer.capacity ∧
      ctx.rxCbuffer.head = (ctx.rxCbuffer.tail + ctx.rxCbuffer.size) % ctx.rxCbuffer.capacity) ∧
    (∀ call, call.Legal pool → call ≠ .acquire →
      ∃ reply pool', step cfg pool call = some (reply, pool')) ∧
    (cfg.FX5_CONTEXT_POOL_SIZE < 65536 →
      ∃ reply pool', step cfg pool .acquire = some (reply, pool')) := by
  have hpool := reachable_poolInv hreach
  refine ⟨?_, ?_, ?_⟩
  · intro ctx hmem huse
    have hinv := hpool.inv ctx hmem huse
    exact ⟨hinv.device, hinv.command, hinv.header, hinv.address, hinv.count, hinv.values,
      hinv.sized.data_length, hinv.capacity, hinv.ring.size_le, hinv.ring.head_lt,
      hinv.ring.tail_lt, hinv.ring.head_eq⟩
  · intro call hlegal hne
    obtain ⟨h, ht⟩ : ∃ h, call.target = some h := by
      cases call with
      | acquire => exact absurd rfl hne
      | _ => exact ⟨_, rfl⟩
    obtain ⟨reply, ctx, ctx', _, _, hstep, _⟩ := step_defined hpool hlegal ht
    exact ⟨reply, _, hstep⟩
  · intro hfit
    obtain ⟨result, hloop⟩ := acquireLoop_defined hpool.length hfit 0
    unfold step acquire
    simp only [Call.target, hloop, Option.bind_eq_bind, Option.bind_some]
    cases result with
    | none => exact ⟨_, _, rfl⟩
    | some k =>
      obtain ⟨ctx, hctx, _⟩ := acquireLoop_free hloop
      simp only [hctx, Option.bind_some]
      exact ⟨_, _, rfl⟩

/-- The smallest configuration: one value, one context. -/
def Config.smallest : Config := ⟨1, 1, true, by decide, by decide, by decide⟩

theorem well_formed_after_acquire :
    (contextAfter .smallest [.acquire, .setRequest 0 .batchRead .D 100 1]).count = 1 ∧
    isSupportedDevice
      (contextAfter .smallest [.acquire, .setRequest 0 .batchRead .D 100 1]).device = true := by
  have hacquired : Acquired .smallest
      (contextAfter .smallest [.acquire, .setRequest 0 .batchRead .D 100 1]) :=
    acquired_contextAfter (by decide +kernel)
  obtain ⟨pool, hreach, hmem, huse⟩ := hacquired
  exact ⟨by decide +kernel, ((reachable_contexts_well_formed hreach).1 _ hmem huse).1⟩

end Step

end Fx5
