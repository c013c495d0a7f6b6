import Fx5Slmp.ClientCalls
import Fx5Slmp.Ownership
import Fx5Slmp.Wire

/-!
# The life of the client

`fx5_client_app_init`, `fx5_client_app_run` and `fx5_client_app_shutdown` of `fx5_client_app.c`: a
context is acquired and a connection opened, the commands are executed, and what was taken is given
back.  When the set-up fails, nothing is given back.

* `appInit_holds` — **the pointers of the client account for everything** that the set-up took;
* `appShutdown_gives_back` — what they account for is given back;
* `AppCalls`, `appRun_calls` — the calls of the library that a run makes;
* `app_run_gives_back` — what is left of a whole run, however it went.
-/

set_option autoImplicit false

namespace Fx5

open CText StoppingRun

/-! ## The process -/

/-- What a process holds: the contexts of the library, the open handles of the kernel, the number of
`fx5_socket_t` that are allocated, and how often the transport was started and not shut down. -/
structure World where
  pool : Pool
  handles : List Nat
  sockets : Nat
  startups : Nat

/-- What the system answers while the client is set up: whether the transport starts, whether there is
memory for a socket, and the addresses of a host. -/
structure Setup where
  globalInit : Bool
  memory : Bool
  resolve : Resolver

/-- `ctx` and `sock` of `fx5_client_app_t`. -/
structure AppPointers where
  ctx : Option Nat
  sock : Option Socket

/-- `fx5_client_app_init`; a receive timeout that cannot be set gives only a warning. -/
def appInit (cfg : Config) (setup : Setup) (config : ClientConfig) (world : World) :
    Option (Bool × AppPointers × World) :=
  if !setup.globalInit then some (false, ⟨none, none⟩, world)
  else do
    let world := { world with startups := world.startups + 1 }
    let (status, ctx, pool) ← acquire cfg world.pool
    let world := { world with pool := pool }
    if status ≠ .ok then some (false, ⟨none, none⟩, world)
    else if !setup.memory then some (false, ⟨ctx, none⟩, world)
    else do
      let world := { world with sockets := world.sockets + 1 }
      let (connected, sock, acts) :=
        socketConnect setup.resolve socketOpen config.host config.port
      let handles ← openHandles world.handles acts
      some (connected, ⟨ctx, some sock⟩, { world with handles := handles })

/-- `fx5_socket_close` of the socket, if there is one. -/
def closeSocket (sock : Option Socket) (world : World) : Option World :=
  match sock with
  | none => some world
  | some sock => do
    let handles ← openHandles world.handles (socketClose sock)
    some { world with handles := handles, sockets := world.sockets - 1 }

/-- `fx5_release` of the context, if there is one. -/
def releaseContext (cfg : Config) (ctx : Option Nat) (pool : Pool) : Option Pool :=
  match ctx with
  | none => some pool
  | some k => do
    let held ← pool[k]?
    some (pool.set k (release cfg held))

/-- `fx5_client_app_shutdown`. -/
def appShutdown (cfg : Config) (app : AppPointers) (world : World) : Option World := do
  let world ← closeSocket app.sock world
  let pool ← releaseContext cfg app.ctx world.pool
  some { world with pool := pool, startups := world.startups - 1 }

/-- What is around the client: the set-up, the connection, the files and the standard input. -/
structure Surroundings where
  setup : Setup
  kernel : Kernel
  files : List Char → Option ScriptFile
  stdin : List Char

/-- How the commands ended: a script that cannot be opened, a script, or interactive mode. -/
inductive CommandsEnd where
  | notOpened
  | script (r : ScriptRun)
  | repl (e : Ended ReplEvent ReplStop ClientApp)

/-- The client behind its commands. -/
def CommandsEnd.client (app : ClientApp) : CommandsEnd → ClientApp
  | .notOpened => app
  | .script r => r.ended.state
  | .repl e => e.state

/-- The commands of `fx5_client_app_run`: the script if there is one, or interactive mode. -/
def appCommands (cfg : Config) (platform : Platform) (env : Surroundings) (app : ClientApp) :
    Option (Nat × CommandsEnd) :=
  match app.config.scriptPath with
  | some path => do
    let (rc, r) ← scriptRun cfg platform (socketTransport env.kernel) (env.files path) app
    some (rc, (r.map CommandsEnd.script).getD .notOpened)
  | none => do
    let (rc, e) ← replRun cfg platform (socketTransport env.kernel) env.stdin app
    some (rc, .repl e)

/-- What `fx5_client_app_run` returns, how its commands ended if the set-up succeeded, and what the
process holds then. -/
structure AppEnd where
  rc : Nat
  commands : Option CommandsEnd
  world : World

/-- `fx5_client_app_run`. -/
def appRun (cfg : Config) (platform : Platform) (env : Surroundings) (config : ClientConfig)
    (world : World) : Option AppEnd := do
  let (ok, app, world) ← appInit cfg env.setup config world
  if !ok then some ⟨2, none, world⟩
  else do
    let k ← app.ctx
    let ctx ← world.pool[k]?
    let client : ClientApp := ⟨config, ctx, []⟩
    let (rc, commands) ← appCommands cfg platform env client
    let world ←
      appShutdown cfg app { world with pool := world.pool.set k (commands.client client).ctx }
    some ⟨rc, some commands, world⟩

/-! ## What is held -/

/-- The calls of the library that a run makes, by how it went: none where the transport does not start,
an acquisition where the set-up fails behind it, and otherwise the acquisition of a context, the calls
that the commands make on it, and its release. -/
inductive AppCalls (cfg : Config) (pool : Pool) (config : ClientConfig) :
    Option CommandsEnd → List Event → Prop where
  | notStarted : AppCalls cfg pool config none []
  | notSetUp (status : Status) (ctx : Option Nat) :
      AppCalls cfg pool config none [⟨.acquire, .handle status ctx⟩]
  | ran {k : Nat} {acquired : Pool} {ctx : Context} {commands : CommandsEnd} {es : List Event}
      {p : Phase} : acquire cfg pool = some (.ok, some k, acquired) → acquired[k]? = some ctx →
      ClientMade cfg k ⟨config, ctx, []⟩ .idle es (commands.client ⟨config, ctx, []⟩) p →
      AppCalls cfg pool config (some commands)
        (⟨.acquire, .handle .ok (some k)⟩ :: (es ++ [⟨.release k, .released⟩]))

/-- The pool behind some calls that acquired the context at `k`, which was free, and changed no other. -/
structure ContextHeld (cfg : Config) (pool : Pool) (k : Nat) (pool' : Pool) : Prop where
  free : pool.inUseAt k = false
  held : ∃ ctx, pool'[k]? = some ctx ∧ ctx.Inv cfg ∧ ctx.inUse = true ∧ pool' = pool.set k ctx

/-- The pool behind the set-up. -/
def PoolHeld (cfg : Config) (pool : Pool) : Option Nat → Pool → Prop
  | none, pool' => pool' = pool
  | some k, pool' => ContextHeld cfg pool k pool'

/-- What the client took from `world`, and its pointers to it. -/
structure Held (cfg : Config) (setup : Setup) (world : World) (app : AppPointers) (world' : World) :
    Prop where
  pool : PoolHeld cfg world.pool app.ctx world'.pool
  handles : world'.handles = (app.sock.bind (·.handle)).toList ++ world.handles
  sockets : world'.sockets = world.sockets + app.sock.toList.length
  startups : world'.startups = world.startups + setup.globalInit.toNat

/-- The kernel gives no handle that is open. -/
def Setup.Fresh (setup : Setup) (handles : List Nat) : Prop :=
  ∀ host port calls, setup.resolve host port = some calls → FreshHandles handles calls

section Lifecycle

variable {cfg : Config} {setup : Setup} {config : ClientConfig} {world world' : World}
  {app : AppPointers}

/-- **An acquisition** takes a free context, or nothing. -/
theorem acquire_holds {pool : Pool} (hpool : PoolInv cfg pool) {status : Status} {ctx : Option Nat}
    {pool' : Pool} (h : acquire cfg pool = some (status, ctx, pool')) :
    PoolHeld cfg pool ctx pool' ∧ (status = .ok ↔ ctx.isSome = true) := by
  rcases acquire_cases h with ⟨rfl, rfl, rfl⟩ | ⟨k, before, hctx, hfree, rfl, rfl, rfl⟩
  · exact ⟨rfl, by simp⟩
  · have hlt := (List.getElem?_eq_some_iff.mp hctx).1
    have hsized := hpool.sized before (List.mem_of_getElem? hctx)
    obtain ⟨hinv, huse, _⟩ := hsized.acquired
    exact ⟨⟨(inUseAt_of_getElem? hctx).trans hfree,
      ⟨_, List.getElem?_set_self hlt, hinv, huse, rfl⟩⟩, by simp⟩

/-- **The pointers of the client account for everything** that the set-up took.  When the set-up
succeeds there is a context and a connected socket; when it fails no handle is open. -/
theorem appInit_holds (hpool : PoolInv cfg world.pool) (hfresh : setup.Fresh world.handles)
    {ok : Bool} (h : appInit cfg setup config world = some (ok, app, world')) :
    Held cfg setup world app world' ∧
      (ok = true → setup.globalInit = true ∧ app.ctx.isSome = true ∧ app.sock.isSome = true) ∧
      (ok = false → app.sock.bind (·.handle) = none) := by
  unfold appInit at h
  cases hinit : setup.globalInit with
  | false =>
    rw [hinit] at h
    cases h
    exact ⟨⟨rfl, rfl, rfl, by rw [hinit]; rfl⟩, fun h => absurd h Bool.false_ne_true, fun _ => rfl⟩
  | true =>
    rw [hinit] at h
    simp only [Bool.not_true, Bool.false_eq_true, if_false] at h
    obtain ⟨⟨status, ctx, pool'⟩, hacquire, h⟩ := Option.bind_eq_some_iff.mp h
    obtain ⟨hheld, hok⟩ := acquire_holds hpool hacquire
    have hstartups : world.startups + 1 = world.startups + setup.globalInit.toNat := by
      rw [hinit]
      rfl
    simp only at h
    split at h
    · rename_i hfailed
      cases h
      have hnone : ctx = none := by
        cases ctx with
        | none => rfl
        | some k => exact absurd (hok.mpr rfl) hfailed
      rw [hnone] at hheld
      exact ⟨⟨hheld, rfl, rfl, hstartups⟩, fun h => absurd h Bool.false_ne_true, fun _ => rfl⟩
    rename_i hstatus
    have hsome : ctx.isSome = true := hok.mp (not_not.mp hstatus)
    split at h
    · cases h
      exact ⟨⟨hheld, rfl, rfl, hstartups⟩, fun h => absurd h Bool.false_ne_true, fun _ => rfl⟩
    obtain ⟨connected, sock, acts, hconnect⟩ : ∃ connected sock acts,
        socketConnect setup.resolve socketOpen config.host config.port = (connected, sock, acts) :=
      ⟨_, _, _, rfl⟩
    obtain ⟨hopen, hkept⟩ := @socketConnect_spec socketOpen world.handles setup.resolve config.host
      config.port fun calls hcalls => by
        obtain ⟨host, _, hresolve⟩ := Option.bind_eq_some_iff.mp hcalls
        exact hfresh _ _ _ hresolve
    rw [hconnect] at h hopen hkept
    have hopen : openHandles world.handles acts = some (sock.handle.toList ++ world.handles) := hopen
    simp only [hopen, Option.bind_eq_bind, Option.bind_some] at h
    cases h
    refine ⟨⟨hheld, rfl, rfl, hstartups⟩, fun _ => ⟨rfl, hsome, rfl⟩, fun hfailed => ?_⟩
    have hsame : sock = socketOpen := hkept hfailed
    rw [Option.bind_some, hsame]
    rfl

/-- Closing the socket gives back its handle and its memory. -/
theorem Held.close (hheld : Held cfg setup world app world') :
    closeSocket app.sock world' =
      some { world' with handles := world.handles, sockets := world.sockets } := by
  have hhandles := hheld.handles
  have hsockets := hheld.sockets
  cases hsock : app.sock with
  | none =>
    rw [hsock] at hhandles hsockets
    rw [closeSocket, ← show world'.handles = world.handles from hhandles,
      ← show world'.sockets = world.sockets from hsockets]
  | some sock =>
    rw [hsock, Option.bind_some] at hhandles
    have hsockets : world'.sockets = world.sockets + 1 := by rw [hsockets, hsock]; rfl
    have hclose := @socketClose_spec sock world.handles
    rw [← hhandles] at hclose
    simp only [closeSocket, hclose, hsockets, Option.bind_eq_bind, Option.bind_some,
      Nat.add_sub_cancel]

/-- Releasing the context makes it free again, and changes no other one. -/
theorem PoolHeld.release {pool pool' : Pool} {ctx : Option Nat} (hheld : PoolHeld cfg pool ctx pool') :
    ∃ back, releaseContext cfg ctx pool' = some back ∧
      ∀ i, Pool.inUseAt back i = pool.inUseAt i ∧
        (pool.inUseAt i = true → back[i]? = pool[i]?) := by
  cases ctx with
  | none =>
    have hsame : pool' = pool := hheld
    exact ⟨pool', rfl, fun i => by rw [hsame]; exact ⟨rfl, fun _ => rfl⟩⟩
  | some k =>
    obtain ⟨hfree, held, hctx, hinv, huse, hset⟩ := hheld
    have hlt := (List.getElem?_eq_some_iff.mp hctx).1
    refine ⟨pool'.set k (Fx5.release cfg held),
      by simp only [releaseContext, hctx, Option.bind_eq_bind, Option.bind_some], fun i => ?_⟩
    by_cases hi : k = i
    · subst hi
      rw [inUseAt_of_getElem? (List.getElem?_set_self hlt), hfree, Fx5.release, huse]
      exact ⟨rfl, fun h => absurd h Bool.false_ne_true⟩
    · have hsame : (pool'.set k (Fx5.release cfg held))[i]? = pool[i]? := by
        rw [List.getElem?_set_ne hi, hset, List.getElem?_set_ne hi]
      refine ⟨?_, fun _ => hsame⟩
      unfold Pool.inUseAt
      rw [hsame]

/-- **What the pointers account for** is given back: the context is free again, and no other one has
changed. -/
theorem appShutdown_gives_back (hheld : Held cfg setup world app world')
    (hinit : setup.globalInit = true) :
    ∃ back, appShutdown cfg app world' = some back ∧ back.handles = world.handles ∧
      back.sockets = world.sockets ∧ back.startups = world.startups ∧
      ∀ i, back.pool.inUseAt i = world.pool.inUseAt i ∧
        (world.pool.inUseAt i = true → back.pool[i]? = world.pool[i]?) := by
  obtain ⟨back, hrelease, hothers⟩ := hheld.pool.release
  have hstartups : world'.startups = world.startups + 1 := by
    rw [hheld.startups, hinit]
    rfl
  refine ⟨{ world with pool := back }, ?_, rfl, rfl, rfl, hothers⟩
  simp only [appShutdown, hheld.close, hrelease, hstartups, Option.bind_eq_bind, Option.bind_some,
    Nat.add_sub_cancel]

/-- What is held besides changes no context that was in use. -/
theorem PoolHeld.others {pool pool' : Pool} {ctx : Option Nat} (hheld : PoolHeld cfg pool ctx pool') :
    ∀ i, pool.inUseAt i = true → pool'[i]? = pool[i]? := by
  intro i hi
  cases ctx with
  | none =>
    have hsame : pool' = pool := hheld
    rw [hsame]
  | some k =>
    obtain ⟨held, _, _, _, hset⟩ := hheld.held
    have hne : k ≠ i := by
      rintro rfl
      rw [hheld.free] at hi
      cases hi
    rw [hset, List.getElem?_set_ne hne]

/-- **The commands** are calls on the context of the client. -/
theorem appCommands_calls {platform : Platform} {env : Surroundings} {client : ClientApp}
    (hready : client.Ready cfg) (k : Nat) {rc : Nat} {commands : CommandsEnd}
    (h : appCommands cfg platform env client = some (rc, commands)) :
    CallsFrom cfg k client (commands.client client) := by
  unfold appCommands at h
  cases hpath : client.config.scriptPath with
  | none =>
    rw [hpath] at h
    obtain ⟨⟨rc', e⟩, hrepl, h⟩ := Option.bind_eq_some_iff.mp h
    cases h
    exact replRun_calls hready k hrepl
  | some path =>
    rw [hpath] at h
    obtain ⟨⟨rc', r⟩, hscript, h⟩ := Option.bind_eq_some_iff.mp h
    cases r with
    | none =>
      cases h
      exact CallsFrom.refl cfg k client
    | some r =>
      cases h
      cases hfile : env.files path with
      | none =>
        rw [hfile] at hscript
        cases hscript
      | some script =>
        rw [hfile] at hscript
        exact scriptRun_calls hready k hscript

/-- The commands keep what is held. -/
theorem ContextHeld.commands {pool pool' : Pool} {k : Nat} (hheld : ContextHeld cfg pool k pool')
    {ctx : Context} (hctx : pool'[k]? = some ctx) {client' : ClientApp}
    (hcalls : CallsFrom cfg k ⟨config, ctx, []⟩ client') :
    ContextHeld cfg pool k (pool'.set k client'.ctx) := by
  obtain ⟨hfree, held, hslot, hinv, huse, hset⟩ := hheld
  rw [hctx] at hslot
  cases hslot
  obtain ⟨hinv', huse'⟩ := hcalls.ready ⟨hinv, huse⟩
  have hlt := (List.getElem?_eq_some_iff.mp hctx).1
  refine ⟨hfree, client'.ctx, List.getElem?_set_self hlt, hinv', huse', ?_⟩
  rw [hset, List.set_set]

theorem Held.context (hheld : Held cfg setup world app world') {k : Nat} (hk : app.ctx = some k) :
    ContextHeld cfg world.pool k world'.pool := by
  have hpool := hheld.pool
  rw [hk] at hpool
  exact hpool

/-- The context of the client is ready for the first command. -/
theorem Held.ready (hheld : Held cfg setup world app world') {k : Nat} (hk : app.ctx = some k)
    {ctx : Context} (hctx : world'.pool[k]? = some ctx) :
    (⟨config, ctx, []⟩ : ClientApp).Ready cfg := by
  obtain ⟨held, hslot, hinv, huse, _⟩ := (hheld.context hk).held
  rw [hctx] at hslot
  cases hslot
  exact ⟨hinv, huse⟩

/-- The commands change only the context of what is held. -/
theorem Held.commands (hheld : Held cfg setup world app world') {k : Nat} (hk : app.ctx = some k)
    {ctx : Context} (hctx : world'.pool[k]? = some ctx) {client' : ClientApp}
    (hcalls : CallsFrom cfg k ⟨config, ctx, []⟩ client') :
    Held cfg setup world app { world' with pool := world'.pool.set k client'.ctx } where
  pool := by
    rw [hk]
    exact (hheld.context hk).commands hctx hcalls
  handles := hheld.handles
  sockets := hheld.sockets
  startups := hheld.startups

/-- The set-up succeeds: the transport starts, a context is free, there is memory for the socket, and
the client can connect to an address of the host. -/
structure SetupSucceeds (cfg : Config) (setup : Setup) (host : List Char) (port : Word)
    (world : World) : Prop where
  globalInit : setup.globalInit = true
  context : ∃ k pool', acquire cfg world.pool = some (.ok, some k, pool')
  memory : setup.memory = true
  address : ∃ calls, setup.resolve host (printNumeral 10 port.toNat) = some calls ∧
    calls.any AddressCalls.connects = true
  fresh : setup.Fresh world.handles

theorem appInit_succeeds {host : List Char} (hhost : config.host = some host)
    (hsetup : SetupSucceeds cfg setup host config.port world) :
    ∃ k app mid, appInit cfg setup config world = some (true, app, mid) ∧ app.ctx = some k := by
  obtain ⟨hinit, ⟨k, pool', hacquire⟩, hmemory, ⟨calls, hresolve, hconnects⟩, hfresh⟩ := hsetup
  have hcalls := hfresh host _ calls hresolve
  obtain ⟨hopen, hconnected, _⟩ := @connectLoop_spec socketOpen world.handles calls hcalls
  rw [hconnects] at hconnected
  have hsocket : socketConnect setup.resolve socketOpen config.host config.port =
      connectLoop socketOpen calls := by
    rw [hhost]
    simp only [socketConnect, hresolve]
  generalize hend : connectLoop socketOpen calls = ended at *
  obtain ⟨connected, sock, acts⟩ := ended
  obtain rfl : connected = true := hconnected
  have hopen : openHandles world.handles acts = some (sock.handle.toList ++ world.handles) := hopen
  refine ⟨k, ⟨some k, some sock⟩, ⟨pool', sock.handle.toList ++ world.handles, world.sockets + 1,
    world.startups + 1⟩, ?_, rfl⟩
  unfold appInit
  simp only [hinit, hacquire, hmemory, hsocket, hopen, Bool.not_true, Bool.false_eq_true, if_false,
    ne_eq, not_true_eq_false, Option.bind_eq_bind, Option.bind_some]

/-- **Once the set-up succeeds**, the client runs its commands, with a context that is ready and a
new connection. -/
theorem appRun_commands {platform : Platform} {env : Surroundings} {host : List Char}
    (hpool : PoolInv cfg world.pool) (hhost : config.host = some host)
    (hsetup : SetupSucceeds cfg env.setup host config.port world) :
    ∃ ctx, (⟨config, ctx, []⟩ : ClientApp).Ready cfg ∧
      (appRun cfg platform env config world).map (fun r => (r.rc, r.commands)) =
        (appCommands cfg platform env ⟨config, ctx, []⟩).map fun done => (done.1, some done.2) := by
  obtain ⟨k, app, mid, hinit, hk⟩ := appInit_succeeds hhost hsetup
  obtain ⟨hheld, _, _⟩ := appInit_holds hpool hsetup.fresh hinit
  obtain ⟨ctx, hctx, _⟩ := (hheld.context hk).held
  have hready : (⟨config, ctx, []⟩ : ClientApp).Ready cfg := hheld.ready hk hctx
  refine ⟨ctx, hready, ?_⟩
  simp only [appRun, hinit, hk, hctx, Bool.not_true, Bool.false_eq_true, if_false,
    Option.bind_eq_bind, Option.bind_some]
  cases hcommands : appCommands cfg platform env ⟨config, ctx, []⟩ with
  | none => rfl
  | some done =>
    obtain ⟨rc, commands⟩ := done
    have hcalls := appCommands_calls hready k hcommands
    obtain ⟨back, hshutdown, _⟩ :=
      appShutdown_gives_back (hheld.commands hk hctx hcalls) hsetup.globalInit
    simp only [Option.bind_some, hshutdown]
    rfl

/-! ## The calls of a run -/

/-- The set-up acquires a context or does not come to that. -/
theorem appInit_acquires {ok : Bool} (h : appInit cfg setup config world = some (ok, app, world')) :
    (ok = false ∧ world'.pool = world.pool) ∨
      ∃ status ctx, acquire cfg world.pool = some (status, ctx, world'.pool) ∧
        (ok = true → status = .ok ∧ app.ctx = ctx) := by
  unfold appInit at h
  split at h
  · cases h
    exact Or.inl ⟨rfl, rfl⟩
  obtain ⟨⟨status, ctx, pool'⟩, hacquire, h⟩ := Option.bind_eq_some_iff.mp h
  refine Or.inr ⟨status, ctx, ?_⟩
  simp only at h
  split at h
  · cases h
    exact ⟨hacquire, fun h => absurd h Bool.false_ne_true⟩
  rename_i hstatus
  split at h
  · cases h
    exact ⟨hacquire, fun h => absurd h Bool.false_ne_true⟩
  · obtain ⟨handles, _, h⟩ := Option.bind_eq_some_iff.mp h
    cases h
    exact ⟨hacquire, fun _ => ⟨not_not.mp hstatus, rfl⟩⟩

theorem acquire_event {pool pool' : Pool} {status : Status} {ctx : Option Nat}
    (h : acquire cfg pool = some (status, ctx, pool')) :
    NextEvent cfg pool ⟨.acquire, .handle status ctx⟩ pool' := by
  refine ⟨⟨trivial, fun k hk => by cases hk⟩, ?_⟩
  simp only [step, Call.target, h, Option.bind_eq_bind, Option.bind_some]

theorem release_event {pool : Pool} {k : Nat} {held : Context} (hctx : pool[k]? = some held)
    (huse : held.inUse = true) :
    NextEvent cfg pool ⟨.release k, .released⟩ (pool.set k (Fx5.release cfg held)) := by
  refine ⟨⟨trivial, fun i hi => ?_⟩, ?_⟩
  · cases hi
    exact ⟨held, hctx, huse⟩
  · simp only [step, Call.target, onContext, hctx, callContext, Option.bind_eq_bind, Option.bind_some]

/-- **The calls of a run** are a history of the library. -/
theorem appRun_calls {platform : Platform} {env : Surroundings} (hpool : PoolInv cfg world.pool)
    (hfresh : env.setup.Fresh world.handles) {r : AppEnd}
    (h : appRun cfg platform env config world = some r) :
    ∃ es, AppCalls cfg world.pool config r.commands es ∧ Trace cfg world.pool es r.world.pool := by
  obtain ⟨⟨ok, app, mid⟩, hsetup, h⟩ := Option.bind_eq_some_iff.mp h
  obtain ⟨hheld, _, _⟩ := appInit_holds hpool hfresh hsetup
  rcases appInit_acquires hsetup with ⟨rfl, hsame⟩ | ⟨status, acquired, hacquire, hok⟩
  · cases h
    exact ⟨[], .notStarted, hsame ▸ .nil _⟩
  have hfirst := acquire_event hacquire
  cases ok with
  | false =>
    cases h
    exact ⟨_, .notSetUp status acquired, .cons hfirst (.nil _)⟩
  | true =>
    obtain ⟨rfl, hctx⟩ := hok rfl
    simp only [Bool.not_true, Bool.false_eq_true, if_false] at h
    obtain ⟨k, hk, h⟩ := Option.bind_eq_some_iff.mp h
    obtain ⟨ctx, hslot, h⟩ := Option.bind_eq_some_iff.mp h
    obtain ⟨⟨rc, commands⟩, hcommands, h⟩ := Option.bind_eq_some_iff.mp h
    obtain ⟨back, hshutdown, h⟩ := Option.bind_eq_some_iff.mp h
    cases h
    obtain rfl : some k = acquired := hk.symm.trans hctx
    have hcalls := appCommands_calls (hheld.ready hk hslot) k hcommands
    have hready := hcalls.ready (hheld.ready hk hslot)
    have hheld' := hheld.commands hk hslot hcalls
    obtain ⟨es, p, hmade⟩ := hcalls
    have hlt := (List.getElem?_eq_some_iff.mp hslot).1
    have hclient : (mid.pool.set k (commands.client ⟨config, ctx, []⟩).ctx)[k]? =
        some (commands.client ⟨config, ctx, []⟩).ctx := List.getElem?_set_self hlt
    -- closing the socket leaves the pool alone, so the context is released where the commands left it
    have hback : back.pool = (mid.pool.set k (commands.client ⟨config, ctx, []⟩).ctx).set k
        (Fx5.release cfg (commands.client ⟨config, ctx, []⟩).ctx) := by
      simp only [appShutdown, hheld'.close, hk, releaseContext, hclient, Option.bind_eq_bind,
        Option.bind_some, Option.some.injEq] at hshutdown
      rw [← hshutdown]
    refine ⟨_, .ran hacquire hslot hmade, .cons hfirst ?_⟩
    rw [hback]
    exact Runs.Run.append (ClientCalls.trace hmade.calls hslot)
      (.cons (release_event hclient hready.2) (.nil _))

end Lifecycle

/-- **What is left of a run of the client.**  The process may hold other contexts and handles, and
whatever the kernel, the peer and the files are: the calls that a run makes of the library, from the
acquisition over those of its commands to the release, are legal; it changes no context that is in
use elsewhere, and leaves no handle open.  Once the set-up has succeeded, everything that was taken
is given back.  When it fails the program returns 2 and keeps what the pointers of the client account
for: the transport, and perhaps a context and a socket without a handle. -/
theorem app_run_gives_back {cfg : Config} {platform : Platform} {env : Surroundings}
    {config : ClientConfig} {world : World} (hpool : PoolInv cfg world.pool)
    (hfresh : env.setup.Fresh world.handles) {r : AppEnd}
    (h : appRun cfg platform env config world = some r) :
    (∃ es, AppCalls cfg world.pool config r.commands es ∧ Trace cfg world.pool es r.world.pool) ∧
    (∀ i, world.pool.inUseAt i = true → r.world.pool[i]? = world.pool[i]?) ∧
    r.world.handles = world.handles ∧
    ∃ ok app mid, appInit cfg env.setup config world = some (ok, app, mid) ∧
      (ok = true → r.world.sockets = world.sockets ∧ r.world.startups = world.startups ∧
        ∀ i, r.world.pool.inUseAt i = world.pool.inUseAt i) ∧
      (ok = false → r.rc = 2 ∧ Held cfg env.setup world app r.world) := by
  have hmade := appRun_calls hpool hfresh h
  obtain ⟨⟨ok, app, mid⟩, hsetup, h⟩ := Option.bind_eq_some_iff.mp h
  obtain ⟨hheld, hready, hfailed⟩ := appInit_holds hpool hfresh hsetup
  cases ok with
  | false =>
    cases h
    refine ⟨hmade, hheld.pool.others, ?_, false, app, mid, hsetup,
      fun h => absurd h Bool.false_ne_true, fun _ => ⟨rfl, hheld⟩⟩
    rw [hheld.handles, hfailed rfl]
    rfl
  | true =>
    simp only [Bool.not_true, Bool.false_eq_true, if_false] at h
    obtain ⟨k, hk, h⟩ := Option.bind_eq_some_iff.mp h
    obtain ⟨ctx, hctx, h⟩ := Option.bind_eq_some_iff.mp h
    obtain ⟨⟨rc, commands⟩, hcommands, h⟩ := Option.bind_eq_some_iff.mp h
    obtain ⟨back, hshutdown, h⟩ := Option.bind_eq_some_iff.mp h
    cases h
    have hcalls := appCommands_calls (hheld.ready hk hctx) k hcommands
    have hheld' := hheld.commands hk hctx hcalls
    obtain ⟨back', hback, hhandles, hsockets, hstartups, hothers⟩ :=
      appShutdown_gives_back hheld' (hready rfl).1
    rw [hshutdown] at hback
    cases hback
    exact ⟨hmade, fun i hi => (hothers i).2 hi, hhandles, true, app, mid, hsetup,
      fun _ => ⟨hsockets, hstartups, fun i => (hothers i).1⟩,
      fun h => absurd h.symm Bool.false_ne_true⟩

/-- A host with two addresses, of which the second one answers; one bit is read. -/
def twoAddresses : Surroundings where
  setup := ⟨true, true, fun _ _ => some [⟨some 4, -1⟩, ⟨some 4, 0⟩]⟩
  kernel := haltingKernel
  files := fun _ => none
  stdin := "get M0\n".toList

/-- The configuration for a host and a port. -/
def plcConfig : ClientConfig := { configInit with host := some "plc".toList, port := 5000 }

theorem twoAddresses_give_back : ∃ r,
    appRun .smallest lp64 twoAddresses plcConfig ⟨Pool.zero .smallest, [3], 0, 0⟩ = some r ∧
    r.rc = 0 ∧ (∃ es, AppCalls .smallest (Pool.zero .smallest) plcConfig r.commands es ∧
      Trace .smallest (Pool.zero .smallest) es r.world.pool) ∧
    r.world.handles = [3] := by
  have hsome : (appRun .smallest lp64 twoAddresses plcConfig
      ⟨Pool.zero .smallest, [3], 0, 0⟩).map (·.rc) = some 0 := by decide +kernel
  obtain ⟨r, hrun, hrc⟩ := Option.map_eq_some_iff.mp hsome
  have hfresh : twoAddresses.setup.Fresh [3] := by
    intro host port calls hcalls
    obtain rfl : [⟨some 4, -1⟩, ⟨some 4, 0⟩] = calls := Option.some.inj hcalls
    intro call hmem handle hhandle
    simp only [List.mem_cons, List.not_mem_nil, or_false] at hmem
    rcases hmem with rfl | rfl
    · cases hhandle
      decide
    · cases hhandle
      decide
  obtain ⟨htrace, _, hhandles, _⟩ := app_run_gives_back (poolInv_zero .smallest) hfresh hrun
  exact ⟨r, hrun, hrc, htrace, hhandles⟩

end Fx5
