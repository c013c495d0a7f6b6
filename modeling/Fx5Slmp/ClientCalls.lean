import Fx5Slmp.Repl
import Fx5Slmp.Traces

/-!
# The client as a user of the library

What the client does with its context is a sequence of calls of the public API.  The order of these
calls is checked by an automaton (`Phase`): a reset can come at any time; every other call has its place
behind the calls that it depends on.

* `ClientCalls` — calls on one handle that return, in an order that the automaton allows;
* `apply_calls`, `receive_calls`, `print_calls` — the calls of the parts of a command;
* `appExecuteCommand_calls` — **a command** makes its calls in this order, and what it gives to the
  socket is the request that it built;
* `ClientCalls.trace` — the same calls on the pool, with the other contexts untouched;
* `client_runs_as_calls` — **every run of the client is a history of the library**.
-/

set_option autoImplicit false

namespace Fx5

open CText StoppingRun

/-! ## The order of the calls -/

/-- What was done last with the context. -/
inductive Phase where
  | idle
  | cleared
  | configured
  | requested
  | sent
  | fed
  | parsed
  deriving DecidableEq

/-- The phase behind a call that returned a status; there is none when the call is out of place.  After
a failure only a reset is left. -/
def Phase.next : Phase → Call → Status → Option Phase
  | _, .reset _, .ok => some .cleared
  | .cleared, .setNetworkSettings _ _, status => some (if status = .ok then .configured else .idle)
  | .configured, .setRequest .., status => some (if status = .ok then .requested else .idle)
  | .requested, .setWriteValue .., status => some (if status = .ok then .requested else .idle)
  | .requested, .buildRequest .., status => some (if status = .ok then .sent else .idle)
  | .sent, .feedResponseBytes .., status => some (if status = .ok then .fed else .idle)
  | .fed, .parseResponse _, .errNeedMore => some .sent
  | .fed, .parseResponse _, status =>
    some (if status = .ok ∨ status = .responseError then .parsed else .idle)
  | .parsed, .getResponseCode _, _ => some .parsed
  | .parsed, .getResponseCount _, _ => some .parsed
  | .parsed, .getResponseValue .., _ => some .parsed
  | _, _, _ => none

/-- A call on handle `h` that returns and has its place in the order. -/
def ClientNext (cfg : Config) (h : Nat) (s : Context × Phase) (e : Event) (t : Context × Phase) :
    Prop :=
  ContextNext cfg s.1 e t.1 ∧ e.call.target = some h ∧ s.2.next e.call e.reply.status = some t.2

/-- Calls on handle `h`, one after the other, in order. -/
abbrev ClientCalls (cfg : Config) (h : Nat) :
    Context × Phase → List Event → Context × Phase → Prop :=
  Runs.Run (ClientNext cfg h)

/-- The request that a call built. -/
def Event.request (e : Event) : Option (List Byte) :=
  match e.reply with
  | .built .ok (some outBuf) (some actualSize) => some (outBuf.take actualSize)
  | _ => none

/-- The requests that some calls built. -/
def requestsIn (es : List Event) : List (List Byte) := es.filterMap Event.request

section Requests

variable {as bs : List Event} {requests : List (List Byte)}

theorem requestsIn_append (as bs : List Event) :
    requestsIn (as ++ bs) = requestsIn as ++ requestsIn bs := List.filterMap_append

theorem requestsIn_append_none (has : requestsIn as = requests) (hbs : requestsIn bs = []) :
    requestsIn (as ++ bs) = requests := by
  rw [requestsIn_append, has, hbs, List.append_nil]

/-- A request that was built, behind calls that built none. -/
theorem requestsIn_concat_built (has : requestsIn as = []) {status : Status} (hok : status = .ok)
    (call : Call) (outBuf : List Byte) (actualSize : Nat) :
    requestsIn (as ++ [⟨call, .built status (some outBuf) (some actualSize)⟩]) =
      [outBuf.take actualSize] := by
  rw [requestsIn_append, has, hok]
  rfl

/-- A request that was not built, behind calls that built none. -/
theorem requestsIn_concat_failed (has : requestsIn as = []) {status : Status} (hne : status ≠ .ok)
    (call : Call) (outBuf : List Byte) (actualSize : Nat) :
    requestsIn (as ++ [⟨call, .built status (some outBuf) (some actualSize)⟩]) = [] := by
  rw [requestsIn_append, has]
  cases status with
  | ok => exact absurd rfl hne
  | _ => rfl

end Requests

section Calls

variable {cfg : Config} {h : Nat} {ctx ctx' : Context} {p p' : Phase} {es : List Event}

/-- One call. -/
theorem ClientCalls.one (hinv : ctx.Inv cfg) (huse : ctx.inUse = true) {call : Call} {reply : Reply}
    (ht : call.target = some h) (hmem : call.MemoryOk)
    (hcall : callContext cfg call ctx = some (reply, ctx'))
    (hnext : p.next call reply.status = some p') :
    ClientCalls cfg h (ctx, p) [⟨call, reply⟩] (ctx', p') :=
  .cons ⟨⟨huse, hinv, hmem, ⟨h, ht⟩, hcall⟩, ht, hnext⟩ (.nil _)

/-- A release has no place in the order. -/
theorem Phase.next_release (k : Nat) (status : Status) : p.next (.release k) status = none := by
  cases p <;> rfl

/-- The calls do not release the context. -/
theorem ClientCalls.inv {s t : Context × Phase} (hcalls : ClientCalls cfg h s es t)
    (hinv : s.1.Inv cfg) (huse : s.1.inUse = true) : t.1.Inv cfg ∧ t.1.inUse = true := by
  induction hcalls with
  | nil _ => exact ⟨hinv, huse⟩
  | @cons s t _ e es hstep _ ih =>
    obtain ⟨hcontext, _, hnext⟩ := hstep
    have huse' : t.1.inUse = true := by
      rcases hcontext.effect.inUse hinv huse with huse' | ⟨k, hrelease⟩
      · exact huse'
      · rw [hrelease, Phase.next_release] at hnext
        cases hnext
    exact ih ((hcontext.effect.inv hinv huse).2 huse') huse'

/-- **On the pool**, with the other contexts untouched. -/
theorem ClientCalls.trace {s t : Context × Phase} (hcalls : ClientCalls cfg h s es t) {pool : Pool}
    (hctx : pool[h]? = some s.1) : Trace cfg pool es (pool.set h t.1) := by
  induction hcalls generalizing pool with
  | nil s =>
    obtain ⟨hlt, hslot⟩ := List.getElem?_eq_some_iff.mp hctx
    rw [← hslot, List.set_getElem_self]
    exact .nil _
  | @cons s t u e es hstep _ ih =>
    obtain ⟨⟨huse, hinv, hmem, _, hcall⟩, ht, _⟩ := hstep
    have hlt := (List.getElem?_eq_some_iff.mp hctx).1
    have hslot : (pool.set h t.1)[h]? = some t.1 := List.getElem?_set_self hlt
    have hrest := ih hslot
    rw [List.set_set] at hrest
    refine .cons ⟨⟨hmem, fun k hk => ?_⟩, ?_⟩ hrest
    · rw [ht] at hk
      cases hk
      exact ⟨s.1, hctx, huse⟩
    · unfold step onContext
      rw [ht]
      simp only [hctx, hcall, Option.bind_eq_bind, Option.bind_some]

/-! ## The parts of a command -/

/-- The values of a set command. -/
theorem setWriteValues_calls {cmd : ClientCommand} (hinv : ctx.Inv cfg) (huse : ctx.inUse = true)
    {i : Nat} {status : Status} (hloop : setWriteValuesLoop cfg cmd i ctx = some (status, ctx')) :
    ∃ es p', ClientCalls cfg h (ctx, .requested) es (ctx', p') ∧ requestsIn es = [] ∧
      (status = .ok → p' = .requested) := by
  induction hn : cmd.valueCount.toNat - i generalizing i ctx with
  | zero =>
    rw [setWriteValuesLoop, if_neg (by omega)] at hloop
    cases hloop
    exact ⟨[], .requested, .nil _, rfl, fun _ => rfl⟩
  | succ n ih =>
    rw [setWriteValuesLoop, if_pos (by omega)] at hloop
    obtain ⟨value, _, hloop⟩ := Option.bind_eq_some_iff.mp hloop
    obtain ⟨⟨written, ctx₁⟩, hset, hloop⟩ := Option.bind_eq_some_iff.mp hloop
    have hone : ∀ {p'}, Phase.next .requested (.setWriteValue h (BitVec.ofNat 16 i) value) written =
        some p' → ClientCalls cfg h (ctx, .requested)
          [⟨.setWriteValue h (BitVec.ofNat 16 i) value, .done written⟩] (ctx₁, p') := fun hnext =>
      .one hinv huse rfl trivial (by rw [callContext, hset]; rfl) hnext
    by_cases hok : written = .ok
    · rw [hok] at hone
      have hcalls := hone rfl
      obtain ⟨hinv₁, huse₁⟩ := hcalls.inv hinv huse
      simp only [hok, ne_eq, not_true_eq_false, if_false] at hloop
      obtain ⟨es, p', hrest, hnone, hend⟩ := ih hinv₁ huse₁ hloop (by omega)
      exact ⟨_, p', hcalls.append hrest, hnone, hend⟩
    · simp only [ne_eq, hok, not_false_eq_true, if_true] at hloop
      cases hloop
      exact ⟨_, .idle, hone (by rw [Phase.next, if_neg hok]), rfl, fun h => absurd h hok⟩

/-- **Applying a command.** -/
theorem apply_calls {cmd : ClientCommand} {settings : NetworkSettings} (hinv : ctx.Inv cfg)
    (huse : ctx.inUse = true) {status : Status}
    (happly : applyCommandToContext cfg ctx cmd settings = some (status, ctx')) (p : Phase) :
    ∃ es p', ClientCalls cfg h (ctx, p) es (ctx', p') ∧ requestsIn es = [] ∧
      (status = .ok → p' = .requested) := by
  unfold applyCommandToContext at happly
  split at happly
  · cases happly
    exact ⟨[], p, .nil _, rfl, nofun⟩
  split at happly
  · cases happly
    exact ⟨[], p, .nil _, rfl, nofun⟩
  have hreset : ClientCalls cfg h (ctx, p) [⟨.reset h, .done .ok⟩]
      (contextResetInternal cfg ctx, .cleared) :=
    .one hinv huse rfl trivial (by rw [callContext, reset, requireAcquired_ok huse]) rfl
  obtain ⟨hinv₁, huse₁⟩ := hreset.inv hinv huse
  rw [reset, requireAcquired_ok huse] at happly
  simp only at happly
  obtain ⟨net, ctx₁, hnet⟩ : ∃ net ctx₁,
      setNetworkSettings (contextResetInternal cfg ctx) (some settings) = (net, ctx₁) :=
    ⟨_, _, rfl⟩
  have hconfigure : ClientCalls cfg h (contextResetInternal cfg ctx, .cleared)
      [⟨.setNetworkSettings h (some settings), .done net⟩]
      (ctx₁, if net = .ok then .configured else .idle) :=
    .one hinv₁ huse₁ rfl trivial (by rw [callContext, hnet]) rfl
  rw [hnet] at happly
  split at happly
  · rename_i heq
    cases heq
    obtain ⟨hinv₂, huse₂⟩ := hconfigure.inv hinv₁ huse₁
    have hrequest {command : Command} {requested : Status} {ctx₂ : Context}
        (hset : setRequest cfg ctx₁ command cmd.device cmd.startAddress cmd.count =
          some (requested, ctx₂)) :
        ClientCalls cfg h (ctx₁, .configured)
          [⟨.setRequest h command cmd.device cmd.startAddress cmd.count, .done requested⟩]
          (ctx₂, if requested = .ok then .requested else .idle) :=
      .one hinv₂ huse₂ rfl trivial (by rw [callContext, hset]; rfl) rfl
    split at happly
    · have hcalls := hreset.append (hconfigure.append (hrequest happly))
      exact ⟨_, _, hcalls, rfl, fun hok => if_pos hok⟩
    · obtain ⟨⟨requested, ctx₂⟩, hset, happly⟩ := Option.bind_eq_some_iff.mp happly
      have hcalls := hreset.append (hconfigure.append (hrequest hset))
      by_cases hok : requested = .ok
      · subst hok
        simp only [ne_eq, not_true_eq_false, if_false] at happly
        obtain ⟨hinv₃, huse₃⟩ := ClientCalls.inv hcalls hinv huse
        obtain ⟨es, p', hwrites, hnone, hend⟩ := setWriteValues_calls hinv₃ huse₃ happly
        exact ⟨_, p', hcalls.append hwrites, hnone, hend⟩
      · simp only [ne_eq, hok, not_false_eq_true, if_true] at happly
        cases happly
        exact ⟨_, _, hcalls, rfl, fun h => absurd h hok⟩
  · rename_i hno
    cases happly
    exact ⟨_, _, hreset.append hconfigure, rfl, fun hok => absurd (by rw [hok]) (hno ctx')⟩

/-- **Receiving a response.** -/
theorem receive_calls (hinv : ctx.Inv cfg) (huse : ctx.inUse = true) {stream rest : List Byte}
    {events : List NetEvent} {ending : ReceiveEnd}
    (hreceive : receiveEnd cfg ctx stream events = some (ending, ctx', rest)) :
    ∃ es p', ClientCalls cfg h (ctx, .sent) es (ctx', p') ∧ requestsIn es = [] ∧
      (ending.succeeded = true → p' = .parsed) := by
  induction events generalizing ctx stream with
  | nil => cases hreceive
  | cons event events ih =>
    cases event with
    | timeout | closed | error =>
      cases hreceive
      exact ⟨[], .sent, .nil _, rfl, fun h => absurd h Bool.false_ne_true⟩
    | deliver size =>
      rw [receiveEnd_deliver] at hreceive
      split at hreceive
      · cases hreceive
      rename_i hsize
      obtain ⟨⟨fed, ctx₁⟩, hfeed, hreceive⟩ := Option.bind_eq_some_iff.mp hreceive
      have hbuffer : CLIENT_RECV_BUFFER_SIZE = 512 := rfl
      have hmem : (Call.feedResponseBytes h (some (stream.take size))
          (BitVec.ofNat 16 size)).MemoryOk := by
        show (BitVec.ofNat 16 size).toNat ≤ (stream.take size).length
        rw [BitVec.toNat_ofNat, List.length_take]
        omega
      have hfed : ClientCalls cfg h (ctx, .sent)
          [⟨.feedResponseBytes h (some (stream.take size)) (BitVec.ofNat 16 size), .done fed⟩]
          (ctx₁, if fed = .ok then .fed else .idle) :=
        .one hinv huse rfl hmem (by rw [callContext, hfeed]; rfl) rfl
      by_cases hok : fed = .ok
      · subst hok
        simp only [ne_eq, not_true_eq_false, if_false] at hreceive
        obtain ⟨hinv₁, huse₁⟩ := hfed.inv hinv huse
        obtain ⟨⟨parsed, ctx₂⟩, hparse, hreceive⟩ := Option.bind_eq_some_iff.mp hreceive
        have hparsed {p' : Phase} (hnext : Phase.next .fed (.parseResponse h) parsed = some p') :
            ClientCalls cfg h (ctx₁, .fed) [⟨.parseResponse h, .done parsed⟩] (ctx₂, p') :=
          .one hinv₁ huse₁ rfl trivial (by rw [callContext, hparse]; rfl) hnext
        cases parsed with
        | errNeedMore =>
          have hcalls := hfed.append (hparsed rfl)
          obtain ⟨hinv₂, huse₂⟩ := ClientCalls.inv hcalls hinv huse
          obtain ⟨es, p', hrest, hnone, hend⟩ := ih hinv₂ huse₂ hreceive
          exact ⟨_, p', hcalls.append hrest, hnone, hend⟩
        | ok | responseError =>
          cases hreceive
          exact ⟨_, .parsed, hfed.append (hparsed rfl), rfl, fun _ => rfl⟩
        | _ =>
          cases hreceive
          exact ⟨_, .idle, hfed.append (hparsed rfl), rfl, fun h => absurd h Bool.false_ne_true⟩
      · simp only [ne_eq, hok, not_false_eq_true, if_true] at hreceive
        cases hreceive
        exact ⟨_, _, hfed, rfl, fun h => absurd h Bool.false_ne_true⟩

/-- The values of a get command. -/
theorem printValues_calls {cmd : ClientCommand} (hinv : ctx.Inv cfg) (huse : ctx.inUse = true)
    {count i : Nat} {lines : List ReportLine}
    (hprint : printValuesLoop cfg cmd ctx count i = some lines) :
    ∃ es, ClientCalls cfg h (ctx, .parsed) es (ctx, .parsed) ∧ requestsIn es = [] := by
  induction hn : count - i generalizing i lines with
  | zero => exact ⟨[], .nil _, rfl⟩
  | succ n ih =>
    rw [printValuesLoop, if_pos (by omega)] at hprint
    obtain ⟨⟨status, value⟩, hvalue, hprint⟩ := Option.bind_eq_some_iff.mp hprint
    have hone : ClientCalls cfg h (ctx, .parsed)
        [⟨.getResponseValue h (BitVec.ofNat 16 i) true, .value status value⟩] (ctx, .parsed) :=
      .one hinv huse rfl trivial (by rw [callContext, if_pos rfl, hvalue]; rfl) rfl
    cases status with
    | ok =>
      obtain ⟨later, hlater, _⟩ := Option.bind_eq_some_iff.mp hprint
      obtain ⟨es, hrest, hnone⟩ := ih hlater (by omega)
      exact ⟨_, hone.append hrest, hnone⟩
    | _ => exact ⟨_, hone, rfl⟩

/-- **Printing a response.** -/
theorem print_calls {cmd : ClientCommand} (hinv : ctx.Inv cfg) (huse : ctx.inUse = true)
    {report : List ReportLine} (hprint : printResponse cfg cmd ctx = some report) :
    ∃ es, ClientCalls cfg h (ctx, .parsed) es (ctx, .parsed) ∧ requestsIn es = [] := by
  have hcode : ClientCalls cfg h (ctx, .parsed)
      [⟨.getResponseCode h, .number (getResponseCode ctx)⟩] (ctx, .parsed) :=
    .one hinv huse rfl trivial rfl rfl
  have hcount : ClientCalls cfg h (ctx, .parsed)
      [⟨.getResponseCount h, .number (getResponseCount ctx)⟩] (ctx, .parsed) :=
    .one hinv huse rfl trivial rfl rfl
  unfold printResponse at hprint
  simp only at hprint
  split at hprint
  · exact ⟨_, hcode, rfl⟩
  split at hprint
  · exact ⟨_, hcode, rfl⟩
  split at hprint
  · exact ⟨_, hcode, rfl⟩
  obtain ⟨es, hvalues, hnone⟩ := printValues_calls hinv huse hprint
  exact ⟨_, hcode.append (hcount.append hvalues), hnone⟩

end Calls

/-! ## Commands -/

/-- What the client did on handle `h`: it made the calls `es`, and gave the requests to the socket that
they built. -/
structure ClientMade (cfg : Config) (h : Nat) (app : ClientApp) (p : Phase) (es : List Event)
    (app' : ClientApp) (p' : Phase) : Prop where
  calls : ClientCalls cfg h (app.ctx, p) es (app'.ctx, p')
  sock : app'.sock = app.sock ++ requestsIn es

section Commands

variable {cfg : Config} {transport : Transport} {h : Nat} {app app' : ClientApp}

/-- **A command** makes its calls in order, and gives the request that it built to the socket. -/
theorem appExecuteCommand_calls (hready : app.Ready cfg) {cmd : ClientCommand}
    {ending : CommandEnd} (hexecute : appExecuteCommand cfg transport app cmd = some (ending, app'))
    (p : Phase) : ∃ es p', ClientMade cfg h app p es app' p' := by
  obtain ⟨hinv, huse⟩ := hready
  rw [appExecuteCommand, executeCommandPrinting_quiet] at hexecute
  obtain ⟨⟨status, ctx⟩, happly, hexecute⟩ := Option.bind_eq_some_iff.mp hexecute
  obtain ⟨es, p₁, happlied, hnone, hrequested⟩ := apply_calls (h := h) hinv huse happly p
  simp only at hexecute
  split at hexecute
  · cases hexecute
    exact ⟨es, p₁, happlied, by rw [hnone, List.append_nil]⟩
  rename_i hok
  obtain rfl := hrequested (not_not.mp hok)
  obtain ⟨hinv₁, huse₁⟩ := happlied.inv hinv huse
  obtain ⟨built, hbuild, hexecute⟩ := Option.bind_eq_some_iff.mp hexecute
  obtain ⟨buf, hbuf⟩ : ∃ buf, List.replicate (FX5_MAX_REQUEST_SIZE cfg) 0x00#8 = buf := ⟨_, rfl⟩
  rw [hbuf] at hbuild
  have hmem : (Call.buildRequest h (some buf) (BitVec.ofNat 16 (FX5_MAX_REQUEST_SIZE cfg))
      (some 0)).MemoryOk := by
    show (BitVec.ofNat 16 (FX5_MAX_REQUEST_SIZE cfg)).toNat ≤ buf.length
    rw [← hbuf, List.length_replicate, BitVec.toNat_ofNat]
    exact Nat.mod_le _ _
  have hbuilt : ClientCalls cfg h (ctx, .requested)
      [⟨.buildRequest h (some buf) (BitVec.ofNat 16 (FX5_MAX_REQUEST_SIZE cfg)) (some 0),
        .built built.status (some built.outBuf) (some built.actualSize)⟩]
      (built.context, if built.status = .ok then .sent else .idle) :=
    .one hinv₁ huse₁ rfl hmem (by rw [callContext, hbuild]; rfl) rfl
  have hcalls := happlied.append hbuilt
  by_cases hbuiltOk : built.status = .ok
  · -- the request is given to the socket
    have hrequest := requestsIn_concat_built hnone hbuiltOk (.buildRequest h (some buf)
      (BitVec.ofNat 16 (FX5_MAX_REQUEST_SIZE cfg)) (some 0)) built.outBuf built.actualSize
    rw [if_pos hbuiltOk] at hcalls
    obtain ⟨hinv₂, huse₂⟩ := ClientCalls.inv hcalls hinv huse
    simp only [ne_eq, hbuiltOk, not_true_eq_false, if_false] at hexecute
    split at hexecute
    · cases hexecute
      exact ⟨_, .sent, hcalls, by rw [hrequest]⟩
    rw [appReceiveResponse_eq] at hexecute
    obtain ⟨⟨received, ctx₂, rest⟩, hreceive, hexecute⟩ := Option.bind_eq_some_iff.mp hexecute
    obtain ⟨es₂, p₂, hreceived, hnone₂, hparsed⟩ := receive_calls (h := h) hinv₂ huse₂ hreceive
    have hcalls₂ := Runs.Run.append hcalls hreceived
    have hrequest₂ := requestsIn_append_none hrequest hnone₂
    cases received with
    | answered status =>
      obtain rfl := hparsed rfl
      obtain ⟨report, hprint, hexecute⟩ := Option.bind_eq_some_iff.mp hexecute
      obtain ⟨hinv₃, huse₃⟩ := ClientCalls.inv hcalls₂ hinv huse
      obtain ⟨es₃, hprinted, hnone₃⟩ := print_calls (h := h) hinv₃ huse₃ hprint
      cases hexecute
      exact ⟨_, .parsed, Runs.Run.append hcalls₂ hprinted,
        by rw [requestsIn_append_none hrequest₂ hnone₃]⟩
    | _ =>
      cases hexecute
      exact ⟨_, p₂, hcalls₂, by rw [hrequest₂]⟩
  · have hrequest := requestsIn_concat_failed hnone hbuiltOk (.buildRequest h (some buf)
      (BitVec.ofNat 16 (FX5_MAX_REQUEST_SIZE cfg)) (some 0)) built.outBuf built.actualSize
    rw [if_neg hbuiltOk] at hcalls
    simp only [ne_eq, hbuiltOk, not_false_eq_true, if_true] at hexecute
    cases hexecute
    exact ⟨_, .idle, hcalls, by rw [hrequest, List.append_nil]⟩

/-- The same for every command. -/
theorem executeReplCommand_calls (hready : app.Ready cfg) {cmd : ParsedCommand} {done : Bool}
    {ending : Option CommandEnd}
    (hexecute : executeReplCommand cfg transport app cmd = some (done, ending, app')) (p : Phase) :
    ∃ es p', ClientMade cfg h app p es app' p' := by
  have hplc (hexecute : (appExecuteCommand cfg transport app cmd.toClientCommand).bind
      (fun r => some (r.1.succeeded, some r.1, r.2)) = some (done, ending, app')) :
      ∃ es p', ClientMade cfg h app p es app' p' := by
    obtain ⟨⟨ended, app₂⟩, hone, hexecute⟩ := Option.bind_eq_some_iff.mp hexecute
    cases hexecute
    exact appExecuteCommand_calls hready hone p
  rw [executeReplCommand, executeReplCommandPrinting_quiet] at hexecute
  cases htype : cmd.type with
  | get | set =>
    rw [htype] at hexecute
    exact hplc hexecute
  | help | trace | header | invalid | quit =>
    rw [htype] at hexecute
    cases hexecute
    exact ⟨[], p, .nil _, (List.append_nil _).symm⟩

end Commands

/-! ## Whole runs -/

/-- The client made calls in order since it was `start`. -/
def CallsFrom (cfg : Config) (h : Nat) (start app : ClientApp) : Prop :=
  ∃ es p, ClientMade cfg h start .idle es app p

section Runs

variable {cfg : Config} {platform : Platform} {transport : Transport} {h : Nat}
  {start app app' : ClientApp}

theorem CallsFrom.refl (cfg : Config) (h : Nat) (app : ClientApp) : CallsFrom cfg h app app :=
  ⟨[], .idle, .nil _, (List.append_nil _).symm⟩

/-- The client can execute a command behind its calls. -/
theorem CallsFrom.ready (hcalls : CallsFrom cfg h start app) (hready : start.Ready cfg) :
    app.Ready cfg := by
  obtain ⟨_, _, hmade⟩ := hcalls
  exact ClientCalls.inv hmade.calls hready.1 hready.2

/-- **One more command.** -/
theorem CallsFrom.execute (hcalls : CallsFrom cfg h start app) (hready : start.Ready cfg)
    {cmd : ParsedCommand} {done : Bool} {ending : Option CommandEnd}
    (hexecute : executeReplCommand cfg transport app cmd = some (done, ending, app')) :
    CallsFrom cfg h start app' := by
  have hready' := hcalls.ready hready
  obtain ⟨es, p, hmade⟩ := hcalls
  obtain ⟨es', p', hmade'⟩ := executeReplCommand_calls (h := h) hready' hexecute p
  refine ⟨es ++ es', p', Runs.Run.append hmade.calls hmade'.calls, ?_⟩
  rw [hmade'.sock, hmade.sock, requestsIn_append, List.append_assoc]

theorem runText_calls (hcalls : CallsFrom cfg h start app) (hready : start.Ready cfg)
    {line : List Char} {turn : StoppingRun.Turn Execution ScriptStop ClientApp}
    (hturn : runText cfg platform transport line app = some turn) :
    CallsFrom cfg h start turn.state := by
  obtain ⟨ok, cmd, _, ⟨_, rfl⟩ | ⟨_, _, rfl⟩ | ⟨_, _, done, ending, app₂, hexecute, hdone⟩⟩ :=
    runText_cases hturn
  · exact hcalls
  · exact hcalls
  · rcases hdone with ⟨_, rfl⟩ | ⟨_, rfl⟩
    · exact hcalls.execute hready hexecute
    · exact hcalls.execute hready hexecute

theorem replTurn_calls (hcalls : CallsFrom cfg h start app) (hready : start.Ready cfg)
    {line : List Char} {turn : StoppingRun.Turn ReplEvent ReplStop ClientApp}
    (hturn : replTurn cfg platform transport line app = some turn) :
    CallsFrom cfg h start turn.state := by
  obtain ⟨ok, cmd, _, ⟨_, rfl⟩ | ⟨_, _, rfl⟩ | ⟨_, _, done, ending, app₂, hexecute, rfl⟩⟩ :=
    replTurn_cases hturn
  · exact hcalls
  · exact hcalls
  · exact hcalls.execute hready hexecute

/-- **A script** is a sequence of calls. -/
theorem scriptRun_calls (hready : start.Ready cfg) (h : Nat) {script : ScriptFile} {rc : Nat}
    {r : ScriptRun}
    (hscript : scriptRun cfg platform transport (some script) start = some (rc, some r)) :
    CallsFrom cfg h start r.ended.state :=
  @run_history _ _ _ _ _ (fun _ => CallsFrom cfg h start)
    (fun _ _ _ _ hcalls hturn => runText_calls hcalls hready hturn) _ _ []
    (CallsFrom.refl cfg h start) _ (scriptRun_run hscript).2

/-- **Interactive mode** is a sequence of calls. -/
theorem replRun_calls (hready : start.Ready cfg) (h : Nat) {input : List Char} {rc : Nat}
    {e : Ended ReplEvent ReplStop ClientApp}
    (hrepl : replRun cfg platform transport input start = some (rc, e)) :
    CallsFrom cfg h start e.state :=
  @run_history _ _ _ _ _ (fun _ => CallsFrom cfg h start)
    (fun _ _ _ _ hcalls hturn => replTurn_calls hcalls hready hturn) _ _ []
    (CallsFrom.refl cfg h start) _ (replRun_run hrepl).2

end Runs

/-- **Every run of the client is a history of the library.**  Let the client work on the context at
handle `h` of a pool.  Whatever the peer does, a script and interactive mode make calls on this handle
only, each of them legal and in its place in the order; they leave the pool with the context that the
client has then and all others as they were, and give to the socket exactly the requests that these
calls built. -/
theorem client_runs_as_calls {cfg : Config} (platform : Platform) (transport : Transport)
    {app : ClientApp} (hready : app.Ready cfg) {pool : Pool} {h : Nat}
    (hctx : pool[h]? = some app.ctx) :
    (∀ script rc r, scriptRun cfg platform transport (some script) app = some (rc, some r) →
      ∃ es p, ClientMade cfg h app .idle es r.ended.state p ∧
        Trace cfg pool es (pool.set h r.ended.state.ctx)) ∧
    ∀ input rc e, replRun cfg platform transport input app = some (rc, e) →
      ∃ es p, ClientMade cfg h app .idle es e.state p ∧
        Trace cfg pool es (pool.set h e.state.ctx) := by
  have htrace {app' : ClientApp} (hcalls : CallsFrom cfg h app app') :
      ∃ es p, ClientMade cfg h app .idle es app' p ∧ Trace cfg pool es (pool.set h app'.ctx) := by
    obtain ⟨es, p, hmade⟩ := hcalls
    exact ⟨es, p, hmade, ClientCalls.trace hmade.calls hctx⟩
  exact ⟨fun _ _ _ hscript => htrace (scriptRun_calls hready h hscript),
    fun _ _ _ hrepl => htrace (replRun_calls hready h hrepl)⟩

/-- Two requests without an answer, on the only context of a pool. -/
theorem unansweredScript_as_calls : ∃ e es p,
    replRun .smallest lp64 silentPeer unansweredScript.text startedApp = some (0, e) ∧
      ClientMade .smallest 0 startedApp .idle es e.state p ∧
      Trace .smallest [startedApp.ctx] es [e.state.ctx] ∧ (requestsIn es).length = 2 := by
  have hrepl : (run (replTurn .smallest lp64 silentPeer) (replTexts unansweredScript.text)
      startedApp).map (·.state.sock.length) = some 2 := by
    rw [texts_unansweredScript.2]
    decide +kernel
  obtain ⟨e, he, hlength⟩ := Option.map_eq_some_iff.mp hrepl
  have hrepl : replRun .smallest lp64 silentPeer unansweredScript.text startedApp =
      some (0, e) := by
    rw [replRun_texts, he]
    rfl
  have hctx : [startedApp.ctx][0]? = some startedApp.ctx := rfl
  obtain ⟨es, p, hmade, htrace⟩ :=
    (client_runs_as_calls lp64 silentPeer startedApp_ready hctx).2 _ _ _ hrepl
  refine ⟨e, es, p, hrepl, hmade, htrace, ?_⟩
  have hsock := congrArg List.length hmade.sock
  have hempty : startedApp.sock = [] := rfl
  rw [hlength, hempty, List.nil_append] at hsock
  exact hsock.symm

end Fx5
