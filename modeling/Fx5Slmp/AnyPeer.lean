import Fx5Slmp.Repl
import Fx5Slmp.Session

/-!
# The client in front of any peer

Nothing is known here of what is at the other end of the connection: any bytes may arrive, in any
pieces, and receiving may fail at any time.

* `receiveEnd_defined`, `executeReplCommand_defined` — the client has a result for whatever arrives;
* `appExecuteCommand_request` — a command that is allowed gives one request to the socket, the others
  give none;
* `requests_on_wire` — the requests of a whole run, of a script and of interactive mode;
* `repl_executes_every_text` — no peer makes interactive mode skip a command, execute one twice or
  end early.
-/

set_option autoImplicit false

namespace Fx5

open CText StoppingRun

/-! ## Receiving -/

/-- Receiving can go so with `left` bytes on their way: every piece is taken from them and fits the
buffer, and receiving fails behind the pieces. -/
def Receivable : Nat → List NetEvent → Prop
  | _, [] => False
  | left, .deliver size :: events =>
    0 < size ∧ size ≤ CLIENT_RECV_BUFFER_SIZE ∧ size ≤ left ∧ Receivable (left - size) events
  | _, _ :: _ => True

/-- Receiving ends somehow after every request. -/
def Transport.Possible (transport : Transport) : Prop :=
  ∀ requests, Receivable (transport requests).stream.length (transport requests).events

section Receive

variable {cfg : Config} {ctx : Context}

/-- **The receive loop** has a result for all bytes, in all pieces. -/
theorem receiveEnd_defined (hinv : ctx.Inv cfg) (huse : ctx.inUse = true) {stream : List Byte}
    {events : List NetEvent} (hevents : Receivable stream.length events) :
    ∃ ending ctx' rest, receiveEnd cfg ctx stream events = some (ending, ctx', rest) ∧
      ctx'.Inv cfg ∧ ctx'.inUse = true := by
  induction events generalizing ctx stream with
  | nil => exact absurd hevents id
  | cons event events ih =>
    cases event with
    | timeout | closed | error => exact ⟨_, _, _, rfl, hinv, huse⟩
    | deliver size =>
      obtain ⟨hpos, hmax, hsize, hlater⟩ := hevents
      rw [receiveEnd_deliver, if_neg (by omega)]
      rcases deliver_feed_cases hinv huse hmax hsize with
        ⟨failed, hne, hfeed⟩ | ⟨hroom, hfeed⟩
      · simp only [hfeed, Option.bind_eq_bind, Option.bind_some, ne_eq, hne, not_false_eq_true,
          if_true]
        exact ⟨_, _, _, rfl, hinv, huse⟩
      obtain ⟨hinv', _⟩ := hinv.received hroom
      obtain ⟨parsed, ctx₂, hparse, hinv₂, huse₂, _⟩ := parseResponse_inv hinv' huse
      simp only [hfeed, Option.bind_eq_bind, Option.bind_some, ne_eq, not_true_eq_false, if_false,
        hparse]
      cases parsed with
      | errNeedMore => exact ih hinv₂ huse₂ (by rw [List.length_drop]; exact hlater)
      | _ => exact ⟨_, _, _, rfl, hinv₂, huse₂⟩

/-- What is printed of an answer is defined for every command. -/
theorem printResponse_defined (hinv : ctx.Inv cfg) (huse : ctx.inUse = true) (cmd : ClientCommand) :
    ∃ report, printResponse cfg cmd ctx = some report := by
  by_cases hget : cmd.type = .get
  · rw [printResponse_get hinv huse hget]
    split
    · exact ⟨_, rfl⟩
    · exact ⟨_, rfl⟩
  · unfold printResponse
    simp only
    split
    · exact ⟨_, rfl⟩
    split
    · exact ⟨_, rfl⟩
    exact ⟨_, rfl⟩

theorem appReceiveResponse_defined {app : ClientApp} (hready : app.Ready cfg) {io : SocketIo}
    (hio : Receivable io.stream.length io.events) (cmd : ClientCommand) :
    ∃ ending app', appReceiveResponse cfg app cmd io = some (ending, app') := by
  obtain ⟨ending, ctx', rest, hreceive, hinv', huse'⟩ :=
    receiveEnd_defined hready.1 hready.2 hio
  rw [appReceiveResponse_eq]
  rw [hreceive]
  cases ending with
  | answered status =>
    obtain ⟨report, hreport⟩ := printResponse_defined hinv' huse' cmd
    simp only [Option.bind_eq_bind, Option.bind_some, hreport]
    exact ⟨_, _, rfl⟩
  | _ => exact ⟨_, _, rfl⟩

/-- Receiving changes the context only. -/
theorem appReceiveResponse_keeps {app app' : ClientApp} {cmd : ClientCommand} {io : SocketIo}
    {ending : CommandEnd} (h : appReceiveResponse cfg app cmd io = some (ending, app')) :
    app'.config = app.config ∧ app'.sock = app.sock := by
  rw [appReceiveResponse_eq] at h
  obtain ⟨⟨received, ctx', rest⟩, _, h⟩ := Option.bind_eq_some_iff.mp h
  cases received with
  | answered status =>
    obtain ⟨report, _, h⟩ := Option.bind_eq_some_iff.mp h
    cases h
    exact ⟨rfl, rfl⟩
  | _ =>
    cases h
    exact ⟨rfl, rfl⟩

end Receive

/-! ## Requests -/

/-- What a command gives to the socket: one request if it is a get or set command that is allowed. -/
def ParsedCommand.requests (cfg : Config) (settings : NetworkSettings) (cmd : ParsedCommand) :
    List DecodedRequest :=
  if (cmd.type = .get ∨ cmd.type = .set) ∧ cmd.Allowed cfg then
    [⟨settings, firstSerial settings, cmd.pdu⟩]
  else []

/-- The network settings behind a command. -/
def ParsedCommand.settingsAfter (settings : NetworkSettings) (cmd : ParsedCommand) :
    NetworkSettings :=
  if cmd.type = .header then { settings with headerType := cmd.headerType } else settings

/-- What some commands give to the socket, in order. -/
def requestsOf (cfg : Config) : NetworkSettings → List ParsedCommand → List DecodedRequest
  | _, [] => []
  | settings, cmd :: cmds =>
    cmd.requests cfg settings ++ requestsOf cfg (cmd.settingsAfter settings) cmds

/-- The requests that were given to the socket, as the reference decoder reads them. -/
def ClientApp.wire (app : ClientApp) : List (Option DecodedRequest) := app.sock.map decodeRequest

theorem requestsOf_append (cfg : Config) (settings : NetworkSettings) (as bs : List ParsedCommand) :
    requestsOf cfg settings (as ++ bs) = requestsOf cfg settings as ++
      requestsOf cfg (as.foldl ParsedCommand.settingsAfter settings) bs := by
  induction as generalizing settings with
  | nil => rfl
  | cons a as ih => rw [List.cons_append, requestsOf, requestsOf, ih, List.foldl_cons,
      List.append_assoc]

/-- What a command leaves behind, whatever the peer does. -/
structure Effects (cfg : Config) (app : ClientApp) (cmd : ParsedCommand) (app' : ClientApp) :
    Prop where
  session : app'.InSession cfg
  settings : app'.config.networkSettings = cmd.settingsAfter app.config.networkSettings
  wire : app'.wire = app.wire ++ (cmd.requests cfg app.config.networkSettings).map some

section Execute

variable {cfg : Config} {transport : Transport} {app app' : ClientApp} {cmd : ParsedCommand}

/-- **A get or set command** gives its request to the socket, if it is allowed. -/
theorem appExecuteCommand_request (hsession : app.InSession cfg)
    (htype : cmd.type = .get ∨ cmd.type = .set) (hcmd : cmd.WellFormed) {ending : CommandEnd}
    (h : appExecuteCommand cfg transport app cmd.toClientCommand = some (ending, app')) :
    app'.config = app.config ∧
      app'.wire = app.wire ++ (cmd.requests cfg app.config.networkSettings).map some := by
  by_cases hallowed : cmd.Allowed cfg
  · obtain ⟨ctx, happly, hprepared⟩ := applyCommandToContext_allowed hsession.ready.1
      hsession.ready.2 hsession.header htype hallowed hcmd
    obtain ⟨built, hbuild, hok, hctx, hrequest⟩ := hprepared.built
    have hkept : app'.config = app.config ∧ app'.sock = app.sock ++ [requestBytes ctx] := by
      rw [appExecuteCommand, executeCommandPrinting_quiet] at h
      simp only [happly, Option.bind_eq_bind, Option.bind_some, ne_eq, not_true_eq_false, if_false,
        hbuild, hok, hctx, hrequest] at h
      split at h
      · cases h
        exact ⟨rfl, rfl⟩
      · exact appReceiveResponse_keeps h
    refine ⟨hkept.1, ?_⟩
    rw [ClientApp.wire, hkept.2, List.map_append, ParsedCommand.requests, if_pos ⟨htype, hallowed⟩,
      List.map_singleton, List.map_singleton, hprepared.decoded]
    rfl
  · obtain ⟨status, ctx', hrefused, _⟩ :=
      @execute_refused cfg transport app cmd hsession htype hallowed
    rw [h] at hrefused
    cases hrefused
    refine ⟨rfl, ?_⟩
    rw [ParsedCommand.requests, if_neg fun hand => hallowed hand.2]
    exact (List.append_nil _).symm

/-- **What a command leaves behind**, whatever the peer does. -/
theorem executeReplCommand_effects (hsession : app.InSession cfg) (hcmd : cmd.WellFormed)
    {done : Bool} {ending : Option CommandEnd}
    (h : executeReplCommand cfg transport app cmd = some (done, ending, app')) :
    Effects cfg app cmd app' := by
  obtain ⟨hready', _, _⟩ := executeReplCommand_spec hsession.ready h
  have hplc (htype : cmd.type = .get ∨ cmd.type = .set)
      (h : (appExecuteCommand cfg transport app cmd.toClientCommand).bind
        (fun r => some (r.1.succeeded, some r.1, r.2)) = some (done, ending, app')) :
      Effects cfg app cmd app' := by
    obtain ⟨⟨ended, app₂⟩, hexecute, h⟩ := Option.bind_eq_some_iff.mp h
    cases h
    obtain ⟨hconfig, hwire⟩ := appExecuteCommand_request hsession htype hcmd hexecute
    have hheader : cmd.type ≠ .header := by rcases htype with h | h <;> rw [h] <;> decide
    refine ⟨⟨hready', by rw [hconfig]; exact hsession.header⟩, ?_, hwire⟩
    rw [hconfig, ParsedCommand.settingsAfter, if_neg hheader]
  have hother (hno : ¬(cmd.type = .get ∨ cmd.type = .set)) (hsock : app'.sock = app.sock)
      (hsettings : app'.config.networkSettings =
        cmd.settingsAfter app.config.networkSettings)
      (hheader : HeaderAccepted app'.config.networkSettings.headerType) :
      Effects cfg app cmd app' := by
    refine ⟨⟨hready', hheader⟩, hsettings, ?_⟩
    rw [ParsedCommand.requests, if_neg fun hand => hno hand.1, ClientApp.wire, hsock]
    exact (List.append_nil _).symm
  rw [executeReplCommand, executeReplCommandPrinting_quiet] at h
  cases htype : cmd.type with
  | get =>
    rw [htype] at h
    exact hplc (Or.inl htype) h
  | set =>
    rw [htype] at h
    exact hplc (Or.inr htype) h
  | header =>
    rw [htype] at h
    cases h
    exact hother (by simp [htype]) rfl (by rw [ParsedCommand.settingsAfter, if_pos htype])
      (hcmd.header htype)
  | help | trace | invalid | quit =>
    rw [htype] at h
    cases h
    exact hother (by simp [htype]) rfl
      (by rw [ParsedCommand.settingsAfter, if_neg (by rw [htype]; decide)]) hsession.header

/-- **A command has a result**, whatever the peer does. -/
theorem executeReplCommand_defined (hsession : app.InSession cfg) (hcmd : cmd.WellFormed)
    (hpeer : transport.Possible) :
    ∃ done ending app', executeReplCommand cfg transport app cmd = some (done, ending, app') := by
  have hplc (htype : cmd.type = .get ∨ cmd.type = .set) :
      ∃ ending app', appExecuteCommand cfg transport app cmd.toClientCommand =
        some (ending, app') := by
    by_cases hallowed : cmd.Allowed cfg
    · obtain ⟨ctx, happly, hprepared⟩ := applyCommandToContext_allowed hsession.ready.1
        hsession.ready.2 hsession.header htype hallowed hcmd
      obtain ⟨built, hbuild, hok, hctx, hrequest⟩ := hprepared.built
      obtain ⟨hinv, huse, _⟩ := hprepared.sent
      rw [appExecuteCommand, executeCommandPrinting_quiet]
      simp only [happly, Option.bind_eq_bind, Option.bind_some, ne_eq, not_true_eq_false, if_false,
        hbuild, hok, hctx, hrequest]
      split
      · exact ⟨_, _, rfl⟩
      · exact appReceiveResponse_defined ⟨hinv, huse⟩ (hpeer _) _
    · obtain ⟨status, ctx', hrefused, _⟩ :=
        @execute_refused cfg transport app cmd hsession htype hallowed
      exact ⟨_, _, hrefused⟩
  rw [executeReplCommand, executeReplCommandPrinting_quiet]
  cases htype : cmd.type with
  | get =>
    obtain ⟨ending, app', hres⟩ := hplc (Or.inl htype)
    exact ⟨_, _, _, by simp only [hres, Option.bind_eq_bind, Option.bind_some]; rfl⟩
  | set =>
    obtain ⟨ending, app', hres⟩ := hplc (Or.inr htype)
    exact ⟨_, _, _, by simp only [hres, Option.bind_eq_bind, Option.bind_some]; rfl⟩
  | _ => exact ⟨_, _, _, rfl⟩

end Execute

/-! ## Whole runs on the wire -/

/-- What some commands left behind, whatever the peer did. -/
structure Sent (cfg : Config) (app : ClientApp) (cmds : List ParsedCommand) (app' : ClientApp) :
    Prop where
  session : app'.InSession cfg
  settings : app'.config.networkSettings =
    cmds.foldl ParsedCommand.settingsAfter app.config.networkSettings
  wire : app'.wire = app.wire ++ (requestsOf cfg app.config.networkSettings cmds).map some

section Wire

variable {cfg : Config} {platform : Platform} {transport : Transport} {app app₁ app₂ : ClientApp}
  {cmds : List ParsedCommand}

/-- The start of a run. -/
theorem Sent.start (hsession : app.InSession cfg) : Sent cfg app [] app :=
  ⟨hsession, rfl, (List.append_nil _).symm⟩

/-- **One more command.** -/
theorem Sent.concat (h : Sent cfg app cmds app₁) {cmd : ParsedCommand}
    (heffects : Effects cfg app₁ cmd app₂) : Sent cfg app (cmds ++ [cmd]) app₂ where
  session := heffects.session
  settings := by
    rw [heffects.settings, h.settings, List.foldl_append]
    rfl
  wire := by
    rw [heffects.wire, h.wire, requestsOf_append, List.map_append, List.append_assoc, h.settings]
    simp only [requestsOf, List.append_nil]

/-- One text of a script. -/
theorem runText_sent (h : Sent cfg app cmds app₁) {line : List Char}
    {turn : StoppingRun.Turn Execution ScriptStop ClientApp}
    (hturn : runText cfg platform transport line app₁ = some turn) :
    Sent cfg app (cmds ++ turn.outputs.map (·.command)) turn.state := by
  have hnone : Sent cfg app (cmds ++ []) app₁ := (List.append_nil cmds).symm ▸ h
  obtain ⟨ok, cmd, hparse, ⟨_, rfl⟩ | ⟨_, _, rfl⟩ |
    ⟨rfl, _, done, ending, app₂, hexecute, hdone⟩⟩ := runText_cases hturn
  · exact hnone
  · exact hnone
  · have heffects := h.concat
      (executeReplCommand_effects h.session (accepted_wellFormed hparse) hexecute)
    rcases hdone with ⟨_, rfl⟩ | ⟨_, rfl⟩
    · exact heffects
    · exact heffects

/-! ## Interactive mode -/

/-- The command of a text; there is none in a syntax error. -/
def readCommand (cfg : Config) (platform : Platform) (line : List Char) : Option ParsedCommand :=
  match parseCommand cfg platform line with
  | some (true, cmd) => some cmd
  | _ => none

/-- The texts before the first quit. -/
def beforeQuit (cfg : Config) (platform : Platform) (texts : List (List Char)) :
    List (List Char) :=
  texts.takeWhile fun line => (readCommand cfg platform line).map (·.type) != some .quit

/-- The command of a turn; there is none in a syntax error. -/
def ReplEvent.command (event : ReplEvent) : Option ParsedCommand :=
  event.execution.map (·.command)

/-- **A text has a turn** if the parser has a result, whatever the peer does. -/
theorem replTurn_isSome (platform : Platform) (line : List Char) (hsession : app.InSession cfg)
    (hpeer : transport.Possible) :
    (replTurn cfg platform transport line app).isSome = (parseCommand cfg platform line).isSome := by
  rw [replTurn, runReplTextPrinting_quiet]
  simp only [Option.bind_eq_bind]
  cases hparse : parseCommand cfg platform line with
  | none => rfl
  | some parsed =>
    obtain ⟨ok, cmd⟩ := parsed
    simp only [Option.bind_some]
    cases ok with
    | false => rfl
    | true =>
      obtain ⟨done, ending, app', hexecute⟩ :=
        executeReplCommand_defined hsession (accepted_wellFormed hparse) hpeer
      simp only [Bool.not_true, Bool.false_eq_true, if_false, hexecute]
      split
      · rfl
      · rfl

/-- **One text** is one event, unless it is a quit. -/
theorem replTurn_command {line : List Char}
    {turn : StoppingRun.Turn ReplEvent ReplStop ClientApp}
    (hturn : replTurn cfg platform transport line app = some turn) :
    ((readCommand cfg platform line).map (·.type) = some .quit ∧ turn = .stop [] .quit app) ∨
    ((readCommand cfg platform line).map (·.type) ≠ some .quit ∧ ∃ event app',
      turn = .next [event] app' ∧ event.command = readCommand cfg platform line) := by
  obtain ⟨ok, cmd, hparse, ⟨rfl, rfl⟩ | ⟨rfl, hquit, rfl⟩ |
    ⟨rfl, hquit, done, ending, app', _, rfl⟩⟩ := replTurn_cases hturn
  · have hread : readCommand cfg platform line = none := by rw [readCommand, hparse]
    rw [hread]
    exact Or.inr ⟨fun h => Option.some_ne_none _ h.symm, _, _, rfl, rfl⟩
  · have hread : readCommand cfg platform line = some cmd := by rw [readCommand, hparse]
    rw [hread]
    exact Or.inl ⟨congrArg some hquit, rfl⟩
  · have hread : readCommand cfg platform line = some cmd := by rw [readCommand, hparse]
    rw [hread]
    exact Or.inr ⟨fun h => hquit (Option.some.inj h), _, _, rfl, rfl⟩

/-- One text of interactive mode, after others. -/
theorem replTurn_sent (h : Sent cfg app cmds app₁) {line : List Char}
    {turn : StoppingRun.Turn ReplEvent ReplStop ClientApp}
    (hturn : replTurn cfg platform transport line app₁ = some turn) :
    Sent cfg app (cmds ++ turn.outputs.filterMap ReplEvent.command) turn.state := by
  have hnone : Sent cfg app (cmds ++ []) app₁ := (List.append_nil cmds).symm ▸ h
  obtain ⟨ok, cmd, hparse, ⟨_, rfl⟩ | ⟨_, _, rfl⟩ |
    ⟨rfl, _, done, ending, app₂, hexecute, rfl⟩⟩ := replTurn_cases hturn
  · exact hnone
  · exact hnone
  · exact h.concat (executeReplCommand_effects h.session (accepted_wellFormed hparse) hexecute)

/-- **Texts of interactive mode** are taken one by one up to a quit. -/
theorem replTexts_run (texts : List (List Char)) (hsession : app.InSession cfg) :
    (transport.Possible →
      ((run (replTurn cfg platform transport) texts app).isSome = true ↔
        ∀ line ∈ beforeQuit cfg platform texts,
          (parseCommand cfg platform line).isSome = true)) ∧
    ∀ e, run (replTurn cfg platform transport) texts app = some e →
      e.outputs.map ReplEvent.command =
        (beforeQuit cfg platform texts).map (readCommand cfg platform) ∧
      (e.reason = some .quit ↔
        ∃ line ∈ texts, (readCommand cfg platform line).map (·.type) = some .quit) := by
  induction texts generalizing app with
  | nil =>
    refine ⟨fun _ => by simp [run, beforeQuit], fun e he => ?_⟩
    cases he
    exact ⟨rfl, by simp⟩
  | cons line texts ih =>
    have hkeep (hquit : (readCommand cfg platform line).map (·.type) ≠ some .quit) :
        beforeQuit cfg platform (line :: texts) = line :: beforeQuit cfg platform texts :=
      List.takeWhile_cons_of_pos (by simpa using hquit)
    rw [run]
    cases hturn : replTurn cfg platform transport line app with
    | none =>
      refine ⟨fun hpeer => ⟨fun h => absurd h Bool.false_ne_true, fun h => ?_⟩,
        fun e he => absurd he.symm (Option.some_ne_none e)⟩
      -- the parser has no result
      have hparse := replTurn_isSome platform line hsession hpeer
      rw [hturn, Option.isSome_none] at hparse
      have hnone : parseCommand cfg platform line = none :=
        Option.not_isSome_iff_eq_none.mp (by rw [← hparse]; decide)
      have hread : readCommand cfg platform line = none := by rw [readCommand, hnone]
      have hsome := h line (by rw [hkeep (by rw [hread]; simp)]; exact List.mem_cons_self)
      rw [← hparse] at hsome
      cases hsome
    | some t =>
      rcases replTurn_command hturn with ⟨hquit, rfl⟩ | ⟨hquit, event, app', rfl, hcommand⟩
      · have hnone : beforeQuit cfg platform (line :: texts) = [] :=
          List.takeWhile_cons_of_neg (by simpa using hquit)
        rw [hnone]
        refine ⟨fun _ => by simp, fun e he => ?_⟩
        cases he
        exact ⟨rfl, fun _ => ⟨line, List.mem_cons_self, hquit⟩, fun _ => rfl⟩
      · rw [hkeep hquit]
        have hsession' : app'.InSession cfg := (replTurn_sent (Sent.start hsession) hturn).session
        obtain ⟨hisSome, hended⟩ := ih hsession'
        refine ⟨fun hpeer => ?_, fun e he => ?_⟩
        · have hparse := replTurn_isSome platform line hsession hpeer
          rw [hturn, Option.isSome_some] at hparse
          rw [List.forall_mem_cons, ← hisSome hpeer]
          simp only [Option.isSome_map, ← hparse, true_and]
        · obtain ⟨e', he', rfl⟩ := Option.map_eq_some_iff.mp he
          obtain ⟨houtputs, hreason⟩ := hended e' he'
          refine ⟨?_, ?_⟩
          · rw [Ended.after, List.map_append, List.map_singleton, hcommand, houtputs]
            rfl
          · rw [Ended.after_reason, hreason]
            simp only [List.mem_cons, exists_eq_or_imp, hquit, false_or]

end Wire

/-- **What goes over the wire.**  Whatever the peer does, the requests of a script and of interactive
mode are those of the get and set commands that were executed and are within the limits, one for
each and in the same order; the reference decoder reads each back as the command, with the settings
that were configured and the header type that the last header command before it chose.  Behind the
run the client is ready for the next command. -/
theorem requests_on_wire {cfg : Config} (platform : Platform) (transport : Transport)
    {app : ClientApp} (hready : app.Ready cfg)
    (hheader : HeaderAccepted app.config.networkSettings.headerType) :
    (∀ script rc r, scriptRun cfg platform transport (some script) app = some (rc, some r) →
      Sent cfg app (r.ended.outputs.map (·.command)) r.ended.state) ∧
    ∀ input rc e, replRun cfg platform transport input app = some (rc, e) →
      Sent cfg app (e.outputs.filterMap ReplEvent.command) e.state := by
  have hstart : Sent cfg app [] app := Sent.start ⟨hready, hheader⟩
  constructor
  · intro script rc r h
    exact @run_history _ _ _ _ _
      (fun (executed : List Execution) app' => Sent cfg app (executed.map (·.command)) app')
      (fun _ _ _ _ hs hturn => by
        rw [List.map_append]
        exact runText_sent hs hturn) _ _ [] hstart _ (scriptRun_run h).2
  · intro input rc e h
    exact @run_history _ _ _ _ _
      (fun events app' => Sent cfg app (events.filterMap ReplEvent.command) app')
      (fun _ _ _ _ hs hturn => by
        rw [List.filterMap_append]
        exact replTurn_sent hs hturn) _ _ [] hstart _ (replRun_run h).2

/-- Both commands are sent, although no answer arrives. -/
theorem unansweredScript_on_wire : ∃ e,
    replRun .smallest lp64 silentPeer unansweredScript.text startedApp = some (0, e) ∧
      Sent .smallest startedApp (e.outputs.filterMap ReplEvent.command) e.state ∧
      e.state.wire.length = 2 := by
  have hrepl : (run (replTurn .smallest lp64 silentPeer) (replTexts unansweredScript.text)
      startedApp).map (·.state.wire.length) = some 2 := by
    rw [texts_unansweredScript.2]
    decide +kernel
  obtain ⟨e, he, hlength⟩ := Option.map_eq_some_iff.mp hrepl
  have hrepl : replRun .smallest lp64 silentPeer unansweredScript.text startedApp =
      some (0, e) := by
    rw [replRun_texts, he]
    rfl
  exact ⟨e, hrepl, (requests_on_wire lp64 silentPeer startedApp_ready (Or.inr rfl)).2 _ _ _ hrepl,
    hlength⟩

/-- **Interactive mode executes every text.**  Whatever bytes arrive from the peer, in whatever
pieces, and wherever receiving fails: every text before the first quit is taken once and in order,
and nothing but a quit ends the run before the end of the input.  The run has a result exactly if
the parser has one for all these texts. -/
theorem repl_executes_every_text {cfg : Config} (platform : Platform) {transport : Transport}
    (hpeer : transport.Possible) {app : ClientApp} (hready : app.Ready cfg)
    (hheader : HeaderAccepted app.config.networkSettings.headerType) (input : List Char) :
    ((replRun cfg platform transport input app).isSome = true ↔
      ∀ line ∈ beforeQuit cfg platform (replTexts input),
        (parseCommand cfg platform line).isSome = true) ∧
    ∀ rc e, replRun cfg platform transport input app = some (rc, e) →
      rc = 0 ∧
      e.outputs.map ReplEvent.command =
        (beforeQuit cfg platform (replTexts input)).map (readCommand cfg platform) ∧
      (e.reason = some .quit ↔ ∃ line ∈ replTexts input,
        (readCommand cfg platform line).map (·.type) = some .quit) := by
  obtain ⟨hdefined, hended⟩ := @replTexts_run cfg platform transport app (replTexts input)
    ⟨hready, hheader⟩
  refine ⟨by rw [replRun_texts, Option.isSome_map]; exact hdefined hpeer, fun rc e h => ?_⟩
  obtain ⟨hrc, he⟩ := replRun_run h
  exact ⟨hrc, hended _ he⟩

theorem silentPeer_possible : silentPeer.Possible := fun _ => trivial

/-- A syntax error and two commands without an answer. -/
theorem unansweredScript_executes_every_text : ∃ e,
    replRun .smallest lp64 silentPeer unansweredScript.text startedApp = some (0, e) ∧
      e.outputs.map ReplEvent.command =
        ["# bits".toList, "get M0".toList, "get M1".toList].map (readCommand .smallest lp64) ∧
      e.reason ≠ some .quit := by
  obtain ⟨hdefined, hended⟩ := repl_executes_every_text lp64 silentPeer_possible startedApp_ready
    (Or.inr rfl) unansweredScript.text
  rw [texts_unansweredScript.2] at hdefined hended
  have hbefore : beforeQuit .smallest lp64 ["# bits".toList, "get M0".toList, "get M1".toList] =
      ["# bits".toList, "get M0".toList, "get M1".toList] := by decide +kernel
  rw [hbefore] at hdefined hended
  have hsome := hdefined.mpr (by
    intro line hmem
    simp only [List.mem_cons, List.not_mem_nil, or_false] at hmem
    rcases hmem with rfl | rfl | rfl <;> decide +kernel)
  obtain ⟨⟨rc, e⟩, he⟩ := Option.isSome_iff_exists.mp hsome
  obtain ⟨rfl, hcommands, hquit⟩ := hended _ _ he
  refine ⟨e, he, hcommands, fun hreason => ?_⟩
  obtain ⟨line, hmem, hline⟩ := hquit.mp hreason
  simp only [List.mem_cons, List.not_mem_nil, or_false] at hmem
  revert hline
  rcases hmem with rfl | rfl | rfl <;> decide +kernel

end Fx5
