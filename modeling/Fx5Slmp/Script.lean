import Fx5Slmp.Lib.StoppingRun
import Fx5Slmp.ClientConfig

/-!
# Script mode

`fx5_client_script_run` and what it calls in `fx5_client_repl.c` and `fx5_client_app.c`: the
script is read into a buffer of 512 characters, every text in the buffer that is no comment is
parsed as a command and executed, and the first failure ends the run.  Every print statement that is
executed is recorded on the console; the functions without `Printing` in their names are the same
functions without their output.

What the socket does after the requests that were given to it is a parameter (`Transport`); the
answers need not come from a PLC.  A request that cannot be sent is one for which `send` returns an
error: so it is on Windows, and on POSIX where SIGPIPE is ignored.  The client does not ask for that
(`fx5_socket_send_all` sends without `MSG_NOSIGNAL`); where the signal ends the process at such a
request, nothing that the model says of the time behind it applies.

* `executeCommandPrinting_quiet`, `executeReplCommandPrinting_quiet`, `runTextPrinting_quiet` — the
  functions without output; what was printed before decides nothing;
* `scriptLoopPrinting_pieces`, `scriptLoop_texts` — the loop takes the pieces of the script, and
  runs the texts that it finds in them.
-/

set_option autoImplicit false

namespace Fx5

open CText StoppingRun

/-! ## Executing -/

/-- What the socket does after the requests that were given to it. -/
abbrev Transport := List (List Byte) → SocketIo

/-- `fx5_client_app_t`; of the socket, the requests that were given to it. -/
structure ClientApp where
  config : ClientConfig
  ctx : Context
  sock : List (List Byte)

/-- The client, and what it has printed so far. -/
structure Console where
  app : ClientApp
  printed : List Printed

/-- More is printed. -/
def Console.print (console : Console) (more : List Printed) : Console :=
  { console with printed := console.printed ++ more }

/-- The client behind a command. -/
def ClientApp.exchanged (app : ClientApp) (r : Exchanged) : ClientApp :=
  match r.wire with
  | none => { app with ctx := r.ctx }
  | some (request, _) => { app with ctx := r.ctx, sock := app.sock ++ [request] }

/-- `fx5_client_app_execute_command`. -/
def executeCommandPrinting (cfg : Config) (transport : Transport) (console : Console)
    (cmd : ClientCommand) : Option (CommandEnd × Console) := do
  let app := console.app
  let r ← exchangeCommand cfg (fun request => transport (app.sock ++ [request]))
    app.config.traceEnabled app.config.networkSettings app.ctx console.printed cmd
  some (r.ending, ⟨app.exchanged r, r.printed⟩)

/-- `fx5_client_app_execute_command` without its output. -/
def appExecuteCommand (cfg : Config) (transport : Transport) (app : ClientApp)
    (cmd : ClientCommand) : Option (CommandEnd × ClientApp) :=
  (executeCommandPrinting cfg transport ⟨app, []⟩ cmd).map fun r => (r.1, r.2.app)

/-- `fx5_client_app_execute_command` behind the request, without its output. -/
def appReceiveResponse (cfg : Config) (app : ClientApp) (cmd : ClientCommand) (io : SocketIo) :
    Option (CommandEnd × ClientApp) :=
  (receiveAnswer cfg app.config.traceEnabled app.ctx [] cmd io).map fun r =>
    (r.1, { app with ctx := r.2.1 })

/-! ## Commands -/

/-- A command that was executed; one that needs no PLC has no ending of its own. -/
structure Execution where
  command : ParsedCommand
  ending : Option CommandEnd
  deriving DecidableEq

/-- `fx5_client_execute_repl_command`: what it returns, and how the command ended. -/
def executeReplCommandPrinting (cfg : Config) (transport : Transport) (console : Console)
    (cmd : ParsedCommand) : Option (Bool × Option CommandEnd × Console) :=
  let app := console.app
  match cmd.type with
  | .help => some (true, none, console.print [.help])
  | .trace =>
    let config := { app.config with traceEnabled := cmd.traceEnabled }
    some (true, none,
      { console with app := { app with config := config } }.print [.trace config.traceEnabled])
  | .header =>
    let settings := { app.config.networkSettings with headerType := cmd.headerType }
    let config := { app.config with networkSettings := settings }
    some (true, none,
      { console with app := { app with config := config } }.print [.header settings.headerType])
  | .get | .set => do
    let (ending, console) ← executeCommandPrinting cfg transport console cmd.toClientCommand
    some (ending.succeeded, some ending, console)
  | _ => some (false, none, console.print [.unsupportedCommand])

/-- `fx5_client_execute_repl_command` without its output. -/
def executeReplCommand (cfg : Config) (transport : Transport) (app : ClientApp)
    (cmd : ParsedCommand) : Option (Bool × Option CommandEnd × ClientApp) :=
  (executeReplCommandPrinting cfg transport ⟨app, []⟩ cmd).map fun r => (r.1, r.2.1, r.2.2.app)

/-! ## The loop -/

/-- Why the loop of `fx5_client_script_run` breaks. -/
inductive ScriptStop where
  | syntaxError
  | quit
  | commandFailed
  deriving DecidableEq

/-- The text in the buffer, without the white space around it; empty lines and comments are
skipped. -/
def scriptText (lineBuffer : List Char) : Option (List Char) :=
  let line := skipSpaces (trimRight (cstr lineBuffer))
  if peek line = '\x00' || peek line = '#' then none else some line

/-- A text is parsed and executed, in the `lineNo`th turn. -/
def runTextPrinting (cfg : Config) (platform : Platform) (transport : Transport) (lineNo : Nat)
    (line : List Char) (console : Console) :
    Option (StoppingRun.Turn Execution ScriptStop Console) := do
  let (ok, cmd) ← parseCommand cfg platform line
  if !ok then some (.stop [] .syntaxError (console.print [.scriptSyntaxError lineNo]))
  else if cmd.type = .quit then some (.stop [] .quit console)
  else do
    let (done, ending, console) ← executeReplCommandPrinting cfg transport console cmd
    if !done then
      some (.stop [⟨cmd, ending⟩] .commandFailed (console.print [.scriptCommandFailed lineNo]))
    else some (.next [⟨cmd, ending⟩] console)

/-- A text is parsed and executed, without the output. -/
def runText (cfg : Config) (platform : Platform) (transport : Transport) (line : List Char)
    (app : ClientApp) : Option (StoppingRun.Turn Execution ScriptStop ClientApp) :=
  (runTextPrinting cfg platform transport 0 line ⟨app, []⟩).map (Turn.view id Console.app)

/-- A turn of the loop of `fx5_client_script_run`, the `lineNo`th one. -/
def scriptTurnPrinting (cfg : Config) (platform : Platform) (transport : Transport) (lineNo : Nat)
    (lineBuffer : List Char) (console : Console) :
    Option (StoppingRun.Turn Execution ScriptStop Console) :=
  turnOf scriptText (runTextPrinting cfg platform transport lineNo) lineBuffer console

/-- `sizeof(line_buffer)`. -/
def SCRIPT_LINE_SIZE : Nat := 512

theorem script_line_size : 2 ≤ SCRIPT_LINE_SIZE := by decide

/-- The loop of `fx5_client_script_run`, after `lineNo` turns. -/
def scriptLoopPrinting (cfg : Config) (platform : Platform) (transport : Transport) (lineNo : Nat)
    (text : List Char) (console : Console) : Option (Ended Execution ScriptStop Console) :=
  match _h : fgets SCRIPT_LINE_SIZE text with
  | none => some ⟨[], none, console⟩
  | some (lineBuffer, rest) =>
    match scriptTurnPrinting cfg platform transport (lineNo + 1) lineBuffer console with
    | none => none
    | some (.stop executed stop console) => some ⟨executed, some stop, console⟩
    | some (.next executed console) =>
      (scriptLoopPrinting cfg platform transport (lineNo + 1) rest console).map
        (Ended.after executed)
termination_by text.length
decreasing_by exact fgets_rest_lt script_line_size _h

/-- A script file: the bytes that `fgets` stores, one `Char` each, and whether the stream fails
behind them. -/
structure ScriptFile where
  text : List Char
  ferror : Bool

/-- The result for a script that was read up to `stop`. -/
def scriptRc (ferror : Bool) (stop : Option ScriptStop) : Nat :=
  match stop with
  | none => if ferror then 2 else 0
  | some .quit => 0
  | some .syntaxError => 1
  | some .commandFailed => 1

/-- `fx5_client_script_run`: what it returns, and how its run ended. -/
def scriptRunPrinting (cfg : Config) (platform : Platform) (transport : Transport)
    (path : List Char) (script : Option ScriptFile) (console : Console) :
    Option (Nat × Ended Execution ScriptStop Console) :=
  match script with
  | none => some (2, ⟨[], none, console.print [.scriptNotOpened path]⟩)
  | some script => do
    let r ← scriptLoopPrinting cfg platform transport 0 script.text console
    let failed := if script.ferror && r.reason = none then [.scriptNotRead path] else []
    some (scriptRc script.ferror r.reason, { r with state := r.state.print failed })

/-- How the loop of `fx5_client_script_run` ended, without its output. -/
structure ScriptRun where
  ended : Ended Execution ScriptStop ClientApp

/-- The loop of `fx5_client_script_run` without its output. -/
def scriptLoop (cfg : Config) (platform : Platform) (transport : Transport) (lineNo : Nat)
    (text : List Char) (app : ClientApp) : Option ScriptRun :=
  (scriptLoopPrinting cfg platform transport lineNo text ⟨app, []⟩).map fun r =>
    ⟨r.view id Console.app⟩

/-- `fx5_client_script_run` without its output; the run is there if the file was opened. -/
def scriptRun (cfg : Config) (platform : Platform) (transport : Transport)
    (script : Option ScriptFile) (app : ClientApp) : Option (Nat × Option ScriptRun) :=
  (scriptRunPrinting cfg platform transport [] script ⟨app, []⟩).map fun r =>
    (r.1, script.map fun _ => ⟨r.2.view id Console.app⟩)

/-! ## Without the output -/

section Erase

variable {cfg : Config} {platform : Platform} {transport : Transport}

/-- What was printed before decides nothing behind a request. -/
theorem appReceiveResponse_erase (app : ClientApp) (printed : List Printed) (cmd : ClientCommand)
    (io : SocketIo) :
    (receiveAnswer cfg app.config.traceEnabled app.ctx printed cmd io).map
        (fun r => (r.1, { app with ctx := r.2.1 })) = appReceiveResponse cfg app cmd io := by
  have hmap (printed : List Printed) :
      (receiveAnswer cfg app.config.traceEnabled app.ctx printed cmd io).map
          (fun r => (r.1, { app with ctx := r.2.1 })) =
        ((receiveAnswer cfg app.config.traceEnabled app.ctx printed cmd io).map
          fun r => (r.1, r.2.1, r.2.2.1)).map fun r => (r.1, { app with ctx := r.2.1 }) := by
    rw [Option.map_map]
    rfl
  rw [appReceiveResponse, hmap, hmap, receiveAnswer_erase, receiveAnswer_erase]

theorem appReceiveResponse_eq (app : ClientApp) (cmd : ClientCommand) (io : SocketIo) :
    appReceiveResponse cfg app cmd io = (do
      let (ending, ctx, rest) ← receiveEnd cfg app.ctx io.stream io.events
      match ending with
      | .answered status => do
        let report ← printResponse cfg cmd ctx
        let received := io.stream.take (io.stream.length - rest.length)
        some (.answered status received report, { app with ctx := ctx })
      | ending => some (.receiveFailed ending, { app with ctx := ctx })) := by
  rw [← receiveEndPrinting_erase app.config.traceEnabled [], appReceiveResponse, receiveAnswer]
  cases receiveEndPrinting cfg app.config.traceEnabled [] app.ctx io.stream io.events with
  | none => rfl
  | some received =>
    obtain ⟨printed, ending, ctx', rest⟩ := received
    cases ending with
    | answered status =>
      simp only [Option.map_some, Option.bind_eq_bind, Option.bind_some]
      cases printResponse cfg cmd ctx' <;> rfl
    | _ => rfl

/-- **A get or set command** without its output; what was printed before decides nothing. -/
theorem executeCommandPrinting_quiet (console : Console) (cmd : ClientCommand) :
    (executeCommandPrinting cfg transport console cmd).map (fun r => (r.1, r.2.app)) = (do
      let (status, ctx) ←
        applyCommandToContext cfg console.app.ctx cmd console.app.config.networkSettings
      if status ≠ .ok then some (.applyFailed status, { console.app with ctx := ctx })
      else do
        let requestBuf := List.replicate (FX5_MAX_REQUEST_SIZE cfg) 0x00#8
        let built ← buildRequest cfg ctx requestBuf (BitVec.ofNat 16 (FX5_MAX_REQUEST_SIZE cfg)) 0
        if built.status ≠ .ok then
          some (.buildFailed built.status, { console.app with ctx := built.context })
        else
          let request := built.outBuf.take built.actualSize
          let sock := console.app.sock ++ [request]
          let app := { console.app with ctx := built.context, sock := sock }
          let io := transport sock
          if !io.sent then some (.sendFailed, app)
          else appReceiveResponse cfg app cmd io) := by
  rw [executeCommandPrinting, exchangeCommand]
  simp only
  cases applyCommandToContext cfg console.app.ctx cmd console.app.config.networkSettings with
  | none => rfl
  | some applied =>
    obtain ⟨status, ctx⟩ := applied
    simp only [Option.bind_eq_bind, Option.bind_some]
    split
    · rfl
    cases buildRequest cfg ctx (List.replicate (FX5_MAX_REQUEST_SIZE cfg) 0x00#8)
        (BitVec.ofNat 16 (FX5_MAX_REQUEST_SIZE cfg)) 0 with
    | none => rfl
    | some built =>
      simp only [Option.bind_some]
      split
      · rfl
      split
      · rfl
      rw [← appReceiveResponse_erase _ (if console.app.config.traceEnabled then
        console.printed ++ [.tx (built.outBuf.take built.actualSize)] else console.printed)]
      cases receiveAnswer cfg console.app.config.traceEnabled built.context _ cmd _ <;> rfl

theorem executeCommandPrinting_erase (console : Console) (cmd : ClientCommand) :
    (executeCommandPrinting cfg transport console cmd).map (fun r => (r.1, r.2.app)) =
      appExecuteCommand cfg transport console.app cmd := by
  rw [appExecuteCommand, executeCommandPrinting_quiet, executeCommandPrinting_quiet]

/-- **A command** without its output. -/
theorem executeReplCommandPrinting_quiet (console : Console) (cmd : ParsedCommand) :
    (executeReplCommandPrinting cfg transport console cmd).map
        (fun r => (r.1, r.2.1, r.2.2.app)) =
      match cmd.type with
      | .help => some (true, none, console.app)
      | .trace =>
        let config := { console.app.config with traceEnabled := cmd.traceEnabled }
        some (true, none, { console.app with config := config })
      | .header =>
        let settings := { console.app.config.networkSettings with headerType := cmd.headerType }
        let config := { console.app.config with networkSettings := settings }
        some (true, none, { console.app with config := config })
      | .get | .set => do
        let (ending, app) ← appExecuteCommand cfg transport console.app cmd.toClientCommand
        some (ending.succeeded, some ending, app)
      | _ => some (false, none, console.app) := by
  have hplc : ((executeCommandPrinting cfg transport console cmd.toClientCommand).bind
        fun r => some (r.1.succeeded, some r.1, r.2)).map (fun r => (r.1, r.2.1, r.2.2.app)) =
      (appExecuteCommand cfg transport console.app cmd.toClientCommand).bind
        fun r => some (r.1.succeeded, some r.1, r.2) := by
    rw [← executeCommandPrinting_erase]
    cases executeCommandPrinting cfg transport console cmd.toClientCommand <;> rfl
  rw [executeReplCommandPrinting]
  cases cmd.type with
  | get => exact hplc
  | set => exact hplc
  | _ => rfl

theorem executeReplCommandPrinting_erase (console : Console) (cmd : ParsedCommand) :
    (executeReplCommandPrinting cfg transport console cmd).map
        (fun r => (r.1, r.2.1, r.2.2.app)) =
      executeReplCommand cfg transport console.app cmd := by
  rw [executeReplCommand, executeReplCommandPrinting_quiet, executeReplCommandPrinting_quiet]

/-- **A text** without its output; the number of the turn decides nothing either. -/
theorem runTextPrinting_quiet (lineNo : Nat) (line : List Char) (console : Console) :
    (runTextPrinting cfg platform transport lineNo line console).map (Turn.view id Console.app) =
      (do
        let (ok, cmd) ← parseCommand cfg platform line
        if !ok then some (.stop [] .syntaxError console.app)
        else if cmd.type = .quit then some (.stop [] .quit console.app)
        else do
          let (done, ending, app) ← executeReplCommand cfg transport console.app cmd
          if !done then some (.stop [⟨cmd, ending⟩] .commandFailed app)
          else some (.next [⟨cmd, ending⟩] app)) := by
  rw [runTextPrinting]
  cases parseCommand cfg platform line with
  | none => rfl
  | some parsed =>
    obtain ⟨ok, cmd⟩ := parsed
    cases ok with
    | false => rfl
    | true =>
      simp only [Option.bind_eq_bind, Option.bind_some, Bool.not_true, Bool.false_eq_true,
        if_false]
      split
      · rfl
      rw [← executeReplCommandPrinting_erase]
      cases executeReplCommandPrinting cfg transport console cmd with
      | none => rfl
      | some r =>
        obtain ⟨done, ending, console'⟩ := r
        cases done <;> rfl

theorem runTextPrinting_erase (lineNo : Nat) (line : List Char) (console : Console) :
    (runTextPrinting cfg platform transport lineNo line console).map (Turn.view id Console.app) =
      runText cfg platform transport line console.app := by
  rw [runText, runTextPrinting_quiet, runTextPrinting_quiet]

/-- A piece of a script, without the output. -/
theorem scriptTurnPrinting_erase (lineNo : Nat) (lineBuffer : List Char) (console : Console) :
    (scriptTurnPrinting cfg platform transport lineNo lineBuffer console).map
        (Turn.view id Console.app) =
      turnOf scriptText (runText cfg platform transport) lineBuffer console.app := by
  unfold scriptTurnPrinting turnOf
  cases scriptText lineBuffer with
  | none => rfl
  | some line => exact runTextPrinting_erase lineNo line console

end Erase

/-! ## The pieces of a script -/

section Pieces

variable {cfg : Config} {platform : Platform} {transport : Transport}

/-- The pieces of a text with the numbers of the turns in which they are in the buffer. -/
def numberedPieces (lineNo : Nat) (text : List Char) : List (Nat × List Char) :=
  ((pieces 510 text).zipIdx (lineNo + 1)).map fun p => (p.2, p.1)

/-- **The loop over a script** takes its pieces, with their numbers. -/
theorem scriptLoopPrinting_pieces (lineNo : Nat) (text : List Char) (console : Console) :
    scriptLoopPrinting cfg platform transport lineNo text console =
      run (fun piece => scriptTurnPrinting cfg platform transport piece.1 piece.2)
        (numberedPieces lineNo text) console := by
  induction hlen : text.length using Nat.strong_induction_on generalizing lineNo text console with
  | _ len ih =>
    rw [scriptLoopPrinting, numberedPieces]
    split
    · rename_i hend
      rw [pieces_of_fgets_none hend]
      rfl
    · rename_i lineBuffer rest hread
      have hshort := fgets_rest_lt script_line_size hread
      rw [pieces_fgets (show fgets (510 + 2) text = _ from hread), List.zipIdx_cons, List.map_cons,
        run]
      cases scriptTurnPrinting cfg platform transport (lineNo + 1) lineBuffer console with
      | none => rfl
      | some turn =>
        cases turn with
        | stop executed stop console' => rfl
        | next executed console' => simp only [ih _ (by omega) _ rest console' rfl, numberedPieces]

/-- **Numbered pieces**, without the output. -/
theorem scriptPieces_erase (ps : List (Nat × List Char)) (console : Console) :
    (run (fun piece => scriptTurnPrinting cfg platform transport piece.1 piece.2) ps console).map
        (Ended.view id Console.app) =
      run (runText cfg platform transport) (ps.filterMap fun piece => scriptText piece.2)
        console.app := by
  rw [← run_turnOf]
  exact @run_view _ _ _ _ _ _
    (fun piece : Nat × List Char => scriptTurnPrinting cfg platform transport piece.1 piece.2)
    (turnOf (fun piece : Nat × List Char => scriptText piece.2) (runText cfg platform transport)) id
    Console.app (fun _ => True) (fun _ _ _ _ _ _ => trivial)
    (fun piece console _ => scriptTurnPrinting_erase piece.1 piece.2 console) ps console trivial

/-- The commands are parsed and executed one after the other, up to the first quit, syntax error or
failed command. -/
def runTexts (cfg : Config) (platform : Platform) (transport : Transport) :
    List (List Char) → ClientApp → Option (Ended Execution ScriptStop ClientApp) :=
  run (runText cfg platform transport)

theorem numberedPieces_texts (lineNo : Nat) (text : List Char) :
    (numberedPieces lineNo text).filterMap (fun piece => scriptText piece.2) =
      (pieces 510 text).filterMap scriptText := by
  rw [numberedPieces, List.filterMap_map]
  have hpieces := List.zipIdx_map_fst (lineNo + 1) (pieces 510 text)
  rw [← hpieces, List.filterMap_map, hpieces]
  rfl

/-- The loop, without the output. -/
theorem scriptLoopPrinting_erase (lineNo : Nat) (text : List Char) (console : Console) :
    (scriptLoopPrinting cfg platform transport lineNo text console).map
        (Ended.view id Console.app) =
      runTexts cfg platform transport ((pieces 510 text).filterMap scriptText) console.app := by
  rw [scriptLoopPrinting_pieces, scriptPieces_erase, numberedPieces_texts, runTexts]

/-- **The loop runs the texts** that it finds in the pieces of the script. -/
theorem scriptLoop_texts (lineNo : Nat) (text : List Char) (app : ClientApp) :
    (scriptLoop cfg platform transport lineNo text app).map (·.ended) =
      runTexts cfg platform transport ((pieces 510 text).filterMap scriptText) app := by
  rw [← scriptLoopPrinting_erase lineNo text ⟨app, []⟩, scriptLoop, Option.map_map]
  rfl

/-- **A script** without its output is its loop. -/
theorem scriptRun_eq (script : ScriptFile) (app : ClientApp) :
    scriptRun cfg platform transport (some script) app =
      (scriptLoop cfg platform transport 0 script.text app).map fun r =>
        (scriptRc script.ferror r.ended.reason, some r) := by
  rw [scriptRun, scriptRunPrinting, scriptLoop, Option.map_map]
  cases scriptLoopPrinting cfg platform transport 0 script.text ⟨app, []⟩ <;> rfl

end Pieces

end Fx5
