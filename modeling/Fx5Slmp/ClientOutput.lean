import Fx5Slmp.Lib.LineLog
import Fx5Slmp.Replay
import Fx5Slmp.Repl

/-!
# What the client prints

`Printed.stdout` and `Printed.stderr` are the texts of the print statements.

* `scriptRunPrinting_erase`, `replRunPrinting_erase` — without the output, a run is that of its
  texts;
* `scriptTurnPrinting_cases`, `replTurnPrinting_cases` — what a turn of the loops can be;
* `executeCommandPrinting_output` — what a get or set command prints.
-/

set_option autoImplicit false

namespace Fx5

open CText LineLog StoppingRun

/-! ## Print statements -/

/-- `(int)st`. -/
def Status.code : Status → Nat
  | .ok => 0
  | .errNull => 1
  | .errTooSmall => 2
  | .errNeedMore => 3
  | .errInvalidAddress => 4
  | .errInvalidCount => 5
  | .errInvalidIndex => 6
  | .errUnsupported => 7
  | .errInternal => 8
  | .errResync => 9
  | .errHeaderMismatch => 10
  | .errNoContext => 11
  | .errNotAcquired => 12
  | .errState => 13
  | .responseError => 14

/-- `fx5_client_hexdump`. -/
def hexdump (linePrefix : List Char) (data : List Byte) : List Char :=
  linePrefix ++ (printHexBytes data ++ "\n".toList)

/-- The lines of `fx5_client_print_help`. -/
def helpLines : List (List Char) :=
  ["Available commands:".toList, "  help".toList, "  quit".toList, "  exit".toList,
    "  trace on".toList, "  trace off".toList, "  header 3e".toList, "  header 4e".toList,
    "  get D100".toList, "  get D100-110".toList, "  get M51-60".toList, "  set D100=55".toList,
    "  set D88-92=33,34,35,36,37".toList, "  set M51=true".toList, "  set M51-60=true".toList,
    "  set M51-56=true,false,true,false,true,true".toList, "".toList, "Supported devices:".toList,
    "  bit       : M, X, Y, L, F, S, B".toList, "  word      : D, W".toList,
    "  read-only : SM, SD, SB, SW".toList,
    "  addressing: X/Y octal, B/W/SB/SW hex, others decimal".toList]

/-- What a statement writes to the standard output. -/
def Printed.stdout : Printed → List Char
  | .tx data => hexdump "TX: ".toList data
  | .rx data => hexdump "RX: ".toList data
  | .response device line => lineText device line
  | .help => helpLines.flatMap (· ++ ['\n'])
  | .trace enabled => "trace: ".toList ++
      ((if enabled then "on".toList else "off".toList) ++ "\n".toList)
  | .header headerType => "header: ".toList ++
      ((if headerType = .h3E then "3E".toList else "4E".toList) ++ "\n".toList)
  | .unsupportedCommand => "Unsupported command.\n".toList
  | .greeting => "Interactive mode.\n".toList ++
      "Type 'help' for commands, 'quit' to exit.\n".toList
  | .prompt => "fx5> ".toList
  | .inputEnd => "\n".toList
  | .syntaxError => "Syntax error.\n".toList
  | _ => []

/-- A message with the number of a status. -/
def statusMessage (message : List Char) (status : Status) : List Char :=
  message ++ (" (".toList ++ (printNumeral 10 status.code ++ ")\n".toList))

/-- A message with the number of a line. -/
def lineMessage (message : List Char) (lineNo : Nat) : List Char :=
  message ++ (" at line ".toList ++ (printNumeral 10 (u32 lineNo) ++ "\n".toList))

/-- What a statement writes to the standard error. -/
def Printed.stderr : Printed → List Char
  | .receiveFailed .timeout => "ERR: recv timeout\n".toList
  | .receiveFailed .closed => "ERR: connection closed\n".toList
  | .receiveFailed .error => "ERR: recv failed\n".toList
  | .receiveFailed (.feedFailed status) => statusMessage "ERR: feed response failed".toList status
  | .receiveFailed (.parseFailed status) => statusMessage "ERR: parse response failed".toList status
  | .applyFailed .errUnsupported => "ERR: unsupported command or device\n".toList
  | .applyFailed status => statusMessage "ERR: apply failed".toList status
  | .buildFailed status => statusMessage "ERR: build failed".toList status
  | .sendFailed => "ERR: send failed\n".toList
  | .scriptNotOpened path => "ERR: failed to open script: ".toList ++ (path ++ "\n".toList)
  | .scriptSyntaxError lineNo => lineMessage "ERR: script syntax error".toList lineNo
  | .scriptCommandFailed lineNo => lineMessage "ERR: script command failed".toList lineNo
  | .scriptNotRead path => "ERR: failed to read script: ".toList ++ (path ++ "\n".toList)
  | _ => []

/-- All of the standard output. -/
def Console.stdout (console : Console) : List Char := console.printed.flatMap Printed.stdout

/-- All of the standard error. -/
def Console.stderr (console : Console) : List Char := console.printed.flatMap Printed.stderr

/-! ## Runs -/

section Runs

variable {cfg : Config} {platform : Platform} {transport : Transport} {console : Console}

/-- **A script**, without the output. -/
theorem scriptRunPrinting_erase (path : List Char) (script : ScriptFile) :
    (scriptRunPrinting cfg platform transport path (some script) console).map
        (fun r => (r.1, r.2.view id Console.app)) =
      (run (runText cfg platform transport) (handedOver script.text) console.app).map
        fun ended => (scriptRc script.ferror ended.reason, ended) := by
  have hview := @scriptLoopPrinting_erase cfg platform transport 0 script.text console
  rw [handedOver, ← runTexts, ← hview, scriptRunPrinting, Option.map_map]
  cases scriptLoopPrinting cfg platform transport 0 script.text console <;> rfl

/-- **Interactive mode**, without the output. -/
theorem replRunPrinting_erase (input : List Char) :
    (replRunPrinting cfg platform transport input console).map
        (fun r => (r.1, r.2.view id Console.app)) =
      replRun cfg platform transport input console.app := by
  rw [replRunPrinting_texts, replRun_texts]

/-- **A piece of a script** is passed over, a syntax error, a quit, or one command. -/
theorem scriptTurnPrinting_cases {lineNo : Nat} {lineBuffer : List Char}
    {turn : StoppingRun.Turn Execution ScriptStop Console}
    (h : scriptTurnPrinting cfg platform transport lineNo lineBuffer console = some turn) :
    (scriptText lineBuffer = none ∧ turn = .next [] console) ∨
    ∃ line ok cmd, scriptText lineBuffer = some line ∧
      parseCommand cfg platform line = some (ok, cmd) ∧
      ((ok = false ∧ turn = .stop [] .syntaxError (console.print [.scriptSyntaxError lineNo])) ∨
        (ok = true ∧ cmd.type = .quit ∧ turn = .stop [] .quit console) ∨
        (ok = true ∧ cmd.type ≠ .quit ∧ ∃ done ending console',
          executeReplCommandPrinting cfg transport console cmd = some (done, ending, console') ∧
          ((done = true ∧ turn = .next [⟨cmd, ending⟩] console') ∨
            (done = false ∧ turn = .stop [⟨cmd, ending⟩] .commandFailed
              (console'.print [.scriptCommandFailed lineNo]))))) := by
  unfold scriptTurnPrinting turnOf at h
  cases htext : scriptText lineBuffer with
  | none =>
    rw [htext] at h
    cases h
    exact Or.inl ⟨rfl, rfl⟩
  | some line =>
    rw [htext] at h
    obtain ⟨ok, cmd, hcases⟩ := runTextPrinting_cases h
    exact Or.inr ⟨line, ok, cmd, rfl, hcases⟩

/-- **A piece of the standard input** is passed over, a syntax error, a quit, or one command. -/
theorem replTurnPrinting_cases {lineBuffer : List Char}
    {turn : StoppingRun.Turn ReplEvent ReplStop Console}
    (h : replTurnPrinting cfg platform transport lineBuffer console = some turn) :
    (replText lineBuffer = none ∧ turn = .next [] console) ∨
    ∃ line ok cmd, replText lineBuffer = some line ∧
      parseCommand cfg platform line = some (ok, cmd) ∧
      ((ok = false ∧ turn = .next [.syntaxError] (console.print [.syntaxError])) ∨
        (ok = true ∧ cmd.type = .quit ∧ turn = .stop [] .quit console) ∨
        (ok = true ∧ cmd.type ≠ .quit ∧ ∃ done ending console',
          executeReplCommandPrinting cfg transport console cmd = some (done, ending, console') ∧
          turn = .next [.executed ⟨cmd, ending⟩] console')) := by
  unfold replTurnPrinting turnOf at h
  cases htext : replText lineBuffer with
  | none =>
    rw [htext] at h
    cases h
    exact Or.inl ⟨rfl, rfl⟩
  | some line =>
    rw [htext] at h
    obtain ⟨ok, cmd, hcases⟩ := runReplTextPrinting_cases h
    exact Or.inr ⟨line, ok, cmd, rfl, hcases⟩

end Runs

/-! ## The output of a command -/

/-- What is printed for a request, with tracing. -/
def txLines (traceEnabled : Bool) (request : List Byte) : List Printed :=
  if traceEnabled then [.tx request] else []

/-- What is printed for the pieces that are received, with tracing. -/
def rxLines (traceEnabled : Bool) (received : List (List Byte)) : List Printed :=
  if traceEnabled then received.map .rx else []

/-- What is printed when receiving has ended. -/
def ReceiveEnd.printed : ReceiveEnd → List Printed
  | .answered _ => []
  | reason => [.receiveFailed reason]

/-- What a command prints that ends so, when it had this request and these pieces were received. -/
def CommandEnd.printed (traceEnabled : Bool) (device : Device) (request : List Byte)
    (received : List (List Byte)) : CommandEnd → List Printed
  | .applyFailed status => [.applyFailed status]
  | .buildFailed status => [.buildFailed status]
  | .sendFailed => txLines traceEnabled request ++ [.sendFailed]
  | .receiveFailed reason =>
    txLines traceEnabled request ++ (rxLines traceEnabled received ++ reason.printed)
  | .answered _ _ report =>
    txLines traceEnabled request ++
      (rxLines traceEnabled received ++ report.map (.response device))

/-- What a command gives to the socket that ends so, when it had this request. -/
def CommandEnd.requests (request : List Byte) : CommandEnd → List (List Byte)
  | .applyFailed _ | .buildFailed _ => []
  | _ => [request]

/-- How a get or set command came to its output: `received` are pieces of what arrived behind its
request, and all that an answer was found in. -/
structure OutputOf (transport : Transport) (console : Console) (cmd : ClientCommand)
    (ending : CommandEnd) (console' : Console) (request : List Byte)
    (received : List (List Byte)) : Prop where
  config : console'.app.config = console.app.config
  sock : console'.app.sock = console.app.sock ++ ending.requests request
  printed : console'.printed = console.printed ++
    ending.printed console.app.config.traceEnabled cmd.device request received
  arrived : received.flatten <+: (transport (console.app.sock ++ [request])).stream
  answered : ∀ status bytes report, ending = .answered status bytes report →
    bytes = received.flatten

section Output

variable {cfg : Config} {transport : Transport} {console console' : Console}

/-- **The receive loop** prints the pieces that it takes, and why it failed. -/
theorem receiveEndPrinting_output {traceEnabled : Bool} {printed printed' : List Printed}
    {ctx ctx' : Context} {stream rest : List Byte} {events : List NetEvent} {ending : ReceiveEnd}
    (h : receiveEndPrinting cfg traceEnabled printed ctx stream events =
      some (printed', ending, ctx', rest)) :
    ∃ received : List (List Byte), stream = received.flatten ++ rest ∧
      printed' = printed ++ (rxLines traceEnabled received ++ ending.printed) := by
  induction events generalizing printed ctx stream with
  | nil => cases h
  | cons event events ih =>
    cases event with
    | timeout | closed | error =>
      cases h
      refine ⟨[], rfl, ?_⟩
      unfold rxLines
      split <;> rfl
    | deliver size =>
      rw [receiveEndPrinting] at h
      split at h
      · cases h
      obtain ⟨⟨status, ctx₁⟩, _, h⟩ := Option.bind_eq_some_iff.mp h
      have hstream := (List.take_append_drop size stream).symm
      -- the piece comes in front of what the loop prints afterwards
      have hpiece (later : List (List Byte)) (last : List Printed) :
          (if traceEnabled then printed ++ [.rx (stream.take size)] else printed) ++
              (rxLines traceEnabled later ++ last) =
            printed ++ (rxLines traceEnabled (stream.take size :: later) ++ last) := by
        cases traceEnabled with
        | false => rfl
        | true => simp [rxLines]
      have hnone (last : List Printed) := hpiece [] last
      have hone : stream = [stream.take size].flatten ++ stream.drop size := by
        rw [List.flatten_singleton]
        exact hstream
      simp only at h
      split at h
      · cases h
        exact ⟨[stream.take size], hone, by
          rw [← hnone]
          unfold rxLines
          split <;> rfl⟩
      obtain ⟨⟨status', ctx₂⟩, _, h⟩ := Option.bind_eq_some_iff.mp h
      cases status' with
      | errNeedMore =>
        obtain ⟨received, hrest, hprinted⟩ := ih h
        refine ⟨stream.take size :: received, ?_, ?_⟩
        · rw [List.flatten_cons, List.append_assoc, ← hrest]
          exact hstream
        · rw [hprinted, hpiece]
      | _ =>
        cases h
        exact ⟨[stream.take size], hone, by
          rw [← hnone]
          unfold rxLines
          split <;> simp [ReceiveEnd.printed]⟩

/-- What is printed behind a request. -/
theorem receiveAnswer_output {traceEnabled : Bool} {ctx ctx' : Context}
    {printed printed' : List Printed} {cmd : ClientCommand} {io : SocketIo} {ending : CommandEnd}
    {rest : List Byte}
    (h : receiveAnswer cfg traceEnabled ctx printed cmd io = some (ending, ctx', rest, printed')) :
    ∃ received : List (List Byte), received.flatten <+: io.stream ∧
      (∀ status bytes report, ending = .answered status bytes report →
        bytes = received.flatten) ∧
      ((∃ reason, ending = .receiveFailed reason ∧
          printed' = printed ++ (rxLines traceEnabled received ++ reason.printed)) ∨
        ∃ status bytes report, ending = .answered status bytes report ∧
          printed' = printed ++
            (rxLines traceEnabled received ++ report.map (.response cmd.device))) := by
  obtain ⟨⟨printed₁, ended, ctx₁, rest₁⟩, hreceive, h⟩ := Option.bind_eq_some_iff.mp h
  obtain ⟨received, hstream, hprinted⟩ := receiveEndPrinting_output hreceive
  have hprefix : received.flatten <+: io.stream := ⟨rest₁, hstream.symm⟩
  cases ended with
  | answered status =>
    obtain ⟨report, hreport, h⟩ := Option.bind_eq_some_iff.mp h
    cases h
    refine ⟨received, hprefix, ?_, Or.inr ⟨_, _, _, rfl, ?_⟩⟩
    · rintro _ _ _ ⟨⟩
      rw [hstream, List.length_append, Nat.add_sub_cancel, List.take_left]
    · rw [hprinted, ReceiveEnd.printed, List.append_nil, List.append_assoc]
  | _ =>
    cases h
    exact ⟨received, hprefix, nofun, Or.inl ⟨_, rfl, hprinted⟩⟩

/-- **A get or set command** prints its request, the pieces that are received for it, and its
results or why it failed. -/
theorem executeCommandPrinting_output {cmd : ClientCommand} {ending : CommandEnd}
    (h : executeCommandPrinting cfg transport console cmd = some (ending, console')) :
    ∃ request received, OutputOf transport console cmd ending console' request received := by
  obtain ⟨r, hexchange, h⟩ := Option.bind_eq_some_iff.mp h
  obtain ⟨⟨status, ctx⟩, _, hexchange⟩ := Option.bind_eq_some_iff.mp hexchange
  simp only at hexchange
  split at hexchange
  · cases hexchange
    cases h
    exact ⟨[], [], rfl, (List.append_nil _).symm, rfl, List.nil_prefix, nofun⟩
  obtain ⟨built, _, hexchange⟩ := Option.bind_eq_some_iff.mp hexchange
  split at hexchange
  · cases hexchange
    cases h
    exact ⟨[], [], rfl, (List.append_nil _).symm, rfl, List.nil_prefix, nofun⟩
  obtain ⟨request, hrequest⟩ : ∃ request, request = built.outBuf.take built.actualSize :=
    ⟨_, rfl⟩
  rw [← hrequest] at hexchange
  have htx : (if console.app.config.traceEnabled then console.printed ++ [.tx request]
      else console.printed) = console.printed ++ txLines console.app.config.traceEnabled request := by
    unfold txLines
    split
    · rfl
    · exact (List.append_nil _).symm
  rw [htx] at hexchange
  split at hexchange
  · cases hexchange
    cases h
    exact ⟨request, [], rfl, rfl, List.append_assoc _ _ _, List.nil_prefix, nofun⟩
  · obtain ⟨⟨ended, ctx', rest, printed⟩, hanswer, hexchange⟩ :=
      Option.bind_eq_some_iff.mp hexchange
    cases hexchange
    cases h
    obtain ⟨received, harrived, hanswered, hprinted⟩ := receiveAnswer_output hanswer
    rcases hprinted with ⟨reason, rfl, hprinted⟩ | ⟨status, bytes, report, rfl, hprinted⟩
    · exact ⟨request, received, rfl, rfl, hprinted.trans (List.append_assoc _ _ _), harrived,
        nofun⟩
    · exact ⟨request, received, rfl, rfl, hprinted.trans (List.append_assoc _ _ _), harrived,
        hanswered⟩

end Output

end Fx5
