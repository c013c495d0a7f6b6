import Fx5Slmp.Transcript

/-!
# The standard error

What the client writes to the standard error: a message for each get or set command that failed, and
in script mode a message with the number of the line at which the run stopped.  The number counts the
pieces that were read; it is that of the line when every line fits into the buffer with its line break.

* `executeReplCommandPrinting_stderr` — a command that fails writes its message, another nothing;
* `scriptStop_located` — the turn that stops a script, with its number;
* `diagnostics_locate_failures` — the standard error of a run is the messages of its failures, and
  a script that stopped early names the line.
-/

set_option autoImplicit false

namespace Fx5

open CText LineLog StoppingRun

/-! ## Messages -/

/-- What is written to the standard error for a command that ends so. -/
def CommandEnd.message : CommandEnd → List Char
  | .applyFailed status => (Printed.applyFailed status).stderr
  | .buildFailed status => (Printed.buildFailed status).stderr
  | .sendFailed => Printed.sendFailed.stderr
  | .receiveFailed reason => (Printed.receiveFailed reason).stderr
  | .answered _ _ _ => []

/-- What a command writes to the standard error. -/
def Execution.message (e : Execution) : List Char := (e.ending.map CommandEnd.message).getD []

/-- What is written when a script stops at a line, behind the commands of the line. -/
def ScriptStop.message (lineNo : Nat) (last : List Execution) : ScriptStop → List Char
  | .quit => []
  | .syntaxError => (Printed.scriptSyntaxError lineNo).stderr
  | .commandFailed =>
    last.flatMap Execution.message ++ (Printed.scriptCommandFailed lineNo).stderr

section Messages

variable {cfg : Config} {platform : Platform} {transport : Transport}
  {console console' : Console} {cmd : ParsedCommand}

theorem Console.stderr_append {more : List Printed}
    (h : console'.printed = console.printed ++ more) :
    console'.stderr = console.stderr ++ more.flatMap Printed.stderr := by
  rw [Console.stderr, h, List.flatMap_append]
  rfl

theorem Console.stderr_print (console : Console) (more : List Printed) :
    (console.print more).stderr = console.stderr ++ more.flatMap Printed.stderr :=
  Console.stderr_append rfl

/-- Nothing is added by what goes to the standard output. -/
theorem Console.stderr_print_quiet {more : List Printed} (h : more.flatMap Printed.stderr = []) :
    (console.print more).stderr = console.stderr := by
  rw [Console.stderr_print, h, List.append_nil]

/-- Of what a command prints, the messages go to the standard error. -/
theorem stderr_of_printed (ending : CommandEnd) (traceEnabled : Bool) (device : Device)
    (request : List Byte) (received : List (List Byte)) :
    (ending.printed traceEnabled device request received).flatMap Printed.stderr =
      ending.message := by
  have htx : (txLines traceEnabled request).flatMap Printed.stderr = [] := by
    unfold txLines
    split <;> rfl
  have hrx : (rxLines traceEnabled received).flatMap Printed.stderr = [] := by
    unfold rxLines
    split
    · refine List.flatMap_eq_nil_iff.mpr fun p hp => ?_
      obtain ⟨data, _, rfl⟩ := List.mem_map.mp hp
      rfl
    · rfl
  cases ending with
  | applyFailed | buildFailed => exact List.flatMap_singleton _ _
  | sendFailed =>
    rw [CommandEnd.printed, List.flatMap_append, htx, List.flatMap_singleton]
    rfl
  | receiveFailed reason =>
    rw [CommandEnd.printed, List.flatMap_append, List.flatMap_append, htx, hrx]
    cases reason with
    | answered status => rfl
    | _ => exact List.flatMap_singleton _ _
  | answered status bytes report =>
    rw [CommandEnd.printed, List.flatMap_append, List.flatMap_append, htx, hrx]
    refine List.flatMap_eq_nil_iff.mpr fun p hp => ?_
    obtain ⟨line, _, rfl⟩ := List.mem_map.mp hp
    rfl

/-- **A command** writes its message. -/
theorem executeReplCommandPrinting_stderr {done : Bool} {ending : Option CommandEnd}
    (h : executeReplCommandPrinting cfg transport console cmd = some (done, ending, console')) :
    console'.stderr = console.stderr ++ (⟨cmd, ending⟩ : Execution).message := by
  rcases executeReplCommandPrinting_cases h with
    ⟨_, ended, rfl, hplc, _⟩ | ⟨rfl, _, _, p, hprinted, _, hstderr⟩
  · obtain ⟨request, received, houtput⟩ := executeCommandPrinting_output hplc
    rw [Console.stderr_append houtput.printed, stderr_of_printed]
    rfl
  · rw [Console.stderr_append hprinted, List.flatMap_singleton, hstderr]
    rfl

/-- A command that is done writes no message. -/
theorem message_of_done {ending : Option CommandEnd}
    (h : executeReplCommandPrinting cfg transport console cmd = some (true, ending, console')) :
    (⟨cmd, ending⟩ : Execution).message = [] := by
  rcases executeReplCommandPrinting_cases h with ⟨_, ended, rfl, _, hsucceeded⟩ | ⟨rfl, _⟩
  · cases ended with
    | answered status bytes report => rfl
    | _ => cases hsucceeded
  · rfl

/-- **A turn of a script that goes on** writes nothing to the standard error. -/
theorem scriptTurnPrinting_next_stderr {lineNo : Nat} {lineBuffer : List Char}
    {executed : List Execution}
    (h : scriptTurnPrinting cfg platform transport lineNo lineBuffer console =
      some (.next executed console')) : console'.stderr = console.stderr := by
  rcases scriptTurnPrinting_cases h with ⟨_, hturn⟩ |
    ⟨line, ok, cmd, _, _, ⟨_, hturn⟩ | ⟨_, _, hturn⟩ |
      ⟨_, _, done, ending, console₂, hexecute, ⟨rfl, hturn⟩ | ⟨_, hturn⟩⟩⟩
  · cases hturn
    rfl
  · cases hturn
  · cases hturn
  · cases hturn
    rw [executeReplCommandPrinting_stderr hexecute, message_of_done hexecute, List.append_nil]
  · cases hturn

/-- **The turn that stops a script** writes the message for it. -/
theorem scriptTurnPrinting_stop_stderr {lineNo : Nat} {lineBuffer : List Char}
    {last : List Execution} {reason : ScriptStop}
    (h : scriptTurnPrinting cfg platform transport lineNo lineBuffer console =
      some (.stop last reason console')) :
    (∃ line, scriptText lineBuffer = some line) ∧
      console'.stderr = console.stderr ++ reason.message lineNo last := by
  rcases scriptTurnPrinting_cases h with ⟨_, hturn⟩ |
    ⟨line, ok, cmd, hline, _, ⟨_, hturn⟩ | ⟨_, _, hturn⟩ |
      ⟨_, _, done, ending, console₂, hexecute, ⟨_, hturn⟩ | ⟨_, hturn⟩⟩⟩
  · cases hturn
  · cases hturn
    refine ⟨⟨line, hline⟩, ?_⟩
    rw [Console.stderr_print, List.flatMap_singleton]
    rfl
  · cases hturn
    exact ⟨⟨line, hline⟩, (List.append_nil _).symm⟩
  · cases hturn
  · cases hturn
    refine ⟨⟨line, hline⟩, ?_⟩
    rw [Console.stderr_print, executeReplCommandPrinting_stderr hexecute, List.flatMap_singleton,
      List.append_assoc, ScriptStop.message, List.flatMap_singleton]

/-- **A turn of interactive mode** writes the messages of its commands. -/
theorem promptedTurn_stderr {lineBuffer : List Char}
    {turn : StoppingRun.Turn ReplEvent ReplStop Console}
    (h : promptedTurn cfg platform transport lineBuffer console = some turn) :
    turn.state.stderr = console.stderr ++
      (turn.outputs.filterMap ReplEvent.execution).flatMap Execution.message := by
  have hprompt : (console.print [.prompt]).stderr = console.stderr :=
    Console.stderr_print_quiet rfl
  rcases replTurnPrinting_cases h with ⟨_, rfl⟩ |
    ⟨line, ok, cmd, _, _, ⟨_, rfl⟩ | ⟨_, _, rfl⟩ |
      ⟨_, _, done, ending, console₂, hexecute, rfl⟩⟩
  · exact hprompt.trans (List.append_nil _).symm
  · refine Eq.trans ?_ (List.append_nil _).symm
    rw [← hprompt]
    exact Console.stderr_print_quiet rfl
  · exact hprompt.trans (List.append_nil _).symm
  · refine (executeReplCommandPrinting_stderr hexecute).trans ?_
    rw [hprompt]
    exact congrArg _ (List.append_nil _).symm

end Messages

/-! ## Where a script stops -/

/-- The texts of a script in the order of their numbers, `none` where there is nothing to run: the
one behind the first `k` stops the run, and those are executed before it. -/
structure StopsBehind (cfg : Config) (platform : Platform) (transport : Transport)
    (texts : List (Option (List Char))) (start : ClientApp) (k : Nat)
    (r : Ended Execution ScriptStop ClientApp) (reason : ScriptStop) (line : List Char)
    (last : List Execution) : Prop where
  text : texts[k]? = some (some line)
  stopped : ∃ executed app,
    run (runText cfg platform transport) ((texts.take k).filterMap id) start =
      some ⟨executed, none, app⟩ ∧
    runText cfg platform transport line app = some (.stop last reason r.state) ∧
    r.outputs = executed ++ last

section Stops

variable {cfg : Config} {platform : Platform} {transport : Transport} {start : ClientApp}

/-- Texts behind the one that stops a run do not matter. -/
theorem StopsBehind.mono {texts texts' : List (Option (List Char))} {k : Nat}
    {r : Ended Execution ScriptStop ClientApp} {reason : ScriptStop} {line : List Char}
    {last : List Execution} (h : StopsBehind cfg platform transport texts start k r reason line last)
    (hmore : texts <+: texts') :
    StopsBehind cfg platform transport texts' start k r reason line last := by
  obtain ⟨more, rfl⟩ := hmore
  obtain ⟨hlt, _⟩ := List.getElem?_eq_some_iff.mp h.text
  refine ⟨by rw [List.getElem?_append_left hlt]; exact h.text, ?_⟩
  rw [List.take_append_of_le_length (by omega)]
  exact h.stopped

/-- The piece at a place among the numbered ones. -/
theorem numberedPieces_split {text : List Char} {before after : List (Nat × List Char)}
    {piece : Nat × List Char} (h : numberedPieces 0 text = before ++ piece :: after) :
    piece.1 = before.length + 1 ∧
      pieces 510 text = before.map (·.2) ++ piece.2 :: after.map (·.2) := by
  have hpieces : (numberedPieces 0 text).map (·.2) = pieces 510 text := by
    rw [numberedPieces, List.map_map]
    exact List.zipIdx_map_fst _ _
  have hplace : (numberedPieces 0 text)[before.length]? = some piece := by
    rw [h, List.getElem?_append_right (Nat.le_refl _), Nat.sub_self]
    rfl
  refine ⟨?_, by rw [← hpieces, h, List.map_append, List.map_cons]⟩
  rw [numberedPieces, List.getElem?_map, List.getElem?_zipIdx, Option.map_map,
    Option.map_eq_some_iff] at hplace
  obtain ⟨content, _, rfl⟩ := hplace
  exact Nat.add_comm _ _

/-- Nothing is written to the standard error as long as a script goes on. -/
theorem scriptRun_quiet {ps : List (Nat × List Char)} {console : Console}
    {r : Ended Execution ScriptStop Console}
    (h : run (fun piece => scriptTurnPrinting cfg platform transport piece.1 piece.2) ps console =
      some r) (hreason : r.reason = none) : r.state.stderr = console.stderr := by
  have hend := @run_ends _ _ _ _ _ (fun _ now => now.stderr = console.stderr)
    (fun _ _ _ => True) (fun _ _ _ _ _ hsame hturn =>
      (scriptTurnPrinting_next_stderr hturn).trans hsame) (fun _ _ _ _ _ _ _ _ => trivial) _ _ []
    rfl _ h
  rcases hend with ⟨_, hsame⟩ | ⟨reason, hstop, _⟩
  · exact hsame
  · rw [hreason] at hstop
    cases hstop

/-- **The turn that stops a script**, with the number in its message. -/
theorem scriptStop_located {text : List Char} {console : Console}
    {r : Ended Execution ScriptStop Console} {reason : ScriptStop}
    (h : scriptLoopPrinting cfg platform transport 0 text console = some r)
    (hreason : r.reason = some reason) :
    ∃ k line last,
      StopsBehind cfg platform transport ((pieces 510 text).map scriptText) console.app k
        (r.view id Console.app) reason line last ∧
      r.state.stderr = console.stderr ++ reason.message (k + 1) last := by
  rw [scriptLoopPrinting_pieces] at h
  obtain ⟨before, piece, after, executed, console', last, hpieces, hbefore, hstop, houtputs⟩ :=
    run_stops_at h hreason
  obtain ⟨hnumber, htexts⟩ := numberedPieces_split hpieces
  obtain ⟨⟨line, hline⟩, hstderr⟩ := scriptTurnPrinting_stop_stderr hstop
  have hearlier := @scriptPieces_erase cfg platform transport before console
  rw [hbefore, Option.map_some, Ended.view, List.map_id] at hearlier
  have hturn := @scriptTurnPrinting_erase cfg platform transport piece.1 piece.2 console'
  rw [hstop, turnOf, hline, Option.map_some, Turn.view, List.map_id] at hturn
  refine ⟨before.length, line, last, ⟨?_, executed, console'.app, ?_, ?_, ?_⟩, ?_⟩
  · rw [htexts, List.map_append, List.getElem?_append_right (by simp)]
    simp [hline]
  · rw [htexts, List.map_append, List.take_append_of_le_length (by simp),
      List.take_of_length_le (by simp), List.map_map, List.filterMap_map]
    exact hearlier.symm
  · exact hturn.symm
  · exact (List.map_id _).trans houtputs
  · rw [hstderr, hnumber, scriptRun_quiet hbefore rfl]

end Stops

/-! ## Whole runs -/

/-- The standard error of a script, and what it returns: nothing was written if and only if it
returns 0.  A script that came to its end may have failed to be read; one that stopped before names
the piece at which it did, and the line if every line fits into the buffer with its line break. -/
structure ScriptDiagnosed (cfg : Config) (platform : Platform) (transport : Transport)
    (path : List Char) (script : ScriptFile) (start : ClientApp) (rc : Nat)
    (r : Ended Execution ScriptStop Console) : Prop where
  quiet : rc = 0 ↔ r.state.stderr = []
  atEnd : r.reason = none →
    r.state.stderr = if script.ferror then (Printed.scriptNotRead path).stderr else []
  stopped : ∀ reason, r.reason = some reason → ∃ k line last,
    StopsBehind cfg platform transport ((pieces 510 script.text).map scriptText) start k
      (r.view id Console.app) reason line last ∧
    r.state.stderr = reason.message (k + 1) last ∧
    ((∀ line ∈ script.text.splitOn '\n', line.length ≤ 510) →
      StopsBehind cfg platform transport ((script.text.splitOn '\n').map scriptText) start k
        (r.view id Console.app) reason line last)

section Runs

variable {cfg : Config} {platform : Platform} {transport : Transport} {start : ClientApp}

/-- A message that begins with a text is not empty. -/
theorem stderr_ne_nil {before text after : List Char} (h : text ≠ []) :
    before ++ (text ++ after) ≠ [] :=
  List.append_ne_nil_of_right_ne_nil _ (List.append_ne_nil_of_left_ne_nil h _)

/-- A stop is without a message if and only if it is a quit. -/
theorem stopMessage_eq_nil (reason : ScriptStop) (lineNo : Nat) (last : List Execution) :
    reason.message lineNo last = [] ↔ reason = .quit := by
  have hsyntax : "ERR: script syntax error".toList ≠ [] := by decide
  have hfailed : "ERR: script command failed".toList ≠ [] := by decide
  cases reason with
  | quit => exact ⟨fun _ => rfl, fun _ => rfl⟩
  | syntaxError => exact ⟨fun h => absurd h (@stderr_ne_nil [] _ _ hsyntax), nofun⟩
  | commandFailed => exact ⟨fun h => absurd h (stderr_ne_nil hfailed), nofun⟩

/-- **A script** says where it stopped. -/
theorem script_diagnosed {path : List Char} {script : ScriptFile} {rc : Nat}
    {r : Ended Execution ScriptStop Console}
    (h : scriptRunPrinting cfg platform transport path (some script) ⟨start, []⟩ = some (rc, r)) :
    ScriptDiagnosed cfg platform transport path script start rc r := by
  obtain ⟨⟨executed, stop, console⟩, hloop, h⟩ := Option.bind_eq_some_iff.mp h
  cases h
  cases stop with
  | none =>
    have hquiet : console.stderr = [] := by
      rw [scriptLoopPrinting_pieces] at hloop
      exact scriptRun_quiet hloop rfl
    have hend : (console.print (if script.ferror then [.scriptNotRead path] else [])).stderr =
        if script.ferror then (Printed.scriptNotRead path).stderr else [] := by
      rw [Console.stderr_print, hquiet]
      cases script.ferror with
      | false => rfl
      | true => exact List.append_nil _
    have hsame : (script.ferror && decide ((none : Option ScriptStop) = none)) = script.ferror :=
      Bool.and_true _
    refine ⟨?_, fun _ => ?_, nofun⟩
    · rw [hsame, hend, scriptRc]
      cases script.ferror with
      | false => exact ⟨fun _ => rfl, fun _ => rfl⟩
      | true =>
        have hnotRead : "ERR: failed to read script: ".toList ≠ [] := by decide
        exact ⟨nofun, fun hnil => absurd hnil (@stderr_ne_nil [] _ _ hnotRead)⟩
    · rw [hsame, hend]
  | some reason =>
    obtain ⟨k, line, last, hlocated, hstderr⟩ := scriptStop_located hloop rfl
    have hsame : (script.ferror && decide (some reason = none)) = false := Bool.and_false _
    have hend : (console.print []).stderr = reason.message (k + 1) last :=
      (Console.stderr_print_quiet rfl).trans hstderr
    rw [hsame]
    refine ⟨?_, nofun, fun reason' hstop => ?_⟩
    · rw [if_neg Bool.false_ne_true, hend, stopMessage_eq_nil]
      cases reason with
      | quit => exact ⟨fun _ => rfl, fun _ => rfl⟩
      | _ => exact ⟨nofun, nofun⟩
    · cases hstop
      exact ⟨k, line, last, hlocated, hend, fun hfit =>
        hlocated.mono (map_pieces_lines (fun a _ => scriptText_break a) hfit)⟩

/-- **Interactive mode** writes the messages of its commands. -/
theorem repl_stderr {input : List Char} {rc : Nat} {r : Ended ReplEvent ReplStop Console}
    (h : replRunPrinting cfg platform transport input ⟨start, []⟩ = some (rc, r)) :
    r.state.stderr = (r.outputs.filterMap ReplEvent.execution).flatMap Execution.message := by
  obtain ⟨ended, hloop, h⟩ := Option.bind_eq_some_iff.mp h
  cases h
  rw [replLoopPrinting_pieces] at hloop
  obtain ⟨r, hrun, rfl⟩ := Option.map_eq_some_iff.mp hloop
  have hend := @run_history _ _ _ _ _
    (fun events (console : Console) => console.stderr =
      (events.filterMap ReplEvent.execution).flatMap Execution.message)
    (fun _ _ _ _ hsame hturn => by
      rw [promptedTurn_stderr hturn, hsame, List.filterMap_append, List.flatMap_append])
    _ _ [] rfl _ hrun
  unfold atInputEnd
  split
  · exact (Console.stderr_print_quiet rfl).trans hend
  · exact hend

end Runs

/-- **The standard error locates the failures.**  Whatever the peer does: a script returns 0 if and
only if nothing was written, and one that stopped early names the place in its last message, behind
that of the command that failed; interactive mode writes the message of each command that failed,
in order, and nothing else. -/
theorem diagnostics_locate_failures {cfg : Config} (platform : Platform) (transport : Transport)
    (start : ClientApp) :
    (∀ path script rc r,
      scriptRunPrinting cfg platform transport path (some script) ⟨start, []⟩ = some (rc, r) →
      ScriptDiagnosed cfg platform transport path script start rc r) ∧
    ∀ input rc r, replRunPrinting cfg platform transport input ⟨start, []⟩ = some (rc, r) →
      r.state.stderr = (r.outputs.filterMap ReplEvent.execution).flatMap Execution.message :=
  ⟨fun _ _ _ _ h => script_diagnosed h, fun _ _ _ h => repl_stderr h⟩

/-- A script with a comment, and with a device that there is not. -/
def brokenScript : ScriptFile := ⟨"get D0\n# next\nget Q1\n".toList, false⟩

theorem numberedPieces_brokenScript : numberedPieces 0 brokenScript.text =
    [(1, "get D0\n".toList), (2, "# next\n".toList), (3, "get Q1\n".toList)] := by
  have hpieces : pieces 510 brokenScript.text =
      ["get D0\n".toList, "# next\n".toList, "get Q1\n".toList] := by
    have hfirst : fgets (510 + 2) brokenScript.text =
      some ("get D0\n".toList, "# next\nget Q1\n".toList) := by decide +kernel
    have hsecond : fgets (510 + 2) "# next\nget Q1\n".toList =
      some ("# next\n".toList, "get Q1\n".toList) := by decide +kernel
    have hthird : fgets (510 + 2) "get Q1\n".toList = some ("get Q1\n".toList, []) := by
      decide +kernel
    rw [pieces_fgets hfirst, pieces_fgets hsecond, pieces_fgets hthird, pieces_nil]
  rw [numberedPieces, hpieces]
  rfl

theorem brokenScript_located : ∃ r, scriptRunPrinting .smallest lp64 noisyPeer []
      (some brokenScript) ⟨startedApp, []⟩ = some (1, r) ∧
    ScriptDiagnosed .smallest lp64 noisyPeer [] brokenScript startedApp 1 r ∧
    r.state.stderr = "ERR: script syntax error at line 3\n".toList := by
  have hrun : (scriptRunPrinting .smallest lp64 noisyPeer [] (some brokenScript)
      ⟨startedApp, []⟩).map (fun r => (r.1, r.2.state.stderr)) =
        some (1, "ERR: script syntax error at line 3\n".toList) := by
    rw [scriptRunPrinting, scriptLoopPrinting_pieces, numberedPieces_brokenScript]
    decide +kernel
  obtain ⟨⟨rc, r⟩, hr, heq⟩ := Option.map_eq_some_iff.mp hrun
  obtain ⟨rfl, hstderr⟩ := Prod.mk.inj heq
  exact ⟨r, hr, (diagnostics_locate_failures lp64 noisyPeer startedApp).1 _ _ _ _ hr, hstderr⟩

end Fx5
