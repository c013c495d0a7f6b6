import Fx5Slmp.ScriptFailure

/-!
# Interactive mode

`fx5_client_repl_run` reads the standard input as script mode reads a script, but it goes on after a
syntax error and after a command that failed, and it has no comments.

* `replLoopPrinting_pieces`, `replRun_texts` — the loop takes the pieces of the input, and runs the
  texts that it finds in them;
* `parseCommand_comment` — a comment of a script is a syntax error;
* `runTextPrinting_cases`, `runReplTextPrinting_cases` — what a turn can be;
* `replTurn_of_next`, `replTurn_of_stop` — a turn of script mode, and the turn of interactive mode
  with the same text;
* `script_continues_in_repl` — the same text as a script and as the standard input.
-/

set_option autoImplicit false

namespace Fx5

open CText StoppingRun

/-- What a turn of the loop shows. -/
inductive ReplEvent where
  | syntaxError
  | executed (execution : Execution)
  deriving DecidableEq

/-- The command that was executed, if there was one. -/
def ReplEvent.execution : ReplEvent → Option Execution
  | .syntaxError => none
  | .executed execution => some execution

/-- Why the loop returns before the end of the input. -/
inductive ReplStop where
  | quit
  deriving DecidableEq

/-- The text in the buffer, without the white space around it; empty lines are skipped. -/
def replText (lineBuffer : List Char) : Option (List Char) :=
  let line := skipSpaces (trimRight (cstr lineBuffer))
  if peek line = '\x00' then none else some line

/-- A text is parsed and executed; whether the command failed is not looked at. -/
def runReplTextPrinting (cfg : Config) (platform : Platform) (transport : Transport)
    (line : List Char) (console : Console) :
    Option (StoppingRun.Turn ReplEvent ReplStop Console) := do
  let (ok, cmd) ← parseCommand cfg platform line
  if !ok then some (.next [.syntaxError] (console.print [.syntaxError]))
  else if cmd.type = .quit then some (.stop [] .quit console)
  else do
    let (_, ending, console) ← executeReplCommandPrinting cfg transport console cmd
    some (.next [.executed ⟨cmd, ending⟩] console)

/-- A text is parsed and executed, without the output. -/
def replTurn (cfg : Config) (platform : Platform) (transport : Transport) (line : List Char)
    (app : ClientApp) : Option (StoppingRun.Turn ReplEvent ReplStop ClientApp) :=
  (runReplTextPrinting cfg platform transport line ⟨app, []⟩).map (Turn.view id Console.app)

/-- A turn of the loop of `fx5_client_repl_run`, behind the prompt. -/
def replTurnPrinting (cfg : Config) (platform : Platform) (transport : Transport)
    (lineBuffer : List Char) (console : Console) :
    Option (StoppingRun.Turn ReplEvent ReplStop Console) :=
  turnOf replText (runReplTextPrinting cfg platform transport) lineBuffer console

/-- `sizeof(line_buffer)`. -/
def REPL_LINE_SIZE : Nat := 512

theorem repl_line_size : 2 ≤ REPL_LINE_SIZE := by decide

/-- The loop of `fx5_client_repl_run`. -/
def replLoopPrinting (cfg : Config) (platform : Platform) (transport : Transport)
    (input : List Char) (console : Console) : Option (Ended ReplEvent ReplStop Console) :=
  match _h : fgets REPL_LINE_SIZE input with
  | none => some ⟨[], none, console.print [.prompt, .inputEnd]⟩
  | some (lineBuffer, rest) =>
    match replTurnPrinting cfg platform transport lineBuffer (console.print [.prompt]) with
    | none => none
    | some (.stop events reason console) => some ⟨events, some reason, console⟩
    | some (.next events console) =>
      (replLoopPrinting cfg platform transport rest console).map (Ended.after events)
termination_by input.length
decreasing_by exact fgets_rest_lt repl_line_size _h

/-- `fx5_client_repl_run`: what it returns, and how its run ended. -/
def replRunPrinting (cfg : Config) (platform : Platform) (transport : Transport)
    (input : List Char) (console : Console) : Option (Nat × Ended ReplEvent ReplStop Console) := do
  let ended ← replLoopPrinting cfg platform transport input (console.print [.greeting])
  some (0, ended)

/-- `fx5_client_repl_run` without its output. -/
def replRun (cfg : Config) (platform : Platform) (transport : Transport) (input : List Char)
    (app : ClientApp) : Option (Nat × Ended ReplEvent ReplStop ClientApp) :=
  (replRunPrinting cfg platform transport input ⟨app, []⟩).map fun r =>
    (r.1, r.2.view id Console.app)

/-! ## Without the output -/

section Erase

variable {cfg : Config} {platform : Platform} {transport : Transport}

/-- **A text** without its output; what was printed before decides nothing. -/
theorem runReplTextPrinting_quiet (line : List Char) (console : Console) :
    (runReplTextPrinting cfg platform transport line console).map (Turn.view id Console.app) =
      (do
        let (ok, cmd) ← parseCommand cfg platform line
        if !ok then some (.next [.syntaxError] console.app)
        else if cmd.type = .quit then some (.stop [] .quit console.app)
        else do
          let (_, ending, app) ← executeReplCommand cfg transport console.app cmd
          some (.next [.executed ⟨cmd, ending⟩] app)) := by
  rw [runReplTextPrinting]
  cases parseCommand cfg platform line with
  | none => rfl
  | some parsed =>
    obtain ⟨ok, cmd⟩ := parsed
    cases ok with
    | false => rfl
    | true =>
      simp only [Option.bind_eq_bind, Option.bind_some, Bool.not_true, Bool.false_eq_true,
        if_false]
      split
      · rfl
      rw [← executeReplCommandPrinting_erase]
      cases executeReplCommandPrinting cfg transport console cmd <;> rfl

/-- A piece of the standard input, without the output. -/
theorem replTurnPrinting_erase (lineBuffer : List Char) (console : Console) :
    (replTurnPrinting cfg platform transport lineBuffer console).map (Turn.view id Console.app) =
      turnOf replText (replTurn cfg platform transport) lineBuffer console.app := by
  unfold replTurnPrinting turnOf
  cases replText lineBuffer with
  | none => rfl
  | some line =>
    simp only
    rw [replTurn, runReplTextPrinting_quiet, runReplTextPrinting_quiet]

end Erase

/-! ## The pieces of the input -/

/-- The texts that the loop finds in its input, in order. -/
def replTexts (input : List Char) : List (List Char) := (pieces 510 input).filterMap replText

section Texts

variable {cfg : Config} {platform : Platform} {transport : Transport}

/-- A turn of interactive mode, with the prompt in front of it. -/
def promptedTurn (cfg : Config) (platform : Platform) (transport : Transport)
    (lineBuffer : List Char) (console : Console) :
    Option (StoppingRun.Turn ReplEvent ReplStop Console) :=
  replTurnPrinting cfg platform transport lineBuffer (console.print [.prompt])

/-- What is printed at the end of the standard input. -/
def atInputEnd (r : Ended ReplEvent ReplStop Console) : Ended ReplEvent ReplStop Console :=
  if r.reason = none then { r with state := r.state.print [.prompt, .inputEnd] } else r

theorem atInputEnd_after (events : List ReplEvent) (r : Ended ReplEvent ReplStop Console) :
    atInputEnd (r.after events) = (atInputEnd r).after events := by
  unfold atInputEnd
  rw [Ended.after_reason]
  split <;> rfl

/-- **The loop over the standard input** takes its pieces. -/
theorem replLoopPrinting_pieces (input : List Char) (console : Console) :
    replLoopPrinting cfg platform transport input console =
      (run (promptedTurn cfg platform transport) (pieces 510 input) console).map atInputEnd := by
  induction hlen : input.length using Nat.strong_induction_on generalizing input console with
  | _ len ih =>
    rw [replLoopPrinting]
    split
    · rename_i hend
      rw [pieces_of_fgets_none hend]
      rfl
    · rename_i lineBuffer rest hread
      have hshort := fgets_rest_lt repl_line_size hread
      rw [pieces_fgets (show fgets (510 + 2) input = _ from hread), run, promptedTurn]
      cases replTurnPrinting cfg platform transport lineBuffer (console.print [.prompt]) with
      | none => rfl
      | some turn =>
        cases turn with
        | stop events reason console' => rfl
        | next events console' =>
          simp only [ih _ (by omega) rest console' rfl, Option.map_map]
          congr 1
          exact funext fun r => (atInputEnd_after events r).symm

/-- **Interactive mode takes the texts** that it finds in the pieces of the input; what was printed
before decides nothing. -/
theorem replRunPrinting_texts (input : List Char) (console : Console) :
    (replRunPrinting cfg platform transport input console).map
        (fun r => (r.1, r.2.view id Console.app)) =
      (run (replTurn cfg platform transport) (replTexts input) console.app).map
        fun ended => (0, ended) := by
  have hview := @run_view _ _ _ _ _ _ (promptedTurn cfg platform transport)
    (turnOf replText (replTurn cfg platform transport)) id Console.app (fun _ => True)
    (fun _ _ _ _ _ _ => trivial) (fun lineBuffer console _ => replTurnPrinting_erase lineBuffer _)
    (pieces 510 input) (console.print [.greeting]) trivial
  have hend (r : Ended ReplEvent ReplStop Console) :
      (atInputEnd r).view id Console.app = r.view id Console.app := by
    unfold atInputEnd
    split <;> rfl
  rw [run_turnOf] at hview
  have happ : (console.print [.greeting]).app = console.app := rfl
  rw [replTexts, ← happ, ← hview, replRunPrinting, replLoopPrinting_pieces]
  cases run (promptedTurn cfg platform transport) (pieces 510 input) (console.print [.greeting]) with
  | none => rfl
  | some r => simp only [Option.map_some, Option.bind_eq_bind, Option.bind_some, hend]

theorem replRun_texts (input : List Char) (app : ClientApp) :
    replRun cfg platform transport input app =
      (run (replTurn cfg platform transport) (replTexts input) app).map fun ended => (0, ended) :=
  replRunPrinting_texts input ⟨app, []⟩

/-- A run of interactive mode is a run of its texts. -/
theorem replRun_run {input : List Char} {app : ClientApp} {rc : Nat}
    {e : Ended ReplEvent ReplStop ClientApp}
    (h : replRun cfg platform transport input app = some (rc, e)) :
    rc = 0 ∧ run (replTurn cfg platform transport) (replTexts input) app = some e := by
  rw [replRun_texts] at h
  obtain ⟨e', hended, h⟩ := Option.map_eq_some_iff.mp h
  cases h
  exact ⟨rfl, hended⟩

/-- **Script mode takes the texts** of the script. -/
theorem scriptRun_texts (script : ScriptFile) (app : ClientApp) :
    (scriptRun cfg platform transport (some script) app).map
        (fun run => (run.1, run.2.map (·.ended))) =
      (run (runText cfg platform transport) (handedOver script.text) app).map
        fun ended => (scriptRc script.ferror ended.reason, some ended) := by
  have htexts := @scriptLoop_texts cfg platform transport 0 script.text app
  rw [handedOver, ← runTexts, ← htexts, Option.map_map, scriptRun_eq, Option.map_map]
  rfl

/-- A run of a script is a run of its texts. -/
theorem scriptRun_run {script : ScriptFile} {app : ClientApp} {rc : Nat} {r : ScriptRun}
    (h : scriptRun cfg platform transport (some script) app = some (rc, some r)) :
    rc = scriptRc script.ferror r.ended.reason ∧
      run (runText cfg platform transport) (handedOver script.text) app = some r.ended := by
  rw [scriptRun_eq] at h
  obtain ⟨r', hloop, h⟩ := Option.map_eq_some_iff.mp h
  cases h
  have htexts := @scriptLoop_texts cfg platform transport 0 script.text app
  rw [hloop, Option.map_some] at htexts
  exact ⟨rfl, htexts.symm⟩

/-- The line break at the end of a line belongs to no text. -/
theorem replText_break (a : List Char) : replText (a ++ ['\n']) = replText a := by
  unfold replText
  simp only [skipSpaces_trimRight, trim_cstr_break]

/-- Lines that fit the buffer are taken whole. -/
theorem replTexts_of_lines_fit {input : List Char}
    (h : ∀ line ∈ input.splitOn '\n', line.length ≤ 511) :
    replTexts input = (input.splitOn '\n').filterMap replText :=
  kept_lines (fun a _ => replText_break a) rfl h

/-! ## Script mode -/

/-- A text of script mode is one of interactive mode that is no comment. -/
theorem scriptText_replText (lineBuffer : List Char) :
    scriptText lineBuffer = (replText lineBuffer).filter fun line => peek line != '#' := by
  unfold scriptText replText
  simp only
  split
  · rename_i hskip
    rcases Bool.or_eq_true_iff.mp hskip with hnul | hcomment
    · rw [if_pos (of_decide_eq_true hnul)]
      rfl
    · have hcomment := of_decide_eq_true hcomment
      rw [if_neg (by rw [hcomment]; decide), Option.filter_some, hcomment]
      rfl
  · rename_i hkeep
    rw [Bool.or_eq_true_iff, not_or, decide_eq_true_eq, decide_eq_true_eq] at hkeep
    rw [if_neg hkeep.1, Option.filter_some, if_pos (by simpa using hkeep.2)]

theorem handedOver_replTexts (text : List Char) :
    handedOver text = (replTexts text).filter fun line => peek line != '#' := by
  rw [handedOver, replTexts, List.filter_filterMap]
  exact congrArg (fun f => (pieces 510 text).filterMap f) (funext scriptText_replText)

/-- **A comment** is no command. -/
theorem parseCommand_comment {line : List Char} (h : peek line = '#') :
    ∃ cmd, parseCommand cfg platform line = some (false, cmd) := by
  have hskip : skipSpaces line = line := skipSpaces_of_not_space (by rw [h]; decide)
  have hcmp : ∀ s, peek s ≠ '#' → peek s ≠ '\x00' → strcmpEq line s = false :=
    fun s hs hnul => strcmpEq_of_peek_ne (by rw [h]; exact Ne.symm hs) hnul
  have hline : line = '#' :: line.drop 1 := eq_cons_of_peek h (by decide)
  have hget : startsWith line "get".toList = false := by rw [hline]; rfl
  have hset : startsWith line "set".toList = false := by rw [hline]; rfl
  refine ⟨commandInit cfg, ?_⟩
  unfold parseCommand
  simp only [hskip]
  rw [if_neg (by rw [h]; decide), hcmp _ (by decide) (by decide),
    hcmp _ (by decide) (by decide), hcmp _ (by decide) (by decide), hcmp _ (by decide) (by decide),
    hcmp _ (by decide) (by decide), hcmp _ (by decide) (by decide), hcmp _ (by decide) (by decide),
    hget, hset]
  rfl

/-- **A text of script mode** is a syntax error, a quit, or one command. -/
theorem runTextPrinting_cases {lineNo : Nat} {line : List Char} {console : Console}
    {turn : StoppingRun.Turn Execution ScriptStop Console}
    (h : runTextPrinting cfg platform transport lineNo line console = some turn) :
    ∃ ok cmd, parseCommand cfg platform line = some (ok, cmd) ∧
      ((ok = false ∧ turn = .stop [] .syntaxError (console.print [.scriptSyntaxError lineNo])) ∨
        (ok = true ∧ cmd.type = .quit ∧ turn = .stop [] .quit console) ∨
        (ok = true ∧ cmd.type ≠ .quit ∧ ∃ done ending console',
          executeReplCommandPrinting cfg transport console cmd = some (done, ending, console') ∧
          ((done = true ∧ turn = .next [⟨cmd, ending⟩] console') ∨
            (done = false ∧ turn = .stop [⟨cmd, ending⟩] .commandFailed
              (console'.print [.scriptCommandFailed lineNo]))))) := by
  obtain ⟨⟨ok, cmd⟩, hparse, h⟩ := Option.bind_eq_some_iff.mp h
  refine ⟨ok, cmd, hparse, ?_⟩
  cases ok with
  | false =>
    cases h
    exact Or.inl ⟨rfl, rfl⟩
  | true =>
    simp only [Bool.not_true, Bool.false_eq_true, if_false] at h
    by_cases hquit : cmd.type = .quit
    · rw [if_pos hquit] at h
      cases h
      exact Or.inr (Or.inl ⟨rfl, hquit, rfl⟩)
    · rw [if_neg hquit] at h
      obtain ⟨⟨done, ending, console'⟩, hexecute, h⟩ := Option.bind_eq_some_iff.mp h
      refine Or.inr (Or.inr ⟨rfl, hquit, done, ending, console', hexecute, ?_⟩)
      cases done with
      | false =>
        cases h
        exact Or.inr ⟨rfl, rfl⟩
      | true =>
        cases h
        exact Or.inl ⟨rfl, rfl⟩

theorem runText_cases {line : List Char} {app : ClientApp}
    {turn : StoppingRun.Turn Execution ScriptStop ClientApp}
    (h : runText cfg platform transport line app = some turn) :
    ∃ ok cmd, parseCommand cfg platform line = some (ok, cmd) ∧
      ((ok = false ∧ turn = .stop [] .syntaxError app) ∨
        (ok = true ∧ cmd.type = .quit ∧ turn = .stop [] .quit app) ∨
        (ok = true ∧ cmd.type ≠ .quit ∧ ∃ done ending app',
          executeReplCommand cfg transport app cmd = some (done, ending, app') ∧
          ((done = true ∧ turn = .next [⟨cmd, ending⟩] app') ∨
            (done = false ∧ turn = .stop [⟨cmd, ending⟩] .commandFailed app')))) := by
  obtain ⟨turn', hturn, rfl⟩ := Option.map_eq_some_iff.mp h
  obtain ⟨ok, cmd, hparse, ⟨hok, rfl⟩ | ⟨hok, hquit, rfl⟩ |
    ⟨hok, hquit, done, ending, console', hexecute, hend⟩⟩ := runTextPrinting_cases hturn
  · exact ⟨ok, cmd, hparse, Or.inl ⟨hok, rfl⟩⟩
  · exact ⟨ok, cmd, hparse, Or.inr (Or.inl ⟨hok, hquit, rfl⟩)⟩
  · have hexecute' : executeReplCommand cfg transport app cmd =
        some (done, ending, console'.app) := by
      rw [executeReplCommand, hexecute, Option.map_some]
    refine ⟨ok, cmd, hparse, Or.inr (Or.inr
      ⟨hok, hquit, done, ending, console'.app, hexecute', ?_⟩)⟩
    rcases hend with ⟨hdone, rfl⟩ | ⟨hdone, rfl⟩
    · exact Or.inl ⟨hdone, rfl⟩
    · exact Or.inr ⟨hdone, rfl⟩

/-- **A text of interactive mode** is a syntax error, a quit, or one command. -/
theorem runReplTextPrinting_cases {line : List Char} {console : Console}
    {turn : StoppingRun.Turn ReplEvent ReplStop Console}
    (h : runReplTextPrinting cfg platform transport line console = some turn) :
    ∃ ok cmd, parseCommand cfg platform line = some (ok, cmd) ∧
      ((ok = false ∧ turn = .next [.syntaxError] (console.print [.syntaxError])) ∨
        (ok = true ∧ cmd.type = .quit ∧ turn = .stop [] .quit console) ∨
        (ok = true ∧ cmd.type ≠ .quit ∧ ∃ done ending console',
          executeReplCommandPrinting cfg transport console cmd = some (done, ending, console') ∧
          turn = .next [.executed ⟨cmd, ending⟩] console')) := by
  obtain ⟨⟨ok, cmd⟩, hparse, h⟩ := Option.bind_eq_some_iff.mp h
  refine ⟨ok, cmd, hparse, ?_⟩
  cases ok with
  | false =>
    cases h
    exact Or.inl ⟨rfl, rfl⟩
  | true =>
    simp only [Bool.not_true, Bool.false_eq_true, if_false] at h
    by_cases hquit : cmd.type = .quit
    · rw [if_pos hquit] at h
      cases h
      exact Or.inr (Or.inl ⟨rfl, hquit, rfl⟩)
    · rw [if_neg hquit] at h
      obtain ⟨⟨done, ending, console'⟩, hexecute, h⟩ := Option.bind_eq_some_iff.mp h
      cases h
      exact Or.inr (Or.inr ⟨rfl, hquit, done, ending, console', hexecute, rfl⟩)

theorem replTurn_cases {line : List Char} {app : ClientApp}
    {turn : StoppingRun.Turn ReplEvent ReplStop ClientApp}
    (h : replTurn cfg platform transport line app = some turn) :
    ∃ ok cmd, parseCommand cfg platform line = some (ok, cmd) ∧
      ((ok = false ∧ turn = .next [.syntaxError] app) ∨
        (ok = true ∧ cmd.type = .quit ∧ turn = .stop [] .quit app) ∨
        (ok = true ∧ cmd.type ≠ .quit ∧ ∃ done ending app',
          executeReplCommand cfg transport app cmd = some (done, ending, app') ∧
          turn = .next [.executed ⟨cmd, ending⟩] app')) := by
  obtain ⟨turn', hturn, rfl⟩ := Option.map_eq_some_iff.mp h
  obtain ⟨ok, cmd, hparse, ⟨hok, rfl⟩ | ⟨hok, hquit, rfl⟩ |
    ⟨hok, hquit, done, ending, console', hexecute, rfl⟩⟩ := runReplTextPrinting_cases hturn
  · exact ⟨ok, cmd, hparse, Or.inl ⟨hok, rfl⟩⟩
  · exact ⟨ok, cmd, hparse, Or.inr (Or.inl ⟨hok, hquit, rfl⟩)⟩
  · have hexecute' : executeReplCommand cfg transport app cmd =
        some (done, ending, console'.app) := by
      rw [executeReplCommand, hexecute, Option.map_some]
    exact ⟨ok, cmd, hparse, Or.inr (Or.inr
      ⟨hok, hquit, done, ending, console'.app, hexecute', rfl⟩)⟩

/-- A command that is executed in interactive mode. -/
theorem replTurn_executed {line : List Char} {app app' : ClientApp} {cmd : ParsedCommand}
    {done : Bool} {ending : Option CommandEnd}
    (hparse : parseCommand cfg platform line = some (true, cmd)) (hquit : cmd.type ≠ .quit)
    (hexecute : executeReplCommand cfg transport app cmd = some (done, ending, app')) :
    replTurn cfg platform transport line app = some (.next [.executed ⟨cmd, ending⟩] app') := by
  simp only [replTurn, runReplTextPrinting_quiet, hparse, Option.bind_eq_bind, Option.bind_some, Bool.not_true,
    Bool.false_eq_true, if_false, if_neg hquit, hexecute]

/-- **A text that script mode goes on after** does the same in interactive mode. -/
theorem replTurn_of_next {line : List Char} {app app' : ClientApp} {executed : List Execution}
    (h : runText cfg platform transport line app = some (.next executed app')) :
    ∃ events, replTurn cfg platform transport line app = some (.next events app') ∧
      events.filterMap ReplEvent.execution = executed := by
  obtain ⟨ok, cmd, hparse, ⟨_, heq⟩ | ⟨_, _, heq⟩ |
    ⟨rfl, hquit, done, ending, app₂, hexecute, ⟨_, heq⟩ | ⟨_, heq⟩⟩⟩ := runText_cases h
  · cases heq
  · cases heq
  · cases heq
    exact ⟨_, replTurn_executed hparse hquit hexecute, rfl⟩
  · cases heq

/-- **A text that ends script mode** ends interactive mode only if it is a quit. -/
theorem replTurn_of_stop {line : List Char} {app app' : ClientApp} {executed : List Execution}
    {stop : ScriptStop}
    (h : runText cfg platform transport line app = some (.stop executed stop app')) :
    if stop = .quit then
      replTurn cfg platform transport line app = some (.stop [] .quit app') ∧ executed = []
    else ∃ events, replTurn cfg platform transport line app = some (.next events app') ∧
      events.filterMap ReplEvent.execution = executed := by
  obtain ⟨ok, cmd, hparse, ⟨rfl, heq⟩ | ⟨rfl, hquit, heq⟩ |
    ⟨rfl, hquit, done, ending, app₂, hexecute, ⟨_, heq⟩ | ⟨_, heq⟩⟩⟩ := runText_cases h
  · cases heq
    rw [if_neg (by decide)]
    refine ⟨[.syntaxError], ?_, rfl⟩
    rw [replTurn, runReplTextPrinting_quiet, hparse]
    rfl
  · cases heq
    rw [if_pos rfl]
    refine ⟨?_, rfl⟩
    simp only [replTurn, runReplTextPrinting_quiet, hparse, Option.bind_eq_bind, Option.bind_some, Bool.not_true,
      Bool.false_eq_true, if_false, if_pos hquit]
  · cases heq
  · cases heq
    rw [if_neg (by decide)]
    exact ⟨_, replTurn_executed hparse hquit hexecute, rfl⟩

end Texts

/-- **The same text as a script and as the standard input.**  Interactive mode executes every command
that script mode executes, in the same order and with the same endings, and returns 0; it executes
more only behind a syntax error or a failed command of the script.  If script mode comes to the end
of the text or to a quit, so does interactive mode, with the same client behind it. -/
theorem script_continues_in_repl {cfg : Config} {platform : Platform} {transport : Transport}
    {script : ScriptFile} {app : ClientApp} {rc rc' : Nat} {r : ScriptRun}
    {e : Ended ReplEvent ReplStop ClientApp}
    (hscript : scriptRun cfg platform transport (some script) app = some (rc, some r))
    (hrepl : replRun cfg platform transport script.text app = some (rc', e)) :
    rc' = 0 ∧ ∃ later,
      e.outputs.filterMap ReplEvent.execution = r.ended.outputs ++ later ∧
      (r.ended.reason = none → later = [] ∧ e.reason = none ∧ e.state = r.ended.state) ∧
      (r.ended.reason = some .quit →
        later = [] ∧ e.reason = some .quit ∧ e.state = r.ended.state) := by
  obtain ⟨_, htexts⟩ := scriptRun_run hscript
  rw [handedOver_replTexts] at htexts
  obtain ⟨hrc, hended⟩ := replRun_run hrepl
  obtain ⟨later, hover⟩ := run_lenient (· = ScriptStop.quit) ReplEvent.execution
    (fun line app hcomment => by
      obtain ⟨cmd, hparse⟩ := @parseCommand_comment cfg platform line (by simpa using hcomment)
      exact ⟨[.syntaxError], by simp [replTurn, runReplTextPrinting_quiet, hparse], rfl⟩)
    (fun _ _ _ _ hturn => replTurn_of_next hturn)
    (fun line app outputs stop app' hturn hquit => by
      have hstop := replTurn_of_stop hturn
      rw [if_pos hquit] at hstop
      exact ⟨[], .quit, hstop.1, hstop.2.symm⟩)
    (fun line app outputs stop app' hturn hgoesOn => by
      have hstop := replTurn_of_stop hturn
      rw [if_neg hgoesOn] at hstop
      obtain ⟨events, hturn', hshown⟩ := hstop
      exact ⟨events, app', hturn', hshown⟩)
    htexts hended
  refine ⟨hrc, later, hover.split, hover.unused, fun hquit => ?_⟩
  obtain ⟨hlater, hreason, hstate⟩ := hover.final _ hquit rfl
  refine ⟨hlater, ?_, hstate⟩
  obtain ⟨stop, hstop⟩ := Option.isSome_iff_exists.mp hreason
  cases stop
  exact hstop

/-- Two bits are read, without an answer. -/
def unansweredScript : ScriptFile := ⟨"# bits\nget M0\nget M1\n".toList, false⟩

theorem texts_unansweredScript :
    handedOver unansweredScript.text = ["get M0".toList, "get M1".toList] ∧
      replTexts unansweredScript.text = ["# bits".toList, "get M0".toList, "get M1".toList] := by
  rw [handedOver_of_lines_fit (by decide +kernel), replTexts_of_lines_fit (by decide +kernel)]
  decide +kernel

theorem unansweredScript_continues_in_repl : ∃ r e,
    scriptRun .smallest lp64 silentPeer (some unansweredScript) startedApp = some (1, some r) ∧
      replRun .smallest lp64 silentPeer unansweredScript.text startedApp = some (0, e) ∧
      ∃ later, e.outputs.filterMap ReplEvent.execution = r.ended.outputs ++ later ∧
        later.map (·.ending) = [some (.receiveFailed .timeout)] := by
  obtain ⟨hhanded, htexts⟩ := texts_unansweredScript
  have hrun : (runTexts .smallest lp64 silentPeer (handedOver unansweredScript.text)
      startedApp).map (fun ended => (ended.outputs.map (·.ending), ended.reason)) =
        some ([some (.receiveFailed .timeout)], some .commandFailed) := by
    rw [hhanded]
    decide +kernel
  have hrepl : (run (replTurn .smallest lp64 silentPeer) (replTexts unansweredScript.text)
      startedApp).map
        (fun ended => (ended.outputs.filterMap ReplEvent.execution).map (·.ending)) =
      some [some (.receiveFailed .timeout), some (.receiveFailed .timeout)] := by
    rw [htexts]
    decide +kernel
  obtain ⟨ended, hended, heq⟩ := Option.map_eq_some_iff.mp hrun
  obtain ⟨e, he, hendings⟩ := Option.map_eq_some_iff.mp hrepl
  obtain ⟨houtputs, hreason⟩ := Prod.mk.inj heq
  obtain ⟨r, hscript, rfl⟩ := @scriptRun_ended _ _ _ unansweredScript _ _ hended
  rw [hreason] at hscript
  have hrepl : replRun .smallest lp64 silentPeer unansweredScript.text startedApp = some (0, e) := by
    rw [replRun_texts, he]
    rfl
  obtain ⟨_, later, hsplit, _⟩ := script_continues_in_repl hscript hrepl
  refine ⟨r, e, hscript, hrepl, later, hsplit, ?_⟩
  rw [hsplit, List.map_append, houtputs] at hendings
  exact (List.cons.inj hendings).2

end Fx5
