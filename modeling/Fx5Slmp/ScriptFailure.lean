import Fx5Slmp.ScriptLines

/-!
# Failed commands in a script

A get or set command fails when it cannot be applied, built or sent, when nothing is received for
it, or when the parser rejects what is received.  An answer with an end code other than 0 is no
failure for the receive loop, and the script goes on.

* `receiveEnd_code` — the status with which the receive loop succeeds tells the end code;
* `appExecuteCommand_spec` — an answer has the end code of the frame that was received;
* `runText_next`, `runText_stop` — what one text of a script does;
* `scriptLoop_executed` — the commands of a run, and how it ended;
* `failed_commands_fail_iff` — every failed command fails the script, exactly if none is answered
  with an error.
-/

set_option autoImplicit false

namespace Fx5

open CText StreamScan StoppingRun

/-! ## Answers -/

/-- The end code of the frame that is found in the bytes received for a command. -/
def receivedEndCode (cfg : Config) (received : List Byte) : Nat :=
  le16At (packetOf (received.drop (frameStart cfg 0 received))) 0

/-- The command was answered by a frame that was parsed with `FX5_ST_OK`. -/
def Execution.AnsweredOk (e : Execution) : Prop :=
  ∃ received report, e.ending = some (.answered .ok received report)

/-- The command was answered by a frame with an end code other than 0. -/
def Execution.AnsweredWithError (cfg : Config) (e : Execution) : Prop :=
  ∃ status received report, e.ending = some (.answered status received report) ∧
    receivedEndCode cfg received ≠ FX5_RESPONSE_OK

/-- A get or set command. -/
def Execution.NeedsPlcIo (e : Execution) : Prop :=
  clientCommandNeedsPlcIo e.command.toClientCommand = true

/-- A failed PLC command fails the script: the result is 0 only if every get and set command was
answered and parsed with `FX5_ST_OK`, and any other ends the script with a failure. -/
structure FailedCommandsFail (rc : Nat) (r : ScriptRun) : Prop where
  succeeds : rc = 0 → ∀ e ∈ r.ended.outputs, e.NeedsPlcIo → e.AnsweredOk
  fails : ∀ before e after, r.ended.outputs = before ++ e :: after → e.NeedsPlcIo →
    ¬e.AnsweredOk → after = [] ∧ r.ended.reason = some .commandFailed ∧ rc ≠ 0

/-! ## The end code -/

section Answer

variable {cfg : Config} {ctx : Context}

/-- **The answer of a complete frame** has its end code, and tells it by the status. -/
theorem frameAnswer_code {b : List Byte} (h : CompleteFrame cfg ctx.serial b) :
    (frameAnswer cfg ctx b).responseCode = le16At (packetOf b) 0 ∧
      ((frameAnswer cfg ctx b).status = .responseError ↔
        le16At (packetOf b) 0 ≠ FX5_RESPONSE_OK) := by
  rw [frameAnswer, if_pos h]
  have hcode := pduResult_code ctx (packetOf b)
  have herror := @pduResult_responseError ctx (packetOf b)
  generalize pduResult ctx (packetOf b) = r at hcode herror
  exact ⟨hcode, herror⟩

/-- A parsed frame tells its end code by the status. -/
theorem parseResponse_code (hinv : ctx.Inv cfg) (huse : ctx.inUse = true) {status : Status}
    {ctx' : Context} (h : parseResponse cfg ctx = some (status, ctx'))
    (hstatus : status = .ok ∨ status = .responseError) :
    status = .responseError ↔ ctx'.responseCode ≠ FX5_RESPONSE_OK := by
  obtain ⟨k, hk⟩ : ∃ k, frameStart cfg ctx.serial ctx.rxCbuffer.contents = k := ⟨_, rfl⟩
  rcases parseResponse_cases hinv huse hk with
    ⟨_, _, _, _, hres⟩ | ⟨_, _, hres⟩ | ⟨_, hcomplete, _, _, hres, hanswer, _⟩
  · rw [h] at hres
    cases hres
    rcases hstatus with h | h <;> cases h
  · rw [h] at hres
    cases hres
    rcases hstatus with h | h <;> cases h
  · rw [h] at hres
    cases hres
    obtain ⟨hcode, herror⟩ := frameAnswer_code hcomplete
    rw [← hanswer] at hcode herror
    have hcode' : ctx'.responseCode = le16At (packetOf (ctx.rxCbuffer.contents.drop k)) 0 := hcode
    rw [hcode']
    exact herror

/-- **The status of an answer** tells the end code. -/
theorem receiveEnd_code (hinv : ctx.Inv cfg) (huse : ctx.inUse = true) {stream rest : List Byte}
    {events : List NetEvent} {status : Status} {ctx' : Context}
    (h : receiveEnd cfg ctx stream events = some (.answered status, ctx', rest)) :
    (status = .ok ∨ status = .responseError) ∧
      (status = .responseError ↔ ctx'.responseCode ≠ FX5_RESPONSE_OK) := by
  induction events generalizing ctx stream with
  | nil => cases h
  | cons event events ih =>
    cases event with
    | timeout | closed | error => cases h
    | deliver size =>
      rw [receiveEnd_deliver] at h
      split at h
      · cases h
      rename_i hrun
      have hmax : size ≤ CLIENT_RECV_BUFFER_SIZE := by omega
      have hsize : size ≤ stream.length := by omega
      rcases deliver_feed_cases hinv huse hmax hsize with
        ⟨failed, hne, hfeed⟩ | ⟨hroom, hfeed⟩
      · rw [hfeed] at h
        simp only [Option.bind_eq_bind, Option.bind_some, ne_eq, hne, not_false_eq_true,
          if_true] at h
        cases h
      rw [hfeed] at h
      simp only [Option.bind_eq_bind, Option.bind_some, ne_eq, not_true_eq_false, if_false] at h
      obtain ⟨hinv', _⟩ := hinv.received hroom
      obtain ⟨parsed, ctx₂, hparse, hinv₂, huse₂, _⟩ := parseResponse_inv hinv' huse
      rw [hparse] at h
      simp only [Option.bind_some] at h
      cases parsed with
      | errNeedMore => exact ih hinv₂ huse₂ h
      | responseError =>
        cases h
        exact ⟨Or.inr rfl, parseResponse_code hinv' huse hparse (Or.inr rfl)⟩
      | ok =>
        cases h
        exact ⟨Or.inl rfl, parseResponse_code hinv' huse hparse (Or.inl rfl)⟩
      | _ => cases h

/-- The status of an answer is that of a frame with this end code. -/
def CommandEnd.Honest (cfg : Config) : CommandEnd → Prop
  | .answered status received _ => (status = .ok ∨ status = .responseError) ∧
      (status = .responseError ↔ receivedEndCode cfg received ≠ FX5_RESPONSE_OK)
  | _ => True

/-- **What is received** for a request: the context stays in order, and the answer has the end code
of the frame in the bytes received. -/
theorem appReceiveResponse_spec {app app' : ClientApp} (hinv : app.ctx.Inv cfg)
    (huse : app.ctx.inUse = true) (hserial : app.ctx.serial = 0) (hscan : Scanned cfg app.ctx [])
    {cmd : ClientCommand} {io : SocketIo} {ending : CommandEnd}
    (h : appReceiveResponse cfg app cmd io = some (ending, app')) :
    app'.ctx.Inv cfg ∧ app'.ctx.inUse = true ∧ ending.Honest cfg := by
  rw [appReceiveResponse_eq] at h
  obtain ⟨⟨receiveEnded, ctx', rest⟩, hreceive, h⟩ := Option.bind_eq_some_iff.mp h
  have hresponse : receiveResponse cfg app.ctx io.stream io.events =
      some (receiveEnded.succeeded, ctx', rest) := by
    rw [receiveResponse, hreceive, Option.map_some]
  obtain ⟨hinv', huse', hreceived⟩ := receiveResponse_spec hinv huse hscan hresponse
  cases receiveEnded with
  | answered status =>
    obtain ⟨report, _, h⟩ := Option.bind_eq_some_iff.mp h
    cases h
    refine ⟨hinv', huse', ?_⟩
    obtain ⟨hstatus, hcode⟩ := receiveEnd_code hinv huse hreceive
    obtain ⟨delivered, _, hreceived⟩ := hreceived rfl
    have hsplit : io.stream = delivered ++ rest := hreceived.split
    have htake : io.stream.take (io.stream.length - rest.length) = delivered := by
      rw [hsplit, List.length_append, Nat.add_sub_cancel, List.take_left]
    have hanswer := hreceived.answer
    have hcomplete := hreceived.complete
    have hend : ctx'.responseCode = receivedEndCode cfg delivered := by
      have hcode := (frameAnswer_code hcomplete).1
      rw [← hanswer, hserial] at hcode
      exact hcode
    rw [hend, ← htake] at hcode
    exact ⟨hstatus, hcode⟩
  | _ =>
    cases h
    exact ⟨hinv', huse', trivial⟩

/-- **A command** keeps the context in order, and the status of its answer tells the end code. -/
theorem appExecuteCommand_spec {transport : Transport} {app app' : ClientApp}
    (hinv : app.ctx.Inv cfg) (huse : app.ctx.inUse = true) {cmd : ClientCommand}
    {ending : CommandEnd} (h : appExecuteCommand cfg transport app cmd = some (ending, app')) :
    app'.ctx.Inv cfg ∧ app'.ctx.inUse = true ∧ ending.Honest cfg := by
  rw [appExecuteCommand, executeCommandPrinting_quiet] at h
  obtain ⟨⟨status, ctx⟩, happly, h⟩ := Option.bind_eq_some_iff.mp h
  obtain ⟨hinv₁, huse₁, happlied⟩ := applyCommandToContext_spec hinv huse happly
  simp only at h
  split at h
  · cases h
    exact ⟨hinv₁, huse₁, trivial⟩
  rename_i hok
  have happlied := happlied (not_not.mp hok)
  obtain ⟨built, hbuild, h⟩ := Option.bind_eq_some_iff.mp h
  rcases buildRequest_client hinv₁ huse₁ hbuild with ⟨hstatus, hctx⟩ | ⟨hstatus, hctx, _⟩
  · rw [if_pos hstatus, hctx] at h
    cases h
    exact ⟨hinv₁, huse₁, trivial⟩
  rw [if_neg (not_not.mpr hstatus), hctx] at h
  have huse₂ : ctx.sent.inUse = true := ctx.sent_inUse.trans huse₁
  split at h
  · cases h
    exact ⟨hinv₁.sent, huse₂, trivial⟩
  have hserial : ctx.sent.serial = 0 := by
    unfold Context.sent
    split
    · exact happlied.nextSerial
    · rfl
  have hscan : Scanned cfg ctx.sent [] := by
    rw [Scanned, ctx.sent_rxCbuffer, happlied.empty, List.drop_nil]
  exact appReceiveResponse_spec hinv₁.sent huse₂ hserial hscan h

end Answer

/-! ## One text -/

section Text

variable {cfg : Config} {platform : Platform} {transport : Transport}

/-- The context of the client is in order. -/
def ClientApp.Ready (cfg : Config) (app : ClientApp) : Prop :=
  app.ctx.Inv cfg ∧ app.ctx.inUse = true

/-- A command that does not fail is answered with an error, or parsed with `FX5_ST_OK`. -/
def Execution.Completed (cfg : Config) (e : Execution) : Prop :=
  (e.NeedsPlcIo → (e.AnsweredOk ↔ ¬e.AnsweredWithError cfg)) ∧
    (e.AnsweredWithError cfg → e.NeedsPlcIo)

/-- A command that fails is not answered. -/
def Execution.Failed (cfg : Config) (e : Execution) : Prop :=
  ¬e.AnsweredOk ∧ ¬e.AnsweredWithError cfg

/-- An honest ending of a get or set command. -/
theorem completed_of_honest {e : Execution} {ending : CommandEnd} (hending : e.ending = some ending)
    (hneeds : e.NeedsPlcIo) (hhonest : ending.Honest cfg) (hdone : ending.succeeded = true) :
    e.Completed cfg := by
  cases ending with
  | answered status received report =>
    obtain ⟨hstatus, hcode⟩ := hhonest
    refine ⟨fun _ => ⟨?_, ?_⟩, fun _ => hneeds⟩
    · rintro ⟨received', report', hok⟩ ⟨status', received'', report'', herr, hne⟩
      cases hending.symm.trans hok
      cases hending.symm.trans herr
      exact absurd (hcode.mpr hne) (by decide)
    · intro hno
      rcases hstatus with rfl | rfl
      · exact ⟨received, report, hending⟩
      · exact absurd ⟨_, received, report, hending, hcode.mp rfl⟩ hno
  | _ => cases hdone

theorem failed_of_not_succeeded {e : Execution} {ending : CommandEnd}
    (hending : e.ending = some ending) (hdone : ending.succeeded = false) : e.Failed cfg := by
  constructor
  · rintro ⟨received, report, hok⟩
    cases hending.symm.trans hok
    cases hdone
  · rintro ⟨status, received, report, herr, _⟩
    cases hending.symm.trans herr
    cases hdone

/-- A command that was not for the PLC has no answer. -/
theorem not_answered_of_none {e : Execution} (hending : e.ending = none) : e.Failed cfg := by
  constructor
  · rintro ⟨received, report, hok⟩
    cases hending.symm.trans hok
  · rintro ⟨status, received, report, herr, _⟩
    cases hending.symm.trans herr

/-- A command that was not for the PLC is complete. -/
theorem completed_of_none {e : Execution} (hending : e.ending = none) (hneeds : ¬e.NeedsPlcIo) :
    e.Completed cfg :=
  ⟨fun h => absurd h hneeds, fun h => absurd h (not_answered_of_none hending).2⟩

/-- **One command** of the dispatcher. -/
theorem executeReplCommand_spec {app app' : ClientApp} (hready : app.Ready cfg)
    {cmd : ParsedCommand} {done : Bool} {ending : Option CommandEnd}
    (h : executeReplCommand cfg transport app cmd = some (done, ending, app')) :
    app'.Ready cfg ∧ (done = true → (Execution.mk cmd ending).Completed cfg) ∧
      (done = false → (Execution.mk cmd ending).Failed cfg) := by
  have hother (hneeds : ¬(Execution.mk cmd none).NeedsPlcIo) (app' : ClientApp)
      (hready' : app'.Ready cfg) (done : Bool) : app'.Ready cfg ∧
        (done = true → (Execution.mk cmd none).Completed cfg) ∧
        (done = false → (Execution.mk cmd none).Failed cfg) :=
    ⟨hready', fun _ => completed_of_none rfl hneeds, fun _ => not_answered_of_none rfl⟩
  have hplc (hneeds : ∀ ending, (Execution.mk cmd ending).NeedsPlcIo)
      (h : (appExecuteCommand cfg transport app cmd.toClientCommand).bind
        (fun r => some (r.1.succeeded, some r.1, r.2)) = some (done, ending, app')) :
      app'.Ready cfg ∧ (done = true → (Execution.mk cmd ending).Completed cfg) ∧
        (done = false → (Execution.mk cmd ending).Failed cfg) := by
    obtain ⟨⟨ended, app₂⟩, hexecute, h⟩ := Option.bind_eq_some_iff.mp h
    cases h
    obtain ⟨hinv', huse', hhonest⟩ := appExecuteCommand_spec hready.1 hready.2 hexecute
    exact ⟨⟨hinv', huse'⟩, completed_of_honest rfl (hneeds _) hhonest,
      failed_of_not_succeeded rfl⟩
  rw [executeReplCommand, executeReplCommandPrinting_quiet] at h
  have hneeds_iff (ending : Option CommandEnd) : (Execution.mk cmd ending).NeedsPlcIo ↔
      cmd.type = .get ∨ cmd.type = .set := by
    simp [Execution.NeedsPlcIo, clientCommandNeedsPlcIo]
  cases htype : cmd.type with
  | get =>
    rw [htype] at h
    exact hplc (fun ending => (hneeds_iff ending).mpr (Or.inl htype)) h
  | set =>
    rw [htype] at h
    exact hplc (fun ending => (hneeds_iff ending).mpr (Or.inr htype)) h
  | _ =>
    rw [htype] at h
    cases h
    exact hother (by rw [hneeds_iff, htype]; simp) _ hready _

/-- **A text that lets the script go on** was one command that did not fail. -/
theorem runText_next {line : List Char} {app app' : ClientApp} (hready : app.Ready cfg)
    {executed : List Execution}
    (h : runText cfg platform transport line app = some (.next executed app')) :
    app'.Ready cfg ∧ ∀ e ∈ executed, e.Completed cfg := by
  rw [runText, runTextPrinting_quiet] at h
  obtain ⟨⟨ok, cmd⟩, _, h⟩ := Option.bind_eq_some_iff.mp h
  simp only at h
  split at h
  · cases h
  split at h
  · cases h
  obtain ⟨⟨done, ending, app₂⟩, hexecute, h⟩ := Option.bind_eq_some_iff.mp h
  obtain ⟨hready', hcompleted, _⟩ := executeReplCommand_spec hready hexecute
  simp only at h
  split at h
  · cases h
  · rename_i hdone
    cases h
    refine ⟨hready', fun e hmem => ?_⟩
    rw [List.mem_singleton.mp hmem]
    exact hcompleted (by simpa using hdone)

/-- What a text did that ends the script. -/
def EndsScript (cfg : Config) (executed : List Execution) (stop : ScriptStop) : Prop :=
  (stop = .commandFailed ∧ ∃ e, executed = [e] ∧ e.Failed cfg) ∨
    (stop ≠ .commandFailed ∧ executed = [])

/-- **A text that ends the script** was one command that failed, or no command at all. -/
theorem runText_stop {line : List Char} {app app' : ClientApp} (hready : app.Ready cfg)
    {executed : List Execution} {stop : ScriptStop}
    (h : runText cfg platform transport line app = some (.stop executed stop app')) :
    EndsScript cfg executed stop := by
  rw [runText, runTextPrinting_quiet] at h
  obtain ⟨⟨ok, cmd⟩, _, h⟩ := Option.bind_eq_some_iff.mp h
  simp only at h
  split at h
  · cases h
    exact Or.inr ⟨by decide, rfl⟩
  split at h
  · cases h
    exact Or.inr ⟨by decide, rfl⟩
  obtain ⟨⟨done, ending, app₂⟩, hexecute, h⟩ := Option.bind_eq_some_iff.mp h
  obtain ⟨_, _, hfailed⟩ := executeReplCommand_spec hready hexecute
  simp only at h
  split at h
  · rename_i hdone
    cases h
    exact Or.inl ⟨rfl, _, rfl, hfailed (by simpa using hdone)⟩
  · cases h

end Text

/-! ## A whole script -/

/-- The last of some things, or one of those before it. -/
theorem split_concat {α : Type} {before xs after : List α} {last x : α}
    (h : xs ++ [last] = before ++ x :: after) : (after = [] ∧ x = last) ∨ x ∈ xs := by
  rcases List.eq_nil_or_concat after with rfl | ⟨after', y, rfl⟩
  · exact Or.inl ⟨rfl, (List.cons.inj (List.append_inj_right' h rfl)).1.symm⟩
  · have hconcat : xs ++ [last] = (before ++ x :: after') ++ [y] := by
      rw [h, List.concat_eq_append, List.append_assoc, List.cons_append]
    have hfront : xs = before ++ x :: after' := List.append_inj_left' hconcat rfl
    exact Or.inr (hfront ▸ List.mem_append_right _ List.mem_cons_self)

section Script

variable {cfg : Config} {platform : Platform} {transport : Transport}

/-- The commands of a run: those that did not fail, and one that failed and ended the script. -/
structure RunCommands (cfg : Config) (r : ScriptRun) (before final : List Execution) : Prop where
  split : r.ended.outputs = before ++ final
  completed : ∀ e ∈ before, e.Completed cfg
  failed : ∀ e ∈ final, e.Failed cfg ∧ final = [e] ∧ r.ended.reason = some .commandFailed
  stopped : r.ended.reason = some .commandFailed → final ≠ []

/-- **The commands of a script**: all but the last did not fail, and the last one ended it if it
failed. -/
theorem scriptLoop_executed {lineNo : Nat} {text : List Char} {app : ClientApp}
    (hready : app.Ready cfg) {r : ScriptRun}
    (h : scriptLoop cfg platform transport lineNo text app = some r) :
    ∃ before final, RunCommands cfg r before final := by
  have htexts := @scriptLoop_texts cfg platform transport lineNo text app
  rw [h, Option.map_some] at htexts
  obtain ⟨before, final, hsplit, hbefore, hend⟩ :=
    run_rule (fun _ _ _ _ hs hturn => runText_next hs hturn)
      (fun _ _ _ _ _ hs hturn => runText_stop hs hturn) hready htexts.symm
  refine ⟨before, final, hsplit, hbefore, ?_, ?_⟩
  · intro e hmem
    rcases hend with ⟨_, rfl⟩ | ⟨stop, hstop, ⟨rfl, e', rfl, hfailed⟩ | ⟨_, rfl⟩⟩
    · cases hmem
    · rw [List.mem_singleton.mp hmem]
      exact ⟨hfailed, rfl, hstop⟩
    · cases hmem
  · rintro hstopped rfl
    rcases hend with ⟨hnone, _⟩ | ⟨stop, hstop, ⟨_, e, hnil, _⟩ | ⟨hother, _⟩⟩
    · rw [hnone] at hstopped
      cases hstopped
    · cases hnil
    · rw [hstop, Option.some.injEq] at hstopped
      exact hother hstopped

/-- A script that every failed command fails has no command that is answered with an error. -/
theorem RunCommands.not_answeredWithError {r : ScriptRun} {before final : List Execution}
    (hr : RunCommands cfg r before final) {rc : Nat} (hfail : FailedCommandsFail rc r) :
    ∀ e ∈ r.ended.outputs, ¬e.AnsweredWithError cfg := by
  intro e hmem herror
  rw [hr.split] at hmem
  rcases List.mem_append.mp hmem with hmem | hmem
  · -- the command went on, and did not end the script
    obtain ⟨hanswer, hneeds⟩ := hr.completed e hmem
    have hnot : ¬e.AnsweredOk := fun hok => ((hanswer (hneeds herror)).mp hok) herror
    obtain ⟨front, back, rfl⟩ := List.append_of_mem hmem
    obtain ⟨hlast, hstop, _⟩ := hfail.fails front e (back ++ final)
      (by rw [hr.split, List.append_assoc, List.cons_append]) (hneeds herror) hnot
    exact hr.stopped hstop (List.append_eq_nil_iff.mp hlast).2
  · exact (hr.failed e hmem).1.2 herror

/-- Without a command that is answered with an error, every failed command fails the script. -/
theorem RunCommands.failedCommandsFail {r : ScriptRun} {before final : List Execution}
    (hr : RunCommands cfg r before final)
    (hnone : ∀ e ∈ r.ended.outputs, ¬e.AnsweredWithError cfg) (ferror : Bool) :
    FailedCommandsFail (scriptRc ferror r.ended.reason) r := by
  have hok : ∀ e ∈ before, e.NeedsPlcIo → e.AnsweredOk := fun e hmem hneeds =>
    ((hr.completed e hmem).1 hneeds).mpr
      (hnone e (by rw [hr.split]; exact List.mem_append_left _ hmem))
  constructor
  · intro hrc e hmem hneeds
    rw [hr.split] at hmem
    rcases List.mem_append.mp hmem with hmem | hmem
    · exact hok e hmem hneeds
    · rw [(hr.failed e hmem).2.2] at hrc
      cases hrc
  · intro front e back hfront hneeds hnot
    have hmem : e ∈ before ++ final := by
      rw [← hr.split, hfront]
      exact List.mem_append_right _ List.mem_cons_self
    have hlast : e ∉ before := fun hmem => hnot (hok e hmem hneeds)
    obtain ⟨_, hfinal, hstop⟩ := hr.failed e ((List.mem_append.mp hmem).resolve_left hlast)
    rw [hr.split, hfinal] at hfront
    rcases split_concat hfront with ⟨rfl, _⟩ | hmem
    · refine ⟨rfl, hstop, ?_⟩
      rw [hstop]
      exact Nat.one_ne_zero
    · exact absurd hmem hlast

/-- A run of the texts of a script is a run of the script. -/
theorem scriptRun_ended {script : ScriptFile} {app : ClientApp}
    {ended : StoppingRun.Ended Execution ScriptStop ClientApp}
    (h : runTexts cfg platform transport (handedOver script.text) app = some ended) :
    ∃ r, scriptRun cfg platform transport (some script) app =
      some (scriptRc script.ferror ended.reason, some r) ∧ r.ended = ended := by
  have htexts := @scriptLoop_texts cfg platform transport 0 script.text app
  rw [← handedOver, h] at htexts
  obtain ⟨r, hloop, rfl⟩ := Option.map_eq_some_iff.mp htexts
  exact ⟨r, by rw [scriptRun_eq, hloop]; rfl, rfl⟩

/-- **A failed PLC command fails the script**, exactly if no command of it is answered with an
error. -/
theorem failed_commands_fail_iff (cfg : Config) (platform : Platform) (transport : Transport)
    (script : ScriptFile) (app : ClientApp) (hinv : app.ctx.Inv cfg)
    (huse : app.ctx.inUse = true) (rc : Nat) (r : ScriptRun)
    (h : scriptRun cfg platform transport (some script) app = some (rc, some r)) :
    FailedCommandsFail rc r ↔ ∀ e ∈ r.ended.outputs, ¬e.AnsweredWithError cfg := by
  rw [scriptRun_eq] at h
  obtain ⟨r', hloop, h⟩ := Option.map_eq_some_iff.mp h
  cases h
  obtain ⟨before, final, hr⟩ := scriptLoop_executed ⟨hinv, huse⟩ hloop
  exact ⟨hr.not_answeredWithError, fun hnone => hr.failedCommandsFail hnone script.ferror⟩

end Script

/-- The answer of a PLC to the request with the serial number 0. -/
def answerFrame (endCode : Byte) (payload : List Byte) : List Byte :=
  [0xD4, 0x00, 0x00, 0x00, 0x00, 0x00, 0x00, 0xFF, 0xFF, 0x03, 0x00,
    BitVec.ofNat 8 (2 + payload.length), 0x00, endCode, 0x00] ++ payload

/-- A peer that answers every request with the same frame, all at once. -/
def answeringPeer (frame : List Byte) : Transport :=
  fun _ => ⟨true, frame, [.deliver frame.length]⟩

/-- One word is read. -/
def getScript : ScriptFile := ⟨"get D0\n".toList, false⟩

theorem handedOver_getScript : handedOver getScript.text = ["get D0".toList] := by
  rw [handedOver_of_lines_fit (by decide +kernel)]
  decide +kernel

theorem startedApp_ready : startedApp.Ready .smallest :=
  acquired_inv (acquired_contextAfter (by decide +kernel))

theorem answered_script_succeeds : ∃ r,
    scriptRun .smallest lp64 (answeringPeer (answerFrame 0 [0x11, 0x22])) (some getScript)
      startedApp = some (0, some r) ∧ FailedCommandsFail 0 r := by
  let frame := answerFrame 0 [0x11, 0x22]
  have hrun : (runTexts .smallest lp64 (answeringPeer frame) ["get D0".toList] startedApp).map
      (fun ended => (ended.outputs.map (·.ending), ended.reason)) =
        some ([some (.answered .ok frame [.word 0 0x2211])], none) := by decide +kernel
  obtain ⟨ended, hended, heq⟩ := Option.map_eq_some_iff.mp hrun
  obtain ⟨houtputs, hreason⟩ := Prod.mk.inj heq
  rw [← handedOver_getScript] at hended
  obtain ⟨r, hscript, rfl⟩ := @scriptRun_ended _ _ _ getScript _ _ hended
  rw [hreason] at hscript
  refine ⟨r, hscript, (failed_commands_fail_iff .smallest lp64 (answeringPeer frame) getScript
    startedApp startedApp_ready.1 startedApp_ready.2 0 r hscript).mpr ?_⟩
  rintro e hmem ⟨status, received, report, hending, hcode⟩
  have hone : e.ending ∈ r.ended.outputs.map (·.ending) := List.mem_map_of_mem hmem
  rw [houtputs, hending, List.mem_singleton, Option.some.injEq] at hone
  cases hone
  revert hcode
  decide +kernel

/-- A command that is answered with an error does not fail the script. -/
theorem answered_error_succeeds : ¬∀ (cfg : Config) (platform : Platform) (transport : Transport)
    (script : ScriptFile) (app : ClientApp), app.ctx.Inv cfg → app.ctx.inUse = true →
    (∀ line ∈ script.text.splitOn '\n', line.length ≤ 510) →
    ∀ (rc : Nat) (r : ScriptRun),
      scriptRun cfg platform transport (some script) app = some (rc, some r) →
        FailedCommandsFail rc r := by
  intro h
  let frame := answerFrame 0x55 []
  have hrun : (runTexts .smallest lp64 (answeringPeer frame) ["get D0".toList] startedApp).map
      (fun ended => (ended.outputs.map fun e => (e.command.type, e.ending), ended.reason)) =
        some ([(.get, some (.answered .responseError frame [.plcError 0x55]))], none) := by
    decide +kernel
  obtain ⟨ended, hended, heq⟩ := Option.map_eq_some_iff.mp hrun
  obtain ⟨houtputs, hreason⟩ := Prod.mk.inj heq
  rw [← handedOver_getScript] at hended
  obtain ⟨r, hscript, rfl⟩ := @scriptRun_ended _ _ _ getScript _ _ hended
  rw [hreason] at hscript
  have hfail := h .smallest lp64 (answeringPeer frame) getScript startedApp startedApp_ready.1
    startedApp_ready.2 (by decide +kernel) 0 r hscript
  obtain ⟨e, hsingle, hexecuted⟩ := List.map_eq_singleton_iff.mp houtputs
  obtain ⟨htype, hending⟩ := Prod.mk.inj hexecuted
  have hneeds : e.NeedsPlcIo := by
    simp [Execution.NeedsPlcIo, clientCommandNeedsPlcIo, htype]
  obtain ⟨received, report, hok⟩ :=
    hfail.succeeds rfl e (hsingle ▸ List.mem_singleton_self e) hneeds
  cases hending.symm.trans hok

end Fx5
