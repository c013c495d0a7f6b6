import Fx5Slmp.OutputLog

/-!
# The transcript of a run

With tracing, the standard output says what went over the wire and what came of it, and everything
that it reports can be recomputed from the hexadecimal lines: a line `TX` holds a request, the lines
`RX` behind it hold what was received for it, and the results that follow are those of the first
viable frame in these bytes.

* `exchanges` — the log, cut into the exchanges that begin with a request;
* `explainedResults` — the results that follow from a request and the bytes received for it;
* `output_reports_results` — the results in the standard output of a run are those of its commands;
* `traced_output_explains_itself` — a traced run can be read back from its standard output, and its
  results follow from the bytes in it.
-/

set_option autoImplicit false

namespace Fx5

open CText LineLog StoppingRun

/-! ## Exchanges -/

/-- The entry says how a command ended. -/
def LogEntry.isResult : LogEntry → Bool
  | .sent _ | .received _ => false
  | _ => true

/-- The bytes of an entry that says what was received. -/
def LogEntry.receivedBytes : LogEntry → List Byte
  | .received data => data
  | _ => []

/-- A request, the bytes received for it, and the results. -/
structure LoggedExchange where
  request : List Byte
  received : List Byte
  results : List LogEntry
  deriving DecidableEq

/-- The exchange of a request with the entries behind it. -/
def LoggedExchange.of (request : List Byte) (log : List LogEntry) : LoggedExchange :=
  ⟨request, log.flatMap LogEntry.receivedBytes, log.filter LogEntry.isResult⟩

/-- The entries in front of the first request, and the exchanges. -/
def splitLog : List LogEntry → List LogEntry × List LoggedExchange
  | [] => ([], [])
  | .sent request :: log => ([], .of request (splitLog log).1 :: (splitLog log).2)
  | entry :: log => (entry :: (splitLog log).1, (splitLog log).2)

/-- The exchanges of a log. -/
def exchanges (log : List LogEntry) : List LoggedExchange := (splitLog log).2

/-- The exchanges that can be read from a text. -/
def loggedExchanges (text : List Char) : List LoggedExchange := exchanges (readLines readEntry text)

/-- The entry is no request. -/
def LogEntry.isSent : LogEntry → Bool
  | .sent _ => true
  | _ => false

section Split

theorem splitLog_other {entry : LogEntry} (h : entry.isSent = false) (log : List LogEntry) :
    splitLog (entry :: log) = (entry :: (splitLog log).1, (splitLog log).2) := by
  cases entry with
  | sent request => cases h
  | _ => rfl

/-- Entries without a request belong to the exchange in front of them. -/
theorem splitLog_of_none {log : List LogEntry} (h : ∀ e ∈ log, e.isSent = false) :
    splitLog log = (log, []) := by
  induction log with
  | nil => rfl
  | cons entry log ih =>
    obtain ⟨hentry, hlog⟩ := List.forall_mem_cons.mp h
    rw [splitLog_other hentry, ih hlog]

/-- **One more exchange.** -/
theorem exchanges_concat (log : List LogEntry) (request : List Byte) {tail : List LogEntry}
    (h : ∀ e ∈ tail, e.isSent = false) :
    exchanges (log ++ .sent request :: tail) = exchanges log ++ [.of request tail] := by
  have hsplit : splitLog (log ++ .sent request :: tail) =
      ((splitLog log).1, (splitLog log).2 ++ [.of request tail]) := by
    induction log with
    | nil => simp only [List.nil_append, splitLog, splitLog_of_none h]
    | cons entry log ih =>
      rw [List.cons_append]
      cases hentry : entry.isSent with
      | true =>
        cases entry with
        | sent first => simp only [splitLog, ih, List.cons_append]
        | _ => cases hentry
      | false => rw [splitLog_other hentry, splitLog_other hentry, ih]
  rw [exchanges, hsplit]
  rfl

end Split

/-! ## Explained results -/

/-- The entry of a point that was read. -/
def pointEntry (device : Device) (address : Nat) (value : Word) : LogEntry :=
  if isBitDevice device then .bit device address (value != 0) else .word device address value

/-- The results of a request that is answered with this packet. -/
def DecodedPdu.resultsOf (pdu : DecodedPdu) (packet : List Byte) : List LogEntry :=
  if le16At packet 0 ≠ FX5_RESPONSE_OK then [.plcError (le16At packet 0)]
  else if pdu.command = .batchWrite then [.ok]
  else (List.range pdu.count).map fun i => pointEntry pdu.device (pdu.address + i)
    (payloadValue pdu.device pdu.count (packet.drop FX5_RESP_PDU_HEADER_SIZE) i)

/-- The results that follow from a request and the bytes received for it: those of the first viable
frame in these bytes. -/
def explainedResults (cfg : Config) (request received : List Byte) : Option (List LogEntry) :=
  (decodeRequest request).map fun r =>
    r.pdu.resultsOf (packetOf (received.drop (frameStart cfg (r.serial.getD 0) received)))

section Explained

variable {cfg : Config} {cmd : ParsedCommand}

/-- An answer holds the bytes that were received. -/
theorem endWith_received {received packet bytes : List Byte} {status : Status}
    {report : List ReportLine} (h : cmd.endWith received packet = .answered status bytes report) :
    bytes = received := by
  unfold ParsedCommand.endWith at h
  split at h
  · cases h
    rfl
  · split at h
    · cases h
      rfl
    · cases h

/-- **An answer** is found in the first viable frame of all the bytes received. -/
theorem plainReceive_answered {events : List NetEvent} {received pending left bytes : List Byte}
    {status : Status} {report : List ReportLine}
    (hpending : pending = received.drop (frameStart cfg 0 received))
    (h : plainReceive cfg cmd received pending left events = some (.answered status bytes report)) :
    cmd.endWith bytes (packetOf (bytes.drop (frameStart cfg 0 bytes))) =
      .answered status bytes report := by
  induction events generalizing received pending left with
  | nil => cases h
  | cons event events ih =>
    cases event with
    | timeout | closed | error => cases h
    | deliver size =>
      have hle : frameStart cfg 0 received ≤ received.length := frameStart_le_length rfl
      have hscan : (pending ++ left.take size).drop (frameStart cfg 0 (pending ++ left.take size)) =
          (received ++ left.take size).drop (frameStart cfg 0 (received ++ left.take size)) := by
        rw [hpending, frameStart_append cfg 0 received, ← List.drop_drop,
          List.drop_append_of_le_length hle]
      rw [plainReceive] at h
      split at h
      · cases h
      simp only [hscan] at h
      split at h
      · cases h
      split at h
      · cases h
      split at h
      · have hend := Option.some.inj h
        rw [endWith_received hend]
        rw [endWith_received hend] at hend
        exact hend
      · exact ih rfl h

/-- A line with a value, as an entry. -/
theorem valueLine_entry (hdevice : isSupportedDevice cmd.device = true) {i : Nat}
    (haddress : cmd.startAddress.toNat + i < 4294967296) (value : Word) :
    (valueLine cmd.toClientCommand i value).entry cmd.device =
      some (pointEntry cmd.device (cmd.startAddress.toNat + i) value) := by
  have hsum : (cmd.startAddress + BitVec.ofNat 32 i).toNat = cmd.startAddress.toNat + i := by
    rw [BitVec.toNat_add, BitVec.toNat_ofNat]
    omega
  have hbit : clientIsBitDevice cmd.toClientCommand.device = isBitDevice cmd.device :=
    (client_device_tables cmd.device).1
  unfold valueLine pointEntry
  rw [hbit]
  split
  · show (if isSupportedDevice cmd.device then some (LogEntry.bit cmd.device
      (cmd.startAddress + BitVec.ofNat 32 i).toNat (value != 0)) else none) = _
    rw [if_pos hdevice, hsum]
  · show (if isSupportedDevice cmd.device then some (LogEntry.word cmd.device
      (cmd.startAddress + BitVec.ofNat 32 i).toNat value) else none) = _
    rw [if_pos hdevice, hsum]

/-- **The report of an answer** has the results that follow from the packet. -/
theorem endWith_results (hallowed : cmd.Allowed cfg) {received packet bytes : List Byte}
    {status : Status} {report : List ReportLine}
    (h : cmd.endWith received packet = .answered status bytes report) :
    report.map (ReportLine.entry cmd.device) = (cmd.pdu.resultsOf packet).map some := by
  obtain ⟨hdevice, _, hmax, haddress, _⟩ := hallowed
  unfold ParsedCommand.endWith at h
  unfold DecodedPdu.resultsOf
  split at h
  · rename_i herror
    cases h
    rw [if_pos herror]
    rfl
  · rename_i hok
    rw [if_neg hok]
    cases hreport : cmd.reportOf (packet.drop FX5_RESP_PDU_HEADER_SIZE) with
    | none =>
      rw [hreport] at h
      cases h
    | some lines =>
      rw [hreport] at h
      cases h
      unfold ParsedCommand.reportOf at hreport
      split at hreport
      · rename_i hset
        split at hreport
        · cases hreport
          rw [ParsedCommand.pdu, if_pos hset, if_pos rfl]
          rfl
        · cases hreport
      · rename_i hget
        split at hreport
        · cases hreport
          have hcommand : cmd.pdu.command = .batchRead := by rw [ParsedCommand.pdu, if_neg hget]
          rw [hcommand, if_neg (by decide), List.map_map, List.map_map]
          refine List.map_congr_left fun i hi => ?_
          have hcount := List.mem_range.mp hi
          have hlt := cmd.count.isLt
          rw [FX5_MAX_ADDRESS] at haddress
          exact valueLine_entry hdevice (by omega) _
        · cases hreport

end Explained

/-! ## Commands -/

/-- The lines of a report; a command that was not answered has none. -/
def CommandEnd.lines : CommandEnd → List ReportLine
  | .answered _ _ report => report
  | _ => []

/-- The lines that a command reports. -/
def Execution.lines (e : Execution) : List ReportLine := (e.ending.map CommandEnd.lines).getD []

/-- The command had a request. -/
def Execution.asked (e : Execution) : Bool :=
  match e.ending with
  | none | some (.applyFailed _) | some (.buildFailed _) => false
  | _ => true

/-- What is known of a command with this output: its request is read back as the command, and its
results follow from the request and from the bytes that were received. -/
structure Faithful (cfg : Config) (settings : NetworkSettings) (cmd : ParsedCommand)
    (ending : CommandEnd) (request : List Byte) : Prop where
  decoded : ending.requests request ≠ [] →
    decodeRequest request = some ⟨settings, firstSerial settings, cmd.pdu⟩
  results : ∀ status bytes report, ending = .answered status bytes report →
    report.map (ReportLine.entry cmd.device) =
      (cmd.pdu.resultsOf (packetOf (bytes.drop (frameStart cfg 0 bytes)))).map some

section Commands

variable {cfg : Config} {transport : Transport} {console console' : Console} {cmd : ParsedCommand}

/-- **An answered command** has the results that follow from the bytes received. -/
theorem answered_results (hsession : console.app.InSession cfg)
    (htype : cmd.type = .get ∨ cmd.type = .set) (hcmd : cmd.WellFormed) {status : Status}
    {bytes : List Byte} {report : List ReportLine} {app' : ClientApp}
    (h : appExecuteCommand cfg transport console.app cmd.toClientCommand =
      some (.answered status bytes report, app')) :
    report.map (ReportLine.entry cmd.device) =
      (cmd.pdu.resultsOf (packetOf (bytes.drop (frameStart cfg 0 bytes)))).map some := by
  have hplain := @appExecuteCommand_plain cfg transport console.app cmd hsession htype hcmd
  rw [h, Option.map_some] at hplain
  unfold plainExecute at hplain
  cases hrefusal : cmd.refusal cfg with
  | some refused =>
    rw [hrefusal] at hplain
    exact nomatch (Prod.mk.inj (Option.some.inj hplain)).1
  | none =>
    rw [hrefusal] at hplain
    simp only at hplain
    split at hplain
    · exact nomatch (Prod.mk.inj (Option.some.inj hplain)).1
    · obtain ⟨ending, hreceive, heq⟩ := Option.map_eq_some_iff.mp hplain.symm
      rw [(Prod.mk.inj heq).1] at hreceive
      exact endWith_results (refusal_none.mp hrefusal)
        (plainReceive_answered List.drop_nil.symm hreceive)

/-- **A get or set command** with its output. -/
theorem executeCommandPrinting_faithful (hsession : console.app.InSession cfg)
    (htype : cmd.type = .get ∨ cmd.type = .set) (hcmd : cmd.WellFormed) {ending : CommandEnd}
    (h : executeCommandPrinting cfg transport console cmd.toClientCommand =
      some (ending, console')) :
    ∃ request received,
      OutputOf transport console cmd.toClientCommand ending console' request received ∧
      Faithful cfg console.app.config.networkSettings cmd ending request := by
  obtain ⟨request, received, houtput⟩ := executeCommandPrinting_output h
  have happ := @executeCommandPrinting_erase cfg transport console cmd.toClientCommand
  rw [h, Option.map_some] at happ
  obtain ⟨_, hwire⟩ := appExecuteCommand_request hsession htype hcmd happ.symm
  rw [ClientApp.wire, houtput.sock, List.map_append] at hwire
  have hrequests := List.append_cancel_left hwire
  refine ⟨request, received, houtput, fun hasked => ?_, ?_⟩
  · have hone : ending.requests request = [request] := by
      cases ending with
      | applyFailed | buildFailed => exact absurd rfl hasked
      | _ => rfl
    rw [hone, ParsedCommand.requests] at hrequests
    split at hrequests
    · exact (List.cons.inj hrequests).1
    · cases hrequests
  · rintro status bytes report rfl
    exact answered_results hsession htype hcmd happ.symm

/-- A log behind more output. -/
theorem Console.log_append {more : List Printed} (h : console'.printed = console.printed ++ more) :
    console'.log = console.log ++ more.filterMap Printed.entry := by
  rw [Console.log, h, List.filterMap_append]
  rfl

theorem log_txLines (traceEnabled : Bool) (request : List Byte) :
    (txLines traceEnabled request).filterMap Printed.entry =
      if traceEnabled then [.sent request] else [] := by
  cases traceEnabled <;> rfl

theorem log_rxLines (traceEnabled : Bool) (received : List (List Byte)) :
    (rxLines traceEnabled received).filterMap Printed.entry =
      if traceEnabled then received.map .received else [] := by
  cases traceEnabled with
  | false => rfl
  | true =>
    rw [rxLines, if_pos rfl, if_pos rfl, List.filterMap_map]
    exact congrFun List.filterMap_eq_map received

/-- The entry of a report line is a result. -/
theorem entry_isResult {device : Device} {line : ReportLine} {entry : LogEntry}
    (h : line.entry device = some entry) : entry.isResult = true := by
  unfold ReportLine.entry at h
  split at h
  · cases h
    rfl
  · cases h
    rfl
  · split at h
    · cases h
      rfl
    · cases h
  · split at h
    · cases h
      rfl
    · cases h
  · cases h

/-- What the lines of a report add to the log are results. -/
theorem filter_lines (device : Device) (lines : List ReportLine) :
    (lines.filterMap (ReportLine.entry device)).filter LogEntry.isResult =
      lines.filterMap (ReportLine.entry device) := by
  refine List.filter_eq_self.mpr fun entry hmem => ?_
  obtain ⟨line, _, hentry⟩ := List.mem_filterMap.mp hmem
  exact entry_isResult hentry

theorem filter_received (received : List (List Byte)) :
    (received.map LogEntry.received).filter LogEntry.isResult = [] := by
  refine List.filter_eq_nil_iff.mpr fun entry hmem => ?_
  obtain ⟨data, _, rfl⟩ := List.mem_map.mp hmem
  exact Bool.false_ne_true

/-- The results in the output of a command are the lines of its report. -/
theorem results_of_printed (ending : CommandEnd) (traceEnabled : Bool) (device : Device)
    (request : List Byte) (received : List (List Byte)) :
    ((ending.printed traceEnabled device request received).filterMap Printed.entry).filter
        LogEntry.isResult = ending.lines.filterMap (ReportLine.entry device) := by
  have htx : ((txLines traceEnabled request).filterMap Printed.entry).filter LogEntry.isResult =
      [] := by
    rw [log_txLines]
    split <;> rfl
  have hrx : ((rxLines traceEnabled received).filterMap Printed.entry).filter LogEntry.isResult =
      [] := by
    rw [log_rxLines]
    split
    · exact filter_received received
    · rfl
  cases ending with
  | applyFailed | buildFailed => rfl
  | sendFailed =>
    rw [CommandEnd.printed, List.filterMap_append, List.filter_append, htx]
    rfl
  | receiveFailed reason =>
    rw [CommandEnd.printed, List.filterMap_append, List.filterMap_append, List.filter_append,
      List.filter_append, htx, hrx]
    cases reason <;> rfl
  | answered status bytes report =>
    rw [CommandEnd.printed, List.filterMap_append, List.filterMap_append, List.filter_append,
      List.filter_append, htx, hrx, List.filterMap_map]
    exact filter_lines device report

/-- The pieces that a command with this ending has received. -/
def CommandEnd.taken (received : List (List Byte)) : CommandEnd → List (List Byte)
  | .receiveFailed _ | .answered _ _ _ => received
  | _ => []

/-- With tracing, the output of a command that had a request begins with it. -/
theorem log_of_traced {ending : CommandEnd} {request : List Byte}
    (hasked : ending.requests request = [request]) (device : Device)
    (received : List (List Byte)) :
    (ending.printed true device request received).filterMap Printed.entry =
      .sent request :: ((ending.taken received).map LogEntry.received ++
        ending.lines.filterMap (ReportLine.entry device)) := by
  have hrx := log_rxLines true received
  rw [if_pos rfl] at hrx
  cases ending with
  | applyFailed | buildFailed => exact nomatch hasked
  | sendFailed => rfl
  | receiveFailed reason =>
    rw [CommandEnd.printed, List.filterMap_append, List.filterMap_append, log_txLines, if_pos rfl,
      hrx]
    cases reason <;> rfl
  | answered status bytes report =>
    rw [CommandEnd.printed, List.filterMap_append, List.filterMap_append, log_txLines, if_pos rfl,
      hrx, List.filterMap_map]
    rfl

/-- The exchange of a request with the pieces received for it and its results. -/
theorem exchange_of_lines (request : List Byte) (received : List (List Byte)) (device : Device)
    (lines : List ReportLine) :
    LoggedExchange.of request (received.map LogEntry.received ++
      lines.filterMap (ReportLine.entry device)) =
        ⟨request, received.flatten, lines.filterMap (ReportLine.entry device)⟩ := by
  have hbytes : (lines.filterMap (ReportLine.entry device)).flatMap LogEntry.receivedBytes = [] := by
    refine List.flatMap_eq_nil_iff.mpr fun entry hmem => ?_
    obtain ⟨line, _, hentry⟩ := List.mem_filterMap.mp hmem
    have hresult := entry_isResult hentry
    cases entry with
    | received data => cases hresult
    | _ => rfl
  have hpieces : (received.map LogEntry.received).flatMap LogEntry.receivedBytes =
      received.flatten := by
    rw [List.flatMap_map, List.flatMap_def]
    exact congrArg List.flatten (List.map_id received)
  rw [LoggedExchange.of, List.flatMap_append, List.filter_append, filter_received, filter_lines,
    hbytes, hpieces, List.append_nil, List.nil_append]

/-- **A command** runs on the wire, or prints one statement that gives no entry. -/
theorem executeReplCommandPrinting_cases {done : Bool} {ending : Option CommandEnd}
    (h : executeReplCommandPrinting cfg transport console cmd = some (done, ending, console')) :
    ((cmd.type = .get ∨ cmd.type = .set) ∧ ∃ ended, ending = some ended ∧
      executeCommandPrinting cfg transport console cmd.toClientCommand =
        some (ended, console') ∧ done = ended.succeeded) ∨
    (ending = none ∧ console'.app.sock = console.app.sock ∧
      console'.app.config.traceEnabled =
        (if cmd.type = .trace then cmd.traceEnabled else console.app.config.traceEnabled) ∧
      ∃ p : Printed, console'.printed = console.printed ++ [p] ∧ p.entry = none ∧
        p.stderr = []) := by
  unfold executeReplCommandPrinting at h
  cases htype : cmd.type with
  | get =>
    rw [htype] at h
    obtain ⟨⟨ended, console₂⟩, hexecute, h⟩ := Option.bind_eq_some_iff.mp h
    cases h
    exact Or.inl ⟨Or.inl rfl, ended, rfl, hexecute, rfl⟩
  | set =>
    rw [htype] at h
    obtain ⟨⟨ended, console₂⟩, hexecute, h⟩ := Option.bind_eq_some_iff.mp h
    cases h
    exact Or.inl ⟨Or.inr rfl, ended, rfl, hexecute, rfl⟩
  | _ =>
    rw [htype] at h
    cases h
    exact Or.inr ⟨rfl, rfl, rfl, _, rfl, rfl, rfl⟩

end Commands

/-! ## Whole runs -/

/-- The exchange is that of a command: its request is read back as the command, its results are the
lines reported, and with an answer they follow from the request and the bytes received. -/
structure LoggedExchange.Records (cfg : Config) (e : Execution) (x : LoggedExchange) : Prop where
  request : ∃ settings, decodeRequest x.request =
    some ⟨settings, firstSerial settings, e.command.pdu⟩
  results : x.results.map some = e.lines.map (ReportLine.entry e.command.device)
  answered : ∀ status bytes report, e.ending = some (.answered status bytes report) →
    x.received = bytes ∧ explainedResults cfg x.request x.received = some x.results

/-- The exchanges are those of a run: one for each command that had a request, in order; the
requests are what was given to the socket, and what was received for each had arrived behind it. -/
structure Transcribed (cfg : Config) (transport : Transport) (before : List (List Byte))
    (executed : List Execution) (sock : List (List Byte)) (xs : List LoggedExchange) : Prop where
  requests : sock = before ++ xs.map (·.request)
  arrived : ∀ i x, xs[i]? = some x → x.received <+:
    (transport (before ++ (xs.map (·.request)).take (i + 1))).stream
  recorded : List.Forall₂ (LoggedExchange.Records cfg) (executed.filter Execution.asked) xs

/-- The command does not switch tracing off. -/
def Execution.KeepsTrace (e : Execution) : Prop :=
  e.command.type = .trace → e.command.traceEnabled = true

/-- What the output of a run says: the results are those of the commands, and with tracing
throughout all exchanges are there. -/
structure OutputSays (cfg : Config) (transport : Transport) (start : ClientApp)
    (executed : List Execution) (console : Console) : Prop where
  session : console.app.InSession cfg
  results : (console.log.filter LogEntry.isResult).map some =
    executed.flatMap fun e => e.lines.map (ReportLine.entry e.command.device)
  traced : start.config.traceEnabled = true → (∀ e ∈ executed, e.KeepsTrace) →
    console.app.config.traceEnabled = true ∧
      Transcribed cfg transport start.sock executed console.app.sock (exchanges console.log)

section Runs

variable {cfg : Config} {platform : Platform} {transport : Transport} {start : ClientApp}
  {console console' : Console} {executed : List Execution} {before sock : List (List Byte)}
  {xs : List LoggedExchange}

/-- A command without a request. -/
theorem Transcribed.skip (h : Transcribed cfg transport before executed sock xs) {e : Execution}
    (hasked : e.asked = false) :
    Transcribed cfg transport before (executed ++ [e]) sock xs where
  requests := h.requests
  arrived := h.arrived
  recorded := by
    rw [List.filter_append, List.filter_cons_of_neg (by rw [hasked]; exact Bool.false_ne_true),
      List.filter_nil, List.append_nil]
    exact h.recorded

/-- **One more exchange** of a run. -/
theorem Transcribed.concat (h : Transcribed cfg transport before executed sock xs) {e : Execution}
    (hasked : e.asked = true) {x : LoggedExchange} (hrecords : x.Records cfg e)
    (harrived : x.received <+: (transport (sock ++ [x.request])).stream) :
    Transcribed cfg transport before (executed ++ [e]) (sock ++ [x.request]) (xs ++ [x]) where
  requests := by rw [h.requests, List.map_append, List.append_assoc, List.map_singleton]
  arrived := by
    intro i y hy
    rw [List.map_append, List.map_singleton]
    by_cases hi : i < xs.length
    · rw [List.getElem?_append_left hi] at hy
      rw [List.take_append_of_le_length (by rw [List.length_map]; omega)]
      exact h.arrived i y hy
    · obtain ⟨hlen, _⟩ := List.getElem?_eq_some_iff.mp hy
      rw [List.length_append, List.length_singleton] at hlen
      have hlast : i = xs.length := by omega
      rw [hlast, List.getElem?_concat_length] at hy
      cases hy
      rw [List.take_of_length_le (by
        rw [List.length_append, List.length_map, List.length_singleton]
        omega), ← List.append_assoc, ← h.requests]
      exact harrived
  recorded := by
    rw [List.filter_append, List.filter_cons_of_pos hasked, List.filter_nil]
    exact List.rel_append h.recorded (.cons hrecords .nil)

theorem OutputSays.nil (hsession : start.InSession cfg) (hlog : console.log = [])
    (happ : console.app = start) : OutputSays cfg transport start [] console where
  session := happ ▸ hsession
  results := by rw [hlog]; rfl
  traced := by
    intro htrace _
    rw [hlog, happ]
    exact ⟨htrace, ⟨(List.append_nil _).symm, nofun, .nil⟩⟩

/-- Output that gives no entry. -/
theorem OutputSays.quiet (h : OutputSays cfg transport start executed console)
    (hlog : console'.log = console.log) (happ : console'.app = console.app) :
    OutputSays cfg transport start executed console' where
  session := happ ▸ h.session
  results := hlog ▸ h.results
  traced := by
    rw [hlog, happ]
    exact h.traced

/-- A print statement without an entry adds nothing to the log. -/
theorem log_print_quiet {p : Printed} (h : p.entry = none) : (console.print [p]).log = console.log := by
  rw [Console.log_append (show (console.print [p]).printed = console.printed ++ [p] from rfl),
    List.filterMap_cons, h]
  exact List.append_nil _

/-- A list whose image has no gaps. -/
theorem filterMap_of_map_some {α β : Type} {f : α → Option β} {l : List α} {m : List β}
    (h : l.map f = m.map some) : l.filterMap f = m := by
  have hid := congrArg (List.filterMap id) h
  rwa [List.filterMap_map, List.filterMap_map, Function.id_comp, Function.id_comp,
    List.filterMap_some] at hid

/-- Every line that a command reports has an entry. -/
theorem Faithful.lines {settings : NetworkSettings} {cmd : ParsedCommand} {ending : CommandEnd}
    {request : List Byte} (h : Faithful cfg settings cmd ending request) :
    (ending.lines.filterMap (ReportLine.entry cmd.device)).map some =
      ending.lines.map (ReportLine.entry cmd.device) := by
  cases ending with
  | answered status bytes report =>
    have hresults := h.results _ _ _ rfl
    show (report.filterMap (ReportLine.entry cmd.device)).map some =
      report.map (ReportLine.entry cmd.device)
    rw [filterMap_of_map_some hresults, hresults]
  | _ => rfl

/-- **A traced command** is one more exchange, if it had a request. -/
theorem Transcribed.command {cmd : ParsedCommand} {ending : CommandEnd} {request : List Byte}
    {received : List (List Byte)}
    (h : Transcribed cfg transport before executed console.app.sock (exchanges console.log))
    (htrace : console.app.config.traceEnabled = true)
    (houtput : OutputOf transport console cmd.toClientCommand ending console' request received)
    (hfaithful : Faithful cfg console.app.config.networkSettings cmd ending request) :
    Transcribed cfg transport before (executed ++ [⟨cmd, some ending⟩]) console'.app.sock
      (exchanges console'.log) := by
  have hlog := Console.log_append houtput.printed
  rw [htrace] at hlog
  by_cases hasked : ending.requests request = [request]
  · have hsent : (⟨cmd, some ending⟩ : Execution).asked = true := by
      cases ending with
      | applyFailed | buildFailed => exact nomatch hasked
      | _ => rfl
    have htail : ∀ e ∈ (ending.taken received).map LogEntry.received ++
        ending.lines.filterMap (ReportLine.entry cmd.device), e.isSent = false := by
      intro e he
      rcases List.mem_append.mp he with he | he
      · obtain ⟨data, _, rfl⟩ := List.mem_map.mp he
        rfl
      · obtain ⟨line, _, hentry⟩ := List.mem_filterMap.mp he
        have hresult := entry_isResult hentry
        cases e with
        | sent data => cases hresult
        | _ => rfl
    have hdecoded := hfaithful.decoded (by rw [hasked]; exact List.cons_ne_nil _ _)
    rw [houtput.sock, hasked, hlog, log_of_traced hasked]
    have hexchanges := exchanges_concat console.log request htail
    rw [exchange_of_lines] at hexchanges
    have hprefix : (ending.taken received).flatten <+:
        (transport (console.app.sock ++ [request])).stream := by
      cases ending with
      | receiveFailed | answered => exact houtput.arrived
      | _ => exact List.nil_prefix
    have hrecords : LoggedExchange.Records cfg ⟨cmd, some ending⟩ ⟨request,
        (ending.taken received).flatten,
        ending.lines.filterMap (ReportLine.entry cmd.device)⟩ := by
      refine ⟨⟨_, hdecoded⟩, hfaithful.lines, fun status bytes report hended => ?_⟩
      cases hended
      have hbytes : received.flatten = bytes := (houtput.answered _ _ _ rfl).symm
      refine ⟨hbytes, ?_⟩
      show (decodeRequest request).map _ = some (report.filterMap (ReportLine.entry cmd.device))
      rw [hdecoded, Option.map_some, filterMap_of_map_some (hfaithful.results _ _ _ rfl)]
      simp only [firstSerial_getD, ← hbytes]
      rfl
    exact (congrArg (Transcribed cfg transport before _ _) hexchanges).mpr
      (h.concat hsent hrecords hprefix)
  · have hnone : ending.requests request = [] ∧
        (⟨cmd, some ending⟩ : Execution).asked = false ∧
        (ending.printed true cmd.toClientCommand.device request received).filterMap
          Printed.entry = [] := by
      cases ending with
      | applyFailed | buildFailed => exact ⟨rfl, rfl, rfl⟩
      | _ => exact absurd rfl hasked
    rw [houtput.sock, hnone.1, List.append_nil, hlog, hnone.2.2, List.append_nil]
    exact h.skip hnone.2.1

/-- **One more command.** -/
theorem OutputSays.command (h : OutputSays cfg transport start executed console)
    {cmd : ParsedCommand} (hcmd : cmd.WellFormed) {done : Bool} {ending : Option CommandEnd}
    (hexecute : executeReplCommandPrinting cfg transport console cmd =
      some (done, ending, console')) :
    OutputSays cfg transport start (executed ++ [⟨cmd, ending⟩]) console' := by
  have herase := @executeReplCommandPrinting_erase cfg transport console cmd
  rw [hexecute, Option.map_some] at herase
  have hsession := (executeReplCommand_effects h.session hcmd herase.symm).session
  rcases executeReplCommandPrinting_cases hexecute with
    ⟨htype, ended, rfl, hplc, _⟩ | ⟨rfl, hsock, htrace, p, hprinted, hentry, _⟩
  · obtain ⟨request, received, houtput, hfaithful⟩ :=
      executeCommandPrinting_faithful h.session htype hcmd hplc
    have hlog := Console.log_append houtput.printed
    refine ⟨hsession, ?_, fun hstart hkeeps => ?_⟩
    · rw [hlog, List.filter_append, List.map_append, h.results, List.flatMap_append,
        results_of_printed, List.flatMap_singleton]
      exact congrArg _ hfaithful.lines
    · obtain ⟨htraced, htranscribed⟩ := h.traced hstart fun e he =>
        hkeeps e (List.mem_append_left _ he)
      exact ⟨by rw [houtput.config, htraced], htranscribed.command htraced houtput hfaithful⟩
  · have hlog : console'.log = console.log := by
      rw [Console.log_append hprinted, List.filterMap_cons, hentry]
      exact List.append_nil _
    refine ⟨hsession, ?_, fun hstart hkeeps => ?_⟩
    · rw [hlog, h.results, List.flatMap_append, List.flatMap_singleton]
      exact (List.append_nil _).symm
    · obtain ⟨htraced, htranscribed⟩ := h.traced hstart fun e he =>
        hkeeps e (List.mem_append_left _ he)
      refine ⟨?_, ?_⟩
      · rw [htrace]
        split
        · rename_i htype
          exact hkeeps _ (List.mem_append_right _ (List.mem_singleton.mpr rfl)) htype
        · exact htraced
      · rw [hlog, hsock]
        exact htranscribed.skip rfl

/-- A piece of a script. -/
theorem scriptTurnPrinting_logged (h : OutputSays cfg transport start executed console) {lineNo : Nat}
    {lineBuffer : List Char} {turn : StoppingRun.Turn Execution ScriptStop Console}
    (hturn : scriptTurnPrinting cfg platform transport lineNo lineBuffer console = some turn) :
    OutputSays cfg transport start (executed ++ turn.outputs) turn.state := by
  have hnone : OutputSays cfg transport start (executed ++ []) console :=
    (List.append_nil executed).symm ▸ h
  rcases scriptTurnPrinting_cases hturn with ⟨_, rfl⟩ |
    ⟨line, ok, cmd, _, hparse, ⟨_, rfl⟩ | ⟨_, _, rfl⟩ |
      ⟨rfl, _, done, ending, console₂, hexecute, ⟨_, rfl⟩ | ⟨_, rfl⟩⟩⟩
  · exact hnone
  · exact hnone.quiet (log_print_quiet rfl) rfl
  · exact hnone
  · exact h.command (accepted_wellFormed hparse) hexecute
  · exact (h.command (accepted_wellFormed hparse) hexecute).quiet (log_print_quiet rfl) rfl

/-- A piece of the standard input. -/
theorem promptedTurn_logged (h : OutputSays cfg transport start executed console)
    {lineBuffer : List Char} {turn : StoppingRun.Turn ReplEvent ReplStop Console}
    (hturn : promptedTurn cfg platform transport lineBuffer console = some turn) :
    OutputSays cfg transport start (executed ++ turn.outputs.filterMap ReplEvent.execution)
      turn.state := by
  have hprompt : OutputSays cfg transport start executed (console.print [.prompt]) :=
    h.quiet (log_print_quiet rfl) rfl
  have hnone : OutputSays cfg transport start (executed ++ []) (console.print [.prompt]) :=
    (List.append_nil executed).symm ▸ hprompt
  rcases replTurnPrinting_cases hturn with ⟨_, rfl⟩ |
    ⟨line, ok, cmd, _, hparse, ⟨_, rfl⟩ | ⟨_, _, rfl⟩ |
      ⟨rfl, _, done, ending, console₂, hexecute, rfl⟩⟩
  · exact hnone
  · exact hnone.quiet (log_print_quiet rfl) rfl
  · exact hnone
  · exact hprompt.command (accepted_wellFormed hparse) hexecute

/-- **The output of a script** says what its commands did. -/
theorem scriptRunPrinting_logged (hsession : start.InSession cfg) {path : List Char}
    {script : ScriptFile} {rc : Nat} {r : Ended Execution ScriptStop Console}
    (h : scriptRunPrinting cfg platform transport path (some script) ⟨start, []⟩ = some (rc, r)) :
    OutputSays cfg transport start r.outputs r.state := by
  obtain ⟨ended, hloop, h⟩ := Option.bind_eq_some_iff.mp h
  rw [scriptLoopPrinting_pieces] at hloop
  have hstart : OutputSays cfg transport start [] ⟨start, []⟩ := OutputSays.nil hsession rfl rfl
  have hend := @run_history _ _ _ _ _
    (fun executed console => OutputSays cfg transport start executed console)
    (fun _ _ _ _ hs hturn => scriptTurnPrinting_logged hs hturn) _ _ [] hstart _ hloop
  cases h
  refine hend.quiet ?_ rfl
  simp only
  split
  · exact log_print_quiet rfl
  · exact congrArg (List.filterMap Printed.entry) (List.append_nil _)

/-- **The output of interactive mode** says what the commands did. -/
theorem replRunPrinting_logged (hsession : start.InSession cfg) {input : List Char} {rc : Nat}
    {r : Ended ReplEvent ReplStop Console}
    (h : replRunPrinting cfg platform transport input ⟨start, []⟩ = some (rc, r)) :
    OutputSays cfg transport start (r.outputs.filterMap ReplEvent.execution) r.state := by
  obtain ⟨ended, hloop, h⟩ := Option.bind_eq_some_iff.mp h
  cases h
  rw [replLoopPrinting_pieces] at hloop
  obtain ⟨before, hrun, rfl⟩ := Option.map_eq_some_iff.mp hloop
  have hstart : OutputSays cfg transport start [] ((⟨start, []⟩ : Console).print [.greeting]) :=
    OutputSays.nil hsession rfl rfl
  have hend := @run_history _ _ _ _ _
    (fun events console =>
      OutputSays cfg transport start (events.filterMap ReplEvent.execution) console)
    (fun _ _ _ _ hs hturn => by
      rw [List.filterMap_append]
      exact promptedTurn_logged hs hturn) _ _ [] hstart _ hrun
  unfold atInputEnd
  split
  · exact hend.quiet (by
      rw [Console.log_append rfl]
      exact List.append_nil _) rfl
  · exact hend

end Runs

/-- The results that can be read from a text. -/
def loggedResults (text : List Char) : List LogEntry :=
  (readLines readEntry text).filter LogEntry.isResult

/-- **The standard output reports the results.**  Whatever the peer does and whatever is traced: what
can be read from the standard output of a script, and of interactive mode, are the lines reported for
the commands that were executed, each of them and in order. -/
theorem output_reports_results {cfg : Config} (platform : Platform) (transport : Transport)
    {start : ClientApp} (hready : start.Ready cfg)
    (hheader : HeaderAccepted start.config.networkSettings.headerType) :
    (∀ path script rc r,
      scriptRunPrinting cfg platform transport path (some script) ⟨start, []⟩ = some (rc, r) →
      (loggedResults r.state.stdout).map some =
        r.outputs.flatMap fun e => e.lines.map (ReportLine.entry e.command.device)) ∧
    ∀ input rc r, replRunPrinting cfg platform transport input ⟨start, []⟩ = some (rc, r) →
      (loggedResults r.state.stdout).map some =
        (r.outputs.filterMap ReplEvent.execution).flatMap fun e =>
          e.lines.map (ReportLine.entry e.command.device) := by
  constructor
  · intro path script rc r h
    rw [loggedResults, readLines_stdout]
    exact (scriptRunPrinting_logged ⟨hready, hheader⟩ h).results
  · intro input rc r h
    rw [loggedResults, readLines_stdout]
    exact (replRunPrinting_logged ⟨hready, hheader⟩ h).results

theorem numberedPieces_getScript : numberedPieces 0 getScript.text = [(1, "get D0\n".toList)] := by
  have hpieces : pieces 510 getScript.text = ["get D0\n".toList] := by
    have hread : fgets (510 + 2) getScript.text = some ("get D0\n".toList, []) := by decide +kernel
    rw [pieces_fgets hread, pieces_nil]
  rw [numberedPieces, hpieces]
  rfl

theorem getScript_reported : ∃ r, scriptRunPrinting .smallest lp64 noisyPeer [] (some getScript)
      ⟨startedApp, []⟩ = some (0, r) ∧
    (loggedResults r.state.stdout).map some =
      (r.outputs.flatMap fun e => e.lines.map (ReportLine.entry e.command.device)) ∧
    loggedResults r.state.stdout = [.word .D 0 0x2211] := by
  have hrun : (scriptRunPrinting .smallest lp64 noisyPeer [] (some getScript)
      ⟨startedApp, []⟩).map (fun r => (r.1, loggedResults r.2.state.stdout)) =
        some (0, [.word .D 0 0x2211]) := by
    rw [scriptRunPrinting, scriptLoopPrinting_pieces, numberedPieces_getScript]
    decide +kernel
  obtain ⟨⟨rc, r⟩, hr, heq⟩ := Option.map_eq_some_iff.mp hrun
  obtain ⟨rfl, hresults⟩ := Prod.mk.inj heq
  exact ⟨r, hr, (output_reports_results lp64 noisyPeer startedApp_ready (Or.inr rfl)).1 _ _ _ _ hr,
    hresults⟩

/-- **A traced run explains itself.**  Whatever the peer does, when tracing is on from the start and
no command switches it off, the exchanges can be read from the standard output: one for each command
that had a request, in order, with the bytes that were given to the socket and the bytes that were
received behind them.  Each request is read back as the command; the results printed for it are the
lines reported, and they follow from the hexadecimal lines alone: they are those of the first viable
frame in the bytes received. -/
theorem traced_output_explains_itself {cfg : Config} (platform : Platform) (transport : Transport)
    {start : ClientApp} (hready : start.Ready cfg)
    (hheader : HeaderAccepted start.config.networkSettings.headerType)
    (htrace : start.config.traceEnabled = true) :
    (∀ path script rc r,
      scriptRunPrinting cfg platform transport path (some script) ⟨start, []⟩ = some (rc, r) →
      (∀ e ∈ r.outputs, e.KeepsTrace) →
      Transcribed cfg transport start.sock r.outputs r.state.app.sock
        (loggedExchanges r.state.stdout)) ∧
    ∀ input rc r, replRunPrinting cfg platform transport input ⟨start, []⟩ = some (rc, r) →
      (∀ e ∈ r.outputs.filterMap ReplEvent.execution, e.KeepsTrace) →
      Transcribed cfg transport start.sock (r.outputs.filterMap ReplEvent.execution)
        r.state.app.sock (loggedExchanges r.state.stdout) := by
  constructor
  · intro path script rc r h hkeeps
    rw [loggedExchanges, readLines_stdout]
    exact ((scriptRunPrinting_logged ⟨hready, hheader⟩ h).traced htrace hkeeps).2
  · intro input rc r h hkeeps
    rw [loggedExchanges, readLines_stdout]
    exact ((replRunPrinting_logged ⟨hready, hheader⟩ h).traced htrace hkeeps).2

/-- The client after its start, with tracing. -/
def tracedApp : ClientApp :=
  { startedApp with config := { startedApp.config with traceEnabled := true } }

/-- The byte of garbage and the frame behind it are in the exchange. -/
theorem getScript_explained : ∃ r, scriptRunPrinting .smallest lp64 noisyPeer [] (some getScript)
      ⟨tracedApp, []⟩ = some (0, r) ∧
    Transcribed .smallest noisyPeer tracedApp.sock r.outputs r.state.app.sock
      (loggedExchanges r.state.stdout) ∧
    (loggedExchanges r.state.stdout).map (fun x => (x.received, x.results)) =
      [(0xAA#8 :: answerFrame 0x00 [0x11, 0x22], [.word .D 0 0x2211])] := by
  have hrun : (scriptRunPrinting .smallest lp64 noisyPeer [] (some getScript)
      ⟨tracedApp, []⟩).map (fun r => (r.1, r.2.outputs.map (fun e => e.command.type),
        (loggedExchanges r.2.state.stdout).map fun x => (x.received, x.results))) =
      some (0, [.get], [(0xAA#8 :: answerFrame 0x00 [0x11, 0x22], [.word .D 0 0x2211])]) := by
    rw [scriptRunPrinting, scriptLoopPrinting_pieces, numberedPieces_getScript]
    decide +kernel
  obtain ⟨⟨rc, r⟩, hr, heq⟩ := Option.map_eq_some_iff.mp hrun
  obtain ⟨rfl, heq⟩ := Prod.mk.inj heq
  obtain ⟨htypes, hexchanges⟩ := Prod.mk.inj heq
  have hkeeps : ∀ e ∈ r.outputs, e.KeepsTrace := by
    intro e he htype
    have hget : e.command.type ∈ r.outputs.map (fun e => e.command.type) :=
      List.mem_map_of_mem he
    rw [htypes, htype] at hget
    exact absurd hget (by decide)
  exact ⟨r, hr, (@traced_output_explains_itself .smallest lp64 noisyPeer tracedApp startedApp_ready
    (Or.inr rfl) rfl).1 _ _ _ _ hr hkeeps, hexchanges⟩

end Fx5
