import Fx5Slmp.AnyPeer
import Fx5Slmp.Lib.LastUpdate

/-!
# What the client reads is what was written last

Over a whole script, and over a whole run of interactive mode, the value that a get command reports
for a point is the one that the last acknowledged set command before it gave to the point, or the
one from before the run.

* `DeviceMemory.point_write` — the points that one write changes;
* `perform_assigns` — one command changes exactly the points that it assigns;
* `script_reads_last_written` — the reports and the memory behind a script;
* `repl_reads_last_written` — interactive mode, in which commands that fail are passed over.
-/

set_option autoImplicit false

namespace Fx5

open CText LastUpdate RangeStore

/-- A value as a point of the device shows it. -/
def shownValue (device : Device) (value : Word) : Word :=
  if isBitDevice device then if value != 0 then FX5_BIT_TRUE else FX5_BIT_FALSE else value

/-- The value that a command gives to a point; only an acknowledged set command gives one. -/
def SessionEntry.assigns (device : Device) (address : Nat) (e : SessionEntry) : Option Word :=
  if e.command.type = .set ∧ e.report = some [.ok] ∧ e.command.device = device then
    (assigned e.command.startAddress.toNat (e.command.values.take e.command.count.toNat)
      address).map (shownValue device)
  else none

/-- The value of a point after some commands. -/
def pointAfter (m : DeviceMemory) (entries : List SessionEntry) (device : Device) (address : Nat) :
    Word :=
  (lastSome (SessionEntry.assigns device address) entries).getD (m.point device address)

/-- What a get command reports that the PLC accepts, when `point` are the values in its memory: a line
for every point, if the client allows the command. -/
def SessionEntry.Reads (cfg : Config) (plc : Plc) (point : Device → Nat → Word) (e : SessionEntry) :
    Prop :=
  e.command.type = .get → plc.endCode e.command.pdu = 0 →
    e.report = if e.command.Allowed cfg then
      some ((List.range e.command.count.toNat).map fun i =>
        valueLine e.command.toClientCommand i
          (point e.command.device (e.command.startAddress.toNat + i)))
    else none

/-- The reports of a session and the memory behind it, by the commands before. -/
structure SessionHistory (cfg : Config) (plc : Plc) (m : DeviceMemory) (entries : List SessionEntry)
    (m' : DeviceMemory) : Prop where
  memory : ∀ device address, m'.point device address = pointAfter m entries device address
  reads : ∀ (n : Nat) (hn : n < entries.length),
    (entries[n]).Reads cfg plc (pointAfter m (entries.take n))

section Points

variable {cfg : Config} {plc : Plc} {m m' : DeviceMemory} {cmd : ParsedCommand}

/-- **One write** changes the points of its range. -/
theorem DeviceMemory.point_write (m : DeviceMemory) (written : Device) (start : Nat)
    (values : List Word) (device : Device) (address : Nat) :
    (m.write written start (valuesPayload written values)).point device address =
      (if written = device then (assigned start values address).map (shownValue device)
        else none).getD (m.point device address) := by
  unfold DeviceMemory.point valuesPayload
  by_cases hdevice : written = device
  · subst hdevice
    rw [if_pos rfl]
    cases hbit : isBitDevice written with
    | true =>
      simp only [if_true, DeviceMemory.write, Function.update_self, write_eq, assigned_map]
      cases assigned start values address with
      | none => rfl
      | some v => simp [shownValue, hbit]
    | false =>
      simp only [Bool.false_eq_true, if_false, DeviceMemory.write, Function.update_self, write_eq]
      cases assigned start values address with
      | none => rfl
      | some v => simp [shownValue, hbit]
  · have hne : device ≠ written := Ne.symm hdevice
    rw [if_neg hdevice, Option.getD_none]
    cases isBitDevice written with
    | true => simp only [if_true, DeviceMemory.write, Function.update_of_ne hne]
    | false =>
      simp only [Bool.false_eq_true, if_false, DeviceMemory.write, Function.update_of_ne hne]

/-- **One command** changes exactly the points that it assigns. -/
theorem perform_assigns {report : Option (List ReportLine)}
    (h : plc.perform cfg cmd m = some (report, m')) (device : Device) (address : Nat) :
    m'.point device address =
      (SessionEntry.assigns device address ⟨cmd, report⟩).getD (m.point device address) := by
  have hother (hset : cmd.type ≠ .set) (hm : m' = m) : m'.point device address =
      (SessionEntry.assigns device address ⟨cmd, report⟩).getD (m.point device address) := by
    rw [SessionEntry.assigns, if_neg fun hand => hset hand.1, hm, Option.getD_none]
  unfold Plc.perform at h
  cases htype : cmd.type with
  | help | trace | header =>
    rw [htype] at h
    cases h
    exact hother (by rw [htype]; decide) rfl
  | invalid | quit =>
    rw [htype] at h
    cases h
  | get =>
    rw [htype] at h
    simp only at h
    split at h
    · cases h
      refine hother (by rw [htype]; decide) ?_
      have hpayload : cmd.pdu.payload = none := if_neg (by rw [htype]; decide)
      rw [Plc.next, hpayload]
      exact ite_self m
    · cases h
  | set =>
    rw [htype] at h
    simp only at h
    split at h
    · cases h
      unfold Plc.next Plc.report SessionEntry.assigns
      by_cases hok : plc.endCode cmd.pdu = 0
      · rw [if_pos hok, if_neg (not_not.mpr hok), if_pos htype]
        simp only [ParsedCommand.pdu, htype, if_true, true_and]
        exact m.point_write cmd.device _ _ device address
      · rw [if_neg hok, if_pos hok, if_neg, Option.getD_none]
        rintro ⟨_, hreport, _⟩
        cases hreport
    · cases h

/-- **What a get command reports** of the memory. -/
theorem perform_reads {report : Option (List ReportLine)}
    (h : plc.perform cfg cmd m = some (report, m')) :
    SessionEntry.Reads cfg plc m.point ⟨cmd, report⟩ := by
  intro hget hok
  have hget : cmd.type = .get := hget
  have hok : plc.endCode cmd.pdu = 0 := hok
  rw [Plc.perform, hget] at h
  simp only at h
  split at h
  · rename_i hallowed
    cases h
    rw [if_pos hallowed, Plc.report, if_neg (not_not.mpr hok), if_neg (by rw [hget]; decide)]
  · cases h

/-- A get command that the client does not allow reports nothing. -/
theorem unperformed_reads (h : plc.perform cfg cmd m = none) (point : Device → Nat → Word) :
    SessionEntry.Reads cfg plc point ⟨cmd, none⟩ := by
  intro hget _
  have hget : cmd.type = .get := hget
  rw [Plc.perform, hget] at h
  simp only at h
  split at h
  · cases h
  · rename_i hnot
    exact (if_neg hnot).symm

end Points

/-! ## Whole sessions -/

section History

variable {cfg : Config} {platform : Platform} {plc : Plc} {m m₁ m₂ : DeviceMemory}
  {entries : List SessionEntry} {entry : SessionEntry}

/-- **One more command** of a session. -/
theorem SessionHistory.concat (h : SessionHistory cfg plc m entries m₁)
    (hmemory : ∀ device address, m₂.point device address =
      (entry.assigns device address).getD (m₁.point device address))
    (hreads : entry.Reads cfg plc m₁.point) :
    SessionHistory cfg plc m (entries ++ [entry]) m₂ := by
  constructor
  · intro device address
    rw [hmemory, h.memory, pointAfter, pointAfter, lastSome_concat]
    cases entry.assigns device address with
    | none => rw [Option.none_or, Option.getD_none]
    | some v => rfl
  · intro n hn
    rw [List.length_append, List.length_singleton] at hn
    rcases Nat.lt_or_ge n entries.length with hlt | hge
    · rw [List.getElem_append_left hlt, List.take_append_of_le_length (Nat.le_of_lt hlt)]
      exact h.reads n hlt
    · obtain rfl : n = entries.length := by omega
      have hpoint : m₁.point = pointAfter m entries := funext fun device => funext (h.memory device)
      rw [List.getElem_concat_length rfl, List.take_left, ← hpoint]
      exact hreads

/-- **A command without a report** leaves the memory as it is. -/
theorem SessionHistory.unperformed (h : SessionHistory cfg plc m entries m₁) {cmd : ParsedCommand}
    {memory : DeviceMemory} (hnone : plc.perform cfg cmd memory = none) :
    SessionHistory cfg plc m (entries ++ [⟨cmd, none⟩]) m₁ := by
  refine h.concat (fun device address => ?_) (unperformed_reads hnone _)
  rw [SessionEntry.assigns, if_neg, Option.getD_none]
  rintro ⟨_, hreport, _⟩
  cases hreport

/-- One text of a session. -/
theorem sessionTurn_history (h : SessionHistory cfg plc m entries m₁) {line : List Char}
    {turn : StoppingRun.Turn SessionEntry ScriptStop DeviceMemory}
    (hturn : sessionTurn cfg platform plc line m₁ = some turn) :
    SessionHistory cfg plc m (entries ++ turn.outputs) turn.state := by
  have hnone : SessionHistory cfg plc m (entries ++ []) m₁ := (List.append_nil entries).symm ▸ h
  unfold sessionTurn at hturn
  obtain ⟨⟨ok, cmd⟩, _, hturn⟩ := Option.bind_eq_some_iff.mp hturn
  simp only at hturn
  split at hturn
  · cases hturn
    exact hnone
  split at hturn
  · cases hturn
    exact hnone
  cases hperform : plc.perform cfg cmd m₁ with
  | none =>
    -- a command that is not allowed has no report
    rw [hperform] at hturn
    cases hturn
    exact h.unperformed hperform
  | some performed =>
    obtain ⟨report, m₂⟩ := performed
    rw [hperform] at hturn
    cases hturn
    exact h.concat (perform_assigns hperform) (perform_reads hperform)

/-- **A whole session** reports what was written last. -/
theorem session_history (texts : List (List Char))
    {ended : StoppingRun.Ended SessionEntry ScriptStop DeviceMemory}
    (h : session cfg platform plc texts m = some ended) :
    SessionHistory cfg plc m ended.outputs ended.state := by
  have hstart : SessionHistory cfg plc m [] m := ⟨fun _ _ => rfl, fun n hn => absurd hn (by simp)⟩
  have hrun := StoppingRun.run_history (J := SessionHistory cfg plc m)
    (fun _ _ _ _ hs hturn => sessionTurn_history hs hturn) hstart h
  rwa [List.nil_append] at hrun

end History

/-- **A script reads what was written last.**  With a PLC behind the client, every get command that
is executed, that the client allows and the PLC accepts reports for each point the value that the last
acknowledged set command of the script before it gave to the point, or the value from before the
script; and the same values are in the memory of the PLC behind the script. -/
theorem script_reads_last_written {cfg : Config} (platform : Platform) {transport : Transport}
    {plc : Plc} {m : DeviceMemory} (hplc : plc.Behind cfg m transport) {app : ClientApp}
    (hready : app.Ready cfg) (hheader : HeaderAccepted app.config.networkSettings.headerType)
    {script : ScriptFile} {rc : Nat} {r : ScriptRun}
    (h : scriptRun cfg platform transport (some script) app = some (rc, some r)) :
    SessionHistory cfg plc (app.memory plc m) (r.ended.outputs.map Execution.entry)
      (r.ended.state.memory plc m) := by
  have hsession := runTexts_session platform hplc ⟨hready, hheader⟩ (handedOver script.text)
  rw [runTexts, (scriptRun_run h).2, Option.map_some] at hsession
  exact session_history _ hsession.symm

/-- Two bits are written, one of them again, and both are read. -/
def rewriteScript : ScriptFile := ⟨"set M0-1=1,0\nset M1=1\nget M0-1\n".toList, false⟩

theorem handedOver_rewriteScript : handedOver rewriteScript.text =
    ["set M0-1=1,0".toList, "set M1=1".toList, "get M0-1".toList] := by
  rw [handedOver_of_lines_fit (by decide +kernel)]
  decide +kernel

theorem rewriteScript_reads_last_written :
    ∃ r, scriptRun .smallest lp64 (willingPlc.transport zeroMemory) (some rewriteScript)
        startedApp = some (0, some r) ∧
      r.ended.outputs.map (·.entry.report) =
        [some [.ok], some [.ok], some [.bit 0 true, .bit 1 true]] ∧
      SessionHistory .smallest willingPlc (startedApp.memory willingPlc zeroMemory)
        (r.ended.outputs.map Execution.entry) (r.ended.state.memory willingPlc zeroMemory) := by
  have hrun : (runTexts .smallest lp64 (willingPlc.transport zeroMemory)
      ["set M0-1=1,0".toList, "set M1=1".toList, "get M0-1".toList] startedApp).map
        (fun ended => (ended.outputs.map (·.entry.report), ended.reason)) =
      some ([some [.ok], some [.ok], some [.bit 0 true, .bit 1 true]], none) := by
    decide +kernel
  obtain ⟨ended, hended, heq⟩ := Option.map_eq_some_iff.mp hrun
  obtain ⟨houtputs, hreason⟩ := Prod.mk.inj heq
  rw [← handedOver_rewriteScript] at hended
  obtain ⟨r, hscript, rfl⟩ := @scriptRun_ended _ _ _ rewriteScript _ _ hended
  rw [hreason] at hscript
  exact ⟨r, hscript, houtputs, script_reads_last_written lp64 (willingPlc_behind .smallest)
    startedApp_ready (Or.inr rfl) hscript⟩

/-! ## Interactive mode -/

section Repl

variable {cfg : Config} {platform : Platform} {transport : Transport} {plc : Plc}
  {m start : DeviceMemory} {entries : List SessionEntry} {app app' : ClientApp}

/-- **One command** of the client, as the history of the memory shows it. -/
theorem Performed.history {cmd : ParsedCommand} {done : Bool} {ending : Option CommandEnd}
    (hperformed : Performed cfg plc m app cmd done ending app')
    (h : SessionHistory cfg plc start entries (app.memory plc m)) :
    SessionHistory cfg plc start (entries ++ [(Execution.mk cmd ending).entry])
      (app'.memory plc m) := by
  have hperform := hperformed.perform
  cases done with
  | true => exact h.concat (perform_assigns hperform) (perform_reads hperform)
  | false =>
    obtain ⟨hreport, hmemory⟩ := hperformed.failed rfl
    rw [ClientApp.memory, hmemory, Execution.entry, hreport]
    exact h.unperformed hperform

/-- What a run of interactive mode shows of the memory. -/
structure ReplHistory (cfg : Config) (plc : Plc) (m start : DeviceMemory)
    (events : List ReplEvent) (app : ClientApp) : Prop where
  session : app.InSession cfg
  history : SessionHistory cfg plc start
    ((events.filterMap ReplEvent.execution).map Execution.entry) (app.memory plc m)

/-- One text of interactive mode. -/
theorem replTurn_history (hplc : plc.Behind cfg m transport) {earlier : List ReplEvent}
    (h : ReplHistory cfg plc m start earlier app) {line : List Char}
    {turn : StoppingRun.Turn ReplEvent ReplStop ClientApp}
    (hturn : replTurn cfg platform transport line app = some turn) :
    ReplHistory cfg plc m start (earlier ++ turn.outputs) turn.state := by
  obtain ⟨ok, cmd, hparse, ⟨_, rfl⟩ | ⟨_, _, rfl⟩ |
    ⟨rfl, _, done, ending, app₂, hexecute, rfl⟩⟩ := replTurn_cases hturn
  · refine ⟨h.session, ?_⟩
    rw [List.filterMap_append]
    exact (List.append_nil _).symm ▸ h.history
  · exact (List.append_nil earlier).symm ▸ h
  · obtain ⟨done', ending', app₃, hexecute', hperformed⟩ :=
      executeReplCommand_session hplc h.session (accepted_wellFormed hparse)
    rw [hexecute] at hexecute'
    cases hexecute'
    refine ⟨hperformed.session, ?_⟩
    rw [List.filterMap_append, List.map_append]
    exact hperformed.history h.history

/-- **The texts of interactive mode** show what was written last. -/
theorem replTexts_history (platform : Platform) (hplc : plc.Behind cfg m transport)
    (hsession : app.InSession cfg) {texts : List (List Char)}
    {e : StoppingRun.Ended ReplEvent ReplStop ClientApp}
    (h : StoppingRun.run (replTurn cfg platform transport) texts app = some e) :
    SessionHistory cfg plc (app.memory plc m)
      ((e.outputs.filterMap ReplEvent.execution).map Execution.entry) (e.state.memory plc m) := by
  have hstart : ReplHistory cfg plc m (app.memory plc m) [] app :=
    ⟨hsession, fun _ _ => rfl, fun n hn => absurd hn (by simp)⟩
  have hrun := StoppingRun.run_history
    (J := ReplHistory cfg plc m (app.memory plc m))
    (fun _ _ _ _ hs hturn => replTurn_history hplc hs hturn) hstart h
  exact hrun.history

end Repl

/-- **Interactive mode reads what was written last.**  With a PLC behind the client, every get
command that is allowed and accepted reports for each point the value that the last acknowledged set
command of the run before it gave to the point, or the value from before the run; commands that fail
and syntax errors change nothing. -/
theorem repl_reads_last_written {cfg : Config} (platform : Platform) {transport : Transport}
    {plc : Plc} {m : DeviceMemory} (hplc : plc.Behind cfg m transport) {app : ClientApp}
    (hready : app.Ready cfg) (hheader : HeaderAccepted app.config.networkSettings.headerType)
    {input : List Char} {rc : Nat} {e : StoppingRun.Ended ReplEvent ReplStop ClientApp}
    (h : replRun cfg platform transport input app = some (rc, e)) :
    SessionHistory cfg plc (app.memory plc m)
      ((e.outputs.filterMap ReplEvent.execution).map Execution.entry) (e.state.memory plc m) :=
  replTexts_history platform hplc ⟨hready, hheader⟩ (replRun_run h).2

/-- A bit is written, a write to a read-only device fails, and the bit is read. -/
def passedOverInput : List Char := "set M1=1\nset SM1=0\nget M1\n".toList

theorem replTexts_passedOverInput : replTexts passedOverInput =
    ["set M1=1".toList, "set SM1=0".toList, "get M1".toList] := by
  rw [replTexts_of_lines_fit (by decide +kernel)]
  decide +kernel

theorem passedOverInput_reads_last_written :
    ∃ e, replRun .smallest lp64 (willingPlc.transport zeroMemory) passedOverInput startedApp =
        some (0, e) ∧
      (e.outputs.filterMap ReplEvent.execution).map (·.entry.report) =
        [some [.ok], none, some [.bit 1 true]] ∧
      SessionHistory .smallest willingPlc (startedApp.memory willingPlc zeroMemory)
        ((e.outputs.filterMap ReplEvent.execution).map Execution.entry)
        (e.state.memory willingPlc zeroMemory) := by
  have hrun : (StoppingRun.run (replTurn .smallest lp64 (willingPlc.transport zeroMemory))
      (replTexts passedOverInput) startedApp).map
        (fun ended => (ended.outputs.filterMap ReplEvent.execution).map (·.entry.report)) =
      some [some [.ok], none, some [.bit 1 true]] := by
    rw [replTexts_passedOverInput]
    decide +kernel
  obtain ⟨e, he, hreports⟩ := Option.map_eq_some_iff.mp hrun
  have hrepl : replRun .smallest lp64 (willingPlc.transport zeroMemory) passedOverInput
      startedApp = some (0, e) := by
    rw [replRun_texts, he]
    rfl
  exact ⟨e, hrepl, hreports, repl_reads_last_written lp64 (willingPlc_behind .smallest)
    startedApp_ready (Or.inr rfl) hrepl⟩

end Fx5
