import Fx5Slmp.DeviceMemory
import Fx5Slmp.FrameDelivery
import Fx5Slmp.TextToWire
import Fx5Slmp.WrittenNumerals

/-!
# The command language over the memory of a PLC

What the commands of the client mean when a PLC is at the other end: a get command reports a range
of the memory, a set command replaces one, and the others do not touch it.  `session` runs texts by
this meaning alone; there is no context, no frame, no serial number and no header type in it.

* `accepted_wellFormed` — what the parser guarantees of the commands that it accepts;
* `applyCommandToContext_allowed`, `applyCommandToContext_refused` — which commands become requests;
* `execute_allowed`, `execute_refused` — a command through the library and the transport;
* `script_runs_as_session` — a script does what its texts mean, whatever the pieces in which the
  answers arrive.
-/

set_option autoImplicit false

namespace Fx5

open CText CheckedMem

/-! ## The meaning of a command -/

/-- The request that a get or set command stands for. -/
def ParsedCommand.pdu (cmd : ParsedCommand) : DecodedPdu where
  command := if cmd.type = .set then .batchWrite else .batchRead
  device := cmd.device
  address := cmd.startAddress.toNat
  count := cmd.count.toNat
  payload :=
    if cmd.type = .set then some (valuesPayload cmd.device (cmd.values.take cmd.count.toNat))
    else none

/-- The range is within the limits, and a device that is written is not read-only. -/
def ParsedCommand.Allowed (cfg : Config) (cmd : ParsedCommand) : Prop :=
  isSupportedDevice cmd.device = true ∧ cmd.count.toNat ≠ 0 ∧
    cmd.count.toNat ≤ getMaxValueCount cfg cmd.device ∧
    cmd.startAddress.toNat ≤ FX5_MAX_ADDRESS ∧
    (cmd.type = .set → cmd.device ∉ [.SM, .SD, .SB, .SW])

instance (cfg : Config) (cmd : ParsedCommand) : Decidable (cmd.Allowed cfg) :=
  inferInstanceAs (Decidable (_ ∧ _))

/-- What is reported for a get or set command. -/
def Plc.report (plc : Plc) (m : DeviceMemory) (cmd : ParsedCommand) : List ReportLine :=
  if plc.endCode cmd.pdu ≠ 0 then [.plcError (plc.endCode cmd.pdu).toNat]
  else if cmd.type = .set then [.ok]
  else (List.range cmd.count.toNat).map fun i =>
    valueLine cmd.toClientCommand i (m.point cmd.device (cmd.startAddress.toNat + i))

/-- A command on the memory: the report, if it has one, and the memory behind it; nothing if the
client does not allow it. -/
def Plc.perform (cfg : Config) (plc : Plc) (cmd : ParsedCommand) (m : DeviceMemory) :
    Option (Option (List ReportLine) × DeviceMemory) :=
  match cmd.type with
  | .help | .trace | .header => some (none, m)
  | .get | .set =>
    if cmd.Allowed cfg then some (some (plc.report m cmd), plc.next m cmd.pdu) else none
  | _ => none

/-- A command and what was reported for it. -/
structure SessionEntry where
  command : ParsedCommand
  report : Option (List ReportLine)
  deriving DecidableEq

/-- A text on the memory. -/
def sessionTurn (cfg : Config) (platform : Platform) (plc : Plc) (line : List Char)
    (m : DeviceMemory) : Option (StoppingRun.Turn SessionEntry ScriptStop DeviceMemory) := do
  let (ok, cmd) ← parseCommand cfg platform line
  if !ok then some (.stop [] .syntaxError m)
  else if cmd.type = .quit then some (.stop [] .quit m)
  else
    match plc.perform cfg cmd m with
    | none => some (.stop [⟨cmd, none⟩] .commandFailed m)
    | some (report, m) => some (.next [⟨cmd, report⟩] m)

/-- The texts one after the other, up to the first quit, syntax error or command that is not
allowed. -/
def session (cfg : Config) (platform : Platform) (plc : Plc) :
    List (List Char) → DeviceMemory →
      Option (StoppingRun.Ended SessionEntry ScriptStop DeviceMemory) :=
  StoppingRun.run (sessionTurn cfg platform plc)

/-! ## Accepted commands -/

/-- What the execution of a command relies on. -/
structure ParsedCommand.WellFormed (cmd : ParsedCommand) : Prop where
  header : cmd.type = .header → HeaderAccepted cmd.headerType
  values : cmd.type = .set → 1 ≤ cmd.count.toNat →
    cmd.valueCount = cmd.count ∧ cmd.count.toNat ≤ cmd.values.length

section Accepted

variable {cfg : Config} {platform : Platform} {line : List Char} {cmd : ParsedCommand}

/-- A get line is parsed as a get command. -/
theorem wellFormed_get {args : List Char} (hargs : getArguments line = some args) {ok : Bool}
    (h : parseCommand cfg platform line = some (ok, cmd)) : cmd.WellFormed := by
  have htype : cmd.type = .get := by
    rw [parseCommand_get hargs, parseGet] at h
    cases hrange : parseDeviceAndRange platform args with
    | none =>
      rw [hrange] at h
      cases h
      rfl
    | some range =>
      rw [hrange] at h
      cases h
      rfl
  constructor
  · intro hheader
    rw [htype] at hheader
    cases hheader
  · intro hset
    rw [htype] at hset
    cases hset

/-- An accepted set line has a value for every point. -/
theorem wellFormed_set {args : List Char} (hargs : setArguments line = some args)
    (h : parseCommand cfg platform line = some (true, cmd)) : cmd.WellFormed := by
  cases hwritten : writtenRange args with
  | none =>
    rw [parseCommand_set hargs, parseSet, parseDeviceAndRange_written, hwritten] at h
    cases h
  | some written =>
    obtain ⟨range, rest⟩ := written
    rcases @parse_written_set cfg platform line args ⟨true, range, rest⟩ hargs hwritten rfl with
      ⟨_, _, hreject⟩ | ⟨_, _, houtside⟩ | ⟨hpass, _, _, haccept, htype, hread⟩
    · rw [h] at hreject
      cases hreject
    · rw [h] at houtside
      cases houtside
    · rw [h] at haccept
      cases haccept
      refine ⟨fun hheader => ?_, fun _ hpos => ?_⟩
      · rw [htype] at hheader
        cases hheader
      · obtain ⟨values, unused, hitems, hvalues, hvalueCount⟩ := hread.values rfl hpos
        refine ⟨hvalueCount, ?_⟩
        have hlength := hitems.length_eq
        have hrest := hpass.rest
        rw [if_pos rfl] at hrest
        have hcount := hread.count
        have hvalid := hrest.2
        rw [ValuesPass, if_neg (by omega)] at hvalid
        rw [hvalues, List.length_append]
        rcases hvalid.2 with hone | ⟨hmany, _⟩
        · obtain ⟨v, rfl⟩ : ∃ v, values = [v] := List.length_eq_one_iff.mp (by omega)
          rw [spread, List.length_replicate]
          omega
        · have hspread : values.length ≤ (spread cmd.count.toNat values).length := by
            unfold spread
            split
            · rw [List.length_replicate, List.length_singleton]
              exact hpos
            · exact Nat.le_refl _
          omega

/-- A line that is neither a get nor a set line leaves a known header type behind. -/
theorem headerAccepted_neither (hget : getArguments line = none) (hset : setArguments line = none)
    {ok : Bool} (h : parseCommand cfg platform line = some (ok, cmd)) :
    HeaderAccepted cmd.headerType := by
  have hno : ∀ word : List Char, (let p := skipSpaces line
      if startsWith p word && isSpace (peek (p.drop 3)) then some (p.drop 3) else none) = none →
      ¬(startsWith (skipSpaces line) word && isSpace (peek ((skipSpaces line).drop 3))) = true := by
    intro word hword hstart
    simp only at hword
    rw [if_pos hstart] at hword
    cases hword
  unfold parseCommand at h
  simp only at h
  rw [if_neg (hno _ hget), if_neg (hno _ hset)] at h
  repeat
    split at h
    · cases h
      first
      | exact Or.inl rfl
      | exact Or.inr rfl
  cases h
  exact Or.inr rfl

/-- **The parser guarantees** a known header type, and a value for every point that is written. -/
theorem accepted_wellFormed (h : parseCommand cfg platform line = some (true, cmd)) :
    cmd.WellFormed := by
  cases hget : getArguments line with
  | some args => exact wellFormed_get hget h
  | none =>
    cases hset : setArguments line with
    | some args => exact wellFormed_set hset h
    | none =>
      obtain ⟨ok, other, hother, hnget, hnset⟩ := @parseCommand_neither cfg platform line hget hset
      rw [h] at hother
      cases hother
      exact ⟨fun _ => headerAccepted_neither hget hset h, fun hset => absurd hset hnset⟩

end Accepted

/-! ## From the command to the request -/

section Apply

variable {cfg : Config} {ctx : Context} {settings : NetworkSettings}

/-- The context in which a command sets up its request. -/
def startedContext (cfg : Config) (ctx : Context) (settings : NetworkSettings) : Context :=
  { contextResetInternal cfg ctx with networkSettings := settings }

theorem startedContext_spec (hinv : ctx.Inv cfg) (huse : ctx.inUse = true)
    (hheader : HeaderAccepted settings.headerType) :
    (startedContext cfg ctx settings).Inv cfg ∧ (startedContext cfg ctx settings).inUse = true ∧
      (startedContext cfg ctx settings).rxCbuffer.contents = [] :=
  reset_settings_spec hinv huse hheader

/-- With valid settings every command starts from a fresh context. -/
theorem applyCommandToContext_started (huse : ctx.inUse = true)
    (hheader : HeaderAccepted settings.headerType) {cmd : ClientCommand}
    (hio : clientCommandNeedsPlcIo cmd = true)
    (hwritable : cmd.type = .set → clientDeviceAllowsWrite cmd.device = true) :
    applyCommandToContext cfg ctx cmd settings =
      if cmd.type = .get then
        setRequest cfg (startedContext cfg ctx settings) .batchRead cmd.device cmd.startAddress
          cmd.count
      else
        (setRequest cfg (startedContext cfg ctx settings) .batchWrite cmd.device cmd.startAddress
          cmd.count).bind fun r =>
            if r.1 ≠ .ok then some r else setWriteValuesLoop cfg cmd 0 r.2 := by
  have huse' : (contextResetInternal cfg ctx).inUse = true := huse
  have hsettings : setNetworkSettings (contextResetInternal cfg ctx) (some settings) =
      (.ok, startedContext cfg ctx settings) := by
    rw [setNetworkSettings, requireAcquired_ok huse']
    simp only
    rw [if_neg]
    · rfl
    · rintro ⟨h3, h4⟩
      exact hheader.elim h3 h4
  have hdeny : ¬(decide (cmd.type = .set) && !clientDeviceAllowsWrite cmd.device) = true := by
    intro hdeny
    obtain ⟨hset, hno⟩ := Bool.and_eq_true_iff.mp hdeny
    rw [hwritable (of_decide_eq_true hset)] at hno
    cases hno
  unfold applyCommandToContext
  rw [hio, if_neg hdeny, reset, requireAcquired_ok huse]
  simp only [Bool.not_true, Bool.false_eq_true, if_false, hsettings]
  rfl

variable {cmd : ParsedCommand}

/-- The library accepts a request exactly if the client's limits allow it. -/
theorem requestAccepted_iff {command : Command} (hcommand : isSupportedCommand command = true)
    (hwritable : cmd.type = .set → cmd.device ∉ [.SM, .SD, .SB, .SW]) :
    RequestAccepted cfg command cmd.device cmd.startAddress cmd.count ↔ cmd.Allowed cfg := by
  constructor
  · rintro ⟨hcount, haddress, _, hdevice, hmax⟩
    exact ⟨hdevice, hcount, hmax, haddress, hwritable⟩
  · rintro ⟨hdevice, hcount, hmax, haddress, _⟩
    exact ⟨hcount, haddress, hcommand, hdevice, hmax⟩

theorem needsPlcIo_of_type (htype : cmd.type = .get ∨ cmd.type = .set) :
    clientCommandNeedsPlcIo cmd.toClientCommand = true := by
  rcases htype with htype | htype <;> simp [clientCommandNeedsPlcIo, htype]

/-- **A command that is not allowed** is not applied. -/
theorem applyCommandToContext_refused (hinv : ctx.Inv cfg) (huse : ctx.inUse = true)
    (hheader : HeaderAccepted settings.headerType) (htype : cmd.type = .get ∨ cmd.type = .set)
    (hnot : ¬cmd.Allowed cfg) :
    ∃ status ctx', applyCommandToContext cfg ctx cmd.toClientCommand settings =
      some (status, ctx') ∧ status ≠ .ok := by
  have hio := needsPlcIo_of_type htype
  obtain ⟨hinv₀, huse₀, _⟩ := startedContext_spec hinv huse hheader
  by_cases hwritable : cmd.type = .set → cmd.device ∉ [.SM, .SD, .SB, .SW]
  · rw [applyCommandToContext_started huse hheader hio fun hset =>
      (client_device_tables _).2.trans (deviceAllowsWrite_of_not_mem (hwritable hset))]
    have hrefused {command : Command} (hcommand : isSupportedCommand command = true) :
        ∃ status, status ≠ Status.ok ∧ setRequest cfg (startedContext cfg ctx settings) command
          cmd.device cmd.startAddress cmd.count = some (status, startedContext cfg ctx settings) := by
      rcases setRequest_cases hinv₀.values huse₀ command cmd.device cmd.startAddress cmd.count with
        ⟨status, hne, _, hres⟩ | ⟨hacc, _⟩
      · exact ⟨status, hne, hres⟩
      · exact absurd ((requestAccepted_iff hcommand hwritable).mp hacc) hnot
    split
    · obtain ⟨status, hne, hres⟩ := hrefused (by decide : isSupportedCommand .batchRead = true)
      exact ⟨status, _, hres, hne⟩
    · obtain ⟨status, hne, hres⟩ := hrefused (by decide : isSupportedCommand .batchWrite = true)
      exact ⟨status, _, by rw [hres, Option.bind_some, if_pos hne], hne⟩
  · -- a read-only device is not written
    simp only [not_forall, not_not] at hwritable
    obtain ⟨hset, hmem⟩ := hwritable
    refine ⟨.errUnsupported, ctx, ?_, by decide⟩
    have hno : clientDeviceAllowsWrite cmd.device = false := by
      simp only [List.mem_cons, List.not_mem_nil, or_false] at hmem
      rcases hmem with h | h | h | h <;> rw [h] <;> rfl
    unfold applyCommandToContext
    rw [hio, hset, hno]
    rfl

/-- The request of a context, as the reference decoder reads it. -/
def Context.pdu (ctx : Context) : DecodedPdu :=
  ⟨ctx.command, ctx.device, ctx.address, ctx.count,
    if ctx.command = .batchWrite then some ctx.payload else none⟩

/-- A context in which a command was applied: its request can be built, with the first serial
number. -/
structure Prepared (cfg : Config) (settings : NetworkSettings) (pdu : DecodedPdu) (ctx : Context) :
    Prop where
  inv : ctx.Inv cfg
  inUse : ctx.inUse = true
  valid : ctx.Valid cfg
  settings : ctx.networkSettings = settings
  nextSerial : ctx.nextSerial = 0
  empty : ctx.rxCbuffer.contents = []
  pdu : ctx.pdu = pdu

/-- **A command that is allowed** is applied: the context has its request. -/
theorem applyCommandToContext_allowed (hinv : ctx.Inv cfg) (huse : ctx.inUse = true)
    (hheader : HeaderAccepted settings.headerType) (htype : cmd.type = .get ∨ cmd.type = .set)
    (hallowed : cmd.Allowed cfg) (hcmd : cmd.WellFormed) :
    ∃ ctx', applyCommandToContext cfg ctx cmd.toClientCommand settings = some (.ok, ctx') ∧
      Prepared cfg settings cmd.pdu ctx' := by
  have hio := needsPlcIo_of_type htype
  obtain ⟨hinv₀, huse₀, hempty₀⟩ := startedContext_spec hinv huse hheader
  have hwritable := hallowed.2.2.2.2
  have haccepted {command : Command} (hcommand : isSupportedCommand command = true) :
      RequestAccepted cfg command cmd.device cmd.startAddress cmd.count :=
    (requestAccepted_iff hcommand hwritable).mpr hallowed
  have hrequest {command : Command} (hcommand : isSupportedCommand command = true) :
      setRequest cfg (startedContext cfg ctx settings) command cmd.device cmd.startAddress
        cmd.count = some (.ok, (startedContext cfg ctx settings).withRequest cfg command cmd.device
          cmd.startAddress cmd.count) := by
    rcases setRequest_cases hinv₀.values huse₀ command cmd.device cmd.startAddress cmd.count with
      ⟨_, _, hnot, _⟩ | ⟨_, hres⟩
    · exact absurd (haccepted hcommand) hnot
    · exact hres
  rw [applyCommandToContext_started huse hheader hio fun hset =>
    (client_device_tables _).2.trans (deviceAllowsWrite_of_not_mem (hwritable hset))]
  rcases htype with hget | hset
  · have hread : isSupportedCommand .batchRead = true := by decide
    refine ⟨_, (if_pos hget).trans (hrequest hread), ?_⟩
    exact {
      inv := Context.Inv.withRequest hinv₀ (haccepted hread)
      inUse := huse₀
      valid := valid_of_accepted hinv₀ (haccepted hread) nofun _
      settings := rfl
      nextSerial := rfl
      empty := hempty₀
      pdu := by
        rw [ParsedCommand.pdu, hget]
        rfl }
  · have hwrite : isSupportedCommand .batchWrite = true := by decide
    have hne : ¬cmd.type = .get := by rw [hset]; decide
    obtain ⟨hvalueCount, hlen⟩ := hcmd.values hset (Nat.one_le_iff_ne_zero.mpr hallowed.2.1)
    have htake : (cmd.values.take cmd.count.toNat).length = cmd.count.toNat :=
      List.length_take_of_le hlen
    have hinv₁ := Context.Inv.withRequest hinv₀ (haccepted hwrite)
    obtain ⟨stored, hloop, hstored, hpayload⟩ := payload_of_loop hinv₁ huse₀
      (List.take_append_drop cmd.count.toNat cmd.values).symm (by rw [hvalueCount, htake])
      htake.symm
    refine ⟨{ (startedContext cfg ctx settings).withRequest cfg .batchWrite cmd.device
      cmd.startAddress cmd.count with values := stored }, ?_, ?_⟩
    · rw [if_neg hne, hrequest hwrite, Option.bind_some, if_neg (not_not.mpr rfl)]
      exact hloop
    · exact {
        inv := { hinv₁ with values := hstored.trans hinv₁.values }
        inUse := huse₀
        valid := valid_of_accepted hinv₀ (haccepted hwrite) (fun _ => hwritable hset) stored
        settings := rfl
        nextSerial := rfl
        empty := hempty₀
        pdu := by
          rw [Context.pdu, hpayload, ParsedCommand.pdu, if_pos hset, if_pos hset]
          rfl }

end Apply

/-! ## The answer of the PLC -/

section Answer

variable {cfg : Config} {ctx : Context} {settings : NetworkSettings} {pdu : DecodedPdu}
  {cmd : ParsedCommand}

/-- The serial number that a request of the client carries. -/
def firstSerial (settings : NetworkSettings) : Option Nat :=
  if settings.headerType = .h4E then some 0 else none

theorem firstSerial_getD (settings : NetworkSettings) : (firstSerial settings).getD 0 = 0 := by
  unfold firstSerial
  split <;> rfl

/-- The request of a prepared context is built whole. -/
theorem Prepared.built (h : Prepared cfg settings pdu ctx) :
    ∃ built, buildRequest cfg ctx (List.replicate (FX5_MAX_REQUEST_SIZE cfg) 0x00#8)
        (BitVec.ofNat 16 (FX5_MAX_REQUEST_SIZE cfg)) 0 = some built ∧
      built.status = .ok ∧ built.context = ctx.sent ∧
      built.outBuf.take built.actualSize = requestBytes ctx := by
  have hmax : (BitVec.ofNat 16 (FX5_MAX_REQUEST_SIZE cfg)).toNat = FX5_MAX_REQUEST_SIZE cfg := by
    have hcount := cfg.count_le
    rw [BitVec.toNat_ofNat, maxRequestSize_eq]
    omega
  have hbuf : (BitVec.ofNat 16 (FX5_MAX_REQUEST_SIZE cfg)).toNat ≤
      (List.replicate (FX5_MAX_REQUEST_SIZE cfg) 0x00#8).length := by
    rw [hmax, List.length_replicate]
  have hbuild := buildRequest_spec h.inv h.inUse h.valid hbuf
    (by rw [hmax]; exact (requestBytes_length h.inv).2) 0
  exact ⟨_, hbuild, rfl, rfl, List.take_left' rfl⟩

/-- **The reference decoder reads the request** of a prepared context. -/
theorem Prepared.decoded (h : Prepared cfg settings pdu ctx) :
    decodeRequest (requestBytes ctx) = some ⟨settings, firstSerial settings, pdu⟩ := by
  rw [decodeRequest_requestBytes h.inv, h.settings, h.nextSerial]
  congr 2
  exact h.pdu

/-- What the receive loop starts from. -/
theorem Prepared.sent (h : Prepared cfg settings pdu ctx) :
    ctx.sent.Inv cfg ∧ ctx.sent.inUse = true ∧ ctx.sent.serial = 0 ∧
      ctx.sent.rxCbuffer.contents = [] ∧ ctx.sent.pdu = pdu := by
  refine ⟨h.inv.sent, ctx.sent_inUse.trans h.inUse, ?_, ?_, ?_⟩
  · unfold Context.sent
    split
    · exact h.nextSerial
    · rfl
  · rw [ctx.sent_rxCbuffer]
    exact h.empty
  · rw [← h.pdu]
    unfold Context.sent
    split <;> rfl

/-- A read payload leaves room for the longest header. -/
theorem readPayload_fits {device : Device} {count : Nat} (h : count ≤ getMaxValueCount cfg device) :
    FX5_RESP_TCP_HEADER_SIZE_4E + FX5_RESP_PDU_HEADER_SIZE + readPayloadLength device count ≤
      FX5_IOBUF_SIZE cfg := by
  have hmax := Nat.le_trans h (getMaxValueCount_le cfg device)
  rw [iobufSize_eq, FX5_RESP_TCP_HEADER_SIZE_4E, FX5_RESP_PDU_HEADER_SIZE, readPayloadLength]
  unfold getMaxValueCount at h
  split
  · omega
  · rename_i hword
    rw [if_neg hword, FX5_MAX_WORD_VALUE_COUNT] at h
    omega

/-- What the context shows when the answer of the PLC was parsed. -/
structure Answered (plc : Plc) (m : DeviceMemory) (cmd : ParsedCommand) (answer : Answer) :
    Prop where
  status : answer.status = .ok ∨ answer.status = .responseError
  code : answer.responseCode = (plc.endCode cmd.pdu).toNat
  values : plc.endCode cmd.pdu = 0 → cmd.type = .get → answer.count = cmd.count.toNat ∧
    ∀ i, i < cmd.count.toNat → valueAt cmd.device answer.values i =
      m.point cmd.device (cmd.startAddress.toNat + i)

/-- **The answer of the PLC** fits the receive buffer and says what the command asked for. -/
theorem Plc.answered (plc : Plc) (m : DeviceMemory) (hinv : ctx.Inv cfg) (hserial : ctx.serial = 0)
    (hpdu : ctx.pdu = cmd.pdu) (hallowed : cmd.Allowed cfg)
    (htype : cmd.type = .get ∨ cmd.type = .set)
    (herror : FX5_RESP_TCP_HEADER_SIZE_4E + FX5_RESP_PDU_HEADER_SIZE +
      (plc.errorInfo cmd.pdu).length ≤ FX5_IOBUF_SIZE cfg)
    (hheader : HeaderAccepted settings.headerType) (r : Routing) :
    let F := responseFrame settings.headerType 0 r (plc.endCode cmd.pdu).toNat
      (plc.payload m cmd.pdu)
    IsFrame cfg ctx.serial F ∧ F.length ≤ FX5_IOBUF_SIZE cfg ∧
      Answered plc m cmd (frameAnswer cfg ctx F) := by
  have hfields : ctx.command = cmd.pdu.command ∧ ctx.device = cmd.device ∧
      ctx.count = cmd.count.toNat := by
    rw [← hpdu]
    exact ⟨rfl, congrArg DecodedPdu.device hpdu, congrArg DecodedPdu.count hpdu⟩
  obtain ⟨hcommand, hdevice, hcount⟩ := hfields
  have hmatches := m.read_matches cmd.device cmd.startAddress.toNat cmd.count.toNat
  have hlen : FX5_RESP_TCP_HEADER_SIZE_4E + FX5_RESP_PDU_HEADER_SIZE +
      (plc.payload m cmd.pdu).length ≤ FX5_IOBUF_SIZE cfg := by
    have hread := readPayload_fits hallowed.2.2.1
    unfold Plc.payload
    split
    · split
      · exact (payloadValue_encode hmatches).1 ▸ hread
      · rw [List.length_nil]
        omega
    · exact herror
  have hbounds := headerSize_bounds settings.headerType
  rw [FX5_RESP_TCP_HEADER_SIZE_4E] at hlen
  rw [← hserial]
  refine ⟨responseFrame_isFrame hheader hinv.serial (by omega), ?_, ?_⟩
  · rw [responseFrame_length]
    omega
  by_cases hok : plc.endCode cmd.pdu = 0
  · rcases htype with hget | hset
    · -- a read with its values
      have hread : cmd.pdu.command = .batchRead := by rw [ParsedCommand.pdu, hget]; rfl
      have hpayload : plc.payload m cmd.pdu =
          (m.read cmd.device cmd.startAddress.toNat cmd.count.toNat).encode := by
        rw [Plc.payload, if_pos hok, if_pos hread]
        rfl
      have hzero : (plc.endCode cmd.pdu).toNat = FX5_RESPONSE_OK := by rw [hok]; rfl
      rw [hpayload] at hlen ⊢
      obtain ⟨hstatus, hcode, hcnt, hvalues⟩ := read_answer (r := r) hinv hheader
        (hcommand.trans hread) (by rw [hcount]; exact hallowed.2.1)
        (by rw [hdevice, hcount]; exact hmatches) (by omega)
      rw [hdevice, hcount] at hvalues
      rw [hzero]
      exact ⟨Or.inl hstatus, hcode.trans hzero.symm, fun _ _ => ⟨hcnt.trans hcount, fun i hi =>
        (hvalues i hi).trans (m.read_value cmd.device _ _ hi)⟩⟩
    · -- a write
      have hwrite : cmd.pdu.command = .batchWrite := by rw [ParsedCommand.pdu, if_pos hset]
      have hpayload : plc.payload m cmd.pdu = [] := by
        rw [Plc.payload, if_pos hok, if_neg (by rw [hwrite]; decide)]
      have hzero : (plc.endCode cmd.pdu).toNat = FX5_RESPONSE_OK := by rw [hok]; rfl
      rw [hpayload, hzero]
      obtain ⟨hstatus, hcode⟩ := write_answer (r := r) hinv hheader (hcommand.trans hwrite)
      refine ⟨Or.inl hstatus, hcode.trans hzero.symm, fun _ hget => ?_⟩
      rw [hset] at hget
      cases hget
  · -- a refusal
    have hne : (plc.endCode cmd.pdu).toNat ≠ FX5_RESPONSE_OK := fun h =>
      hok (BitVec.eq_of_toNat_eq h)
    obtain ⟨hstatus, hcode⟩ := @error_answer cfg ctx settings.headerType r hinv hheader
      (plc.endCode cmd.pdu).toNat (plc.endCode cmd.pdu).isLt hne (plc.payload m cmd.pdu) (by omega)
    exact ⟨Or.inr hstatus, hcode, fun hok' => absurd hok' hok⟩

/-- **What is printed** for the answer is the report. -/
theorem Answered.printed {plc : Plc} {m : DeviceMemory} {status : Status}
    (h : Answered plc m cmd (answerOf status ctx)) (hinv : ctx.Inv cfg) (huse : ctx.inUse = true)
    (hdevice : ctx.device = cmd.device) (htype : cmd.type = .get ∨ cmd.type = .set) :
    printResponse cfg cmd.toClientCommand ctx = some (plc.report m cmd) := by
  have hcode : ctx.responseCode = (plc.endCode cmd.pdu).toNat := h.code
  have hcode_iff : ctx.responseCode ≠ FX5_RESPONSE_OK ↔ plc.endCode cmd.pdu ≠ 0 := by
    rw [hcode, FX5_RESPONSE_OK]
    exact not_congr ⟨fun hz => BitVec.eq_of_toNat_eq hz, fun hz => by rw [hz]; rfl⟩
  unfold Plc.report
  rcases htype with hget | hset
  · rw [printResponse_get hinv huse hget]
    by_cases hok : plc.endCode cmd.pdu = 0
    · obtain ⟨hcount, hvalues⟩ := h.values hok hget
      have hcount : ctx.count = cmd.count.toNat := hcount
      rw [if_neg (fun hne => hcode_iff.mp hne hok), if_neg (not_not.mpr hok),
        if_neg (by rw [hget]; decide), hcount]
      refine congrArg some (List.map_congr_left fun i hi => ?_)
      have hi := hvalues i (List.mem_range.mp hi)
      rw [hdevice]
      exact congrArg (valueLine cmd.toClientCommand i) hi
    · rw [if_pos (hcode_iff.mpr hok), if_pos hok, hcode]
  · have hprinted : getResponseCode ctx = ctx.responseCode := by
      simp [getResponseCode, isAcquired, huse]
    unfold printResponse
    simp only [hprinted]
    by_cases hok : plc.endCode cmd.pdu = 0
    · have hzero : ctx.responseCode = 0 := by
        rw [hcode, hok]
        rfl
      rw [if_neg (not_not.mpr hzero), if_neg (not_not.mpr hok), if_pos hset, if_pos hset]
    · have hne : ctx.responseCode ≠ 0 := hcode_iff.mpr hok
      rw [if_pos hne, if_pos hok, hcode]

end Answer

/-! ## Executing a command -/

/-- A client that is connected, with a known header type configured. -/
structure ClientApp.InSession (cfg : Config) (app : ClientApp) : Prop where
  ready : app.Ready cfg
  header : HeaderAccepted app.config.networkSettings.headerType

section Execute

variable {cfg : Config} {transport : Transport} {plc : Plc} {m : DeviceMemory} {app : ClientApp}
  {cmd : ParsedCommand}

/-- **A command that is not allowed** fails, and nothing is sent. -/
theorem execute_refused (hsession : app.InSession cfg) (htype : cmd.type = .get ∨ cmd.type = .set)
    (hnot : ¬cmd.Allowed cfg) :
    ∃ status ctx', appExecuteCommand cfg transport app cmd.toClientCommand =
        some (.applyFailed status, { app with ctx := ctx' }) ∧
      ctx'.Inv cfg ∧ ctx'.inUse = true := by
  obtain ⟨⟨hinv, huse⟩, hheader⟩ := hsession
  obtain ⟨status, ctx', happly, hne⟩ :=
    applyCommandToContext_refused hinv huse hheader htype hnot
  obtain ⟨hinv', huse', _⟩ := applyCommandToContext_spec hinv huse happly
  refine ⟨status, ctx', ?_, hinv', huse'⟩
  rw [appExecuteCommand, executeCommandPrinting_quiet, happly]
  exact if_pos hne

/-- **A command that is allowed** is answered with the report, and the PLC has executed it. -/
theorem execute_allowed (hplc : plc.Behind cfg m transport) (hsession : app.InSession cfg)
    (htype : cmd.type = .get ∨ cmd.type = .set) (hallowed : cmd.Allowed cfg)
    (hcmd : cmd.WellFormed) :
    ∃ status received app', appExecuteCommand cfg transport app cmd.toClientCommand =
        some (.answered status received (plc.report (plc.memoryAfter m app.sock) cmd), app') ∧
      app'.InSession cfg ∧
      plc.memoryAfter m app'.sock = plc.next (plc.memoryAfter m app.sock) cmd.pdu := by
  obtain ⟨⟨hinv, huse⟩, hheader⟩ := hsession
  obtain ⟨ctx, happly, hprepared⟩ :=
    applyCommandToContext_allowed hinv huse hheader htype hallowed hcmd
  obtain ⟨built, hbuild, hok, hctx, hrequest⟩ := hprepared.built
  obtain ⟨hinv₁, huse₁, hserial, hempty, hpdu⟩ := hprepared.sent
  have hdecoded := hprepared.decoded
  -- the answer of the PLC is on its way
  obtain ⟨routing, hsent, hstream, sizes, later, hevents, hsum, hsizes⟩ :=
    hplc.answers app.sock (requestBytes ctx) _ hdecoded
  obtain ⟨hF, hfit, hanswered⟩ := plc.answered (plc.memoryAfter m app.sock) hinv₁ hserial hpdu
    hallowed htype (hplc.errorInfo cmd.pdu) hheader routing
  rw [Plc.frame, firstSerial_getD] at hstream hsum
  obtain ⟨F, hFdef⟩ : ∃ F, F = responseFrame app.config.networkSettings.headerType 0 routing
      (plc.endCode cmd.pdu).toNat (plc.payload (plc.memoryAfter m app.sock) cmd.pdu) := ⟨_, rfl⟩
  have hframe : F ≠ [] := by
    intro hnil
    have hlen := congrArg List.length (hFdef.symm.trans hnil)
    rw [responseFrame_length, FX5_RESP_PDU_HEADER_SIZE, List.length_nil] at hlen
    omega
  simp only [← hFdef] at hF hfit hanswered hstream hsum
  obtain ⟨ctx', hreceive, hanswer, hinv₂, huse₂, hdevice⟩ := receiveEnd_frame hinv₁ huse₁ hF hfit
    hanswered.status (by rw [hempty]; rfl) hframe hsizes hsum later
  rw [← hanswer] at hanswered
  have hprinted := hanswered.printed hinv₂ huse₂
    (hdevice.trans (congrArg DecodedPdu.device hpdu)) htype
  refine ⟨(frameAnswer cfg ctx.sent F).status, F.take (F.length - ([] : List Byte).length),
    ⟨app.config, ctx', app.sock ++ [requestBytes ctx]⟩, ?_,
    ⟨⟨hinv₂, huse₂⟩, hheader⟩, plc.memoryAfter_concat hdecoded⟩
  rw [appExecuteCommand, executeCommandPrinting_quiet]
  simp only [happly, Option.bind_eq_bind, Option.bind_some, ne_eq, not_true_eq_false, if_false,
    hbuild, hok, hctx, hrequest, hsent, Bool.not_true, Bool.false_eq_true, appReceiveResponse_eq,
    hstream, hevents, hreceive, hprinted]

/-- What a command of a script shows. -/
def Execution.entry (e : Execution) : SessionEntry := ⟨e.command, e.ending.bind CommandEnd.report⟩

/-- A command was executed as it means: it is done exactly if it is allowed, with its report and
the memory behind it, and changes nothing otherwise. -/
structure Performed (cfg : Config) (plc : Plc) (m : DeviceMemory) (app : ClientApp)
    (cmd : ParsedCommand) (done : Bool) (ending : Option CommandEnd) (app' : ClientApp) :
    Prop where
  session : app'.InSession cfg
  perform : plc.perform cfg cmd (plc.memoryAfter m app.sock) =
    if done then some (ending.bind CommandEnd.report, plc.memoryAfter m app'.sock) else none
  failed : done = false → ending.bind CommandEnd.report = none ∧
    plc.memoryAfter m app'.sock = plc.memoryAfter m app.sock

/-- A get or set command. -/
theorem appExecuteCommand_session (hplc : plc.Behind cfg m transport)
    (hsession : app.InSession cfg) (htype : cmd.type = .get ∨ cmd.type = .set)
    (hcmd : cmd.WellFormed) :
    ∃ ending app', appExecuteCommand cfg transport app cmd.toClientCommand = some (ending, app') ∧
      Performed cfg plc m app cmd ending.succeeded (some ending) app' := by
  have hperform : plc.perform cfg cmd (plc.memoryAfter m app.sock) =
      if cmd.Allowed cfg then some (some (plc.report (plc.memoryAfter m app.sock) cmd),
        plc.next (plc.memoryAfter m app.sock) cmd.pdu) else none := by
    rcases htype with htype | htype <;> rw [Plc.perform, htype]
  by_cases hallowed : cmd.Allowed cfg
  · obtain ⟨status, received, app', hres, hsession', hmemory⟩ :=
      execute_allowed hplc hsession htype hallowed hcmd
    refine ⟨_, app', hres, hsession', ?_, nofun⟩
    rw [hperform, if_pos hallowed, hmemory]
    rfl
  · obtain ⟨status, ctx', hres, hinv', huse'⟩ :=
      @execute_refused cfg transport app cmd hsession htype hallowed
    refine ⟨_, _, hres, ⟨⟨hinv', huse'⟩, hsession.header⟩, ?_, fun _ => ⟨rfl, rfl⟩⟩
    rw [hperform, if_neg hallowed]
    rfl

/-- **One command** does what it means. -/
theorem executeReplCommand_session (hplc : plc.Behind cfg m transport)
    (hsession : app.InSession cfg) (hcmd : cmd.WellFormed) :
    ∃ done ending app', executeReplCommand cfg transport app cmd = some (done, ending, app') ∧
      Performed cfg plc m app cmd done ending app' := by
  have hio (htype : cmd.type = .get ∨ cmd.type = .set) :
      ∃ done ending app', executeReplCommand cfg transport app cmd = some (done, ending, app') ∧
        Performed cfg plc m app cmd done ending app' := by
    obtain ⟨ending, app', hres, hperformed⟩ :=
      appExecuteCommand_session hplc hsession htype hcmd
    refine ⟨ending.succeeded, some ending, app', ?_, hperformed⟩
    rw [executeReplCommand, executeReplCommandPrinting_quiet]
    rcases htype with htype | htype <;> rw [htype, hres] <;> rfl
  cases htype : cmd.type with
  | get => exact hio (Or.inl htype)
  | set => exact hio (Or.inr htype)
  | help =>
    refine ⟨true, none, app, ?_, hsession, ?_, Bool.noConfusion⟩
    · rw [executeReplCommand, executeReplCommandPrinting_quiet, htype]
    · rw [Plc.perform, htype]
      rfl
  | trace =>
    refine ⟨true, none, { app with config := { app.config with traceEnabled := cmd.traceEnabled } },
      ?_, ⟨hsession.ready, hsession.header⟩, ?_, Bool.noConfusion⟩
    · rw [executeReplCommand, executeReplCommandPrinting_quiet, htype]
    · rw [Plc.perform, htype]
      rfl
  | header =>
    refine ⟨true, none, { app with config := { app.config with networkSettings :=
        { app.config.networkSettings with headerType := cmd.headerType } } },
      ?_, ⟨hsession.ready, hcmd.header htype⟩, ?_, Bool.noConfusion⟩
    · rw [executeReplCommand, executeReplCommandPrinting_quiet, htype]
    · rw [Plc.perform, htype]
      rfl
  | invalid | quit =>
    refine ⟨false, none, app, ?_, hsession, ?_, fun _ => ⟨rfl, rfl⟩⟩
    · rw [executeReplCommand, executeReplCommandPrinting_quiet, htype]
    · rw [Plc.perform, htype]
      rfl

end Execute

/-! ## Whole scripts -/

section Script

variable {cfg : Config} {platform : Platform} {transport : Transport} {plc : Plc}
  {m : DeviceMemory}

/-- The memory of the PLC, as the requests of the client left it. -/
def ClientApp.memory (plc : Plc) (m : DeviceMemory) (app : ClientApp) : DeviceMemory :=
  plc.memoryAfter m app.sock

/-- **One text** does what it means, and the session goes on. -/
theorem runText_session (hplc : plc.Behind cfg m transport) {app : ClientApp}
    (hsession : app.InSession cfg) (line : List Char) :
    (runText cfg platform transport line app).map
        (StoppingRun.Turn.view Execution.entry (ClientApp.memory plc m)) =
      sessionTurn cfg platform plc line (app.memory plc m) ∧
    ∀ executed app', runText cfg platform transport line app = some (.next executed app') →
      app'.InSession cfg := by
  rw [runText, runTextPrinting_quiet, sessionTurn]
  simp only [Option.bind_eq_bind]
  cases hparse : parseCommand cfg platform line with
  | none =>
    refine ⟨rfl, fun _ _ h => ?_⟩
    cases h
  | some parsed =>
    obtain ⟨ok, cmd⟩ := parsed
    simp only [Option.bind_some]
    cases ok with
    | false =>
      refine ⟨rfl, fun _ _ h => ?_⟩
      cases h
    | true =>
      simp only [Bool.not_true, Bool.false_eq_true, if_false]
      by_cases hquit : cmd.type = .quit
      · rw [if_pos hquit, if_pos hquit]
        refine ⟨rfl, fun _ _ h => ?_⟩
        cases h
      · rw [if_neg hquit, if_neg hquit]
        obtain ⟨done, ending, app', hexecute, hperformed⟩ := executeReplCommand_session hplc
          hsession (accepted_wellFormed hparse)
        rw [hexecute, Option.bind_some, ClientApp.memory, hperformed.perform]
        cases done with
        | true =>
          refine ⟨rfl, fun _ _ h => ?_⟩
          cases h
          exact hperformed.session
        | false =>
          obtain ⟨hreport, hmemory⟩ := hperformed.failed rfl
          refine ⟨?_, fun _ _ h => ?_⟩
          · simp only [Bool.not_false, if_true, Option.map_some, StoppingRun.Turn.view,
              List.map_cons, List.map_nil, Execution.entry, hreport, ClientApp.memory, hmemory]
            rfl
          · cases h

/-- Texts one after the other do what they mean. -/
theorem runTexts_session (platform : Platform) (hplc : plc.Behind cfg m transport)
    {app : ClientApp} (hsession : app.InSession cfg) (texts : List (List Char)) :
    (runTexts cfg platform transport texts app).map
        (StoppingRun.Ended.view Execution.entry (ClientApp.memory plc m)) =
      session cfg platform plc texts (app.memory plc m) :=
  StoppingRun.run_view
    (fun line _ executed app' hs hturn => (runText_session hplc hs line).2 executed app' hturn)
    (fun line _ hs => (runText_session hplc hs line).1) _ hsession

/-- **A script does what its texts mean.**  Behind the client is a PLC, which may refuse any request
with an end code; its answers arrive in pieces of any size.  The reports of the commands, the way in
which the script ends and the memory of the PLC behind it are those of the texts on the memory
alone, whatever header type is configured or chosen by the script. -/
theorem script_runs_as_session (platform : Platform) (hplc : plc.Behind cfg m transport)
    {app : ClientApp} (hready : app.Ready cfg)
    (hheader : HeaderAccepted app.config.networkSettings.headerType) (script : ScriptFile) :
    (scriptRun cfg platform transport (some script) app).map
        (fun run => (run.1, run.2.map fun r =>
          r.ended.view Execution.entry (ClientApp.memory plc m))) =
      (session cfg platform plc (handedOver script.text) (app.memory plc m)).map
        (fun ended => (scriptRc script.ferror ended.reason, some ended)) := by
  have htexts := @scriptLoop_texts cfg platform transport 0 script.text app
  rw [← runTexts_session platform hplc ⟨hready, hheader⟩, handedOver, ← htexts, Option.map_map,
    Option.map_map, scriptRun_eq, Option.map_map]
  rfl

/-- A PLC that executes every request, with 0 everywhere. -/
def willingPlc : Plc := ⟨fun _ => 0, fun _ => []⟩

def zeroMemory : DeviceMemory := ⟨fun _ _ => false, fun _ _ => 0⟩

theorem willingPlc_behind (cfg : Config) :
    willingPlc.Behind cfg zeroMemory (willingPlc.transport zeroMemory) :=
  willingPlc.behind_transport zeroMemory fun _ => by
    have hbounds := (iobufSize_bounds cfg).1
    rw [FX5_RESP_TCP_HEADER_SIZE_4E, FX5_RESP_PDU_HEADER_SIZE, willingPlc, List.length_nil]
    omega

/-- Two bits are written in a 4E frame and three are read in a 3E frame. -/
def bitScript : ScriptFile := ⟨"set M1-2=1,0\nheader 3e\nget M0-2\n".toList, false⟩

theorem handedOver_bitScript : handedOver bitScript.text =
    ["set M1-2=1,0".toList, "header 3e".toList, "get M0-2".toList] := by
  rw [handedOver_of_lines_fit (by decide +kernel)]
  decide +kernel

theorem bitScript_runs_as_session :
    (scriptRun .smallest lp64 (willingPlc.transport zeroMemory) (some bitScript) startedApp).map
        (fun run => (run.1, run.2.map fun r => r.ended.outputs.map fun e => e.entry.report)) =
      some (0, some [some [.ok], none, some [.bit 0 false, .bit 1 true, .bit 2 false]]) := by
  have hscript := script_runs_as_session lp64 (willingPlc_behind .smallest) startedApp_ready
    (Or.inr rfl) bitScript
  have hsession : (session .smallest lp64 willingPlc (handedOver bitScript.text)
      (startedApp.memory willingPlc zeroMemory)).map
        (fun ended => (scriptRc false ended.reason, some (ended.outputs.map (·.report)))) =
      some (0, some [some [.ok], none, some [.bit 0 false, .bit 1 true, .bit 2 false]]) := by
    rw [handedOver_bitScript]
    decide +kernel
  have hview := congrArg (Option.map fun run :
    Nat × Option (StoppingRun.Ended SessionEntry ScriptStop DeviceMemory) =>
      (run.1, run.2.map fun ended => ended.outputs.map (·.report))) hscript
  rw [Option.map_map, Option.map_map] at hview
  rw [← hsession]
  refine Eq.trans ?_ hview
  congr 1
  funext run
  obtain ⟨rc, ended⟩ := run
  cases ended with
  | none => rfl
  | some r =>
    simp only [Function.comp_apply, Option.map_some, StoppingRun.Ended.view, List.map_map]
    rfl

end Script

end Fx5
