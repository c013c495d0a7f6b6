import Fx5Slmp.ResponseDecoding

/-!
# The command line client

`fx5_client_commands.c` and `fx5_client_app.c`: a get or set command resets the protocol
context, sets up its request, sends it and receives until the parser answers or the socket
gives up.  The print statements on the way are recorded; `receiveEnd` and `receiveResponse` leave
the record out.

The peer is a PLC behind an order-preserving, lossless byte stream.  It answers every request
with a 4E frame that echoes the serial number of the request; routing bytes, end code and
payload are its own (`PlcAnswer`).  The network delivers what has been sent in pieces and with
delays of its own (`NetEvent`).

* `receiveEndPrinting_erase`, `receiveAnswer_erase` — what was printed before decides nothing;
* `deliver_cases` — one delivery fails the command, leaves it waiting, or ends it with a response;
* `receiveResponse_spec` — a command that completes has parsed the least viable suffix of all
  the bytes delivered to it;
* `executeCommand_spec` — how a command that completes comes to its report.
-/

set_option autoImplicit false

namespace Fx5

open StreamScan

/-! ## Commands -/

/-- `fx5_client_command_type_t`. -/
inductive ClientCommandType where
  | invalid
  | get
  | set
  | help
  | trace
  | header
  | quit
  deriving DecidableEq

/-- The members of `fx5_client_command_t` that the execution of a command reads. -/
structure ClientCommand where
  type : ClientCommandType
  device : Device
  startAddress : BitVec 32
  count : Word
  values : List Word
  valueCount : Word
  deriving DecidableEq

/-- `fx5_client_command_needs_plc_io`. -/
def clientCommandNeedsPlcIo (cmd : ClientCommand) : Bool := cmd.type = .get || cmd.type = .set

/-- `fx5_client_device_allows_write`. -/
def clientDeviceAllowsWrite : Device → Bool
  | .SM | .SD | .SB | .SW => false
  | _ => true

/-- `fx5_client_is_bit_device`. -/
def clientIsBitDevice : Device → Bool
  | .M | .SM | .L | .F | .S | .X | .Y | .B | .SB => true
  | _ => false

/-- The client's device tables agree with those of the library. -/
theorem client_device_tables (device : Device) :
    clientIsBitDevice device = isBitDevice device ∧
      clientDeviceAllowsWrite device = deviceAllowsWrite device := by
  cases device <;> exact ⟨rfl, rfl⟩

/-- The loop of `fx5_client_apply_command_to_context` over the values of a set command. -/
def setWriteValuesLoop (cfg : Config) (cmd : ClientCommand) (i : Nat) (ctx : Context) :
    Option (Status × Context) :=
  if i < cmd.valueCount.toNat then do
    let value ← cmd.values[i]?
    let (status, ctx) ← setWriteValue cfg ctx (BitVec.ofNat 16 i) value
    if status ≠ .ok then some (status, ctx)
    else setWriteValuesLoop cfg cmd (i + 1) ctx
  else some (.ok, ctx)
termination_by cmd.valueCount.toNat - i

/-- `fx5_client_apply_command_to_context`; of the configuration it reads the network settings. -/
def applyCommandToContext (cfg : Config) (ctx : Context) (cmd : ClientCommand)
    (settings : NetworkSettings) : Option (Status × Context) :=
  if !clientCommandNeedsPlcIo cmd then some (.errState, ctx)
  else if cmd.type = .set && !clientDeviceAllowsWrite cmd.device then some (.errUnsupported, ctx)
  else
    match reset cfg ctx with
    | (.ok, ctx) =>
      match setNetworkSettings ctx (some settings) with
      | (.ok, ctx) =>
        if cmd.type = .get then
          setRequest cfg ctx .batchRead cmd.device cmd.startAddress cmd.count
        else do
          let (status, ctx) ←
            setRequest cfg ctx .batchWrite cmd.device cmd.startAddress cmd.count
          if status ≠ .ok then some (status, ctx)
          else setWriteValuesLoop cfg cmd 0 ctx
      | result => some result
    | result => some result

/-! ## Print statements -/

/-- A line that `fx5_client_print_response` prints. -/
inductive ReportLine where
  | plcError (endCode : Nat)
  | ok
  | bit (address : BitVec 32) (value : Bool)
  | word (address : BitVec 32) (value : Word)
  | readFailed (index : Nat)
  deriving DecidableEq

/-- How `fx5_client_receive_response` ends. -/
inductive ReceiveEnd where
  | timeout
  | closed
  | error
  | feedFailed (status : Status)
  | parseFailed (status : Status)
  | answered (status : Status)
  deriving DecidableEq

/-- What `fx5_client_receive_response` returns. -/
def ReceiveEnd.succeeded : ReceiveEnd → Bool
  | .answered _ => true
  | _ => false

/-- A print statement that was executed, with its arguments; the tests in front of the messages for
a failed command are in the text. -/
inductive Printed where
  | tx (data : List Byte)
  | rx (data : List Byte)
  | response (device : Device) (line : ReportLine)
  | help
  | trace (enabled : Bool)
  | header (headerType : HeaderType)
  | unsupportedCommand
  | greeting
  | prompt
  | inputEnd
  | syntaxError
  | receiveFailed (reason : ReceiveEnd)
  | applyFailed (status : Status)
  | buildFailed (status : Status)
  | sendFailed
  | scriptNotOpened (path : List Char)
  | scriptSyntaxError (lineNo : Nat)
  | scriptCommandFailed (lineNo : Nat)
  | scriptNotRead (path : List Char)

/-! ## Receiving -/

/-- What `fx5_socket_recv_some` returns: some of the bytes on the way, or a failure. -/
inductive NetEvent where
  | deliver (size : Nat)
  | timeout
  | closed
  | error
  deriving DecidableEq

/-- The receive buffer of `fx5_client_receive_response`. -/
def CLIENT_RECV_BUFFER_SIZE : Nat := 512

/-- `fx5_client_receive_response` on the bytes on the way and the events of the socket: what is
printed behind what was printed before, how it ends, the context, and the bytes still on the way.
There is no result while the loop waits for an event, or for an event that cannot happen. -/
def receiveEndPrinting (cfg : Config) (traceEnabled : Bool) :
    List Printed → Context → List Byte → List NetEvent →
      Option (List Printed × ReceiveEnd × Context × List Byte)
  | _, _, _, [] => none
  | printed, ctx, stream, .deliver size :: events =>
    if size = 0 ∨ CLIENT_RECV_BUFFER_SIZE < size ∨ stream.length < size then none
    else do
      let printed := if traceEnabled then printed ++ [.rx (stream.take size)] else printed
      let (status, ctx) ← feedResponseBytes cfg ctx (some (stream.take size)) (BitVec.ofNat 16 size)
      if status ≠ .ok then
        some (printed ++ [.receiveFailed (.feedFailed status)], .feedFailed status, ctx,
          stream.drop size)
      else do
        let (status, ctx) ← parseResponse cfg ctx
        match status with
        | .errNeedMore => receiveEndPrinting cfg traceEnabled printed ctx (stream.drop size) events
        | .responseError => some (printed, .answered .responseError, ctx, stream.drop size)
        | .ok => some (printed, .answered .ok, ctx, stream.drop size)
        | status =>
          some (printed ++ [.receiveFailed (.parseFailed status)], .parseFailed status, ctx,
            stream.drop size)
  | printed, ctx, stream, .timeout :: _ =>
    some (printed ++ [.receiveFailed .timeout], .timeout, ctx, stream)
  | printed, ctx, stream, .closed :: _ =>
    some (printed ++ [.receiveFailed .closed], .closed, ctx, stream)
  | printed, ctx, stream, .error :: _ =>
    some (printed ++ [.receiveFailed .error], .error, ctx, stream)

/-- `fx5_client_receive_response` without its output. -/
def receiveEnd (cfg : Config) (ctx : Context) (stream : List Byte) (events : List NetEvent) :
    Option (ReceiveEnd × Context × List Byte) :=
  (receiveEndPrinting cfg false [] ctx stream events).map (·.2)

/-- `fx5_client_receive_response`, with what it returns in place of the way in which it ends. -/
def receiveResponse (cfg : Config) (ctx : Context) (stream : List Byte) (events : List NetEvent) :
    Option (Bool × Context × List Byte) :=
  (receiveEnd cfg ctx stream events).map fun r => (r.1.succeeded, r.2)

/-! ## Reports -/

/-- The line for one value. -/
def valueLine (cmd : ClientCommand) (i : Nat) (value : Word) : ReportLine :=
  if clientIsBitDevice cmd.device then .bit (cmd.startAddress + BitVec.ofNat 32 i) (value != 0)
  else .word (cmd.startAddress + BitVec.ofNat 32 i) value

/-- The loop of `fx5_client_print_response` from index `i` on. -/
def printValuesLoop (cfg : Config) (cmd : ClientCommand) (ctx : Context) (count i : Nat) :
    Option (List ReportLine) :=
  if i < count then do
    match ← getResponseValue cfg ctx (BitVec.ofNat 16 i) with
    | (.ok, value) => do
      let lines ← printValuesLoop cfg cmd ctx count (i + 1)
      some (valueLine cmd i (value.getD 0) :: lines)
    | _ => some [.readFailed i]
  else some []
termination_by count - i

/-- `fx5_client_print_response`. -/
def printResponse (cfg : Config) (cmd : ClientCommand) (ctx : Context) : Option (List ReportLine) :=
  let endCode := getResponseCode ctx
  if endCode ≠ 0 then some [.plcError endCode]
  else if cmd.type = .set then some [.ok]
  else if cmd.type ≠ .get then some []
  else printValuesLoop cfg cmd ctx (getResponseCount ctx) 0

/-! ## Executing -/

/-- What the socket does with a request: whether it is sent (if not, `send` returns an error), the
bytes that arrive, and the results of receiving. -/
structure SocketIo where
  sent : Bool
  stream : List Byte
  events : List NetEvent

/-- How `fx5_client_app_execute_command` ends.  A command that was answered has a report; the bytes
are those that were received for it. -/
inductive CommandEnd where
  | applyFailed (status : Status)
  | buildFailed (status : Status)
  | sendFailed
  | receiveFailed (reason : ReceiveEnd)
  | answered (status : Status) (received : List Byte) (report : List ReportLine)
  deriving DecidableEq

/-- What `fx5_client_app_execute_command` returns. -/
def CommandEnd.succeeded : CommandEnd → Bool
  | .answered _ _ _ => true
  | _ => false

/-- The report, when there is one. -/
def CommandEnd.report : CommandEnd → Option (List ReportLine)
  | .answered _ _ report => some report
  | _ => none

/-- What a command leaves behind: how it ended, the context, the request that was given to the
socket with the bytes still on the way behind it, and what is printed. -/
structure Exchanged where
  ending : CommandEnd
  ctx : Context
  wire : Option (List Byte × List Byte)
  printed : List Printed

/-- `fx5_client_app_execute_command` behind the request: it is answered, or receiving fails.  The
bytes still on the way come after the context. -/
def receiveAnswer (cfg : Config) (traceEnabled : Bool) (ctx : Context) (printed : List Printed)
    (cmd : ClientCommand) (io : SocketIo) :
    Option (CommandEnd × Context × List Byte × List Printed) := do
  let (printed, ending, ctx, rest) ←
    receiveEndPrinting cfg traceEnabled printed ctx io.stream io.events
  match ending with
  | .answered status => do
    let report ← printResponse cfg cmd ctx
    let received := io.stream.take (io.stream.length - rest.length)
    some (.answered status received report, ctx, rest,
      printed ++ report.map (.response cmd.device))
  | ending => some (.receiveFailed ending, ctx, rest, printed)

/-- `fx5_client_app_execute_command`: of the client, it reads whether the trace is enabled, the
network settings and the context; `respond` is what the socket does with the request. -/
def exchangeCommand (cfg : Config) (respond : List Byte → SocketIo) (traceEnabled : Bool)
    (settings : NetworkSettings) (ctx : Context) (printed : List Printed) (cmd : ClientCommand) :
    Option Exchanged := do
  let (status, ctx) ← applyCommandToContext cfg ctx cmd settings
  if status ≠ .ok then
    some ⟨.applyFailed status, ctx, none, printed ++ [.applyFailed status]⟩
  else do
    let requestBuf := List.replicate (FX5_MAX_REQUEST_SIZE cfg) 0x00#8
    let built ← buildRequest cfg ctx requestBuf (BitVec.ofNat 16 (FX5_MAX_REQUEST_SIZE cfg)) 0
    if built.status ≠ .ok then
      some ⟨.buildFailed built.status, built.context, none,
        printed ++ [.buildFailed built.status]⟩
    else
      let request := built.outBuf.take built.actualSize
      let printed := if traceEnabled then printed ++ [.tx request] else printed
      let io := respond request
      if !io.sent then
        some ⟨.sendFailed, built.context, some (request, io.stream), printed ++ [.sendFailed]⟩
      else do
        let (ending, ctx, rest, printed) ←
          receiveAnswer cfg traceEnabled built.context printed cmd io
        some ⟨ending, ctx, some (request, rest), printed⟩

/-! ## The PLC -/

/-- What the PLC puts into its answer. -/
structure PlcAnswer where
  routing : Routing
  endCode : Word
  payload : List Byte
  fits : FX5_RESP_PDU_HEADER_SIZE + payload.length < 65536

/-- The frame with which the PLC answers a 4E request. -/
def plcFrame (request : List Byte) (answer : PlcAnswer) : List Byte :=
  responseFrame .h4E (le16At request FX5_SERIAL_OFFSET_4E) answer.routing answer.endCode.toNat
    answer.payload

/-- A command with the configured settings, the PLC's answer to it and the events of the socket
while it is executed. -/
structure Exchange where
  command : ClientCommand
  settings : NetworkSettings
  answer : PlcAnswer
  events : List NetEvent

/-- The client's context and the bytes that the PLC has sent and the client not received. -/
structure ClientState where
  ctx : Context
  stream : List Byte
  deriving DecidableEq

/-- `fx5_client_app_execute_command` with a PLC behind the socket; the report is there when it
returns true.  The PLC's answer is on the way from the moment the request is sent. -/
def executeCommand (cfg : Config) (state : ClientState) (e : Exchange) :
    Option (Option (List ReportLine) × ClientState) :=
  let respond (request : List Byte) : SocketIo :=
    ⟨true, state.stream ++ plcFrame request e.answer, e.events⟩
  (exchangeCommand cfg respond false e.settings state.ctx [] e.command).map fun r =>
    (r.ending.report, ⟨r.ctx, (r.wire.map Prod.snd).getD state.stream⟩)

/-! ## Without the output -/

section Erase

variable {cfg : Config}

/-- What is printed decides nothing in the receive loop. -/
theorem receiveEndPrinting_quiet (traceEnabled traceEnabled' : Bool) (printed printed' : List Printed)
    (ctx : Context) (stream : List Byte) (events : List NetEvent) :
    (receiveEndPrinting cfg traceEnabled printed ctx stream events).map (·.2) =
      (receiveEndPrinting cfg traceEnabled' printed' ctx stream events).map (·.2) := by
  induction events generalizing printed printed' ctx stream with
  | nil => rfl
  | cons event events ih =>
    cases event with
    | timeout | closed | error => rfl
    | deliver size =>
      rw [receiveEndPrinting, receiveEndPrinting]
      split
      · rfl
      cases feedResponseBytes cfg ctx (some (stream.take size)) (BitVec.ofNat 16 size) with
      | none => rfl
      | some fed =>
        obtain ⟨status, ctx'⟩ := fed
        simp only [Option.bind_eq_bind, Option.bind_some]
        split
        · rfl
        cases parseResponse cfg ctx' with
        | none => rfl
        | some parsed =>
          obtain ⟨status', ctx''⟩ := parsed
          cases status' with
          | errNeedMore => exact ih _ _ ctx'' (stream.drop size)
          | _ => rfl

theorem receiveEndPrinting_erase (traceEnabled : Bool) (printed : List Printed) (ctx : Context)
    (stream : List Byte) (events : List NetEvent) :
    (receiveEndPrinting cfg traceEnabled printed ctx stream events).map (·.2) =
      receiveEnd cfg ctx stream events :=
  receiveEndPrinting_quiet traceEnabled false printed [] ctx stream events

/-- One delivery to the receive loop. -/
theorem receiveEnd_deliver (ctx : Context) (stream : List Byte) (size : Nat)
    (events : List NetEvent) :
    receiveEnd cfg ctx stream (.deliver size :: events) =
      (if size = 0 ∨ CLIENT_RECV_BUFFER_SIZE < size ∨ stream.length < size then none
      else do
        let (status, ctx) ←
          feedResponseBytes cfg ctx (some (stream.take size)) (BitVec.ofNat 16 size)
        if status ≠ .ok then some (.feedFailed status, ctx, stream.drop size)
        else do
          let (status, ctx) ← parseResponse cfg ctx
          match status with
          | .errNeedMore => receiveEnd cfg ctx (stream.drop size) events
          | .responseError => some (.answered .responseError, ctx, stream.drop size)
          | .ok => some (.answered .ok, ctx, stream.drop size)
          | status => some (.parseFailed status, ctx, stream.drop size)) := by
  rw [receiveEnd, receiveEndPrinting]
  split
  · rfl
  cases feedResponseBytes cfg ctx (some (stream.take size)) (BitVec.ofNat 16 size) with
  | none => rfl
  | some fed =>
    obtain ⟨status, ctx'⟩ := fed
    simp only [Option.bind_eq_bind, Option.bind_some]
    split
    · rfl
    cases parseResponse cfg ctx' with
    | none => rfl
    | some parsed =>
      obtain ⟨status', ctx''⟩ := parsed
      cases status' with
      | errNeedMore => exact receiveEndPrinting_erase _ _ ctx'' (stream.drop size) events
      | _ => rfl

theorem receiveResponse_deliver (ctx : Context) (stream : List Byte) (size : Nat)
    (events : List NetEvent) :
    receiveResponse cfg ctx stream (.deliver size :: events) =
      (if size = 0 ∨ CLIENT_RECV_BUFFER_SIZE < size ∨ stream.length < size then none
      else do
        let (status, ctx) ←
          feedResponseBytes cfg ctx (some (stream.take size)) (BitVec.ofNat 16 size)
        if status ≠ .ok then some (false, ctx, stream.drop size)
        else do
          let (status, ctx) ← parseResponse cfg ctx
          match status with
          | .errNeedMore => receiveResponse cfg ctx (stream.drop size) events
          | .responseError => some (true, ctx, stream.drop size)
          | .ok => some (true, ctx, stream.drop size)
          | _ => some (false, ctx, stream.drop size)) := by
  rw [receiveResponse, receiveEnd_deliver]
  split
  · rfl
  cases feedResponseBytes cfg ctx (some (stream.take size)) (BitVec.ofNat 16 size) with
  | none => rfl
  | some fed =>
    obtain ⟨status, ctx'⟩ := fed
    simp only [Option.bind_eq_bind, Option.bind_some]
    split
    · rfl
    cases parseResponse cfg ctx' with
    | none => rfl
    | some parsed =>
      obtain ⟨status', ctx''⟩ := parsed
      cases status' <;> rfl

/-- What is received behind a request, without the output. -/
theorem receiveAnswer_erase (traceEnabled : Bool) (ctx : Context) (printed : List Printed)
    (cmd : ClientCommand) (io : SocketIo) :
    (receiveAnswer cfg traceEnabled ctx printed cmd io).map (fun r => (r.1, r.2.1, r.2.2.1)) = (do
      let (ending, ctx, rest) ← receiveEnd cfg ctx io.stream io.events
      match ending with
      | .answered status => do
        let report ← printResponse cfg cmd ctx
        some (.answered status (io.stream.take (io.stream.length - rest.length)) report, ctx, rest)
      | ending => some (.receiveFailed ending, ctx, rest)) := by
  rw [← receiveEndPrinting_erase traceEnabled printed, receiveAnswer]
  cases receiveEndPrinting cfg traceEnabled printed ctx io.stream io.events with
  | none => rfl
  | some received =>
    obtain ⟨printed', ending, ctx', rest⟩ := received
    cases ending with
    | answered status =>
      simp only [Option.map_some, Option.bind_eq_bind, Option.bind_some]
      cases printResponse cfg cmd ctx' <;> rfl
    | _ => rfl

/-- What is received behind a request: an answer with its report, or a failure. -/
theorem receiveAnswer_cases {traceEnabled : Bool} {ctx ctx' : Context}
    {printed printed' : List Printed} {cmd : ClientCommand} {io : SocketIo} {ending : CommandEnd}
    {rest : List Byte}
    (h : receiveAnswer cfg traceEnabled ctx printed cmd io = some (ending, ctx', rest, printed')) :
    ∃ reason, receiveEnd cfg ctx io.stream io.events = some (reason, ctx', rest) ∧
      ∀ lines, ending.report = some lines →
        reason.succeeded = true ∧ printResponse cfg cmd ctx' = some lines := by
  obtain ⟨⟨printed₁, reason, ctx₁, rest₁⟩, hreceive, h⟩ := Option.bind_eq_some_iff.mp h
  have hend := @receiveEndPrinting_erase cfg traceEnabled printed ctx io.stream io.events
  rw [hreceive] at hend
  cases reason with
  | answered status =>
    obtain ⟨report, hprint, h⟩ := Option.bind_eq_some_iff.mp h
    cases h
    refine ⟨_, hend.symm, ?_⟩
    rintro _ ⟨⟩
    exact ⟨rfl, hprint⟩
  | _ =>
    cases h
    exact ⟨_, hend.symm, nofun⟩

end Erase

/-! ## Applying a command -/

/-- What a command that was applied leaves behind: a context as after a reset, with the
configured settings and the command's request. -/
structure Applied (cmd : ClientCommand) (settings : NetworkSettings) (ctx : Context) : Prop where
  nextSerial : ctx.nextSerial = 0
  networkSettings : ctx.networkSettings = settings
  empty : ctx.rxCbuffer.contents = []
  get : cmd.type = .get →
    ctx.command = .batchRead ∧ ctx.device = cmd.device ∧ ctx.count = cmd.count.toNat

section Apply

variable {cfg : Config} {ctx : Context} {cmd : ClientCommand} {settings : NetworkSettings}

/-- The loop over the values of a set command changes nothing but the stored values. -/
theorem setWriteValuesLoop_spec (hinv : ctx.Inv cfg) (huse : ctx.inUse = true) {i : Nat}
    {status : Status} {ctx' : Context}
    (h : setWriteValuesLoop cfg cmd i ctx = some (status, ctx')) :
    ctx'.Inv cfg ∧ ∃ values, ctx' = { ctx with values := values } := by
  induction hn : cmd.valueCount.toNat - i generalizing i ctx with
  | zero =>
    rw [setWriteValuesLoop, if_neg (by omega)] at h
    cases h
    exact ⟨hinv, _, rfl⟩
  | succ n ih =>
    rw [setWriteValuesLoop, if_pos (by omega)] at h
    obtain ⟨value, _, h⟩ := Option.bind_eq_some_iff.mp h
    rcases setWriteValue_cases hinv huse (BitVec.ofNat 16 i) value with
      ⟨failed, hne, _, hres⟩ | ⟨_, hres⟩
    · rw [hres] at h
      simp only [Option.bind_eq_bind, Option.bind_some, ne_eq, hne, not_false_eq_true, if_true] at h
      cases h
      exact ⟨hinv, _, rfl⟩
    · rw [hres] at h
      simp only [Option.bind_eq_bind, Option.bind_some, ne_eq, not_true_eq_false, if_false] at h
      have hinv' := Context.Inv.written hinv (BitVec.ofNat 16 i).toNat value
      obtain ⟨hinv₂, values, hvalues⟩ := ih hinv' huse h (by omega)
      exact ⟨hinv₂, values, hvalues⟩

/-- The reset and the settings at the start of every command. -/
theorem reset_settings_spec (hinv : ctx.Inv cfg) (huse : ctx.inUse = true)
    (hheader : HeaderAccepted settings.headerType) :
    { contextResetInternal cfg ctx with networkSettings := settings : Context }.Inv cfg ∧
      (contextResetInternal cfg ctx).inUse = true ∧
      (contextResetInternal cfg ctx).rxCbuffer.contents = [] :=
  ⟨{ contextResetInternal_inv hinv.sized with header := hheader }, huse,
    contextResetInternal_contents hinv.sized⟩

/-- **An applied command starts from a fresh context**, and a failed one leaves a context that
is in order. -/
theorem applyCommandToContext_spec (hinv : ctx.Inv cfg) (huse : ctx.inUse = true)
    {status : Status} {ctx' : Context}
    (h : applyCommandToContext cfg ctx cmd settings = some (status, ctx')) :
    ctx'.Inv cfg ∧ ctx'.inUse = true ∧ (status = .ok → Applied cmd settings ctx') := by
  unfold applyCommandToContext at h
  split at h
  · cases h
    exact ⟨hinv, huse, nofun⟩
  split at h
  · cases h
    exact ⟨hinv, huse, nofun⟩
  have hreset := contextResetInternal_inv hinv.sized
  have huse' : (contextResetInternal cfg ctx).inUse = true := huse
  rw [reset, requireAcquired_ok huse] at h
  simp only at h
  rcases setNetworkSettings_cases huse' (some settings) with
    ⟨failed, hne, hres⟩ | ⟨s, hs, hheader, hres⟩
  · rw [hres] at h
    split at h
    · rename_i heq
      exact absurd (congrArg Prod.fst heq) hne
    · cases h
      exact ⟨hreset, huse', fun hok => absurd hok hne⟩
  cases hs
  rw [hres] at h
  simp only at h
  obtain ⟨hinv₀, huse₀, hempty⟩ := reset_settings_spec hinv huse hheader
  obtain ⟨ctx₀, hctx₀⟩ : ∃ ctx₀, ctx₀ =
      { contextResetInternal cfg ctx with networkSettings := settings } := ⟨_, rfl⟩
  rw [← hctx₀] at h hinv₀
  have huse₁ : ctx₀.inUse = true := hctx₀ ▸ huse₀
  have hnext : ctx₀.nextSerial = 0 := by rw [hctx₀]; rfl
  have hsettings : ctx₀.networkSettings = settings := by rw [hctx₀]
  have hempty₁ : ctx₀.rxCbuffer.contents = [] := by rw [hctx₀]; exact hempty
  split at h
  · rename_i hget
    rcases setRequest_cases hinv₀.values huse₁ .batchRead cmd.device cmd.startAddress cmd.count with
      ⟨failed, hne, _, hres⟩ | ⟨hacc, hres⟩
    · rw [hres] at h
      cases h
      exact ⟨hinv₀, huse₁, fun hok => absurd hok hne⟩
    · rw [hres] at h
      cases h
      exact ⟨hinv₀.withRequest hacc, huse₁, fun _ =>
        ⟨hnext, hsettings, hempty₁, fun _ => ⟨rfl, rfl, rfl⟩⟩⟩
  · rename_i hget
    rcases setRequest_cases hinv₀.values huse₁ .batchWrite cmd.device cmd.startAddress cmd.count with
      ⟨failed, hne, _, hres⟩ | ⟨hacc, hres⟩
    · rw [hres] at h
      simp only [Option.bind_eq_bind, Option.bind_some, ne_eq, hne, not_false_eq_true, if_true] at h
      cases h
      exact ⟨hinv₀, huse₁, fun hok => absurd hok hne⟩
    · rw [hres] at h
      simp only [Option.bind_eq_bind, Option.bind_some, ne_eq, not_true_eq_false, if_false] at h
      obtain ⟨hinv₂, values, rfl⟩ := setWriteValuesLoop_spec (hinv₀.withRequest hacc) huse₁ h
      exact ⟨hinv₂, huse₁, fun _ =>
        ⟨hnext, hsettings, hempty₁, fun hget' => absurd hget' hget⟩⟩

end Apply

/-! ## Receiving a response -/

section Receive

variable {cfg : Config} {ctx : Context}

/-- The bytes `delivered` so far were scanned up to their least viable suffix, which is in the
receive buffer. -/
def Scanned (cfg : Config) (ctx : Context) (delivered : List Byte) : Prop :=
  ctx.rxCbuffer.contents = delivered.drop (frameStart cfg ctx.serial delivered)

/-- More bytes are scanned from where the scan stopped. -/
theorem scanned_received (hinv : ctx.Inv cfg) {delivered chunk : List Byte}
    (hscan : Scanned cfg ctx delivered)
    (hroom : ctx.rxCbuffer.contents.length + chunk.length ≤ FX5_IOBUF_SIZE cfg) :
    ∃ j, frameStart cfg ctx.serial (ctx.received chunk).rxCbuffer.contents = j ∧
      (ctx.received chunk).rxCbuffer.contents.drop j =
        (delivered ++ chunk).drop (frameStart cfg ctx.serial (delivered ++ chunk)) := by
  obtain ⟨_, hcont⟩ := hinv.received hroom
  have hle : frameStart cfg ctx.serial delivered ≤ delivered.length := skip_le_length _ _
  refine ⟨_, rfl, ?_⟩
  rw [hcont, hscan, frameStart_append cfg ctx.serial delivered chunk,
    ← List.drop_append_of_le_length hle, List.drop_drop]

/-- A response was received from `bytes`: what the context `ctx'` shows with `status` is the
answer to the least viable suffix of the bytes `delivered` to the command. -/
structure Received (cfg : Config) (ctx : Context) (bytes : List Byte) (ctx' : Context)
    (rest delivered : List Byte) (status : Status) : Prop where
  split : bytes = delivered ++ rest
  complete : CompleteFrame cfg ctx.serial (delivered.drop (frameStart cfg ctx.serial delivered))
  answer : answerOf status ctx' =
    frameAnswer cfg ctx (delivered.drop (frameStart cfg ctx.serial delivered))
  status : status = .ok ∨ status = .responseError
  device : ctx'.device = ctx.device

/-- What a delivery brings is fed whole, or the feed is refused. -/
theorem deliver_feed_cases (hinv : ctx.Inv cfg) (huse : ctx.inUse = true) {size : Nat}
    {stream : List Byte} (hmax : size ≤ CLIENT_RECV_BUFFER_SIZE) (hsize : size ≤ stream.length) :
    (∃ failed, failed ≠ Status.ok ∧
      feedResponseBytes cfg ctx (some (stream.take size)) (BitVec.ofNat 16 size) =
        some (failed, ctx)) ∨
    (ctx.rxCbuffer.contents.length + (stream.take size).length ≤ FX5_IOBUF_SIZE cfg ∧
      feedResponseBytes cfg ctx (some (stream.take size)) (BitVec.ofNat 16 size) =
        some (.ok, ctx.received (stream.take size))) := by
  rw [CLIENT_RECV_BUFFER_SIZE] at hmax
  have hlen : (stream.take size).length = size := List.length_take_of_le hsize
  have hword : (BitVec.ofNat 16 size).toNat = size := by
    rw [BitVec.toNat_ofNat]
    omega
  have hmem : ∀ d, some (stream.take size) = some d → (BitVec.ofNat 16 size).toNat ≤ d.length := by
    rintro d ⟨⟩
    rw [hword, hlen]
  rcases feedResponseBytes_cases hinv huse hmem with ⟨failed, hne, _, hfeed⟩ | ⟨d, hd, hroom, hfeed⟩
  · exact Or.inl ⟨failed, hne, hfeed⟩
  · cases hd
    rw [hword] at hroom hfeed
    rw [List.take_take, Nat.min_self] at hfeed
    exact Or.inr ⟨hlen.symm ▸ hroom, hfeed⟩

/-- **One delivery** makes the command fail, goes on with the bytes delivered so far scanned, or
receives a response. -/
theorem deliver_cases (hinv : ctx.Inv cfg) (huse : ctx.inUse = true)
    {delivered stream : List Byte} (hscan : Scanned cfg ctx delivered) {size : Nat}
    (hmax : size ≤ CLIENT_RECV_BUFFER_SIZE) (hsize : size ≤ stream.length) (hpos : size ≠ 0)
    (events : List NetEvent) :
    (∃ ctx', receiveResponse cfg ctx stream (.deliver size :: events) =
        some (false, ctx', stream.drop size) ∧ ctx'.Inv cfg ∧ ctx'.inUse = true) ∨
    (∃ j, receiveResponse cfg ctx stream (.deliver size :: events) =
        receiveResponse cfg ((ctx.received (stream.take size)).taken j 0) (stream.drop size) events ∧
      ((ctx.received (stream.take size)).taken j 0).Inv cfg ∧
      Scanned cfg ((ctx.received (stream.take size)).taken j 0) (delivered ++ stream.take size)) ∨
    (∃ ctx' status, receiveResponse cfg ctx stream (.deliver size :: events) =
        some (true, ctx', stream.drop size) ∧ ctx'.Inv cfg ∧ ctx'.inUse = true ∧
      Received cfg ctx (delivered ++ stream) ctx' (stream.drop size)
        (delivered ++ stream.take size) status) := by
  have hrun : ¬(size = 0 ∨ CLIENT_RECV_BUFFER_SIZE < size ∨ stream.length < size) := by omega
  rw [receiveResponse_deliver, if_neg hrun]
  rcases deliver_feed_cases hinv huse hmax hsize with ⟨failed, hne, hfeed⟩ | ⟨hroom, hfeed⟩
  · refine Or.inl ⟨ctx, ?_, hinv, huse⟩
    rw [hfeed]
    simp only [Option.bind_eq_bind, Option.bind_some, ne_eq, hne, not_false_eq_true, if_true]
  rw [hfeed]
  simp only [Option.bind_eq_bind, Option.bind_some, ne_eq, not_true_eq_false, if_false]
  obtain ⟨hinv', _⟩ := hinv.received hroom
  obtain ⟨j, hj, hdrop⟩ := scanned_received hinv hscan hroom
  obtain ⟨status, ctx', hparse, hinv₂, huse₂, _, _, _, _, hdevice⟩ := parseResponse_inv hinv' huse
  rw [hparse]
  simp only [Option.bind_some]
  rcases parseResponse_cases hinv' huse hj with
    ⟨_, _, _, _, hres⟩ | ⟨_, _, hres⟩ | ⟨_, hcomplete, _, _, hres, hanswer, hstatus⟩
  · -- the parser gave up
    rw [hparse] at hres
    cases hres
    exact Or.inl ⟨_, rfl, hinv₂, huse₂⟩
  · -- more bytes are needed: the loop continues
    rw [hparse] at hres
    cases hres
    refine Or.inr (Or.inl ⟨j, rfl, hinv₂, ?_⟩)
    have hjle : j + 0 ≤ (ctx.received (stream.take size)).rxCbuffer.contents.length :=
      hj ▸ skip_le_length _ _
    rw [Scanned, hinv'.contents_taken hjle]
    exact hdrop
  · -- the parser answered for a frame
    rw [hparse] at hres
    cases hres
    rw [hdrop] at hcomplete hanswer
    have hsplit : delivered ++ stream = (delivered ++ stream.take size) ++ stream.drop size := by
      rw [List.append_assoc, List.take_append_drop]
    rcases hstatus with rfl | rfl | rfl
    · exact Or.inr (Or.inr ⟨ctx', .ok, rfl, hinv₂, huse₂,
        ⟨hsplit, hcomplete, hanswer, Or.inl rfl, hdevice⟩⟩)
    · exact Or.inr (Or.inr ⟨ctx', .responseError, rfl, hinv₂, huse₂,
        ⟨hsplit, hcomplete, hanswer, Or.inr rfl, hdevice⟩⟩)
    · exact Or.inl ⟨ctx', rfl, hinv₂, huse₂⟩

/-- **A response that was received is the least viable suffix of all the bytes delivered to
the command.** -/
theorem receiveResponse_spec (hinv : ctx.Inv cfg) (huse : ctx.inUse = true)
    {delivered stream : List Byte} (hscan : Scanned cfg ctx delivered) {events : List NetEvent}
    {received : Bool} {ctx' : Context} {stream' : List Byte}
    (h : receiveResponse cfg ctx stream events = some (received, ctx', stream')) :
    ctx'.Inv cfg ∧ ctx'.inUse = true ∧ (received = true → ∃ delivered' status,
      Received cfg ctx (delivered ++ stream) ctx' stream' delivered' status) := by
  induction events generalizing ctx delivered stream with
  | nil => cases h
  | cons event events ih =>
    cases event with
    | timeout =>
      cases h
      exact ⟨hinv, huse, nofun⟩
    | closed =>
      cases h
      exact ⟨hinv, huse, nofun⟩
    | error =>
      cases h
      exact ⟨hinv, huse, nofun⟩
    | deliver size =>
      by_cases hrun : size = 0 ∨ CLIENT_RECV_BUFFER_SIZE < size ∨ stream.length < size
      · rw [receiveResponse_deliver, if_pos hrun] at h
        cases h
      have hmax : size ≤ CLIENT_RECV_BUFFER_SIZE := by omega
      have hsize : size ≤ stream.length := by omega
      rcases deliver_cases hinv huse hscan hmax hsize (by omega) events with
        ⟨_, hres, hinv', huse'⟩ | ⟨j, hres, hinv', hscan'⟩ | ⟨_, status, hres, hinv', huse', hreceived⟩
      · rw [hres] at h
        cases h
        exact ⟨hinv', huse', nofun⟩
      · rw [hres] at h
        obtain ⟨hinv₂, huse₂, hlater⟩ := ih hinv' huse hscan' h
        refine ⟨hinv₂, huse₂, fun hok => ?_⟩
        -- skipping leading bytes changes neither the serial number nor what the answer reads
        obtain ⟨delivered', status, hreceived⟩ := hlater hok
        rw [List.append_assoc, List.take_append_drop] at hreceived
        exact ⟨delivered', status, ⟨hreceived.split, hreceived.complete, hreceived.answer,
          hreceived.status, hreceived.device⟩⟩
      · rw [hres] at h
        cases h
        exact ⟨hinv', huse', fun _ => ⟨_, status, hreceived⟩⟩

end Receive

/-! ## Printing the answer -/

section Print

variable {cfg : Config} {ctx : Context} {cmd : ClientCommand}

/-- The loop prints every value of the answer. -/
theorem printValuesLoop_spec (hinv : ctx.Inv cfg) (huse : ctx.inUse = true) {i : Nat} :
    printValuesLoop cfg cmd ctx ctx.count i =
      some ((List.range' i (ctx.count - i)).map fun j =>
        valueLine cmd j (valueAt ctx.device ctx.values j)) := by
  have hcount := hinv.count_lt
  induction hn : ctx.count - i generalizing i with
  | zero =>
    rw [printValuesLoop, if_neg (by omega)]
    rfl
  | succ n ih =>
    have hindex : (BitVec.ofNat 16 i).toNat = i := by
      rw [BitVec.toNat_ofNat]
      omega
    have hvalue := getResponseValue_spec hinv huse (BitVec.ofNat 16 i)
    rw [hindex, if_pos (by omega)] at hvalue
    rw [printValuesLoop, if_pos (by omega), hvalue]
    simp only [Option.bind_eq_bind, Option.bind_some, Option.getD_some]
    rw [ih (by omega), List.range'_succ, List.map_cons]
    rfl

/-- What is printed for an answer to a get command. -/
theorem printResponse_get (hinv : ctx.Inv cfg) (huse : ctx.inUse = true) (hget : cmd.type = .get) :
    printResponse cfg cmd ctx =
      if ctx.responseCode ≠ FX5_RESPONSE_OK then some [.plcError ctx.responseCode]
      else some ((List.range ctx.count).map fun i =>
        valueLine cmd i (valueAt ctx.device ctx.values i)) := by
  have hcode : getResponseCode ctx = ctx.responseCode := by simp [getResponseCode, isAcquired, huse]
  have hcnt : getResponseCount ctx = ctx.count := by simp [getResponseCount, isAcquired, huse]
  unfold printResponse
  rw [FX5_RESPONSE_OK]
  simp only [hcode, hcnt]
  split
  · rfl
  · rw [if_neg (by rw [hget]; decide), if_neg (by simp [hget]), printValuesLoop_spec hinv huse,
      Nat.sub_zero, ← List.range_eq_range']

end Print

/-! ## A whole command -/

section Execute

variable {cfg : Config} {state : ClientState} {e : Exchange}

/-- The PLC's answer to a command of the client, which always has the serial number 0. -/
def Exchange.frame (e : Exchange) : List Byte :=
  responseFrame .h4E 0 e.answer.routing e.answer.endCode.toNat e.answer.payload

/-- How a completed command came to its report: it parsed the least viable suffix of the bytes
that were delivered while it was executed. -/
structure Completed (cfg : Config) (e : Exchange) (stream : List Byte) (state' : ClientState)
    (lines : List ReportLine) (ctx : Context) (delivered : List Byte) (status : Status) :
    Prop where
  inv : ctx.Inv cfg
  get : e.command.type = .get →
    ctx.command = .batchRead ∧ ctx.device = e.command.device ∧ ctx.count = e.command.count.toNat
  split : stream ++ e.frame = delivered ++ state'.stream
  complete : CompleteFrame cfg 0 (delivered.drop (frameStart cfg 0 delivered))
  answer : answerOf status state'.ctx =
    frameAnswer cfg ctx (delivered.drop (frameStart cfg 0 delivered))
  serial : ctx.serial = 0
  status : status = .ok ∨ status = .responseError
  device : state'.ctx.device = ctx.device
  printed : printResponse cfg e.command state'.ctx = some lines

/-- The PLC echoes the serial number 0 to the first 4E request after a reset. -/
theorem plcFrame_requestBytes {ctx : Context} (h4 : ctx.networkSettings.headerType = .h4E)
    (hnext : ctx.nextSerial = 0) : plcFrame (requestBytes ctx) e.answer = e.frame := by
  rw [plcFrame, requestBytes_serial h4 (by omega), hnext, Exchange.frame]

/-- **The request of a command** is built whole, or the context stays as it is. -/
theorem buildRequest_client {ctx : Context} (hinv : ctx.Inv cfg) (huse : ctx.inUse = true)
    {built : BuildResult}
    (h : buildRequest cfg ctx (List.replicate (FX5_MAX_REQUEST_SIZE cfg) 0x00#8)
      (BitVec.ofNat 16 (FX5_MAX_REQUEST_SIZE cfg)) 0 = some built) :
    (built.status ≠ .ok ∧ built.context = ctx) ∨
    (built.status = .ok ∧ built.context = ctx.sent ∧
      built.outBuf.take built.actualSize = requestBytes ctx) := by
  have hbuf : (BitVec.ofNat 16 (FX5_MAX_REQUEST_SIZE cfg)).toNat ≤
      (List.replicate (FX5_MAX_REQUEST_SIZE cfg) 0x00#8).length := by
    rw [BitVec.toNat_ofNat, List.length_replicate]
    exact Nat.mod_le _ _
  rcases buildRequest_cases hinv huse hbuf 0 with ⟨hvalid, hres⟩ | ⟨_, _, hres⟩ | ⟨_, _, hres⟩
  · rw [h] at hres
    cases hres
    exact Or.inl ⟨hvalid, rfl⟩
  · rw [h] at hres
    cases hres
    have hsmall : Status.errTooSmall ≠ .ok := by decide
    exact Or.inl ⟨hsmall, rfl⟩
  · rw [h] at hres
    cases hres
    exact Or.inr ⟨rfl, rfl, List.take_left⟩

/-- A command fails before anything is received, or its request is on the wire and what it
reports is printed from the response that it received. -/
theorem executeCommand_cases (hinv : state.ctx.Inv cfg) (huse : state.ctx.inUse = true)
    {report : Option (List ReportLine)} {state' : ClientState}
    (h : executeCommand cfg state e = some (report, state')) :
    (report = none ∧ state'.ctx.Inv cfg ∧ state'.ctx.inUse = true) ∨
    (∃ ctx received, Applied e.command e.settings ctx ∧ ctx.Inv cfg ∧ ctx.inUse = true ∧
      receiveResponse cfg ctx.sent (state.stream ++ plcFrame (requestBytes ctx) e.answer) e.events =
        some (received, state'.ctx, state'.stream) ∧
      ∀ lines, report = some lines →
        received = true ∧ printResponse cfg e.command state'.ctx = some lines) := by
  obtain ⟨r, hexchange, heq⟩ := Option.map_eq_some_iff.mp h
  obtain ⟨⟨status, ctx⟩, happly, hexchange⟩ := Option.bind_eq_some_iff.mp hexchange
  obtain ⟨hinv₁, huse₁, happlied⟩ := applyCommandToContext_spec hinv huse happly
  simp only at hexchange
  split at hexchange
  · cases hexchange
    cases heq
    exact Or.inl ⟨rfl, hinv₁, huse₁⟩
  rename_i hok
  obtain ⟨built, hbuild, hexchange⟩ := Option.bind_eq_some_iff.mp hexchange
  -- the request is built, or nothing happens
  rcases buildRequest_client hinv₁ huse₁ hbuild with ⟨hstatus, hctx⟩ | ⟨hstatus, hctx, hrequest⟩
  · rw [if_pos hstatus, hctx] at hexchange
    cases hexchange
    cases heq
    exact Or.inl ⟨rfl, hinv₁, huse₁⟩
  rw [if_neg (not_not.mpr hstatus), hctx, hrequest] at hexchange
  obtain ⟨⟨ending, ctx', rest, printed⟩, hanswer, hexchange⟩ :=
    Option.bind_eq_some_iff.mp hexchange
  obtain ⟨reason, hreceive, hreport⟩ := receiveAnswer_cases hanswer
  cases hexchange
  cases heq
  refine Or.inr ⟨ctx, reason.succeeded, happlied (not_not.mp hok), hinv₁, huse₁, ?_, hreport⟩
  rw [receiveResponse, hreceive]
  rfl

/-- **Executing a command** keeps the context in order; a command that completes in 4E mode has
parsed bytes delivered to it, with the serial number 0. -/
theorem executeCommand_spec (hinv : state.ctx.Inv cfg) (huse : state.ctx.inUse = true)
    {report : Option (List ReportLine)} {state' : ClientState}
    (h : executeCommand cfg state e = some (report, state')) :
    state'.ctx.Inv cfg ∧ state'.ctx.inUse = true ∧
      (e.settings.headerType = .h4E → ∀ lines, report = some lines →
        ∃ ctx delivered status,
          Completed cfg e state.stream state' lines ctx delivered status) := by
  rcases executeCommand_cases hinv huse h with
    ⟨rfl, hinv', huse'⟩ | ⟨ctx, received, happlied, hinv₁, huse₁, hreceive, hreport⟩
  · exact ⟨hinv', huse', fun _ _ => nofun⟩
  have hscan : Scanned cfg ctx.sent [] := by
    rw [Scanned, ctx.sent_rxCbuffer, happlied.empty, List.drop_nil]
  obtain ⟨hinv₂, huse₂, hcompleted⟩ :=
    receiveResponse_spec hinv₁.sent (ctx.sent_inUse.trans huse₁) hscan hreceive
  refine ⟨hinv₂, huse₂, ?_⟩
  intro h4 lines hlines
  obtain ⟨hok, hprint⟩ := hreport lines hlines
  obtain ⟨delivered, status, hreceived⟩ := hcompleted hok
  have h4' : ctx.networkSettings.headerType = .h4E := by rw [happlied.networkSettings, h4]
  have hsent : ctx.sent = { ctx with serial := 0, nextSerial := u16 (ctx.nextSerial + 1) } := by
    rw [Context.sent, if_pos h4', happlied.nextSerial]
  have hserial : ctx.sent.serial = 0 := by rw [hsent]
  have hget : e.command.type = .get → ctx.sent.command = .batchRead ∧
      ctx.sent.device = e.command.device ∧ ctx.sent.count = e.command.count.toNat := by
    rw [hsent]
    exact happlied.get
  have hcomplete := hreceived.complete
  have hanswer := hreceived.answer
  rw [hserial] at hcomplete hanswer
  refine ⟨ctx.sent, delivered, status, hinv₁.sent, hget, ?_, hcomplete, hanswer, hserial,
    hreceived.status, hreceived.device, hprint⟩
  rw [← plcFrame_requestBytes h4' happlied.nextSerial]
  exact hreceived.split

end Execute

end Fx5
