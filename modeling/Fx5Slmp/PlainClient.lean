import Fx5Slmp.AnyPeer
import Fx5Slmp.PlainLibrary

/-!
# A client without a context

What the client does in front of any peer, said without the library: a command is refused or becomes
the bytes of one request, and what arrives is a list of bytes in which the first viable frame counts.
There is no context, no ring buffer, no serial number and no value store in it.

* `plainReceive`, `plainExecute` — the receive loop and the executor;
* `receive_plain` — the receive loop of the library, seen from here;
* `client_runs_plain` — **refinement**: scripts and interactive runs are those of the plain client.
-/

set_option autoImplicit false

namespace Fx5

open CText StoppingRun

/-! ## Requests -/

/-- The status with which a get or set command is refused; nothing if it is allowed. -/
def ParsedCommand.refusal (cfg : Config) (cmd : ParsedCommand) : Option Status :=
  if cmd.type = .set ∧ cmd.device ∈ [.SM, .SD, .SB, .SW] then some .errUnsupported
  else requestRefusal cfg cmd.pdu.command cmd.device cmd.startAddress.toNat cmd.count.toNat

/-! ## Responses -/

/-- What is reported for a payload behind the end code 0; nothing if it does not fit the command. -/
def ParsedCommand.reportOf (cmd : ParsedCommand) (p : List Byte) : Option (List ReportLine) :=
  if cmd.type = .set then
    if p = [] then some [.ok] else none
  else if p.length = readPayloadLength cmd.device cmd.count.toNat then
    some ((List.range cmd.count.toNat).map fun i =>
      valueLine cmd.toClientCommand i (payloadValue cmd.device cmd.count.toNat p i))
  else none

/-- How a command ends with a packet, behind these received bytes. -/
def ParsedCommand.endWith (cmd : ParsedCommand) (received packet : List Byte) : CommandEnd :=
  if le16At packet 0 ≠ FX5_RESPONSE_OK then
    .answered .responseError received [.plcError (le16At packet 0)]
  else
    match cmd.reportOf (packet.drop FX5_RESP_PDU_HEADER_SIZE) with
    | some report => .answered .ok received report
    | none => .receiveFailed (.parseFailed .errInvalidCount)

/-- Receiving for a command: the bytes received, those of them that are pending, and those on their
way.  There is no result while another event is waited for, or for an event that cannot happen. -/
def plainReceive (cfg : Config) (cmd : ParsedCommand) :
    (received pending left : List Byte) → List NetEvent → Option CommandEnd
  | _, _, _, [] => none
  | received, pending, left, .deliver size :: events =>
    if size = 0 ∨ CLIENT_RECV_BUFFER_SIZE < size ∨ left.length < size then none
    else
      let received := received ++ left.take size
      let pending := pending ++ left.take size
      let k := frameStart cfg 0 pending
      if FX5_IOBUF_SIZE cfg < pending.length then some (.receiveFailed (.feedFailed .errTooSmall))
      else if FX5_RESYNC_LIMIT < k then some (.receiveFailed (.parseFailed .errResync))
      else if CompleteFrame cfg 0 (pending.drop k) then
        some (cmd.endWith received (packetOf (pending.drop k)))
      else plainReceive cfg cmd received (pending.drop k) (left.drop size) events
  | _, _, _, .timeout :: _ => some (.receiveFailed .timeout)
  | _, _, _, .closed :: _ => some (.receiveFailed .closed)
  | _, _, _, .error :: _ => some (.receiveFailed .error)

/-! ## Commands -/

/-- The configuration, and the requests that were given to the socket. -/
structure PlainClient where
  config : ClientConfig
  sock : List (List Byte)

/-- A get or set command. -/
def plainExecute (cfg : Config) (transport : Transport) (client : PlainClient)
    (cmd : ParsedCommand) : Option (CommandEnd × PlainClient) :=
  match cmd.refusal cfg with
  | some status => some (.applyFailed status, client)
  | none =>
    let settings := client.config.networkSettings
    let sock := client.sock ++ [encodeRequest ⟨settings, firstSerial settings, cmd.pdu⟩]
    let client := { client with sock := sock }
    let io := transport sock
    if !io.sent then some (.sendFailed, client)
    else (plainReceive cfg cmd [] [] io.stream io.events).map fun ending => (ending, client)

/-- A command: whether it succeeds, and how it ends. -/
def plainCommand (cfg : Config) (transport : Transport) (client : PlainClient)
    (cmd : ParsedCommand) : Option (Bool × Option CommandEnd × PlainClient) :=
  match cmd.type with
  | .get | .set =>
    (plainExecute cfg transport client cmd).map fun r => (r.1.succeeded, some r.1, r.2)
  | .help => some (true, none, client)
  | .trace =>
    some (true, none,
      { client with config := { client.config with traceEnabled := cmd.traceEnabled } })
  | .header =>
    let settings := { client.config.networkSettings with headerType := cmd.headerType }
    some (true, none,
      { client with config := { client.config with networkSettings := settings } })
  | _ => some (false, none, client)

/-- A text of a script. -/
def plainText (cfg : Config) (platform : Platform) (transport : Transport) (line : List Char)
    (client : PlainClient) : Option (StoppingRun.Turn Execution ScriptStop PlainClient) := do
  let (ok, cmd) ← parseCommand cfg platform line
  if !ok then some (.stop [] .syntaxError client)
  else if cmd.type = .quit then some (.stop [] .quit client)
  else do
    let (done, ending, client) ← plainCommand cfg transport client cmd
    if !done then some (.stop [⟨cmd, ending⟩] .commandFailed client)
    else some (.next [⟨cmd, ending⟩] client)

/-- A text of interactive mode. -/
def plainTurn (cfg : Config) (platform : Platform) (transport : Transport) (line : List Char)
    (client : PlainClient) : Option (StoppingRun.Turn ReplEvent ReplStop PlainClient) := do
  let (ok, cmd) ← parseCommand cfg platform line
  if !ok then some (.next [.syntaxError] client)
  else if cmd.type = .quit then some (.stop [] .quit client)
  else do
    let (_, ending, client) ← plainCommand cfg transport client cmd
    some (.next [.executed ⟨cmd, ending⟩] client)

/-- A client without its context. -/
def ClientApp.plain (app : ClientApp) : PlainClient := ⟨app.config, app.sock⟩

/-! ## The same requests -/

section Requests

variable {cfg : Config} {ctx : Context} {settings : NetworkSettings} {pdu : DecodedPdu}
  {cmd : ParsedCommand}

theorem plain_pdu (hinv : ctx.Inv cfg) : ctx.plain.pdu = ctx.pdu := by
  rw [PlainContext.pdu, plain_payload hinv, plain_values_length]
  rfl

/-- **The bytes of the request** of a prepared context. -/
theorem Prepared.encoded (h : Prepared cfg settings pdu ctx) :
    encodeRequest ⟨settings, firstSerial settings, pdu⟩ = requestBytes ctx := by
  rw [encodeRequest, requestBytes, firstSerial_getD, h.settings, h.nextSerial,
    ← encodePdu_plain h.inv, plain_pdu h.inv, h.pdu]

theorem isSupportedCommand_pdu (cmd : ParsedCommand) :
    isSupportedCommand cmd.pdu.command = true := by
  unfold ParsedCommand.pdu
  simp only
  split <;> rfl

/-- **A command is refused** exactly if it is not allowed. -/
theorem refusal_none : cmd.refusal cfg = none ↔ cmd.Allowed cfg := by
  unfold ParsedCommand.refusal
  split
  · rename_i hreadOnly
    exact ⟨nofun, fun hallowed => absurd hreadOnly.2 (hallowed.2.2.2.2 hreadOnly.1)⟩
  · rename_i hwritable
    rw [requestRefusal_none]
    exact requestAccepted_iff (isSupportedCommand_pdu cmd) fun hset hmem => hwritable ⟨hset, hmem⟩

theorem refusal_ne_ok {status : Status} (h : cmd.refusal cfg = some status) : status ≠ .ok := by
  unfold ParsedCommand.refusal at h
  split at h
  · cases h
    decide
  · exact requestRefusal_ne_ok h

/-- **A command that is refused** is refused by the library, with the same status. -/
theorem applyCommandToContext_refusal (hinv : ctx.Inv cfg) (huse : ctx.inUse = true)
    (hheader : HeaderAccepted settings.headerType) (htype : cmd.type = .get ∨ cmd.type = .set)
    {status : Status} (h : cmd.refusal cfg = some status) :
    ∃ ctx', applyCommandToContext cfg ctx cmd.toClientCommand settings = some (status, ctx') := by
  have hio := needsPlcIo_of_type htype
  obtain ⟨_, huse₀, _⟩ := startedContext_spec hinv huse hheader
  by_cases hreadOnly : cmd.type = .set ∧ cmd.device ∈ [.SM, .SD, .SB, .SW]
  · -- a read-only device is refused before the reset
    have hstatus : status = .errUnsupported := by
      rw [ParsedCommand.refusal, if_pos hreadOnly] at h
      exact (Option.some.inj h).symm
    obtain ⟨hset, hmem⟩ := hreadOnly
    have hno : clientDeviceAllowsWrite cmd.device = false := by
      simp only [List.mem_cons, List.not_mem_nil, or_false] at hmem
      rcases hmem with h | h | h | h <;> rw [h] <;> rfl
    refine ⟨ctx, ?_⟩
    rw [hstatus]
    unfold applyCommandToContext
    rw [hio, hset, hno]
    rfl
  · rw [applyCommandToContext_started huse hheader hio fun hset =>
      (client_device_tables _).2.trans
        (deviceAllowsWrite_of_not_mem fun hmem => hreadOnly ⟨hset, hmem⟩)]
    rw [ParsedCommand.refusal, if_neg hreadOnly] at h
    have hrefused := @setRequest_refusal cfg (startedContext cfg ctx settings) huse₀ _ _ _ _ _ h
    refine ⟨startedContext cfg ctx settings, ?_⟩
    rcases htype with hget | hset
    · rw [if_pos hget]
      rw [ParsedCommand.pdu, hget] at hrefused
      exact hrefused
    · rw [if_neg (by rw [hset]; decide)]
      rw [ParsedCommand.pdu, if_pos hset] at hrefused
      exact (congrArg (Option.bind · _) hrefused).trans (if_pos (requestRefusal_ne_ok h))

end Requests

/-! ## The same answers -/

section Answers

variable {cfg : Config} {ctx ctx' : Context} {cmd : ParsedCommand}

/-- How receiving ends with the result of a parse. -/
def endOf (cfg : Config) (cmd : ClientCommand) (received : List Byte) (status : Status)
    (ctx : Context) : Option CommandEnd :=
  if status = .ok ∨ status = .responseError then
    (printResponse cfg cmd ctx).map (.answered status received)
  else some (.receiveFailed (.parseFailed status))

/-- What is printed for an answer with an end code. -/
theorem printResponse_error (huse : ctx.inUse = true) (hcode : ctx.responseCode ≠ FX5_RESPONSE_OK)
    (cmd : ClientCommand) : printResponse cfg cmd ctx = some [.plcError ctx.responseCode] := by
  unfold printResponse
  simp only [getResponseCode_eq huse]
  exact if_pos hcode

/-- What is printed for a write that succeeded. -/
theorem printResponse_set (huse : ctx.inUse = true) (hcode : ctx.responseCode = FX5_RESPONSE_OK)
    {cmd : ClientCommand} (hset : cmd.type = .set) : printResponse cfg cmd ctx = some [.ok] := by
  unfold printResponse
  simp only [getResponseCode_eq huse, hcode]
  rw [if_neg (by decide), if_pos hset]

/-- The result of the payload stage is in the context. -/
structure Stored (cfg : Config) (device : Device) (r : PduResult) (ctx : Context) : Prop where
  inv : ctx.Inv cfg
  inUse : ctx.inUse = true
  device : ctx.device = device
  responseCode : ctx.responseCode = r.responseCode
  count : ctx.count = r.count
  values : ctx.values = r.values

/-- The request of a command that is executed. -/
structure Requested (cmd : ParsedCommand) (ctx : Context) : Prop where
  type : cmd.type = .get ∨ cmd.type = .set
  pdu : ctx.pdu = cmd.pdu
  count_ne : cmd.count.toNat ≠ 0

theorem Requested.device (h : Requested cmd ctx) : ctx.device = cmd.device :=
  congrArg DecodedPdu.device h.pdu

theorem Requested.count (h : Requested cmd ctx) : ctx.count = cmd.count.toNat :=
  congrArg DecodedPdu.count h.pdu

theorem Requested.read (h : Requested cmd ctx) (hget : cmd.type = .get) :
    ctx.command = .batchRead := by
  have hcommand : ctx.command = cmd.pdu.command := congrArg DecodedPdu.command h.pdu
  rw [hcommand, ParsedCommand.pdu, hget]
  rfl

theorem Requested.write (h : Requested cmd ctx) (hset : cmd.type = .set) :
    ctx.command = .batchWrite := by
  have hcommand : ctx.command = cmd.pdu.command := congrArg DecodedPdu.command h.pdu
  rw [hcommand, ParsedCommand.pdu, hset]
  rfl

/-- A read payload that was accepted is printed value by value. -/
theorem report_read (hinv : ctx.Inv cfg) (h : Requested cmd ctx) (hget : cmd.type = .get)
    (hcode : ctx.responseCode = FX5_RESPONSE_OK) {p : List Byte}
    (hok : (payloadResult ctx p).status = .ok)
    (hstored : Stored cfg ctx.device (payloadResult ctx p) ctx') :
    printResponse cfg cmd.toClientCommand ctx' =
      some ((List.range cmd.count.toNat).map fun i =>
        valueLine cmd.toClientCommand i (payloadValue cmd.device cmd.count.toNat p i)) := by
  obtain ⟨values, hres, hvalues⟩ := payloadResult_ok hinv (h.read hget) hcode hok
  have hcount := hstored.count
  have hcode' := hstored.responseCode
  have hvalues' := hstored.values
  rw [hres] at hcount hcode' hvalues'
  rw [printResponse_get hstored.inv hstored.inUse hget, if_neg (not_not.mpr hcode'), hcount,
    hvalues', hstored.device, h.count]
  refine congrArg some (List.map_congr_left fun i hi => ?_)
  have hvalue := hvalues i (h.count.symm ▸ List.mem_range.mp hi)
  rw [h.count] at hvalue
  rw [hvalue, h.device]

/-- A payload behind the end code 0 of a write. -/
theorem payloadResult_write (hwrite : ctx.command = .batchWrite)
    (hcode : ctx.responseCode = FX5_RESPONSE_OK) (p : List Byte) :
    payloadResult ctx p = if p = [] then ⟨.ok, FX5_RESPONSE_OK, 0, ctx.values, 0⟩
      else .reject ctx p.length := by
  rw [payloadResult, if_neg (not_not.mpr hcode), if_pos hwrite, hcode]

/-- **A payload** behind the end code 0 ends the command as the plain client says. -/
theorem endOf_payload (hinv : ctx.Inv cfg) (h : Requested cmd ctx) (received : List Byte)
    (hcode : ctx.responseCode = FX5_RESPONSE_OK) {p : List Byte}
    (hstored : Stored cfg ctx.device (payloadResult ctx p) ctx') :
    endOf cfg cmd.toClientCommand received (payloadResult ctx p).status ctx' =
      some (match cmd.reportOf p with
        | some report => .answered .ok received report
        | none => .receiveFailed (.parseFailed .errInvalidCount)) := by
  unfold ParsedCommand.reportOf
  rcases h.type with hget | hset
  · rw [if_neg (by rw [hget]; decide)]
    have hstatus := payloadResult_status_iff (h.read hget) hcode (p := p)
    rw [h.device, h.count] at hstatus
    by_cases hlen : p.length = readPayloadLength cmd.device cmd.count.toNat
    · have hok := hstatus.mpr ⟨h.count_ne, hlen⟩
      rw [if_pos hlen, hok, endOf, if_pos (Or.inl rfl), report_read hinv h hget hcode hok hstored]
      rfl
    · rw [if_neg hlen, payloadResult_refused (h.read hget) hcode (by
        rw [h.device, h.count]
        exact fun hboth => hlen hboth.2)]
      rfl
  · rw [if_pos hset]
    rw [payloadResult_write (h.write hset) hcode] at hstored ⊢
    split
    · rename_i hempty
      rw [if_pos hempty] at hstored
      rw [endOf, if_pos (Or.inl rfl), printResponse_set hstored.inUse hstored.responseCode hset]
      rfl
    · rfl

/-- **A packet** ends the command as the plain client says. -/
theorem endOf_packet (hinv : ctx.Inv cfg) (h : Requested cmd ctx) (received packet : List Byte)
    (hstored : Stored cfg ctx.device (pduResult ctx packet) ctx') :
    endOf cfg cmd.toClientCommand received (pduResult ctx packet).status ctx' =
      some (cmd.endWith received packet) := by
  have hendCode : ctx'.responseCode = le16At packet 0 :=
    hstored.responseCode.trans (pduResult_code ctx packet)
  unfold ParsedCommand.endWith
  by_cases herror : le16At packet 0 ≠ FX5_RESPONSE_OK
  · have hstatus := (@pduResult_responseError ctx packet).mpr herror
    rw [if_pos herror, hstatus, endOf, if_pos (Or.inr rfl),
      printResponse_error hstored.inUse (by rw [hendCode]; exact herror), hendCode]
    rfl
  · -- the payload stage sees the end code in the context
    obtain ⟨ctx₁, hctx₁⟩ : ∃ ctx₁, ctx₁ = { ctx with responseCode := le16At packet 0 } := ⟨_, rfl⟩
    have hinv₁ : ctx₁.Inv cfg := by
      rw [hctx₁]
      exact { hinv with }
    have h₁ : Requested cmd ctx₁ := by
      rw [hctx₁]
      exact ⟨h.type, h.pdu, h.count_ne⟩
    have hcode₁ : ctx₁.responseCode = FX5_RESPONSE_OK := by
      rw [hctx₁]
      exact not_not.mp herror
    have hresult : pduResult ctx packet =
        { payloadResult ctx₁ (packet.drop FX5_RESP_PDU_HEADER_SIZE) with
          consumed := FX5_RESP_PDU_HEADER_SIZE +
            (payloadResult ctx₁ (packet.drop FX5_RESP_PDU_HEADER_SIZE)).consumed } := by
      rw [hctx₁]
      rfl
    have hstored₁ : Stored cfg ctx₁.device
        (payloadResult ctx₁ (packet.drop FX5_RESP_PDU_HEADER_SIZE)) ctx' := by
      rw [hresult] at hstored
      refine ⟨hstored.inv, hstored.inUse, ?_, hstored.responseCode, hstored.count, hstored.values⟩
      rw [hstored.device, hctx₁]
    rw [if_neg herror, hresult]
    exact endOf_payload hinv₁ h₁ received hcode₁ hstored₁

end Answers

/-! ## The receive loop -/

section Receive

variable {cfg : Config} {ctx : Context} {cmd : ParsedCommand}

/-- How a command ends with the end of the receive loop. -/
def commandEnd (cfg : Config) (cmd : ClientCommand) (stream : List Byte)
    (r : ReceiveEnd × Context × List Byte) : Option CommandEnd :=
  match r.1 with
  | .answered status =>
    (printResponse cfg cmd r.2.1).map
      (.answered status (stream.take (stream.length - r.2.2.length)))
  | ending => some (.receiveFailed ending)

/-- The last bytes of a stream that are left say what was received. -/
theorem received_eq {stream received left : List Byte} (h : stream = received ++ left) :
    stream.take (stream.length - left.length) = received := by
  rw [h, List.length_append, Nat.add_sub_cancel, List.take_left]

/-- What `fx5_client_receive_response` makes of the result of a parse. -/
theorem commandEnd_parsed {received left stream : List Byte} {ctx' : Context}
    (hstream : stream = received ++ left) {status : Status}
    (hstatus : status = .ok ∨ status = .responseError ∨ status = .errInvalidCount) (cmd : ClientCommand)
    (events : List NetEvent) :
    (Option.bind (match status with
        | .errNeedMore => receiveEnd cfg ctx' left events
        | .responseError => some (.answered .responseError, ctx', left)
        | .ok => some (.answered .ok, ctx', left)
        | status => some (.parseFailed status, ctx', left))
      (commandEnd cfg cmd stream)) = endOf cfg cmd received status ctx' := by
  rcases hstatus with rfl | rfl | rfl
  · simp only [Option.bind_some, commandEnd, received_eq hstream]
    rfl
  · simp only [Option.bind_some, commandEnd, received_eq hstream]
    rfl
  · rfl

/-- **A parse** gives up, asks for more bytes, or ends the command. -/
theorem parse_plain (hinv : ctx.Inv cfg) (huse : ctx.inUse = true) (hserial : ctx.serial = 0)
    (h : Requested cmd ctx) (received : List Byte) {k : Nat}
    (hk : frameStart cfg 0 ctx.rxCbuffer.contents = k) :
    (FX5_RESYNC_LIMIT < k ∧ ∃ ctx', parseResponse cfg ctx = some (.errResync, ctx')) ∨
    (k ≤ FX5_RESYNC_LIMIT ∧ ¬CompleteFrame cfg 0 (ctx.rxCbuffer.contents.drop k) ∧
      parseResponse cfg ctx = some (.errNeedMore, ctx.taken k 0)) ∨
    (k ≤ FX5_RESYNC_LIMIT ∧ CompleteFrame cfg 0 (ctx.rxCbuffer.contents.drop k) ∧
      ∃ status ctx', parseResponse cfg ctx = some (status, ctx') ∧
        (status = .ok ∨ status = .responseError ∨ status = .errInvalidCount) ∧
        endOf cfg cmd.toClientCommand received status ctx' =
          some (cmd.endWith received (packetOf (ctx.rxCbuffer.contents.drop k)))) := by
  have hk' : frameStart cfg ctx.serial ctx.rxCbuffer.contents = k := by rw [hserial, hk]
  have houtcome := parseResponse_outcome hinv huse hk' rfl
  rw [hserial] at houtcome
  rcases houtcome with ⟨hlimit, hres⟩ | ⟨hlimit, hcomplete, hres⟩ | ⟨hlimit, hcomplete, hres⟩
  · exact Or.inl ⟨hlimit, _, hres⟩
  · exact Or.inr (Or.inl ⟨hlimit, hcomplete, hres⟩)
  · obtain ⟨packet, hpacket⟩ : ∃ packet, packet = packetOf (ctx.rxCbuffer.contents.drop k) :=
      ⟨_, rfl⟩
    rw [← hpacket] at hres ⊢
    obtain ⟨status, ctx', hparse, hinv', huse', _, _, _, _, hdevice⟩ := parseResponse_inv hinv huse
    rw [hparse] at hres
    obtain ⟨hstatus, hctx⟩ := Prod.mk.inj (Option.some.inj hres)
    have hstored : Stored cfg ctx.device (pduResult ctx packet) ctx' := by
      refine ⟨hinv', huse', hdevice, ?_, ?_, ?_⟩
      · rw [hctx]
        rfl
      · rw [hctx]
        rfl
      · rw [hctx]
        rfl
    refine Or.inr (Or.inr ⟨hlimit, hcomplete, status, ctx', hparse, ?_, ?_⟩)
    · rw [hstatus]
      exact pduResult_status ctx packet
    · rw [hstatus]
      exact endOf_packet hinv h received packet hstored

/-- **The receive loop** of the library is that of the plain client. -/
theorem receive_plain {events : List NetEvent} {stream received pending left : List Byte}
    (hinv : ctx.Inv cfg) (huse : ctx.inUse = true) (hserial : ctx.serial = 0)
    (h : Requested cmd ctx) (hpending : ctx.rxCbuffer.contents = pending)
    (hstream : stream = received ++ left) :
    (receiveEnd cfg ctx left events).bind (commandEnd cfg cmd.toClientCommand stream) =
      plainReceive cfg cmd received pending left events := by
  induction events generalizing ctx received pending left with
  | nil => rfl
  | cons event events ih =>
    cases event with
    | timeout | closed | error => rfl
    | deliver size =>
      rw [receiveEnd_deliver, plainReceive]
      split
      · rfl
      rename_i hrun
      have hsize : size ≤ left.length := by omega
      have hlen : (left.take size).length = size := List.length_take_of_le hsize
      have hmax : size ≤ 512 := by
        rw [CLIENT_RECV_BUFFER_SIZE] at hrun
        omega
      have hstream' : stream = (received ++ left.take size) ++ left.drop size := by
        rw [List.append_assoc, List.take_append_drop]
        exact hstream
      simp only [← hpending, List.length_append, hlen]
      split
      · rename_i hfull
        rw [feed_full hinv huse (by rw [BitVec.toNat_ofNat]; omega)]
        rfl
      rename_i hroom
      have hroom' : ctx.rxCbuffer.contents.length + (left.take size).length ≤ FX5_IOBUF_SIZE cfg := by
        omega
      have hfeed := feed_fitting hinv huse hroom'
      rw [hlen] at hfeed
      obtain ⟨hinv₁, hcontents⟩ := hinv.received hroom'
      obtain ⟨ctx₁, hctx₁⟩ : ∃ ctx₁, ctx₁ = ctx.received (left.take size) := ⟨_, rfl⟩
      rw [← hctx₁] at hfeed hinv₁ hcontents
      have huse₁ : ctx₁.inUse = true := by rw [hctx₁]; exact huse
      have hserial₁ : ctx₁.serial = 0 := by rw [hctx₁]; exact hserial
      have h₁ : Requested cmd ctx₁ := by
        rw [hctx₁]
        exact ⟨h.type, h.pdu, h.count_ne⟩
      simp only [hfeed, Option.bind_eq_bind, Option.bind_some, ne_eq, not_true_eq_false, if_false]
      rw [← hcontents]
      obtain ⟨k, hk⟩ : ∃ k, frameStart cfg 0 ctx₁.rxCbuffer.contents = k := ⟨_, rfl⟩
      rw [hk]
      rcases parse_plain hinv₁ huse₁ hserial₁ h₁ (received ++ left.take size) hk with
        ⟨hlimit, ctx', hparse⟩ | ⟨hlimit, hcomplete, hparse⟩ |
        ⟨hlimit, hcomplete, status, ctx', hparse, hstatus, hend⟩
      · -- the parser gives up
        rw [if_pos hlimit, hparse]
        rfl
      · -- more bytes are needed
        have hle : k + 0 ≤ ctx₁.rxCbuffer.contents.length := frameStart_le_length hk
        rw [if_neg (Nat.not_lt_of_le hlimit), if_neg hcomplete, hparse]
        exact ih (hinv₁.taken hle) huse₁ hserial₁ ⟨h₁.type, h₁.pdu, h₁.count_ne⟩
          (hinv₁.contents_taken hle) hstream'
      · rw [if_neg (Nat.not_lt_of_le hlimit), if_pos hcomplete, hparse]
        exact (commandEnd_parsed hstream' hstatus _ _).trans hend

/-- Receiving for a command, without the context. -/
theorem appReceiveResponse_plain {app : ClientApp} (hready : app.Ready cfg)
    (hserial : app.ctx.serial = 0) (h : Requested cmd app.ctx)
    (hempty : app.ctx.rxCbuffer.contents = []) (io : SocketIo) :
    (appReceiveResponse cfg app cmd.toClientCommand io).map (fun r => (r.1, r.2.plain)) =
      (plainReceive cfg cmd [] [] io.stream io.events).map fun ending => (ending, app.plain) := by
  have hreceive := @receive_plain cfg app.ctx cmd io.events _ _ _ _ hready.1 hready.2 hserial h hempty
    (List.nil_append io.stream).symm
  rw [← hreceive]
  rw [appReceiveResponse_eq]
  cases receiveEnd cfg app.ctx io.stream io.events with
  | none => rfl
  | some received =>
    obtain ⟨ending, ctx', rest⟩ := received
    cases ending with
    | answered status =>
      simp only [Option.bind_eq_bind, Option.bind_some, commandEnd]
      cases printResponse cfg cmd.toClientCommand ctx' <;> rfl
    | _ => rfl

end Receive

/-! ## Commands and texts -/

section Execute

variable {cfg : Config} {transport : Transport} {app app' : ClientApp} {cmd : ParsedCommand}

/-- **A get or set command**, without the context. -/
theorem appExecuteCommand_plain (hsession : app.InSession cfg)
    (htype : cmd.type = .get ∨ cmd.type = .set) (hcmd : cmd.WellFormed) :
    (appExecuteCommand cfg transport app cmd.toClientCommand).map (fun r => (r.1, r.2.plain)) =
      plainExecute cfg transport app.plain cmd := by
  obtain ⟨⟨hinv, huse⟩, hheader⟩ := hsession
  rw [appExecuteCommand, executeCommandPrinting_quiet, plainExecute]
  cases hrefusal : cmd.refusal cfg with
  | some status =>
    obtain ⟨ctx', happly⟩ := applyCommandToContext_refusal hinv huse hheader htype hrefusal
    simp only [happly, Option.bind_eq_bind, Option.bind_some, ne_eq, refusal_ne_ok hrefusal,
      not_false_eq_true, if_true, Option.map_some]
    rfl
  | none =>
    have hallowed := refusal_none.mp hrefusal
    obtain ⟨ctx, happly, hprepared⟩ :=
      applyCommandToContext_allowed hinv huse hheader htype hallowed hcmd
    obtain ⟨built, hbuild, hok, hctx, hrequest⟩ := hprepared.built
    obtain ⟨hinv₁, huse₁, hserial, hempty, hpdu⟩ := hprepared.sent
    simp only [happly, Option.bind_eq_bind, Option.bind_some, ne_eq, not_true_eq_false, if_false,
      hbuild, hok, hctx, hrequest]
    have hencoded : encodeRequest ⟨app.plain.config.networkSettings,
        firstSerial app.plain.config.networkSettings, cmd.pdu⟩ = requestBytes ctx :=
      hprepared.encoded
    rw [hencoded]
    have hsock : app.plain.sock = app.sock := rfl
    rw [hsock]
    split
    · rfl
    · exact appReceiveResponse_plain ⟨hinv₁, huse₁⟩ hserial ⟨htype, hpdu, hallowed.2.1⟩ hempty _

/-- **A command**, without the context. -/
theorem executeReplCommand_plain (hsession : app.InSession cfg) (hcmd : cmd.WellFormed) :
    (executeReplCommand cfg transport app cmd).map (fun r => (r.1, r.2.1, r.2.2.plain)) =
      plainCommand cfg transport app.plain cmd := by
  have hplc (htype : cmd.type = .get ∨ cmd.type = .set) :
      ((appExecuteCommand cfg transport app cmd.toClientCommand).bind fun r =>
        some (r.1.succeeded, some r.1, r.2)).map (fun r => (r.1, r.2.1, r.2.2.plain)) =
      (plainExecute cfg transport app.plain cmd).map
        fun r => (r.1.succeeded, some r.1, r.2) := by
    rw [← appExecuteCommand_plain hsession htype hcmd]
    cases appExecuteCommand cfg transport app cmd.toClientCommand <;> rfl
  rw [executeReplCommand, executeReplCommandPrinting_quiet, plainCommand]
  cases htype : cmd.type with
  | get => exact hplc (Or.inl htype)
  | set => exact hplc (Or.inr htype)
  | _ => rfl

variable {platform : Platform}

/-- A text of a script, without the context. -/
theorem runText_plain (hsession : app.InSession cfg) (line : List Char) :
    (runText cfg platform transport line app).map (Turn.view id ClientApp.plain) =
      plainText cfg platform transport line app.plain := by
  rw [runText, runTextPrinting_quiet, plainText]
  cases hparse : parseCommand cfg platform line with
  | none => rfl
  | some parsed =>
    obtain ⟨ok, cmd⟩ := parsed
    cases ok with
    | false => rfl
    | true =>
      simp only [Option.bind_eq_bind, Option.bind_some, Bool.not_true, Bool.false_eq_true, if_false]
      split
      · rfl
      rw [← executeReplCommand_plain hsession (accepted_wellFormed hparse)]
      cases executeReplCommand cfg transport app cmd with
      | none => rfl
      | some r =>
        obtain ⟨done, ending, app'⟩ := r
        cases done <;> rfl

/-- A text of interactive mode, without the context. -/
theorem replTurn_plain (hsession : app.InSession cfg) (line : List Char) :
    (replTurn cfg platform transport line app).map (Turn.view id ClientApp.plain) =
      plainTurn cfg platform transport line app.plain := by
  rw [replTurn, runReplTextPrinting_quiet, plainTurn]
  cases hparse : parseCommand cfg platform line with
  | none => rfl
  | some parsed =>
    obtain ⟨ok, cmd⟩ := parsed
    cases ok with
    | false => rfl
    | true =>
      simp only [Option.bind_eq_bind, Option.bind_some, Bool.not_true, Bool.false_eq_true, if_false]
      split
      · rfl
      rw [← executeReplCommand_plain hsession (accepted_wellFormed hparse)]
      cases executeReplCommand cfg transport app cmd <;> rfl

end Execute

/-! ## Whole runs -/

/-- A script: the return code, and how its run ends. -/
def plainScriptRun (cfg : Config) (platform : Platform) (transport : Transport)
    (script : ScriptFile) (client : PlainClient) :
    Option (Nat × Ended Execution ScriptStop PlainClient) :=
  (run (plainText cfg platform transport) (handedOver script.text) client).map
    fun ended => (scriptRc script.ferror ended.reason, ended)

/-- Interactive mode. -/
def plainReplRun (cfg : Config) (platform : Platform) (transport : Transport) (input : List Char)
    (client : PlainClient) : Option (Nat × Ended ReplEvent ReplStop PlainClient) :=
  (run (plainTurn cfg platform transport) (replTexts input) client).map fun ended => (0, ended)

/-- **The client runs as the plain client**, in front of any peer, which may send any bytes in any
pieces and fail at any time: the commands, their endings and reports, the bytes of the requests, the
configuration and the return code of a script and of interactive mode are those of a client that has
no context.  So nothing that earlier commands, earlier users or earlier bytes left in the context can
be seen from outside. -/
theorem client_runs_plain {cfg : Config} (platform : Platform) (transport : Transport)
    {app : ClientApp} (hready : app.Ready cfg)
    (hheader : HeaderAccepted app.config.networkSettings.headerType) :
    (∀ script, (scriptRun cfg platform transport (some script) app).map
        (fun r => (r.1, r.2.map fun r => r.ended.view id ClientApp.plain)) =
      (plainScriptRun cfg platform transport script app.plain).map fun r => (r.1, some r.2)) ∧
    ∀ input, (replRun cfg platform transport input app).map
        (fun r => (r.1, r.2.view id ClientApp.plain)) =
      plainReplRun cfg platform transport input app.plain := by
  have hsession : app.InSession cfg := ⟨hready, hheader⟩
  constructor
  · intro script
    have hview := @run_view _ _ _ _ _ _ (runText cfg platform transport)
      (plainText cfg platform transport) id ClientApp.plain (ClientApp.InSession cfg)
      (fun _ _ _ _ hsession hturn => (runText_sent (Sent.start hsession) hturn).session)
      (fun line _ hsession => runText_plain hsession line) (handedOver script.text) _ hsession
    have htexts := congrArg
      (Option.map fun r => (r.1, r.2.map fun ended => ended.view id ClientApp.plain))
      (@scriptRun_texts cfg platform transport script app)
    rw [Option.map_map, Option.map_map] at htexts
    rw [plainScriptRun, ← hview, Option.map_map, Option.map_map]
    refine Eq.trans (congrArg (Option.map · _) (funext fun r => ?_)) htexts
    simp only [Function.comp_apply, Option.map_map]
    rfl
  · intro input
    have hview := @run_view _ _ _ _ _ _ (replTurn cfg platform transport)
      (plainTurn cfg platform transport) id ClientApp.plain (ClientApp.InSession cfg)
      (fun _ _ _ _ hsession hturn => (replTurn_sent (Sent.start hsession) hturn).session)
      (fun line _ hsession => replTurn_plain hsession line) (replTexts input) _ hsession
    rw [replRun_texts, plainReplRun, ← hview, Option.map_map, Option.map_map]
    rfl

/-- A peer that answers every request with the same frame, behind one byte of garbage and cut in
two. -/
def noisyPeer : Transport := fun _ =>
  ⟨true, 0xAA#8 :: answerFrame 0x00 [0x11, 0x22], [.deliver 7, .deliver 11]⟩

theorem getScript_runs_plain :
    (scriptRun .smallest lp64 noisyPeer (some getScript) startedApp).map
        (fun r => (r.1, r.2.map fun r => r.ended.outputs.map (·.ending))) =
      some (0, some [some (.answered .ok (0xAA#8 :: answerFrame 0x00 [0x11, 0x22])
        [.word 0 0x2211])]) := by
  have hplain := (client_runs_plain lp64 noisyPeer startedApp_ready (Or.inr rfl)).1 getScript
  have hrun : (plainScriptRun .smallest lp64 noisyPeer getScript startedApp.plain).map
      (fun r => (r.1, some (r.2.outputs.map (·.ending)))) =
        some (0, some [some (.answered .ok (0xAA#8 :: answerFrame 0x00 [0x11, 0x22])
          [.word 0 0x2211])]) := by
    rw [plainScriptRun, handedOver_getScript]
    decide +kernel
  have hendings := congrArg (Option.map fun r => (r.1, r.2.map fun e => e.outputs.map (·.ending)))
    hplain
  rw [Option.map_map, Option.map_map] at hendings
  refine Eq.trans (congrArg (Option.map · _) (funext fun r => ?_)) (hendings.trans hrun)
  simp only [Function.comp_apply, Option.map_map, Ended.view, List.map_id]
  rfl

end Fx5
