import Fx5Slmp.Request
import Fx5Slmp.Response

/-!
# The public API on one context

Model of the functions of `fx5_core.c` that work on one context.  Each takes the context the
handle points to and returns its status with the context after the call; a NULL handle is
answered by `requireAcquired none` before any of them is reached.  Pointer arguments that may
be NULL are `Option`s.

`parseResponseLoop` is the `while (true)` loop of `fx5_parse_response`.  It is defined by
recursion on the number of buffered bytes, so it is total: a turn that continues leaves fewer
bytes in the buffer (`parseResponseTurn_again_size`).
-/

set_option autoImplicit false

namespace Fx5

open CheckedMem

/-- `fx5_reset`. -/
def reset (cfg : Config) (ctx : Context) : Status × Context :=
  match requireAcquired (some ctx) with
  | .ok => (.ok, contextResetInternal cfg ctx)
  | status => (status, ctx)

/-- `fx5_set_network_settings`. -/
def setNetworkSettings (ctx : Context) (settings : Option NetworkSettings) : Status × Context :=
  match requireAcquired (some ctx) with
  | .ok =>
    match settings with
    | none => (.errNull, ctx)
    | some settings =>
      if settings.headerType ≠ .h3E ∧ settings.headerType ≠ .h4E then (.errUnsupported, ctx)
      else (.ok, { ctx with networkSettings := settings })
  | status => (status, ctx)

/-- `fx5_get_network_settings` with a non-NULL `out_settings`. -/
def getNetworkSettings (ctx : Context) : Status × Option NetworkSettings :=
  match requireAcquired (some ctx) with
  | .ok => (.ok, some ctx.networkSettings)
  | status => (status, none)

/-- `fx5_set_header_mode`. -/
def setHeaderMode (ctx : Context) (mode : HeaderType) : Status × Context :=
  match requireAcquired (some ctx) with
  | .ok =>
    if mode ≠ .h3E ∧ mode ≠ .h4E then (.errUnsupported, ctx)
    else (.ok, { ctx with networkSettings := { ctx.networkSettings with headerType := mode } })
  | status => (status, ctx)

/-- `fx5_set_monitoring_timer`. -/
def setMonitoringTimer (ctx : Context) (timer : Word) : Status × Context :=
  match requireAcquired (some ctx) with
  | .ok =>
    (.ok, { ctx with networkSettings := { ctx.networkSettings with monitoringTimer := timer } })
  | status => (status, ctx)

/-- The loop of `fx5_set_request` that clears the values. -/
def clearValuesLoop (cfg : Config) (values : List Word) : Option (List Word) :=
  forRange (fun k values => store values k 0x0000#16) 0 cfg.FX5_MAX_VALUE_COUNT values

/-- `fx5_set_request`. -/
def setRequest (cfg : Config) (ctx : Context) (command : Command) (device : Device)
    (address : BitVec 32) (count : Word) : Option (Status × Context) :=
  match requireAcquired (some ctx) with
  | .ok =>
    if count.toNat = 0 then some (.errInvalidCount, ctx)
    else if address.toNat > FX5_MAX_ADDRESS then some (.errInvalidAddress, ctx)
    else if !isSupportedCommand command then some (.errUnsupported, ctx)
    else if !isSupportedDevice device then some (.errUnsupported, ctx)
    else if count.toNat >
        (if isBitDevice device then FX5_MAX_BIT_VALUE_COUNT cfg else FX5_MAX_WORD_VALUE_COUNT cfg) then
      some (.errInvalidCount, ctx)
    else do
      let values ←
        if cfg.FX5_CLEAR_VALUES_ON_SET_REQUEST then clearValuesLoop cfg ctx.values
        else some ctx.values
      some (.ok, { ctx with
        command := command
        device := device
        address := address.toNat
        count := count.toNat
        responseCode := FX5_RESPONSE_OK
        resyncCounter := 0
        values := values })
  | status => some (status, ctx)

/-- `fx5_set_write_value`. -/
def setWriteValue (cfg : Config) (ctx : Context) (index value : Word) : Option (Status × Context) :=
  match requireAcquired (some ctx) with
  | .ok =>
    if ctx.count = 0 then some (.errState, ctx)
    else if index.toNat ≥ ctx.count then some (.errInvalidIndex, ctx)
    else if isBitDevice ctx.device then
      let slot := u16 (index.toNat / 16)
      let mask : Word := 1#16 <<< (index.toNat % 16)
      if slot ≥ cfg.FX5_MAX_VALUE_COUNT then some (.errInvalidIndex, ctx)
      else do
        let v ← ctx.values[slot]?
        let values ← store ctx.values slot (if value ≠ 0 then v ||| mask else v &&& ~~~mask)
        some (.ok, { ctx with values := values })
    else if index.toNat ≥ FX5_MAX_WORD_VALUE_COUNT cfg then some (.errInvalidIndex, ctx)
    else do
      let values ← store ctx.values index.toNat value
      some (.ok, { ctx with values := values })
  | status => some (status, ctx)

/-- The header builder that `fx5_build_request` calls. -/
def buildWireHeader (context : Context) (out : List Byte) (base bufferSize payloadSize : Nat) :
    Option (Status × Context × List Byte × Nat) :=
  if context.networkSettings.headerType = .h4E then
    buildWireHeader4E context out base bufferSize payloadSize
  else buildWireHeader3E context out base bufferSize payloadSize

/-- The PDU builder that `fx5_build_request` calls. -/
def buildPduRequest (context : Context) (out : List Byte) (base bufferSize : Nat) :
    Option (Status × List Byte × Nat) :=
  if context.command = .batchRead then buildPduReadRequest context out base bufferSize
  else buildPduWriteRequest context out base bufferSize

/-- What a call of `fx5_build_request` leaves behind: the context, the output buffer and the
size variable. -/
structure BuildResult where
  status : Status
  context : Context
  outBuf : List Byte
  actualSize : Nat
  deriving DecidableEq

/-- `fx5_build_request` with non-NULL `out_buf` and `actual_size`; `out_buf` is given by its
bytes, `actualSize` is the value the size variable had. -/
def buildRequest (cfg : Config) (context : Context) (outBuf : List Byte) (outBufSize : Word)
    (actualSize : Nat) : Option BuildResult :=
  match requireAcquired (some context) with
  | .ok =>
    match validateRequest cfg context with
    | .ok =>
      let actualSize := getRequiredRequestSize context
      if outBufSize.toNat < actualSize then some ⟨.errTooSmall, context, outBuf, actualSize⟩
      else do
        let headerSize := getRequestHeaderSize context.networkSettings.headerType
        let pduSize := u16 (actualSize - headerSize)
        let (status, context, outBuf, writtenHeaderSize) ←
          buildWireHeader context outBuf 0 outBufSize.toNat pduSize
        if status ≠ .ok then some ⟨status, context, outBuf, actualSize⟩
        else do
          let pduBufferSize := u16 (outBufSize.toNat - writtenHeaderSize)
          let (status, outBuf, writtenPduSize) ←
            buildPduRequest context outBuf writtenHeaderSize pduBufferSize
          if status ≠ .ok then some ⟨status, context, outBuf, actualSize⟩
          else if u16 (writtenHeaderSize + writtenPduSize) ≠ actualSize then
            some ⟨.errInternal, context, outBuf, actualSize⟩
          else some ⟨.ok, context, outBuf, actualSize⟩
    | status => some ⟨status, context, outBuf, actualSize⟩
  | status => some ⟨status, context, outBuf, actualSize⟩

/-- The loop of `fx5_feed_response_bytes`. -/
def feedLoop (data : List Byte) (size k : Nat) (rxBuffer : RingBuf) : Option (Status × RingBuf) :=
  if k < size then do
    let value ← data[k]?
    match ← ringbufPushBack rxBuffer value with
    | (false, rxBuffer) => some (.errTooSmall, rxBuffer)
    | (true, rxBuffer) => feedLoop data size (k + 1) rxBuffer
  else some (.ok, rxBuffer)
termination_by size - k

/-- `fx5_feed_response_bytes`. -/
def feedResponseBytes (cfg : Config) (ctx : Context) (data : Option (List Byte)) (size : Word) :
    Option (Status × Context) :=
  match requireAcquired (some ctx) with
  | .ok =>
    match data with
    | none => some (.errNull, ctx)
    | some data =>
      if ringbufSize ctx.rxCbuffer + size.toNat > FX5_IOBUF_SIZE cfg then some (.errTooSmall, ctx)
      else do
        let (status, rxBuffer) ← feedLoop data size.toNat 0 ctx.rxCbuffer
        some (status, { ctx with rxCbuffer := rxBuffer })
  | status => some (status, ctx)

/-! ## The parse loop -/

/-- The header stage of `fx5_parse_response`: status, packet size and header size by header
type. -/
def parseResponseHeader (cfg : Config) (context : Context) (headerType : HeaderType) :
    Option (Status × Nat × Nat) :=
  if headerType = .h4E then do
    let (status, packetSize) ← parseResponseHeader4E cfg context context.rxCbuffer
    some (status, packetSize, FX5_RESP_TCP_HEADER_SIZE_4E)
  else do
    let (status, packetSize) ← parseResponseHeader3E cfg context.rxCbuffer
    some (status, packetSize, FX5_RESP_TCP_HEADER_SIZE_3E)

theorem tryResync_size_le {rb rb' : RingBuf} {d d' : Nat} {t : HeaderType}
    (h : tryResync rb d = some (t, rb', d')) : rb'.size ≤ rb.size := by
  fun_induction tryResync rb d with
  | case1 rb d hsize ih =>
    simp only [Option.bind_eq_bind, Option.bind_eq_some_iff] at h
    obtain ⟨header, _, hrest⟩ := h
    split at hrest
    · cases hrest
      exact Nat.le_refl _
    · exact Nat.le_trans (ih hrest) (Nat.le_of_lt (ringbufDropFront_size_lt (Nat.lt_of_succ_lt hsize)))
  | case2 rb d hsize hone =>
    simp only [Option.bind_eq_bind, Option.bind_eq_some_iff] at h
    obtain ⟨byte, _, hrest⟩ := h
    have hpos : 0 < rb.size := by
      simp only [ringbufSize] at hone
      omega
    have hdrop := Nat.le_of_lt (ringbufDropFront_size_lt hpos)
    split at hrest
    · cases hrest
      exact Nat.le_refl _
    · split at hrest
      · cases hrest
        exact hdrop
      · cases hrest
        exact Nat.le_refl _
  | case3 rb d hsize hone =>
    cases h
    exact Nat.le_refl _

/-- A header mismatch is found only in a buffer that holds a complete header. -/
theorem parseResponseHeader_mismatch {cfg : Config} {ctx : Context} {t : HeaderType} {p q : Nat}
    (h : parseResponseHeader cfg ctx t = some (.errHeaderMismatch, p, q)) :
    0 < ctx.rxCbuffer.size := by
  refine Nat.pos_of_ne_zero fun h0 => ?_
  have h3 : parseResponseHeader3E cfg ctx.rxCbuffer = some (.errNeedMore, 0) := by
    rw [parseResponseHeader3E, ringbufSize, h0, if_pos (by decide)]
  have h4 : parseResponseHeader4E cfg ctx ctx.rxCbuffer = some (.errNeedMore, 0) := by
    rw [parseResponseHeader4E, ringbufSize, h0, if_pos (by decide)]
  rw [parseResponseHeader, h3, h4] at h
  split at h
  · cases h
  · cases h

/-- How a turn of the loop ends: with `continue`, or with a `return`. -/
inductive Turn where
  | again (context : Context)
  | done (result : Status × Context)

/-- One turn of the loop of `fx5_parse_response`. -/
def parseResponseTurn (cfg : Config) (context : Context) : Option Turn := do
  let (headerType, rxBuffer, discarded) ← tryResync context.rxCbuffer context.resyncCounter
  let context := { context with rxCbuffer := rxBuffer, resyncCounter := discarded }
  if context.resyncCounter > FX5_RESYNC_LIMIT then some (.done (.errResync, context))
  else if headerType = .unknown then some (.done (.errNeedMore, context))
  else do
    let (status, packetSize, headerSize) ← parseResponseHeader cfg context headerType
    if status = .errNeedMore then some (.done (status, context))
    else if status = .errHeaderMismatch then
      let context := { context with
        rxCbuffer := (ringbufDropFront context.rxCbuffer 1).2
        resyncCounter := u16 (context.resyncCounter + 1) }
      if context.resyncCounter > FX5_RESYNC_LIMIT then some (.done (.errResync, context))
      else some (.again context)
    else if status ≠ .ok then some (.done (status, context))
    else
      let totalNeeded := headerSize + packetSize
      if ringbufSize context.rxCbuffer < totalNeeded then some (.done (.errNeedMore, context))
      else do
        let context := { context with
          rxCbuffer := (ringbufDropFront context.rxCbuffer headerSize).2 }
        let result ← parseResponsePdu cfg context packetSize
        some (.done result)

/-- A turn that continues leaves fewer bytes in the buffer. -/
theorem parseResponseTurn_again_size {cfg : Config} {ctx ctx' : Context}
    (h : parseResponseTurn cfg ctx = some (.again ctx')) :
    ctx'.rxCbuffer.size < ctx.rxCbuffer.size := by
  unfold parseResponseTurn at h
  simp only [Option.bind_eq_bind, Option.bind_eq_some_iff] at h
  obtain ⟨⟨t, rb, d⟩, hresync, h⟩ := h
  have hle := tryResync_size_le hresync
  split at h
  · cases h
  split at h
  · cases h
  obtain ⟨⟨status, p, q⟩, hheader, h⟩ := Option.bind_eq_some_iff.mp h
  split at h
  · cases h
  split at h
  · rename_i hmismatch
    simp only at hmismatch
    subst hmismatch
    have hlt := ringbufDropFront_size_lt (parseResponseHeader_mismatch hheader)
    split at h
    · cases h
    · cases h
      exact Nat.lt_of_lt_of_le hlt hle
  split at h
  · cases h
  split at h
  · cases h
  obtain ⟨result, _, h⟩ := Option.bind_eq_some_iff.mp h
  cases h

/-- The loop of `fx5_parse_response`. -/
def parseResponseLoop (cfg : Config) (context : Context) : Option (Status × Context) :=
  match _h : parseResponseTurn cfg context with
  | none => none
  | some (.done result) => some result
  | some (.again context) => parseResponseLoop cfg context
termination_by context.rxCbuffer.size
decreasing_by exact parseResponseTurn_again_size _h

/-- `fx5_parse_response`. -/
def parseResponse (cfg : Config) (context : Context) : Option (Status × Context) :=
  match requireAcquired (some context) with
  | .ok => parseResponseLoop cfg { context with resyncCounter := 0 }
  | status => some (status, context)

/-! ## Response getters -/

/-- What a getter returns when its output pointer is NULL. -/
def requireOut (ctx : Context) : Status :=
  match requireAcquired (some ctx) with
  | .ok => .errNull
  | status => status

/-- `fx5_get_response_code`. -/
def getResponseCode (ctx : Context) : Nat := if !isAcquired (some ctx) then 0 else ctx.responseCode

/-- `fx5_get_response_count`. -/
def getResponseCount (ctx : Context) : Nat := if !isAcquired (some ctx) then 0 else ctx.count

/-- `fx5_get_response_value` with a non-NULL `out_value`. -/
def getResponseValue (cfg : Config) (ctx : Context) (index : Word) :
    Option (Status × Option Word) :=
  match requireAcquired (some ctx) with
  | .ok =>
    if index.toNat ≥ ctx.count then some (.errInvalidIndex, none)
    else if isBitDevice ctx.device then
      let slot := u16 (index.toNat / 16)
      let mask : Word := 1#16 <<< (index.toNat % 16)
      if slot ≥ cfg.FX5_MAX_VALUE_COUNT then some (.errInvalidIndex, none)
      else do
        let v ← ctx.values[slot]?
        some (.ok, some (if v &&& mask ≠ 0 then FX5_BIT_TRUE else FX5_BIT_FALSE))
    else do
      let v ← ctx.values[index.toNat]?
      some (.ok, some v)
  | status => some (status, none)

/-- `fx5_get_last_serial`. -/
def getLastSerial (ctx : Context) : Nat := if !isAcquired (some ctx) then 0 else ctx.serial

end Fx5
