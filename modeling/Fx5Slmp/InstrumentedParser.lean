import Fx5Slmp.Core
import Fx5Slmp.Lib.Instrumented

/-!
# The parser over other basic operations

`fx5_parse_response` and what it calls, once more, with the narrowings to `uint16_t`, the reads and the
drops of bytes as parameters (`Ops`).  Each function repeats that of the model, under its name.

The drop of a byte that belongs to no parsed frame is an operation of its own (`discard`).
-/

set_option autoImplicit false

namespace Fx5

open CheckedMem Instrumented

/-- What the parser does with sizes and with the receive buffer: `(uint16_t)n`, `(uint16_t)(a - b)`,
`fx5_ringbuf_peek` and `fx5_ringbuf_drop_front`. -/
structure Ops (m : Type → Type) where
  narrow : Nat → m Nat
  narrowSub : Nat → Nat → m Nat
  peek : RingBuf → Nat → m (Option Byte)
  drop : RingBuf → Nat → m RingBuf
  discard : RingBuf → m RingBuf

namespace Ops

variable {m : Type → Type} [MayFail m] (ops : Ops m)

/-! ## The receive buffer -/

def pduPeekcU16Le (buffer : RingBuf) (offset : Nat) : m Nat := do
  let i0 ← ops.narrow (offset + 0)
  let b0 ← ops.peek buffer i0
  let i1 ← ops.narrow (offset + 1)
  let b1 ← ops.peek buffer i1
  pure ((b0.getD 0).toNat ||| ((b1.getD 0).toNat <<< 8))

def pduRdcU16Le (buffer : RingBuf) : m (Nat × RingBuf) := do
  let b0 ← ops.peek buffer 0
  let b1 ← ops.peek buffer 1
  let buffer ← ops.drop buffer 2
  pure ((b0.getD 0).toNat ||| ((b1.getD 0).toNat <<< 8), buffer)

/-! ## The header stage -/

def detectResponseHeader (rxBuffer : RingBuf) : m HeaderType :=
  if ringbufSize rxBuffer < 2 then pure .unknown
  else do
    let magic ← ops.pduPeekcU16Le rxBuffer FX5_MAGIC_NUMBER_OFFSET
    if magic = FX5_TCP_RESPONSE_SUBHEADER_4E_BINARY then pure .h4E
    else if magic = FX5_TCP_RESPONSE_SUBHEADER_3E_BINARY then pure .h3E
    else pure .unknown

/-- The scan; a drop leaves fewer bytes in the buffer. -/
def tryResync (rxBuffer : RingBuf) (discardedBytes : Nat) : m (HeaderType × RingBuf × Nat) :=
  if ringbufSize rxBuffer > 1 then do
    let headerType ← ops.detectResponseHeader rxBuffer
    if headerType ≠ .unknown then pure (headerType, rxBuffer, discardedBytes)
    else do
      let dropped ← ops.discard rxBuffer
      let discardedBytes ← ops.narrow (discardedBytes + 1)
      if _h : dropped.size < rxBuffer.size then tryResync dropped discardedBytes
      else MayFail.undefined
  else if ringbufSize rxBuffer = 1 then do
    match ← ops.peek rxBuffer 0 with
    | none => pure (.unknown, rxBuffer, discardedBytes)
    | some byte0 =>
      let low3e : Byte := BitVec.ofNat 8 (FX5_TCP_RESPONSE_SUBHEADER_3E_BINARY &&& 0xFF)
      let low4e : Byte := BitVec.ofNat 8 (FX5_TCP_RESPONSE_SUBHEADER_4E_BINARY &&& 0xFF)
      if byte0 ≠ low3e ∧ byte0 ≠ low4e then do
        let dropped ← ops.discard rxBuffer
        let discardedBytes ← ops.narrow (discardedBytes + 1)
        pure (.unknown, dropped, discardedBytes)
      else pure (.unknown, rxBuffer, discardedBytes)
  else pure (.unknown, rxBuffer, discardedBytes)
termination_by rxBuffer.size

def parseResponseHeader3E (cfg : Config) (rxBuffer : RingBuf) : m (Status × Nat) :=
  if ringbufSize rxBuffer < FX5_RESP_TCP_HEADER_SIZE_3E then pure (.errNeedMore, 0)
  else do
    let packetSize ← ops.pduPeekcU16Le rxBuffer FX5_PACKET_SIZE_OFFSET_3E
    if packetSize < FX5_RESP_PDU_HEADER_SIZE ∨ packetSize > FX5_IOBUF_SIZE cfg then
      pure (.errHeaderMismatch, packetSize)
    else pure (.ok, packetSize)

def parseResponseHeader4E (cfg : Config) (context : Context) (rxBuffer : RingBuf) :
    m (Status × Nat) :=
  if ringbufSize rxBuffer < FX5_RESP_TCP_HEADER_SIZE_4E then pure (.errNeedMore, 0)
  else do
    let serial ← ops.pduPeekcU16Le rxBuffer FX5_SERIAL_OFFSET_4E
    if serial ≠ context.serial then pure (.errHeaderMismatch, 0)
    else do
      let packetSize ← ops.pduPeekcU16Le rxBuffer FX5_PACKET_SIZE_OFFSET_4E
      if packetSize < FX5_RESP_PDU_HEADER_SIZE ∨ packetSize > FX5_IOBUF_SIZE cfg then
        pure (.errHeaderMismatch, packetSize)
      else pure (.ok, packetSize)

def parseResponseHeader (cfg : Config) (context : Context) (headerType : HeaderType) :
    m (Status × Nat × Nat) :=
  if headerType = .h4E then do
    let (status, packetSize) ← ops.parseResponseHeader4E cfg context context.rxCbuffer
    pure (status, packetSize, FX5_RESP_TCP_HEADER_SIZE_4E)
  else do
    let (status, packetSize) ← ops.parseResponseHeader3E cfg context.rxCbuffer
    pure (status, packetSize, FX5_RESP_TCP_HEADER_SIZE_3E)

/-! ## The payload stage -/

/-- The drop of the payload, which the exits of the payload stage share. -/
def dropPayload (context : Context) (payloadSize : Nat) : m Context :=
  if payloadSize > 0 then do
    let rxBuffer ← ops.drop context.rxCbuffer payloadSize
    pure { context with rxCbuffer := rxBuffer }
  else pure context

def readWord (k : Nat) (s : List Word × RingBuf) : m (List Word × RingBuf) := do
  let (v, rxBuffer) ← ops.pduRdcU16Le s.2
  let values ← access (store s.1 k (BitVec.ofNat 16 v))
  pure (values, rxBuffer)

def readWordsLoop (valueCount : Nat) (values : List Word) (rxBuffer : RingBuf) :
    m (List Word × RingBuf) :=
  forRangeM ops.readWord 0 valueCount (values, rxBuffer)

def parseWordResponsePayload (cfg : Config) (context : Context) (payloadSize : Nat) :
    m (Status × Context) :=
  if payloadSize &&& 1 ≠ 0 then pure (.errInvalidCount, context)
  else do
    let valueCount ← ops.narrow (payloadSize / 2)
    let requestedCount := context.count
    let expectedPayloadSize ← ops.narrow (requestedCount * 2)
    if requestedCount = 0 ∨ requestedCount > cfg.FX5_MAX_VALUE_COUNT then do
      let context ← ops.dropPayload context payloadSize
      pure (.errInvalidCount, context)
    else if payloadSize ≠ expectedPayloadSize then do
      let context ← ops.dropPayload context payloadSize
      pure (.errInvalidCount, context)
    else do
      let (values, rxBuffer) ← ops.readWordsLoop valueCount context.values context.rxCbuffer
      pure (.ok, { context with count := valueCount, values := values, rxCbuffer := rxBuffer })

def unpackNibble (bitCount : Nat) (nibble : Byte) (s : List Word × Nat) : m (List Word × Nat) :=
  let (values, bitIndex) := s
  if bitIndex < bitCount then do
    let slot ← ops.narrow (bitIndex / 16)
    let mask : Word := 1#16 <<< (bitIndex % 16)
    let v ← access values[slot]?
    let values ← access (store values slot (if nibble = 0x01#8 then v ||| mask else v &&& ~~~mask))
    let next ← ops.narrow (bitIndex + 1)
    pure (values, next)
  else pure (values, bitIndex)

def unpackByte (bitCount : Nat) (s : (List Word × Nat) × RingBuf) :
    m ((List Word × Nat) × RingBuf) := do
  let b := (← ops.peek s.2 0).getD 0
  let buffer ← ops.drop s.2 1
  let hi : Byte := (b >>> 4) &&& 0x0F#8
  let lo : Byte := b &&& 0x0F#8
  let s₁ ← ops.unpackNibble bitCount hi s.1
  let s₂ ← ops.unpackNibble bitCount lo s₁
  pure (s₂, buffer)

def unpackBitunitBytes (buffer : RingBuf) (payloadSize : Nat) (values : List Word)
    (maxCount : Nat) : m (Nat × List Word × RingBuf × Nat) := do
  let bitCount ← ops.narrow (payloadSize * 2)
  let bitCount := if bitCount > maxCount then maxCount else bitCount
  let bytesNeeded ← ops.narrow ((bitCount + 1) / 2)
  let remainingBytes ← ops.narrowSub payloadSize bytesNeeded
  let ((values, _), buffer) ←
    forRangeM (fun _ s => ops.unpackByte bitCount s) 0 bytesNeeded ((values, 0), buffer)
  pure (bitCount, values, buffer, remainingBytes)

def parseBitResponsePayload (cfg : Config) (context : Context) (payloadSize : Nat) :
    m (Status × Context) := do
  let requestedCount := context.count
  let expectedPayloadSize ← ops.narrow ((requestedCount + 1) / 2)
  if requestedCount = 0 ∨ requestedCount > FX5_MAX_BIT_VALUE_COUNT cfg then do
    let context ← ops.dropPayload context payloadSize
    pure (.errInvalidCount, context)
  else if payloadSize ≠ expectedPayloadSize then do
    let context ← ops.dropPayload context payloadSize
    pure (.errInvalidCount, context)
  else do
    let (count, values, rxBuffer, remainingBytes) ←
      ops.unpackBitunitBytes context.rxCbuffer payloadSize context.values requestedCount
    let rxBuffer ←
      if remainingBytes > 0 then ops.drop rxBuffer remainingBytes else pure rxBuffer
    pure (.ok, { context with count := count, values := values, rxCbuffer := rxBuffer })

def parseResponseBranches (cfg : Config) (context : Context) (payloadSize : Nat) :
    m (Status × Context) :=
  if context.responseCode ≠ FX5_RESPONSE_OK then do
    let context ← ops.dropPayload context payloadSize
    pure (.responseError, { context with count := 0 })
  else if context.command = .batchWrite then
    if payloadSize > 0 then do
      let context ← ops.dropPayload context payloadSize
      pure (.errInvalidCount, context)
    else pure (.ok, { context with count := 0 })
  else if isBitDevice context.device then ops.parseBitResponsePayload cfg context payloadSize
  else ops.parseWordResponsePayload cfg context payloadSize

def parseResponsePdu (cfg : Config) (context : Context) (packetSize : Nat) :
    m (Status × Context) :=
  if packetSize < FX5_RESP_PDU_HEADER_SIZE then pure (.errInvalidCount, context)
  else do
    let (responseCode, rxBuffer) ← ops.pduRdcU16Le context.rxCbuffer
    let payloadSize ← ops.narrowSub packetSize FX5_RESP_PDU_HEADER_SIZE
    ops.parseResponseBranches cfg
      { context with responseCode := responseCode, rxCbuffer := rxBuffer } payloadSize

/-! ## The parse loop -/

def parseResponseTurn (cfg : Config) (context : Context) : m Turn := do
  let (headerType, rxBuffer, discarded) ← ops.tryResync context.rxCbuffer context.resyncCounter
  let context := { context with rxCbuffer := rxBuffer, resyncCounter := discarded }
  if context.resyncCounter > FX5_RESYNC_LIMIT then pure (.done (.errResync, context))
  else if headerType = .unknown then pure (.done (.errNeedMore, context))
  else do
    let (status, packetSize, headerSize) ← ops.parseResponseHeader cfg context headerType
    if status = .errNeedMore then pure (.done (status, context))
    else if status = .errHeaderMismatch then do
      let rxBuffer ← ops.discard context.rxCbuffer
      let counter ← ops.narrow (context.resyncCounter + 1)
      let context := { context with rxCbuffer := rxBuffer, resyncCounter := counter }
      if context.resyncCounter > FX5_RESYNC_LIMIT then pure (.done (.errResync, context))
      else pure (.again context)
    else if status ≠ .ok then pure (.done (status, context))
    else
      let totalNeeded := headerSize + packetSize
      if ringbufSize context.rxCbuffer < totalNeeded then pure (.done (.errNeedMore, context))
      else do
        let rxBuffer ← ops.drop context.rxCbuffer headerSize
        let context := { context with rxCbuffer := rxBuffer }
        let result ← ops.parseResponsePdu cfg context packetSize
        pure (.done result)

/-- The loop; a turn that continues leaves fewer bytes in the buffer. -/
def parseResponseLoop (cfg : Config) (context : Context) : m (Status × Context) := do
  match ← ops.parseResponseTurn cfg context with
  | .done result => pure result
  | .again next =>
    if _h : next.rxCbuffer.size < context.rxCbuffer.size then parseResponseLoop cfg next
    else MayFail.undefined
termination_by context.rxCbuffer.size

def parseResponse (cfg : Config) (context : Context) : m (Status × Context) :=
  match requireAcquired (some context) with
  | .ok => ops.parseResponseLoop cfg { context with resyncCounter := 0 }
  | status => pure (status, context)

end Ops

end Fx5
