import Fx5Slmp.Context

/-!
# Response parsing

Model of `fx5_response.c`.  The header stage only reads the receive buffer; the payload stage
consumes it.  In the source the payload stage gets the buffer as a second pointer, which at
its only call is `&context->rx_cbuffer`, so it is a field of the context here.
-/

set_option autoImplicit false

namespace Fx5

open CheckedMem

def FX5_TCP_RESPONSE_SUBHEADER_4E_BINARY : Nat := 0x00D4
def FX5_TCP_RESPONSE_SUBHEADER_3E_BINARY : Nat := 0x00D0

def FX5_MAGIC_NUMBER_OFFSET : Nat := 0
def FX5_SERIAL_OFFSET_4E : Nat := 2
def FX5_PACKET_SIZE_OFFSET_4E : Nat := 11
def FX5_PACKET_SIZE_OFFSET_3E : Nat := 7

/-- `fx5_get_response_header_size`. -/
def getResponseHeaderSize (headerType : HeaderType) : Nat :=
  if headerType = .h4E then FX5_RESP_TCP_HEADER_SIZE_4E else FX5_RESP_TCP_HEADER_SIZE_3E

/-! ## Header stage -/

/-- `fx5_detect_response_header`. -/
def detectResponseHeader (rxBuffer : RingBuf) : Option HeaderType :=
  if ringbufSize rxBuffer < 2 then some .unknown
  else do
    let magic ← pduPeekcU16Le rxBuffer FX5_MAGIC_NUMBER_OFFSET
    if magic = FX5_TCP_RESPONSE_SUBHEADER_4E_BINARY then some .h4E
    else if magic = FX5_TCP_RESPONSE_SUBHEADER_3E_BINARY then some .h3E
    else some .unknown

theorem ringbufDropFrontLoop_size_le (count dropped : Nat) (rb : RingBuf) :
    (ringbufDropFrontLoop count dropped rb).2.size ≤ rb.size := by
  fun_induction ringbufDropFrontLoop count dropped rb with
  | case1 dropped rb hturn ih => exact Nat.le_trans ih (Nat.sub_le _ _)
  | case2 dropped rb hend => exact Nat.le_refl _

/-- Dropping from a non-empty buffer makes it smaller: the measure of both parse loops. -/
theorem ringbufDropFront_size_lt {rb : RingBuf} (h : 0 < rb.size) :
    (ringbufDropFront rb 1).2.size < rb.size := by
  rw [ringbufDropFront, ringbufDropFrontLoop, if_pos ⟨Nat.one_pos, h⟩]
  have := ringbufDropFrontLoop_size_le 1 (u16 (0 + 1))
    { rb with tail := ringbufAdvanceIndex rb.tail rb.capacity, size := rb.size - 1 }
  simp only at this
  omega

/-- `fx5_try_resync`: detected header type, buffer and number of discarded bytes. -/
def tryResync (rxBuffer : RingBuf) (discardedBytes : Nat) : Option (HeaderType × RingBuf × Nat) :=
  if _h : ringbufSize rxBuffer > 1 then do
    let headerType ← detectResponseHeader rxBuffer
    if headerType ≠ .unknown then some (headerType, rxBuffer, discardedBytes)
    else tryResync (ringbufDropFront rxBuffer 1).2 (u16 (discardedBytes + 1))
  else if ringbufSize rxBuffer = 1 then do
    match ← ringbufPeek rxBuffer 0 with
    | none => some (.unknown, rxBuffer, discardedBytes)
    | some byte0 =>
      let low3e : Byte := BitVec.ofNat 8 (FX5_TCP_RESPONSE_SUBHEADER_3E_BINARY &&& 0xFF)
      let low4e : Byte := BitVec.ofNat 8 (FX5_TCP_RESPONSE_SUBHEADER_4E_BINARY &&& 0xFF)
      if byte0 ≠ low3e ∧ byte0 ≠ low4e then
        some (.unknown, (ringbufDropFront rxBuffer 1).2, u16 (discardedBytes + 1))
      else some (.unknown, rxBuffer, discardedBytes)
  else some (.unknown, rxBuffer, discardedBytes)
termination_by rxBuffer.size
decreasing_by exact ringbufDropFront_size_lt (Nat.lt_of_succ_lt _h)

/-- `fx5_parse_response_header_3e`: status and packet size. -/
def parseResponseHeader3E (cfg : Config) (rxBuffer : RingBuf) : Option (Status × Nat) :=
  if ringbufSize rxBuffer < FX5_RESP_TCP_HEADER_SIZE_3E then some (.errNeedMore, 0)
  else do
    let packetSize ← pduPeekcU16Le rxBuffer FX5_PACKET_SIZE_OFFSET_3E
    if packetSize < FX5_RESP_PDU_HEADER_SIZE ∨ packetSize > FX5_IOBUF_SIZE cfg then
      some (.errHeaderMismatch, packetSize)
    else some (.ok, packetSize)

/-- `fx5_parse_response_header_4e`. -/
def parseResponseHeader4E (cfg : Config) (context : Context) (rxBuffer : RingBuf) :
    Option (Status × Nat) :=
  if ringbufSize rxBuffer < FX5_RESP_TCP_HEADER_SIZE_4E then some (.errNeedMore, 0)
  else do
    let serial ← pduPeekcU16Le rxBuffer FX5_SERIAL_OFFSET_4E
    if serial ≠ context.serial then some (.errHeaderMismatch, 0)
    else do
      let packetSize ← pduPeekcU16Le rxBuffer FX5_PACKET_SIZE_OFFSET_4E
      if packetSize < FX5_RESP_PDU_HEADER_SIZE ∨ packetSize > FX5_IOBUF_SIZE cfg then
        some (.errHeaderMismatch, packetSize)
      else some (.ok, packetSize)

/-! ## Payload stage -/

/-- The loop body of `fx5_parse_word_response_payload`; the state is the values and the
buffer. -/
def readWord (k : Nat) (s : List Word × RingBuf) : Option (List Word × RingBuf) := do
  let (v, rxBuffer) ← pduRdcU16Le s.2
  let values ← store s.1 k (BitVec.ofNat 16 v)
  some (values, rxBuffer)

/-- The read loop of `fx5_parse_word_response_payload`. -/
def readWordsLoop (valueCount : Nat) (values : List Word) (rxBuffer : RingBuf) :
    Option (List Word × RingBuf) :=
  forRange readWord 0 valueCount (values, rxBuffer)

/-- `fx5_parse_word_response_payload`. -/
def parseWordResponsePayload (cfg : Config) (context : Context) (payloadSize : Nat) :
    Option (Status × Context) :=
  if payloadSize &&& 1 ≠ 0 then some (.errInvalidCount, context)
  else
    let valueCount := u16 (payloadSize / 2)
    let requestedCount := context.count
    let expectedPayloadSize := u16 (requestedCount * 2)
    let dropPayload : Context :=
      if payloadSize > 0 then
        { context with rxCbuffer := (ringbufDropFront context.rxCbuffer payloadSize).2 }
      else context
    if requestedCount = 0 ∨ requestedCount > cfg.FX5_MAX_VALUE_COUNT then
      some (.errInvalidCount, dropPayload)
    else if payloadSize ≠ expectedPayloadSize then
      some (.errInvalidCount, dropPayload)
    else do
      let (values, rxBuffer) ← readWordsLoop valueCount context.values context.rxCbuffer
      some (.ok, { context with count := valueCount, values := values, rxCbuffer := rxBuffer })

/-- One of the two conditional stores in the loop body of `fx5_unpack_bitunit_bytes`. -/
def unpackNibble (bitCount : Nat) (nibble : Byte) (s : List Word × Nat) :
    Option (List Word × Nat) :=
  let (values, bitIndex) := s
  if bitIndex < bitCount then do
    let slot := u16 (bitIndex / 16)
    let mask : Word := 1#16 <<< (bitIndex % 16)
    let v ← values[slot]?
    let values ← store values slot (if nibble = 0x01#8 then v ||| mask else v &&& ~~~mask)
    some (values, u16 (bitIndex + 1))
  else some (values, bitIndex)

/-- The loop body of `fx5_unpack_bitunit_bytes`; the state is the values, the bit index and
the buffer. -/
def unpackByte (bitCount : Nat) (s : (List Word × Nat) × RingBuf) :
    Option ((List Word × Nat) × RingBuf) := do
  let b := (← ringbufPeek s.2 0).getD 0
  let buffer := (ringbufDropFront s.2 1).2
  let hi : Byte := (b >>> 4) &&& 0x0F#8
  let lo : Byte := b &&& 0x0F#8
  let s₁ ← unpackNibble bitCount hi s.1
  let s₂ ← unpackNibble bitCount lo s₁
  some (s₂, buffer)

/-- `fx5_unpack_bitunit_bytes`: bit count, values, buffer and remaining bytes. -/
def unpackBitunitBytes (buffer : RingBuf) (payloadSize : Nat) (values : List Word)
    (maxCount : Nat) : Option (Nat × List Word × RingBuf × Nat) := do
  let bitCount := u16 (payloadSize * 2)
  let bitCount := if bitCount > maxCount then maxCount else bitCount
  let bytesNeeded := u16 ((bitCount + 1) / 2)
  let remainingBytes := u16 (payloadSize - bytesNeeded)
  let ((values, _), buffer) ←
    forRange (fun _ s => unpackByte bitCount s) 0 bytesNeeded ((values, 0), buffer)
  some (bitCount, values, buffer, remainingBytes)

/-- `fx5_parse_bit_response_payload`. -/
def parseBitResponsePayload (cfg : Config) (context : Context) (payloadSize : Nat) :
    Option (Status × Context) :=
  let requestedCount := context.count
  let expectedPayloadSize := u16 ((requestedCount + 1) / 2)
  let dropPayload : Context :=
    if payloadSize > 0 then
      { context with rxCbuffer := (ringbufDropFront context.rxCbuffer payloadSize).2 }
    else context
  if requestedCount = 0 ∨ requestedCount > FX5_MAX_BIT_VALUE_COUNT cfg then
    some (.errInvalidCount, dropPayload)
  else if payloadSize ≠ expectedPayloadSize then
    some (.errInvalidCount, dropPayload)
  else do
    let (count, values, rxBuffer, remainingBytes) ←
      unpackBitunitBytes context.rxCbuffer payloadSize context.values requestedCount
    let rxBuffer :=
      if remainingBytes > 0 then (ringbufDropFront rxBuffer remainingBytes).2 else rxBuffer
    some (.ok, { context with count := count, values := values, rxCbuffer := rxBuffer })

/-- The branches of `fx5_parse_response_pdu` behind the end code. -/
def parseResponseBranches (cfg : Config) (context : Context) (payloadSize : Nat) :
    Option (Status × Context) :=
  let dropPayload : Context :=
    if payloadSize > 0 then
      { context with rxCbuffer := (ringbufDropFront context.rxCbuffer payloadSize).2 }
    else context
  if context.responseCode ≠ FX5_RESPONSE_OK then
    some (.responseError, { dropPayload with count := 0 })
  else if context.command = .batchWrite then
    if payloadSize > 0 then some (.errInvalidCount, dropPayload)
    else some (.ok, { context with count := 0 })
  else if isBitDevice context.device then parseBitResponsePayload cfg context payloadSize
  else parseWordResponsePayload cfg context payloadSize

/-- `fx5_parse_response_pdu`. -/
def parseResponsePdu (cfg : Config) (context : Context) (packetSize : Nat) :
    Option (Status × Context) :=
  if packetSize < FX5_RESP_PDU_HEADER_SIZE then some (.errInvalidCount, context)
  else do
    let (responseCode, rxBuffer) ← pduRdcU16Le context.rxCbuffer
    parseResponseBranches cfg { context with responseCode := responseCode, rxCbuffer := rxBuffer }
      (u16 (packetSize - FX5_RESP_PDU_HEADER_SIZE))

end Fx5
