import Fx5Slmp.Context

/-!
# Request validation and request building

Model of `fx5_request.c`.  A builder receives the output buffer as the list of its bytes and
the offset its pointer has in it; the bytes it stores are stored with `storeMany`, in the
order of the source.

The two payload loops read `values` and are modelled by the bytes they store; the array and
the output buffer do not overlap.
-/

set_option autoImplicit false

namespace Fx5

open CheckedMem

def FX5_TCP_REQUEST_SUBHEADER_4E_BINARY : Nat := 0x0054
def FX5_TCP_REQUEST_SUBHEADER_3E_BINARY : Nat := 0x0050

def PDU_SUB_WORD_UNIT : Nat := 0x0000
def PDU_SUB_BIT_UNIT : Nat := 0x0001

/-! ## Validation and sizing -/

/-- `fx5_get_packed_bit_value`. -/
def getPackedBitValue (values : List Word) (index : Nat) : Option Bool := do
  let slot := u16 (index / 16)
  let mask : Word := 1#16 <<< (index % 16)
  let v ← values[slot]?
  some (decide (v &&& mask ≠ 0))

/-- `fx5_get_request_header_size`. -/
def getRequestHeaderSize (headerType : HeaderType) : Nat :=
  if headerType = .h4E then FX5_REQ_TCP_HEADER_SIZE_4E else FX5_REQ_TCP_HEADER_SIZE_3E

/-- `fx5_get_write_payload_size`. -/
def getWritePayloadSize (device : Device) (count : Nat) : Nat :=
  if isBitDevice device then u16 ((count + 1) / 2) else u16 (count * 2)

/-- `fx5_get_required_request_size`. -/
def getRequiredRequestSize (context : Context) : Nat :=
  let size := u16 (0 + getRequestHeaderSize context.networkSettings.headerType)
  let size := u16 (size + FX5_REQ_PDU_HEADER_SIZE)
  if context.command = .batchWrite then
    u16 (size + getWritePayloadSize context.device context.count)
  else size

/-- `fx5_validate_request`. -/
def validateRequest (cfg : Config) (context : Context) : Status :=
  if context.count = 0 then .errInvalidCount
  else if context.address > FX5_MAX_ADDRESS then .errInvalidAddress
  else if !isSupportedCommand context.command then .errUnsupported
  else if !isSupportedDevice context.device then .errUnsupported
  else if context.count > getMaxValueCount cfg context.device then .errInvalidCount
  else if context.command = .batchWrite ∧ !deviceAllowsWrite context.device then .errUnsupported
  else if context.networkSettings.headerType ≠ .h3E ∧ context.networkSettings.headerType ≠ .h4E then
    .errUnsupported
  else .ok

/-! ## Wire headers -/

/-- `fx5_build_wire_header_3e`: status, context, output buffer and number of bytes written. -/
def buildWireHeader3E (context : Context) (out : List Byte) (base bufferSize payloadSize : Nat) :
    Option (Status × Context × List Byte × Nat) :=
  if bufferSize < FX5_REQ_TCP_HEADER_SIZE_3E then some (.errTooSmall, context, out, 0)
  else do
    let settings := context.networkSettings
    let bytes :=
      pduWrU16Le FX5_TCP_REQUEST_SUBHEADER_3E_BINARY ++
      [settings.networkNo, settings.pcNo] ++
      pduWrU16Le settings.moduleIoNo.toNat ++
      [settings.moduleStationNo] ++
      pduWrU16Le (u16 (payloadSize + 2)) ++
      pduWrU16Le settings.monitoringTimer.toNat
    let out ← storeMany out base bytes
    some (.ok, { context with serial := 0 }, out, u16 bytes.length)

/-- `fx5_build_wire_header_4e`. -/
def buildWireHeader4E (context : Context) (out : List Byte) (base bufferSize payloadSize : Nat) :
    Option (Status × Context × List Byte × Nat) :=
  if bufferSize < FX5_REQ_TCP_HEADER_SIZE_4E then some (.errTooSmall, context, out, 0)
  else do
    let settings := context.networkSettings
    let serial := context.nextSerial
    let bytes :=
      pduWrU16Le FX5_TCP_REQUEST_SUBHEADER_4E_BINARY ++
      pduWrU16Le serial ++
      pduWrU16Le 0 ++
      [settings.networkNo, settings.pcNo] ++
      pduWrU16Le settings.moduleIoNo.toNat ++
      [settings.moduleStationNo] ++
      pduWrU16Le (u16 (payloadSize + 2)) ++
      pduWrU16Le settings.monitoringTimer.toNat
    let out ← storeMany out base bytes
    some (.ok, { context with serial := serial, nextSerial := u16 (context.nextSerial + 1) }, out,
      u16 bytes.length)

/-! ## PDUs -/

/-- `fx5_build_pdu_access_prefix`. -/
def buildPduAccessPrefix (context : Context) (subCommand : Nat) (out : List Byte)
    (base bufferSize : Nat) : Option (Status × List Byte × Nat) :=
  if bufferSize < FX5_REQ_PDU_HEADER_SIZE then some (.errTooSmall, out, 0)
  else do
    let bytes :=
      pduWrU16Le (u16 context.command.code) ++
      pduWrU16Le subCommand ++
      pduWrU24Le context.address ++
      [BitVec.ofNat 8 context.device.code] ++
      pduWrU16Le context.count
    let out ← storeMany out base bytes
    some (.ok, out, u16 bytes.length)

/-- The subcommand that both PDU builders select by device class. -/
def subCommandOf (device : Device) : Nat :=
  if isBitDevice device then PDU_SUB_BIT_UNIT else PDU_SUB_WORD_UNIT

/-- `fx5_build_pdu_read_request`. -/
def buildPduReadRequest (context : Context) (out : List Byte) (base bufferSize : Nat) :
    Option (Status × List Byte × Nat) :=
  buildPduAccessPrefix context (subCommandOf context.device) out base bufferSize

/-- The loop of `fx5_pack_bits_to_nibbles`: the bytes it stores from index `k` on.  The index
stays at or below `count`, so it does not wrap. -/
def packBitsLoop (values : List Word) (count k : Nat) : Option (List Byte) :=
  if k < count then do
    let hi : Byte := if ← getPackedBitValue values k then 0x10#8 else 0x00#8
    if k + 1 < count then do
      let lo : Byte := if ← getPackedBitValue values (k + 1) then 0x01#8 else 0x00#8
      let rest ← packBitsLoop values count (k + 2)
      some ((hi ||| lo) :: rest)
    else do
      let lo : Byte := 0x00#8
      let rest ← packBitsLoop values count (k + 1)
      some ((hi ||| lo) :: rest)
  else some []
termination_by count - k

/-- `fx5_pack_bits_to_nibbles`; the inner `none` is the return value -1. -/
def packBitsToNibbles (values : List Word) (count : Nat) (out : List Byte) (base bufferSize : Nat) :
    Option (Option Nat × List Byte) :=
  let expectedSize := u16 ((count + 1) / 2)
  if bufferSize < expectedSize then some (none, out)
  else do
    let bytes ← packBitsLoop values count 0
    let out ← storeMany out base bytes
    some (some (u16 bytes.length), out)

/-- The body of the word loop of `fx5_build_pdu_write_request`. -/
def wordAppend (values : List Word) (k : Nat) (bytes : List Byte) : Option (List Byte) := do
  let v ← values[k]?
  some (bytes ++ pduWrU16Le v.toNat)

/-- The word loop of `fx5_build_pdu_write_request`: the bytes it stores. -/
def wordsLoop (values : List Word) (count : Nat) : Option (List Byte) :=
  forRange (wordAppend values) 0 count []

/-- `fx5_build_pdu_write_request`. -/
def buildPduWriteRequest (context : Context) (out : List Byte) (base bufferSize : Nat) :
    Option (Status × List Byte × Nat) :=
  let bitDevice := isBitDevice context.device
  let payloadSize := getWritePayloadSize context.device context.count
  let requiredSize := u16 (FX5_REQ_PDU_HEADER_SIZE + payloadSize)
  if bufferSize < requiredSize then some (.errTooSmall, out, 0)
  else do
    let (status, out, index) ←
      buildPduAccessPrefix context (subCommandOf context.device) out base bufferSize
    if status ≠ .ok then some (status, out, 0)
    else if bitDevice then do
      match ← packBitsToNibbles context.values context.count out (base + index)
          (u16 (bufferSize - index)) with
      | (none, out) => some (.errInternal, out, 0)
      | (some written, out) => some (.ok, out, u16 (index + written))
    else do
      let bytes ← wordsLoop context.values context.count
      let out ← storeMany out (base + index) bytes
      some (.ok, out, u16 (index + bytes.length))

end Fx5
