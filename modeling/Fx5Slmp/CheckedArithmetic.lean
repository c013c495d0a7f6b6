import Fx5Slmp.InstrumentedParser

/-!
# The library with checked narrowings

Where the C code converts a size, a count or an index to `uint16_t`, the functions of the
namespace `Checked` go on with the exact value, and are undefined if it does not fit or a
difference is negative.  The functions that build a request otherwise repeat those of the model, each
under its name; the parser is that of `Ops`, over checked operations.

The serial number is counted modulo 65536 on purpose and is not checked.

* `fit_bind`, `fitSub_bind` — a check that succeeds is the narrowing of the model.
-/

set_option autoImplicit false

namespace Fx5

open CheckedMem

/-- The conversion `(uint16_t)x` of a value that must not wrap. -/
def fit (n : Nat) : Option Nat := if n < 65536 then some n else none

/-- The conversion `(uint16_t)(m - n)` of a difference that must not be negative. -/
def fitSub (m n : Nat) : Option Nat := if n ≤ m then fit (m - n) else none

theorem fit_of_lt {n : Nat} (h : n < 65536) : fit n = some n := if_pos h

/-- A checked narrowing that does not fail is the narrowing. -/
theorem fit_bind {α : Type} {n : Nat} (h : n < 65536) (f : Nat → Option α) :
    (fit n).bind f = f (u16 n) := by
  rw [fit_of_lt h, Option.bind_some, u16_of_lt h]

theorem fitSub_bind {α : Type} {m n : Nat} (hle : n ≤ m) (h : m < 65536) (f : Nat → Option α) :
    (fitSub m n).bind f = f (u16 (m - n)) := by
  rw [fitSub, if_pos hle, fit_bind (by omega)]

namespace Checked

/-! ## The limits -/

section Limits

variable (cfg : Config)

def maxBitValueCount : Option Nat := fit (cfg.FX5_MAX_VALUE_COUNT * 16)

def maxBitPayloadBytes : Option Nat := do
  let count ← maxBitValueCount cfg
  fit ((count + 1) / 2)

def iobufSize : Option Nat := do
  let payload ← maxBitPayloadBytes cfg
  fit (FX5_REQ_TCP_HEADER_SIZE_4E + FX5_REQ_PDU_HEADER_SIZE + payload + FX5_IOBUF_GUARD_BYTES)

def maxRequestSize : Option Nat := do
  let payload ← maxBitPayloadBytes cfg
  fit (FX5_REQ_TCP_HEADER_SIZE_4E + FX5_REQ_PDU_HEADER_SIZE + payload + FX5_IOBUF_GUARD_BYTES)

end Limits

/-! ## Requests -/

def getPackedBitValue (values : List Word) (index : Nat) : Option Bool := do
  let slot ← fit (index / 16)
  let mask : Word := 1#16 <<< (index % 16)
  let v ← values[slot]?
  some (decide (v &&& mask ≠ 0))

def getWritePayloadSize (device : Device) (count : Nat) : Option Nat :=
  if isBitDevice device then fit ((count + 1) / 2) else fit (count * 2)

def getRequiredRequestSize (context : Context) : Option Nat := do
  let size ← fit (0 + getRequestHeaderSize context.networkSettings.headerType)
  let size ← fit (size + FX5_REQ_PDU_HEADER_SIZE)
  if context.command = .batchWrite then do
    let payload ← getWritePayloadSize context.device context.count
    fit (size + payload)
  else some size

def buildWireHeader3E (context : Context) (out : List Byte) (base bufferSize payloadSize : Nat) :
    Option (Status × Context × List Byte × Nat) :=
  if bufferSize < FX5_REQ_TCP_HEADER_SIZE_3E then some (.errTooSmall, context, out, 0)
  else do
    let settings := context.networkSettings
    let packetSize ← fit (payloadSize + 2)
    let bytes :=
      pduWrU16Le FX5_TCP_REQUEST_SUBHEADER_3E_BINARY ++
      [settings.networkNo, settings.pcNo] ++
      pduWrU16Le settings.moduleIoNo.toNat ++
      [settings.moduleStationNo] ++
      pduWrU16Le packetSize ++
      pduWrU16Le settings.monitoringTimer.toNat
    let out ← storeMany out base bytes
    let written ← fit bytes.length
    some (.ok, { context with serial := 0 }, out, written)

def buildWireHeader4E (context : Context) (out : List Byte) (base bufferSize payloadSize : Nat) :
    Option (Status × Context × List Byte × Nat) :=
  if bufferSize < FX5_REQ_TCP_HEADER_SIZE_4E then some (.errTooSmall, context, out, 0)
  else do
    let settings := context.networkSettings
    let serial := context.nextSerial
    let packetSize ← fit (payloadSize + 2)
    let bytes :=
      pduWrU16Le FX5_TCP_REQUEST_SUBHEADER_4E_BINARY ++
      pduWrU16Le serial ++
      pduWrU16Le 0 ++
      [settings.networkNo, settings.pcNo] ++
      pduWrU16Le settings.moduleIoNo.toNat ++
      [settings.moduleStationNo] ++
      pduWrU16Le packetSize ++
      pduWrU16Le settings.monitoringTimer.toNat
    let out ← storeMany out base bytes
    let written ← fit bytes.length
    some (.ok, { context with serial := serial, nextSerial := u16 (context.nextSerial + 1) }, out,
      written)

def buildWireHeader (context : Context) (out : List Byte) (base bufferSize payloadSize : Nat) :
    Option (Status × Context × List Byte × Nat) :=
  if context.networkSettings.headerType = .h4E then
    buildWireHeader4E context out base bufferSize payloadSize
  else buildWireHeader3E context out base bufferSize payloadSize

def buildPduAccessPrefix (context : Context) (subCommand : Nat) (out : List Byte)
    (base bufferSize : Nat) : Option (Status × List Byte × Nat) :=
  if bufferSize < FX5_REQ_PDU_HEADER_SIZE then some (.errTooSmall, out, 0)
  else do
    let command ← fit context.command.code
    let bytes :=
      pduWrU16Le command ++
      pduWrU16Le subCommand ++
      pduWrU24Le context.address ++
      [BitVec.ofNat 8 context.device.code] ++
      pduWrU16Le context.count
    let out ← storeMany out base bytes
    let written ← fit bytes.length
    some (.ok, out, written)

def buildPduReadRequest (context : Context) (out : List Byte) (base bufferSize : Nat) :
    Option (Status × List Byte × Nat) :=
  buildPduAccessPrefix context (subCommandOf context.device) out base bufferSize

def packBitsLoop (values : List Word) (count k : Nat) : Option (List Byte) :=
  if k < count then do
    let hi : Byte := if ← getPackedBitValue values k then 0x10#8 else 0x00#8
    if k + 1 < count then do
      let lo : Byte := if ← getPackedBitValue values (k + 1) then 0x01#8 else 0x00#8
      let rest ← packBitsLoop values count (k + 2)
      some ((hi ||| lo) :: rest)
    else do
      let lo : Byte := 0x00#8
      let rest ← packBitsLoop values count (k + 1)
      some ((hi ||| lo) :: rest)
  else some []
termination_by count - k

def packBitsToNibbles (values : List Word) (count : Nat) (out : List Byte) (base bufferSize : Nat) :
    Option (Option Nat × List Byte) := do
  let expectedSize ← fit ((count + 1) / 2)
  if bufferSize < expectedSize then some (none, out)
  else do
    let bytes ← packBitsLoop values count 0
    let out ← storeMany out base bytes
    let written ← fit bytes.length
    some (some written, out)

def buildPduWriteRequest (context : Context) (out : List Byte) (base bufferSize : Nat) :
    Option (Status × List Byte × Nat) := do
  let bitDevice := isBitDevice context.device
  let payloadSize ← getWritePayloadSize context.device context.count
  let requiredSize ← fit (FX5_REQ_PDU_HEADER_SIZE + payloadSize)
  if bufferSize < requiredSize then some (.errTooSmall, out, 0)
  else do
    let (status, out, index) ←
      buildPduAccessPrefix context (subCommandOf context.device) out base bufferSize
    if status ≠ .ok then some (status, out, 0)
    else if bitDevice then do
      let room ← fitSub bufferSize index
      match ← packBitsToNibbles context.values context.count out (base + index) room with
      | (none, out) => some (.errInternal, out, 0)
      | (some written, out) => do
        let size ← fit (index + written)
        some (.ok, out, size)
    else do
      let bytes ← wordsLoop context.values context.count
      let out ← storeMany out (base + index) bytes
      let size ← fit (index + bytes.length)
      some (.ok, out, size)

def buildPduRequest (context : Context) (out : List Byte) (base bufferSize : Nat) :
    Option (Status × List Byte × Nat) :=
  if context.command = .batchRead then buildPduReadRequest context out base bufferSize
  else buildPduWriteRequest context out base bufferSize

def buildRequest (cfg : Config) (context : Context) (outBuf : List Byte) (outBufSize : Word)
    (actualSize : Nat) : Option BuildResult :=
  match requireAcquired (some context) with
  | .ok =>
    match validateRequest cfg context with
    | .ok => do
      let actualSize ← getRequiredRequestSize context
      if outBufSize.toNat < actualSize then some ⟨.errTooSmall, context, outBuf, actualSize⟩
      else do
        let headerSize := getRequestHeaderSize context.networkSettings.headerType
        let pduSize ← fitSub actualSize headerSize
        let (status, context, outBuf, writtenHeaderSize) ←
          buildWireHeader context outBuf 0 outBufSize.toNat pduSize
        if status ≠ .ok then some ⟨status, context, outBuf, actualSize⟩
        else do
          let pduBufferSize ← fitSub outBufSize.toNat writtenHeaderSize
          let (status, outBuf, writtenPduSize) ←
            buildPduRequest context outBuf writtenHeaderSize pduBufferSize
          if status ≠ .ok then some ⟨status, context, outBuf, actualSize⟩
          else do
            let written ← fit (writtenHeaderSize + writtenPduSize)
            if written ≠ actualSize then some ⟨.errInternal, context, outBuf, actualSize⟩
            else some ⟨.ok, context, outBuf, actualSize⟩
    | status => some ⟨status, context, outBuf, actualSize⟩
  | status => some ⟨status, context, outBuf, actualSize⟩

/-! ## The receive buffer -/

def ringbufOffsetIndex (base offset capacity : Nat) : Option Nat := do
  let pos ← fit (base + offset)
  if pos ≥ capacity then fitSub pos capacity else some pos

def ringbufPeek (rb : RingBuf) (index : Nat) : Option (Option Byte) :=
  if index ≥ rb.size then some none
  else do
    let pos ← ringbufOffsetIndex rb.tail index rb.capacity
    let value ← rb.data[pos]?
    some (some value)

/-- Every narrowing is checked, those of a peek too. -/
def ops : Ops Option where
  narrow := fit
  narrowSub := fitSub
  peek := ringbufPeek
  drop rb count := some (ringbufDropFront rb count).2
  discard rb := some (ringbufDropFront rb 1).2

/-- `fx5_parse_response`. -/
def parseResponse (cfg : Config) (context : Context) : Option (Status × Context) :=
  ops.parseResponse cfg context

end Checked

end Fx5
