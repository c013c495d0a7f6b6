import Fx5Slmp.Lib.RangeStore
import Fx5Slmp.RequestDecoding
import Fx5Slmp.Script
import Mathlib.Logic.Function.Basic

/-!
# The memory of a PLC

What a batch request is for: a PLC has a value at every point of every device, a batch read asks
for a range of them and a batch write replaces a range.  A PLC may also refuse a request with an
end code of its own.

`Plc.Behind` is the assumption on a transport that a PLC is at its other end: it takes every
request that the reference decoder reads, in order, and its answer arrives in pieces of any size.

* `DeviceMemory.read_matches` — a range has as many values as it has points;
* `DeviceMemory.read_write` — a range that was written is read back;
* `Plc.behind_transport` — a PLC behind the transport that delivers single bytes.
-/

set_option autoImplicit false

namespace Fx5

/-! ## Points -/

/-- A bit or a word at every point of every device. -/
structure DeviceMemory where
  bits : Device → Nat → Bool
  words : Device → Nat → Word

/-- The value of one point, as a getter of the library returns it. -/
def DeviceMemory.point (m : DeviceMemory) (device : Device) (address : Nat) : Word :=
  if isBitDevice device then if m.bits device address then FX5_BIT_TRUE else FX5_BIT_FALSE
  else m.words device address

/-- The values of a range. -/
def DeviceMemory.read (m : DeviceMemory) (device : Device) (address count : Nat) : Payload :=
  if isBitDevice device then .bits (RangeStore.read (m.bits device) address count)
  else .words (RangeStore.read (m.words device) address count)

/-- A range is replaced. -/
def DeviceMemory.write (m : DeviceMemory) (device : Device) (address : Nat) :
    Payload → DeviceMemory
  | .bits bs =>
    { m with bits := Function.update m.bits device (RangeStore.write (m.bits device) address bs) }
  | .words vs =>
    { m with
      words := Function.update m.words device (RangeStore.write (m.words device) address vs) }

section Points

variable (m : DeviceMemory) (device : Device) (address count : Nat)

theorem DeviceMemory.read_matches : (m.read device address count).Matches device count := by
  unfold DeviceMemory.read
  cases hdevice : isBitDevice device with
  | true => exact ⟨hdevice, RangeStore.read_length _ _ _⟩
  | false => exact ⟨hdevice, RangeStore.read_length _ _ _⟩

/-- The values of a range are those of its points. -/
theorem DeviceMemory.read_value {i : Nat} (h : i < count) :
    (m.read device address count).value i = m.point device (address + i) := by
  unfold DeviceMemory.read DeviceMemory.point
  cases isBitDevice device with
  | true => simp only [if_true, Payload.value, RangeStore.read_getD h]
  | false => simp only [Bool.false_eq_true, if_false, Payload.value, RangeStore.read_getD h]

/-- **A range that was written is read back.** -/
theorem DeviceMemory.read_write {v : Payload} (hv : v.Matches device count) :
    (m.write device address v).read device address count = v := by
  cases v with
  | bits bs =>
    obtain ⟨hdevice, rfl⟩ := hv
    simp only [DeviceMemory.read, hdevice, if_true, DeviceMemory.write, Function.update_self,
      RangeStore.read_write]
  | words vs =>
    obtain ⟨hdevice, rfl⟩ := hv
    simp only [DeviceMemory.read, hdevice, Bool.false_eq_true, if_false, DeviceMemory.write,
      Function.update_self, RangeStore.read_write]

end Points

/-! ## The PLC -/

/-- With which end code a PLC answers a request, 0 if it executes it, and what the answer carries
when it does not. -/
structure Plc where
  endCode : DecodedPdu → Word
  errorInfo : DecodedPdu → List Byte

namespace Plc

variable (plc : Plc)

/-- The memory after a request. -/
def next (m : DeviceMemory) (pdu : DecodedPdu) : DeviceMemory :=
  if plc.endCode pdu = 0 then
    match pdu.payload with
    | some v => m.write pdu.device pdu.address v
    | none => m
  else m

/-- The payload of the answer to a request. -/
def payload (m : DeviceMemory) (pdu : DecodedPdu) : List Byte :=
  if plc.endCode pdu = 0 then
    if pdu.command = .batchRead then (m.read pdu.device pdu.address pdu.count).encode else []
  else plc.errorInfo pdu

/-- The answer to a request, in the format of the request. -/
def frame (m : DeviceMemory) (d : DecodedRequest) (routing : Routing) : List Byte :=
  responseFrame d.settings.headerType (d.serial.getD 0) routing (plc.endCode d.pdu).toNat
    (plc.payload m d.pdu)

/-- The memory after the requests that were sent. -/
def memoryAfter (m : DeviceMemory) (requests : List (List Byte)) : DeviceMemory :=
  requests.foldl
    (fun m request => match decodeRequest request with
      | some d => plc.next m d.pdu
      | none => m) m

theorem memoryAfter_concat {m : DeviceMemory} {requests : List (List Byte)} {request : List Byte}
    {d : DecodedRequest} (h : decodeRequest request = some d) :
    plc.memoryAfter m (requests ++ [request]) = plc.next (plc.memoryAfter m requests) d.pdu := by
  rw [memoryAfter, List.foldl_append, List.foldl_cons, List.foldl_nil, h]
  rfl

/-- The bytes of a frame arrive in pieces, each of which the receive buffer of the client holds. -/
structure Arrives (frame : List Byte) (io : SocketIo) : Prop where
  sent : io.sent = true
  stream : io.stream = frame
  events : ∃ (sizes : List Nat) (later : List NetEvent),
    io.events = sizes.map .deliver ++ later ∧ sizes.sum = frame.length ∧
      ∀ size ∈ sizes, 0 < size ∧ size ≤ CLIENT_RECV_BUFFER_SIZE

/-- The PLC is at the other end of the transport, with the memory `m` before the first request. -/
structure Behind (cfg : Config) (m : DeviceMemory) (transport : Transport) : Prop where
  answers : ∀ (earlier : List (List Byte)) (request : List Byte) (d : DecodedRequest),
    decodeRequest request = some d → ∃ routing,
      Arrives (plc.frame (plc.memoryAfter m earlier) d routing) (transport (earlier ++ [request]))
  errorInfo : ∀ pdu, FX5_RESP_TCP_HEADER_SIZE_4E + FX5_RESP_PDU_HEADER_SIZE +
    (plc.errorInfo pdu).length ≤ FX5_IOBUF_SIZE cfg

/-- A transport with the PLC at its other end, which delivers one byte at a time. -/
def transport (m : DeviceMemory) : Transport := fun requests =>
  match decodeRequest (requests.getLastD []) with
  | some d =>
    let frame := plc.frame (plc.memoryAfter m requests.dropLast) d .default
    ⟨true, frame, List.replicate frame.length (.deliver 1)⟩
  | none => ⟨true, [], [.timeout]⟩

theorem behind_transport {cfg : Config} (m : DeviceMemory)
    (h : ∀ pdu, FX5_RESP_TCP_HEADER_SIZE_4E + FX5_RESP_PDU_HEADER_SIZE +
      (plc.errorInfo pdu).length ≤ FX5_IOBUF_SIZE cfg) :
    plc.Behind cfg m (plc.transport m) where
  answers earlier request d hd := by
    have hlast : (earlier ++ [request]).getLastD [] = request := by simp
    refine ⟨.default, ?_⟩
    rw [transport, hlast, hd, List.dropLast_concat]
    refine ⟨rfl, rfl, List.replicate _ 1, [], by rw [List.map_replicate, List.append_nil], by simp,
      fun size hsize => ?_⟩
    rw [(List.mem_replicate.mp hsize).2, CLIENT_RECV_BUFFER_SIZE]
    decide
  errorInfo := h

end Plc

end Fx5
