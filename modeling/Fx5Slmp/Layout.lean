import Mathlib.Data.List.Basic

/-!
# Frame layout, limits and public types of the FX5 library

The constants of `fx5_layout.h` and the constants, enumerations and records of `fx5.h`.

Conventions of the model.  Quantities the library computes with (sizes, counts, indices,
serial numbers) are natural numbers, narrowed by `u16` exactly where the C code narrows to
`uint16_t`; all other arithmetic of the source is done in a wider type and stays below
`2 ^ 32`.  Data the library only stores and copies has its own width (`Byte`, `Word`).

The three compile-time switches are the fields of `Config`; the `#error` guards of `fx5.h`
are its proof fields, so an inadmissible configuration cannot be written down.
-/

set_option autoImplicit false

namespace Fx5

abbrev Byte := BitVec 8
abbrev Word := BitVec 16

/-- The conversion `(uint16_t)x`. -/
def u16 (n : Nat) : Nat := n % 65536

theorem u16_of_lt {n : Nat} (h : n < 65536) : u16 n = n := Nat.mod_eq_of_lt h

theorem u16_lt (n : Nat) : u16 n < 65536 := Nat.mod_lt _ (by decide)

/-! ## `fx5_layout.h` -/

def FX5_REQ_TCP_HEADER_SIZE_3E : Nat := 11
def FX5_REQ_TCP_HEADER_SIZE_4E : Nat := 15
def FX5_RESP_TCP_HEADER_SIZE_3E : Nat := 9
def FX5_RESP_TCP_HEADER_SIZE_4E : Nat := 13
def FX5_REQ_PDU_HEADER_SIZE : Nat := 10
def FX5_RESP_PDU_HEADER_SIZE : Nat := 2
def FX5_IOBUF_GUARD_BYTES : Nat := 16

/-! ## Compile-time configuration -/

/-- The compile-time switches of `fx5.h` with their `#error` guards. -/
structure Config where
  FX5_MAX_VALUE_COUNT : Nat
  FX5_CONTEXT_POOL_SIZE : Nat
  FX5_CLEAR_VALUES_ON_SET_REQUEST : Bool
  count_pos : 1 ≤ FX5_MAX_VALUE_COUNT
  count_le : FX5_MAX_VALUE_COUNT ≤ 4095
  pool_pos : 0 < FX5_CONTEXT_POOL_SIZE

/-- The values of the switches when nothing is overridden. -/
def Config.default : Config := ⟨32, 2, true, by decide, by decide, by decide⟩

section Limits

variable (cfg : Config)

def FX5_MAX_WORD_VALUE_COUNT : Nat := cfg.FX5_MAX_VALUE_COUNT
def FX5_MAX_BIT_VALUE_COUNT : Nat := u16 (cfg.FX5_MAX_VALUE_COUNT * 16)
def FX5_MAX_BIT_PAYLOAD_BYTES : Nat := u16 ((FX5_MAX_BIT_VALUE_COUNT cfg + 1) / 2)

/-- `FX5_TX_MAX_PAYLOAD_BYTES` of `fx5_private.h`. -/
def FX5_TX_MAX_PAYLOAD_BYTES : Nat := FX5_MAX_BIT_PAYLOAD_BYTES cfg

/-- Capacity of the receive buffer (`fx5_private.h`). -/
def FX5_IOBUF_SIZE : Nat :=
  u16 (FX5_REQ_TCP_HEADER_SIZE_4E + FX5_REQ_PDU_HEADER_SIZE + FX5_TX_MAX_PAYLOAD_BYTES cfg +
    FX5_IOBUF_GUARD_BYTES)

def FX5_MAX_REQUEST_SIZE : Nat :=
  FX5_REQ_TCP_HEADER_SIZE_4E + FX5_REQ_PDU_HEADER_SIZE + FX5_MAX_BIT_PAYLOAD_BYTES cfg +
    FX5_IOBUF_GUARD_BYTES

theorem maxBitValueCount_eq : FX5_MAX_BIT_VALUE_COUNT cfg = 16 * cfg.FX5_MAX_VALUE_COUNT := by
  have := cfg.count_le
  rw [FX5_MAX_BIT_VALUE_COUNT, u16_of_lt (by omega), Nat.mul_comm]

theorem maxBitPayloadBytes_eq : FX5_MAX_BIT_PAYLOAD_BYTES cfg = 8 * cfg.FX5_MAX_VALUE_COUNT := by
  have := cfg.count_le
  rw [FX5_MAX_BIT_PAYLOAD_BYTES, maxBitValueCount_eq, u16_of_lt (by omega)]
  omega

theorem iobufSize_eq : FX5_IOBUF_SIZE cfg = 8 * cfg.FX5_MAX_VALUE_COUNT + 41 := by
  have := cfg.count_le
  rw [FX5_IOBUF_SIZE, FX5_TX_MAX_PAYLOAD_BYTES, maxBitPayloadBytes_eq, u16_of_lt]
  · simp only [FX5_REQ_TCP_HEADER_SIZE_4E, FX5_REQ_PDU_HEADER_SIZE, FX5_IOBUF_GUARD_BYTES]
    omega
  · simp only [FX5_REQ_TCP_HEADER_SIZE_4E, FX5_REQ_PDU_HEADER_SIZE, FX5_IOBUF_GUARD_BYTES]
    omega

theorem maxRequestSize_eq : FX5_MAX_REQUEST_SIZE cfg = 8 * cfg.FX5_MAX_VALUE_COUNT + 41 := by
  rw [FX5_MAX_REQUEST_SIZE, maxBitPayloadBytes_eq]
  simp only [FX5_REQ_TCP_HEADER_SIZE_4E, FX5_REQ_PDU_HEADER_SIZE, FX5_IOBUF_GUARD_BYTES]
  omega

/-- The receive buffer holds between 49 and 32801 bytes. -/
theorem iobufSize_bounds : 49 ≤ FX5_IOBUF_SIZE cfg ∧ FX5_IOBUF_SIZE cfg ≤ 32801 := by
  have h1 := cfg.count_pos
  have h2 := cfg.count_le
  rw [iobufSize_eq]
  omega

end Limits

def FX5_RESPONSE_OK : Nat := 0x0000
def FX5_BIT_TRUE : Word := 0x00FF#16
def FX5_BIT_FALSE : Word := 0x0000#16
def FX5_MAX_ADDRESS : Nat := 0x00FFFFFF
def FX5_RESYNC_LIMIT : Nat := 64

/-! ## Enumerations

A C enumeration variable can hold any value of its integer type, and the library checks for
that.  The constructor `other` stands for the values that are no enumerator; its proof field
keeps every value represented exactly once. -/

/-- `fx5_device_t`. -/
inductive Device where
  | M
  | SM
  | L
  | F
  | S
  | X
  | Y
  | B
  | SB
  | D
  | SD
  | W
  | SW
  | other (code : BitVec 32)
      (h : code ∉ [0x90, 0x91, 0x92, 0x93, 0x98, 0x9C, 0x9D, 0xA0, 0xA1, 0xA8, 0xA9, 0xB4, 0xB5])
  deriving DecidableEq

/-- The enumerator's value. -/
def Device.code : Device → Nat
  | .M => 0x90
  | .SM => 0x91
  | .L => 0x92
  | .F => 0x93
  | .S => 0x98
  | .X => 0x9C
  | .Y => 0x9D
  | .B => 0xA0
  | .SB => 0xA1
  | .D => 0xA8
  | .SD => 0xA9
  | .W => 0xB4
  | .SW => 0xB5
  | .other code _ => code.toNat

/-- `fx5_cmd_t`. -/
inductive Command where
  | batchWrite
  | batchRead
  | other (code : BitVec 32) (h : code ∉ [0x1401, 0x0401])
  deriving DecidableEq

def Command.code : Command → Nat
  | .batchWrite => 0x1401
  | .batchRead => 0x0401
  | .other code _ => code.toNat

/-- `fx5_header_t`. -/
inductive HeaderType where
  | h3E
  | h4E
  | unknown
  | other (code : BitVec 32) (h : code ∉ [0, 1, 2])
  deriving DecidableEq

/-- `fx5_status_t`. -/
inductive Status where
  | ok
  | errNull
  | errTooSmall
  | errNeedMore
  | errInvalidAddress
  | errInvalidCount
  | errInvalidIndex
  | errUnsupported
  | errInternal
  | errResync
  | errHeaderMismatch
  | errNoContext
  | errNotAcquired
  | errState
  | responseError
  deriving DecidableEq, Repr

/-- `fx5_network_settings_t`. -/
structure NetworkSettings where
  headerType : HeaderType
  networkNo : Byte
  pcNo : Byte
  moduleIoNo : Word
  moduleStationNo : Byte
  monitoringTimer : Word
  deriving DecidableEq

def FX5_DEFAULT_HEADER_TYPE : HeaderType := .h4E
def FX5_DEFAULT_NETWORK_NO : Byte := 0x00#8
def FX5_DEFAULT_PC_NO : Byte := 0xFF#8
def FX5_DEFAULT_MODULE_IO_NO : Word := 0x03FF#16
def FX5_DEFAULT_MODULE_STATION_NO : Byte := 0x00#8
def FX5_DEFAULT_MONITORING_TIMER : Word := 0x0010#16

/-- `fx5_network_settings_init`. -/
def networkSettingsInit : NetworkSettings where
  headerType := FX5_DEFAULT_HEADER_TYPE
  networkNo := FX5_DEFAULT_NETWORK_NO
  pcNo := FX5_DEFAULT_PC_NO
  moduleIoNo := FX5_DEFAULT_MODULE_IO_NO
  moduleStationNo := FX5_DEFAULT_MODULE_STATION_NO
  monitoringTimer := FX5_DEFAULT_MONITORING_TIMER

end Fx5
