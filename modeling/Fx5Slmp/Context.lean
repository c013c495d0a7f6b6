import Fx5Slmp.RingBuf
import Fx5Slmp.Lib.LittleEndian

/-!
# Contexts and byte helpers

`fx5_context` of `fx5_private.h`, `fx5_context_reset_internal` and the acquisition check of
`fx5_core.c`, the device and command tables of `fx5_request.c`, and the little-endian helpers
of `fx5_utility.h`.

The array member `buffer` is reached only through `rx_cbuffer.data`, so the storage of the
ring buffer stands for it.

`Context.Inv` is the representation invariant of an acquired context; the reset establishes
it whatever the context held before (`contextResetInternal_inv`).
-/

set_option autoImplicit false

namespace Fx5

/-! ## Device and command tables -/

/-- `fx5_is_supported_command`. -/
def isSupportedCommand : Command → Bool
  | .batchRead | .batchWrite => true
  | .other _ _ => false

/-- `fx5_is_supported_device`. -/
def isSupportedDevice : Device → Bool
  | .D | .W | .SD | .SW | .M | .SM | .L | .F | .S | .X | .Y | .B | .SB => true
  | .other _ _ => false

/-- `fx5_is_bit_device`. -/
def isBitDevice : Device → Bool
  | .D | .W | .SD | .SW => false
  | .M | .SM | .L | .F | .S | .X | .Y | .B | .SB => true
  | .other _ _ => false

/-- `fx5_device_allows_write`. -/
def deviceAllowsWrite : Device → Bool
  | .SM | .SD | .SB | .SW => false
  | _ => true

/-- `fx5_get_max_value_count`. -/
def getMaxValueCount (cfg : Config) (device : Device) : Nat :=
  if isBitDevice device then FX5_MAX_BIT_VALUE_COUNT cfg else FX5_MAX_WORD_VALUE_COUNT cfg

/-! ## Contexts -/

/-- `struct fx5_context`. -/
structure Context where
  inUse : Bool
  networkSettings : NetworkSettings
  nextSerial : Nat
  serial : Nat
  resyncCounter : Nat
  device : Device
  command : Command
  address : Nat
  count : Nat
  responseCode : Nat
  values : List Word
  rxCbuffer : RingBuf
  deriving DecidableEq

/-- A context as the zero-initialised static pool holds it. -/
def Context.zero (cfg : Config) : Context where
  inUse := false
  networkSettings := ⟨.h3E, 0, 0, 0, 0, 0⟩
  nextSerial := 0
  serial := 0
  resyncCounter := 0
  device := .other 0 (by decide)
  command := .other 0 (by decide)
  address := 0
  count := 0
  responseCode := 0
  values := List.replicate cfg.FX5_MAX_VALUE_COUNT 0
  rxCbuffer := ⟨List.replicate (FX5_IOBUF_SIZE cfg) 0, 0, 0, 0, 0⟩

/-- `fx5_require_acquired`; `none` is a NULL pointer. -/
def requireAcquired (context : Option Context) : Status :=
  match context with
  | none => .errNull
  | some context => if context.inUse then .ok else .errNotAcquired

/-- `fx5_is_acquired`. -/
def isAcquired (context : Option Context) : Bool :=
  match context with
  | none => false
  | some context => context.inUse

/-- `fx5_context_reset_internal`.  The values and the stored bytes are left alone. -/
def contextResetInternal (cfg : Config) (context : Context) : Context :=
  { context with
    networkSettings := networkSettingsInit
    nextSerial := 0
    serial := 0
    device := .D
    command := .batchRead
    resyncCounter := 0
    count := 0
    responseCode := FX5_RESPONSE_OK
    address := 0x000000
    rxCbuffer := (ringbufInit context.rxCbuffer (some context.rxCbuffer.data)
      (FX5_IOBUF_SIZE cfg)).2 }

/-- The two arrays of a context have the sizes of its declaration. -/
structure Context.Sized (cfg : Config) (ctx : Context) : Prop where
  values_length : ctx.values.length = cfg.FX5_MAX_VALUE_COUNT
  data_length : ctx.rxCbuffer.data.length = FX5_IOBUF_SIZE cfg

/-- The representation invariant of an acquired context. -/
structure Context.Inv (cfg : Config) (ctx : Context) : Prop where
  device : isSupportedDevice ctx.device = true
  command : isSupportedCommand ctx.command = true
  header : ctx.networkSettings.headerType = .h3E ∨ ctx.networkSettings.headerType = .h4E
  address : ctx.address ≤ FX5_MAX_ADDRESS
  count : ctx.count ≤ getMaxValueCount cfg ctx.device
  values : ctx.values.length = cfg.FX5_MAX_VALUE_COUNT
  ring : ctx.rxCbuffer.Inv
  capacity : ctx.rxCbuffer.capacity = FX5_IOBUF_SIZE cfg
  serial : ctx.serial < 65536
  nextSerial : ctx.nextSerial < 65536

theorem Context.zero_sized (cfg : Config) : (Context.zero cfg).Sized cfg where
  values_length := List.length_replicate
  data_length := List.length_replicate

theorem Context.Inv.sized {cfg : Config} {ctx : Context} (h : ctx.Inv cfg) : ctx.Sized cfg where
  values_length := h.values
  data_length := by rw [h.ring.data_length, h.capacity]

/-- A bit device has room for its count in the slots, a word device one slot per value. -/
theorem getMaxValueCount_le (cfg : Config) (device : Device) :
    getMaxValueCount cfg device ≤ 16 * cfg.FX5_MAX_VALUE_COUNT := by
  unfold getMaxValueCount
  split
  · rw [maxBitValueCount_eq]
  · rw [FX5_MAX_WORD_VALUE_COUNT]
    omega

theorem getMaxValueCount_lt (cfg : Config) (device : Device) :
    getMaxValueCount cfg device < 65536 := by
  have h1 := getMaxValueCount_le cfg device
  have h2 := cfg.count_le
  omega

namespace Context.Inv

variable {cfg : Config} {ctx : Context}

theorem count_lt (h : ctx.Inv cfg) : ctx.count < 65536 :=
  Nat.lt_of_le_of_lt h.count (getMaxValueCount_lt cfg ctx.device)

theorem count_le_slots (h : ctx.Inv cfg) : ctx.count ≤ 16 * ctx.values.length := by
  rw [h.values]
  exact Nat.le_trans h.count (getMaxValueCount_le cfg ctx.device)

theorem word_count_le (h : ctx.Inv cfg) (hw : isBitDevice ctx.device = false) :
    ctx.count ≤ ctx.values.length := by
  have := h.count
  rw [getMaxValueCount, if_neg (by simp [hw]), FX5_MAX_WORD_VALUE_COUNT] at this
  rw [h.values]
  exact this

theorem size_le (h : ctx.Inv cfg) : ctx.rxCbuffer.size ≤ FX5_IOBUF_SIZE cfg := by
  rw [← h.capacity]
  exact h.ring.size_le

theorem contents_length_le (h : ctx.Inv cfg) :
    ctx.rxCbuffer.contents.length ≤ FX5_IOBUF_SIZE cfg := by
  rw [h.ring.contents_length]
  exact h.size_le

/-- A physical index near the read position fits 16 bits before the wrap correction. -/
theorem tail_add_lt (h : ctx.Inv cfg) {i : Nat} (hi : i ≤ 32000) :
    ctx.rxCbuffer.tail + i < 65536 := by
  have h1 := h.ring.tail_lt
  have h2 := (iobufSize_bounds cfg).2
  rw [h.capacity] at h1
  omega

/-- Only the ring buffer and the resynchronisation counter change while a header is looked
for. -/
theorem advance (h : ctx.Inv cfg) {k : Nat} (hk : k ≤ ctx.rxCbuffer.size) (c : Nat) :
    { ctx with resyncCounter := c, rxCbuffer := ctx.rxCbuffer.advance k }.Inv cfg :=
  { h with ring := h.ring.advance hk, capacity := h.capacity }

end Context.Inv

/-- **The reset establishes the invariant** from the array sizes alone. -/
theorem contextResetInternal_inv {cfg : Config} {ctx : Context} (h : ctx.Sized cfg) :
    (contextResetInternal cfg ctx).Inv cfg := by
  have hb := iobufSize_bounds cfg
  refine
    { device := rfl
      command := rfl
      header := Or.inr rfl
      address := Nat.zero_le _
      count := Nat.zero_le _
      values := h.values_length
      ring := (ringbufInit_inv ctx.rxCbuffer (by omega) (by omega) h.data_length).1
      capacity := ?_
      serial := Nat.succ_pos 65535
      nextSerial := Nat.succ_pos 65535 }
  simp only [contextResetInternal, ringbufInit]
  rw [if_neg (by omega)]

theorem contextResetInternal_contents {cfg : Config} {ctx : Context} (h : ctx.Sized cfg) :
    (contextResetInternal cfg ctx).rxCbuffer.contents = [] := by
  have hb := iobufSize_bounds cfg
  exact (ringbufInit_inv ctx.rxCbuffer (by omega) (by omega) h.data_length).2

/-! ## Little-endian helpers -/

/-- The two bytes `pdu_wr_u16_le` stores. -/
def pduWrU16Le (v : Nat) : List Byte :=
  [BitVec.ofNat 8 (v &&& 0xFF), BitVec.ofNat 8 ((v >>> 8) &&& 0xFF)]

/-- The three bytes `pdu_wr_u24_le` stores. -/
def pduWrU24Le (v : Nat) : List Byte :=
  [BitVec.ofNat 8 (v &&& 0xFF), BitVec.ofNat 8 ((v >>> 8) &&& 0xFF),
    BitVec.ofNat 8 ((v >>> 16) &&& 0xFF)]

/-- `pdu_peekc_u16_le`: the success flags of the two peeks are dropped. -/
def pduPeekcU16Le (buffer : RingBuf) (offset : Nat) : Option Nat := do
  let b0 ← ringbufPeek buffer (u16 (offset + 0))
  let b1 ← ringbufPeek buffer (u16 (offset + 1))
  some ((b0.getD 0).toNat ||| ((b1.getD 0).toNat <<< 8))

/-- `pdu_rdc_u16_le`. -/
def pduRdcU16Le (buffer : RingBuf) : Option (Nat × RingBuf) := do
  let b0 ← ringbufPeek buffer 0
  let b1 ← ringbufPeek buffer 1
  let buffer := (ringbufDropFront buffer 2).2
  some ((b0.getD 0).toNat ||| ((b1.getD 0).toNat <<< 8), buffer)

/-- The 16-bit little-endian number at index `i` of a byte string; bytes beyond the end count
as 0. -/
def le16At (b : List Byte) (i : Nat) : Nat := (b.getD i 0).toNat + 256 * (b.getD (i + 1) 0).toNat

theorem le16At_lt (b : List Byte) (i : Nat) : le16At b i < 65536 := by
  have h0 := (b.getD i 0).isLt
  have h1 := (b.getD (i + 1) 0).isLt
  simp only [le16At]
  omega

theorem le16At_drop (b : List Byte) (k i : Nat) : le16At (b.drop k) i = le16At b (k + i) := by
  simp only [le16At, List.getD_eq_getElem?_getD, List.getElem?_drop, Nat.add_assoc]

theorem le16At_append {b : List Byte} {i : Nat} (t : List Byte) (h : i + 2 ≤ b.length) :
    le16At (b ++ t) i = le16At b i := by
  simp only [le16At, List.getD_eq_getElem?_getD]
  rw [List.getElem?_append_left (by omega), List.getElem?_append_left (by omega)]

theorem or_shiftLeft_eight {x y : Nat} (hx : x < 256) : x ||| (y <<< 8) = x + 256 * y := by
  rw [Nat.or_comm, Nat.shiftLeft_eq, Nat.mul_comm, ← Nat.two_pow_add_eq_or_of_lt (i := 8) hx]
  omega

theorem pduPeekcU16Le_spec {rb : RingBuf} (hinv : rb.Inv) {i : Nat}
    (hfit : rb.tail + (i + 1) < 65536) : pduPeekcU16Le rb i = some (le16At rb.contents i) := by
  have hlt := (rb.contents.getD i 0).isLt
  have h0 : ringbufPeek rb (u16 (i + 0)) = some rb.contents[i]? := by
    rw [u16_of_lt (by omega), Nat.add_zero, ringbufPeek_spec hinv (by omega)]
  have h1 : ringbufPeek rb (u16 (i + 1)) = some rb.contents[i + 1]? := by
    rw [u16_of_lt (by omega), ringbufPeek_spec hinv hfit]
  simp only [pduPeekcU16Le, h0, h1, le16At, List.getD_eq_getElem?_getD] at hlt ⊢
  rw [← or_shiftLeft_eight hlt]
  rfl

theorem pduRdcU16Le_spec {rb : RingBuf} (hinv : rb.Inv) (hfit : rb.tail + 1 < 65536)
    (hsize : 2 ≤ rb.size) : pduRdcU16Le rb = some (le16At rb.contents 0, rb.advance 2) := by
  have hlt := (rb.contents.getD 0 0).isLt
  have h0 : ringbufPeek rb 0 = some rb.contents[0]? := ringbufPeek_spec hinv (by omega)
  have h1 : ringbufPeek rb 1 = some rb.contents[1]? := ringbufPeek_spec hinv hfit
  simp only [pduRdcU16Le, h0, h1, le16At, List.getD_eq_getElem?_getD,
    ringbufDropFront_of_le hinv hsize] at hlt ⊢
  rw [← or_shiftLeft_eight hlt]
  rfl

theorem pduWrU16Le_eq (v : Nat) : pduWrU16Le v = LittleEndian.encode 2 v := by
  simp only [pduWrU16Le, LittleEndian.encode]
  congr 1
  · apply BitVec.eq_of_toNat_eq
    simp only [BitVec.toNat_ofNat]
    rw [show (0xFF : Nat) = 2 ^ 8 - 1 by rfl, Nat.and_two_pow_sub_one_eq_mod]
    omega
  · congr 1
    apply BitVec.eq_of_toNat_eq
    simp only [BitVec.toNat_ofNat]
    rw [show (0xFF : Nat) = 2 ^ 8 - 1 by rfl, Nat.and_two_pow_sub_one_eq_mod, Nat.shiftRight_eq_div_pow]
    omega

theorem le16At_pduWrU16Le {n : Nat} (h : n < 65536) (rest : List Byte) :
    le16At (pduWrU16Le n ++ rest) 0 = n := by
  have hdecode := LittleEndian.decode_encode_of_lt (k := 2) (n := n) (by omega)
  simp only [LittleEndian.encode, LittleEndian.decode, Nat.mul_zero, Nat.add_zero] at hdecode
  rw [pduWrU16Le_eq]
  simp only [LittleEndian.encode, List.cons_append, List.nil_append, le16At, List.getD_cons_zero,
    List.getD_cons_succ]
  exact hdecode

@[simp] theorem pduWrU16Le_length (v : Nat) : (pduWrU16Le v).length = 2 := rfl

@[simp] theorem pduWrU24Le_length (v : Nat) : (pduWrU24Le v).length = 3 := rfl

end Fx5
