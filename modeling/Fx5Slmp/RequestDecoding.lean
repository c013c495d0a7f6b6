import Fx5Slmp.ResponseDecoding

/-!
# A reference decoder for requests

`decodeRequest` reads the 3E/4E binary layout of a batch request and nothing else: it checks
the subheader, the reserved bytes, the length field, the subcommand, the device code and the
exact size of the payload, and rejects every other byte string.  It has its own table of devices
and uses none of the modelled functions.

* `decodeRequest_requestBytes` — the decoder undoes the encoder;
* `setWriteValues_spec` — what a sequence of writes leaves in the value store;
* `request_round_trip` — after any settings, request and writes, the bytes of the request
  decode to exactly these.
-/

set_option autoImplicit false

namespace Fx5

open PackedBits LittleEndian

/-! ## The decoder -/

structure DecodedPdu where
  command : Command
  device : Device
  address : Nat
  count : Nat
  payload : Option Payload
  deriving DecidableEq

structure DecodedRequest where
  settings : NetworkSettings
  serial : Option Nat
  pdu : DecodedPdu
  deriving DecidableEq

/-- Device codes with their device, and whether it is accessed in bit units. -/
def deviceTable : List (Nat × Device × Bool) :=
  [(0x90, .M, true), (0x91, .SM, true), (0x92, .L, true), (0x93, .F, true), (0x98, .S, true),
    (0x9C, .X, true), (0x9D, .Y, true), (0xA0, .B, true), (0xA1, .SB, true), (0xA8, .D, false),
    (0xA9, .SD, false), (0xB4, .W, false), (0xB5, .SW, false)]

def decodeDevice (code : Nat) : Option (Device × Bool) :=
  (deviceTable.find? fun row => row.1 == code).map (·.2)

def decodeCommand (code : Nat) : Option Command :=
  if code = 0x0401 then some .batchRead else if code = 0x1401 then some .batchWrite else none

/-- Subheader, and for 4E the serial number and two zero bytes. -/
def decodeSubheader (b : List Byte) : Option ((HeaderType × Option Nat) × List Byte) := do
  let (subheader, b) ← readLE 2 b
  if subheader = 0x0054 then do
    let (serial, b) ← readLE 2 b
    let (reserved, b) ← readLE 2 b
    if reserved = 0 then some ((.h4E, some serial), b) else none
  else if subheader = 0x0050 then some ((.h3E, none), b)
  else none

/-- `count` values in bit units, high nibble first, or in little-endian words. -/
def decodePayload (bitUnits : Bool) (count : Nat) (b : List Byte) : Option Payload :=
  if bitUnits then (decodePairs count b).map .bits
  else if b.length = 2 * count then some (.words (wordsAt b count)) else none

/-- Command, subcommand, address, device and count, and the payload of a write. -/
def decodePdu (b : List Byte) : Option DecodedPdu := do
  let (commandCode, b) ← readLE 2 b
  let (subCommand, b) ← readLE 2 b
  let (address, b) ← readLE 3 b
  let (deviceCode, b) ← readLE 1 b
  let (count, b) ← readLE 2 b
  let command ← decodeCommand commandCode
  let (device, bitUnits) ← decodeDevice deviceCode
  if subCommand ≠ (if bitUnits then 0x0001 else 0x0000) then none
  else if command = .batchWrite then do
    let payload ← decodePayload bitUnits count b
    some ⟨command, device, address, count, some payload⟩
  else if b = [] then some ⟨command, device, address, count, none⟩
  else none

def decodeRequest (b : List Byte) : Option DecodedRequest := do
  let ((headerType, serial), b) ← decodeSubheader b
  let (networkNo, b) ← readLE 1 b
  let (pcNo, b) ← readLE 1 b
  let (moduleIoNo, b) ← readLE 2 b
  let (moduleStationNo, b) ← readLE 1 b
  let (packetSize, b) ← readLE 2 b
  if packetSize ≠ b.length then none
  else do
    let (monitoringTimer, b) ← readLE 2 b
    let pdu ← decodePdu b
    some
      { settings :=
          { headerType := headerType
            networkNo := BitVec.ofNat 8 networkNo
            pcNo := BitVec.ofNat 8 pcNo
            moduleIoNo := BitVec.ofNat 16 moduleIoNo
            moduleStationNo := BitVec.ofNat 8 moduleStationNo
            monitoringTimer := BitVec.ofNat 16 monitoringTimer }
        serial := serial
        pdu := pdu }

/-! ## Reading what was written -/

theorem readLE_byte (x : Byte) (rest : List Byte) :
    readLE 1 ([x] ++ rest) = some (x.toNat, rest) := by
  simp [readLE, decode]

theorem readLE_u16 {n : Nat} (h : n < 65536) (rest : List Byte) :
    readLE 2 (pduWrU16Le n ++ rest) = some (n, rest) := by
  rw [pduWrU16Le_eq]
  exact readLE_append (by omega) rest

theorem pduWrU24Le_eq (v : Nat) : pduWrU24Le v = encode 3 v := by
  have hmask : ∀ n : Nat, BitVec.ofNat 8 (n &&& 0xFF) = BitVec.ofNat 8 n := by
    intro n
    apply BitVec.eq_of_toNat_eq
    rw [BitVec.toNat_ofNat, BitVec.toNat_ofNat, show (0xFF : Nat) = 2 ^ 8 - 1 by rfl,
      Nat.and_two_pow_sub_one_eq_mod, Nat.mod_mod]
  simp only [pduWrU24Le, encode, hmask, Nat.shiftRight_eq_div_pow, Nat.div_div_eq_div_mul]

theorem readLE_u24 {n : Nat} (h : n ≤ FX5_MAX_ADDRESS) (rest : List Byte) :
    readLE 3 (pduWrU24Le n ++ rest) = some (n, rest) := by
  have hmax : FX5_MAX_ADDRESS = 16777215 := rfl
  rw [pduWrU24Le_eq]
  exact readLE_append (by omega) rest

theorem decodeDevice_code {device : Device} (h : isSupportedDevice device = true) :
    decodeDevice (BitVec.ofNat 8 device.code).toNat = some (device, isBitDevice device) := by
  cases device with
  | other code hcode => cases h
  | _ => rfl

theorem decodeCommand_code {command : Command} (h : isSupportedCommand command = true) :
    u16 command.code < 65536 ∧ decodeCommand (u16 command.code) = some command := by
  cases command with
  | other code hcode => cases h
  | batchRead => exact ⟨by decide, rfl⟩
  | batchWrite => exact ⟨by decide, rfl⟩

/-- The values of a write request. -/
def Context.payload (ctx : Context) : Payload :=
  if isBitDevice ctx.device then .bits (bitValues ctx.values ctx.count)
  else .words (ctx.values.take ctx.count)

section Decode

variable {cfg : Config} {ctx : Context}

theorem decodePayload_writePayload (hinv : ctx.Inv cfg) :
    decodePayload (isBitDevice ctx.device) ctx.count (writePayload ctx) = some ctx.payload := by
  unfold decodePayload writePayload Context.payload
  cases hdevice : isBitDevice ctx.device with
  | true =>
    have hround := decodePairs_packPairs (bitValues ctx.values ctx.count)
    rw [bitValues_length] at hround
    simp only [if_true, hround, Option.map_some]
  | false =>
    have hlen : (ctx.values.take ctx.count).length = ctx.count :=
      List.length_take_of_le (hinv.word_count_le hdevice)
    have hround := wordsAt_wordBytes (ctx.values.take ctx.count)
    rw [hlen] at hround
    simp only [Bool.false_eq_true, if_false, wordBytes_length, hlen, if_true, hround]

/-- The subheader part of a request is read back. -/
theorem decodeSubheader_bytes (hinv : ctx.Inv cfg) (rest : List Byte) :
    decodeSubheader (subheaderBytes ctx.networkSettings.headerType ctx.nextSerial ++ rest) =
      some ((ctx.networkSettings.headerType,
        if ctx.networkSettings.headerType = .h4E then some ctx.nextSerial else none), rest) := by
  unfold decodeSubheader subheaderBytes
  rcases hinv.header with h3 | h4
  · rw [h3, if_neg (by decide), if_neg (by decide), readLE_u16 (by decide)]
    rfl
  · rw [h4, if_pos rfl, if_pos rfl, List.append_assoc, List.append_assoc, readLE_u16 (by decide)]
    simp only [Option.bind_eq_bind, Option.bind_some]
    rw [if_pos (by decide), readLE_u16 hinv.nextSerial, Option.bind_some,
      readLE_u16 (by decide)]
    rfl

/-- The PDU of a request is read back. -/
theorem decodePdu_pduBytes (hinv : ctx.Inv cfg) :
    decodePdu (pduBytes ctx) = some
      ⟨ctx.command, ctx.device, ctx.address, ctx.count,
        if ctx.command = .batchWrite then some ctx.payload else none⟩ := by
  obtain ⟨hcode, hcommand⟩ := decodeCommand_code hinv.command
  have hdevice := decodeDevice_code hinv.device
  have hsub : subCommandOf ctx.device = if isBitDevice ctx.device then 0x0001 else 0x0000 := rfl
  have hsub' : subCommandOf ctx.device < 65536 := by
    rw [hsub]
    split <;> decide
  unfold decodePdu pduBytes accessPrefixBytes
  simp only [List.append_assoc, readLE_u16 hcode, readLE_u16 hsub', readLE_u24 hinv.address,
    readLE_byte, readLE_u16 hinv.count_lt, Option.bind_eq_bind, Option.bind_some, hcommand, hdevice]
  rw [if_neg (fun h => h hsub)]
  split
  · rw [decodePayload_writePayload hinv]
    rfl
  · rfl

/-- **The decoder undoes the encoder.** -/
theorem decodeRequest_requestBytes (hinv : ctx.Inv cfg) :
    decodeRequest (requestBytes ctx) = some
      { settings := ctx.networkSettings
        serial := if ctx.networkSettings.headerType = .h4E then some ctx.nextSerial else none
        pdu := ⟨ctx.command, ctx.device, ctx.address, ctx.count,
          if ctx.command = .batchWrite then some ctx.payload else none⟩ } := by
  have hpdu := pduBytes_length ctx
  have hpayload := writePayload_length_le hinv
  have hmax := cfg.count_le
  have h10 : FX5_REQ_PDU_HEADER_SIZE = 10 := rfl
  have hsmall : (pduBytes ctx).length + 2 < 65536 := by
    rw [hpdu]
    split <;> omega
  have hlen : (pduWrU16Le ctx.networkSettings.monitoringTimer.toNat ++ pduBytes ctx).length =
      (pduBytes ctx).length + 2 := by
    rw [List.length_append, pduWrU16Le_length, Nat.add_comm]
  have hnumbers : [ctx.networkSettings.networkNo, ctx.networkSettings.pcNo] =
      [ctx.networkSettings.networkNo] ++ [ctx.networkSettings.pcNo] := rfl
  unfold decodeRequest requestBytes wireHeaderBytes
  rw [hnumbers]
  simp only [List.append_assoc]
  rw [decodeSubheader_bytes hinv]
  simp only [Option.bind_eq_bind, Option.bind_some, readLE_byte,
    readLE_u16 ctx.networkSettings.moduleIoNo.isLt, u16_of_lt hsmall, readLE_u16 hsmall, hlen,
    readLE_u16 ctx.networkSettings.monitoringTimer.isLt, decodePdu_pduBytes hinv, ne_eq,
    not_true_eq_false, if_false, BitVec.ofNat_toNat, BitVec.setWidth_eq]

/-! ## Sequences of writes -/

/-- Calls of `fx5_set_write_value` one after the other; the second result lists the arguments
of those that returned OK. -/
def setWriteValues (cfg : Config) :
    Context → List (Word × Word) → Option (Context × List (Word × Word))
  | ctx, [] => some (ctx, [])
  | ctx, (index, value) :: ws => do
    let (status, ctx) ← setWriteValue cfg ctx index value
    let (ctx, written) ← setWriteValues cfg ctx ws
    some (ctx, if status = .ok then (index, value) :: written else written)

/-- The value of the last write at index `i`. -/
def lastWrite : List (Word × Word) → Nat → Option Word
  | [], _ => none
  | (index, value) :: ws, i => lastWrite ws i <|> if index.toNat = i then some value else none

/-- The value of the last write at index `i`, or 0. -/
def lastWritten (written : List (Word × Word)) (i : Nat) : Word := (lastWrite written i).getD 0

/-- A view of the value store in which one write changes one index. -/
def SingleWrite {β : Type} (ctx : Context) (get : List Word → Nat → β) (f : Word → β) : Prop :=
  ∀ (values : List Word) (index : Nat) (value : Word), values.length = ctx.values.length →
    index < ctx.count → ∀ i,
      get (writtenValues { ctx with values := values } index value) i =
        if i = index then f value else get values i

theorem singleWrite_bits (hinv : ctx.Inv cfg) (hdevice : isBitDevice ctx.device = true) :
    SingleWrite ctx (fun values i => bitAt values i) (fun value => value != 0) := by
  intro values index value hlen hindex i
  have hslots := hinv.count_le_slots
  simp only [writtenValues, hdevice, if_true]
  exact bitAt_setBitAt _ (by decide) (by omega) i

theorem singleWrite_words (hinv : ctx.Inv cfg) (hdevice : isBitDevice ctx.device = false) :
    SingleWrite ctx (fun values i => values.getD i 0) id := by
  intro values index value hlen hindex i
  have hword := hinv.word_count_le hdevice
  simp only [writtenValues, hdevice, Bool.false_eq_true, if_false, id_eq,
    List.getD_eq_getElem?_getD, List.getElem?_set]
  by_cases hi : i = index
  · subst hi
    rw [if_pos rfl, if_pos rfl, if_pos (by omega)]
    rfl
  · rw [if_neg (Ne.symm hi), if_neg hi]

/-- **A sequence of writes** is defined and changes only the values; in any view, an index
holds its last successful write, or what it held before. -/
theorem setWriteValues_spec {β : Type} {get : List Word → Nat → β} {f : Word → β}
    (hinv : ctx.Inv cfg) (huse : ctx.inUse = true) (hget : SingleWrite ctx get f)
    (ws : List (Word × Word)) :
    ∃ values written, setWriteValues cfg ctx ws = some ({ ctx with values := values }, written) ∧
      values.length = ctx.values.length ∧
      ∀ i, get values i = ((lastWrite written i).map f).getD (get ctx.values i) := by
  induction ws generalizing ctx with
  | nil => exact ⟨ctx.values, [], rfl, rfl, fun i => rfl⟩
  | cons w ws ih =>
    obtain ⟨index, value⟩ := w
    rcases setWriteValue_cases hinv huse index value with ⟨status, hne, _, hres⟩ | ⟨hlt, hres⟩
    · obtain ⟨values, written, hrest, hlen, hvalues⟩ := ih hinv huse hget
      refine ⟨values, written, ?_, hlen, hvalues⟩
      simp only [setWriteValues, hres, hrest, Option.bind_eq_bind, Option.bind_some, if_neg hne]
    · have hlen₁ := writtenValues_length ctx index.toNat value
      have hget₁ : SingleWrite { ctx with values := writtenValues ctx index.toNat value } get f :=
        fun values index value hlen => hget values index value (hlen.trans hlen₁)
      obtain ⟨values, written, hrest, hlen, hvalues⟩ :=
        ih (hinv.written index.toNat value) huse hget₁
      refine ⟨values, (index, value) :: written, ?_, hlen.trans hlen₁, ?_⟩
      · simp only [setWriteValues, hres, hrest, Option.bind_eq_bind, Option.bind_some, if_true]
      · intro i
        rw [hvalues i, lastWrite]
        have hone := hget ctx.values index.toNat value rfl hlt i
        cases hlast : lastWrite written i with
        | some v => rfl
        | none =>
          show get (writtenValues ctx index.toNat value) i =
            ((if index.toNat = i then some value else none).map f).getD (get ctx.values i)
          rw [hone]
          by_cases hi : i = index.toNat
          · rw [if_pos hi, if_pos hi.symm]
            rfl
          · rw [if_neg hi, if_neg (Ne.symm hi)]
            rfl

/-! ## The round trip -/

/-- The values a write request should carry. -/
def requestedValues (device : Device) (count : Nat) (written : List (Word × Word)) : Payload :=
  if isBitDevice device then .bits ((List.range count).map fun i => lastWritten written i != 0)
  else .words ((List.range count).map (lastWritten written))

theorem getD_replicate_zero (n i : Nat) : (List.replicate n (0 : Word)).getD i 0 = 0 := by
  rw [List.getD_eq_getElem?_getD, List.getElem?_replicate]
  split <;> rfl

/-- Writes to a cleared store leave exactly the requested values. -/
theorem payload_of_writes (hinv : ctx.Inv cfg) (huse : ctx.inUse = true)
    (hclear : ctx.values = List.replicate cfg.FX5_MAX_VALUE_COUNT 0) (ws : List (Word × Word)) :
    ∃ values written, setWriteValues cfg ctx ws = some ({ ctx with values := values }, written) ∧
      values.length = ctx.values.length ∧
      Context.payload { ctx with values := values } =
        requestedValues ctx.device ctx.count written := by
  cases hdevice : isBitDevice ctx.device with
  | true =>
    obtain ⟨values, written, hres, hlen, hvalues⟩ :=
      setWriteValues_spec hinv huse (singleWrite_bits hinv hdevice) ws
    refine ⟨values, written, hres, hlen, ?_⟩
    simp only [Context.payload, requestedValues, hdevice, if_true, bitValues]
    congr 1
    apply List.map_congr_left
    intro i _
    have hzero : bitAt ctx.values i = false := by
      rw [hclear, bitAt, getD_replicate_zero]
      exact BitVec.getLsbD_zero
    rw [hvalues i, hzero, lastWritten]
    cases lastWrite written i <;> rfl
  | false =>
    obtain ⟨values, written, hres, hlen, hvalues⟩ :=
      setWriteValues_spec hinv huse (singleWrite_words hinv hdevice) ws
    refine ⟨values, written, hres, hlen, ?_⟩
    have hword := hinv.word_count_le hdevice
    simp only [Context.payload, requestedValues, hdevice, Bool.false_eq_true, if_false]
    congr 1
    apply List.ext_getElem
    · simp
      omega
    · intro i h₁ h₂
      have hi : i < values.length := by
        simp only [List.length_take] at h₁
        omega
      have hzero : ctx.values.getD i 0 = 0 := by
        rw [hclear, getD_replicate_zero]
      have hv := hvalues i
      rw [hzero, Option.map_id, List.getD_eq_getElem _ _ hi] at hv
      simp only [List.getElem_take, List.getElem_map, List.getElem_range, hv, lastWritten]
      rfl

theorem deviceAllowsWrite_of_not_mem {device : Device} (h : device ∉ [.SM, .SD, .SB, .SW]) :
    deviceAllowsWrite device = true := by
  cases device with
  | SM | SD | SB | SW => exact absurd (by decide) h
  | _ => rfl

/-- An accepted request to a device that allows the command passes the validation. -/
theorem valid_of_accepted {command : Command} {device : Device} {address : BitVec 32}
    {count : Word} (hinv : ctx.Inv cfg) (hacc : RequestAccepted cfg command device address count)
    (hwritable : command = .batchWrite → device ∉ [.SM, .SD, .SB, .SW]) (values : List Word) :
    Context.Valid cfg { ctx.withRequest cfg command device address count with values := values } := by
  obtain ⟨hcount, haddress, hcommand, hdevice, hmax⟩ := hacc
  have hallows : ¬ (command = .batchWrite ∧ (!deviceAllowsWrite device) = true) := by
    rintro ⟨hwrite, hdeny⟩
    simp [deviceAllowsWrite_of_not_mem (hwritable hwrite)] at hdeny
  have hheader : ¬ (ctx.networkSettings.headerType ≠ .h3E ∧
      ctx.networkSettings.headerType ≠ .h4E) := by
    rintro ⟨h3, h4⟩
    exact Or.elim hinv.header h3 h4
  unfold Context.Valid validateRequest Context.withRequest
  simp only
  rw [if_neg hcount, if_neg (Nat.not_lt_of_le haddress), if_neg (by simp [hcommand]),
    if_neg (by simp [hdevice]), if_neg (Nat.not_lt_of_le hmax), if_neg hallows, if_neg hheader]

/-- **Request encoding is undone by the reference decoder.**  After accepted settings, an
accepted request (a write only to a writable device) and any writes, the request is built, and
its bytes decode to the settings, the next serial number in 4E mode, the request, and for a
write the last value written at each index, or 0. -/
theorem request_round_trip {ctx₀ ctx₁ ctx₂ : Context} (hctx : Acquired cfg ctx₀)
    (hclear : cfg.FX5_CLEAR_VALUES_ON_SET_REQUEST = true) {settings : NetworkSettings}
    (hsettings : setNetworkSettings ctx₀ (some settings) = (.ok, ctx₁)) {command : Command}
    {device : Device} {address : BitVec 32} {count : Word}
    (hset : setRequest cfg ctx₁ command device address count = some (.ok, ctx₂))
    (hwritable : command = .batchWrite → device ∉ [.SM, .SD, .SB, .SW])
    (ws : List (Word × Word)) {outBuf : List Byte} {outBufSize : Word}
    (hroom : FX5_MAX_REQUEST_SIZE cfg ≤ outBufSize.toNat)
    (hout : outBufSize.toNat ≤ outBuf.length) (actualSize : Nat) :
    ∃ ctx₃ written r, setWriteValues cfg ctx₂ ws = some (ctx₃, written) ∧
      buildRequest cfg ctx₃ outBuf outBufSize actualSize = some r ∧ r.status = .ok ∧
      decodeRequest (r.outBuf.take r.actualSize) = some
        { settings := settings
          serial := if settings.headerType = .h4E then some ctx₀.nextSerial else none
          pdu := ⟨command, device, address.toNat, count.toNat,
            if command = .batchWrite then some (requestedValues device count.toNat written)
            else none⟩ } := by
  obtain ⟨hinv₀, huse₀⟩ := acquired_inv hctx
  obtain ⟨hheader, hctx₁⟩ : HeaderAccepted settings.headerType ∧
      ctx₁ = { ctx₀ with networkSettings := settings } := by
    rcases setNetworkSettings_cases huse₀ (some settings) with ⟨status, hne, hres⟩ | ⟨s, hs, hh, hres⟩
    · rw [hres] at hsettings
      cases hsettings
      exact absurd rfl hne
    · cases hs
      rw [hres] at hsettings
      cases hsettings
      exact ⟨hh, rfl⟩
  have hinv₁ : ctx₁.Inv cfg := by
    rw [hctx₁]
    exact { hinv₀ with header := hheader }
  have huse₁ : ctx₁.inUse = true := by rw [hctx₁]; exact huse₀
  obtain ⟨hacc, hctx₂⟩ : RequestAccepted cfg command device address count ∧
      ctx₂ = ctx₁.withRequest cfg command device address count := by
    rcases setRequest_cases hinv₁.values huse₁ command device address count with
      ⟨status, hne, _, hres⟩ | ⟨hacc, hres⟩
    · rw [hres] at hset
      cases hset
      exact absurd rfl hne
    · rw [hres] at hset
      cases hset
      exact ⟨hacc, rfl⟩
  have hinv₂ : ctx₂.Inv cfg := hctx₂ ▸ hinv₁.withRequest hacc
  have hvalues₂ : ctx₂.values = List.replicate cfg.FX5_MAX_VALUE_COUNT 0 := by
    rw [hctx₂]
    exact if_pos hclear
  obtain ⟨values, written, hwrites, hlen, hpayload⟩ :=
    payload_of_writes hinv₂ (by rw [hctx₂]; exact huse₁) hvalues₂ ws
  have hinv₃ : { ctx₂ with values := values : Context }.Inv cfg :=
    { hinv₂ with values := hlen.trans hinv₂.values }
  have hvalid : Context.Valid cfg { ctx₂ with values := values } := by
    rw [hctx₂]
    exact valid_of_accepted hinv₁ hacc hwritable values
  have hfit := (requestBytes_length hinv₃).2
  have hbuild := buildRequest_spec hinv₃ (by rw [hctx₂]; exact huse₁) hvalid hout
    (Nat.le_trans hfit hroom) actualSize
  refine ⟨_, written, _, hwrites, hbuild, rfl, ?_⟩
  rw [List.take_left' rfl, decodeRequest_requestBytes hinv₃, hpayload]
  rw [hctx₂, hctx₁]
  rfl

/-- Settings that differ from the defaults in every field. -/
def otherSettings : NetworkSettings := ⟨.h4E, 0x01, 0x02, 0x0304, 0x05, 0x0607⟩

/-- A bit write of three points, the second one written twice. -/
theorem bit_write_round_trip :
    ∃ ctx₁ ctx₂ ctx₃ written r,
      setNetworkSettings (contextAfter .smallest [.acquire]) (some otherSettings) = (.ok, ctx₁) ∧
      setRequest .smallest ctx₁ .batchWrite .Y 0x123456 3 = some (.ok, ctx₂) ∧
      setWriteValues .smallest ctx₂ [(0, 1), (1, 7), (1, 0), (2, 9), (3, 1)] =
        some (ctx₃, written) ∧
      buildRequest .smallest ctx₃ (List.replicate 49 0) 49 0 = some r ∧ r.status = .ok ∧
      decodeRequest (r.outBuf.take r.actualSize) = some
        ⟨otherSettings, some 0, .batchWrite, .Y, 0x123456, 3,
          some (requestedValues .Y 3 written)⟩ := by
  have hctx : Acquired .smallest (contextAfter .smallest [.acquire]) :=
    acquired_contextAfter (by decide +kernel)
  have hsettings : setNetworkSettings (contextAfter .smallest [.acquire]) (some otherSettings) =
      (.ok, { contextAfter .smallest [.acquire] with networkSettings := otherSettings }) := by
    decide +kernel
  have hset : setRequest .smallest
      { contextAfter .smallest [.acquire] with networkSettings := otherSettings }
      .batchWrite .Y 0x123456 3 = some (.ok, Context.withRequest .smallest
        { contextAfter .smallest [.acquire] with networkSettings := otherSettings }
        .batchWrite .Y 0x123456 3) := by
    decide +kernel
  have hroom : FX5_MAX_REQUEST_SIZE .smallest ≤ (49 : Word).toNat := by decide
  have hout : (49 : Word).toNat ≤ (List.replicate 49 (0 : Byte)).length := by decide
  obtain ⟨ctx₃, written, r, hwrites, hbuild, hok, hdecoded⟩ :=
    request_round_trip hctx rfl hsettings hset (by decide)
      [(0, 1), (1, 7), (1, 0), (2, 9), (3, 1)] hroom hout 0
  have hserial : (contextAfter .smallest [.acquire]).nextSerial = 0 := by decide +kernel
  refine ⟨_, _, ctx₃, written, r, hsettings, hset, hwrites, hbuild, hok, ?_⟩
  rw [hdecoded, hserial]
  rfl

end Decode

end Fx5
