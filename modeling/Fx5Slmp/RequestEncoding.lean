import Fx5Slmp.Core
import Fx5Slmp.Lib.PackedBits

/-!
# What `fx5_build_request` writes

`requestBytes` is the request as a byte string, `Context.sent` the context after it was built.
`buildRequest_spec` says that a valid context with room in the output buffer gets exactly
these: the size computed before the header is written is the size of what the four builders
write, so none of the exits behind the header is taken.

* `packBitsLoop_spec`, `wordsLoop_spec` — both payload loops stay inside `values`;
* `requestBytes_length` — the size computation agrees with the bytes;
* `buildRequest_cases` — the two early exits and the successful one are all exits.
-/

set_option autoImplicit false

namespace Fx5

open CheckedMem PackedBits

/-! ## The payload loops -/

/-- The first `count` bits of the value store. -/
def bitValues (values : List Word) (count : Nat) : List Bool :=
  (List.range count).map (bitAt values)

@[simp] theorem bitValues_length (values : List Word) (count : Nat) :
    (bitValues values count).length = count := by
  simp [bitValues]

theorem bitValues_drop (values : List Word) {count k : Nat} (h : k < count) :
    (bitValues values count).drop k = bitAt values k :: (bitValues values count).drop (k + 1) := by
  have hlen : k < (bitValues values count).length := by
    rw [bitValues_length]
    exact h
  rw [List.drop_eq_getElem_cons hlen]
  simp [bitValues]

theorem getPackedBitValue_spec {values : List Word} {i : Nat} (h : i < 16 * values.length)
    (hfit : i < 65536) : getPackedBitValue values i = some (bitAt values i) := by
  have hslot : i / 16 < values.length := by omega
  have hmask := and_mask_ne_zero (x := values[i / 16]) (Nat.mod_lt i (by decide : 0 < 16))
  unfold getPackedBitValue bitAt
  rw [u16_of_lt (by omega), List.getD_eq_getElem _ _ hslot]
  simp only [List.getElem?_eq_getElem hslot, Option.bind_eq_bind, Option.bind_some, hmask,
    Bool.decide_eq_true]

/-- **The packing loop** emits the remaining bits in nibble order. -/
theorem packBitsLoop_spec {values : List Word} {count : Nat} (hcount : count ≤ 16 * values.length)
    (hfit : count < 65536) :
    ∀ k, packBitsLoop values count k = some (packPairs ((bitValues values count).drop k)) := by
  intro k
  induction h : count - k using Nat.strongRecOn generalizing k with
  | ind n ih =>
    have hlen := bitValues_length values count
    rw [packBitsLoop]
    split
    · rename_i hk
      rw [getPackedBitValue_spec (by omega) (by omega), bitValues_drop values hk]
      simp only [Option.bind_eq_bind, Option.bind_some]
      split
      · rename_i hk1
        rw [getPackedBitValue_spec (by omega) (by omega), bitValues_drop values hk1,
          ih _ (by omega) (k + 2) rfl]
        rfl
      · rename_i hk1
        have hnil : (bitValues values count).drop (k + 1) = [] :=
          List.drop_eq_nil_of_le (by omega)
        rw [ih _ (by omega) (k + 1) rfl, hnil]
        rfl
    · rw [List.drop_eq_nil_of_le (by omega)]
      rfl

/-- The little-endian bytes of a list of words. -/
def wordBytes (vs : List Word) : List Byte := vs.flatMap fun v => pduWrU16Le v.toNat

@[simp] theorem wordBytes_length (vs : List Word) : (wordBytes vs).length = 2 * vs.length := by
  induction vs with
  | nil => rfl
  | cons v vs ih =>
    rw [wordBytes, List.flatMap_cons, List.length_append, ← wordBytes, ih, pduWrU16Le_length,
      List.length_cons]
    omega

/-- **The word loop** emits the first `count` words. -/
theorem wordsLoop_spec {values : List Word} {count : Nat} (hcount : count ≤ values.length) :
    wordsLoop values count = some (wordBytes (values.take count)) := by
  have hstep : ∀ k bytes, 0 ≤ k → k < 0 + count → bytes = wordBytes (values.take k) →
      ∃ bytes', wordAppend values k bytes = some bytes' ∧
        bytes' = wordBytes (values.take (k + 1)) := by
    rintro k _ _ hk rfl
    have hkv : k < values.length := by omega
    have htake : values.take (k + 1) = values.take k ++ [values[k]] := by
      rw [List.take_succ_eq_append_getElem hkv]
    refine ⟨_, ?_, rfl⟩
    unfold wordAppend
    rw [List.getElem?_eq_getElem hkv, htake, wordBytes, wordBytes, List.flatMap_append,
      List.flatMap_singleton]
    rfl
  obtain ⟨bytes, hbytes, rfl⟩ := forRange_rule _ count 0 [] (by simp [wordBytes]) hstep
  rw [wordsLoop, hbytes, Nat.zero_add]

/-! ## The bytes of a request -/

/-- The subheader; a 4E request continues with the serial number and two zero bytes. -/
def subheaderBytes (headerType : HeaderType) (serial : Nat) : List Byte :=
  if headerType = .h4E then
    pduWrU16Le FX5_TCP_REQUEST_SUBHEADER_4E_BINARY ++ pduWrU16Le serial ++ pduWrU16Le 0
  else pduWrU16Le FX5_TCP_REQUEST_SUBHEADER_3E_BINARY

/-- The wire header in front of a PDU of `pduSize` bytes. -/
def wireHeaderBytes (settings : NetworkSettings) (serial pduSize : Nat) : List Byte :=
  subheaderBytes settings.headerType serial ++ [settings.networkNo, settings.pcNo] ++
  pduWrU16Le settings.moduleIoNo.toNat ++
  [settings.moduleStationNo] ++ pduWrU16Le (u16 (pduSize + 2)) ++
  pduWrU16Le settings.monitoringTimer.toNat

/-- Command, subcommand, address, device and count. -/
def accessPrefixBytes (ctx : Context) : List Byte :=
  pduWrU16Le (u16 ctx.command.code) ++ pduWrU16Le (subCommandOf ctx.device) ++
  pduWrU24Le ctx.address ++ [BitVec.ofNat 8 ctx.device.code] ++ pduWrU16Le ctx.count

/-- What a write request appends for the active request. -/
def writePayload (ctx : Context) : List Byte :=
  if isBitDevice ctx.device then packPairs (bitValues ctx.values ctx.count)
  else wordBytes (ctx.values.take ctx.count)

def pduBytes (ctx : Context) : List Byte :=
  accessPrefixBytes ctx ++ if ctx.command = .batchWrite then writePayload ctx else []

/-- The whole request. -/
def requestBytes (ctx : Context) : List Byte :=
  wireHeaderBytes ctx.networkSettings ctx.nextSerial (pduBytes ctx).length ++ pduBytes ctx

/-- The context after its request was built. -/
def Context.sent (ctx : Context) : Context :=
  if ctx.networkSettings.headerType = .h4E then
    { ctx with serial := ctx.nextSerial, nextSerial := u16 (ctx.nextSerial + 1) }
  else { ctx with serial := 0 }

theorem wireHeaderBytes_length (settings : NetworkSettings) (serial pduSize : Nat) :
    (wireHeaderBytes settings serial pduSize).length =
      getRequestHeaderSize settings.headerType := by
  unfold wireHeaderBytes subheaderBytes getRequestHeaderSize
  split <;> rfl

@[simp] theorem accessPrefixBytes_length (ctx : Context) :
    (accessPrefixBytes ctx).length = FX5_REQ_PDU_HEADER_SIZE := rfl

section Build

variable {cfg : Config} {ctx : Context}

theorem getWritePayloadSize_eq (hinv : ctx.Inv cfg) :
    getWritePayloadSize ctx.device ctx.count = (writePayload ctx).length := by
  have hcount := hinv.count_lt
  unfold getWritePayloadSize writePayload
  split
  · rw [packPairs_length, bitValues_length, u16_of_lt (by omega)]
  · rename_i hdevice
    have hword := hinv.word_count_le (by simpa using hdevice)
    have hmax := cfg.count_le
    rw [hinv.values] at hword
    rw [wordBytes_length, List.length_take_of_le (by rw [hinv.values]; exact hword),
      u16_of_lt (by omega), Nat.mul_comm]

theorem writePayload_length_le (hinv : ctx.Inv cfg) :
    (writePayload ctx).length ≤ 8 * cfg.FX5_MAX_VALUE_COUNT := by
  have hslots := hinv.count_le_slots
  rw [hinv.values] at hslots
  unfold writePayload
  split
  · rw [packPairs_length, bitValues_length]
    omega
  · rename_i hdevice
    have hword := hinv.word_count_le (by simpa using hdevice)
    rw [hinv.values] at hword
    rw [wordBytes_length, List.length_take_of_le (by rw [hinv.values]; exact hword)]
    omega

theorem pduBytes_length (ctx : Context) :
    (pduBytes ctx).length = FX5_REQ_PDU_HEADER_SIZE +
      if ctx.command = .batchWrite then (writePayload ctx).length else 0 := by
  unfold pduBytes
  rw [List.length_append, accessPrefixBytes_length]
  split <;> rfl

theorem getRequestHeaderSize_le (headerType : HeaderType) :
    getRequestHeaderSize headerType ≤ FX5_REQ_TCP_HEADER_SIZE_4E := by
  unfold getRequestHeaderSize
  split <;> decide

/-- **The size computation agrees with the bytes**, and no request exceeds
`FX5_MAX_REQUEST_SIZE`. -/
theorem requestBytes_length (hinv : ctx.Inv cfg) :
    getRequiredRequestSize ctx = (requestBytes ctx).length ∧
      (requestBytes ctx).length ≤ FX5_MAX_REQUEST_SIZE cfg := by
  have hpayload := writePayload_length_le hinv
  have hmax := cfg.count_le
  have hheader := getRequestHeaderSize_le ctx.networkSettings.headerType
  have h15 : FX5_REQ_TCP_HEADER_SIZE_4E = 15 := rfl
  have h10 : FX5_REQ_PDU_HEADER_SIZE = 10 := rfl
  have hlen : (requestBytes ctx).length = getRequestHeaderSize ctx.networkSettings.headerType +
      (FX5_REQ_PDU_HEADER_SIZE +
        if ctx.command = .batchWrite then (writePayload ctx).length else 0) := by
    rw [requestBytes, List.length_append, wireHeaderBytes_length, pduBytes_length]
  have hsize : u16 (0 + getRequestHeaderSize ctx.networkSettings.headerType) =
      getRequestHeaderSize ctx.networkSettings.headerType := by
    rw [Nat.zero_add, u16_of_lt (by omega)]
  have hsize' : u16 (getRequestHeaderSize ctx.networkSettings.headerType +
      FX5_REQ_PDU_HEADER_SIZE) = getRequestHeaderSize ctx.networkSettings.headerType +
      FX5_REQ_PDU_HEADER_SIZE := u16_of_lt (by omega)
  rw [maxRequestSize_eq, hlen, getRequiredRequestSize, getWritePayloadSize_eq hinv, hsize, hsize']
  split
  · rw [u16_of_lt (by omega)]
    omega
  · omega

/-- The serial number of a 4E request is the next one of the context. -/
theorem requestBytes_serial (h4 : ctx.networkSettings.headerType = .h4E)
    (hserial : ctx.nextSerial < 65536) :
    le16At (requestBytes ctx) FX5_SERIAL_OFFSET_4E = ctx.nextSerial := by
  have hfield := le16At_pduWrU16Le hserial ((requestBytes ctx).drop 4)
  have hdrop : (requestBytes ctx).drop 2 =
      pduWrU16Le ctx.nextSerial ++ (requestBytes ctx).drop 4 := by
    rw [requestBytes, wireHeaderBytes, subheaderBytes, if_pos h4]
    rfl
  rw [← hdrop, le16At_drop] at hfield
  exact hfield

/-- The subheader tells the two frame types apart. -/
theorem requestBytes_subheader (ctx : Context) :
    le16At (requestBytes ctx) 0 =
      if ctx.networkSettings.headerType = .h4E then FX5_TCP_REQUEST_SUBHEADER_4E_BINARY
      else FX5_TCP_REQUEST_SUBHEADER_3E_BINARY := by
  split
  · rename_i h4
    have hfront : requestBytes ctx = pduWrU16Le FX5_TCP_REQUEST_SUBHEADER_4E_BINARY ++
        (requestBytes ctx).drop 2 := by
      rw [requestBytes, wireHeaderBytes, subheaderBytes, if_pos h4]
      rfl
    rw [hfront]
    exact le16At_pduWrU16Le (by decide) _
  · rename_i h4
    have hfront : requestBytes ctx = pduWrU16Le FX5_TCP_REQUEST_SUBHEADER_3E_BINARY ++
        (requestBytes ctx).drop 2 := by
      rw [requestBytes, wireHeaderBytes, subheaderBytes, if_neg h4]
      rfl
    rw [hfront]
    exact le16At_pduWrU16Le (by decide) _

/-! ## The builders -/

theorem Context.Inv.sent (hinv : ctx.Inv cfg) : ctx.sent.Inv cfg := by
  unfold Context.sent
  split
  · exact { hinv with serial := hinv.nextSerial, nextSerial := u16_lt _ }
  · exact { hinv with serial := (by decide : 0 < 65536) }

theorem pduBytes_sent (ctx : Context) : pduBytes ctx.sent = pduBytes ctx := by
  unfold Context.sent
  split <;> rfl

theorem isSupportedCommand_cases {command : Command} (h : isSupportedCommand command = true) :
    command = .batchRead ∨ command = .batchWrite := by
  cases command with
  | batchRead => exact Or.inl rfl
  | batchWrite => exact Or.inr rfl
  | other code hcode => cases h

theorem command_sent (ctx : Context) : ctx.sent.command = ctx.command := by
  unfold Context.sent
  split <;> rfl

theorem Context.sent_rxCbuffer (ctx : Context) : ctx.sent.rxCbuffer = ctx.rxCbuffer := by
  unfold Context.sent
  split <;> rfl

theorem Context.sent_inUse (ctx : Context) : ctx.sent.inUse = ctx.inUse := by
  unfold Context.sent
  split <;> rfl

/-- Both header builders: the header is stored, and the serial number is fixed. -/
theorem buildWireHeader_spec {out : List Byte} {base bufferSize pduSize : Nat}
    (hroom : getRequestHeaderSize ctx.networkSettings.headerType ≤ bufferSize) :
    buildWireHeader ctx out base bufferSize pduSize =
      (storeMany out base (wireHeaderBytes ctx.networkSettings ctx.nextSerial pduSize)).map
        fun out => (.ok, ctx.sent, out, getRequestHeaderSize ctx.networkSettings.headerType) := by
  unfold getRequestHeaderSize at hroom ⊢
  unfold buildWireHeader Context.sent wireHeaderBytes subheaderBytes
  by_cases h4 : ctx.networkSettings.headerType = .h4E
  · simp only [h4, if_true] at hroom ⊢
    rw [buildWireHeader4E, if_neg (by omega), Option.map_eq_bind]
    rfl
  · simp only [h4, if_false] at hroom ⊢
    rw [buildWireHeader3E, if_neg (by omega), Option.map_eq_bind]
    rfl

theorem buildPduAccessPrefix_spec {out : List Byte} {base bufferSize : Nat}
    (hroom : FX5_REQ_PDU_HEADER_SIZE ≤ bufferSize) :
    buildPduAccessPrefix ctx (subCommandOf ctx.device) out base bufferSize =
      (storeMany out base (accessPrefixBytes ctx)).map
        fun out => (.ok, out, FX5_REQ_PDU_HEADER_SIZE) := by
  rw [buildPduAccessPrefix, if_neg (by omega), Option.map_eq_bind]
  rfl

theorem packBitsToNibbles_spec {values : List Word} {count : Nat}
    (hcount : count ≤ 16 * values.length) (hfit : count < 65536) {out : List Byte}
    {base bufferSize : Nat} (hroom : (count + 1) / 2 ≤ bufferSize) :
    packBitsToNibbles values count out base bufferSize =
      (storeMany out base (packPairs (bitValues values count))).map
        fun out => (some (packPairs (bitValues values count)).length, out) := by
  have hlen : (packPairs (bitValues values count)).length = (count + 1) / 2 := by
    rw [packPairs_length, bitValues_length]
  unfold packBitsToNibbles
  rw [packBitsLoop_spec hcount hfit, List.drop_zero, u16_of_lt (by omega)]
  simp only [Option.bind_eq_bind, Option.bind_some, Option.map_eq_bind]
  rw [if_neg (by omega), u16_of_lt (by omega)]
  rfl

/-- The write builder stores the access prefix and the payload behind it. -/
theorem buildPduWriteRequest_spec (hinv : ctx.Inv cfg) {out : List Byte} {base bufferSize : Nat}
    (hroom : FX5_REQ_PDU_HEADER_SIZE + (writePayload ctx).length ≤ bufferSize)
    (hfit : bufferSize < 65536)
    (hout : base + (FX5_REQ_PDU_HEADER_SIZE + (writePayload ctx).length) ≤ out.length) :
    buildPduWriteRequest ctx out base bufferSize =
      (storeMany out base (accessPrefixBytes ctx ++ writePayload ctx)).map
        fun out => (.ok, out, FX5_REQ_PDU_HEADER_SIZE + (writePayload ctx).length) := by
  have h10 : FX5_REQ_PDU_HEADER_SIZE = 10 := rfl
  have hprefix : (accessPrefixBytes ctx).length = FX5_REQ_PDU_HEADER_SIZE := rfl
  obtain ⟨out₁, hout₁⟩ : ∃ out₁, storeMany out base (accessPrefixBytes ctx) = some out₁ :=
    ⟨_, storeMany_of_le (by omega)⟩
  have hblock : (storeMany out base (accessPrefixBytes ctx)).bind
      (fun out => storeMany out (base + (accessPrefixBytes ctx).length) (writePayload ctx)) =
      storeMany out base (accessPrefixBytes ctx ++ writePayload ctx) :=
    storeMany_append (by omega)
  rw [hout₁, Option.bind_some, hprefix] at hblock
  unfold buildPduWriteRequest
  simp only
  rw [getWritePayloadSize_eq hinv, u16_of_lt (by omega), if_neg (by omega),
    buildPduAccessPrefix_spec (by omega), hout₁, ← hblock]
  simp only [Option.map_some, Option.bind_eq_bind, Option.bind_some, ne_eq, not_true_eq_false,
    if_false]
  split
  · rename_i hdevice
    have hpayload : writePayload ctx = packPairs (bitValues ctx.values ctx.count) := if_pos hdevice
    have hlen : (writePayload ctx).length = (ctx.count + 1) / 2 := by
      rw [hpayload, packPairs_length, bitValues_length]
    rw [u16_of_lt (by omega), packBitsToNibbles_spec hinv.count_le_slots hinv.count_lt (by omega),
      ← hpayload]
    cases storeMany out₁ (base + FX5_REQ_PDU_HEADER_SIZE) (writePayload ctx) with
    | none => rfl
    | some out₂ =>
      simp only [Option.map_some, Option.bind_some]
      rw [u16_of_lt (by omega)]
  · rename_i hdevice
    have hpayload : writePayload ctx = wordBytes (ctx.values.take ctx.count) := if_neg hdevice
    rw [wordsLoop_spec (hinv.word_count_le (by simpa using hdevice)), Option.bind_some, ← hpayload,
      Option.map_eq_bind, u16_of_lt (by omega)]
    rfl

/-! ## The whole function -/

/-- A context that `fx5_validate_request` accepts. -/
def Context.Valid (cfg : Config) (ctx : Context) : Prop := validateRequest cfg ctx = .ok

theorem validateRequest_ne_internal : validateRequest cfg ctx ≠ .errInternal := by
  unfold validateRequest
  repeat' split
  all_goals decide

/-- **A valid request with room in the output buffer is written as `requestBytes`**, and
nothing behind it is touched. -/
theorem buildRequest_spec (hinv : ctx.Inv cfg) (huse : ctx.inUse = true) (hvalid : ctx.Valid cfg)
    {outBuf : List Byte} {outBufSize : Word} (hout : outBufSize.toNat ≤ outBuf.length)
    (hroom : (requestBytes ctx).length ≤ outBufSize.toNat) (actualSize : Nat) :
    buildRequest cfg ctx outBuf outBufSize actualSize =
      some ⟨.ok, ctx.sent, requestBytes ctx ++ outBuf.drop (requestBytes ctx).length,
        (requestBytes ctx).length⟩ := by
  have hlt := outBufSize.isLt
  have hsize := (requestBytes_length hinv).1
  have h10 : FX5_REQ_PDU_HEADER_SIZE = 10 := rfl
  have hheader := wireHeaderBytes_length ctx.networkSettings ctx.nextSerial (pduBytes ctx).length
  have hlen : (requestBytes ctx).length = getRequestHeaderSize ctx.networkSettings.headerType +
      (pduBytes ctx).length := by rw [requestBytes, List.length_append, hheader]
  have hpdu := pduBytes_length ctx
  obtain ⟨out₁, hout₁⟩ : ∃ out₁, storeMany outBuf 0
      (wireHeaderBytes ctx.networkSettings ctx.nextSerial (pduBytes ctx).length) = some out₁ :=
    ⟨_, storeMany_of_le (by omega)⟩
  have hlen₁ := storeMany_length hout₁
  have hblock : (storeMany outBuf 0
      (wireHeaderBytes ctx.networkSettings ctx.nextSerial (pduBytes ctx).length)).bind
      (fun out => storeMany out (0 + (wireHeaderBytes ctx.networkSettings ctx.nextSerial
        (pduBytes ctx).length).length) (pduBytes ctx)) =
      storeMany outBuf 0 (requestBytes ctx) := storeMany_append (by omega)
  rw [hout₁, Option.bind_some, hheader, Nat.zero_add] at hblock
  have hpduSize : u16 (getRequiredRequestSize ctx -
      getRequestHeaderSize ctx.networkSettings.headerType) = (pduBytes ctx).length := by
    rw [hsize, u16_of_lt (by omega)]
    omega
  -- both PDU builders store `pduBytes` behind the header
  have hbuild : buildPduRequest ctx.sent out₁
      (getRequestHeaderSize ctx.networkSettings.headerType)
      (u16 (outBufSize.toNat - getRequestHeaderSize ctx.networkSettings.headerType)) =
      some (.ok, requestBytes ctx ++ outBuf.drop (requestBytes ctx).length,
        (pduBytes ctx).length) := by
    have hsent := pduBytes_sent ctx
    have hcommand := command_sent ctx
    have hstored : storeMany outBuf 0 (requestBytes ctx) =
        some (requestBytes ctx ++ outBuf.drop (requestBytes ctx).length) := by
      rw [storeMany_of_le (by omega), List.take_zero, List.nil_append, Nat.zero_add]
    rw [u16_of_lt (by omega), buildPduRequest]
    rcases isSupportedCommand_cases hinv.command with hread | hwrite
    · have hbytes : accessPrefixBytes ctx.sent = pduBytes ctx := by
        rw [← hsent, pduBytes, hcommand, hread, if_neg (by decide), List.append_nil]
      rw [hread, if_neg (by decide)] at hpdu
      rw [hcommand, if_pos hread, buildPduReadRequest, buildPduAccessPrefix_spec (by omega), hbytes,
        hblock, hstored, hpdu]
      rfl
    · have hbytes : accessPrefixBytes ctx.sent ++ writePayload ctx.sent = pduBytes ctx := by
        rw [← hsent, pduBytes, hcommand, if_pos hwrite]
      have hlenPdu := congrArg List.length hbytes
      rw [List.length_append, accessPrefixBytes_length] at hlenPdu
      rw [hcommand, if_neg (by rw [hwrite]; decide),
        buildPduWriteRequest_spec hinv.sent (by omega) (by omega) (by omega), hbytes, hblock,
        hstored, hlenPdu]
      rfl
  have hheaderBuild : buildWireHeader ctx outBuf 0 outBufSize.toNat (pduBytes ctx).length = _ :=
    buildWireHeader_spec (by omega)
  rw [hout₁, Option.map_some] at hheaderBuild
  unfold buildRequest
  simp only [requireAcquired, huse, if_true]
  rw [hvalid]
  simp only
  rw [hpduSize, hsize, if_neg (by omega), hheaderBuild]
  simp only [Option.bind_eq_bind, Option.bind_some, ne_eq, not_true_eq_false, if_false]
  rw [hbuild]
  simp only [Option.bind_some, not_true_eq_false, if_false]
  rw [u16_of_lt (by omega), ← hlen]
  simp only [not_true_eq_false, if_false]

/-- **The three exits of a call**: validation, the size test, and success. -/
theorem buildRequest_cases (hinv : ctx.Inv cfg) (huse : ctx.inUse = true) {outBuf : List Byte}
    {outBufSize : Word} (hout : outBufSize.toNat ≤ outBuf.length) (actualSize : Nat) :
    (¬ ctx.Valid cfg ∧ buildRequest cfg ctx outBuf outBufSize actualSize =
      some ⟨validateRequest cfg ctx, ctx, outBuf, actualSize⟩) ∨
    (ctx.Valid cfg ∧ outBufSize.toNat < (requestBytes ctx).length ∧
      buildRequest cfg ctx outBuf outBufSize actualSize =
        some ⟨.errTooSmall, ctx, outBuf, (requestBytes ctx).length⟩) ∨
    (ctx.Valid cfg ∧ (requestBytes ctx).length ≤ outBufSize.toNat ∧
      buildRequest cfg ctx outBuf outBufSize actualSize =
        some ⟨.ok, ctx.sent, requestBytes ctx ++ outBuf.drop (requestBytes ctx).length,
          (requestBytes ctx).length⟩) := by
  have hrequired := (requestBytes_length hinv).1
  by_cases hvalid : ctx.Valid cfg
  · rcases Nat.lt_or_ge outBufSize.toNat (requestBytes ctx).length with hsmall | hroom
    · refine Or.inr (Or.inl ⟨hvalid, hsmall, ?_⟩)
      unfold buildRequest
      simp only [requireAcquired, huse, if_true]
      rw [hvalid]
      simp only
      rw [hrequired, if_pos hsmall]
    · exact Or.inr (Or.inr ⟨hvalid, hroom, buildRequest_spec hinv huse hvalid hout hroom _⟩)
  · refine Or.inl ⟨hvalid, ?_⟩
    unfold buildRequest
    simp only [requireAcquired, huse, if_true]
    split
    · rename_i hok
      exact absurd hok hvalid
    · rfl

end Build

end Fx5
