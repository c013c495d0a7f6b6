import Fx5Slmp.FrameBoundary

/-!
# Well-formed responses and their decoding

`responseFrame` is the byte string of a 3E or 4E response with any routing bytes, end code and
payload; `responseFrame_isFrame` says that the header stage accepts it whenever its length
fits the receive buffer.

`response_decoded_exactly` is the round trip: a response that carries the requested values is
accepted, and the getters return these values and nothing beyond them.
-/

set_option autoImplicit false

namespace Fx5

open PackedBits

/-! ## Frames -/

/-- The bytes between the subheader and the length field that the parser does not read; the
first two exist in 4E frames only. -/
structure Routing where
  reserved0 : Byte
  reserved1 : Byte
  networkNo : Byte
  pcNo : Byte
  moduleIoLow : Byte
  moduleIoHigh : Byte
  stationNo : Byte
  deriving DecidableEq

/-- The routing bytes of a response to the default settings. -/
def Routing.default : Routing := ⟨0x00, 0x00, 0x00, 0xFF, 0xFF, 0x03, 0x00⟩

def responseHeader (headerType : HeaderType) (serial : Nat) (r : Routing) (packetSize : Nat) :
    List Byte :=
  (if headerType = .h4E then
    pduWrU16Le FX5_TCP_RESPONSE_SUBHEADER_4E_BINARY ++ pduWrU16Le serial ++
      [r.reserved0, r.reserved1]
  else pduWrU16Le FX5_TCP_RESPONSE_SUBHEADER_3E_BINARY) ++
  [r.networkNo, r.pcNo, r.moduleIoLow, r.moduleIoHigh, r.stationNo] ++ pduWrU16Le packetSize

/-- A response frame. -/
def responseFrame (headerType : HeaderType) (serial : Nat) (r : Routing) (endCode : Nat)
    (payload : List Byte) : List Byte :=
  responseHeader headerType serial r (FX5_RESP_PDU_HEADER_SIZE + payload.length) ++
    (pduWrU16Le endCode ++ payload)

section Frames

variable {headerType : HeaderType} {serial : Nat} {r : Routing} {endCode : Nat}
  {payload : List Byte}

theorem responseHeader_length (headerType : HeaderType) (serial : Nat) (r : Routing)
    (packetSize : Nat) :
    (responseHeader headerType serial r packetSize).length = getResponseHeaderSize headerType := by
  unfold responseHeader getResponseHeaderSize
  split <;> rfl

theorem responseFrame_length :
    (responseFrame headerType serial r endCode payload).length =
      getResponseHeaderSize headerType + (FX5_RESP_PDU_HEADER_SIZE + payload.length) := by
  rw [responseFrame, List.length_append, responseHeader_length, List.length_append,
    pduWrU16Le_length]
  rfl

theorem responseFrame_magic (ht : HeaderAccepted headerType) :
    magicOf (responseFrame headerType serial r endCode payload) = headerType := by
  rcases ht with rfl | rfl <;> rfl

theorem responseFrame_packetSize (ht : HeaderAccepted headerType)
    (hsize : FX5_RESP_PDU_HEADER_SIZE + payload.length < 65536) :
    packetSizeOf (responseFrame headerType serial r endCode payload) =
      FX5_RESP_PDU_HEADER_SIZE + payload.length := by
  have hfield := le16At_pduWrU16Le hsize (pduWrU16Le endCode ++ payload)
  rw [packetSizeOf, responseFrame_magic ht, ← hfield]
  rcases ht with rfl | rfl
  · exact (le16At_drop (responseFrame .h3E serial r endCode payload) 7 0).symm
  · exact (le16At_drop (responseFrame .h4E serial r endCode payload) 11 0).symm

theorem responseFrame_serial (hserial : serial < 65536) :
    le16At (responseFrame .h4E serial r endCode payload) FX5_SERIAL_OFFSET_4E = serial := by
  have hfield := le16At_pduWrU16Le hserial
    ((responseFrame .h4E serial r endCode payload).drop 4)
  exact ((le16At_drop (responseFrame .h4E serial r endCode payload) 2 0).symm).trans hfield

/-- The header stage accepts a well-formed response whose length fits. -/
theorem responseFrame_isFrame {cfg : Config} (ht : HeaderAccepted headerType)
    (hserial : serial < 65536)
    (hsize : FX5_RESP_PDU_HEADER_SIZE + payload.length ≤ FX5_IOBUF_SIZE cfg) :
    IsFrame cfg serial (responseFrame headerType serial r endCode payload) := by
  have hbounds := (iobufSize_bounds cfg).2
  have hmagic : magicOf (responseFrame headerType serial r endCode payload) = headerType :=
    responseFrame_magic ht
  have hpacket : packetSizeOf (responseFrame headerType serial r endCode payload) = _ :=
    responseFrame_packetSize ht (by omega)
  have hlen : (responseFrame headerType serial r endCode payload).length = _ :=
    responseFrame_length
  refine ⟨⟨?_, ?_, ?_, ?_, ?_⟩, ?_⟩
  · rw [hmagic]
    rcases ht with rfl | rfl <;> decide
  · rw [hmagic, hlen]
    omega
  · rw [hpacket]
    omega
  · rw [hpacket]
    exact hsize
  · intro h4
    rw [hmagic] at h4
    subst h4
    exact responseFrame_serial hserial
  · rw [frameSizeOf, hmagic, hpacket, hlen]

theorem responseFrame_packet (ht : HeaderAccepted headerType)
    (hsize : FX5_RESP_PDU_HEADER_SIZE + payload.length < 65536) :
    packetOf (responseFrame headerType serial r endCode payload) =
      pduWrU16Le endCode ++ payload := by
  rw [packetOf, responseFrame_magic ht, responseFrame_packetSize ht hsize, responseFrame,
    List.drop_left' (responseHeader_length _ _ _ _), List.take_of_length_le]
  rw [List.length_append, pduWrU16Le_length]
  exact Nat.le_refl _

end Frames

/-! ## Values on the wire -/

/-- A list of values: 16-bit words, or single bits. -/
inductive Payload where
  | words (vs : List Word)
  | bits (bs : List Bool)
  deriving DecidableEq

/-- Words are sent in little-endian order, bits one to a nibble. -/
def Payload.encode : Payload → List Byte
  | .words vs => wordBytes vs
  | .bits bs => packPairs bs

/-- The values are `count` values of the class of `device`. -/
def Payload.Matches (device : Device) (count : Nat) : Payload → Prop
  | .words vs => isBitDevice device = false ∧ vs.length = count
  | .bits bs => isBitDevice device = true ∧ bs.length = count

instance (device : Device) (count : Nat) (v : Payload) : Decidable (v.Matches device count) :=
  match v with
  | .words _ | .bits _ => inferInstanceAs (Decidable (_ ∧ _))

/-- The value a getter returns for index `i`. -/
def Payload.value (i : Nat) : Payload → Word
  | .words vs => vs.getD i 0
  | .bits bs => if bs.getD i false then FX5_BIT_TRUE else FX5_BIT_FALSE

theorem wordsAt_wordBytes (vs : List Word) : wordsAt (wordBytes vs) vs.length = vs := by
  induction vs with
  | nil => rfl
  | cons v vs ih =>
    have hv := v.isLt
    have hcons : wordBytes (v :: vs) = pduWrU16Le v.toNat ++ wordBytes vs := rfl
    have hhead : le16At (wordBytes (v :: vs)) 0 = v.toNat := by
      rw [hcons]
      exact le16At_pduWrU16Le (by omega) _
    have htail : ∀ i, le16At (wordBytes (v :: vs)) (2 * (i + 1)) = le16At (wordBytes vs) (2 * i) := by
      intro i
      rw [Nat.mul_add, Nat.add_comm, ← le16At_drop]
      rfl
    have hrest : (List.range vs.length).map
        (fun i => BitVec.ofNat 16 (le16At (wordBytes (v :: vs)) (2 * (i + 1)))) = vs := by
      rw [← List.map_congr_left (fun i _ => congrArg (BitVec.ofNat 16) (htail i).symm)]
      exact ih
    rw [wordsAt, List.length_cons, List.range_succ_eq_map, List.map_cons, List.map_map,
      Nat.mul_zero, hhead, BitVec.ofNat_toNat, BitVec.setWidth_eq]
    exact congrArg (v :: ·) hrest

theorem bitsAt_packPairs (bs : List Bool) : bitsAt (packPairs bs) bs.length = bs :=
  unpackPairs_packPairs bs

theorem pduResult_responsePacket (ctx : Context) {endCode : Nat} (h : endCode < 65536)
    (payload : List Byte) :
    pduResult ctx (pduWrU16Le endCode ++ payload) =
      let r := payloadResult { ctx with responseCode := endCode } payload
      { r with consumed := FX5_RESP_PDU_HEADER_SIZE + r.consumed } := by
  have hdrop : (pduWrU16Le endCode ++ payload).drop FX5_RESP_PDU_HEADER_SIZE = payload :=
    List.drop_left' rfl
  rw [pduResult, le16At_pduWrU16Le h, hdrop]

/-- Value `i` of the payload of a response to a read of `count` values. -/
def payloadValue (device : Device) (count : Nat) (p : List Byte) (i : Nat) : Word :=
  if isBitDevice device then
    if (bitsAt p count).getD i false then FX5_BIT_TRUE else FX5_BIT_FALSE
  else (wordsAt p count).getD i 0

/-- The payload length that a read of `count` values expects. -/
def readPayloadLength (device : Device) (count : Nat) : Nat :=
  if isBitDevice device then (count + 1) / 2 else 2 * count

/-- A read payload is accepted exactly when it has the expected length. -/
theorem payloadResult_status_iff {ctx : Context} (hread : ctx.command = .batchRead)
    (hcode : ctx.responseCode = FX5_RESPONSE_OK) {p : List Byte} :
    (payloadResult ctx p).status = .ok ↔
      ctx.count ≠ 0 ∧ p.length = readPayloadLength ctx.device ctx.count := by
  unfold payloadResult readPayloadLength
  rw [if_neg (fun h => h hcode), if_neg (by rw [hread]; decide)]
  cases hdevice : isBitDevice ctx.device with
  | true =>
    rw [if_pos rfl, if_pos rfl, bitPayloadResult]
    split
    · rename_i h
      exact ⟨nofun, fun hok => absurd h (by omega)⟩
    · exact ⟨fun _ => by omega, fun _ => rfl⟩
  | false =>
    rw [if_neg (by decide), if_neg (by decide), wordPayloadResult]
    split
    · exact ⟨nofun, fun hok => by omega⟩
    split
    · rename_i h
      exact ⟨nofun, fun hok => absurd h (by omega)⟩
    · exact ⟨fun _ => by omega, fun _ => rfl⟩

/-- Every exit of the payload stage keeps the end code. -/
theorem payloadResult_code (ctx : Context) (p : List Byte) :
    (payloadResult ctx p).responseCode = ctx.responseCode := by
  unfold payloadResult bitPayloadResult wordPayloadResult PduResult.reject
  split
  · rfl
  · split
    · split <;> rfl
    · split
      · split <;> rfl
      · split
        · rfl
        · split <;> rfl

theorem pduResult_code (ctx : Context) (packet : List Byte) :
    (pduResult ctx packet).responseCode = le16At packet 0 :=
  payloadResult_code { ctx with responseCode := le16At packet 0 } _

/-- A response error is reported exactly for a nonzero end code. -/
theorem payloadResult_responseError {ctx : Context} {p : List Byte} :
    (payloadResult ctx p).status = .responseError ↔ ctx.responseCode ≠ FX5_RESPONSE_OK := by
  constructor
  · intro h hcode
    unfold payloadResult bitPayloadResult wordPayloadResult PduResult.reject at h
    rw [if_neg (fun hne => hne hcode)] at h
    repeat' split at h
    all_goals cases h
  · intro hcode
    rw [payloadResult, if_pos hcode]

theorem pduResult_responseError {ctx : Context} {packet : List Byte} :
    (pduResult ctx packet).status = .responseError ↔ le16At packet 0 ≠ FX5_RESPONSE_OK :=
  payloadResult_responseError

/-- **The values of an accepted read payload** are stored, and the count is kept. -/
theorem payloadResult_ok {cfg : Config} {ctx : Context} (hinv : ctx.Inv cfg)
    (hread : ctx.command = .batchRead) (hcode : ctx.responseCode = FX5_RESPONSE_OK)
    {p : List Byte} (hok : (payloadResult ctx p).status = .ok) :
    ∃ values, payloadResult ctx p = ⟨.ok, FX5_RESPONSE_OK, ctx.count, values, p.length⟩ ∧
      ∀ i, i < ctx.count → valueAt ctx.device values i = payloadValue ctx.device ctx.count p i := by
  obtain ⟨hcount, hlen⟩ := (payloadResult_status_iff hread hcode).mp hok
  unfold readPayloadLength at hlen
  unfold payloadResult payloadValue
  rw [if_neg (fun h => h hcode), if_neg (by rw [hread]; decide)]
  cases hdevice : isBitDevice ctx.device with
  | true =>
    have hslots := hinv.count_le_slots
    rw [if_pos hdevice] at hlen
    rw [if_pos rfl, bitPayloadResult, if_neg (by omega), hcode]
    refine ⟨_, rfl, ?_⟩
    intro i hi
    have hbits : (bitsAt p ctx.count).length = ctx.count := by
      rw [bitsAt, List.length_take, unpackPairs_length]
      omega
    have hstored : bitAt (storeBits ctx.values 0 (bitsAt p ctx.count)) i = _ :=
      bitAt_storeBits (by decide) (by omega) i
    rw [Nat.zero_add, if_pos (by omega), Nat.sub_zero] at hstored
    rw [valueAt, if_pos hdevice, if_pos rfl, hstored]
  | false =>
    rw [if_neg (by simp [hdevice])] at hlen
    rw [if_neg (by decide), wordPayloadResult, if_neg (by omega), if_neg (by omega), hcode]
    refine ⟨_, rfl, ?_⟩
    intro i hi
    rw [valueAt, if_neg (by simp [hdevice]), if_neg (by decide),
      List.getD_append _ _ _ _ (by rw [wordsAt_length]; exact hi)]

/-- The encoding of matching values is a payload with these values. -/
theorem payloadValue_encode {device : Device} {count : Nat} {v : Payload}
    (hv : v.Matches device count) :
    v.encode.length = readPayloadLength device count ∧
      ∀ i, payloadValue device count v.encode i = v.value i := by
  unfold payloadValue readPayloadLength
  cases v with
  | words vs =>
    obtain ⟨hdevice, rfl⟩ := hv
    rw [if_neg (by simp [hdevice]), Payload.encode, wordBytes_length, wordsAt_wordBytes]
    exact ⟨rfl, fun i => if_neg (by simp [hdevice])⟩
  | bits bs =>
    obtain ⟨hdevice, rfl⟩ := hv
    rw [if_pos hdevice, Payload.encode, packPairs_length, bitsAt_packPairs]
    exact ⟨rfl, fun i => if_pos hdevice⟩

/-! ## The round trip -/

/-- A call on a buffer that starts with a matching successful response returns OK with its
values, and leaves what follows it. -/
theorem parseResponse_values {cfg : Config} {ctx : Context} (hinv : ctx.Inv cfg)
    (huse : ctx.inUse = true) {headerType : HeaderType} (ht : HeaderAccepted headerType)
    {r : Routing} {v : Payload} (hread : ctx.command = .batchRead) (hcount : ctx.count ≠ 0)
    (hv : v.Matches ctx.device ctx.count)
    (hsize : FX5_RESP_PDU_HEADER_SIZE + v.encode.length ≤ FX5_IOBUF_SIZE cfg) {t : List Byte}
    (hcont : ctx.rxCbuffer.contents =
      responseFrame headerType ctx.serial r FX5_RESPONSE_OK v.encode ++ t) :
    ∃ ctx', parseResponse cfg ctx = some (.ok, ctx') ∧ ctx'.rxCbuffer.contents = t ∧
      ctx'.device = ctx.device ∧ ctx'.count = ctx.count ∧ ctx'.responseCode = FX5_RESPONSE_OK ∧
      ∀ i, i < ctx.count → valueAt ctx'.device ctx'.values i = v.value i := by
  have hbounds := (iobufSize_bounds cfg).2
  have hF : IsFrame cfg ctx.serial
      (responseFrame headerType ctx.serial r FX5_RESPONSE_OK v.encode) :=
    responseFrame_isFrame ht hinv.serial hsize
  have hpacket : packetOf (responseFrame headerType ctx.serial r FX5_RESPONSE_OK v.encode) = _ :=
    responseFrame_packet ht (by omega)
  obtain ⟨hres, hleft⟩ := parseResponse_frame hinv huse hF hcont
  have hinv' : { ctx with responseCode := FX5_RESPONSE_OK : Context }.Inv cfg := { hinv with }
  obtain ⟨hlen, hencode⟩ := payloadValue_encode hv
  have hread' : { ctx with responseCode := FX5_RESPONSE_OK : Context }.command = .batchRead := hread
  have hok := (payloadResult_status_iff hread' rfl).mpr ⟨hcount, hlen⟩
  obtain ⟨values, hpayload, hvalues⟩ := payloadResult_ok hinv' hread rfl hok
  rw [hpacket, pduResult_responsePacket ctx (by decide), hpayload] at hres hleft
  refine ⟨_, hres, ?_, rfl, rfl, rfl, fun i hi => (hvalues i hi).trans (hencode i)⟩
  rw [hleft, responseFrame_magic ht]
  exact List.drop_left' responseFrame_length

/-- The getters return the values of `v`, and nothing beyond them. -/
def Shows (cfg : Config) (ctx : Context) (count : Nat) (v : Payload) : Prop :=
  getResponseCode ctx = 0 ∧ getResponseCount ctx = count ∧
    ∀ i : Word, getResponseValue cfg ctx i =
      if i.toNat < count then some (.ok, some (v.value i.toNat)) else some (.errInvalidIndex, none)

/-- The same in terms of the getters; the counter of skipped bytes does not matter to them. -/
theorem parseResponse_shows {cfg : Config} {ctx : Context} (hinv : ctx.Inv cfg)
    (huse : ctx.inUse = true) {headerType : HeaderType} (ht : HeaderAccepted headerType)
    {r : Routing} {v : Payload} (hread : ctx.command = .batchRead) (hcount : ctx.count ≠ 0)
    (hv : v.Matches ctx.device ctx.count)
    (hsize : FX5_RESP_PDU_HEADER_SIZE + v.encode.length ≤ FX5_IOBUF_SIZE cfg) {t : List Byte}
    (hcont : ctx.rxCbuffer.contents =
      responseFrame headerType ctx.serial r FX5_RESPONSE_OK v.encode ++ t) :
    ∃ ctx', parseResponse cfg ctx = some (.ok, ctx') ∧ ctx'.rxCbuffer.contents = t ∧
      ∀ c, Shows cfg { ctx' with resyncCounter := c } ctx.count v := by
  obtain ⟨ctx', hparse, hleft, _, hcnt, hcode, hvalues⟩ :=
    parseResponse_values hinv huse ht hread hcount hv hsize hcont
  obtain ⟨status, ctx₁, hparse₁, hinv₁, huse₁, _⟩ := parseResponse_inv hinv huse
  rw [hparse] at hparse₁
  cases hparse₁
  refine ⟨ctx', hparse, hleft, ?_⟩
  intro c
  have hinv' : { ctx' with resyncCounter := c : Context }.Inv cfg := { hinv₁ with }
  have huse' : { ctx' with resyncCounter := c : Context }.inUse = true := huse₁
  refine ⟨?_, ?_, ?_⟩
  · simp [getResponseCode, isAcquired, huse₁, hcode, FX5_RESPONSE_OK]
  · simp [getResponseCount, isAcquired, huse₁, hcnt]
  · intro i
    rw [getResponseValue_spec hinv' huse']
    simp only [hcnt]
    split
    · rename_i hi
      rw [hvalues i.toNat hi]
    · rfl

/-- **Response decoding is complete and exact.**  After an accepted read request with an empty
receive buffer, at any position of the ring, a 3E response or a 4E response with the serial of
the context that carries the requested values is decoded to exactly these values, with any
bytes behind it. -/
theorem response_decoded_exactly {cfg : Config} {ctx₀ ctx₁ : Context} (hinv : ctx₀.Inv cfg)
    (huse : ctx₀.inUse = true) (hempty : ctx₀.rxCbuffer.contents = []) {device : Device}
    {address : BitVec 32} {count : Word}
    (hset : setRequest cfg ctx₀ .batchRead device address count = some (.ok, ctx₁))
    {headerType : HeaderType} (ht : HeaderAccepted headerType) {r : Routing} {v : Payload}
    (hv : v.Matches device count.toNat) {t data : List Byte}
    (hdata : data = responseFrame headerType ctx₁.serial r FX5_RESPONSE_OK v.encode ++ t)
    (hfit : data.length ≤ FX5_IOBUF_SIZE cfg) :
    ∃ ctx₂ ctx₃,
      feedResponseBytes cfg ctx₁ (some data) (BitVec.ofNat 16 data.length) = some (.ok, ctx₂) ∧
      parseResponse cfg ctx₂ = some (.ok, ctx₃) ∧
      getResponseCode ctx₃ = 0 ∧ getResponseCount ctx₃ = count.toNat ∧
      ∀ i : Word, getResponseValue cfg ctx₃ i =
        if i.toNat < count.toNat then some (.ok, some (v.value i.toNat))
        else some (.errInvalidIndex, none) := by
  obtain ⟨hacc, rfl⟩ : RequestAccepted cfg .batchRead device address count ∧
      ctx₁ = ctx₀.withRequest cfg .batchRead device address count := by
    rcases setRequest_cases hinv.values huse .batchRead device address count with
      ⟨status, hne, _, hres⟩ | ⟨hacc, hres⟩
    · rw [hres] at hset
      cases hset
      exact absurd rfl hne
    · rw [hres] at hset
      cases hset
      exact ⟨hacc, rfl⟩
  have hinv₁ := hinv.withRequest hacc
  obtain ⟨ctx₁, hctx₁⟩ : ∃ ctx₁, ctx₁ = ctx₀.withRequest cfg .batchRead device address count :=
    ⟨_, rfl⟩
  rw [← hctx₁] at hdata hinv₁ ⊢
  have hempty₁ : ctx₁.rxCbuffer.contents = [] := hctx₁ ▸ hempty
  have huse₁ : ctx₁.inUse = true := hctx₁ ▸ huse
  have hroom : ctx₁.rxCbuffer.contents.length + data.length ≤ FX5_IOBUF_SIZE cfg := by
    rw [hempty₁, List.length_nil, Nat.zero_add]
    exact hfit
  have hfeed := feed_fitting hinv₁ huse₁ hroom
  obtain ⟨hinv₂, hcont₂⟩ := hinv₁.received hroom
  rw [hempty₁, List.nil_append] at hcont₂
  have hlen := congrArg List.length hdata
  rw [List.length_append, responseFrame_length] at hlen
  have hctx₂ : (ctx₁.received data).command = .batchRead ∧
      (ctx₁.received data).device = device ∧ (ctx₁.received data).count = count.toNat := by
    rw [hctx₁]
    exact ⟨rfl, rfl, rfl⟩
  obtain ⟨hread₂, hdevice₂, hcount₂⟩ := hctx₂
  obtain ⟨ctx₃, hparse, _, hshows⟩ := parseResponse_shows hinv₂ huse₁ ht hread₂
    (by rw [hcount₂]; exact hacc.1) (by rw [hdevice₂, hcount₂]; exact hv) (by omega)
    (hcont₂.trans hdata)
  rw [hcount₂] at hshows
  exact ⟨_, ctx₃, hfeed, hparse, hshows ctx₃.resyncCounter⟩

/-- Forty bytes of garbage were received and discarded, so the next frame wraps around. -/
def wrappedContext : Context :=
  contextAfter .smallest
    [.acquire, .feedResponseBytes 0 (some (List.replicate 40 0xAA)) 40, .parseResponse 0]

/-- A 4E response with three bits, and a byte behind it. -/
def wrappedBytes : List Byte :=
  [0xD4, 0x00, 0x00, 0x00, 0x00, 0x00, 0x00, 0xFF, 0xFF, 0x03, 0x00, 0x04, 0x00, 0x00, 0x00, 0x10,
    0x10, 0xEE]

theorem wrapped_bit_response_decoded :
    ∃ ctx₁ ctx₂ ctx₃,
      setRequest .smallest wrappedContext .batchRead .M 16 3 = some (.ok, ctx₁) ∧
      feedResponseBytes .smallest ctx₁ (some wrappedBytes) 18 = some (.ok, ctx₂) ∧
      parseResponse .smallest ctx₂ = some (.ok, ctx₃) ∧
      getResponseValue .smallest ctx₃ 2 = some (.ok, some FX5_BIT_TRUE) := by
  have hctx : Acquired .smallest wrappedContext := acquired_contextAfter (by decide +kernel)
  obtain ⟨hinv, huse⟩ := acquired_inv hctx
  have hset : setRequest .smallest wrappedContext .batchRead .M 16 3 =
      some (.ok, wrappedContext.withRequest .smallest .batchRead .M 16 3) := by decide +kernel
  have hv : (Payload.bits [true, false, true]).Matches .M (3 : Word).toNat := by decide
  have hdata : wrappedBytes =
      responseFrame .h4E (wrappedContext.withRequest .smallest .batchRead .M 16 3).serial .default
        FX5_RESPONSE_OK (Payload.bits [true, false, true]).encode ++ [0xEE] := by decide +kernel
  obtain ⟨ctx₂, ctx₃, hfeed, hparse, _, _, hvalues⟩ :=
    response_decoded_exactly hinv huse (by decide +kernel) hset (Or.inr rfl) hv hdata
      (by decide +kernel)
  refine ⟨_, ctx₂, ctx₃, hset, hfeed, hparse, ?_⟩
  rw [hvalues 2]
  rfl

end Fx5
