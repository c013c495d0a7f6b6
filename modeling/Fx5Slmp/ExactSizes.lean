import Fx5Slmp.CheckedArithmetic
import Fx5Slmp.FaithfulParser
import Fx5Slmp.RequestDecoding

/-!
# The size arithmetic is exact

On every acquired context the checked functions are the functions of the library: no narrowing
of a size, a count or an index wraps, whatever the configuration and the received bytes.

* `Checked.buildRequest_exact`, `Checked.parseResponse_exact` — the two calls that compute with
  sizes;
* `size_arithmetic_exact` — these with the limits, the size of every request and the size of the
  response to every read.
-/

set_option autoImplicit false

namespace Fx5

open CheckedMem Instrumented

namespace Checked

/-! ## The limits -/

section Limits

variable (cfg : Config)

theorem maxBitValueCount_exact : maxBitValueCount cfg = some (FX5_MAX_BIT_VALUE_COUNT cfg) := by
  have := cfg.count_le
  rw [maxBitValueCount, fit_of_lt (by omega), FX5_MAX_BIT_VALUE_COUNT, u16_of_lt (by omega)]

theorem maxBitPayloadBytes_exact :
    maxBitPayloadBytes cfg = some (FX5_MAX_BIT_PAYLOAD_BYTES cfg) := by
  have := cfg.count_le
  have hcount := maxBitValueCount_eq cfg
  rw [maxBitPayloadBytes, maxBitValueCount_exact, FX5_MAX_BIT_PAYLOAD_BYTES, u16_of_lt (by omega)]
  exact fit_of_lt (by omega)

theorem iobufSize_exact : iobufSize cfg = some (FX5_IOBUF_SIZE cfg) := by
  have := cfg.count_le
  have hbytes := maxBitPayloadBytes_eq cfg
  have hsmall : FX5_REQ_TCP_HEADER_SIZE_4E + FX5_REQ_PDU_HEADER_SIZE +
      FX5_MAX_BIT_PAYLOAD_BYTES cfg + FX5_IOBUF_GUARD_BYTES < 65536 := by
    simp only [FX5_REQ_TCP_HEADER_SIZE_4E, FX5_REQ_PDU_HEADER_SIZE, FX5_IOBUF_GUARD_BYTES]
    omega
  rw [iobufSize, maxBitPayloadBytes_exact, FX5_IOBUF_SIZE, FX5_TX_MAX_PAYLOAD_BYTES,
    u16_of_lt hsmall]
  exact fit_of_lt hsmall

theorem maxRequestSize_exact : maxRequestSize cfg = some (FX5_MAX_REQUEST_SIZE cfg) := by
  have := cfg.count_le
  have hsize := maxRequestSize_eq cfg
  rw [maxRequestSize, maxBitPayloadBytes_exact]
  exact fit_of_lt (by rw [FX5_MAX_REQUEST_SIZE] at hsize; omega)

end Limits

/-! ## Requests -/

section Requests

variable {cfg : Config} {ctx : Context}

theorem getPackedBitValue_exact (values : List Word) {index : Nat} (h : index < 65536) :
    getPackedBitValue values index = Fx5.getPackedBitValue values index :=
  fit_bind (by omega) _

theorem getWritePayloadSize_exact (hinv : ctx.Inv cfg) :
    getWritePayloadSize ctx.device ctx.count =
      some (Fx5.getWritePayloadSize ctx.device ctx.count) := by
  have hcount := hinv.count_lt
  unfold getWritePayloadSize Fx5.getWritePayloadSize
  split
  · rw [fit_of_lt (by omega), u16_of_lt (by omega)]
  · rename_i hdevice
    have hword := hinv.word_count_le (by simpa using hdevice)
    have hvalues := hinv.values
    have hmax := cfg.count_le
    rw [fit_of_lt (by omega), u16_of_lt (by omega)]

theorem getRequiredRequestSize_exact (hinv : ctx.Inv cfg) :
    getRequiredRequestSize ctx = some (Fx5.getRequiredRequestSize ctx) := by
  have hheader := getRequestHeaderSize_le ctx.networkSettings.headerType
  have hpayload := writePayload_length_le hinv
  have hmax := cfg.count_le
  have h10 : FX5_REQ_PDU_HEADER_SIZE = 10 := rfl
  have h15 : FX5_REQ_TCP_HEADER_SIZE_4E = 15 := rfl
  unfold getRequiredRequestSize Fx5.getRequiredRequestSize
  simp only [Option.bind_eq_bind]
  rw [fit_bind (by omega), u16_of_lt (by omega), fit_bind (by omega), u16_of_lt (by omega)]
  split
  · rw [getWritePayloadSize_exact hinv, Option.bind_some, getWritePayloadSize_eq hinv,
      fit_of_lt (by omega), u16_of_lt (by omega)]
  · rfl

theorem buildWireHeader_exact (out : List Byte) (base bufferSize : Nat) {payloadSize : Nat}
    (hsize : payloadSize + 2 < 65536) :
    buildWireHeader ctx out base bufferSize payloadSize =
      Fx5.buildWireHeader ctx out base bufferSize payloadSize := by
  unfold buildWireHeader Fx5.buildWireHeader
  split
  · unfold buildWireHeader4E Fx5.buildWireHeader4E
    split
    · rfl
    · simp only [Option.bind_eq_bind]
      rw [fit_bind hsize]
      rfl
  · unfold buildWireHeader3E Fx5.buildWireHeader3E
    split
    · rfl
    · simp only [Option.bind_eq_bind]
      rw [fit_bind hsize]
      rfl

theorem buildPduAccessPrefix_exact (hinv : ctx.Inv cfg) (subCommand : Nat) (out : List Byte)
    (base bufferSize : Nat) :
    buildPduAccessPrefix ctx subCommand out base bufferSize =
      Fx5.buildPduAccessPrefix ctx subCommand out base bufferSize := by
  have hcode : ctx.command.code < 65536 := by
    rcases isSupportedCommand_cases hinv.command with h | h
    · rw [h]
      decide
    · rw [h]
      decide
  unfold buildPduAccessPrefix Fx5.buildPduAccessPrefix
  split
  · rfl
  · simp only [Option.bind_eq_bind]
    rw [fit_bind hcode]
    rfl

theorem packBitsLoop_exact (values : List Word) {count : Nat} (hcount : count < 65536) (k : Nat) :
    packBitsLoop values count k = Fx5.packBitsLoop values count k := by
  induction hn : count - k using Nat.strongRecOn generalizing k with
  | ind n ih =>
    rw [packBitsLoop, Fx5.packBitsLoop]
    split
    · rw [getPackedBitValue_exact values (by omega), ih (count - (k + 1)) (by omega) (k + 1) rfl]
      split
      · rw [getPackedBitValue_exact values (by omega), ih (count - (k + 2)) (by omega) (k + 2) rfl]
      · rfl
    · rfl

theorem packBitsToNibbles_exact {values : List Word} {count : Nat}
    (hslots : count ≤ 16 * values.length) (hcount : count < 65536) (out : List Byte)
    (base bufferSize : Nat) :
    packBitsToNibbles values count out base bufferSize =
      Fx5.packBitsToNibbles values count out base bufferSize := by
  have hlen : ((PackedBits.packPairs (bitValues values count)).drop 0).length < 65536 := by
    rw [List.drop_zero, PackedBits.packPairs_length, bitValues_length]
    omega
  unfold packBitsToNibbles Fx5.packBitsToNibbles
  simp only [Option.bind_eq_bind]
  rw [fit_bind (by omega), packBitsLoop_exact values hcount]
  split
  · rfl
  · rw [packBitsLoop_spec hslots hcount]
    simp only [Option.bind_some]
    refine Option.bind_congr fun out _ => ?_
    rw [List.drop_zero] at hlen ⊢
    exact fit_bind hlen _

theorem buildPduWriteRequest_exact (hinv : ctx.Inv cfg) (out : List Byte) {base bufferSize : Nat}
    (hsize : bufferSize < 65536) :
    buildPduWriteRequest ctx out base bufferSize =
      Fx5.buildPduWriteRequest ctx out base bufferSize := by
  have hpayload := writePayload_length_le hinv
  have hmax := cfg.count_le
  have h10 : FX5_REQ_PDU_HEADER_SIZE = 10 := rfl
  unfold buildPduWriteRequest Fx5.buildPduWriteRequest
  simp only [Option.bind_eq_bind]
  rw [getWritePayloadSize_exact hinv, Option.bind_some, getWritePayloadSize_eq hinv,
    fit_bind (by omega), u16_of_lt (by omega), buildPduAccessPrefix_exact hinv]
  split
  · rfl
  rename_i hroom
  rw [buildPduAccessPrefix_spec (by omega)]
  refine Option.bind_congr fun result hresult => ?_
  obtain ⟨out₁, _, rfl⟩ := Option.map_eq_some_iff.mp hresult
  simp only [ne_eq, not_true_eq_false, if_false]
  split
  · -- the packed bits
    rename_i hdevice
    have hlen : (writePayload ctx).length = (ctx.count + 1) / 2 := by
      rw [writePayload, if_pos hdevice, PackedBits.packPairs_length, bitValues_length]
    rw [fitSub_bind (by omega) hsize, packBitsToNibbles_exact hinv.count_le_slots hinv.count_lt,
      u16_of_lt (by omega), packBitsToNibbles_spec hinv.count_le_slots hinv.count_lt (by omega)]
    refine Option.bind_congr fun packed hpacked => ?_
    obtain ⟨out₂, _, rfl⟩ := Option.map_eq_some_iff.mp hpacked
    refine fit_bind ?_ _
    rw [PackedBits.packPairs_length, bitValues_length]
    omega
  · -- the words
    rename_i hdevice
    have hlen : (wordBytes (ctx.values.take ctx.count)).length = (writePayload ctx).length := by
      rw [writePayload, if_neg hdevice]
    rw [wordsLoop_spec (hinv.word_count_le (by simpa using hdevice)), Option.bind_some,
      Option.bind_some]
    refine Option.bind_congr fun out₂ _ => ?_
    exact fit_bind (by omega) _

theorem buildPduRequest_exact (hinv : ctx.Inv cfg) (out : List Byte) {base bufferSize : Nat}
    (hsize : bufferSize < 65536) :
    buildPduRequest ctx out base bufferSize = Fx5.buildPduRequest ctx out base bufferSize := by
  unfold buildPduRequest Fx5.buildPduRequest
  split
  · exact buildPduAccessPrefix_exact hinv _ out base bufferSize
  · exact buildPduWriteRequest_exact hinv out hsize

/-- The size that the PDU builders report. -/
theorem buildPduRequest_size (hinv : ctx.Inv cfg) {out out' : List Byte} {base bufferSize : Nat}
    (hroom : (pduBytes ctx).length ≤ bufferSize) (hsize : bufferSize < 65536)
    (hout : base + (pduBytes ctx).length ≤ out.length) {status : Status} {size : Nat}
    (h : Fx5.buildPduRequest ctx out base bufferSize = some (status, out', size)) :
    size = (pduBytes ctx).length := by
  have hpdu := pduBytes_length ctx
  unfold Fx5.buildPduRequest at h
  rcases isSupportedCommand_cases hinv.command with hread | hwrite
  · rw [hread, if_neg (by decide)] at hpdu
    rw [if_pos hread, Fx5.buildPduReadRequest, buildPduAccessPrefix_spec (by omega)] at h
    obtain ⟨_, _, heq⟩ := Option.map_eq_some_iff.mp h
    cases heq
    exact hpdu.symm
  · rw [if_pos hwrite] at hpdu
    rw [if_neg (by rw [hwrite]; decide),
      buildPduWriteRequest_spec hinv (by omega) hsize (by omega)] at h
    obtain ⟨_, _, heq⟩ := Option.map_eq_some_iff.mp h
    cases heq
    exact hpdu.symm

/-- **No narrowing wraps while a request is built.** -/
theorem buildRequest_exact (hinv : ctx.Inv cfg) (huse : ctx.inUse = true) {outBuf : List Byte}
    {outBufSize : Word} (hout : outBufSize.toNat ≤ outBuf.length) (actualSize : Nat) :
    buildRequest cfg ctx outBuf outBufSize actualSize =
      Fx5.buildRequest cfg ctx outBuf outBufSize actualSize := by
  have hlt := outBufSize.isLt
  have hmax := cfg.count_le
  obtain ⟨hrequired, hlimit⟩ := requestBytes_length hinv
  rw [maxRequestSize_eq] at hlimit
  have hlen : (requestBytes ctx).length = getRequestHeaderSize ctx.networkSettings.headerType +
      (pduBytes ctx).length := by
    rw [requestBytes, List.length_append, wireHeaderBytes_length]
  have hheader := getRequestHeaderSize_le ctx.networkSettings.headerType
  have h15 : FX5_REQ_TCP_HEADER_SIZE_4E = 15 := rfl
  unfold buildRequest Fx5.buildRequest
  rw [requireAcquired_ok huse]
  simp only
  cases validateRequest cfg ctx with
  | ok =>
    simp only [Option.bind_eq_bind]
    rw [getRequiredRequestSize_exact hinv, Option.bind_some, hrequired]
    by_cases hroom : outBufSize.toNat < (requestBytes ctx).length
    · rw [if_pos hroom, if_pos hroom]
    rw [if_neg hroom, if_neg hroom]
    rw [fitSub_bind (by omega) (by omega), u16_of_lt (by omega),
      buildWireHeader_exact _ _ _ (by omega), buildWireHeader_spec (by omega)]
    refine Option.bind_congr fun result hresult => ?_
    obtain ⟨out₁, hout₁, rfl⟩ := Option.map_eq_some_iff.mp hresult
    have hlen₁ := storeMany_length hout₁
    simp only [ne_eq, not_true_eq_false, if_false]
    rw [fitSub_bind (by omega) (by omega), u16_of_lt (by omega),
      buildPduRequest_exact hinv.sent _ (by omega)]
    refine Option.bind_congr fun result hresult => ?_
    obtain ⟨status, out₂, size⟩ := result
    have hpdu := congrArg List.length (pduBytes_sent ctx)
    have hsize := buildPduRequest_size hinv.sent (by omega) (by omega) (by omega) hresult
    simp only
    split
    · rfl
    · rw [fit_bind (by omega)]
  | _ => rfl

end Requests

/-! ## Parsing -/

/-- Tail and index of a peek near the read position fit 16 bits together. -/
theorem ringbufPeek_exact {rb : RingBuf} (hinv : rb.Inv) {index : Nat} (hfit : rb.tail + index < 65536) :
    ringbufPeek rb index = Fx5.ringbufPeek rb index := by
  have htail := hinv.tail_lt
  have hcapacity := hinv.capacity_lt
  unfold ringbufPeek Fx5.ringbufPeek
  split
  · rfl
  · unfold ringbufOffsetIndex Fx5.ringbufOffsetIndex
    simp only [Option.bind_eq_bind]
    rw [fit_bind hfit, u16_of_lt hfit]
    split
    · rw [fitSub_bind (by omega) (by omega)]
    · rfl

theorem ops_faithful : ops.Faithful Reading.same where
  narrow h := (fit_of_lt h).trans (by rw [u16_of_lt h])
  narrowSub hle h := by
    rw [u16_of_lt (by omega)]
    exact (if_pos hle).trans (fit_of_lt (by omega))
  peek h _ hsmall := ringbufPeek_exact h.inv (h.tail_add hsmall)
  drop _ _ := rfl

/-- **No narrowing wraps while received bytes are parsed.** -/
theorem parseResponse_exact {cfg : Config} {ctx : Context} (hinv : ctx.Inv cfg) :
    parseResponse cfg ctx = Fx5.parseResponse cfg ctx :=
  ops_faithful.parseResponse (fun _ _ => rfl) hinv

end Checked

/-! ## The results -/

/-- The limits of a configuration, each equal to the exact number. -/
structure ExactLimits (cfg : Config) : Prop where
  bitValueCount : Checked.maxBitValueCount cfg = some (FX5_MAX_BIT_VALUE_COUNT cfg)
  bitPayloadBytes : Checked.maxBitPayloadBytes cfg = some (FX5_MAX_BIT_PAYLOAD_BYTES cfg)
  iobufSize : Checked.iobufSize cfg = some (FX5_IOBUF_SIZE cfg)
  maxRequestSize : Checked.maxRequestSize cfg = some (FX5_MAX_REQUEST_SIZE cfg)

/-- A valid request has at most `limit` bytes: the size that a build reports, and the number of
bytes that it stores if it succeeds. -/
def RequestWithin (limit : Nat) (cfg : Config) (ctx : Context) (outBuf : List Byte)
    (result : BuildResult) : Prop :=
  (validateRequest cfg ctx = .ok → result.actualSize ≤ limit) ∧
    (result.status = .ok →
      ∃ request, request.length = result.actualSize ∧ request.length ≤ limit ∧
        result.outBuf = request ++ outBuf.drop request.length)

/-- The sizes that the calls on a context compute with. -/
structure ExactSizes (cfg : Config) (ctx : Context) : Prop where
  requiredSize : Checked.getRequiredRequestSize ctx = some (getRequiredRequestSize ctx)
  /-- `out_buf` points to at least `out_buf_size` bytes. -/
  build : ∀ (outBuf : List Byte) (outBufSize : Word) (actualSize : Nat),
    outBufSize.toNat ≤ outBuf.length →
    ∃ result, Checked.buildRequest cfg ctx outBuf outBufSize actualSize = some result ∧
      buildRequest cfg ctx outBuf outBufSize actualSize = some result ∧
      RequestWithin (FX5_MAX_REQUEST_SIZE cfg) cfg ctx outBuf result
  parse : ∃ result, Checked.parseResponse cfg ctx = some result ∧
    parseResponse cfg ctx = some result
  /-- Every success response to an accepted read fits the receive buffer. -/
  response : ∀ (device : Device) (address : BitVec 32) (count : Word) (ctx' : Context),
    setRequest cfg ctx .batchRead device address count = some (.ok, ctx') →
    ∀ (headerType : HeaderType) (serial : Nat) (r : Routing) (payload : List Byte),
      HeaderAccepted headerType → payload.length = readPayloadLength device count.toNat →
      (responseFrame headerType serial r FX5_RESPONSE_OK payload).length ≤
        ctx'.rxCbuffer.capacity

theorem exactLimits (cfg : Config) : ExactLimits cfg where
  bitValueCount := Checked.maxBitValueCount_exact cfg
  bitPayloadBytes := Checked.maxBitPayloadBytes_exact cfg
  iobufSize := Checked.iobufSize_exact cfg
  maxRequestSize := Checked.maxRequestSize_exact cfg

section Results

variable {cfg : Config} {ctx : Context}

/-- **Every valid request** is at most `FX5_MAX_REQUEST_SIZE` bytes long. -/
theorem buildRequest_within (hinv : ctx.Inv cfg) (huse : ctx.inUse = true)
    {outBuf : List Byte} {outBufSize : Word} (hout : outBufSize.toNat ≤ outBuf.length)
    (actualSize : Nat) :
    ∃ result, buildRequest cfg ctx outBuf outBufSize actualSize = some result ∧
      RequestWithin (FX5_MAX_REQUEST_SIZE cfg) cfg ctx outBuf result := by
  have hlimit := (requestBytes_length hinv).2
  rcases buildRequest_cases hinv huse hout actualSize with
    ⟨hinvalid, hbuild⟩ | ⟨_, _, hbuild⟩ | ⟨_, _, hbuild⟩
  · exact ⟨_, hbuild, fun h => absurd h hinvalid, fun h => absurd h hinvalid⟩
  · exact ⟨_, hbuild, fun _ => hlimit, fun h => by cases h⟩
  · exact ⟨_, hbuild, fun _ => hlimit, fun _ => ⟨requestBytes ctx, rfl, hlimit, rfl⟩⟩

theorem readPayloadLength_le {device : Device} {count : Nat}
    (h : count ≤ getMaxValueCount cfg device) :
    readPayloadLength device count ≤ 8 * cfg.FX5_MAX_VALUE_COUNT := by
  unfold readPayloadLength
  rw [getMaxValueCount, maxBitValueCount_eq, FX5_MAX_WORD_VALUE_COUNT] at h
  split
  · rename_i hdevice
    rw [if_pos hdevice] at h
    omega
  · rename_i hdevice
    rw [if_neg hdevice] at h
    omega

/-- **The success response to every accepted read fits the receive buffer.** -/
theorem responseFrame_fits (hinv : ctx.Inv cfg) (huse : ctx.inUse = true) {device : Device}
    {address : BitVec 32} {count : Word} {ctx' : Context}
    (h : setRequest cfg ctx .batchRead device address count = some (.ok, ctx'))
    (headerType : HeaderType) (serial : Nat) (r : Routing) {payload : List Byte}
    (hpayload : payload.length = readPayloadLength device count.toNat) :
    (responseFrame headerType serial r FX5_RESPONSE_OK payload).length ≤
      ctx'.rxCbuffer.capacity := by
  rcases setRequest_cases hinv.values huse .batchRead device address count with
    ⟨status, hstatus, _, hset⟩ | ⟨haccepted, hset⟩
  · rw [hset] at h
    cases h
    exact absurd rfl hstatus
  rw [hset] at h
  cases h
  have hcapacity : (ctx.withRequest cfg .batchRead device address count).rxCbuffer.capacity =
      FX5_IOBUF_SIZE cfg := hinv.capacity
  obtain ⟨_, _, _, _, hmax⟩ := haccepted
  have hlength := readPayloadLength_le hmax
  have hheader : getResponseHeaderSize headerType ≤ 13 := by
    unfold getResponseHeaderSize
    split <;> decide
  have h2 : FX5_RESP_PDU_HEADER_SIZE = 2 := rfl
  rw [responseFrame_length, hcapacity, iobufSize_eq, hpayload]
  omega

/-- **The size arithmetic is exact** for every configuration, on every acquired context. -/
theorem size_arithmetic_exact (hctx : Acquired cfg ctx) : ExactLimits cfg ∧ ExactSizes cfg ctx := by
  obtain ⟨hinv, huse⟩ := acquired_inv hctx
  refine ⟨exactLimits cfg, ?_⟩
  refine
    { requiredSize := Checked.getRequiredRequestSize_exact hinv
      build := ?_
      parse := ?_
      response := ?_ }
  · intro outBuf outBufSize actualSize hout
    obtain ⟨result, hbuild, hlimit⟩ := buildRequest_within hinv huse hout actualSize
    exact ⟨result, (Checked.buildRequest_exact hinv huse hout actualSize).trans hbuild, hbuild,
      hlimit⟩
  · obtain ⟨status, ctx', hparse, _⟩ := parseResponse_inv hinv huse
    exact ⟨_, (Checked.parseResponse_exact hinv).trans hparse, hparse⟩
  · intro device address count ctx' hset headerType serial r payload _ hpayload
    exact responseFrame_fits hinv huse hset headerType serial r hpayload

/-- The arithmetic of the smallest configuration, with a request of all its bits. -/
theorem size_arithmetic_exact_of_smallest :
    ExactLimits .smallest ∧
      ExactSizes .smallest
        (contextAfter .smallest [.acquire, .setRequest 0 .batchWrite .M 0 16]) :=
  size_arithmetic_exact (acquired_contextAfter (by decide +kernel))

end Results

end Fx5
