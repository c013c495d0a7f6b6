import Fx5Slmp.Response
import Fx5Slmp.Lib.PackedBits

/-!
# The payload stage as a function of bytes

The payload stage of the parser reads the ring buffer, the request fields and the old values.
`pduResult` is its effect as a function of the packet bytes alone, with the storage layout of
the ring buffer gone; `parseResponsePdu_spec` says that the source computes it.

* `readWordsLoop_spec`, `unpackBitunitBytes_spec` — the two decoding loops stay inside
  `values` and the buffer, and store the words or bits of the payload;
* `pduResult_consumed` — the stage consumes the whole packet, except for a successful
  response with an odd payload to a word read;
* `pduResult_inv` — no result breaks the invariant.
-/

set_option autoImplicit false

namespace Fx5

open CheckedMem PackedBits

/-! ## The decoding loops -/

/-- The first `n` little-endian words of a byte string. -/
def wordsAt (b : List Byte) (n : Nat) : List Word :=
  (List.range n).map fun i => BitVec.ofNat 16 (le16At b (2 * i))

@[simp] theorem wordsAt_length (b : List Byte) (n : Nat) : (wordsAt b n).length = n := by
  simp [wordsAt]

theorem wordsAt_succ (b : List Byte) (n : Nat) :
    wordsAt b (n + 1) = wordsAt b n ++ [BitVec.ofNat 16 (le16At b (2 * n))] := by
  simp [wordsAt, List.range_succ]

theorem wordsAt_take {b : List Byte} {n m : Nat} (h : 2 * n ≤ m) :
    wordsAt (b.take m) n = wordsAt b n := by
  apply List.map_congr_left
  intro i hi
  rw [List.mem_range] at hi
  simp only [le16At, List.getD_eq_getElem?_getD]
  rw [List.getElem?_take_of_lt (by omega), List.getElem?_take_of_lt (by omega)]

/-- **The word loop** stores the words of the payload and consumes them. -/
theorem readWordsLoop_spec {rb : RingBuf} (hinv : rb.Inv) (hcap : rb.capacity ≤ 65000)
    {values : List Word} {n : Nat} (hn : n ≤ values.length) (hsize : 2 * n ≤ rb.size) :
    readWordsLoop n values rb =
      some (wordsAt rb.contents n ++ values.drop n, rb.advance (2 * n)) := by
  have hstep : ∀ k s, 0 ≤ k → k < 0 + n →
      s = (wordsAt rb.contents k ++ values.drop k, rb.advance (2 * k)) →
      ∃ s', readWord k s = some s' ∧
        s' = (wordsAt rb.contents (k + 1) ++ values.drop (k + 1), rb.advance (2 * (k + 1))) := by
    rintro k _ _ hk rfl
    have hinv' := hinv.advance (k := 2 * k) (by omega)
    have htail := hinv'.tail_lt
    simp only [RingBuf.advance_capacity] at htail
    refine ⟨_, ?_, rfl⟩
    unfold readWord
    rw [pduRdcU16Le_spec hinv' (by omega) (by simp only [RingBuf.advance_size]; omega)]
    simp only [Option.bind_eq_bind, Option.bind_some]
    rw [store_append_drop (wordsAt_length _ _) (by omega), hinv.contents_advance (by omega),
      le16At_drop, wordsAt_succ, RingBuf.advance_advance]
    rfl
  obtain ⟨s, hs, rfl⟩ := forRange_rule _ n 0 (values, rb) (by rw [hinv.advance_zero]; rfl) hstep
  rw [readWordsLoop, hs, Nat.zero_add]

theorem take_take_append {α : Type} (xs ys : List α) (n : Nat) :
    (xs.take n ++ ys).take n = (xs ++ ys).take n := by
  rcases Nat.le_total xs.length n with h | h
  · rw [List.take_of_length_le h]
  · rw [List.take_append_of_le_length (by simp [h]), List.take_take, Nat.min_self,
      List.take_append_of_le_length h]

/-- The bits of a payload, cut to the requested count. -/
def bitsAt (p : List Byte) (count : Nat) : List Bool := (unpackPairs p).take count

/-- One nibble is one bit more, until the count is reached. -/
theorem unpackNibble_spec {values : List Word} {count : Nat} (hcount : count ≤ 16 * values.length)
    (hfit : count < 65536) (nibble : Byte) (bs : List Bool) (hbs : bs.length ≤ count) :
    unpackNibble count nibble (storeBits values 0 bs, bs.length) =
      some (storeBits values 0 ((bs ++ [nibble == 0x01#8]).take count),
        ((bs ++ [nibble == 0x01#8]).take count).length) := by
  unfold unpackNibble
  simp only
  split
  · rename_i hlt
    have hslot : bs.length / 16 < values.length := by omega
    have hslot' : bs.length / 16 < (storeBits values 0 bs).length := by
      rw [storeBits_length]
      exact hslot
    rw [u16_of_lt (by omega), List.getElem?_eq_getElem hslot']
    simp only [Option.bind_eq_bind, Option.bind_some]
    rw [store_of_lt hslot', Option.bind_some, u16_of_lt (by omega),
      List.take_of_length_le (by simp; omega), storeBits_append, storeBits, storeBits, setBitAt,
      Nat.zero_add, setBit, List.getD_eq_getElem _ _ hslot', List.length_append]
    simp only [beq_iff_eq, List.length_singleton]
  · rename_i hge
    have hend : bs.length = count := by omega
    rw [← hend, List.take_left']
    rfl

/-- **The bit loop** stores the bits of the payload and consumes it. -/
theorem unpackBitunitBytes_spec {rb : RingBuf} (hinv : rb.Inv) (hcap : rb.capacity ≤ 65000)
    {values : List Word} {count : Nat} (hcount : count ≤ 16 * values.length)
    (hfit : count ≤ 65520) (hsize : (count + 1) / 2 ≤ rb.size) :
    unpackBitunitBytes rb ((count + 1) / 2) values count =
      some (count, storeBits values 0 (bitsAt (rb.contents.take ((count + 1) / 2)) count),
        rb.advance ((count + 1) / 2), 0) := by
  have hlen := hinv.contents_length
  have hstep : ∀ k s, 0 ≤ k → k < 0 + (count + 1) / 2 →
      s = ((storeBits values 0 (bitsAt (rb.contents.take k) count),
        (bitsAt (rb.contents.take k) count).length), rb.advance k) →
      ∃ s', unpackByte count s = some s' ∧
        s' = ((storeBits values 0 (bitsAt (rb.contents.take (k + 1)) count),
          (bitsAt (rb.contents.take (k + 1)) count).length), rb.advance (k + 1)) := by
    rintro k _ _ hk rfl
    have hinv' := hinv.advance (k := k) (by omega)
    have htail := hinv'.tail_lt
    simp only [RingBuf.advance_capacity] at htail
    refine ⟨_, ?_, rfl⟩
    have hkc : k < rb.contents.length := by omega
    have hpeek : ringbufPeek (rb.advance k) 0 = some (some rb.contents[k]) := by
      rw [ringbufPeek_spec hinv' (by omega), hinv.contents_advance (by omega),
        List.getElem?_drop, Nat.add_zero, List.getElem?_eq_getElem hkc]
    have hdrop : ringbufDropFront (rb.advance k) 1 = (1, (rb.advance k).advance 1) :=
      ringbufDropFront_of_le hinv' (by simp only [RingBuf.advance_size]; omega)
    have hbits : bitsAt (rb.contents.take (k + 1)) count =
        ((bitsAt (rb.contents.take k) count ++ [highNibble rb.contents[k] == 0x01#8]).take count ++
          [lowNibble rb.contents[k] == 0x01#8]).take count := by
      have htake : rb.contents.take (k + 1) = rb.contents.take k ++ [rb.contents[k]] := by
        rw [List.take_succ_eq_append_getElem hkc]
      rw [bitsAt, htake, unpackPairs_append, unpackPairs, unpackPairs, bitsAt,
        take_take_append, List.append_assoc, take_take_append]
      rfl
    unfold unpackByte
    simp only [hpeek, hdrop, Option.bind_eq_bind, Option.bind_some, Option.getD_some]
    have hle : (bitsAt (rb.contents.take k) count).length ≤ count := List.length_take_le _ _
    rw [unpackNibble_spec hcount (by omega) _ _ hle, Option.bind_some,
      unpackNibble_spec hcount (by omega) _ _ (List.length_take_le _ _), Option.bind_some, hbits,
      RingBuf.advance_advance]
    rfl
  obtain ⟨s, hs, rfl⟩ := forRange_rule _ ((count + 1) / 2) 0 ((values, 0), rb) (by
    rw [hinv.advance_zero, List.take_zero, bitsAt, unpackPairs, List.take_nil]
    rfl) hstep
  unfold unpackBitunitBytes
  have hcut : (if u16 ((count + 1) / 2 * 2) > count then count else u16 ((count + 1) / 2 * 2)) =
      count := by
    rw [u16_of_lt (by omega)]
    split <;> omega
  simp only [hcut]
  rw [u16_of_lt (by omega), hs, Nat.sub_self, Nat.zero_add]
  rfl

/-! ## The stage -/

/-- What the payload stage changes: the answer fields, and how many bytes it consumes. -/
structure PduResult where
  status : Status
  responseCode : Nat
  count : Nat
  values : List Word
  consumed : Nat
  deriving DecidableEq

def PduResult.apply (r : PduResult) (ctx : Context) : Context :=
  { ctx with
    responseCode := r.responseCode
    count := r.count
    values := r.values
    rxCbuffer := ctx.rxCbuffer.advance r.consumed }

/-- The answer fields are left alone, and `n` bytes are consumed. -/
def PduResult.reject (ctx : Context) (n : Nat) : PduResult :=
  ⟨.errInvalidCount, ctx.responseCode, ctx.count, ctx.values, n⟩

/-- The payload of a response to a word read.  An odd payload stays in the buffer. -/
def wordPayloadResult (ctx : Context) (p : List Byte) : PduResult :=
  if p.length % 2 = 1 then .reject ctx 0
  else if ctx.count = 0 ∨ p.length ≠ 2 * ctx.count then .reject ctx p.length
  else ⟨.ok, ctx.responseCode, ctx.count, wordsAt p ctx.count ++ ctx.values.drop ctx.count, p.length⟩

/-- The payload of a response to a bit read. -/
def bitPayloadResult (ctx : Context) (p : List Byte) : PduResult :=
  if ctx.count = 0 ∨ p.length ≠ (ctx.count + 1) / 2 then .reject ctx p.length
  else ⟨.ok, ctx.responseCode, ctx.count, storeBits ctx.values 0 (bitsAt p ctx.count), p.length⟩

/-- The payload behind the end code. -/
def payloadResult (ctx : Context) (p : List Byte) : PduResult :=
  if ctx.responseCode ≠ FX5_RESPONSE_OK then
    ⟨.responseError, ctx.responseCode, 0, ctx.values, p.length⟩
  else if ctx.command = .batchWrite then
    if p = [] then ⟨.ok, ctx.responseCode, 0, ctx.values, 0⟩ else .reject ctx p.length
  else if isBitDevice ctx.device then bitPayloadResult ctx p
  else wordPayloadResult ctx p

/-- A whole packet: the end code and the payload. -/
def pduResult (ctx : Context) (packet : List Byte) : PduResult :=
  let r := payloadResult { ctx with responseCode := le16At packet 0 }
    (packet.drop FX5_RESP_PDU_HEADER_SIZE)
  { r with consumed := FX5_RESP_PDU_HEADER_SIZE + r.consumed }

section Stage

variable {cfg : Config} {ctx : Context}

theorem capacity_le (hinv : ctx.Inv cfg) : ctx.rxCbuffer.capacity ≤ 65000 := by
  have := (iobufSize_bounds cfg).2
  rw [hinv.capacity]
  omega

/-- The guarded drop, which five exits of the stage share. -/
theorem dropPayload_eq (hinv : ctx.Inv cfg) {n : Nat} (hn : n ≤ ctx.rxCbuffer.size) :
    (if n > 0 then { ctx with rxCbuffer := (ringbufDropFront ctx.rxCbuffer n).2 } else ctx) =
      { ctx with rxCbuffer := ctx.rxCbuffer.advance n } := by
  split
  · rw [ringbufDropFront_of_le hinv.ring hn]
  · rw [show n = 0 by omega, hinv.ring.advance_zero]

theorem parseWordResponsePayload_spec (hinv : ctx.Inv cfg)
    (hdevice : isBitDevice ctx.device = false) {n : Nat}
    (hn : n ≤ ctx.rxCbuffer.contents.length) :
    parseWordResponsePayload cfg ctx n =
      some ((wordPayloadResult ctx (ctx.rxCbuffer.contents.take n)).status,
        (wordPayloadResult ctx (ctx.rxCbuffer.contents.take n)).apply ctx) := by
  have hsize := hinv.ring.contents_length
  have hle := hinv.contents_length_le
  have hbounds := (iobufSize_bounds cfg).2
  have hcount := hinv.word_count_le hdevice
  have hmax := cfg.count_le
  have hlen : (ctx.rxCbuffer.contents.take n).length = n := List.length_take_of_le hn
  rw [hinv.values] at hcount
  unfold parseWordResponsePayload wordPayloadResult
  rw [hlen, Nat.and_one_is_mod]
  by_cases hodd : n % 2 = 1
  · rw [if_pos (by omega), if_pos hodd]
    simp only [PduResult.apply, PduResult.reject, hinv.ring.advance_zero]
  rw [if_neg (by omega), if_neg hodd]
  simp only
  rw [dropPayload_eq hinv (by omega), u16_of_lt (by omega), u16_of_lt (by omega)]
  by_cases hcnt : ctx.count = 0
  · rw [if_pos (Or.inl hcnt), if_pos (Or.inl hcnt)]
    rfl
  rw [if_neg (by omega)]
  by_cases hexp : n = 2 * ctx.count
  · have hhalf : n / 2 = ctx.count := by omega
    rw [if_neg (by omega), if_neg (by omega), hhalf,
      readWordsLoop_spec hinv.ring (capacity_le hinv) (by rw [hinv.values]; exact hcount)
        (by omega), wordsAt_take (by omega), ← hexp]
    rfl
  · rw [if_pos (by omega), if_pos (by omega)]
    rfl

theorem parseBitResponsePayload_spec (hinv : ctx.Inv cfg)
    (hdevice : isBitDevice ctx.device = true) {n : Nat}
    (hn : n ≤ ctx.rxCbuffer.contents.length) :
    parseBitResponsePayload cfg ctx n =
      some ((bitPayloadResult ctx (ctx.rxCbuffer.contents.take n)).status,
        (bitPayloadResult ctx (ctx.rxCbuffer.contents.take n)).apply ctx) := by
  have hsize := hinv.ring.contents_length
  have hcount := hinv.count
  have hmax := cfg.count_le
  have hbit := maxBitValueCount_eq cfg
  have hslots := hinv.count_le_slots
  have hlen : (ctx.rxCbuffer.contents.take n).length = n := List.length_take_of_le hn
  rw [getMaxValueCount, if_pos hdevice] at hcount
  unfold parseBitResponsePayload bitPayloadResult
  simp only
  rw [dropPayload_eq hinv (by omega), u16_of_lt (by omega), hlen]
  by_cases hcnt : ctx.count = 0
  · rw [if_pos (Or.inl hcnt), if_pos (Or.inl hcnt)]
    rfl
  rw [if_neg (by omega)]
  by_cases hexp : n = (ctx.count + 1) / 2
  · rw [if_neg (by omega), if_neg (by omega), hexp,
      unpackBitunitBytes_spec hinv.ring (capacity_le hinv) hslots (by omega) (by omega)]
    rfl
  · rw [if_pos hexp, if_pos (Or.inr hexp)]
    rfl

theorem parseResponseBranches_spec (hinv : ctx.Inv cfg) {n : Nat}
    (hn : n ≤ ctx.rxCbuffer.contents.length) :
    parseResponseBranches cfg ctx n =
      some ((payloadResult ctx (ctx.rxCbuffer.contents.take n)).status,
        (payloadResult ctx (ctx.rxCbuffer.contents.take n)).apply ctx) := by
  have hsize := hinv.ring.contents_length
  have hlen : (ctx.rxCbuffer.contents.take n).length = n := List.length_take_of_le hn
  unfold parseResponseBranches payloadResult
  simp only
  rw [dropPayload_eq hinv (by omega), hlen]
  by_cases hcode : ctx.responseCode ≠ FX5_RESPONSE_OK
  · rw [if_pos hcode, if_pos hcode]
    rfl
  rw [if_neg hcode, if_neg hcode]
  by_cases hwrite : ctx.command = .batchWrite
  · rw [if_pos hwrite, if_pos hwrite]
    by_cases hzero : n = 0
    · have hnil : ctx.rxCbuffer.contents.take n = [] := by rw [hzero, List.take_zero]
      rw [if_neg (by omega), if_pos hnil]
      simp only [PduResult.apply, hinv.ring.advance_zero]
    · have hne : ctx.rxCbuffer.contents.take n ≠ [] := by
        rw [← List.length_pos_iff, hlen]
        omega
      rw [if_pos (by omega), if_neg hne]
      rfl
  rw [if_neg hwrite, if_neg hwrite]
  cases hdevice : isBitDevice ctx.device with
  | true => exact parseBitResponsePayload_spec hinv hdevice hn
  | false => exact parseWordResponsePayload_spec hinv hdevice hn

/-- **The payload stage computes `pduResult`** on a complete packet. -/
theorem parseResponsePdu_spec (hinv : ctx.Inv cfg) {packetSize : Nat}
    (hmin : FX5_RESP_PDU_HEADER_SIZE ≤ packetSize)
    (hle : packetSize ≤ ctx.rxCbuffer.contents.length) :
    parseResponsePdu cfg ctx packetSize =
      some ((pduResult ctx (ctx.rxCbuffer.contents.take packetSize)).status,
        (pduResult ctx (ctx.rxCbuffer.contents.take packetSize)).apply ctx) := by
  have htwo : FX5_RESP_PDU_HEADER_SIZE = 2 := rfl
  have hsize := hinv.ring.contents_length
  have hmax := hinv.contents_length_le
  have hbounds := (iobufSize_bounds cfg).2
  rw [htwo] at hmin
  obtain ⟨n, rfl⟩ : ∃ n, packetSize = 2 + n := ⟨packetSize - 2, by omega⟩
  have hread := pduRdcU16Le_spec hinv.ring (hinv.tail_add_lt (by omega)) (by omega)
  -- the context behind the end code, and the payload in it
  obtain ⟨ctx', hctx'⟩ : ∃ ctx' : Context, ctx' = { ctx with
    responseCode := le16At ctx.rxCbuffer.contents 0, rxCbuffer := ctx.rxCbuffer.advance 2 } :=
    ⟨_, rfl⟩
  have hinv' : ctx'.Inv cfg := by
    rw [hctx']
    exact { hinv with ring := hinv.ring.advance (by omega), capacity := hinv.capacity }
  have hcont' : ctx'.rxCbuffer.contents = ctx.rxCbuffer.contents.drop 2 := by
    rw [hctx']
    exact hinv.ring.contents_advance (by omega)
  have hcode : le16At (ctx.rxCbuffer.contents.take (2 + n)) 0 = le16At ctx.rxCbuffer.contents 0 := by
    simp only [le16At, List.getD_eq_getElem?_getD]
    rw [List.getElem?_take_of_lt (by omega), List.getElem?_take_of_lt (by omega)]
  have hpayload : (ctx.rxCbuffer.contents.take (2 + n)).drop 2 = ctx'.rxCbuffer.contents.take n := by
    rw [hcont', List.drop_take]
    congr 1
    omega
  have hbranches := parseResponseBranches_spec hinv' (n := n)
    (by rw [hcont', List.length_drop]; omega)
  unfold parseResponsePdu pduResult
  rw [if_neg (by omega), hread]
  simp only [Option.bind_eq_bind, Option.bind_some]
  rw [← hctx', htwo, u16_of_lt (by omega), Nat.add_sub_cancel_left, hbranches, hcode, hpayload]
  simp only [PduResult.apply, hctx', RingBuf.advance_advance]
  rfl

/-! ## Properties of the result -/

theorem bitPayloadResult_consumed (ctx : Context) (p : List Byte) :
    (bitPayloadResult ctx p).consumed = p.length := by
  unfold bitPayloadResult
  split <;> rfl

theorem wordPayloadResult_consumed (ctx : Context) (p : List Byte) :
    (wordPayloadResult ctx p).consumed = if p.length % 2 = 1 then 0 else p.length := by
  unfold wordPayloadResult
  split
  · rfl
  · split <;> rfl

/-- The one exit of the stage that leaves its payload in the buffer. -/
def OddWordPayload (ctx : Context) (packet : List Byte) : Prop :=
  le16At packet 0 = FX5_RESPONSE_OK ∧ ctx.command ≠ .batchWrite ∧
    isBitDevice ctx.device = false ∧ (packet.length - FX5_RESP_PDU_HEADER_SIZE) % 2 = 1

instance (ctx : Context) (packet : List Byte) : Decidable (OddWordPayload ctx packet) :=
  inferInstanceAs (Decidable (_ ∧ _))

/-- **The stage consumes the whole packet**, except on the odd-payload exit. -/
theorem pduResult_consumed {packet : List Byte}
    (hmin : FX5_RESP_PDU_HEADER_SIZE ≤ packet.length) :
    (pduResult ctx packet).consumed =
      if OddWordPayload ctx packet then FX5_RESP_PDU_HEADER_SIZE else packet.length := by
  have hdrop : (packet.drop FX5_RESP_PDU_HEADER_SIZE).length =
      packet.length - FX5_RESP_PDU_HEADER_SIZE := List.length_drop
  unfold pduResult payloadResult
  simp only
  by_cases hcode : le16At packet 0 = FX5_RESPONSE_OK
  · rw [if_neg (fun h => h hcode)]
    by_cases hwrite : ctx.command = .batchWrite
    · have hnot : ¬ OddWordPayload ctx packet := fun h => h.2.1 hwrite
      rw [if_pos hwrite, if_neg hnot]
      split
      · rename_i hnil
        rw [hnil, List.length_nil] at hdrop
        simp only
        omega
      · simp only [PduResult.reject]
        omega
    · rw [if_neg hwrite]
      split
      · rename_i hdevice
        have hnot : ¬ OddWordPayload ctx packet := fun h => by simp [h.2.2.1] at hdevice
        rw [bitPayloadResult_consumed, if_neg hnot]
        omega
      · rename_i hdevice
        rw [wordPayloadResult_consumed, hdrop]
        by_cases hodd : (packet.length - FX5_RESP_PDU_HEADER_SIZE) % 2 = 1
        · have hyes : OddWordPayload ctx packet := ⟨hcode, hwrite, by simpa using hdevice, hodd⟩
          rw [if_pos hodd, if_pos hyes, Nat.add_zero]
        · have hnot : ¬ OddWordPayload ctx packet := fun h => hodd h.2.2.2
          rw [if_neg hodd, if_neg hnot]
          omega
  · have hnot : ¬ OddWordPayload ctx packet := fun h => hcode h.1
    rw [if_pos hcode, if_neg hnot]
    simp only
    omega

theorem pduResult_values_length (ctx : Context) {packet : List Byte}
    (hcount : isBitDevice ctx.device = false → ctx.count ≤ ctx.values.length) :
    (pduResult ctx packet).values.length = ctx.values.length := by
  unfold pduResult payloadResult
  simp only
  split
  · rfl
  split
  · split <;> rfl
  split
  · unfold bitPayloadResult
    split
    · rfl
    · simp only [storeBits_length]
  · rename_i hdevice
    have hcount := hcount (by simpa using hdevice)
    unfold wordPayloadResult
    split
    · rfl
    split
    · rfl
    · simp only [List.length_append, wordsAt_length, List.length_drop]
      omega

/-- The count either stays or becomes zero. -/
theorem pduResult_count (ctx : Context) (packet : List Byte) :
    (pduResult ctx packet).count = ctx.count ∨ (pduResult ctx packet).count = 0 := by
  unfold pduResult payloadResult
  simp only
  split
  · exact Or.inr rfl
  split
  · split
    · exact Or.inr rfl
    · exact Or.inl rfl
  split
  · unfold bitPayloadResult
    split <;> exact Or.inl rfl
  · unfold wordPayloadResult
    split
    · exact Or.inl rfl
    split <;> exact Or.inl rfl

theorem pduResult_consumed_le {packet : List Byte}
    (hmin : FX5_RESP_PDU_HEADER_SIZE ≤ packet.length) :
    (pduResult ctx packet).consumed ≤ packet.length := by
  rw [pduResult_consumed hmin]
  split <;> omega

/-- **No packet breaks the invariant.** -/
theorem pduResult_inv (hinv : ctx.Inv cfg) {packet : List Byte}
    (hmin : FX5_RESP_PDU_HEADER_SIZE ≤ packet.length)
    (hle : packet.length ≤ ctx.rxCbuffer.size) :
    ((pduResult ctx packet).apply ctx).Inv cfg where
  device := hinv.device
  command := hinv.command
  header := hinv.header
  address := hinv.address
  count := by
    simp only [PduResult.apply]
    rcases pduResult_count ctx packet with h | h
    · rw [h]
      exact hinv.count
    · rw [h]
      exact Nat.zero_le _
  values := by
    simp only [PduResult.apply]
    rw [pduResult_values_length ctx hinv.word_count_le, hinv.values]
  ring := hinv.ring.advance (Nat.le_trans (pduResult_consumed_le hmin) hle)
  capacity := hinv.capacity
  serial := hinv.serial
  nextSerial := hinv.nextSerial

end Stage

end Fx5
