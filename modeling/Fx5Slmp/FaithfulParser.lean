import Fx5Slmp.InstrumentedParser
import Fx5Slmp.ParseResponse

/-!
# Faithful operations make a faithful parser

The parser asks for a narrowing only of what fits 16 bits, reads only inside the receive buffer, and
drops only bytes that are there.  Operations that are faithful there (`Ops.Faithful`) make a parser
that reads as the model on every context that is in order, whatever they do elsewhere.

* `Ops.Faithful.readWordsLoop`, `Ops.Faithful.unpackBytes` — the loops over a payload that has arrived;
* `Ops.Faithful.parseResponsePdu` — the payload stage on a packet that has arrived;
* `Ops.Faithful.tryResync`, `Ops.Faithful.parseResponse` — the scan and whole calls, where `discard`
  is faithful too.
-/

set_option autoImplicit false

namespace Fx5

open CheckedMem Instrumented StreamScan

/-! ## Contexts in order -/

/-- A buffer in which every peek near the read position is exact. -/
structure SmallRing (rb : RingBuf) : Prop where
  inv : rb.Inv
  capacity : rb.capacity ≤ 65000

theorem SmallRing.tail_add {rb : RingBuf} (h : SmallRing rb) {i : Nat} (hi : i ≤ 500) :
    rb.tail + i < 65536 := by
  have htail := h.inv.tail_lt
  have hcap := h.capacity
  omega

theorem SmallRing.dropFront {rb : RingBuf} (h : SmallRing rb) (count : Nat) :
    SmallRing (ringbufDropFront rb count).2 := by
  rw [ringbufDropFront_spec h.inv]
  exact ⟨h.inv.advance (Nat.min_le_right _ _), h.capacity⟩

theorem dropFront_size {rb : RingBuf} (h : rb.Inv) {count : Nat} (hle : count ≤ rb.size) :
    (ringbufDropFront rb count).2.size = rb.size - count := by
  rw [ringbufDropFront_of_le h hle]
  exact rb.advance_size count

section Context

variable {cfg : Config} {ctx : Context}

theorem smallRing (hinv : ctx.Inv cfg) : SmallRing ctx.rxCbuffer :=
  ⟨hinv.ring, capacity_le hinv⟩

/-- The invariant survives a drop and a new end code. -/
theorem inv_dropFront (hinv : ctx.Inv cfg) (count code : Nat) :
    { ctx with
      responseCode := code
      rxCbuffer := (ringbufDropFront ctx.rxCbuffer count).2 : Context }.Inv cfg := by
  rw [ringbufDropFront_spec hinv.ring]
  exact
    { hinv with
      ring := hinv.ring.advance (Nat.min_le_right _ _)
      capacity := hinv.capacity }

end Context

/-- A read of two bytes drops them. -/
theorem pduRdcU16Le_ring {rb rb' : RingBuf} {v : Nat} (h : pduRdcU16Le rb = some (v, rb')) :
    rb' = (ringbufDropFront rb 2).2 := by
  obtain ⟨_, _, h⟩ := Option.bind_eq_some_iff.mp h
  obtain ⟨_, _, h⟩ := Option.bind_eq_some_iff.mp h
  cases h
  rfl

/-! ## Faithful operations -/

variable {m : Type → Type} [MayFail m]

/-- Operations that read as those of the model wherever the parser uses them: on sizes that fit, inside
the buffer, and on bytes that are there. -/
structure Ops.Faithful (R : Reading m) (ops : Ops m) : Prop where
  narrow : ∀ {n : Nat}, n < 65536 → R.reads (ops.narrow n) (some (u16 n))
  narrowSub : ∀ {a b : Nat}, b ≤ a → a < 65536 → R.reads (ops.narrowSub a b) (some (u16 (a - b)))
  peek : ∀ {rb : RingBuf} {i : Nat}, SmallRing rb → i < rb.size → i ≤ 500 →
    R.reads (ops.peek rb i) (ringbufPeek rb i)
  drop : ∀ {rb : RingBuf} {count : Nat}, rb.Inv → count ≤ rb.size →
    R.reads (ops.drop rb count) (some (ringbufDropFront rb count).2)

namespace Ops.Faithful

variable {R : Reading m} {ops : Ops m}

section Buffer

variable {rb : RingBuf}

theorem pduPeekcU16Le (hops : ops.Faithful R) (h : SmallRing rb) {offset : Nat}
    (hi : offset + 1 < rb.size) (hsmall : offset < 500) :
    R.reads (ops.pduPeekcU16Le rb offset) (Fx5.pduPeekcU16Le rb offset) := by
  refine R.next (hops.narrow (by omega)) ?_
  have h0 : u16 (offset + 0) = offset := u16_of_lt (by omega)
  have h1 : u16 (offset + 1) = offset + 1 := u16_of_lt (by omega)
  unfold Fx5.pduPeekcU16Le
  rw [h0, h1]
  refine R.bind (hops.peek h (by omega) (by omega)) fun b0 _ => ?_
  refine R.next (hops.narrow (by omega)) ?_
  rw [h1]
  exact R.bind (hops.peek h hi (by omega)) fun b1 _ => R.pure _

theorem pduRdcU16Le (hops : ops.Faithful R) (h : SmallRing rb) (hsize : 2 ≤ rb.size) :
    R.reads (ops.pduRdcU16Le rb) (Fx5.pduRdcU16Le rb) := by
  refine R.bind (hops.peek h (by omega) (by omega)) fun b0 _ => ?_
  refine R.bind (hops.peek h (by omega) (by omega)) fun b1 _ => ?_
  exact R.next (hops.drop h.inv hsize) (R.pure _)

theorem detectResponseHeader (hops : ops.Faithful R) (h : SmallRing rb) :
    R.reads (ops.detectResponseHeader rb) (Fx5.detectResponseHeader rb) := by
  unfold Ops.detectResponseHeader Fx5.detectResponseHeader
  split
  · exact R.pure _
  · rename_i hsize
    rw [ringbufSize] at hsize
    refine R.bind (hops.pduPeekcU16Le h (by rw [FX5_MAGIC_NUMBER_OFFSET]; omega) (by decide))
      fun magic _ => ?_
    split
    · exact R.pure _
    · split
      · exact R.pure _
      · exact R.pure _

end Buffer

/-! ## The header stage -/

section Header

variable {cfg : Config} {ctx : Context}

theorem parseResponseHeader3E (hops : ops.Faithful R) {rb : RingBuf} (h : SmallRing rb) :
    R.reads (ops.parseResponseHeader3E cfg rb) (Fx5.parseResponseHeader3E cfg rb) := by
  unfold Ops.parseResponseHeader3E Fx5.parseResponseHeader3E
  split
  · exact R.pure _
  rename_i hsize
  have h9 : 9 ≤ rb.size := Nat.le_of_not_lt hsize
  refine R.bind (hops.pduPeekcU16Le h (by rw [FX5_PACKET_SIZE_OFFSET_3E]; omega) (by decide))
    fun packetSize _ => ?_
  split <;> exact R.pure _

theorem parseResponseHeader4E (hops : ops.Faithful R) {rb : RingBuf} (h : SmallRing rb) :
    R.reads (ops.parseResponseHeader4E cfg ctx rb) (Fx5.parseResponseHeader4E cfg ctx rb) := by
  unfold Ops.parseResponseHeader4E Fx5.parseResponseHeader4E
  split
  · exact R.pure _
  rename_i hsize
  have h13 : 13 ≤ rb.size := Nat.le_of_not_lt hsize
  refine R.bind (hops.pduPeekcU16Le h (by rw [FX5_SERIAL_OFFSET_4E]; omega) (by decide))
    fun serial _ => ?_
  split
  · exact R.pure _
  refine R.bind (hops.pduPeekcU16Le h (by rw [FX5_PACKET_SIZE_OFFSET_4E]; omega) (by decide))
    fun packetSize _ => ?_
  split <;> exact R.pure _

theorem parseResponseHeader (hops : ops.Faithful R) (hinv : ctx.Inv cfg)
    (headerType : HeaderType) :
    R.reads (ops.parseResponseHeader cfg ctx headerType)
      (Fx5.parseResponseHeader cfg ctx headerType) := by
  unfold Ops.parseResponseHeader Fx5.parseResponseHeader
  split
  · exact R.bind (hops.parseResponseHeader4E (smallRing hinv)) fun _ _ => R.pure _
  · exact R.bind (hops.parseResponseHeader3E (smallRing hinv)) fun _ _ => R.pure _

end Header

/-! ## The payload stage -/

section Payload

variable {cfg : Config} {ctx : Context}

theorem dropPayload (hops : ops.Faithful R) (hinv : ctx.Inv cfg) {payloadSize : Nat}
    (h : payloadSize ≤ ctx.rxCbuffer.size) :
    R.reads (ops.dropPayload ctx payloadSize) (some (if payloadSize > 0 then
      { ctx with rxCbuffer := (ringbufDropFront ctx.rxCbuffer payloadSize).2 } else ctx)) := by
  unfold Ops.dropPayload
  split
  · exact R.next (hops.drop hinv.ring h) (R.pure _)
  · exact R.pure _

/-- **The words of a payload** that has arrived are read from it. -/
theorem readWordsLoop (hops : ops.Faithful R) {rb : RingBuf} (hrb : SmallRing rb)
    {valueCount : Nat} (h : 2 * valueCount ≤ rb.size) (values : List Word) :
    R.reads (ops.readWordsLoop valueCount values rb) (Fx5.readWordsLoop valueCount values rb) := by
  -- before turn `k` there are still two bytes for each word from `k` on
  refine R.forRange (fun k s => SmallRing s.2 ∧ 2 * (valueCount - k) ≤ s.2.size) ?_ ?_ valueCount 0
    (values, rb) (Nat.zero_add valueCount).le ⟨hrb, h⟩
  · rintro k s s' hk ⟨hs, hroom⟩ hturn
    obtain ⟨⟨v, rb'⟩, hread, hturn⟩ := Option.bind_eq_some_iff.mp hturn
    obtain ⟨values', _, hturn⟩ := Option.bind_eq_some_iff.mp hturn
    cases hturn
    have hless := dropFront_size hs.inv (show 2 ≤ s.2.size by omega)
    rw [pduRdcU16Le_ring hread]
    refine ⟨hs.dropFront 2, ?_⟩
    show 2 * (valueCount - (k + 1)) ≤ (ringbufDropFront s.2 2).2.size
    omega
  · rintro k s hk ⟨hs, hroom⟩
    refine R.bind (hops.pduRdcU16Le hs (by omega)) fun r _ => ?_
    exact R.bind (R.access _) fun values _ => R.pure _

theorem unpackNibble (hops : ops.Faithful R) {bitCount : Nat} (hcount : bitCount < 65536)
    (nibble : Byte) (s : List Word × Nat) :
    R.reads (ops.unpackNibble bitCount nibble s) (Fx5.unpackNibble bitCount nibble s) := by
  obtain ⟨values, bitIndex⟩ := s
  unfold Ops.unpackNibble Fx5.unpackNibble
  simp only
  split
  · refine R.next (hops.narrow (by omega)) ?_
    refine R.bind (R.access _) fun v _ => R.bind (R.access _) fun values _ => ?_
    exact R.next (hops.narrow (by omega)) (R.pure _)
  · exact R.pure _

/-- **The bytes of a bit payload** that has arrived are read from it. -/
theorem unpackBytes (hops : ops.Faithful R) {rb : RingBuf} (hrb : SmallRing rb)
    {bytesNeeded : Nat} (h : bytesNeeded ≤ rb.size) {bitCount : Nat} (hcount : bitCount < 65536)
    (values : List Word) :
    R.reads (forRangeM (fun _ s => ops.unpackByte bitCount s) 0 bytesNeeded ((values, 0), rb))
      (forRange (fun _ s => Fx5.unpackByte bitCount s) 0 bytesNeeded ((values, 0), rb)) := by
  refine R.forRange (fun k s => SmallRing s.2 ∧ bytesNeeded - k ≤ s.2.size) ?_ ?_ bytesNeeded 0
    ((values, 0), rb) (Nat.zero_add bytesNeeded).le ⟨hrb, h⟩
  · rintro k s s' hk ⟨hs, hroom⟩ hturn
    obtain ⟨_, _, hturn⟩ := Option.bind_eq_some_iff.mp hturn
    obtain ⟨_, _, hturn⟩ := Option.bind_eq_some_iff.mp hturn
    obtain ⟨_, _, hturn⟩ := Option.bind_eq_some_iff.mp hturn
    cases hturn
    have hless := dropFront_size hs.inv (show 1 ≤ s.2.size by omega)
    refine ⟨hs.dropFront 1, ?_⟩
    show bytesNeeded - (k + 1) ≤ (ringbufDropFront s.2 1).2.size
    omega
  · rintro k s hk ⟨hs, hroom⟩
    refine R.bind (hops.peek hs (by omega) (by omega)) fun b _ => ?_
    refine R.next (hops.drop hs.inv (by omega)) ?_
    refine R.bind (hops.unpackNibble hcount _ _) fun s₁ _ => ?_
    exact R.bind (hops.unpackNibble hcount _ _) fun s₂ _ => R.pure _

/-- The unpacker on a payload of the expected size, which has arrived; it leaves nothing of it. -/
theorem unpackBitunitBytes (hops : ops.Faithful R) {rb : RingBuf} (hrb : SmallRing rb)
    {payloadSize maxCount : Nat} (hsize : payloadSize = (maxCount + 1) / 2)
    (hcount : maxCount + 1 < 65536) (h : payloadSize ≤ rb.size) (values : List Word) :
    R.reads (ops.unpackBitunitBytes rb payloadSize values maxCount)
        (Fx5.unpackBitunitBytes rb payloadSize values maxCount) ∧
      ∀ r, Fx5.unpackBitunitBytes rb payloadSize values maxCount = some r → r.2.2.2 = 0 := by
  have hbits : (if payloadSize * 2 > maxCount then maxCount else payloadSize * 2) = maxCount := by
    split
    · rfl
    · omega
  have hbytes : u16 ((maxCount + 1) / 2) = payloadSize := by rw [u16_of_lt (by omega), hsize]
  unfold Fx5.unpackBitunitBytes
  simp only [Option.bind_eq_bind]
  rw [u16_of_lt (by omega : payloadSize * 2 < 65536), hbits, hbytes, Nat.sub_self]
  refine ⟨?_, fun r hr => ?_⟩
  · refine R.next (hops.narrow (by omega)) ?_
    rw [u16_of_lt (by omega : payloadSize * 2 < 65536), hbits]
    refine R.next (hops.narrow (by omega)) ?_
    rw [hbytes]
    refine R.next (hops.narrowSub (Nat.le_refl _) (by omega)) ?_
    rw [Nat.sub_self]
    exact R.bind (hops.unpackBytes hrb h (by omega) values) fun _ _ => R.pure _
  · obtain ⟨_, _, hr⟩ := Option.bind_eq_some_iff.mp hr
    cases hr
    rfl

theorem parseWordResponsePayload (hops : ops.Faithful R) (hinv : ctx.Inv cfg)
    (hdevice : isBitDevice ctx.device = false) {payloadSize : Nat}
    (h : payloadSize ≤ ctx.rxCbuffer.size) :
    R.reads (ops.parseWordResponsePayload cfg ctx payloadSize)
      (Fx5.parseWordResponsePayload cfg ctx payloadSize) := by
  have hcapacity := (smallRing hinv).capacity
  have hsize := hinv.ring.size_le
  have hword := hinv.word_count_le hdevice
  have hvalues := hinv.values
  have hmax := cfg.count_le
  unfold Ops.parseWordResponsePayload Fx5.parseWordResponsePayload
  split
  · exact R.pure _
  refine R.next (hops.narrow (by omega)) (R.next (hops.narrow (by omega)) ?_)
  simp only
  split
  · exact R.next (hops.dropPayload hinv h) (R.pure _)
  split
  · exact R.next (hops.dropPayload hinv h) (R.pure _)
  · rw [u16_of_lt (by omega : payloadSize / 2 < 65536)]
    exact R.bind (hops.readWordsLoop (smallRing hinv) (by omega) _) fun _ _ => R.pure _

theorem parseBitResponsePayload (hops : ops.Faithful R) (hinv : ctx.Inv cfg) {payloadSize : Nat}
    (h : payloadSize ≤ ctx.rxCbuffer.size) :
    R.reads (ops.parseBitResponsePayload cfg ctx payloadSize)
      (Fx5.parseBitResponsePayload cfg ctx payloadSize) := by
  have hslots := hinv.count_le_slots
  have hvalues := hinv.values
  have hmax := cfg.count_le
  unfold Ops.parseBitResponsePayload Fx5.parseBitResponsePayload
  refine R.next (hops.narrow (by omega)) ?_
  simp only
  split
  · exact R.next (hops.dropPayload hinv h) (R.pure _)
  split
  · exact R.next (hops.dropPayload hinv h) (R.pure _)
  · rename_i hsize
    rw [u16_of_lt (by omega : (ctx.count + 1) / 2 < 65536)] at hsize
    obtain ⟨hunpack, hrest⟩ :=
      hops.unpackBitunitBytes (smallRing hinv) (not_not.mp hsize) (by omega) h ctx.values
    refine R.bind hunpack fun r hr => ?_
    obtain ⟨count, values, rxBuffer, remainingBytes⟩ := r
    obtain rfl : remainingBytes = 0 := hrest _ hr
    exact R.next (R.pure rxBuffer) (R.pure _)

theorem parseResponseBranches (hops : ops.Faithful R) (hinv : ctx.Inv cfg) {payloadSize : Nat}
    (h : payloadSize ≤ ctx.rxCbuffer.size) :
    R.reads (ops.parseResponseBranches cfg ctx payloadSize)
      (Fx5.parseResponseBranches cfg ctx payloadSize) := by
  unfold Ops.parseResponseBranches Fx5.parseResponseBranches
  simp only
  split
  · exact R.next (hops.dropPayload hinv h) (R.pure _)
  split
  · split
    · rename_i hpos
      have hdrop := hops.dropPayload hinv h
      rw [if_pos hpos] at hdrop
      exact R.next hdrop (R.pure _)
    · exact R.pure _
  cases hdevice : isBitDevice ctx.device with
  | true => exact hops.parseBitResponsePayload hinv h
  | false => exact hops.parseWordResponsePayload hinv hdevice h

/-- **The payload stage** on a packet that has arrived. -/
theorem parseResponsePdu (hops : ops.Faithful R) (hinv : ctx.Inv cfg) {packetSize : Nat}
    (h : packetSize ≤ ctx.rxCbuffer.size) :
    R.reads (ops.parseResponsePdu cfg ctx packetSize) (Fx5.parseResponsePdu cfg ctx packetSize) := by
  have hcapacity := (smallRing hinv).capacity
  have hsize := hinv.ring.size_le
  have h2 : FX5_RESP_PDU_HEADER_SIZE = 2 := rfl
  unfold Ops.parseResponsePdu Fx5.parseResponsePdu
  split
  · exact R.pure _
  refine R.bind (hops.pduRdcU16Le (smallRing hinv) (by omega)) fun result hresult => ?_
  obtain ⟨responseCode, rxBuffer⟩ := result
  obtain rfl := pduRdcU16Le_ring hresult
  have hless := dropFront_size hinv.ring (show 2 ≤ ctx.rxCbuffer.size by omega)
  refine R.next (hops.narrowSub (by omega) (by omega)) ?_
  refine hops.parseResponseBranches (inv_dropFront hinv 2 responseCode) ?_
  show u16 (packetSize - FX5_RESP_PDU_HEADER_SIZE) ≤ (ringbufDropFront ctx.rxCbuffer 2).2.size
  rw [u16_of_lt (by omega)]
  omega

end Payload

end Ops.Faithful

/-! ## Faithful discards -/

/-- `discard` reads as a drop of one byte, where there is one. -/
def Ops.Discards (R : Reading m) (ops : Ops m) : Prop :=
  ∀ {rb : RingBuf}, rb.Inv → 1 ≤ rb.size → R.reads (ops.discard rb) (some (ringbufDropFront rb 1).2)

/-- A turn that continues keeps the counter within the limit. -/
theorem parseResponseTurn_again {cfg : Config} {ctx next : Context} (hinv : ctx.Inv cfg)
    (hlimit : ctx.resyncCounter ≤ FX5_RESYNC_LIMIT)
    (h : parseResponseTurn cfg ctx = some (.again next)) :
    next.Inv cfg ∧ next.resyncCounter ≤ FX5_RESYNC_LIMIT := by
  obtain ⟨m, hm⟩ : ∃ m, skip Candidate ctx.rxCbuffer.contents = m := ⟨_, rfl⟩
  have hsize := hinv.size_le
  have hbounds := iobufSize_bounds cfg
  have h64 : FX5_RESYNC_LIMIT = 64 := rfl
  rw [parseResponseTurn_spec hinv hm (by omega)] at h
  split at h
  · cases h
  split at h
  · obtain ⟨_, _, h⟩ := Option.map_eq_some_iff.mp h
    cases h
  rename_i hmore
  split at h
  · cases h
  rename_i hwithin
  cases h
  have hlt : m < ctx.rxCbuffer.contents.length := by
    refine Nat.lt_of_not_le fun hle => hmore (Or.inl ?_)
    exact List.drop_eq_nil_of_le hle
  refine ⟨hinv.discard hlt, ?_⟩
  show ctx.resyncCounter + (m + 1) ≤ FX5_RESYNC_LIMIT
  omega

namespace Ops.Faithful

variable {R : Reading m} {ops : Ops m} {cfg : Config} {ctx : Context}

/-- **The scan** reads and drops only in a buffer that has the bytes, and its counter does not wrap. -/
theorem tryResync (hops : ops.Faithful R) (hdiscard : ops.Discards R) {rb : RingBuf}
    (h : SmallRing rb) {d : Nat} (hcount : d + rb.size < 65536) :
    R.reads (ops.tryResync rb d) (Fx5.tryResync rb d) := by
  induction hn : rb.size using Nat.strong_induction_on generalizing rb d with
  | _ n ih =>
    rw [Ops.tryResync, Fx5.tryResync]
    split
    · rename_i hsize
      rw [ringbufSize] at hsize
      have hone : 1 ≤ rb.size := Nat.le_of_lt hsize
      have hless := dropFront_size h.inv hone
      refine R.bind (hops.detectResponseHeader h) fun headerType _ => ?_
      split
      · exact R.pure _
      · refine R.next (hdiscard h.inv hone) (R.next (hops.narrow (by omega)) ?_)
        rw [dif_pos (by omega), u16_of_lt (by omega)]
        exact ih _ (by omega) (h.dropFront 1) (by omega) rfl
    · split
      · rename_i hone
        rw [ringbufSize] at hone
        refine R.bind (hops.peek h (by omega) (by omega)) fun byte _ => ?_
        cases byte with
        | none => exact R.pure _
        | some byte0 =>
          simp only
          split
          · exact R.next (hdiscard h.inv (by omega)) (R.next (hops.narrow (by omega)) (R.pure _))
          · exact R.pure _
      · exact R.pure _

/-- **A turn**: the size test covers every read and drop behind it. -/
theorem parseResponseTurn (hops : ops.Faithful R) (hdiscard : ops.Discards R) (hinv : ctx.Inv cfg)
    (hcount : ctx.resyncCounter + ctx.rxCbuffer.size < 65536) :
    R.reads (ops.parseResponseTurn cfg ctx) (Fx5.parseResponseTurn cfg ctx) := by
  obtain ⟨m, hm⟩ : ∃ m, skip Candidate ctx.rxCbuffer.contents = m := ⟨_, rfl⟩
  have hle : m ≤ ctx.rxCbuffer.contents.length := hm ▸ skip_le_length _ _
  have hscan := tryResync_spec hinv.ring (capacity_le hinv) hcount
  rw [hm] at hscan
  have hinv' := hinv.discard hle
  refine R.bind (hops.tryResync hdiscard (smallRing hinv) hcount) fun found hfound => ?_
  rw [hscan] at hfound
  cases hfound
  rw [Context.discard] at hinv'
  simp only
  split
  · exact R.pure _
  split
  · exact R.pure _
  refine R.bind (hops.parseResponseHeader hinv' _) fun result hresult => ?_
  obtain ⟨status, packetSize, headerSize⟩ := result
  simp only
  split
  · exact R.pure _
  split
  · -- a mismatch is found in a buffer that is not empty
    rename_i hlimit _ _ hmismatch
    subst hmismatch
    have h64 : FX5_RESYNC_LIMIT < 65535 := by decide
    refine R.next (hdiscard hinv'.ring (parseResponseHeader_mismatch hresult))
      (R.next (hops.narrow (by omega)) ?_)
    split <;> exact R.pure _
  split
  · exact R.pure _
  split
  · exact R.pure _
  rename_i htotal
  rw [ringbufSize] at htotal
  have htotal' : headerSize + packetSize ≤ (ctx.rxCbuffer.advance m).size :=
    Nat.le_of_not_lt htotal
  have hroom : headerSize ≤ (ctx.rxCbuffer.advance m).size := by omega
  have hless : (ringbufDropFront (ctx.rxCbuffer.advance m) headerSize).2.size =
      (ctx.rxCbuffer.advance m).size - headerSize := dropFront_size hinv'.ring hroom
  refine R.next (hops.drop hinv'.ring hroom) ?_
  refine R.bind (hops.parseResponsePdu (inv_dropFront hinv' headerSize ctx.responseCode) ?_)
    fun result _ => R.pure _
  show packetSize ≤ (ringbufDropFront (ctx.rxCbuffer.advance m) headerSize).2.size
  omega

theorem parseResponseLoop (hops : ops.Faithful R) (hdiscard : ops.Discards R) (hinv : ctx.Inv cfg)
    (hlimit : ctx.resyncCounter ≤ FX5_RESYNC_LIMIT) :
    R.reads (ops.parseResponseLoop cfg ctx) (Fx5.parseResponseLoop cfg ctx) := by
  have h64 : FX5_RESYNC_LIMIT = 64 := rfl
  induction hn : ctx.rxCbuffer.size using Nat.strong_induction_on generalizing ctx with
  | _ n ih =>
    have hsize := hinv.size_le
    have hbounds := iobufSize_bounds cfg
    rw [Ops.parseResponseLoop, Fx5.parseResponseLoop_eq]
    refine R.bind (hops.parseResponseTurn hdiscard hinv (by omega)) fun turn hturn => ?_
    cases turn with
    | done result => exact R.pure _
    | again next =>
      have hlt := parseResponseTurn_again_size hturn
      obtain ⟨hinv', hlimit'⟩ := parseResponseTurn_again hinv hlimit hturn
      simp only
      rw [dif_pos hlt]
      exact ih next.rxCbuffer.size (by omega) hinv' hlimit' rfl

/-- **A call** with faithful operations reads as the call of the model. -/
theorem parseResponse (hops : ops.Faithful R) (hdiscard : ops.Discards R) (hinv : ctx.Inv cfg) :
    R.reads (ops.parseResponse cfg ctx) (Fx5.parseResponse cfg ctx) := by
  have hreset : { ctx with resyncCounter := 0 : Context }.Inv cfg := { hinv with }
  unfold Ops.parseResponse Fx5.parseResponse
  cases requireAcquired (some ctx) with
  | ok => exact hops.parseResponseLoop hdiscard hreset (Nat.zero_le _)
  | _ => exact R.pure _

end Ops.Faithful

end Fx5
