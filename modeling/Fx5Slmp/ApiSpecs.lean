import Fx5Slmp.ParseResponse
import Fx5Slmp.RequestEncoding

/-!
# What each call on a context does

One lemma for each mutator and getter of the public API on an acquired context that satisfies
its invariant.  Each says that the call is defined, lists its exits, and says that every exit
but the successful one leaves the context alone:

* `setNetworkSettings_cases`, `setHeaderMode_cases`, `setRequest_cases`,
  `setWriteValue_cases`, `feedResponseBytes_cases`;
* `getResponseValue_spec`.
-/

set_option autoImplicit false

namespace Fx5

open CheckedMem PackedBits

section Api

variable {cfg : Config} {ctx : Context}

theorem requireAcquired_ok (huse : ctx.inUse = true) : requireAcquired (some ctx) = .ok :=
  if_pos huse

theorem requireOut_acquired (huse : ctx.inUse = true) : requireOut ctx = .errNull := by
  rw [requireOut, requireAcquired_ok huse]

/-! ## Settings -/

/-- The header types the library accepts. -/
def HeaderAccepted (headerType : HeaderType) : Prop := headerType = .h3E ∨ headerType = .h4E

instance (headerType : HeaderType) : Decidable (HeaderAccepted headerType) :=
  inferInstanceAs (Decidable (_ ∨ _))

theorem setNetworkSettings_cases (huse : ctx.inUse = true) (settings : Option NetworkSettings) :
    (∃ status, status ≠ .ok ∧ setNetworkSettings ctx settings = (status, ctx)) ∨
    (∃ s, settings = some s ∧ HeaderAccepted s.headerType ∧
      setNetworkSettings ctx settings = (.ok, { ctx with networkSettings := s })) := by
  unfold setNetworkSettings
  rw [requireAcquired_ok huse]
  simp only
  cases settings with
  | none => exact Or.inl ⟨.errNull, by decide, rfl⟩
  | some s =>
    simp only
    split
    · exact Or.inl ⟨.errUnsupported, by decide, rfl⟩
    · rename_i h
      refine Or.inr ⟨s, rfl, ?_, rfl⟩
      by_contra hnot
      exact h ⟨fun h3 => hnot (Or.inl h3), fun h4 => hnot (Or.inr h4)⟩

theorem setHeaderMode_cases (huse : ctx.inUse = true) (mode : HeaderType) :
    (∃ status, status ≠ .ok ∧ setHeaderMode ctx mode = (status, ctx)) ∨
    (HeaderAccepted mode ∧ setHeaderMode ctx mode =
      (.ok, { ctx with networkSettings := { ctx.networkSettings with headerType := mode } })) := by
  unfold setHeaderMode
  rw [requireAcquired_ok huse]
  simp only
  split
  · exact Or.inl ⟨.errUnsupported, by decide, rfl⟩
  · rename_i h
    refine Or.inr ⟨?_, rfl⟩
    by_contra hnot
    exact h ⟨fun h3 => hnot (Or.inl h3), fun h4 => hnot (Or.inr h4)⟩

/-! ## The active request -/

/-- The arguments that `fx5_set_request` accepts. -/
def RequestAccepted (cfg : Config) (command : Command) (device : Device) (address : BitVec 32)
    (count : Word) : Prop :=
  count.toNat ≠ 0 ∧ address.toNat ≤ FX5_MAX_ADDRESS ∧ isSupportedCommand command = true ∧
    isSupportedDevice device = true ∧ count.toNat ≤ getMaxValueCount cfg device

instance (cfg : Config) (command : Command) (device : Device) (address : BitVec 32)
    (count : Word) : Decidable (RequestAccepted cfg command device address count) :=
  inferInstanceAs (Decidable (_ ∧ _))

/-- The values that a new request starts from. -/
def startValues (cfg : Config) (values : List Word) : List Word :=
  if cfg.FX5_CLEAR_VALUES_ON_SET_REQUEST then List.replicate cfg.FX5_MAX_VALUE_COUNT 0 else values

/-- The context with a new active request. -/
def Context.withRequest (cfg : Config) (ctx : Context) (command : Command) (device : Device)
    (address : BitVec 32) (count : Word) : Context :=
  { ctx with
    command := command
    device := device
    address := address.toNat
    count := count.toNat
    responseCode := FX5_RESPONSE_OK
    resyncCounter := 0
    values := startValues cfg ctx.values }

theorem clearValuesLoop_spec {values : List Word} (h : values.length = cfg.FX5_MAX_VALUE_COUNT) :
    clearValuesLoop cfg values = some (List.replicate cfg.FX5_MAX_VALUE_COUNT 0) := by
  have hstep : ∀ k vs, 0 ≤ k → k < 0 + cfg.FX5_MAX_VALUE_COUNT →
      vs = List.replicate k 0x0000#16 ++ values.drop k →
      ∃ vs', store vs k 0x0000#16 = some vs' ∧
        vs' = List.replicate (k + 1) 0x0000#16 ++ values.drop (k + 1) := by
    rintro k _ _ hk rfl
    refine ⟨_, ?_, rfl⟩
    rw [store_append_drop List.length_replicate (by omega), List.replicate_succ']
  obtain ⟨vs, hvs, rfl⟩ := forRange_rule _ cfg.FX5_MAX_VALUE_COUNT 0 values rfl hstep
  rw [clearValuesLoop, hvs, List.drop_eq_nil_of_le (by omega), List.append_nil, Nat.zero_add]
  rfl

theorem setRequest_cases (hvalues : ctx.values.length = cfg.FX5_MAX_VALUE_COUNT)
    (huse : ctx.inUse = true) (command : Command) (device : Device) (address : BitVec 32)
    (count : Word) :
    (∃ status, status ≠ .ok ∧ ¬ RequestAccepted cfg command device address count ∧
      setRequest cfg ctx command device address count = some (status, ctx)) ∨
    (RequestAccepted cfg command device address count ∧
      setRequest cfg ctx command device address count =
        some (.ok, ctx.withRequest cfg command device address count)) := by
  unfold setRequest
  rw [requireAcquired_ok huse]
  simp only
  split
  · rename_i h
    exact Or.inl ⟨_, by decide, fun hacc => hacc.1 h, rfl⟩
  split
  · rename_i h
    exact Or.inl ⟨_, by decide, fun hacc => Nat.not_lt_of_le hacc.2.1 h, rfl⟩
  split
  · rename_i h
    exact Or.inl ⟨_, by decide, fun hacc => by simp [hacc.2.2.1] at h, rfl⟩
  split
  · rename_i h
    exact Or.inl ⟨_, by decide, fun hacc => by simp [hacc.2.2.2.1] at h, rfl⟩
  rename_i hcount haddress hcommand hdevice
  rcases Nat.lt_or_ge (getMaxValueCount cfg device) count.toNat with hmax | hmax
  · exact Or.inl ⟨.errInvalidCount, by decide, fun hacc => Nat.not_lt_of_le hacc.2.2.2.2 hmax,
      if_pos hmax⟩
  · refine Or.inr ⟨⟨hcount, Nat.le_of_not_lt haddress, by simpa using hcommand,
      by simpa using hdevice, hmax⟩, ?_⟩
    unfold Context.withRequest startValues
    refine (if_neg (Nat.not_lt_of_le hmax)).trans ?_
    split
    · rw [clearValuesLoop_spec hvalues]
      rfl
    · rfl

theorem Context.Inv.withRequest (hinv : ctx.Inv cfg) {command : Command} {device : Device}
    {address : BitVec 32} {count : Word}
    (hacc : RequestAccepted cfg command device address count) :
    (ctx.withRequest cfg command device address count).Inv cfg where
  device := hacc.2.2.2.1
  command := hacc.2.2.1
  header := hinv.header
  address := hacc.2.1
  count := hacc.2.2.2.2
  values := by
    simp only [Context.withRequest, startValues]
    split
    · exact List.length_replicate
    · exact hinv.values
  ring := hinv.ring
  capacity := hinv.capacity
  serial := hinv.serial
  nextSerial := hinv.nextSerial

/-- The values after one successful write. -/
def writtenValues (ctx : Context) (index : Nat) (value : Word) : List Word :=
  if isBitDevice ctx.device then setBitAt ctx.values index (value != 0) else ctx.values.set index value

@[simp] theorem writtenValues_length (ctx : Context) (index : Nat) (value : Word) :
    (writtenValues ctx index value).length = ctx.values.length := by
  unfold writtenValues
  split
  · exact setBitAt_length _ _ _
  · exact List.length_set

theorem Context.Inv.written (hinv : ctx.Inv cfg) (index : Nat) (value : Word) :
    { ctx with values := writtenValues ctx index value : Context }.Inv cfg :=
  { hinv with values := (writtenValues_length ctx index value).trans hinv.values }

/-- A write below the active count succeeds; every other write fails. -/
theorem setWriteValue_cases (hinv : ctx.Inv cfg) (huse : ctx.inUse = true) (index value : Word) :
    (∃ status, status ≠ .ok ∧ ctx.count ≤ index.toNat ∧
      setWriteValue cfg ctx index value = some (status, ctx)) ∨
    (index.toNat < ctx.count ∧ setWriteValue cfg ctx index value =
      some (.ok, { ctx with values := writtenValues ctx index.toNat value })) := by
  have hslots := hinv.count_le_slots
  have hvalues := hinv.values
  have hcount := hinv.count_lt
  unfold setWriteValue
  rw [requireAcquired_ok huse]
  simp only
  split
  · exact Or.inl ⟨_, by decide, by omega, rfl⟩
  split
  · rename_i h
    exact Or.inl ⟨_, by decide, h, rfl⟩
  · rename_i hne hlt
    refine Or.inr ⟨by omega, ?_⟩
    unfold writtenValues
    split
    · have hslot : index.toNat / 16 < ctx.values.length := by omega
      rw [u16_of_lt (by omega), if_neg (by omega), List.getElem?_eq_getElem hslot]
      simp only [Option.bind_eq_bind, Option.bind_some]
      rw [store_of_lt hslot, setBitAt, List.getD_eq_getElem _ _ hslot, setBit]
      simp only [bne_iff_ne, Option.bind_some]
    · rename_i hdevice
      have hword := hinv.word_count_le (by simpa using hdevice)
      rw [if_neg (by rw [FX5_MAX_WORD_VALUE_COUNT, ← hvalues]; omega), store_of_lt (by omega)]
      rfl

/-! ## Receiving -/

/-- The buffer after the bytes `bs` were pushed. -/
def RingBuf.pushAll (rb : RingBuf) (bs : List Byte) : RingBuf := bs.foldl RingBuf.push rb

/-- The context after the bytes `bs` were received. -/
def Context.received (ctx : Context) (bs : List Byte) : Context :=
  { ctx with rxCbuffer := ctx.rxCbuffer.pushAll bs }

theorem RingBuf.Inv.pushAll {rb : RingBuf} (h : rb.Inv) :
    ∀ {bs : List Byte}, rb.size + bs.length ≤ rb.capacity →
      (rb.pushAll bs).Inv ∧ (rb.pushAll bs).contents = rb.contents ++ bs ∧
        (rb.pushAll bs).capacity = rb.capacity := by
  intro bs
  induction bs generalizing rb with
  | nil =>
    intro _
    exact ⟨h, (List.append_nil _).symm, rfl⟩
  | cons b bs ih =>
    intro hroom
    rw [List.length_cons] at hroom
    have hpush := h.push (by omega) b
    have hsize : (rb.push b).size = rb.size + 1 := rfl
    have hcap : (rb.push b).capacity = rb.capacity := rfl
    obtain ⟨hinv, hcont, hcapacity⟩ := ih hpush (by omega)
    refine ⟨hinv, ?_, hcapacity⟩
    rw [RingBuf.pushAll, List.foldl_cons, ← RingBuf.pushAll, hcont, h.contents_push (by omega),
      List.append_assoc]
    rfl

/-- Within the capacity, the feed loop pushes every byte. -/
theorem feedLoop_spec {data : List Byte} {size : Nat} (hsize : size ≤ data.length) :
    ∀ {k : Nat} {rb : RingBuf}, rb.Inv → k ≤ size → rb.size + (size - k) ≤ rb.capacity →
      feedLoop data size k rb = some (.ok, rb.pushAll ((data.take size).drop k)) := by
  intro k rb hinv hk hroom
  induction h : size - k generalizing k rb with
  | zero =>
    rw [feedLoop, if_neg (by omega), List.drop_eq_nil_of_le (by simp; omega)]
    rfl
  | succ n ih =>
    have hlt : k < data.length := by omega
    have hsize' : (rb.push data[k]).size = rb.size + 1 := rfl
    have hcap : (rb.push data[k]).capacity = rb.capacity := rfl
    have hdrop : (data.take size).drop k = data[k] :: (data.take size).drop (k + 1) := by
      rw [List.drop_eq_getElem_cons (by simp; omega), List.getElem_take]
    rw [feedLoop, if_pos (by omega), List.getElem?_eq_getElem hlt]
    simp only [Option.bind_eq_bind, Option.bind_some]
    rw [ringbufPushBack_spec hinv (by omega)]
    simp only [Option.bind_some]
    rw [ih (hinv.push (by omega) _) (by omega) (by omega) (by omega), hdrop]
    rfl

/-- Feeding is all or nothing: every byte is appended, or none. -/
theorem feedResponseBytes_cases (hinv : ctx.Inv cfg) (huse : ctx.inUse = true)
    {data : Option (List Byte)} {size : Word} (hdata : ∀ d, data = some d → size.toNat ≤ d.length) :
    (∃ status, status ≠ .ok ∧
      (data = none ∨ FX5_IOBUF_SIZE cfg < ctx.rxCbuffer.contents.length + size.toNat) ∧
      feedResponseBytes cfg ctx data size = some (status, ctx)) ∨
    (∃ d, data = some d ∧ ctx.rxCbuffer.contents.length + size.toNat ≤ FX5_IOBUF_SIZE cfg ∧
      feedResponseBytes cfg ctx data size = some (.ok, ctx.received (d.take size.toNat))) := by
  have hcap := hinv.capacity
  have hlen := hinv.ring.contents_length
  unfold feedResponseBytes
  rw [requireAcquired_ok huse]
  simp only
  cases data with
  | none => exact Or.inl ⟨.errNull, by decide, Or.inl rfl, rfl⟩
  | some d =>
    have hd := hdata d rfl
    have hrs : ringbufSize ctx.rxCbuffer = ctx.rxCbuffer.contents.length := hlen.symm
    rw [hrs]
    rcases Nat.lt_or_ge (FX5_IOBUF_SIZE cfg) (ctx.rxCbuffer.contents.length + size.toNat) with h | h
    · exact Or.inl ⟨.errTooSmall, by decide, Or.inr h, if_pos h⟩
    · refine Or.inr ⟨d, rfl, h, (if_neg (Nat.not_lt_of_le h)).trans ?_⟩
      rw [feedLoop_spec hd hinv.ring (Nat.zero_le _) (by omega), List.drop_zero]
      rfl

/-- Bytes that fit the free receive space are fed. -/
theorem feed_fitting (hinv : ctx.Inv cfg) (huse : ctx.inUse = true) {bs : List Byte}
    (hroom : ctx.rxCbuffer.contents.length + bs.length ≤ FX5_IOBUF_SIZE cfg) :
    feedResponseBytes cfg ctx (some bs) (BitVec.ofNat 16 bs.length) =
      some (.ok, ctx.received bs) := by
  have hbound := (iobufSize_bounds cfg).2
  have hsize : (BitVec.ofNat 16 bs.length).toNat = bs.length := by
    rw [BitVec.toNat_ofNat]
    omega
  have hdata : ∀ d, some bs = some d → (BitVec.ofNat 16 bs.length).toNat ≤ d.length := by
    rintro d ⟨⟩
    exact Nat.le_of_eq hsize
  rcases feedResponseBytes_cases hinv huse hdata with ⟨_, _, hfull, _⟩ | ⟨d, hd, _, hfeed⟩
  · rw [hsize] at hfull
    rcases hfull with h | h
    · cases h
    · omega
  · cases hd
    rw [hsize, List.take_length] at hfeed
    exact hfeed

theorem Context.Inv.received (hinv : ctx.Inv cfg) {bs : List Byte}
    (hroom : ctx.rxCbuffer.contents.length + bs.length ≤ FX5_IOBUF_SIZE cfg) :
    (ctx.received bs).Inv cfg ∧
      (ctx.received bs).rxCbuffer.contents = ctx.rxCbuffer.contents ++ bs := by
  have hlen := hinv.ring.contents_length
  have hroom' : ctx.rxCbuffer.size + bs.length ≤ ctx.rxCbuffer.capacity := by
    rw [hinv.capacity, ← hlen]
    exact hroom
  obtain ⟨hring, hcont, hcap⟩ := hinv.ring.pushAll hroom'
  exact ⟨{ hinv with ring := hring, capacity := hcap.trans hinv.capacity }, hcont⟩

/-! ## Reading the answer -/

/-- The value with index `i` in the store of a device class. -/
def valueAt (device : Device) (values : List Word) (i : Nat) : Word :=
  if isBitDevice device then (if bitAt values i then FX5_BIT_TRUE else FX5_BIT_FALSE)
  else values.getD i 0

theorem getResponseValue_spec (hinv : ctx.Inv cfg) (huse : ctx.inUse = true) (index : Word) :
    getResponseValue cfg ctx index =
      if index.toNat < ctx.count then some (.ok, some (valueAt ctx.device ctx.values index.toNat))
      else some (.errInvalidIndex, none) := by
  have hslots := hinv.count_le_slots
  have hvalues := hinv.values
  have hcount := hinv.count_lt
  unfold getResponseValue
  rw [requireAcquired_ok huse]
  simp only
  rcases Nat.lt_or_ge index.toNat ctx.count with hlt | hge
  · rw [if_neg (Nat.not_le_of_lt hlt), if_pos hlt, valueAt]
    cases hdevice : isBitDevice ctx.device with
    | true =>
      have hslot : index.toNat / 16 < ctx.values.length := by omega
      have hmask := and_mask_ne_zero (x := ctx.values[index.toNat / 16])
        (Nat.mod_lt index.toNat (by decide : 0 < 16))
      rw [if_pos rfl, if_pos rfl, u16_of_lt (by omega), if_neg (by omega),
        List.getElem?_eq_getElem hslot, bitAt, List.getD_eq_getElem _ _ hslot]
      simp only [Option.bind_eq_bind, Option.bind_some, hmask]
    | false =>
      have hword := hinv.word_count_le hdevice
      have hslot : index.toNat < ctx.values.length := by omega
      rw [if_neg (by decide), if_neg (by decide), List.getElem?_eq_getElem hslot,
        List.getD_eq_getElem _ _ hslot]
      rfl
  · rw [if_pos hge, if_neg (Nat.not_lt_of_le hge)]

end Api

end Fx5
