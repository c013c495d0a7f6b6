import Fx5Slmp.Ownership
import Fx5Slmp.ParseEffects
import Fx5Slmp.RequestDecoding

/-!
# The library without its representation

What a context is for its users: the settings, a request with one value for every point, the bytes
that were received, the last end code and the serial numbers.  The packed value store, the ring buffer
and the scan of the parser are not in it; a request is a list of bytes, and a response is the first
viable frame of a list of bytes.

* `encodeRequest` — the bytes of a request, as a function of what the reference decoder reads;
* `plainCall` — every call of the API on a plain context, with its reply;
* `Context.plain` — the abstraction function;
* `callContext_plain` — **one call** and its plain counterpart;
* `library_runs_plain` — **refinement**: in every history of calls a context answers as a plain one.
-/

set_option autoImplicit false

namespace Fx5

open PackedBits

/-! ## Requests -/

/-- The bytes of a PDU. -/
def encodePdu (pdu : DecodedPdu) : List Byte :=
  pduWrU16Le (u16 pdu.command.code) ++ pduWrU16Le (subCommandOf pdu.device) ++
  pduWrU24Le pdu.address ++ [BitVec.ofNat 8 pdu.device.code] ++ pduWrU16Le pdu.count ++
  match pdu.payload with
  | some payload => payload.encode
  | none => []

/-- The bytes of a request. -/
def encodeRequest (r : DecodedRequest) : List Byte :=
  wireHeaderBytes r.settings (r.serial.getD 0) (encodePdu r.pdu).length ++ encodePdu r.pdu

/-- The status with which `fx5_set_request` refuses its arguments; nothing if it accepts them. -/
def requestRefusal (cfg : Config) (command : Command) (device : Device) (address count : Nat) :
    Option Status :=
  if count = 0 then some .errInvalidCount
  else if address > FX5_MAX_ADDRESS then some .errInvalidAddress
  else if isSupportedCommand command = false then some .errUnsupported
  else if isSupportedDevice device = false then some .errUnsupported
  else if count > getMaxValueCount cfg device then some .errInvalidCount
  else none

/-! ## Plain contexts -/

/-- A context as its users see it.  A request that was answered has no values. -/
structure PlainContext where
  settings : NetworkSettings
  command : Command
  device : Device
  address : Nat
  values : List Word
  endCode : Nat
  pending : List Byte
  serial : Nat
  nextSerial : Nat

/-- What an acquisition and a reset hand out. -/
def PlainContext.init : PlainContext where
  settings := networkSettingsInit
  command := .batchRead
  device := .D
  address := 0
  values := []
  endCode := FX5_RESPONSE_OK
  pending := []
  serial := 0
  nextSerial := 0

namespace PlainContext

/-- The values as a write request carries them. -/
def payload (p : PlainContext) : Payload :=
  if isBitDevice p.device then .bits (p.values.map (· != 0)) else .words p.values

def pdu (p : PlainContext) : DecodedPdu where
  command := p.command
  device := p.device
  address := p.address
  count := p.values.length
  payload := if p.command = .batchWrite then some p.payload else none

/-- The bytes of the request that is built next. -/
def request (p : PlainContext) : List Byte :=
  encodeRequest ⟨p.settings, some p.nextSerial, p.pdu⟩

/-- The status with which a request is not built. -/
def refusal (p : PlainContext) : Option Status :=
  if p.values = [] then some .errInvalidCount
  else if p.command = .batchWrite ∧ deviceAllowsWrite p.device = false then some .errUnsupported
  else none

/-- A request was built; only 4E requests use up a serial number. -/
def sent (p : PlainContext) : PlainContext :=
  if p.settings.headerType = .h4E then
    { p with serial := p.nextSerial, nextSerial := u16 (p.nextSerial + 1) }
  else { p with serial := 0 }

/-- A value is a bit for a bit device. -/
def stored (p : PlainContext) (value : Word) : Word :=
  if isBitDevice p.device then if value != 0 then FX5_BIT_TRUE else FX5_BIT_FALSE else value

/-- What the payload behind an end code makes of a request: the status, the values of the request
behind it, and how many bytes of the payload are consumed. -/
def answered (p : PlainContext) (endCode : Nat) (payload : List Byte) :
    Status × List Word × Nat :=
  if endCode ≠ FX5_RESPONSE_OK then (.responseError, [], payload.length)
  else if p.command = .batchWrite then
    if payload = [] then (.ok, [], 0) else (.errInvalidCount, p.values, payload.length)
  else if p.values ≠ [] ∧ payload.length = readPayloadLength p.device p.values.length then
    (.ok, (List.range p.values.length).map (payloadValue p.device p.values.length payload),
      payload.length)
  else
    -- an odd payload to a word read stays in the buffer
    (.errInvalidCount, p.values,
      if isBitDevice p.device = false ∧ payload.length % 2 = 1 then 0 else payload.length)

/-- The first viable frame of the pending bytes is answered. -/
def parse (cfg : Config) (p : PlainContext) : Status × PlainContext :=
  let k := frameStart cfg p.serial p.pending
  let b := p.pending.drop k
  if FX5_RESYNC_LIMIT < k then
    (.errResync, { p with pending := p.pending.drop (resyncEnd FX5_RESYNC_LIMIT p.pending) })
  else if ¬CompleteFrame cfg p.serial b then (.errNeedMore, { p with pending := b })
  else
    let endCode := le16At (packetOf b) 0
    let r := p.answered endCode ((packetOf b).drop FX5_RESP_PDU_HEADER_SIZE)
    (r.1, { p with
      values := r.2.1
      endCode := endCode
      pending := b.drop
        (getResponseHeaderSize (magicOf b) + (FX5_RESP_PDU_HEADER_SIZE + r.2.2)) })

end PlainContext

/-! ## Calls -/

/-- A call on a plain context, with its reply. -/
def plainCall (cfg : Config) (p : PlainContext) : Call → Reply × PlainContext
  | .acquire => (.handle .ok none, p)
  | .release _ => (.released, .init)
  | .reset _ => (.done .ok, .init)
  | .setNetworkSettings _ none => (.done .errNull, p)
  | .setNetworkSettings _ (some settings) =>
    if HeaderAccepted settings.headerType then (.done .ok, { p with settings := settings })
    else (.done .errUnsupported, p)
  | .getNetworkSettings _ hasOut =>
    (if hasOut then .settings .ok (some p.settings) else .settings .errNull none, p)
  | .setHeaderMode _ mode =>
    if HeaderAccepted mode then
      (.done .ok, { p with settings := { p.settings with headerType := mode } })
    else (.done .errUnsupported, p)
  | .setMonitoringTimer _ timer =>
    (.done .ok, { p with settings := { p.settings with monitoringTimer := timer } })
  | .setRequest _ command device address count =>
    match requestRefusal cfg command device address.toNat count.toNat with
    | some status => (.done status, p)
    | none => (.done .ok, { p with
        command := command
        device := device
        address := address.toNat
        values := List.replicate count.toNat 0
        endCode := FX5_RESPONSE_OK })
  | .setWriteValue _ index value =>
    if p.values = [] then (.done .errState, p)
    else if p.values.length ≤ index.toNat then (.done .errInvalidIndex, p)
    else (.done .ok, { p with values := p.values.set index.toNat (p.stored value) })
  | .buildRequest _ (some out) size (some actual) =>
    match p.refusal with
    | some status => (.built status (some out) (some actual), p)
    | none =>
      let n := p.request.length
      if size.toNat < n then (.built .errTooSmall (some out) (some n), p)
      else (.built .ok (some (p.request ++ out.drop n)) (some n), p.sent)
  | .buildRequest _ out _ actual => (.built .errNull out actual, p)
  | .feedResponseBytes _ none _ => (.done .errNull, p)
  | .feedResponseBytes _ (some data) size =>
    if FX5_IOBUF_SIZE cfg < p.pending.length + size.toNat then (.done .errTooSmall, p)
    else (.done .ok, { p with pending := p.pending ++ data.take size.toNat })
  | .parseResponse _ => (.done (p.parse cfg).1, (p.parse cfg).2)
  | .getResponseCode _ => (.number p.endCode, p)
  | .getResponseCount _ => (.number p.values.length, p)
  | .getResponseValue _ index hasOut =>
    (if hasOut = false then .value .errNull none
    else if index.toNat < p.values.length then .value .ok p.values[index.toNat]?
    else .value .errInvalidIndex none, p)
  | .getLastSerial _ => (.number p.serial, p)

/-- The contexts of the library by handle; one that is free holds nothing. -/
abbrev PlainPool := List (Option PlainContext)

/-- A call of the API.  It is refused on a handle that nobody holds. -/
def plainStep (cfg : Config) (pool : PlainPool) (call : Call) : Option (Reply × PlainPool) :=
  match call.target with
  | none =>
    match pool.findIdx? Option.isNone with
    | some h => some (.handle .ok (some h), pool.set h (some .init))
    | none => some (.handle .errNoContext none, pool)
  | some h =>
    match pool[h]? with
    | some (some p) =>
      let (reply, p) := plainCall cfg p call
      some (reply, pool.set h (if call = .release h then none else some p))
    | some none => some (call.refusal, pool)
    | none => none

/-- The replies of some calls, and the contexts behind them. -/
def plainRun (cfg : Config) : PlainPool → List Call → Option (List Reply × PlainPool)
  | pool, [] => some ([], pool)
  | pool, call :: calls => do
    let (reply, pool) ← plainStep cfg pool call
    let (replies, pool) ← plainRun cfg pool calls
    some (reply :: replies, pool)

/-! ## The abstraction -/

/-- A context as its users see it. -/
def Context.plain (ctx : Context) : PlainContext where
  settings := ctx.networkSettings
  command := ctx.command
  device := ctx.device
  address := ctx.address
  values := (List.range ctx.count).map (valueAt ctx.device ctx.values)
  endCode := ctx.responseCode
  pending := ctx.rxCbuffer.contents
  serial := ctx.serial
  nextSerial := ctx.nextSerial

@[simp] theorem plain_values_length (ctx : Context) : ctx.plain.values.length = ctx.count := by
  simp [Context.plain]

theorem plain_values_nil {ctx : Context} : ctx.plain.values = [] ↔ ctx.count = 0 := by
  rw [← List.length_eq_zero_iff, plain_values_length]

/-- Two contexts look alike if their fields do. -/
theorem plain_cleared {cfg : Config} {ctx : Context} (hsized : ctx.Sized cfg) (inUse : Bool) :
    { contextResetInternal cfg ctx with inUse := inUse : Context }.plain = .init := by
  have hempty := contextResetInternal_contents hsized
  unfold Context.plain PlainContext.init
  simp only [PlainContext.mk.injEq]
  exact ⟨rfl, rfl, rfl, rfl, rfl, rfl, hempty, rfl, rfl⟩

/-! ## The same requests -/

section Requests

variable {cfg : Config} {ctx : Context}

theorem plain_payload (hinv : ctx.Inv cfg) : ctx.plain.payload = ctx.payload := by
  unfold PlainContext.payload Context.payload Context.plain
  simp only
  split
  · rename_i hdevice
    rw [bitValues, List.map_map]
    refine congrArg Payload.bits (List.map_congr_left fun i _ => ?_)
    rw [Function.comp_apply, valueAt, if_pos hdevice]
    cases bitAt ctx.values i <;> rfl
  · rename_i hdevice
    have hword := hinv.word_count_le (by simpa using hdevice)
    refine congrArg Payload.words (List.ext_getElem ?_ fun i h₁ h₂ => ?_)
    · rw [List.length_take, List.length_map, List.length_range]
      omega
    · rw [List.length_map, List.length_range] at h₁
      rw [List.getElem_map, List.getElem_range, List.getElem_take, valueAt, if_neg hdevice,
        List.getD_eq_getElem _ _ (by omega)]

theorem payload_encode (ctx : Context) : ctx.payload.encode = writePayload ctx := by
  unfold Context.payload writePayload
  split <;> rfl

theorem encodePdu_plain (hinv : ctx.Inv cfg) : encodePdu ctx.plain.pdu = pduBytes ctx := by
  unfold encodePdu pduBytes accessPrefixBytes PlainContext.pdu
  rw [plain_values_length, plain_payload hinv]
  congr 1
  have hcommand : ctx.plain.command = ctx.command := rfl
  rw [hcommand]
  by_cases hwrite : ctx.command = .batchWrite
  · simp only [hwrite, if_true, payload_encode]
  · simp only [hwrite, if_false]

/-- **The bytes of the request** are the same. -/
theorem plain_request (hinv : ctx.Inv cfg) : ctx.plain.request = requestBytes ctx := by
  rw [PlainContext.request, encodeRequest, requestBytes, encodePdu_plain hinv]
  rfl

/-- A request that is active was accepted, so only a write to a read-only device is refused. -/
theorem validateRequest_eq (hinv : ctx.Inv cfg) :
    validateRequest cfg ctx =
      if ctx.count = 0 then .errInvalidCount
      else if ctx.command = .batchWrite ∧ deviceAllowsWrite ctx.device = false then .errUnsupported
      else .ok := by
  have hheader : ¬(ctx.networkSettings.headerType ≠ .h3E ∧ ctx.networkSettings.headerType ≠ .h4E) :=
    fun h => hinv.header.elim h.1 h.2
  have hcommand : ¬(!isSupportedCommand ctx.command) = true := by rw [hinv.command]; decide
  have hdevice : ¬(!isSupportedDevice ctx.device) = true := by rw [hinv.device]; decide
  unfold validateRequest
  rw [if_neg (Nat.not_lt_of_le hinv.address), if_neg hcommand, if_neg hdevice,
    if_neg (Nat.not_lt_of_le hinv.count), if_neg hheader]
  simp only [Bool.not_eq_true']

/-- **A request is refused** for the same reason. -/
theorem plain_refusal (hinv : ctx.Inv cfg) :
    (ctx.Valid cfg ∧ ctx.plain.refusal = none) ∨
      (¬ctx.Valid cfg ∧ ctx.plain.refusal = some (validateRequest cfg ctx)) := by
  unfold Context.Valid PlainContext.refusal
  rw [validateRequest_eq hinv]
  simp only [plain_values_nil]
  have hcommand : ctx.plain.command = ctx.command := rfl
  have hdevice : ctx.plain.device = ctx.device := rfl
  rw [hcommand, hdevice]
  split
  · exact Or.inr ⟨by decide, rfl⟩
  split
  · exact Or.inr ⟨by decide, rfl⟩
  · exact Or.inl ⟨rfl, rfl⟩

/-- **A request is sent**: the serial numbers are the same. -/
theorem plain_sent (ctx : Context) : ctx.sent.plain = ctx.plain.sent := by
  unfold Context.sent PlainContext.sent
  have hheader : ctx.plain.settings.headerType = ctx.networkSettings.headerType := rfl
  rw [hheader]
  split <;> rfl

/-- **A new request** is refused exactly if it is not accepted. -/
theorem requestRefusal_none {command : Command} {device : Device} {address : BitVec 32}
    {count : Word} : requestRefusal cfg command device address.toNat count.toNat = none ↔
      RequestAccepted cfg command device address count := by
  unfold requestRefusal RequestAccepted
  split
  · rename_i hcount
    exact ⟨nofun, fun hacc => absurd hcount hacc.1⟩
  rename_i hcount
  split
  · rename_i haddress
    exact ⟨nofun, fun hacc => absurd haddress (Nat.not_lt_of_le hacc.2.1)⟩
  rename_i haddress
  split
  · rename_i hcommand
    exact ⟨nofun, fun hacc => absurd (hacc.2.2.1.symm.trans hcommand) (by decide)⟩
  rename_i hcommand
  split
  · rename_i hdevice
    exact ⟨nofun, fun hacc => absurd (hacc.2.2.2.1.symm.trans hdevice) (by decide)⟩
  rename_i hdevice
  split
  · rename_i hmax
    exact ⟨nofun, fun hacc => absurd hmax (Nat.not_lt_of_le hacc.2.2.2.2)⟩
  rename_i hmax
  exact ⟨fun _ => ⟨hcount, Nat.le_of_not_lt haddress, Bool.eq_true_of_not_eq_false hcommand,
    Bool.eq_true_of_not_eq_false hdevice, Nat.le_of_not_lt hmax⟩, fun _ => rfl⟩

theorem requestRefusal_ne_ok {command : Command} {device : Device} {address count : Nat}
    {status : Status} (h : requestRefusal cfg command device address count = some status) :
    status ≠ .ok := by
  unfold requestRefusal at h
  repeat' split at h
  all_goals
    cases h
    try decide

/-- The library refuses it with the same status. -/
theorem setRequest_refusal (huse : ctx.inUse = true) {command : Command} {device : Device}
    {address : BitVec 32} {count : Word} {status : Status}
    (h : requestRefusal cfg command device address.toNat count.toNat = some status) :
    setRequest cfg ctx command device address count = some (status, ctx) := by
  unfold requestRefusal at h
  unfold setRequest
  rw [requireAcquired_ok huse]
  simp only [Bool.not_eq_true']
  split at h
  · rename_i hcount
    cases h
    exact if_pos hcount
  rename_i hcount
  rw [if_neg hcount]
  split at h
  · rename_i haddress
    cases h
    exact if_pos haddress
  rename_i haddress
  rw [if_neg haddress]
  split at h
  · rename_i hcommand
    cases h
    exact if_pos hcommand
  rename_i hcommand
  rw [if_neg hcommand]
  split at h
  · rename_i hdevice
    cases h
    exact if_pos hdevice
  rename_i hdevice
  rw [if_neg hdevice]
  split at h
  · rename_i hmax
    cases h
    exact if_pos hmax
  · cases h

theorem valueAt_zero (device : Device) (n i : Nat) :
    valueAt device (List.replicate n 0) i = 0 := by
  unfold valueAt
  split
  · rw [bitAt, getD_replicate_zero]
    exact if_neg (by simp)
  · exact getD_replicate_zero n i

/-- **A new request** has the value 0 at every point. -/
theorem plain_withRequest (hclear : cfg.FX5_CLEAR_VALUES_ON_SET_REQUEST = true) (ctx : Context)
    (command : Command) (device : Device) (address : BitVec 32) (count : Word) :
    (ctx.withRequest cfg command device address count).plain = { ctx.plain with
      command := command
      device := device
      address := address.toNat
      values := List.replicate count.toNat 0
      endCode := FX5_RESPONSE_OK } := by
  have hvalues : (List.range count.toNat).map (valueAt device (startValues cfg ctx.values)) =
      List.replicate count.toNat 0 := by
    rw [startValues, if_pos hclear, List.eq_replicate_iff]
    refine ⟨by simp, fun value hmem => ?_⟩
    obtain ⟨i, _, rfl⟩ := List.mem_map.mp hmem
    exact valueAt_zero device _ i
  unfold Context.plain Context.withRequest
  simp only [hvalues]

/-- **A written value** replaces the one at its index. -/
theorem plain_written (hinv : ctx.Inv cfg) {index : Nat} (hlt : index < ctx.count) (value : Word) :
    { ctx with values := writtenValues ctx index value : Context }.plain =
      { ctx.plain with values := ctx.plain.values.set index (ctx.plain.stored value) } := by
  have hone (i : Nat) : valueAt ctx.device (writtenValues ctx index value) i =
      if i = index then ctx.plain.stored value else valueAt ctx.device ctx.values i := by
    have hdevice' : ctx.plain.device = ctx.device := rfl
    unfold valueAt PlainContext.stored
    rw [hdevice']
    cases hdevice : isBitDevice ctx.device with
    | true =>
      have hbit : bitAt (writtenValues ctx index value) i =
          if i = index then value != 0 else bitAt ctx.values i :=
        singleWrite_bits hinv hdevice ctx.values index value rfl hlt i
      rw [if_pos rfl, if_pos rfl, if_pos rfl, hbit]
      split <;> rfl
    | false =>
      have hword : (writtenValues ctx index value).getD i 0 =
          if i = index then value else ctx.values.getD i 0 :=
        singleWrite_words hinv hdevice ctx.values index value rfl hlt i
      simp only [Bool.false_eq_true, if_false, hword]
  have hvalues : (List.range ctx.count).map (valueAt ctx.device (writtenValues ctx index value)) =
      ctx.plain.values.set index (ctx.plain.stored value) := by
    refine List.ext_getElem (by simp) fun i h₁ h₂ => ?_
    rw [List.getElem_map, List.getElem_range, hone, List.getElem_set]
    simp only [Context.plain, List.getElem_map, List.getElem_range, eq_comm]
  unfold Context.plain at hvalues ⊢
  simp only [hvalues]

end Requests

/-! ## The same answers -/

section Answers

variable {cfg : Config} {ctx ctx' : Context}

/-- The payload stage and the plain answer. -/
structure SameAnswer (device : Device) (r : PduResult) (answer : Status × List Word × Nat) :
    Prop where
  status : r.status = answer.1
  values : (List.range r.count).map (valueAt device r.values) = answer.2.1
  consumed : r.consumed = answer.2.2

/-- A read payload behind the end code 0 that has the wrong length, or no request to belong to. -/
theorem payloadResult_refused (hread : ctx.command = .batchRead)
    (hcode : ctx.responseCode = FX5_RESPONSE_OK) {p : List Byte}
    (h : ¬(ctx.count ≠ 0 ∧ p.length = readPayloadLength ctx.device ctx.count)) :
    payloadResult ctx p = .reject ctx
      (if isBitDevice ctx.device = false ∧ p.length % 2 = 1 then 0 else p.length) := by
  rw [payloadResult, if_neg (not_not.mpr hcode), if_neg (by rw [hread]; decide)]
  unfold readPayloadLength at h
  cases hdevice : isBitDevice ctx.device with
  | true =>
    rw [if_pos hdevice] at h
    rw [if_pos rfl, bitPayloadResult, if_pos (by omega), if_neg (by simp)]
  | false =>
    rw [if_neg (by simp [hdevice])] at h
    rw [if_neg (by decide), wordPayloadResult]
    split
    · rename_i hodd
      rw [if_pos ⟨rfl, hodd⟩]
    · rename_i heven
      rw [if_pos (by omega), if_neg fun hodd => heven hodd.2]

/-- **The payload behind an end code.** -/
theorem plain_answered (hinv : ctx.Inv cfg) (p : List Byte) :
    SameAnswer ctx.device (payloadResult ctx p) (ctx.plain.answered ctx.responseCode p) := by
  have hcommand : ctx.plain.command = ctx.command := rfl
  have hdevice : ctx.plain.device = ctx.device := rfl
  unfold PlainContext.answered
  rw [hcommand, hdevice, plain_values_length]
  by_cases hcode : ctx.responseCode ≠ FX5_RESPONSE_OK
  · rw [if_pos hcode, payloadResult, if_pos hcode]
    exact ⟨rfl, rfl, rfl⟩
  rw [if_neg hcode]
  by_cases hwrite : ctx.command = .batchWrite
  · rw [if_pos hwrite, payloadResult, if_neg hcode, if_pos hwrite]
    split <;> exact ⟨rfl, rfl, rfl⟩
  rw [if_neg hwrite]
  have hread : ctx.command = .batchRead :=
    (isSupportedCommand_cases hinv.command).resolve_right hwrite
  have hstatus := payloadResult_status_iff hread (not_not.mp hcode) (p := p)
  by_cases hlen : ctx.count ≠ 0 ∧ p.length = readPayloadLength ctx.device ctx.count
  · obtain ⟨values, hres, hvalues⟩ :=
      payloadResult_ok hinv hread (not_not.mp hcode) (hstatus.mpr hlen)
    rw [if_pos ⟨fun h => hlen.1 (plain_values_nil.mp h), hlen.2⟩, hres]
    refine ⟨rfl, List.map_congr_left fun i hi => ?_, rfl⟩
    exact hvalues i (List.mem_range.mp hi)
  · rw [if_neg fun h => hlen ⟨fun hzero => h.1 (plain_values_nil.mpr hzero), h.2⟩]
    rw [payloadResult_refused hread (not_not.mp hcode) hlen]
    exact ⟨rfl, rfl, rfl⟩

/-- **A packet** is answered in the same way. -/
theorem plain_packet (hinv : ctx.Inv cfg) (packet : List Byte) {r : PduResult}
    (hr : pduResult ctx packet = r) {answer : Status × List Word × Nat}
    (hanswer : ctx.plain.answered (le16At packet 0) (packet.drop FX5_RESP_PDU_HEADER_SIZE) =
      answer) :
    r.status = answer.1 ∧ r.responseCode = le16At packet 0 ∧
      (List.range r.count).map (valueAt ctx.device r.values) = answer.2.1 ∧
      r.consumed = FX5_RESP_PDU_HEADER_SIZE + answer.2.2 := by
  have hinv₁ : { ctx with responseCode := le16At packet 0 : Context }.Inv cfg := { hinv with }
  have hsame := plain_answered hinv₁ (packet.drop FX5_RESP_PDU_HEADER_SIZE)
  have hcode := pduResult_code ctx packet
  rw [hr] at hcode
  subst hr hanswer
  exact ⟨hsame.status, hcode, hsame.values, congrArg (FX5_RESP_PDU_HEADER_SIZE + ·) hsame.consumed⟩

/-- A context with an answer, as its users see it. -/
theorem plain_apply (ctx : Context) (r : PduResult) (k header : Nat) {values : List Word}
    {pending : List Byte}
    (hvalues : (List.range r.count).map (valueAt ctx.device r.values) = values)
    (hpending : (r.apply (ctx.taken k header)).rxCbuffer.contents = pending) :
    (r.apply (ctx.taken k header)).plain =
      { ctx.plain with values := values, endCode := r.responseCode, pending := pending } := by
  subst hvalues hpending
  rfl

/-- **A parse** is that of the pending bytes. -/
theorem plain_parse (hinv : ctx.Inv cfg) (huse : ctx.inUse = true) :
    (parseResponse cfg ctx).map (fun r => (r.1, r.2.plain)) = some (ctx.plain.parse cfg) := by
  obtain ⟨k, hk⟩ : ∃ k, frameStart cfg ctx.serial ctx.rxCbuffer.contents = k := ⟨_, rfl⟩
  have hle : k ≤ ctx.rxCbuffer.contents.length := frameStart_le_length hk
  have hserial : ctx.plain.serial = ctx.serial := rfl
  have hpending : ctx.plain.pending = ctx.rxCbuffer.contents := rfl
  unfold PlainContext.parse
  rw [hserial, hpending, hk]
  rcases parseResponse_outcome hinv huse hk rfl with
    ⟨hlimit, hres⟩ | ⟨hlimit, hcomplete, hres⟩ | ⟨hlimit, hcomplete, hres⟩
  · have hend : resyncEnd FX5_RESYNC_LIMIT ctx.rxCbuffer.contents + 0 ≤
        ctx.rxCbuffer.contents.length :=
      Nat.le_trans (resyncEnd_bounds hk hlimit).2 hle
    rw [if_pos hlimit, hres, Option.map_some]
    have hcontents := hinv.contents_taken hend
    unfold Context.plain at hcontents ⊢
    simp only [hcontents, Nat.add_zero]
    rfl
  · rw [if_neg (Nat.not_lt_of_le hlimit), if_pos hcomplete, hres, Option.map_some]
    have hcontents := hinv.contents_taken (show k + 0 ≤ _ from hle)
    unfold Context.plain at hcontents ⊢
    simp only [hcontents, Nat.add_zero]
    rfl
  · rw [if_neg (Nat.not_lt_of_le hlimit), if_neg (not_not.mpr hcomplete), hres, Option.map_some]
    obtain ⟨b, hb⟩ : ∃ b, b = ctx.rxCbuffer.contents.drop k := ⟨_, rfl⟩
    rw [← hb] at hcomplete ⊢
    have hcontents := contents_apply_taken hinv hle hb.symm hcomplete
    obtain ⟨hstatus, hcode, hvalues, hconsumed⟩ := plain_packet hinv (packetOf b) rfl rfl
    rw [hconsumed] at hcontents
    simp only [hstatus, plain_apply ctx _ _ _ hvalues hcontents, hcode]
    rfl

end Answers

/-! ## Calls -/

section Calls

variable {cfg : Config} {ctx ctx' : Context}

theorem getResponseCode_eq (huse : ctx.inUse = true) : getResponseCode ctx = ctx.responseCode := by
  simp [getResponseCode, isAcquired, huse]

/-- The calls that return a status and a context. -/
theorem plain_of_status {result : Option (Status × Context)} {status : Status}
    {p : PlainContext} (hres : result = some (status, ctx')) (hplain : ctx'.plain = p) :
    (result.bind fun r => some (Reply.done r.1, r.2)).map (fun r => (r.1, r.2.plain)) =
      some (.done status, p) := by
  rw [hres, ← hplain]
  rfl

theorem not_headerAccepted {mode : HeaderType} (h : ¬HeaderAccepted mode) :
    mode ≠ .h3E ∧ mode ≠ .h4E := not_or.mp h

theorem plain_setNetworkSettings (huse : ctx.inUse = true) (h : Nat)
    (settings : Option NetworkSettings) :
    (callContext cfg (.setNetworkSettings h settings) ctx).map (fun r => (r.1, r.2.plain)) =
      some (plainCall cfg ctx.plain (.setNetworkSettings h settings)) := by
  simp only [callContext, setNetworkSettings, requireAcquired_ok huse]
  cases settings with
  | none => rfl
  | some settings =>
    simp only [plainCall]
    by_cases haccepted : HeaderAccepted settings.headerType
    · rw [if_pos haccepted, if_neg fun hbad => haccepted.elim hbad.1 hbad.2]
      rfl
    · rw [if_neg haccepted, if_pos (not_headerAccepted haccepted)]
      rfl

theorem plain_setHeaderMode (huse : ctx.inUse = true) (h : Nat) (mode : HeaderType) :
    (callContext cfg (.setHeaderMode h mode) ctx).map (fun r => (r.1, r.2.plain)) =
      some (plainCall cfg ctx.plain (.setHeaderMode h mode)) := by
  simp only [callContext, setHeaderMode, requireAcquired_ok huse, plainCall]
  by_cases haccepted : HeaderAccepted mode
  · rw [if_pos haccepted, if_neg fun hbad => haccepted.elim hbad.1 hbad.2]
    rfl
  · rw [if_neg haccepted, if_pos (not_headerAccepted haccepted)]
    rfl

theorem plain_setWriteValue (hinv : ctx.Inv cfg) (huse : ctx.inUse = true) (h : Nat)
    (index value : Word) :
    (callContext cfg (.setWriteValue h index value) ctx).map (fun r => (r.1, r.2.plain)) =
      some (plainCall cfg ctx.plain (.setWriteValue h index value)) := by
  unfold plainCall
  simp only [plain_values_nil, plain_values_length]
  by_cases hzero : ctx.count = 0
  · rw [if_pos hzero]
    refine plain_of_status ?_ rfl
    rw [setWriteValue, requireAcquired_ok huse]
    exact if_pos hzero
  rw [if_neg hzero]
  by_cases hge : ctx.count ≤ index.toNat
  · rw [if_pos hge]
    refine plain_of_status ?_ rfl
    rw [setWriteValue, requireAcquired_ok huse]
    exact (if_neg hzero).trans (if_pos hge)
  rw [if_neg hge]
  rcases setWriteValue_cases hinv huse index value with ⟨_, _, hnot, _⟩ | ⟨hlt, hres⟩
  · exact absurd hnot hge
  · exact plain_of_status hres (plain_written hinv hlt value)

theorem plain_buildRequest (hinv : ctx.Inv cfg) (huse : ctx.inUse = true) (h : Nat)
    {out : Option (List Byte)} {size : Word} {actual : Option Nat}
    (hmem : (Call.buildRequest h out size actual).MemoryOk) :
    (callContext cfg (.buildRequest h out size actual) ctx).map (fun r => (r.1, r.2.plain)) =
      some (plainCall cfg ctx.plain (.buildRequest h out size actual)) := by
  cases out with
  | none => rfl
  | some out =>
    cases actual with
    | none => rfl
    | some actual =>
      unfold callContext plainCall
      simp only [plain_request hinv]
      rcases plain_refusal hinv with ⟨hvalid, hrefusal⟩ | ⟨hvalid, hrefusal⟩
      · rcases buildRequest_cases hinv huse hmem actual with
          ⟨hbad, _⟩ | ⟨_, hsmall, hres⟩ | ⟨_, hroom, hres⟩
        · exact absurd hvalid hbad
        · simp only [hres, hrefusal, if_pos hsmall]
          rfl
        · simp only [hres, hrefusal, if_neg (Nat.not_lt_of_le hroom), ← plain_sent]
          rfl
      · rcases buildRequest_cases hinv huse hmem actual with
          ⟨_, hres⟩ | ⟨hbad, _⟩ | ⟨hbad, _⟩
        · simp only [hres, hrefusal]
          rfl
        · exact absurd hbad hvalid
        · exact absurd hbad hvalid

/-- Bytes that do not fit are refused. -/
theorem feed_full (hinv : ctx.Inv cfg) (huse : ctx.inUse = true) {data : List Byte} {size : Word}
    (hfull : FX5_IOBUF_SIZE cfg < ctx.rxCbuffer.contents.length + size.toNat) :
    feedResponseBytes cfg ctx (some data) size = some (.errTooSmall, ctx) := by
  have hsize : ringbufSize ctx.rxCbuffer = ctx.rxCbuffer.contents.length :=
    hinv.ring.contents_length.symm
  rw [feedResponseBytes, requireAcquired_ok huse]
  simp only [hsize]
  exact if_pos hfull

theorem plain_feedResponseBytes (hinv : ctx.Inv cfg) (huse : ctx.inUse = true) (h : Nat)
    {data : Option (List Byte)} {size : Word}
    (hmem : (Call.feedResponseBytes h data size).MemoryOk) :
    (callContext cfg (.feedResponseBytes h data size) ctx).map (fun r => (r.1, r.2.plain)) =
      some (plainCall cfg ctx.plain (.feedResponseBytes h data size)) := by
  have hpending : ctx.plain.pending = ctx.rxCbuffer.contents := rfl
  cases data with
  | none =>
    refine plain_of_status ?_ rfl
    rw [feedResponseBytes, requireAcquired_ok huse]
  | some data =>
    unfold plainCall
    simp only [hpending]
    by_cases hfull : FX5_IOBUF_SIZE cfg < ctx.rxCbuffer.contents.length + size.toNat
    · rw [if_pos hfull]
      exact plain_of_status (feed_full hinv huse hfull) rfl
    rw [if_neg hfull]
    rcases feedResponseBytes_cases hinv huse (feed_length_le hmem) with
      ⟨_, _, hbad, _⟩ | ⟨data', hdata, hroom, hres⟩
    · rcases hbad with hnone | hover
      · cases hnone
      · exact absurd hover hfull
    · cases hdata
      have hlen : (data.take size.toNat).length = size.toNat := List.length_take_of_le hmem
      obtain ⟨_, hcontents⟩ := hinv.received (by rw [hlen]; exact hroom)
      refine plain_of_status hres ?_
      unfold Context.plain
      rw [hcontents]
      rfl

theorem plain_getResponseValue (hinv : ctx.Inv cfg) (huse : ctx.inUse = true) (h : Nat)
    (index : Word) (hasOut : Bool) :
    (callContext cfg (.getResponseValue h index hasOut) ctx).map (fun r => (r.1, r.2.plain)) =
      some (plainCall cfg ctx.plain (.getResponseValue h index hasOut)) := by
  cases hasOut with
  | false =>
    simp only [callContext, Bool.false_eq_true, if_false, requireOut_acquired huse]
    rfl
  | true =>
    unfold callContext plainCall
    simp only [if_true, getResponseValue_spec hinv huse, plain_values_length]
    split
    · rename_i hlt
      have hvalue : ctx.plain.values[index.toNat]? =
          some (valueAt ctx.device ctx.values index.toNat) := by
        simp [Context.plain, hlt]
      rw [hvalue]
      rfl
    · rfl

/-- **One call** and its plain counterpart. -/
theorem callContext_plain (hclear : cfg.FX5_CLEAR_VALUES_ON_SET_REQUEST = true)
    (hinv : ctx.Inv cfg) (huse : ctx.inUse = true) {call : Call} (hmem : call.MemoryOk) :
    (callContext cfg call ctx).map (fun r => (r.1, r.2.plain)) =
      some (plainCall cfg ctx.plain call) := by
  cases call with
  | acquire => rfl
  | release h =>
    rw [callContext, release, huse, Option.map_some]
    exact congrArg (fun p => some (Reply.released, p)) (plain_cleared hinv.sized false)
  | reset h =>
    rw [callContext, reset, requireAcquired_ok huse, Option.map_some]
    exact congrArg (fun p => some (Reply.done .ok, p))
      (contextResetInternal_acquired huse ▸ plain_cleared hinv.sized true)
  | setNetworkSettings h settings => exact plain_setNetworkSettings huse h settings
  | getNetworkSettings h hasOut =>
    cases hasOut with
    | false =>
      simp only [callContext, Bool.false_eq_true, if_false, requireOut_acquired huse]
      rfl
    | true =>
      rw [callContext, getNetworkSettings, requireAcquired_ok huse]
      rfl
  | setHeaderMode h mode => exact plain_setHeaderMode huse h mode
  | setMonitoringTimer h timer =>
    rw [callContext, setMonitoringTimer, requireAcquired_ok huse]
    rfl
  | setRequest h command device address count =>
    simp only [plainCall]
    cases hrefusal : requestRefusal cfg command device address.toNat count.toNat with
    | some status => exact plain_of_status (setRequest_refusal huse hrefusal) rfl
    | none =>
      have haccepted := requestRefusal_none.mp hrefusal
      rcases setRequest_cases hinv.values huse command device address count with
        ⟨_, _, hnot, _⟩ | ⟨_, hres⟩
      · exact absurd haccepted hnot
      · exact plain_of_status hres (plain_withRequest hclear ctx command device address count)
  | setWriteValue h index value => exact plain_setWriteValue hinv huse h index value
  | buildRequest h out size actual => exact plain_buildRequest hinv huse h hmem
  | feedResponseBytes h data size => exact plain_feedResponseBytes hinv huse h hmem
  | parseResponse h =>
    obtain ⟨status, ctx', hres, _⟩ := parseResponse_inv hinv huse
    have hparse := @plain_parse cfg ctx hinv huse
    rw [hres, Option.map_some, Option.some_inj] at hparse
    simp only [plainCall, ← hparse]
    exact plain_of_status hres rfl
  | getResponseCode h =>
    rw [callContext, getResponseCode_eq huse]
    rfl
  | getResponseCount h =>
    rw [callContext, plainCall, plain_values_length, getResponseCount, isAcquired, huse]
    rfl
  | getResponseValue h index hasOut => exact plain_getResponseValue hinv huse h index hasOut
  | getLastSerial h =>
    rw [callContext, getLastSerial, isAcquired, huse]
    rfl

end Calls

/-! ## Whole histories -/

/-- The pool as its users see it. -/
def Pool.plain (pool : Pool) : PlainPool :=
  pool.map fun ctx => if ctx.inUse then some ctx.plain else none

section History

variable {cfg : Config} {pool pool' : Pool} {e : Event}

theorem plain_set (pool : Pool) (h : Nat) (ctx : Context) :
    Pool.plain (pool.set h ctx) =
      pool.plain.set h (if ctx.inUse then some ctx.plain else none) := List.map_set

theorem plain_isNone (ctx : Context) :
    (if ctx.inUse then some ctx.plain else none : Option PlainContext).isNone = !ctx.inUse := by
  cases ctx.inUse <;> rfl

/-- The first handle that nobody holds. -/
theorem plain_findIdx? {h : Nat} (hlt : h < pool.length) (hfree : pool.inUseAt h = false)
    (hfirst : ∀ i, i < h → pool.inUseAt i = true) :
    pool.plain.findIdx? Option.isNone = some h := by
  rw [Pool.plain, List.findIdx?_map, List.findIdx?_eq_some_iff_getElem]
  refine ⟨hlt, ?_, fun i hi => ?_⟩
  · rw [inUseAt_of_getElem? (List.getElem?_eq_getElem hlt)] at hfree
    rw [Function.comp_apply, plain_isNone, hfree]
    rfl
  · have hused := hfirst i hi
    rw [inUseAt_of_getElem? (List.getElem?_eq_getElem (by omega))] at hused
    rw [Function.comp_apply, plain_isNone, hused]
    decide

/-- All handles are held. -/
theorem plain_findIdx?_none (hall : ∀ i, i < pool.length → pool.inUseAt i = true) :
    pool.plain.findIdx? Option.isNone = none := by
  rw [Pool.plain, List.findIdx?_map, List.findIdx?_eq_none_iff]
  intro ctx hmem
  obtain ⟨i, hlt, rfl⟩ := List.mem_iff_getElem.mp hmem
  have hused := hall i hlt
  rw [inUseAt_of_getElem? (List.getElem?_eq_getElem hlt)] at hused
  rw [Function.comp_apply, plain_isNone, hused]
  rfl

theorem acquire_of_target {call : Call} (ht : call.target = none) : call = .acquire := by
  cases call with
  | acquire => rfl
  | _ => cases ht

/-- **One event** of the library. -/
theorem NextEvent.plain (hclear : cfg.FX5_CLEAR_VALUES_ON_SET_REQUEST = true)
    (hpool : PoolInv cfg pool) (hnext : NextEvent cfg pool e pool') :
    plainStep cfg pool.plain e.call = some (e.reply, pool'.plain) := by
  unfold plainStep
  rcases hnext.cases hpool with
    ⟨h, ctx, ctx', ht, hctx, huse, hinv, hmem, hcall, rfl⟩ | ⟨ht, rfl, hreply⟩ |
    ⟨k, ctx, ht, hctx, _, hacquires, rfl⟩
  · have hslot : pool.plain[h]? = some (some ctx.plain) := by
      rw [Pool.plain, List.getElem?_map, hctx, Option.map_some, huse]
      rfl
    have hplain := callContext_plain hclear hinv huse hmem
    rw [hcall, Option.map_some, Option.some_inj] at hplain
    rw [ht, plain_set]
    simp only [hslot, ← hplain]
    have hlt := (List.getElem?_eq_some_iff.mp hctx).1
    have hflag := hnext.inUseAt hpool h
    rw [inUseAt_of_getElem? (List.getElem?_set_self hlt), inUseAt_of_getElem? hctx, huse,
      Event.ownership, if_neg (callContext_reply ht hcall)] at hflag
    by_cases hrelease : e.call = .release h
    · rw [if_pos hrelease] at hflag ⊢
      rw [hflag]
      rfl
    · rw [if_neg hrelease] at hflag ⊢
      rw [hflag]
      rfl
  · have hcall := acquire_of_target ht
    rw [ht]
    rcases hnext.acquires hcall with ⟨_, hall⟩ | ⟨h, hacquires, _⟩
    · rw [plain_findIdx?_none fun i hi => hall i (hpool.length ▸ hi), hreply]
    · rw [Event.Acquires, hreply] at hacquires
      cases hacquires
  · have hcall := acquire_of_target ht
    rw [ht, plain_set]
    rcases hnext.acquires hcall with ⟨hreply, _⟩ | ⟨h, hacquires', hlt, hfree, hfirst⟩
    · rw [Event.Acquires, hreply] at hacquires
      cases hacquires
    · rw [Event.Acquires] at hacquires hacquires'
      rw [hacquires] at hacquires'
      cases hacquires'
      have hsized := hpool.sized ctx (List.mem_of_getElem? hctx)
      rw [plain_findIdx? (hpool.length ▸ hlt) hfree hfirst, hacquires]
      have hinit : (ctx.acquired cfg).plain = .init := plain_cleared hsized true
      rw [hinit]
      rfl

/-- **Any event**; a call on a handle that nobody holds is refused on both sides. -/
theorem AnyEvent.plain (hclear : cfg.FX5_CLEAR_VALUES_ON_SET_REQUEST = true)
    (hpool : PoolInv cfg pool) (hnext : AnyEvent cfg pool e pool') :
    plainStep cfg pool.plain e.call = some (e.reply, pool'.plain) := by
  rcases hnext.cases with hnext | ⟨⟨h, ctx, ht, hctx, hfree⟩, hreply, rfl⟩
  · exact hnext.plain hclear hpool
  have hslot : (Pool.plain pool')[h]? = some none := by
    rw [Pool.plain, List.getElem?_map, hctx, Option.map_some, hfree]
    rfl
  unfold plainStep
  rw [ht, hreply]
  simp only [hslot]

/-- **All events.** -/
theorem History.plain {es : List Event} (hclear : cfg.FX5_CLEAR_VALUES_ON_SET_REQUEST = true)
    (hpool : PoolInv cfg pool) (hhistory : History cfg pool es pool') :
    plainRun cfg pool.plain (es.map Event.call) = some (es.map Event.reply, pool'.plain) := by
  induction hhistory with
  | nil _ => rfl
  | cons hnext _ ih =>
    rw [List.map_cons, plainRun, hnext.plain hclear hpool]
    simp only [Option.bind_eq_bind, Option.bind_some, ih (hnext.poolInv hpool)]
    rfl

end History

/-- A pool of which nothing is handed out. -/
def PlainPool.start (cfg : Config) : PlainPool := List.replicate cfg.FX5_CONTEXT_POOL_SIZE none

/-- **The library runs as the plain one**, in the default configuration, which clears the values when
a request is set.  In every history from program start, with any users, any arguments and any order
of calls, also on handles that nobody holds: every status, frame, size, count, value, end code, serial
number and handle that the library returns is what the plain library returns for the same calls, and
the contexts behind the history are the plain ones. -/
theorem library_runs_plain {cfg : Config} (hclear : cfg.FX5_CLEAR_VALUES_ON_SET_REQUEST = true)
    {es : List Event} {pool : Pool} (hhistory : History cfg (Pool.zero cfg) es pool) :
    plainRun cfg (PlainPool.start cfg) (es.map Event.call) =
      some (es.map Event.reply, pool.plain) := by
  have hstart : Pool.plain (Pool.zero cfg) = PlainPool.start cfg := List.map_replicate
  rw [← hstart]
  exact History.plain hclear (poolInv_zero cfg) hhistory

/-- One word is read; its response comes in two pieces, behind one byte of garbage. -/
def oneRead : List Call :=
  [.acquire, .setRequest 0 .batchRead .D 100 1,
    .buildRequest 0 (some (List.replicate 25 0x00)) 25 (some 0),
    .feedResponseBytes 0 (some [0xAA, 0xD0, 0x00, 0x00, 0xFF, 0xFF, 0x03, 0x00]) 8,
    .parseResponse 0, .feedResponseBytes 0 (some [0x04, 0x00, 0x00, 0x00, 0x34, 0x12]) 6,
    .parseResponse 0, .getResponseValue 0 0 true, .release 0]

/-- The handle is used once more when it was given back. -/
theorem oneRead_runs_plain : ∃ es pool, History .smallest (Pool.zero .smallest) es pool ∧
    es.map Event.call = oneRead ++ [.parseResponse 0] ∧
    (es.map Event.reply).drop 3 = [.done .ok, .done .errNeedMore, .done .ok, .done .ok,
      .value .ok (some 0x1234), .released, .done .errNotAcquired] := by
  have hsome : (runCalls .smallest (Pool.zero .smallest) oneRead).any
      (fun pool => pool.inUseAt 0 = false) = true := by decide +kernel
  obtain ⟨pool, hrun, hfree⟩ := (Option.any_eq_true _ _).mp hsome
  obtain ⟨es, htrace, hcalls⟩ := trace_of_runCalls hrun
  have hpool := Trace.poolInv (poolInv_zero .smallest) htrace
  have hrefused : (Call.parseResponse 0).OnFree pool :=
    onFree_of_inUseAt hpool rfl Nat.one_pos (by simpa using hfree)
  have hhistory := (Trace.history htrace).refused hrefused
  have hplain := library_runs_plain rfl hhistory
  have hreplies : (plainRun .smallest (PlainPool.start .smallest)
      (oneRead ++ [.parseResponse 0])).map (·.1.drop 3) =
      some [.done .ok, .done .errNeedMore, .done .ok, .done .ok, .value .ok (some 0x1234),
        .released, .done .errNotAcquired] := by decide +kernel
  have hall : (es ++ [Event.mk (.parseResponse 0) (Call.parseResponse 0).refusal]).map Event.call =
      oneRead ++ [.parseResponse 0] := by
    rw [List.map_append, hcalls]
    rfl
  rw [hall] at hplain
  rw [hplain, Option.map_some, Option.some_inj] at hreplies
  exact ⟨_, pool, hhistory, hall, hreplies⟩

end Fx5
