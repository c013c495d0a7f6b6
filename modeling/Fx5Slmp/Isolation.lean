import Fx5Slmp.Traces

/-!
# No residual state

An acquisition or a reset leaves the value store and the ring storage as they were.  Two fresh
contexts may therefore differ in these, but no call shows the difference.

* `Alike` — what two contexts must have in common: everything but stale values, the place of
  the received bytes in the ring storage, and the counter of discarded bytes;
* `alike_call` — **simulation**: a call on alike contexts gives the same reply and keeps them
  alike;
* `callContext_withPool` — no call on a context depends on the size of the pool;
* `no_residual_state` — two users of fresh contexts who make the same calls get the same
  replies, whatever happened before and whatever happens on other handles.
-/

set_option autoImplicit false

namespace Fx5

/-! ## Contexts that differ in stale storage only -/

/-- The context with other stores. -/
def Context.withStore (ctx : Context) (values : List Word) (rx : RingBuf) (n : Nat) : Context :=
  { ctx with values := values, rxCbuffer := rx, resyncCounter := n }

/-- The contexts differ in what no call shows: the value store while no request is active, and
the place of the received bytes in the ring storage. -/
structure Alike (ctx₁ ctx₂ : Context) : Prop where
  same : ctx₂ = ctx₁.withStore ctx₂.values ctx₂.rxCbuffer ctx₂.resyncCounter
  contents : ctx₁.rxCbuffer.contents = ctx₂.rxCbuffer.contents
  values : ctx₁.count ≠ 0 → ctx₁.values = ctx₂.values

section Simulation

variable {cfg : Config} {ctx : Context} {values : List Word} {rx : RingBuf} {n : Nat}

/-- Two slots are alike once they were cleared. -/
theorem alike_cleared {ctx₁ ctx₂ : Context} (h₁ : ctx₁.Sized cfg) (h₂ : ctx₂.Sized cfg)
    (inUse : Bool) : Alike { contextResetInternal cfg ctx₁ with inUse := inUse }
      { contextResetInternal cfg ctx₂ with inUse := inUse } where
  same := rfl
  contents := (contextResetInternal_contents h₁).trans (contextResetInternal_contents h₂).symm
  values := fun h => absurd rfl h

/-- Both calls give this reply, and leave alike contexts. -/
def AnswerAlike (result₁ result₂ : Option (Reply × Context)) : Prop :=
  ∃ reply ctx₁ ctx₂, result₁ = some (reply, ctx₁) ∧ result₂ = some (reply, ctx₂) ∧ Alike ctx₁ ctx₂

/-- The same for the calls that return a status. -/
theorem answerAlike_of_status {result₁ result₂ : Option (Status × Context)} {status : Status}
    {ctx₁ ctx₂ : Context} (h₁ : result₁ = some (status, ctx₁))
    (h₂ : result₂ = some (status, ctx₂)) (h : Alike ctx₁ ctx₂) :
    AnswerAlike (result₁.bind fun r => some (Reply.done r.1, r.2))
      (result₂.bind fun r => some (Reply.done r.1, r.2)) := by
  rw [h₁, h₂]
  exact ⟨.done status, ctx₁, ctx₂, rfl, rfl, h⟩

theorem AnswerAlike.same {reply : Reply} {ctx₁ ctx₂ : Context} (h : Alike ctx₁ ctx₂) :
    AnswerAlike (some (reply, ctx₁)) (some (reply, ctx₂)) := ⟨reply, ctx₁, ctx₂, rfl, rfl, h⟩

/-- The settings are no part of the store. -/
theorem Alike.configured {ctx₁ ctx₂ : Context} (h : Alike ctx₁ ctx₂) (settings : NetworkSettings) :
    Alike { ctx₁ with networkSettings := settings } { ctx₂ with networkSettings := settings } where
  same := by
    rw [h.same]
    rfl
  contents := h.contents
  values := h.values

section Calls

variable {ctx₁ ctx₂ : Context}

theorem alike_setNetworkSettings (h : Alike ctx₁ ctx₂) (huse₁ : ctx₁.inUse = true)
    (huse₂ : ctx₂.inUse = true) (settings : Option NetworkSettings) :
    AnswerAlike (some (.done (setNetworkSettings ctx₁ settings).1,
        (setNetworkSettings ctx₁ settings).2))
      (some (.done (setNetworkSettings ctx₂ settings).1, (setNetworkSettings ctx₂ settings).2)) := by
  unfold setNetworkSettings
  rw [requireAcquired_ok huse₁, requireAcquired_ok huse₂]
  cases settings with
  | none => exact .same h
  | some settings =>
    simp only
    split
    · exact .same h
    · exact .same (h.configured settings)

theorem Alike.networkSettings (h : Alike ctx₁ ctx₂) :
    ctx₂.networkSettings = ctx₁.networkSettings := by
  rw [h.same]
  rfl

theorem alike_setHeaderMode (h : Alike ctx₁ ctx₂) (huse₁ : ctx₁.inUse = true)
    (huse₂ : ctx₂.inUse = true) (mode : HeaderType) :
    AnswerAlike (some (.done (setHeaderMode ctx₁ mode).1, (setHeaderMode ctx₁ mode).2))
      (some (.done (setHeaderMode ctx₂ mode).1, (setHeaderMode ctx₂ mode).2)) := by
  unfold setHeaderMode
  rw [requireAcquired_ok huse₁, requireAcquired_ok huse₂, h.networkSettings]
  simp only
  split
  · exact .same h
  · exact .same (h.configured _)

theorem alike_setRequest (h : Alike ctx₁ ctx₂) (hinv₁ : ctx₁.Inv cfg) (hinv₂ : ctx₂.Inv cfg)
    (huse₁ : ctx₁.inUse = true) (huse₂ : ctx₂.inUse = true)
    (hclear : cfg.FX5_CLEAR_VALUES_ON_SET_REQUEST = true) (command : Command) (device : Device)
    (address : BitVec 32) (count : Word) :
    ∃ status ctx₁' ctx₂', setRequest cfg ctx₁ command device address count = some (status, ctx₁') ∧
      setRequest cfg ctx₂ command device address count = some (status, ctx₂') ∧
      Alike ctx₁' ctx₂' := by
  have hstart : ∀ values, startValues cfg values = List.replicate cfg.FX5_MAX_VALUE_COUNT 0 :=
    fun values => if_pos hclear
  rcases setRequest_cases hinv₁.values huse₁ command device address count with
    ⟨_, _, hrej, _⟩ | ⟨hacc, hres₁⟩
  · -- both are refused by the same test
    unfold setRequest
    rw [requireAcquired_ok huse₁, requireAcquired_ok huse₂]
    simp only
    by_cases hcount : count.toNat = 0
    · exact ⟨_, _, _, if_pos hcount, if_pos hcount, h⟩
    rw [if_neg hcount, if_neg hcount]
    by_cases haddress : address.toNat > FX5_MAX_ADDRESS
    · exact ⟨_, _, _, if_pos haddress, if_pos haddress, h⟩
    rw [if_neg haddress, if_neg haddress]
    cases hcommand : isSupportedCommand command with
    | false => exact ⟨_, _, _, rfl, rfl, h⟩
    | true =>
      cases hdevice : isSupportedDevice device with
      | false => exact ⟨_, _, _, rfl, rfl, h⟩
      | true =>
        have hmax : count.toNat > getMaxValueCount cfg device := by
          by_contra hle
          exact hrej ⟨hcount, Nat.le_of_not_lt haddress, hcommand, hdevice, Nat.le_of_not_lt hle⟩
        exact ⟨_, _, _, if_pos hmax, if_pos hmax, h⟩
  · rcases setRequest_cases hinv₂.values huse₂ command device address count with
      ⟨_, _, hrej, _⟩ | ⟨_, hres₂⟩
    · exact absurd hacc hrej
    · refine ⟨.ok, _, _, hres₁, hres₂, ?_, h.contents, ?_⟩
      · rw [h.same]
        rfl
      · intro _
        simp only [Context.withRequest, hstart]

theorem Alike.count (h : Alike ctx₁ ctx₂) : ctx₂.count = ctx₁.count := by
  rw [h.same]
  rfl

theorem Alike.device (h : Alike ctx₁ ctx₂) : ctx₂.device = ctx₁.device := by
  rw [h.same]
  rfl

theorem alike_setWriteValue (h : Alike ctx₁ ctx₂) (hinv₁ : ctx₁.Inv cfg) (hinv₂ : ctx₂.Inv cfg)
    (huse₁ : ctx₁.inUse = true) (huse₂ : ctx₂.inUse = true) (index value : Word) :
    ∃ status ctx₁' ctx₂', setWriteValue cfg ctx₁ index value = some (status, ctx₁') ∧
      setWriteValue cfg ctx₂ index value = some (status, ctx₂') ∧ Alike ctx₁' ctx₂' := by
  rcases setWriteValue_cases hinv₁ huse₁ index value with ⟨_, _, hge, _⟩ | ⟨hlt, hres₁⟩
  · -- both are refused by the same test
    unfold setWriteValue
    rw [requireAcquired_ok huse₁, requireAcquired_ok huse₂, h.count]
    simp only
    by_cases hcount : ctx₁.count = 0
    · exact ⟨_, _, _, if_pos hcount, if_pos hcount, h⟩
    · rw [if_neg hcount, if_neg hcount]
      exact ⟨_, _, _, if_pos hge, if_pos hge, h⟩
  · have hvalues := h.values (by omega)
    rcases setWriteValue_cases hinv₂ huse₂ index value with ⟨_, _, hge, _⟩ | ⟨_, hres₂⟩
    · rw [h.count] at hge
      omega
    · refine ⟨.ok, _, _, hres₁, hres₂, ?_, h.contents, ?_⟩
      · rw [h.same]
        rfl
      · intro _
        simp only [writtenValues, h.device, hvalues]

theorem alike_feedResponseBytes (h : Alike ctx₁ ctx₂) (hinv₁ : ctx₁.Inv cfg)
    (hinv₂ : ctx₂.Inv cfg) (huse₁ : ctx₁.inUse = true) (huse₂ : ctx₂.inUse = true)
    {data : Option (List Byte)} {size : Word} (hdata : ∀ d, data = some d → size.toNat ≤ d.length) :
    ∃ status ctx₁' ctx₂', feedResponseBytes cfg ctx₁ data size = some (status, ctx₁') ∧
      feedResponseBytes cfg ctx₂ data size = some (status, ctx₂') ∧ Alike ctx₁' ctx₂' := by
  have hsize : ringbufSize ctx₂.rxCbuffer = ringbufSize ctx₁.rxCbuffer := by
    rw [ringbufSize_contents hinv₁, ringbufSize_contents hinv₂, h.contents]
  rcases feedResponseBytes_cases hinv₁ huse₁ hdata with ⟨_, _, hbad, _⟩ | ⟨d, hd, hroom, hres₁⟩
  · unfold feedResponseBytes
    rw [requireAcquired_ok huse₁, requireAcquired_ok huse₂, hsize]
    cases data with
    | none => exact ⟨_, _, _, rfl, rfl, h⟩
    | some d =>
      have hfull : ringbufSize ctx₁.rxCbuffer + size.toNat > FX5_IOBUF_SIZE cfg := by
        rw [ringbufSize_contents hinv₁]
        rcases hbad with hnone | hfull
        · cases hnone
        · exact hfull
      exact ⟨_, _, _, if_pos hfull, if_pos hfull, h⟩
  · have hlen : (d.take size.toNat).length = size.toNat := List.length_take_of_le (hdata d hd)
    have hroom₂ : ctx₂.rxCbuffer.contents.length + size.toNat ≤ FX5_IOBUF_SIZE cfg := by
      rw [← h.contents]
      exact hroom
    rcases feedResponseBytes_cases hinv₂ huse₂ hdata with ⟨_, _, hbad, _⟩ | ⟨d₂, hd₂, _, hres₂⟩
    · rcases hbad with hnone | hfull
      · rw [hd] at hnone
        cases hnone
      · omega
    · rw [hd] at hd₂
      cases hd₂
      refine ⟨.ok, _, _, hres₁, hres₂, ?_, ?_, h.values⟩
      · rw [h.same]
        rfl
      · rw [(hinv₁.received (by rw [hlen]; exact hroom)).2,
          (hinv₂.received (by rw [hlen]; exact hroom₂)).2, h.contents]

/-! ### Building -/

theorem Alike.valid_iff (h : Alike ctx₁ ctx₂) :
    validateRequest cfg ctx₂ = validateRequest cfg ctx₁ := by
  rw [h.same]
  rfl

/-- A valid request has a count, so the values of both contexts are the same. -/
theorem requestBytes_alike (h : Alike ctx₁ ctx₂) (hvalid : ctx₁.Valid cfg) :
    requestBytes ctx₂ = requestBytes ctx₁ := by
  have hcount : ctx₁.count ≠ 0 := by
    intro h0
    rw [Context.Valid, validateRequest, if_pos h0] at hvalid
    cases hvalid
  rw [h.same, ← h.values hcount]
  rfl

theorem Alike.sent (h : Alike ctx₁ ctx₂) : Alike ctx₁.sent ctx₂.sent := by
  refine ⟨?_, ?_, ?_⟩
  · rw [h.same]
    unfold Context.sent Context.withStore
    simp only
    split <;> rfl
  · rw [Context.sent_rxCbuffer, Context.sent_rxCbuffer]
    exact h.contents
  · unfold Context.sent
    rw [h.networkSettings]
    split
    · exact h.values
    · exact h.values

theorem alike_buildRequest (h : Alike ctx₁ ctx₂) (hinv₁ : ctx₁.Inv cfg) (hinv₂ : ctx₂.Inv cfg)
    (huse₁ : ctx₁.inUse = true) (huse₂ : ctx₂.inUse = true) {out : List Byte} {size : Word}
    (hout : size.toNat ≤ out.length) (actual : Nat) :
    ∃ status out' actual' ctx₁' ctx₂',
      buildRequest cfg ctx₁ out size actual = some ⟨status, ctx₁', out', actual'⟩ ∧
      buildRequest cfg ctx₂ out size actual = some ⟨status, ctx₂', out', actual'⟩ ∧
      Alike ctx₁' ctx₂' := by
  have hsame : ctx₂.Valid cfg ↔ ctx₁.Valid cfg := by
    rw [Context.Valid, Context.Valid, h.valid_iff]
  rcases buildRequest_cases hinv₁ huse₁ hout actual with
    ⟨hbad, hres₁⟩ | ⟨hvalid, hsmall, hres₁⟩ | ⟨hvalid, hroom, hres₁⟩
  · rcases buildRequest_cases hinv₂ huse₂ hout actual with ⟨_, hres₂⟩ | ⟨hv, _⟩ | ⟨hv, _⟩
    · rw [h.valid_iff] at hres₂
      exact ⟨_, _, _, _, _, hres₁, hres₂, h⟩
    · exact absurd (hsame.mp hv) hbad
    · exact absurd (hsame.mp hv) hbad
  · have hbytes := requestBytes_alike h hvalid
    rcases buildRequest_cases hinv₂ huse₂ hout actual with
      ⟨hbad, _⟩ | ⟨_, _, hres₂⟩ | ⟨_, hroom, _⟩
    · exact absurd (hsame.mpr hvalid) hbad
    · rw [hbytes] at hres₂
      exact ⟨_, _, _, _, _, hres₁, hres₂, h⟩
    · rw [hbytes] at hroom
      omega
  · have hbytes := requestBytes_alike h hvalid
    rcases buildRequest_cases hinv₂ huse₂ hout actual with
      ⟨hbad, _⟩ | ⟨_, hsmall, _⟩ | ⟨_, _, hres₂⟩
    · exact absurd (hsame.mpr hvalid) hbad
    · rw [hbytes] at hsmall
      omega
    · rw [hbytes] at hres₂
      exact ⟨_, _, _, _, _, hres₁, hres₂, h.sent⟩

/-! ### Parsing -/

/-- Without a count, the value store passes through the payload stage untouched. -/
theorem pduResult_idle (hcount : ctx₁.count = 0) (values : List Word) (packet : List Byte) :
    pduResult { ctx₁ with values := values } packet =
      { pduResult ctx₁ packet with values := values } := by
  unfold pduResult payloadResult
  simp only
  split
  · rfl
  split
  · split <;> rfl
  split
  · rw [bitPayloadResult, bitPayloadResult, if_pos (Or.inl hcount), if_pos (Or.inl hcount)]
    rfl
  · unfold wordPayloadResult
    split
    · rfl
    · rw [if_pos (Or.inl hcount), if_pos (Or.inl hcount)]
      rfl

/-- The payload stage gives alike contexts alike results. -/
theorem pduResult_alike (h : Alike ctx₁ ctx₂) (packet : List Byte) :
    ∃ (values₁ values₂ : List Word) (r : PduResult),
      pduResult ctx₁ packet = { r with values := values₁ } ∧
      pduResult ctx₂ packet = { r with values := values₂ } ∧
      (r.count ≠ 0 → values₁ = values₂) := by
  have hsame : pduResult ctx₂ packet =
      pduResult { ctx₁ with values := ctx₂.values } packet := by
    rw [h.same]
    rfl
  by_cases hcount : ctx₁.count = 0
  · refine ⟨(pduResult ctx₁ packet).values, ctx₂.values, pduResult ctx₁ packet, rfl, ?_, ?_⟩
    · rw [hsame, pduResult_idle hcount]
    · intro hne
      rcases pduResult_count ctx₁ packet with hc | hc
      · exact absurd (hc.trans hcount) hne
      · exact absurd hc hne
  · rw [← h.values hcount] at hsame
    exact ⟨_, _, pduResult ctx₁ packet, rfl, hsame, fun _ => rfl⟩

theorem Alike.taken (h : Alike ctx₁ ctx₂) (hinv₁ : ctx₁.Inv cfg) (hinv₂ : ctx₂.Inv cfg) {j k : Nat}
    (hle : j + k ≤ ctx₁.rxCbuffer.contents.length) : Alike (ctx₁.taken j k) (ctx₂.taken j k) := by
  refine ⟨?_, ?_, h.values⟩
  · rw [h.same]
    rfl
  · rw [hinv₁.contents_taken hle, hinv₂.contents_taken (by rw [← h.contents]; exact hle),
      h.contents]

theorem alike_parseResponse (h : Alike ctx₁ ctx₂) (hinv₁ : ctx₁.Inv cfg) (hinv₂ : ctx₂.Inv cfg)
    (huse₁ : ctx₁.inUse = true) (huse₂ : ctx₂.inUse = true) :
    ∃ status ctx₁' ctx₂', parseResponse cfg ctx₁ = some (status, ctx₁') ∧
      parseResponse cfg ctx₂ = some (status, ctx₂') ∧ Alike ctx₁' ctx₂' := by
  have hserial : ctx₂.serial = ctx₁.serial := by
    rw [h.same]
    rfl
  obtain ⟨k, hk₁⟩ : ∃ k, frameStart cfg ctx₁.serial ctx₁.rxCbuffer.contents = k := ⟨_, rfl⟩
  have hk₂ : frameStart cfg ctx₂.serial ctx₂.rxCbuffer.contents = k := by
    rw [hserial, ← h.contents]
    exact hk₁
  obtain ⟨b, hb₁⟩ : ∃ b, ctx₁.rxCbuffer.contents.drop k = b := ⟨_, rfl⟩
  have hb₂ : ctx₂.rxCbuffer.contents.drop k = b := by
    rw [← h.contents]
    exact hb₁
  have hle := frameStart_le_length hk₁
  rcases parseResponse_outcome hinv₁ huse₁ hk₁ hb₁ with
    ⟨hlimit, hres₁⟩ | ⟨hlimit, hnot, hres₁⟩ | ⟨hlimit, hcomplete, hres₁⟩
  · have hres₂ := parseResponse_resync_exact hinv₂ huse₂ hk₂ hlimit
    rw [← h.contents] at hres₂
    refine ⟨_, _, _, hres₁, hres₂, h.taken hinv₁ hinv₂ ?_⟩
    exact Nat.le_trans (resyncEnd_bounds hk₁ hlimit).2 hle
  · have hres₂ := parseResponse_needMore hinv₂ huse₂ hk₂ hlimit (by rw [hb₂, hserial]; exact hnot)
    exact ⟨_, _, _, hres₁, hres₂, h.taken hinv₁ hinv₂ hle⟩
  · have hres₂ := parseResponse_complete hinv₂ huse₂ hk₂ hlimit hb₂ (by rw [hserial]; exact hcomplete)
    have hleft₁ := contents_apply_taken hinv₁ hle hb₁ hcomplete
    have hleft₂ := contents_apply_taken hinv₂ (by rw [← h.contents]; exact hle) hb₂
      (by rw [hserial]; exact hcomplete)
    obtain ⟨values₁, values₂, r, hr₁, hr₂, hvalues⟩ := pduResult_alike h (packetOf b)
    rw [hr₁] at hres₁ hleft₁
    rw [hr₂] at hres₂ hleft₂
    refine ⟨_, _, _, hres₁, hres₂, ?_, hleft₁.trans hleft₂.symm, hvalues⟩
    rw [h.same]
    rfl

/-! ### Reading -/

theorem alike_getResponseValue (h : Alike ctx₁ ctx₂) (hinv₁ : ctx₁.Inv cfg) (hinv₂ : ctx₂.Inv cfg)
    (huse₁ : ctx₁.inUse = true) (huse₂ : ctx₂.inUse = true) (index : Word) :
    getResponseValue cfg ctx₂ index = getResponseValue cfg ctx₁ index := by
  rw [getResponseValue_spec hinv₁ huse₁, getResponseValue_spec hinv₂ huse₂, h.count, h.device]
  split
  · rename_i hlt
    rw [h.values (by omega)]
  · rfl

/-- **Simulation.**  A call on alike contexts gives the same reply and leaves alike contexts. -/
theorem alike_call (h : Alike ctx₁ ctx₂) (hinv₁ : ctx₁.Inv cfg) (hinv₂ : ctx₂.Inv cfg)
    (huse₁ : ctx₁.inUse = true) (huse₂ : ctx₂.inUse = true)
    (hclear : cfg.FX5_CLEAR_VALUES_ON_SET_REQUEST = true) {call : Call} (hmem : call.MemoryOk)
    {handle : Nat} (ht : call.target = some handle) :
    AnswerAlike (callContext cfg call ctx₁) (callContext cfg call ctx₂) := by
  cases call with
  | acquire => cases ht
  | release _ =>
    simp only [callContext, release, huse₁, huse₂]
    exact .same (alike_cleared hinv₁.sized hinv₂.sized false)
  | reset _ =>
    simp only [callContext, reset, requireAcquired_ok huse₁, requireAcquired_ok huse₂,
      contextResetInternal_acquired huse₁, contextResetInternal_acquired huse₂]
    exact .same (alike_cleared hinv₁.sized hinv₂.sized true)
  | setNetworkSettings _ settings => exact alike_setNetworkSettings h huse₁ huse₂ settings
  | getNetworkSettings _ hasOut =>
    simp only [callContext, getNetworkSettings, requireAcquired_ok huse₁, requireAcquired_ok huse₂,
      requireOut_acquired huse₁, requireOut_acquired huse₂, h.networkSettings]
    split <;> exact .same h
  | setHeaderMode _ mode => exact alike_setHeaderMode h huse₁ huse₂ mode
  | setMonitoringTimer _ timer =>
    simp only [callContext, setMonitoringTimer, requireAcquired_ok huse₁, requireAcquired_ok huse₂,
      h.networkSettings]
    exact .same (h.configured _)
  | setRequest _ command device address count =>
    obtain ⟨status, _, _, hres₁, hres₂, h'⟩ :=
      alike_setRequest h hinv₁ hinv₂ huse₁ huse₂ hclear command device address count
    exact answerAlike_of_status hres₁ hres₂ h'
  | setWriteValue _ index value =>
    obtain ⟨status, _, _, hres₁, hres₂, h'⟩ :=
      alike_setWriteValue h hinv₁ hinv₂ huse₁ huse₂ index value
    exact answerAlike_of_status hres₁ hres₂ h'
  | buildRequest _ outBuf outBufSize actualSize =>
    cases outBuf with
    | none => exact .same h
    | some out =>
      cases actualSize with
      | none => exact .same h
      | some actual =>
        obtain ⟨status, out', actual', _, _, hres₁, hres₂, h'⟩ :=
          alike_buildRequest h hinv₁ hinv₂ huse₁ huse₂ hmem actual
        simp only [callContext, hres₁, hres₂]
        exact .same h'
  | feedResponseBytes _ data size =>
    have hdata := feed_length_le hmem
    obtain ⟨status, _, _, hres₁, hres₂, h'⟩ :=
      alike_feedResponseBytes h hinv₁ hinv₂ huse₁ huse₂ hdata
    exact answerAlike_of_status hres₁ hres₂ h'
  | parseResponse _ =>
    obtain ⟨status, _, _, hres₁, hres₂, h'⟩ := alike_parseResponse h hinv₁ hinv₂ huse₁ huse₂
    exact answerAlike_of_status hres₁ hres₂ h'
  | getResponseCode _ =>
    have hcode : getResponseCode ctx₂ = getResponseCode ctx₁ := by
      rw [h.same]
      rfl
    simp only [callContext, hcode]
    exact .same h
  | getResponseCount _ =>
    have hcount : getResponseCount ctx₂ = getResponseCount ctx₁ := by
      rw [h.same]
      rfl
    simp only [callContext, hcount]
    exact .same h
  | getResponseValue _ index hasOut =>
    cases hasOut with
    | false =>
      simp only [callContext, Bool.false_eq_true, if_false, requireOut_acquired huse₁,
        requireOut_acquired huse₂]
      exact .same h
    | true =>
      simp only [callContext, if_true,
        alike_getResponseValue h hinv₁ hinv₂ huse₁ huse₂ index]
      rw [getResponseValue_spec hinv₁ huse₁]
      split <;> exact .same h
  | getLastSerial _ =>
    have hlast : getLastSerial ctx₂ = getLastSerial ctx₁ := by
      rw [h.same]
      rfl
    simp only [callContext, hlast]
    exact .same h

end Calls

end Simulation

/-! ## The size of the pool -/

/-- The configuration with another pool size. -/
def Config.withPool (cfg : Config) (size : Nat) (hpos : 0 < size) : Config :=
  { cfg with FX5_CONTEXT_POOL_SIZE := size, pool_pos := hpos }

section PoolSize

variable (cfg : Config) (size : Nat) (hpos : 0 < size)

theorem parseResponseTurn_withPool (ctx : Context) :
    parseResponseTurn (cfg.withPool size hpos) ctx = parseResponseTurn cfg ctx := rfl

theorem parseResponseLoop_withPool (ctx : Context) :
    parseResponseLoop (cfg.withPool size hpos) ctx = parseResponseLoop cfg ctx := by
  obtain ⟨n, hn⟩ : ∃ n, n = ctx.rxCbuffer.size := ⟨_, rfl⟩
  induction n using Nat.strongRecOn generalizing ctx with
  | ind n ih =>
    rw [parseResponseLoop_eq, parseResponseLoop_eq, parseResponseTurn_withPool]
    cases hturn : parseResponseTurn cfg ctx with
    | none => rfl
    | some turn =>
      cases turn with
      | done result => rfl
      | again ctx' =>
        have hlt := parseResponseTurn_again_size hturn
        exact ih _ (by omega) ctx' rfl

/-- No call on a context depends on the size of the pool. -/
theorem callContext_withPool (call : Call) (ctx : Context) :
    callContext (cfg.withPool size hpos) call ctx = callContext cfg call ctx := by
  cases call with
  | parseResponse _ =>
    have hparse : parseResponse (cfg.withPool size hpos) ctx = parseResponse cfg ctx := by
      unfold parseResponse
      rw [parseResponseLoop_withPool]
    rw [callContext, callContext, hparse]
  | _ => rfl

theorem inv_withPool {ctx : Context} (h : ctx.Inv (cfg.withPool size hpos)) : ctx.Inv cfg :=
  { h with }

theorem contextTrace_withPool {ctx ctx' : Context} {es : List Event}
    (htrace : ContextTrace (cfg.withPool size hpos) ctx es ctx') : ContextTrace cfg ctx es ctx' := by
  induction htrace with
  | nil _ => exact .nil _
  | cons hnext _ ih =>
    obtain ⟨huse, hinv, hmem, ht, hcall⟩ := hnext
    rw [callContext_withPool] at hcall
    exact .cons ⟨huse, inv_withPool cfg size hpos hinv, hmem, ht, hcall⟩ ih

end PoolSize

/-! ## Two users -/

/-- The same call on another handle. -/
def Call.retarget (h : Nat) : Call → Call
  | .acquire => .acquire
  | .release _ => .release h
  | .reset _ => .reset h
  | .setNetworkSettings _ settings => .setNetworkSettings h settings
  | .getNetworkSettings _ hasOut => .getNetworkSettings h hasOut
  | .setHeaderMode _ mode => .setHeaderMode h mode
  | .setMonitoringTimer _ timer => .setMonitoringTimer h timer
  | .setRequest _ command device address count => .setRequest h command device address count
  | .setWriteValue _ index value => .setWriteValue h index value
  | .buildRequest _ outBuf outBufSize actualSize => .buildRequest h outBuf outBufSize actualSize
  | .feedResponseBytes _ data size => .feedResponseBytes h data size
  | .parseResponse _ => .parseResponse h
  | .getResponseCode _ => .getResponseCode h
  | .getResponseCount _ => .getResponseCount h
  | .getResponseValue _ index hasOut => .getResponseValue h index hasOut
  | .getLastSerial _ => .getLastSerial h

/-- What a call does to a context does not depend on its handle. -/
theorem callContext_retarget (cfg : Config) (h : Nat) (call : Call) :
    callContext cfg (call.retarget h) = callContext cfg call := by
  funext ctx
  cases call <;> rfl

/-- **Two runs in lockstep.**  The same calls on alike contexts get the same replies. -/
theorem alike_run {cfg : Config} (hclear : cfg.FX5_CLEAR_VALUES_ON_SET_REQUEST = true) {h : Nat}
    {ctx₁ ctx₂ ctx₁' ctx₂' : Context} {es₁ es₂ : List Event}
    (htrace₁ : ContextTrace cfg ctx₁ es₁ ctx₁') (htrace₂ : ContextTrace cfg ctx₂ es₂ ctx₂')
    (halike : Alike ctx₁ ctx₂)
    (hcalls : es₂.map Event.call = (es₁.map Event.call).map (Call.retarget h)) :
    es₁.map Event.reply = es₂.map Event.reply := by
  induction htrace₁ generalizing ctx₂ es₂ with
  | nil _ =>
    rw [List.map_nil, List.map_nil, List.map_eq_nil_iff] at hcalls
    rw [hcalls]
  | @cons ctx₁ ctx₁₁ _ e₁ es₁ hnext₁ _ ih =>
    cases htrace₂ with
    | nil _ => cases hcalls
    | @cons _ ctx₂₁ _ e₂ es₂ hnext₂ hrest₂ =>
      simp only [List.map_cons, List.cons.injEq] at hcalls
      obtain ⟨hcall, hcalls⟩ := hcalls
      obtain ⟨huse₁, hinv₁, hmem₁, ⟨handle, ht₁⟩, hres₁⟩ := hnext₁
      obtain ⟨huse₂, hinv₂, _, _, hres₂⟩ := hnext₂
      rw [hcall, callContext_retarget] at hres₂
      obtain ⟨reply, _, _, h₁, h₂, halike'⟩ :=
        alike_call halike hinv₁ hinv₂ huse₁ huse₂ hclear hmem₁ ht₁
      rw [hres₁, Option.some.injEq, Prod.mk.injEq] at h₁
      rw [hres₂, Option.some.injEq, Prod.mk.injEq] at h₂
      obtain ⟨hreply₁, rfl⟩ := h₁
      obtain ⟨hreply₂, rfl⟩ := h₂
      rw [List.map_cons, List.map_cons, hreply₁, hreply₂, ih hrest₂ halike' hcalls]

/-- **No residual state reaches the next user of a context.**  Two histories lead to fresh
contexts, each of them handed out by an acquisition or just reset, in pools of any size.  From
there the two users make the same calls, whatever is done on other handles in between.  Then
they get the same replies. -/
theorem no_residual_state {cfg₁ cfg₂ : Config}
    (hcount : cfg₁.FX5_MAX_VALUE_COUNT = cfg₂.FX5_MAX_VALUE_COUNT)
    (hclear₁ : cfg₁.FX5_CLEAR_VALUES_ON_SET_REQUEST = true)
    (hclear₂ : cfg₂.FX5_CLEAR_VALUES_ON_SET_REQUEST = true)
    {pool₁ pool₂ pool₁' pool₂' : Pool} {h₁ h₂ : Nat} (hfresh₁ : Fresh cfg₁ pool₁ h₁)
    (hfresh₂ : Fresh cfg₂ pool₂ h₂) {es₁ es₂ : List Event} (htrace₁ : Trace cfg₁ pool₁ es₁ pool₁')
    (htrace₂ : Trace cfg₂ pool₂ es₂ pool₂') (hkeep₁ : ∀ e ∈ es₁, ¬ e.Acquires h₁)
    (hkeep₂ : ∀ e ∈ es₂, ¬ e.Acquires h₂)
    (hcalls : (eventsOn h₂ es₂).map Event.call =
      ((eventsOn h₁ es₁).map Event.call).map (Call.retarget h₂)) :
    (eventsOn h₁ es₁).map Event.reply = (eventsOn h₂ es₂).map Event.reply := by
  have hcfg : cfg₂ = cfg₁.withPool cfg₂.FX5_CONTEXT_POOL_SIZE cfg₂.pool_pos := by
    obtain ⟨_, _, _, _, _, _⟩ := cfg₁
    obtain ⟨_, _, _, _, _, _⟩ := cfg₂
    simp only at hcount hclear₁ hclear₂
    subst hcount hclear₁ hclear₂
    rfl
  obtain ⟨hpool₁, ctx₁, hsized₁, hctx₁⟩ := hfresh₁.context
  obtain ⟨hpool₂, ctx₂, hsized₂, hctx₂⟩ := hfresh₂.context
  obtain ⟨_, _, hrun₁⟩ := htrace₁.on_handle hpool₁ hctx₁ hkeep₁
  obtain ⟨_, _, hrun₂⟩ := htrace₂.on_handle hpool₂ hctx₂ hkeep₂
  rw [hcfg] at hrun₂ hsized₂
  have hsized₂' : ctx₂.Sized cfg₁ := ⟨hsized₂.values_length, hsized₂.data_length⟩
  exact alike_run hclear₁ hrun₁ (contextTrace_withPool _ _ _ hrun₂)
    (alike_cleared hsized₁ hsized₂' true) hcalls

/-- A pool of two contexts, the first of which was used to write a value and released. -/
def usedPool : Pool :=
  (runCalls (Config.smallest.withPool 2 Nat.two_pos)
    (Pool.zero (Config.smallest.withPool 2 Nat.two_pos))
    [.acquire, .setRequest 0 .batchWrite .D 5 1, .setWriteValue 0 0 77,
      .feedResponseBytes 0 (some [0xAA, 0xBB]) 2, .release 0]).getD []

/-- The next user asks for one word and reads it before any response arrives. -/
def earlyRead : List Call :=
  [.setRequest 0 .batchRead .D 100 1, .parseResponse 0, .getResponseValue 0 0 true]

/-- The pool in which that user got the context. -/
def reusedPool : Pool :=
  ((acquire (Config.smallest.withPool 2 Nat.two_pos) usedPool).map fun r => r.2.2).getD []

theorem fresh_reusedPool : Fresh (Config.smallest.withPool 2 Nat.two_pos) reusedPool 0 := by
  have hrun : runCalls (Config.smallest.withPool 2 Nat.two_pos)
      (Pool.zero (Config.smallest.withPool 2 Nat.two_pos))
      [.acquire, .setRequest 0 .batchWrite .D 5 1, .setWriteValue 0 0 77,
        .feedResponseBytes 0 (some [0xAA, 0xBB]) 2, .release 0] = some usedPool := by
    decide +kernel
  exact .acquired (reachable_of_runCalls (.start rfl) hrun) (by decide +kernel)

theorem earlyRead_shows_nothing :
    ∃ es₁ es₂ pool₁ pool₂, Trace .smallest (Pool.first .smallest) es₁ pool₁ ∧
      Trace (Config.smallest.withPool 2 Nat.two_pos) reusedPool es₂ pool₂ ∧
      es₁.map Event.call = earlyRead ∧ es₂.map Event.call = earlyRead ∧
      (eventsOn 0 es₁).map Event.reply = (eventsOn 0 es₂).map Event.reply := by
  have hsome₁ : (runCalls .smallest (Pool.first .smallest) earlyRead).isSome := by decide +kernel
  have hsome₂ : (runCalls (Config.smallest.withPool 2 Nat.two_pos) reusedPool earlyRead).isSome := by
    decide +kernel
  obtain ⟨pool₁, hrun₁⟩ := Option.isSome_iff_exists.mp hsome₁
  obtain ⟨pool₂, hrun₂⟩ := Option.isSome_iff_exists.mp hsome₂
  obtain ⟨es₁, htrace₁, hcalls₁⟩ := trace_of_runCalls hrun₁
  obtain ⟨es₂, htrace₂, hcalls₂⟩ := trace_of_runCalls hrun₂
  have hfresh₁ : Fresh .smallest (Pool.first .smallest) 0 := fresh_first (by decide +kernel)
  have hnot : ∀ es : List Event, es.map Event.call = earlyRead →
      ∀ e ∈ es, e.call ≠ .release 0 := by
    intro es hes e he
    have hmem : e.call ∈ earlyRead := hes ▸ List.mem_map_of_mem he
    simp only [earlyRead, List.mem_cons, List.not_mem_nil, or_false] at hmem
    rcases hmem with h | h | h <;> simp [h]
  have hkeep : ∀ {cfg : Config} {pool pool' : Pool} {es : List Event}, Fresh cfg pool 0 →
      Trace cfg pool es pool' → es.map Event.call = earlyRead → ∀ e ∈ es, ¬ e.Acquires 0 := by
    intro cfg pool pool' es hfresh htrace hes
    obtain ⟨hpool, ctx, hsized, hctx⟩ := hfresh.context
    exact htrace.not_acquires hpool hctx hsized.acquired.2.1 (hnot es hes)
  have hcalls : (eventsOn 0 es₂).map Event.call =
      ((eventsOn 0 es₁).map Event.call).map (Call.retarget 0) := by
    rw [eventsOn_calls, eventsOn_calls, hcalls₁, hcalls₂]
    rfl
  have hcount : Config.smallest.FX5_MAX_VALUE_COUNT =
      (Config.smallest.withPool 2 Nat.two_pos).FX5_MAX_VALUE_COUNT := rfl
  exact ⟨es₁, es₂, pool₁, pool₂, htrace₁, htrace₂, hcalls₁, hcalls₂,
    no_residual_state hcount rfl rfl hfresh₁ fresh_reusedPool htrace₁ htrace₂
      (hkeep hfresh₁ htrace₁ hcalls₁) (hkeep fresh_reusedPool htrace₂ hcalls₂) hcalls⟩

end Fx5
