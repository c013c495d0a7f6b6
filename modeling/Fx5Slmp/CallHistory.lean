import Fx5Slmp.Lib.LastUpdate
import Fx5Slmp.RequestDecoding
import Fx5Slmp.Serials

/-!
# What a frame says about the calls before it

A context is set up by many calls: settings, header mode, timer, the request and its values.  A frame
that is built later shows, field by field, the last accepted call that set the field; nothing else that
happened in between can be seen in it.

* `lastSaid` — the last accepted call that says something;
* `ContextNext.settings`, `CallEffect.request` — what one call says, and what it leaves alone;
* `Said` — the fields of a context are what the history says;
* `frames_say_history` — **every frame that is built** decodes to what the calls before it say.
-/

set_option autoImplicit false

namespace Fx5

open LastUpdate PackedBits

/-! ## What calls say -/

def Call.settingsSet : Call → Option NetworkSettings
  | .setNetworkSettings _ settings => settings
  | _ => none

def Call.headerSet : Call → Option HeaderType
  | .setNetworkSettings _ settings => settings.map (·.headerType)
  | .setHeaderMode _ mode => some mode
  | _ => none

def Call.timerSet : Call → Option Word
  | .setNetworkSettings _ settings => settings.map (·.monitoringTimer)
  | .setMonitoringTimer _ timer => some timer
  | _ => none

def Call.requestSet : Call → Option (Command × Device × BitVec 32 × Word)
  | .setRequest _ command device address count => some (command, device, address, count)
  | _ => none

/-- A new request sets all its values to 0. -/
def Call.valueSet (i : Nat) : Call → Option Word
  | .setRequest .. => some 0
  | .setWriteValue _ index value => if index.toNat = i then some value else none
  | _ => none

/-- What an accepted call says. -/
def Event.said {β : Type} (f : Call → Option β) (e : Event) : Option β :=
  if e.reply.status = .ok then f e.call else none

/-- What the last accepted call says that says anything. -/
def lastSaid {β : Type} (f : Call → Option β) (es : List Event) : Option β :=
  lastSome (Event.said f) es

/-- The settings after some calls on a fresh context. -/
def chosenSettings (es : List Event) : NetworkSettings :=
  { (lastSaid Call.settingsSet es).getD networkSettingsInit with
    headerType := (lastSaid Call.headerSet es).getD networkSettingsInit.headerType
    monitoringTimer := (lastSaid Call.timerSet es).getD networkSettingsInit.monitoringTimer }

/-- The value of a write request at index `i`. -/
def chosenValue (es : List Event) (i : Nat) : Word := (lastSaid (Call.valueSet i) es).getD 0

/-- The values of a write request. -/
def chosenPayload (device : Device) (count : Nat) (es : List Event) : Payload :=
  if isBitDevice device then .bits ((List.range count).map fun i => chosenValue es i != 0)
  else .words ((List.range count).map (chosenValue es))

section Said

variable {β : Type} {f : Call → Option β} {e : Event} {es : List Event}

theorem lastSaid_concat (f : Call → Option β) (es : List Event) (e : Event) :
    lastSaid f (es ++ [e]) = (e.said f).or (lastSaid f es) := lastSome_concat _ _ _

theorem said_of_ok (h : e.reply.status = .ok) : e.said f = f e.call := if_pos h

/-- A call that is refused says nothing. -/
theorem said_of_refused (h : e.reply.status ≠ .ok) : e.said f = none := if_neg h

theorem said_of_none (h : f e.call = none) : e.said f = none := by
  rw [Event.said, h, ite_self]

theorem lastSaid_getD (f : Call → Option β) (es : List Event) (e : Event) (y : β) :
    (lastSaid f (es ++ [e])).getD y = (e.said f).getD ((lastSaid f es).getD y) := by
  rw [lastSaid_concat]
  cases e.said f <;> rfl

end Said

/-! ## One call -/

section Effect

variable {cfg : Config} {ctx ctx' : Context} {e : Event} {es : List Event}

theorem unsaid_of_not_setting {call : Call} (h : call.isSetting = false) :
    call.settingsSet = none ∧ call.headerSet = none ∧ call.timerSet = none := by
  cases call with
  | setNetworkSettings | setHeaderMode | setMonitoringTimer => cases h
  | _ => exact ⟨rfl, rfl, rfl⟩

/-- Only calls that set them change the settings. -/
theorem CallEffect.settings_kept {call : Call} {reply : Reply}
    (heffect : CallEffect cfg ctx call reply ctx') (hinv : ctx.Inv cfg) (huse : ctx.inUse = true)
    (hkeep : ∀ h, call ≠ .release h ∧ call ≠ .reset h) (hsetting : call.isSetting = false) :
    ctx'.networkSettings = ctx.networkSettings := by
  cases heffect with
  | released h => exact absurd rfl (hkeep h).1
  | cleared h => exact absurd rfl (hkeep h).2
  | configured hset _ =>
    rw [hsetting] at hset
    cases hset
  | sent h _ _ _ =>
    unfold Context.sent
    split <;> rfl
  | parsed h hres =>
    obtain ⟨_, _, hres', _, _, _, _, hsettings, _⟩ := parseResponse_inv hinv huse
    rw [hres] at hres'
    cases hres'
    exact hsettings
  | read _ => rfl
  | refused _ _ => rfl
  | requested h _ => rfl
  | written h _ => rfl
  | fed h _ _ => rfl

/-- What one more call says of the settings. -/
theorem chosenSettings_concat (es : List Event) (e : Event) :
    chosenSettings (es ++ [e]) =
      { (e.said Call.settingsSet).getD (chosenSettings es) with
        headerType := (e.said Call.headerSet).getD (chosenSettings es).headerType
        monitoringTimer := (e.said Call.timerSet).getD (chosenSettings es).monitoringTimer } := by
  simp only [chosenSettings, lastSaid_getD]
  cases e.said Call.settingsSet <;> rfl

/-- A call that says nothing of the settings. -/
theorem chosenSettings_unsaid (h : e.reply.status ≠ .ok ∨ e.call.isSetting = false) :
    chosenSettings (es ++ [e]) = chosenSettings es := by
  obtain ⟨hsettings, hheader, htimer⟩ : e.said Call.settingsSet = none ∧
      e.said Call.headerSet = none ∧ e.said Call.timerSet = none := by
    rcases h with hne | hsetting
    · exact ⟨said_of_refused hne, said_of_refused hne, said_of_refused hne⟩
    · obtain ⟨hsettings, hheader, htimer⟩ := unsaid_of_not_setting hsetting
      exact ⟨said_of_none hsettings, said_of_none hheader, said_of_none htimer⟩
  rw [chosenSettings_concat, hsettings, hheader, htimer]
  rfl

/-- **One call** keeps the settings what the history says. -/
theorem ContextNext.settings (hnext : ContextNext cfg ctx e ctx')
    (hkeep : ∀ h, e.call ≠ .release h ∧ e.call ≠ .reset h)
    (hsettings : ctx.networkSettings = chosenSettings es) :
    ctx'.networkSettings = chosenSettings (es ++ [e]) := by
  have hcall := hnext.2.2.2.2
  have huse := hnext.1
  obtain ⟨call, reply⟩ := e
  cases hsetting : call.isSetting with
  | false =>
    rw [hnext.effect.settings_kept hnext.2.1 huse hkeep hsetting, hsettings,
      chosenSettings_unsaid (Or.inr hsetting)]
  | true =>
    cases call with
    | setNetworkSettings h settings =>
      rcases setNetworkSettings_cases huse settings with ⟨status, hne, hres⟩ | ⟨s, rfl, _, hres⟩
      · simp only [callContext, hres] at hcall
        cases hcall
        rw [hsettings, chosenSettings_unsaid (e := ⟨_, .done status⟩) (Or.inl hne)]
      · simp only [callContext, hres] at hcall
        cases hcall
        rw [chosenSettings_concat]
        rfl
    | setHeaderMode h mode =>
      rcases setHeaderMode_cases huse mode with ⟨status, hne, hres⟩ | ⟨_, hres⟩
      · simp only [callContext, hres] at hcall
        cases hcall
        rw [hsettings, chosenSettings_unsaid (e := ⟨_, .done status⟩) (Or.inl hne)]
      · simp only [callContext, hres] at hcall
        cases hcall
        rw [chosenSettings_concat, ← hsettings]
        rfl
    | setMonitoringTimer h timer =>
      simp only [callContext, setMonitoringTimer, requireAcquired_ok huse] at hcall
      cases hcall
      rw [chosenSettings_concat, ← hsettings]
      rfl
    | _ => cases hsetting

/-! ## The request -/

/-- The request is as it was, unless it is answered; the values of a write are as they were. -/
structure RequestKept (ctx ctx' : Context) : Prop where
  command : ctx'.command = ctx.command
  device : ctx'.device = ctx.device
  address : ctx'.address = ctx.address
  count : ctx'.count = 0 ∨ ctx'.count = ctx.count
  values : ctx.command = .batchWrite → ctx'.values = ctx.values

/-- A packet ends the request or keeps its count, and changes no value of a write. -/
theorem pduResult_kept (ctx : Context) (packet : List Byte) :
    ((pduResult ctx packet).count = 0 ∨ (pduResult ctx packet).count = ctx.count) ∧
      (ctx.command = .batchWrite → (pduResult ctx packet).values = ctx.values) := by
  unfold pduResult payloadResult
  simp only
  split
  · exact ⟨Or.inl rfl, fun _ => rfl⟩
  split
  · split
    · exact ⟨Or.inl rfl, fun _ => rfl⟩
    · exact ⟨Or.inr rfl, fun _ => rfl⟩
  rename_i hread
  refine ⟨Or.inr ?_, fun hwrite => absurd hwrite hread⟩
  split
  · unfold bitPayloadResult
    split <;> rfl
  · unfold wordPayloadResult
    split
    · rfl
    · split <;> rfl

theorem apply_kept {ctx : Context} {r : PduResult} (k header : Nat)
    (hcount : r.count = 0 ∨ r.count = ctx.count)
    (hvalues : ctx.command = .batchWrite → r.values = ctx.values) :
    RequestKept ctx (r.apply (ctx.taken k header)) := ⟨rfl, rfl, rfl, hcount, hvalues⟩

theorem parseResponse_kept (hinv : ctx.Inv cfg) (huse : ctx.inUse = true) {status : Status}
    (hres : parseResponse cfg ctx = some (status, ctx')) : RequestKept ctx ctx' := by
  obtain ⟨k, hk⟩ : ∃ k, frameStart cfg ctx.serial ctx.rxCbuffer.contents = k := ⟨_, rfl⟩
  rcases parseResponse_outcome hinv huse hk rfl with ⟨_, h⟩ | ⟨_, _, h⟩ | ⟨_, _, h⟩
  · rw [h] at hres
    cases hres
    exact ⟨rfl, rfl, rfl, Or.inr rfl, fun _ => rfl⟩
  · rw [h] at hres
    cases hres
    exact ⟨rfl, rfl, rfl, Or.inr rfl, fun _ => rfl⟩
  · obtain ⟨hcount, hvalues⟩ :=
      pduResult_kept ctx (packetOf (ctx.rxCbuffer.contents.drop k))
    rw [h] at hres
    cases hres
    exact apply_kept _ _ hcount hvalues

/-- **What one call does to the request**: it makes a new one, writes a value of it, or keeps it. -/
theorem CallEffect.request {call : Call} {reply : Reply}
    (heffect : CallEffect cfg ctx call reply ctx') (hinv : ctx.Inv cfg) (huse : ctx.inUse = true)
    (hkeep : ∀ h, call ≠ .release h ∧ call ≠ .reset h) :
    (∃ h command device address count, call = .setRequest h command device address count ∧
      reply.status = .ok ∧ ctx' = ctx.withRequest cfg command device address count) ∨
    (∃ h index value, call = .setWriteValue h index value ∧ reply.status = .ok ∧
      index.toNat < ctx.count ∧ ctx' = { ctx with values := writtenValues ctx index.toNat value }) ∨
    ((reply.status ≠ .ok ∨ call.requestSet = none ∧ ∀ i, call.valueSet i = none) ∧
      RequestKept ctx ctx') := by
  have hsame : RequestKept ctx ctx := ⟨rfl, rfl, rfl, Or.inr rfl, fun _ => rfl⟩
  cases heffect with
  | read hget =>
    refine Or.inr (Or.inr ⟨Or.inr ?_, hsame⟩)
    cases call <;> first | exact ⟨rfl, fun _ => rfl⟩ | cases hget
  | refused _ hne => exact Or.inr (Or.inr ⟨Or.inl hne, hsame⟩)
  | released h => exact absurd rfl (hkeep h).1
  | cleared h => exact absurd rfl (hkeep h).2
  | configured hset _ =>
    refine Or.inr (Or.inr ⟨Or.inr ?_, ⟨rfl, rfl, rfl, Or.inr rfl, fun _ => rfl⟩⟩)
    cases call <;> first | exact ⟨rfl, fun _ => rfl⟩ | cases hset
  | requested h _ => exact Or.inl ⟨h, _, _, _, _, rfl, rfl, rfl⟩
  | written h hlt => exact Or.inr (Or.inl ⟨h, _, _, rfl, rfl, hlt, rfl⟩)
  | sent h _ _ _ =>
    refine Or.inr (Or.inr ⟨Or.inr ⟨rfl, fun _ => rfl⟩, ?_⟩)
    unfold Context.sent
    split <;> exact ⟨rfl, rfl, rfl, Or.inr rfl, fun _ => rfl⟩
  | fed h _ _ =>
    exact Or.inr (Or.inr ⟨Or.inr ⟨rfl, fun _ => rfl⟩, ⟨rfl, rfl, rfl, Or.inr rfl, fun _ => rfl⟩⟩)
  | parsed h hres =>
    exact Or.inr (Or.inr ⟨Or.inr ⟨rfl, fun _ => rfl⟩, parseResponse_kept hinv huse hres⟩)

end Effect

/-! ## Whole histories -/

/-- The values of a write are what the history says. -/
def ValuesSaid (es : List Event) (ctx : Context) : Prop :=
  if isBitDevice ctx.device then ∀ i, bitAt ctx.values i = (chosenValue es i != 0)
  else ∀ i, ctx.values.getD i 0 = chosenValue es i

/-- The fields of a context are what the calls since it was handed out say. -/
structure Said (es : List Event) (ctx : Context) : Prop where
  settings : ctx.networkSettings = chosenSettings es
  serials : SerialsMatch (builtFrames es) ctx
  request : ctx.count ≠ 0 → ∃ address count,
    lastSaid Call.requestSet es = some (ctx.command, ctx.device, address, count) ∧
      address.toNat = ctx.address ∧ count.toNat = ctx.count
  values : ctx.count ≠ 0 → ctx.command = .batchWrite → ValuesSaid es ctx

section Said

variable {cfg : Config} {ctx ctx' : Context} {e : Event} {es : List Event}

/-- A fresh context says nothing. -/
theorem said_acquired (cfg : Config) (ctx : Context) : Said [] (ctx.acquired cfg) where
  settings := rfl
  serials := SerialsMatch.acquired cfg ctx
  request := fun h => absurd rfl h
  values := fun h => absurd rfl h

theorem chosenValue_concat (es : List Event) (e : Event) (i : Nat) :
    chosenValue (es ++ [e]) i = (e.said (Call.valueSet i)).getD (chosenValue es i) :=
  lastSaid_getD _ _ _ _

/-- A new request has no values yet. -/
theorem valuesSaid_request (hclear : cfg.FX5_CLEAR_VALUES_ON_SET_REQUEST = true) {h : Nat}
    {command : Command} {device : Device} {address : BitVec 32} {count : Word}
    (hcall : e.call = .setRequest h command device address count) (hok : e.reply.status = .ok) :
    ValuesSaid (es ++ [e]) (ctx.withRequest cfg command device address count) := by
  have hzero (i : Nat) : chosenValue (es ++ [e]) i = 0 := by
    rw [chosenValue_concat, said_of_ok hok, hcall]
    rfl
  have hvalues : (ctx.withRequest cfg command device address count).values =
      List.replicate cfg.FX5_MAX_VALUE_COUNT 0 := if_pos hclear
  unfold ValuesSaid
  rw [hvalues]
  split
  · intro i
    rw [hzero, bitAt, getD_replicate_zero]
    exact BitVec.getLsbD_zero
  · intro i
    rw [hzero, getD_replicate_zero]

/-- A written value is the last one at its index. -/
theorem valuesSaid_write (hinv : ctx.Inv cfg) {h : Nat} {index value : Word}
    (hcall : e.call = .setWriteValue h index value) (hok : e.reply.status = .ok)
    (hlt : index.toNat < ctx.count) (hsaid : ValuesSaid es ctx) :
    ValuesSaid (es ++ [e]) { ctx with values := writtenValues ctx index.toNat value } := by
  have hchosen (i : Nat) : chosenValue (es ++ [e]) i =
      if i = index.toNat then value else chosenValue es i := by
    rw [chosenValue_concat, said_of_ok hok, hcall, Call.valueSet]
    by_cases hi : i = index.toNat
    · rw [if_pos hi, if_pos hi.symm]
      rfl
    · rw [if_neg hi, if_neg (Ne.symm hi)]
      rfl
  unfold ValuesSaid at hsaid ⊢
  cases hdevice : isBitDevice ctx.device with
  | true =>
    rw [hdevice, if_pos rfl] at hsaid
    simp only [if_true]
    intro i
    have hone : bitAt (writtenValues ctx index.toNat value) i =
        if i = index.toNat then value != 0 else bitAt ctx.values i :=
      singleWrite_bits hinv hdevice ctx.values index.toNat value rfl hlt i
    rw [hchosen, hone, hsaid i]
    split <;> rfl
  | false =>
    rw [hdevice, if_neg Bool.false_ne_true] at hsaid
    simp only [Bool.false_eq_true, if_false]
    intro i
    have hone : (writtenValues ctx index.toNat value).getD i 0 =
        if i = index.toNat then value else ctx.values.getD i 0 :=
      singleWrite_words hinv hdevice ctx.values index.toNat value rfl hlt i
    rw [hchosen, hone, hsaid i]

/-- **One call** keeps the fields what the history says. -/
theorem Said.step (hclear : cfg.FX5_CLEAR_VALUES_ON_SET_REQUEST = true) (hsaid : Said es ctx)
    (hnext : ContextNext cfg ctx e ctx') (hkeep : ∀ h, e.call ≠ .release h ∧ e.call ≠ .reset h) :
    Said (es ++ [e]) ctx' := by
  have hinv := hnext.2.1
  have hserials : SerialsMatch (builtFrames (es ++ [e])) ctx' := by
    have hframes : builtFrames (es ++ [e]) = builtFrames es ++ builtFrames [e] :=
      List.filterMap_append
    rw [hframes]
    exact hsaid.serials.step hnext hkeep
  have hsettings := hnext.settings hkeep hsaid.settings
  rcases hnext.effect.request hinv hnext.1 hkeep with
    ⟨h, command, device, address, count, hcall, hok, rfl⟩ |
    ⟨h, index, value, hcall, hok, hlt, rfl⟩ | ⟨hunsaid, hkept⟩
  · refine ⟨hsettings, hserials, fun _ => ⟨address, count, ?_, rfl, rfl⟩,
      fun _ _ => valuesSaid_request hclear hcall hok⟩
    rw [lastSaid_concat, said_of_ok hok, hcall]
    rfl
  · have hrequest : e.said Call.requestSet = none := said_of_none (by rw [hcall]; rfl)
    refine ⟨hsettings, hserials, fun hcount => ?_, fun hcount hwrite =>
      valuesSaid_write hinv hcall hok hlt (hsaid.values hcount hwrite)⟩
    rw [lastSaid_concat, hrequest, Option.none_or]
    exact hsaid.request hcount
  · have hrequest : e.said Call.requestSet = none := by
      rcases hunsaid with hne | ⟨hnone, _⟩
      · exact said_of_refused hne
      · exact said_of_none hnone
    have hvalue (i : Nat) : e.said (Call.valueSet i) = none := by
      rcases hunsaid with hne | ⟨_, hnone⟩
      · exact said_of_refused hne
      · exact said_of_none (hnone i)
    have hcount (h : ctx'.count ≠ 0) : ctx'.count = ctx.count ∧ ctx.count ≠ 0 := by
      rcases hkept.count with hzero | hsame
      · exact absurd hzero h
      · exact ⟨hsame, hsame ▸ h⟩
    refine ⟨hsettings, hserials, fun h => ?_, fun h hwrite => ?_⟩
    · rw [lastSaid_concat, hrequest, Option.none_or, hkept.command, hkept.device, hkept.address,
        (hcount h).1]
      exact hsaid.request (hcount h).2
    · rw [hkept.command] at hwrite
      have hvalues := hsaid.values (hcount h).2 hwrite
      unfold ValuesSaid at hvalues ⊢
      simp only [hkept.device, hkept.values hwrite, chosenValue_concat, hvalue, Option.getD_none]
      exact hvalues

/-- The payload of a write is what the history says. -/
theorem payload_said (hinv : ctx.Inv cfg) (hsaid : ValuesSaid es ctx) :
    ctx.payload = chosenPayload ctx.device ctx.count es := by
  unfold ValuesSaid at hsaid
  unfold Context.payload chosenPayload
  cases hdevice : isBitDevice ctx.device with
  | true =>
    rw [hdevice, if_pos rfl] at hsaid
    simp only [if_true, bitValues]
    exact congrArg Payload.bits (List.map_congr_left fun i _ => hsaid i)
  | false =>
    rw [hdevice, if_neg Bool.false_ne_true] at hsaid
    have hword := hinv.word_count_le hdevice
    simp only [Bool.false_eq_true, if_false]
    refine congrArg Payload.words (List.ext_getElem ?_ fun i h₁ h₂ => ?_)
    · rw [List.length_take, List.length_map, List.length_range]
      omega
    · rw [List.length_take] at h₁
      rw [List.getElem_take, List.getElem_map, List.getElem_range, ← hsaid i,
        List.getD_eq_getElem _ _ (by omega)]

theorem count_ne_of_valid (h : ctx.Valid cfg) : ctx.count ≠ 0 := by
  intro hcount
  unfold Context.Valid validateRequest at h
  rw [if_pos hcount] at h
  cases h

/-- A successful build writes the frame of a valid request. -/
theorem CallEffect.built (heffect : CallEffect cfg ctx e.call e.reply ctx') {frame : List Byte}
    (hframe : e.builtFrame = some frame) : frame = requestBytes ctx ∧ ctx.count ≠ 0 := by
  obtain ⟨call, reply⟩ := e
  simp only at heffect
  cases heffect with
  | read hget =>
    rw [builtFrame_of_getter hget] at hframe
    cases hframe
  | refused _ hne =>
    rw [builtFrame_of_status hne] at hframe
    cases hframe
  | configured _ _ =>
    rw [builtFrame_of_done rfl] at hframe
    cases hframe
  | sent h hvalid _ _ =>
    refine ⟨?_, count_ne_of_valid hvalid⟩
    simpa [Event.builtFrame] using hframe.symm
  | released | cleared | requested | written | fed | parsed => cases hframe

end Said

/-- The calls on a handle that is neither released nor reset. -/
theorem kept_on_handle {h : Nat} {es : List Event}
    (hkeep : ∀ e ∈ es, e.call ≠ .release h ∧ e.call ≠ .reset h) :
    ∀ e ∈ eventsOn h es, ∀ h', e.call ≠ .release h' ∧ e.call ≠ .reset h' := by
  intro e he h'
  simp only [eventsOn, List.mem_filter, decide_eq_true_eq] at he
  obtain ⟨hmem, ht⟩ := he
  constructor
  · intro hcall
    rw [hcall] at ht
    cases ht
    exact (hkeep e hmem).1 hcall
  · intro hcall
    rw [hcall] at ht
    cases ht
    exact (hkeep e hmem).2 hcall

/-- **Every frame says what the calls before it say**, in the default configuration, which clears the
values when a request is set.  Take any history since a context was handed out or reset, with any
calls on other handles in between, held or not.  Each frame that is built on the context decodes
to the settings, the request and the values that the last accepted calls before it set, one field at a
time, and to the number of 4E frames built before.  Refused calls, received bytes, parsed answers and
getters cannot be seen in it. -/
theorem frames_say_history {cfg : Config} (hclear : cfg.FX5_CLEAR_VALUES_ON_SET_REQUEST = true)
    {pool₀ pool : Pool} {h : Nat} {es : List Event} (hfresh : Fresh cfg pool₀ h)
    (hhistory : History cfg pool₀ es pool)
    (hkeep : ∀ e ∈ es, e.call ≠ .release h ∧ e.call ≠ .reset h)
    {before after : List Event} {e : Event} (hes : eventsOn h es = before ++ e :: after)
    {frame : List Byte} (hframe : e.builtFrame = some frame) :
    ∃ command device address count,
      lastSaid Call.requestSet before = some (command, device, address, count) ∧
      decodeRequest frame = some
        { settings := chosenSettings before
          serial := if (chosenSettings before).headerType = .h4E then
            some ((serialsOf (builtFrames before)).length % 65536) else none
          pdu := ⟨command, device, address.toNat, count.toNat,
            if command = .batchWrite then some (chosenPayload device count.toNat before)
            else none⟩ } := by
  obtain ⟨hpool, ctx₀, hsized, hctx₀⟩ := hfresh.context
  obtain ⟨_, huse₀, _⟩ := hsized.acquired
  have hkeepOn := kept_on_handle hkeep
  obtain ⟨legal, htrace, hsub, hsame⟩ :=
    History.trace hhistory hpool hctx₀ huse₀ fun e he => (hkeep e he).1
  have hnot := htrace.not_acquires hpool hctx₀ huse₀ fun e he => (hkeep e (hsub.subset he)).1
  obtain ⟨_, _, hrun⟩ := htrace.on_handle hpool hctx₀ hnot
  rw [hsame] at hrun
  rw [hes] at hrun hkeepOn
  obtain ⟨ctx, hbefore, hrest⟩ := Runs.Run.split hrun
  have hsaid := Runs.Run.history (J := Said)
    (fun before s a t ha hs hnext => Said.step hclear hs hnext
      (hkeepOn a (List.mem_append_left _ ha))) (said_acquired cfg ctx₀) hbefore
  rw [List.nil_append] at hsaid
  cases hrest with
  | cons hnext _ =>
    have hinv := hnext.2.1
    obtain ⟨rfl, hcount⟩ := hnext.effect.built hframe
    obtain ⟨address, count, hrequest, haddress, hcount'⟩ := hsaid.request hcount
    refine ⟨ctx.command, ctx.device, address, count, hrequest, ?_⟩
    rw [decodeRequest_requestBytes hinv, hsaid.settings, hsaid.serials.next, haddress, hcount']
    by_cases hwrite : ctx.command = .batchWrite
    · rw [if_pos hwrite, if_pos hwrite, payload_said hinv (hsaid.values hcount hwrite)]
    · rw [if_neg hwrite, if_neg hwrite]

/-- A write whose value is corrected, with a request between that is refused. -/
def correctedWrite : List Call :=
  [.setHeaderMode 0 .h3E, .setRequest 0 .batchWrite .D 100 1, .setWriteValue 0 0 7,
    .setRequest 0 .batchRead .D 100 1000, .setHeaderMode 0 .h4E, .setWriteValue 0 0 8,
    .parseResponse 0]

def correctedPool : Pool :=
  (runCalls .smallest (Pool.first .smallest) correctedWrite).getD []

/-- The frame of the corrected write. -/
def correctedBuild : Call := .buildRequest 0 (some (List.replicate 27 0)) 27 (some 0)

theorem correctedWrite_said : ∃ before frame command device address count,
    before.map Event.call = correctedWrite ∧
      lastSaid Call.requestSet before = some (command, device, address, count) ∧
      decodeRequest frame = some
        { settings := chosenSettings before
          serial := if (chosenSettings before).headerType = .h4E then
            some ((serialsOf (builtFrames before)).length % 65536) else none
          pdu := ⟨command, device, address.toNat, count.toNat,
            if command = .batchWrite then some (chosenPayload device count.toNat before)
            else none⟩ } := by
  have hfresh : Fresh .smallest (Pool.first .smallest) 0 := fresh_first (by decide +kernel)
  have hrun : runCalls .smallest (Pool.first .smallest) correctedWrite = some correctedPool := by
    decide +kernel
  have hlegal : correctedBuild.Legal correctedPool := by decide +kernel
  have hbuilt : ((step .smallest correctedPool correctedBuild).bind fun r =>
      Event.builtFrame ⟨correctedBuild, r.1⟩).isSome := by decide +kernel
  obtain ⟨before, htrace, hcalls⟩ := trace_of_runCalls hrun
  obtain ⟨frame, hframe⟩ := Option.isSome_iff_exists.mp hbuilt
  obtain ⟨⟨reply, pool⟩, hstep, hframe⟩ := Option.bind_eq_some_iff.mp hframe
  have hwhole : Trace .smallest (Pool.first .smallest) (before ++ [⟨correctedBuild, reply⟩]) pool :=
    htrace.append (.cons ⟨hlegal, hstep⟩ (.nil _))
  have hmem : ∀ e ∈ before ++ [⟨correctedBuild, reply⟩],
      e.call ∈ correctedWrite ++ [correctedBuild] := by
    intro e he
    rw [← hcalls]
    simpa using List.mem_map_of_mem (f := Event.call) he
  have htarget : ∀ call ∈ correctedWrite ++ [correctedBuild],
      call.target = some 0 ∧ call ≠ .release 0 ∧ call ≠ .reset 0 := by
    simp [correctedWrite, correctedBuild, Call.target]
  have hon : eventsOn 0 (before ++ [⟨correctedBuild, reply⟩]) =
      before ++ ⟨correctedBuild, reply⟩ :: [] :=
    List.filter_eq_self.mpr fun e he => decide_eq_true (htarget _ (hmem e he)).1
  obtain ⟨command, device, address, count, hrequest, hdecode⟩ :=
    frames_say_history rfl hfresh (Trace.history hwhole) (fun e he => (htarget _ (hmem e he)).2) hon
      hframe
  exact ⟨before, frame, command, device, address, count, hcalls, hrequest, hdecode⟩

end Fx5
