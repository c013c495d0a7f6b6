import Fx5Slmp.Traces

/-!
# The serial numbers of a history

Every successful build of a 4E request takes the next serial number; nothing else does.  The
serial number lives in two fields, which a header builder updates and a reset clears, so the
law is an invariant of histories.

* `CallEffect.serials` — what one call does to the two fields;
* `SerialsMatch` — the two fields are what the frames built so far say;
* `serial_discipline` — the law over every history of a context.
-/

set_option autoImplicit false

namespace Fx5

/-- The frame that a successful build wrote. -/
def Event.builtFrame (e : Event) : Option (List Byte) :=
  match e.call, e.reply with
  | .buildRequest .., .built .ok (some out) (some size) => some (out.take size)
  | _, _ => none

/-- The frame starts with the 4E subheader. -/
def Is4ERequest (frame : List Byte) : Prop :=
  le16At frame FX5_MAGIC_NUMBER_OFFSET = FX5_TCP_REQUEST_SUBHEADER_4E_BINARY

instance (frame : List Byte) : Decidable (Is4ERequest frame) :=
  inferInstanceAs (Decidable (_ = _))

/-- The frames of the successful builds, oldest first. -/
def builtFrames (es : List Event) : List (List Byte) := es.filterMap Event.builtFrame

/-- Bytes 2 and 3 of the 4E frames, oldest first. -/
def serialsOf (frames : List (List Byte)) : List Nat :=
  (frames.filter Is4ERequest).map fun frame => le16At frame FX5_SERIAL_OFFSET_4E

/-- The serial number of the last frame: 0 if it is a 3E frame, or if there is none. -/
def lastSerialOf (frames : List (List Byte)) : Nat :=
  match frames.getLast? with
  | none => 0
  | some frame => if Is4ERequest frame then le16At frame FX5_SERIAL_OFFSET_4E else 0

/-! ## One call -/

section Effect

variable {cfg : Config} {ctx ctx' : Context}

theorem is4ERequest_requestBytes (ctx : Context) :
    Is4ERequest (requestBytes ctx) ↔ ctx.networkSettings.headerType = .h4E := by
  have hsub := requestBytes_subheader ctx
  rw [Is4ERequest, FX5_MAGIC_NUMBER_OFFSET, hsub]
  by_cases h4 : ctx.networkSettings.headerType = .h4E
  · simp [h4]
  · simp only [h4, if_false, iff_false]
    decide

/-- A call that is no successful build has no frame. -/
theorem builtFrame_of_status {e : Event} (h : e.reply.status ≠ .ok) : e.builtFrame = none := by
  unfold Event.builtFrame
  split
  · rename_i hreply
    rw [hreply] at h
    exact absurd rfl h
  · rfl

theorem builtFrame_of_done {e : Event} {status : Status} (h : e.reply = .done status) :
    e.builtFrame = none := by
  unfold Event.builtFrame
  rw [h]
  split
  · rename_i hreply
    cases hreply
  · rfl

theorem builtFrame_of_getter {e : Event} (h : e.call.isGetter = true) : e.builtFrame = none := by
  unfold Event.builtFrame
  split
  · rename_i hcall _
    rw [hcall] at h
    cases h
  · rfl

/-- **What one call does to the serial numbers**: a successful build takes the next one, and
every other call but a release or a reset leaves both fields alone. -/
theorem CallEffect.serials {e : Event} (heffect : CallEffect cfg ctx e.call e.reply ctx')
    (hinv : ctx.Inv cfg) (huse : ctx.inUse = true)
    (hkeep : ∀ h, e.call ≠ .release h ∧ e.call ≠ .reset h) :
    (e.builtFrame = none ∧ ctx'.serial = ctx.serial ∧ ctx'.nextSerial = ctx.nextSerial) ∨
      (e.builtFrame = some (requestBytes ctx) ∧ ctx' = ctx.sent) := by
  obtain ⟨call, reply⟩ := e
  simp only at heffect hkeep
  cases heffect with
  | read hget => exact Or.inl ⟨builtFrame_of_getter hget, rfl, rfl⟩
  | refused _ hne => exact Or.inl ⟨builtFrame_of_status hne, rfl, rfl⟩
  | released h => exact absurd rfl (hkeep h).1
  | cleared h => exact absurd rfl (hkeep h).2
  | configured _ _ => exact Or.inl ⟨builtFrame_of_done rfl, rfl, rfl⟩
  | requested h _ => exact Or.inl ⟨rfl, rfl, rfl⟩
  | written h _ => exact Or.inl ⟨rfl, rfl, rfl⟩
  | sent h _ _ _ =>
    refine Or.inr ⟨?_, rfl⟩
    simp [Event.builtFrame]
  | fed h _ _ => exact Or.inl ⟨rfl, rfl, rfl⟩
  | parsed h hres =>
    obtain ⟨_, _, hres', _, _, hserial, hnext, _⟩ := parseResponse_inv hinv huse
    rw [hres] at hres'
    cases hres'
    exact Or.inl ⟨rfl, hserial, hnext⟩

end Effect

/-! ## Whole histories -/

/-- The two serial number fields are what the frames built so far say. -/
structure SerialsMatch (frames : List (List Byte)) (ctx : Context) : Prop where
  serials : serialsOf frames = (List.range (serialsOf frames).length).map (· % 65536)
  next : ctx.nextSerial = (serialsOf frames).length % 65536
  last : ctx.serial = lastSerialOf frames

theorem serialsOf_append (frames : List (List Byte)) (frame : List Byte) :
    serialsOf (frames ++ [frame]) = serialsOf frames ++
      if Is4ERequest frame then [le16At frame FX5_SERIAL_OFFSET_4E] else [] := by
  unfold serialsOf
  rw [List.filter_append, List.map_append]
  split
  · rename_i h4
    simp [h4]
  · rename_i h4
    simp [h4]

theorem lastSerialOf_append (frames : List (List Byte)) (frame : List Byte) :
    lastSerialOf (frames ++ [frame]) =
      if Is4ERequest frame then le16At frame FX5_SERIAL_OFFSET_4E else 0 := by
  simp [lastSerialOf]

namespace SerialsMatch

variable {cfg : Config} {ctx ctx' : Context} {frames : List (List Byte)}

/-- A fresh context has built nothing. -/
theorem acquired (cfg : Config) (ctx : Context) : SerialsMatch [] (ctx.acquired cfg) :=
  ⟨rfl, rfl, rfl⟩

/-- A successful build keeps the match. -/
theorem sent (h : SerialsMatch frames ctx) : SerialsMatch (frames ++ [requestBytes ctx]) ctx.sent := by
  have hnext : ctx.nextSerial < 65536 := by
    rw [h.next]
    exact Nat.mod_lt _ (by decide)
  by_cases h4 : ctx.networkSettings.headerType = .h4E
  · have hframe := (is4ERequest_requestBytes ctx).mpr h4
    have hserial := requestBytes_serial h4 hnext
    have hlist : serialsOf (frames ++ [requestBytes ctx]) =
        serialsOf frames ++ [ctx.nextSerial] := by
      rw [serialsOf_append, if_pos hframe, hserial]
    refine ⟨?_, ?_, ?_⟩
    · rw [hlist, List.length_append, List.length_singleton, List.range_succ, List.map_append,
        ← h.serials, List.map_singleton, h.next]
    · rw [hlist, Context.sent, if_pos h4, List.length_append, List.length_singleton]
      show u16 (ctx.nextSerial + 1) = _
      rw [h.next, u16, Nat.mod_add_mod]
    · rw [lastSerialOf_append, if_pos hframe, hserial, Context.sent, if_pos h4]
  · have hframe : ¬ Is4ERequest (requestBytes ctx) := fun hf =>
      h4 ((is4ERequest_requestBytes ctx).mp hf)
    have hlist : serialsOf (frames ++ [requestBytes ctx]) = serialsOf frames := by
      rw [serialsOf_append, if_neg hframe, List.append_nil]
    refine ⟨?_, ?_, ?_⟩
    · rw [hlist]
      exact h.serials
    · rw [hlist, Context.sent, if_neg h4]
      exact h.next
    · rw [lastSerialOf_append, if_neg hframe, Context.sent, if_neg h4]

/-- **One call** but a release or a reset keeps the match. -/
theorem step (h : SerialsMatch frames ctx) {e : Event} (hnext : ContextNext cfg ctx e ctx')
    (hkeep : ∀ h, e.call ≠ .release h ∧ e.call ≠ .reset h) :
    SerialsMatch (frames ++ builtFrames [e]) ctx' := by
  rcases hnext.effect.serials hnext.2.1 hnext.1 hkeep with ⟨hnone, hserial, hnextSerial⟩ |
    ⟨hframe, rfl⟩
  · have hframes : builtFrames [e] = [] := by simp [builtFrames, hnone]
    rw [hframes, List.append_nil]
    exact ⟨h.serials, hnextSerial.trans h.next, hserial.trans h.last⟩
  · have hframes : builtFrames [e] = [requestBytes ctx] := by simp [builtFrames, hframe]
    rw [hframes]
    exact h.sent

/-- **A whole run** keeps it. -/
theorem run {es : List Event} (htrace : ContextTrace cfg ctx es ctx') (h : SerialsMatch frames ctx)
    (hkeep : ∀ e ∈ es, ∀ h, e.call ≠ .release h ∧ e.call ≠ .reset h) :
    SerialsMatch (frames ++ builtFrames es) ctx' := by
  induction htrace generalizing frames with
  | nil _ =>
    simp only [builtFrames, List.filterMap_nil, List.append_nil]
    exact h
  | @cons _ _ _ e es hnext _ ih =>
    have hrest := ih (h.step hnext (hkeep e (List.mem_cons_self ..)))
      fun e he => hkeep e (List.mem_cons_of_mem _ he)
    have hsplit : builtFrames (e :: es) = builtFrames [e] ++ builtFrames es := by
      rw [builtFrames, ← List.singleton_append, List.filterMap_append]
      rfl
    rw [hsplit, ← List.append_assoc]
    exact hrest

/-- Fewer than 65536 serial numbers apart, two of them differ. -/
theorem distinct (h : SerialsMatch frames ctx) {i j : Nat} (hij : i < j) (hfar : j < i + 65536)
    (hj : j < (serialsOf frames).length) : (serialsOf frames)[i]? ≠ (serialsOf frames)[j]? := by
  rw [h.serials]
  have hi : i < (serialsOf frames).length := by omega
  simp only [List.getElem?_map, List.getElem?_range hi, List.getElem?_range hj, Option.map_some,
    ne_eq, Option.some.injEq]
  omega

end SerialsMatch

/-- **The serial discipline**, for every history of calls since a context was handed out or
reset, with any calls on other handles in between.  The 4E frames carry 0, 1, 2, … modulo
65536; so two of them that are less than 65536 apart have different serial numbers.
`fx5_get_last_serial` returns that of the last frame.  A build that succeeds next writes a 4E
frame exactly in 4E mode.  A parse that consumes a 4E frame next found the last serial number
in it. -/
theorem serial_discipline {cfg : Config} {pool₀ pool : Pool} {h : Nat} {es : List Event}
    (hfresh : Fresh cfg pool₀ h) (htrace : Trace cfg pool₀ es pool)
    (hkeep : ∀ e ∈ es, e.call ≠ .release h ∧ e.call ≠ .reset h) {frames : List (List Byte)}
    (hframes : builtFrames (eventsOn h es) = frames) :
    serialsOf frames = (List.range (serialsOf frames).length).map (· % 65536) ∧
    (∀ i j, i < j → j < i + 65536 → j < (serialsOf frames).length →
      (serialsOf frames)[i]? ≠ (serialsOf frames)[j]?) ∧
    ∃ ctx, pool[h]? = some ctx ∧ getLastSerial ctx = lastSerialOf frames ∧
      (∀ out size actual r, size.toNat ≤ out.length →
        buildRequest cfg ctx out size actual = some r → r.status = .ok →
        (Is4ERequest (r.outBuf.take r.actualSize) ↔ ctx.networkSettings.headerType = .h4E)) ∧
      (∀ status ctx', parseResponse cfg ctx = some (status, ctx') →
        status = .ok ∨ status = .responseError ∨ status = .errInvalidCount →
        ∃ k b, k ≤ FX5_RESYNC_LIMIT ∧ ctx.rxCbuffer.contents.drop k = b ∧
          parseResponse cfg ctx = parseResponsePdu cfg
            (ctx.taken k (getResponseHeaderSize (magicOf b))) (packetSizeOf b) ∧
          (magicOf b = .h4E → le16At b FX5_SERIAL_OFFSET_4E = lastSerialOf frames)) := by
  obtain ⟨hpool, ctx₀, hsized, hctx₀⟩ := hfresh.context
  obtain ⟨hinv₀, huse₀, _⟩ := hsized.acquired
  have hkeepOn : ∀ e ∈ eventsOn h es, ∀ h', e.call ≠ .release h' ∧ e.call ≠ .reset h' := by
    intro e he h'
    simp only [eventsOn, List.mem_filter, decide_eq_true_eq] at he
    obtain ⟨hmem, ht⟩ := he
    refine ⟨?_, ?_⟩
    · intro hcall
      rw [hcall] at ht
      cases ht
      exact (hkeep e hmem).1 hcall
    · intro hcall
      rw [hcall] at ht
      cases ht
      exact (hkeep e hmem).2 hcall
  have hnot := htrace.not_acquires hpool hctx₀ huse₀ fun e he => (hkeep e he).1
  obtain ⟨ctx, hctx, hrun⟩ := htrace.on_handle hpool hctx₀ hnot
  have hmatch : SerialsMatch frames ctx := by
    have hrun' := (SerialsMatch.acquired cfg ctx₀).run hrun hkeepOn
    rw [List.nil_append, hframes] at hrun'
    exact hrun'
  obtain ⟨hinv, huse⟩ := hrun.inUse hinv₀ huse₀ fun e he h' => (hkeepOn e he h').1
  refine ⟨hmatch.serials, fun i j hij hfar hj => hmatch.distinct hij hfar hj, ctx, hctx, ?_, ?_, ?_⟩
  · simp [getLastSerial, isAcquired, huse, hmatch.last]
  · intro out size actual r hout hres hok
    rcases buildRequest_cases hinv huse hout actual with ⟨hbad, h⟩ | ⟨_, _, h⟩ | ⟨_, _, h⟩
    · rw [h] at hres
      cases hres
      exact absurd hok hbad
    · rw [h] at hres
      cases hres
      cases hok
    · rw [h] at hres
      cases hres
      rw [List.take_left' rfl]
      exact is4ERequest_requestBytes ctx
  · intro status ctx' hres hstatus
    obtain ⟨k, hk⟩ : ∃ k, frameStart cfg ctx.serial ctx.rxCbuffer.contents = k := ⟨_, rfl⟩
    rcases parseResponse_outcome hinv huse hk rfl with
      ⟨_, h⟩ | ⟨_, _, h⟩ | ⟨hlimit, hcomplete, h⟩
    · rw [h] at hres
      cases hres
      simp at hstatus
    · rw [h] at hres
      cases hres
      simp at hstatus
    · refine ⟨k, _, hlimit, rfl, parseResponse_payload hinv huse hk hlimit rfl hcomplete, ?_⟩
      intro h4
      rw [← hmatch.last]
      exact hcomplete.1.2.2.2.2 h4

/-- Two 4E reads in a row. -/
def twoBuilds : List Call :=
  [.setRequest 0 .batchRead .D 100 1,
    .buildRequest 0 (some (List.replicate 25 0)) 25 (some 0),
    .buildRequest 0 (some (List.replicate 25 0)) 25 (some 0)]

theorem serials_of_twoBuilds :
    ∃ es pool, Trace .smallest (Pool.first .smallest) es pool ∧ es.map Event.call = twoBuilds ∧
      serialsOf (builtFrames (eventsOn 0 es)) =
        (List.range (serialsOf (builtFrames (eventsOn 0 es))).length).map (· % 65536) := by
  have hfresh : Fresh .smallest (Pool.first .smallest) 0 := fresh_first (by decide +kernel)
  have hsome : (runCalls .smallest (Pool.first .smallest) twoBuilds).isSome := by decide +kernel
  obtain ⟨pool, hrun⟩ := Option.isSome_iff_exists.mp hsome
  obtain ⟨es, htrace, hcalls⟩ := trace_of_runCalls hrun
  have hkeep : ∀ e ∈ es, e.call ≠ .release 0 ∧ e.call ≠ .reset 0 := by
    intro e he
    have hmem : e.call ∈ twoBuilds := hcalls ▸ List.mem_map_of_mem he
    simp only [twoBuilds, List.mem_cons, List.not_mem_nil, or_false] at hmem
    rcases hmem with h | h | h <;> simp [h]
  exact ⟨es, pool, htrace, hcalls, (serial_discipline hfresh htrace hkeep rfl).1⟩

end Fx5
