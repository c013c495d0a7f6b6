import Fx5Slmp.Pool

/-!
# All-or-nothing calls

Six of the public functions change a context and can fail.  `failed_call_changes_nothing` says
that a failure of any of them leaves the whole context and the output buffer as they were, and
that the exits of `fx5_build_request` and `fx5_feed_response_bytes` behind the first change are
never taken.
-/

set_option autoImplicit false

namespace Fx5

/-- The output buffer a call is given. -/
def Call.outBuf : Call → Option (List Byte)
  | .buildRequest _ outBuf _ _ => outBuf
  | _ => none

/-- The output buffer after a call. -/
def Reply.outBuf : Reply → Option (List Byte)
  | .built _ outBuf _ => outBuf
  | _ => none

section Atomicity

variable {cfg : Config} {ctx : Context}

/-- A call that is defined and leaves the context alone unless it returns OK. -/
def AllOrNothing (ctx : Context) (result : Option (Status × Context)) : Prop :=
  ∃ status ctx', result = some (status, ctx') ∧ (status ≠ .ok → ctx' = ctx)

theorem AllOrNothing.failed {result : Option (Status × Context)} {status : Status}
    (h : result = some (status, ctx)) : AllOrNothing ctx result :=
  ⟨status, ctx, h, fun _ => rfl⟩

theorem AllOrNothing.ok {result : Option (Status × Context)} {ctx' : Context}
    (h : result = some (.ok, ctx')) : AllOrNothing ctx result :=
  ⟨.ok, ctx', h, fun hne => absurd rfl hne⟩

theorem AllOrNothing.reply {result : Option (Status × Context)} (h : AllOrNothing ctx result) :
    ∃ reply ctx', (result.bind fun r => some (Reply.done r.1, r.2)) = some (reply, ctx') ∧
      (reply.status ≠ .ok → ctx' = ctx ∧ reply.outBuf = none) := by
  obtain ⟨status, ctx', rfl, hfail⟩ := h
  exact ⟨.done status, ctx', rfl, fun hne => ⟨hfail hne, rfl⟩⟩

/-- A mutator is defined, and a failed one returns the context and the output buffer it got. -/
theorem mutator_atomic (hinv : ctx.Inv cfg) (huse : ctx.inUse = true) {call : Call}
    (hmem : call.MemoryOk) (hmut : call.isMutator = true) :
    ∃ reply ctx', callContext cfg call ctx = some (reply, ctx') ∧
      (reply.status ≠ .ok → ctx' = ctx ∧ reply.outBuf = call.outBuf) := by
  cases call with
  | setNetworkSettings h settings =>
    have hcall : AllOrNothing ctx (some (setNetworkSettings ctx settings)) := by
      rcases setNetworkSettings_cases huse settings with ⟨status, _, hres⟩ | ⟨s, _, _, hres⟩
      · exact .failed (congrArg some hres)
      · exact .ok (congrArg some hres)
    exact hcall.reply
  | setHeaderMode h mode =>
    have hcall : AllOrNothing ctx (some (setHeaderMode ctx mode)) := by
      rcases setHeaderMode_cases huse mode with ⟨status, _, hres⟩ | ⟨_, hres⟩
      · exact .failed (congrArg some hres)
      · exact .ok (congrArg some hres)
    exact hcall.reply
  | setRequest h command device address count =>
    refine AllOrNothing.reply ?_
    rcases setRequest_cases hinv.values huse command device address count with
      ⟨status, _, _, hres⟩ | ⟨_, hres⟩
    · exact .failed hres
    · exact .ok hres
  | setWriteValue h index value =>
    refine AllOrNothing.reply ?_
    rcases setWriteValue_cases hinv huse index value with ⟨status, _, _, hres⟩ | ⟨_, hres⟩
    · exact .failed hres
    · exact .ok hres
  | feedResponseBytes h data size =>
    have hdata := feed_length_le hmem
    refine AllOrNothing.reply ?_
    rcases feedResponseBytes_cases hinv huse hdata with ⟨status, _, _, hres⟩ | ⟨d, _, _, hres⟩
    · exact .failed hres
    · exact .ok hres
  | buildRequest h outBuf outBufSize actualSize =>
    cases outBuf with
    | none => exact ⟨_, _, rfl, fun _ => ⟨rfl, rfl⟩⟩
    | some out =>
      cases actualSize with
      | none => exact ⟨_, _, rfl, fun _ => ⟨rfl, rfl⟩⟩
      | some size =>
        obtain ⟨r, hres, hfail⟩ : ∃ r, buildRequest cfg ctx out outBufSize size = some r ∧
            (r.status ≠ .ok → r.context = ctx ∧ r.outBuf = out) := by
          rcases buildRequest_cases hinv huse hmem size with h | ⟨_, _, h⟩ | ⟨_, _, h⟩
          · exact ⟨_, h.2, fun _ => ⟨rfl, rfl⟩⟩
          · exact ⟨_, h, fun _ => ⟨rfl, rfl⟩⟩
          · exact ⟨_, h, fun hne => absurd rfl hne⟩
        refine ⟨.built r.status (some r.outBuf) (some r.actualSize), r.context, ?_, ?_⟩
        · rw [callContext, hres]
          rfl
        · intro hne
          obtain ⟨hctx, hout⟩ := hfail hne
          exact ⟨hctx, congrArg some hout⟩
  | _ => cases hmut

/-- **A failed call changes nothing.**  On every reachable acquired context: a mutator that
returns anything but OK leaves the context and the output buffer exactly as they were; a feed
appends the whole input or nothing; and a build that passed validation and the size test
returns OK, so it never fails behind the header. -/
theorem failed_call_changes_nothing (hctx : Acquired cfg ctx) :
    (∀ call : Call, call.MemoryOk → call.isMutator = true →
      ∃ reply ctx', callContext cfg call ctx = some (reply, ctx') ∧
        (reply.status ≠ .ok → ctx' = ctx ∧ reply.outBuf = call.outBuf)) ∧
    (∀ (data : List Byte) (size : Word), size.toNat ≤ data.length →
      ∃ status ctx', feedResponseBytes cfg ctx (some data) size = some (status, ctx') ∧
        ctx'.rxCbuffer.contents = ctx.rxCbuffer.contents ++
          (if status = .ok then data.take size.toNat else [])) ∧
    (∀ (out : List Byte) (outBufSize : Word) (actualSize : Nat), outBufSize.toNat ≤ out.length →
      ∃ r, buildRequest cfg ctx out outBufSize actualSize = some r ∧ r.status ≠ .errInternal ∧
        (r.status ≠ .ok → r.context.serial = ctx.serial ∧ r.context.nextSerial = ctx.nextSerial) ∧
        (validateRequest cfg ctx = .ok → getRequiredRequestSize ctx ≤ outBufSize.toNat →
          r.status = .ok)) := by
  obtain ⟨hinv, huse⟩ := acquired_inv hctx
  refine ⟨fun call hmem hmut => mutator_atomic hinv huse hmem hmut, ?_, ?_⟩
  · intro data size hsize
    have hdata : ∀ d, some data = some d → size.toNat ≤ d.length := by
      rintro d ⟨⟩
      exact hsize
    rcases feedResponseBytes_cases hinv huse hdata with ⟨status, hne, _, hres⟩ | ⟨d, hd, hroom, hres⟩
    · refine ⟨status, ctx, hres, ?_⟩
      rw [if_neg hne, List.append_nil]
    · cases hd
      have hlen : (data.take size.toNat).length = size.toNat := List.length_take_of_le hsize
      refine ⟨.ok, _, hres, ?_⟩
      rw [if_pos rfl]
      exact (hinv.received (by rw [hlen]; exact hroom)).2
  · intro out outBufSize actualSize hout
    have hrequired := (requestBytes_length hinv).1
    rcases buildRequest_cases hinv huse hout actualSize with ⟨hbad, h⟩ | ⟨_, hsmall, h⟩ | ⟨_, _, h⟩
    · refine ⟨_, h, ?_, fun _ => ⟨rfl, rfl⟩, fun hok => absurd hok hbad⟩
      exact validateRequest_ne_internal
    · refine ⟨_, h, nofun, fun _ => ⟨rfl, rfl⟩, ?_⟩
      intro _ hroom
      omega
    · exact ⟨_, h, nofun, fun hne => absurd rfl hne, fun _ _ => rfl⟩

theorem failed_build_of_smallest :
    ∃ r, buildRequest .smallest (contextAfter .smallest [.acquire, .setRequest 0 .batchRead .D 0 1])
        (List.replicate 10 0) 10 0 = some r ∧ r.status ≠ .errInternal := by
  have hctx : Acquired .smallest
      (contextAfter .smallest [.acquire, .setRequest 0 .batchRead .D 0 1]) :=
    acquired_contextAfter (by decide +kernel)
  obtain ⟨r, hres, hne, _⟩ :=
    (failed_call_changes_nothing hctx).2.2 (List.replicate 10 0) 10 0 (by decide)
  exact ⟨r, hres, hne⟩

end Atomicity

end Fx5
