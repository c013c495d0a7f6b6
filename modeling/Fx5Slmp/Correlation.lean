import Fx5Slmp.Client

/-!
# Whether the client reports the answer to its own request

The client resets the protocol context before every command, so every 4E request it sends has
the serial number 0, and the serial check of the parser cannot tell the answer to the current
command from the late answer to one that timed out.

* `get_reports_own_step` — one get command reports its own answer if no other frame among the
  bytes on the way passes for it;
* `get_reports_own_answer` — the same along every run of the client;
* `late_answer_is_reported` — a run in which the late answer is reported.
-/

set_option autoImplicit false

namespace Fx5

open StreamScan

/-! ## Runs of the client -/

/-- One command: the exchange and the report, if it completes. -/
def ClientStep (cfg : Config) (s : ClientState) (l : Exchange × Option (List ReportLine))
    (s' : ClientState) : Prop :=
  executeCommand cfg s l.1 = some (l.2, s')

/-- A client that has connected: its context is acquired, and nothing is on the way. -/
def ClientStart (cfg : Config) (s : ClientState) : Prop := Acquired cfg s.ctx ∧ s.stream = []

/-- The report for the values in the PLC's answer. -/
def Exchange.ownReport (e : Exchange) : List ReportLine :=
  (List.range e.command.count.toNat).map fun i =>
    valueLine e.command i
      (payloadValue e.command.device e.command.count.toNat e.answer.payload i)

/-- The frame at the front of `b` passes for a successful answer to the get command of `e`. -/
def Passes (cfg : Config) (e : Exchange) (b : List Byte) : Prop :=
  CompleteFrame cfg 0 b ∧ le16At (packetOf b) 0 = FX5_RESPONSE_OK ∧
    (packetOf b).length =
      FX5_RESP_PDU_HEADER_SIZE + readPayloadLength e.command.device e.command.count.toNat

instance (cfg : Config) (e : Exchange) (b : List Byte) : Decidable (Passes cfg e b) :=
  inferInstanceAs (Decidable (_ ∧ _))

/-- The first frame that the parser finds in the bytes on the way and the PLC's answer to the
command is that answer, or does not pass for it. -/
def NoStaleAnswer (cfg : Config) (stream : List Byte) (e : Exchange) : Prop :=
  ∀ k, LeastViable cfg 0 (stream ++ e.frame) k → k ≠ stream.length →
    ¬ Passes cfg e ((stream ++ e.frame).drop k)

/-- A command in 4E mode; if it is a get command, no stale answer is on the way. -/
def CleanStep (cfg : Config) (s : ClientState) (l : Exchange × Option (List ReportLine))
    (s' : ClientState) : Prop :=
  ClientStep cfg s l s' ∧ l.1.settings.headerType = .h4E ∧
    (l.1.command.type = .get → NoStaleAnswer cfg s.stream l.1)

/-! ## One command -/

section Step

variable {cfg : Config} {e : Exchange}

/-- The frame that was parsed when a command completed is the first one in all the bytes on the
way. -/
theorem completed_leastViable {stream delivered rest b : List Byte}
    (hsplit : stream ++ e.frame = delivered ++ rest)
    (hb : delivered.drop (frameStart cfg 0 delivered) = b) (hcomplete : CompleteFrame cfg 0 b) :
    ∃ k, LeastViable cfg 0 (stream ++ e.frame) k ∧ (stream ++ e.frame).drop k = b ++ rest := by
  have hle : frameStart cfg 0 delivered ≤ delivered.length := skip_le_length _ _
  have hzero : frameStart cfg 0 (b ++ rest) = 0 :=
    skip_eq_zero (Or.inr (Or.inr (hcomplete.append rest).1))
  refine ⟨frameStart cfg 0 delivered, leastViable_iff.mpr ?_, ?_⟩
  · rw [hsplit, frameStart_append, hb, hzero, Nat.add_zero]
  · rw [hsplit, List.drop_append_of_le_length hle, hb]

/-- What a read packet with end code 0 and status OK stores. -/
theorem pduResult_read_ok {ctx : Context} (hinv : ctx.Inv cfg) (hread : ctx.command = .batchRead)
    {packet : List Byte} (hcode : le16At packet 0 = FX5_RESPONSE_OK)
    (hok : (pduResult ctx packet).status = .ok) :
    (packet.drop FX5_RESP_PDU_HEADER_SIZE).length = readPayloadLength ctx.device ctx.count ∧
      (pduResult ctx packet).count = ctx.count ∧
      ∀ i, i < ctx.count → valueAt ctx.device (pduResult ctx packet).values i =
        payloadValue ctx.device ctx.count (packet.drop FX5_RESP_PDU_HEADER_SIZE) i := by
  obtain ⟨ctx₀, hctx₀⟩ : ∃ ctx₀, ctx₀ = { ctx with responseCode := le16At packet 0 } := ⟨_, rfl⟩
  have hinv₀ : ctx₀.Inv cfg := by
    rw [hctx₀]
    exact { hinv with }
  have hread₀ : ctx₀.command = .batchRead := by rw [hctx₀]; exact hread
  have hcode₀ : ctx₀.responseCode = FX5_RESPONSE_OK := by rw [hctx₀]; exact hcode
  have hdevice : ctx₀.device = ctx.device := by rw [hctx₀]
  have hcount : ctx₀.count = ctx.count := by rw [hctx₀]
  have hok₀ : (payloadResult ctx₀ (packet.drop FX5_RESP_PDU_HEADER_SIZE)).status = .ok := by
    rw [hctx₀]
    exact hok
  obtain ⟨_, hlen⟩ := (payloadResult_status_iff hread₀ hcode₀).mp hok₀
  obtain ⟨values, hres, hvalues⟩ := payloadResult_ok hinv₀ hread₀ hcode₀ hok₀
  rw [hdevice, hcount] at hlen hvalues
  have hpdu : pduResult ctx packet =
      ⟨.ok, FX5_RESPONSE_OK, ctx.count, values, FX5_RESP_PDU_HEADER_SIZE +
        (packet.drop FX5_RESP_PDU_HEADER_SIZE).length⟩ := by
    rw [pduResult, ← hctx₀, hres, hcount]
  rw [hpdu]
  exact ⟨hlen, rfl, hvalues⟩

/-- **One get command** that completes with OK reports the values of the PLC's answer to it, if
no stale answer is on the way when it is sent. -/
theorem get_reports_own_step {state state' : ClientState} (hinv : state.ctx.Inv cfg)
    (huse : state.ctx.inUse = true) {lines : List ReportLine}
    (h : executeCommand cfg state e = some (some lines, state'))
    (h4 : e.settings.headerType = .h4E) (hget : e.command.type = .get)
    (hclean : NoStaleAnswer cfg state.stream e) (hok : ∀ code, lines ≠ [.plcError code]) :
    e.answer.endCode.toNat = FX5_RESPONSE_OK ∧ lines = e.ownReport := by
  obtain ⟨hinv', huse', hcompleted⟩ := executeCommand_spec hinv huse h
  obtain ⟨ctx, delivered, status, hctx, hrequest, hsplit, hcomplete, hanswer, hserial, hstatus,
    hdevice, hprint⟩ := hcompleted h4 lines rfl
  obtain ⟨hread, hctxDevice, hctxCount⟩ := hrequest hget
  obtain ⟨b, hb⟩ : ∃ b, delivered.drop (frameStart cfg 0 delivered) = b := ⟨_, rfl⟩
  rw [hb] at hcomplete hanswer
  -- the answer fields after the command are those of the packet that was parsed
  have hcompleteCtx : CompleteFrame cfg ctx.serial b := by
    rw [hserial]
    exact hcomplete
  rw [frameAnswer, if_pos hcompleteCtx] at hanswer
  simp only [answerOf, Answer.mk.injEq] at hanswer
  obtain ⟨hst, hcode, hcount, hvalues, -⟩ := hanswer
  rw [pduResult_code] at hcode
  rw [printResponse_get hinv' huse' hget] at hprint
  have hzero : le16At (packetOf b) 0 = FX5_RESPONSE_OK := by
    by_contra hne
    rw [hcode, if_pos hne] at hprint
    exact hok _ (Option.some.inj hprint).symm
  have hpdu : (pduResult ctx (packetOf b)).status = .ok := by
    rcases hstatus with rfl | rfl
    · exact hst.symm
    · exact absurd hzero (pduResult_responseError.mp hst.symm)
  obtain ⟨hlen, hpduCount, hpduValues⟩ := pduResult_read_ok hctx hread hzero hpdu
  -- so the packet passes, and the frame can only be the command's own
  obtain ⟨k, hk, hdrop⟩ := completed_leastViable hsplit hb hcomplete
  have hpasses : Passes cfg e ((state.stream ++ e.frame).drop k) := by
    have hmin := hcomplete.1.2.2.1
    rw [← packetOf_length hcomplete] at hmin
    rw [hdrop, Passes, packetOf_append hcomplete]
    refine ⟨hcomplete.append _, hzero, ?_⟩
    rw [List.length_drop, hctxDevice, hctxCount] at hlen
    omega
  obtain rfl : k = state.stream.length := by
    by_contra hne
    exact hclean k hk hne hpasses
  rw [List.drop_left] at hdrop
  have hpacket : packetOf b = pduWrU16Le e.answer.endCode.toNat ++ e.answer.payload := by
    rw [← packetOf_append hcomplete state'.stream, ← hdrop]
    exact responseFrame_packet (Or.inr rfl) e.answer.fits
  have hend : le16At (packetOf b) 0 = e.answer.endCode.toNat := by
    rw [hpacket]
    exact le16At_pduWrU16Le e.answer.endCode.isLt _
  have hpayload : (packetOf b).drop FX5_RESP_PDU_HEADER_SIZE = e.answer.payload := by
    rw [hpacket]
    exact List.drop_left' rfl
  refine ⟨hend.symm.trans hzero, ?_⟩
  rw [hcode, if_neg (not_not.mpr hzero), hcount, hpduCount, hdevice, hvalues] at hprint
  rw [← Option.some.inj hprint, Exchange.ownReport, ← hctxCount]
  apply List.map_congr_left
  intro i hi
  rw [hpduValues i (List.mem_range.mp hi), hpayload, hctxDevice]

end Step

/-! ## Runs -/

section Run

variable {cfg : Config}

/-- **Every get command of a clean run that completes with OK reports the values of the PLC's
answer to it.** -/
theorem get_reports_own_answer {s s' : ClientState}
    {labels : List (Exchange × Option (List ReportLine))} (hstart : ClientStart cfg s)
    (hrun : Runs.Run (CleanStep cfg) s labels s') {e : Exchange} {lines : List ReportLine}
    (hmem : (e, some lines) ∈ labels) (hget : e.command.type = .get)
    (hok : ∀ code, lines ≠ [.plcError code]) :
    e.answer.endCode.toNat = FX5_RESPONSE_OK ∧ lines = e.ownReport := by
  obtain ⟨hinv, huse⟩ := acquired_inv hstart.1
  clear hstart
  induction hrun with
  | nil => cases hmem
  | cons hnext _ ih =>
    obtain ⟨hstep, h4, hclean⟩ := hnext
    obtain ⟨hinv', huse', _⟩ := executeCommand_spec hinv huse hstep
    rcases List.mem_cons.mp hmem with rfl | hmem
    · exact get_reports_own_step hinv huse hstep h4 hget (hclean hget) hok
    · exact ih hmem hinv' huse'

/-- The answer to the command is not stale. -/
theorem noStaleAnswer_of_frameStart {stream : List Byte} {e : Exchange}
    (h : frameStart cfg 0 (stream ++ e.frame) = stream.length) : NoStaleAnswer cfg stream e := by
  intro k hk hne
  rw [leastViable_iff, h] at hk
  exact absurd hk.symm hne

/-! ## A late answer is reported -/

/-- The client after it has connected. -/
def connectedClient : ClientState := ⟨contextAfter .smallest [.acquire], []⟩

/-- The command `get D0`. -/
def getD0 : ClientCommand := ⟨.get, .D, 0, 1, [], 0⟩

/-- An answer with one word. -/
def wordAnswer (v : Word) : PlcAnswer where
  routing := .default
  endCode := 0
  payload := wordBytes [v]
  fits := by
    rw [wordBytes_length, List.length_singleton]
    decide

theorem connectedClient_start : ClientStart .smallest connectedClient :=
  ⟨acquired_contextAfter (by decide +kernel), rfl⟩

/-- A get that times out before anything is delivered. -/
def timedOutGet : Exchange := ⟨getD0, networkSettingsInit, wordAnswer 0x1111, [.timeout]⟩

/-- The same command again; now 17 bytes are delivered. -/
def repeatedGet : Exchange := ⟨getD0, networkSettingsInit, wordAnswer 0x2222, [.deliver 17]⟩

theorem late_answer_is_reported :
    ¬ ∀ (cfg : Config) (s s' : ClientState) (labels : List (Exchange × Option (List ReportLine)))
      (e : Exchange) (lines : List ReportLine), ClientStart cfg s →
      Runs.Run (ClientStep cfg) s labels s' →
      (∀ l, l ∈ labels → l.1.settings.headerType = .h4E) → (e, some lines) ∈ labels →
      e.command.type = .get → (∀ code, lines ≠ [.plcError code]) → lines = e.ownReport := by
  intro hall
  have hrun : ((executeCommand .smallest connectedClient timedOutGet).bind fun r =>
      (executeCommand .smallest r.2 repeatedGet).map fun r' => (r.1, r'.1)) =
      some (none, some [.word 0 0x1111]) := by decide +kernel
  obtain ⟨⟨report₁, s₁⟩, h₁, hrun⟩ := Option.bind_eq_some_iff.mp hrun
  obtain ⟨⟨report₂, s₂⟩, h₂, hreports⟩ := Option.map_eq_some_iff.mp hrun
  cases hreports
  have hlines := hall .smallest connectedClient s₂
    [(timedOutGet, none), (repeatedGet, some [.word 0 0x1111])] repeatedGet [.word 0 0x1111]
    connectedClient_start (.cons h₁ (.cons h₂ (.nil _)))
    (by
      intro l hl
      rcases List.mem_cons.mp hl with rfl | hl
      · rfl
      · rcases List.mem_singleton.mp hl with rfl
        rfl)
    (by simp) rfl (fun _ => nofun)
  have hown : repeatedGet.ownReport = [.word 0 0x2222] := by decide +kernel
  rw [hown] at hlines
  cases hlines

/-- A get that times out in the middle of its answer. -/
def interruptedGet : Exchange :=
  ⟨getD0, networkSettingsInit, wordAnswer 0x1111, [.deliver 10, .timeout]⟩

/-- The same command again; the rest of the first answer comes in front of its own. -/
def resumedGet : Exchange :=
  ⟨getD0, networkSettingsInit, wordAnswer 0x2222, [.deliver 7, .deliver 17]⟩

theorem own_answer_after_interruption :
    ∃ lines s₁ s₂, executeCommand .smallest connectedClient interruptedGet = some (none, s₁) ∧
      executeCommand .smallest s₁ resumedGet = some (some lines, s₂) ∧
      lines = resumedGet.ownReport := by
  have hrun : ((executeCommand .smallest connectedClient interruptedGet).bind fun r =>
      (executeCommand .smallest r.2 resumedGet).map fun r' => (r.1, r.2.stream, r'.1)) =
      some (none, interruptedGet.frame.drop 10, some [.word 0 0x2222]) := by decide +kernel
  obtain ⟨⟨report₁, s₁⟩, h₁, hrun⟩ := Option.bind_eq_some_iff.mp hrun
  obtain ⟨⟨report₂, s₂⟩, h₂, hreports⟩ := Option.map_eq_some_iff.mp hrun
  simp only [Prod.mk.injEq] at hreports
  obtain ⟨rfl, hstream, rfl⟩ := hreports
  have hfirst : NoStaleAnswer .smallest connectedClient.stream interruptedGet :=
    noStaleAnswer_of_frameStart (by decide +kernel)
  have hsecond : NoStaleAnswer .smallest s₁.stream resumedGet := by
    rw [hstream]
    exact noStaleAnswer_of_frameStart (by decide +kernel)
  have hclean : Runs.Run (CleanStep .smallest) connectedClient
      [(interruptedGet, none), (resumedGet, some [.word 0 0x2222])] s₂ :=
    .cons ⟨h₁, rfl, fun _ => hfirst⟩ (.cons ⟨h₂, rfl, fun _ => hsecond⟩ (.nil _))
  have hmem : (resumedGet, some [ReportLine.word 0 0x2222]) ∈
      [(interruptedGet, none), (resumedGet, some [.word 0 0x2222])] := by simp
  have hok : ∀ code, [ReportLine.word 0 0x2222] ≠ [.plcError code] := fun _ => nofun
  refine ⟨_, s₁, s₂, h₁, h₂, ?_⟩
  exact (get_reports_own_answer connectedClient_start hclean hmem rfl hok).2

end Run

end Fx5
