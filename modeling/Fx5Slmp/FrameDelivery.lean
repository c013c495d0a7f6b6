import Fx5Slmp.ScriptFailure

/-!
# Receiving one whole frame

A frame that the header stage accepts arrives in pieces of any size.  The receive loop asks for
more until the last piece is there, and then answers for the frame.

* `receiveEnd_frame` — the receive loop on a whole frame;
* `read_answer`, `write_answer`, `error_answer` — what the parser makes of the answers of a PLC.
-/

set_option autoImplicit false

namespace Fx5

section Receive

variable {cfg : Config} {ctx : Context} {F : List Byte}

/-- What the parser finds in the context after a piece of a frame. -/
theorem received_piece (hinv : ctx.Inv cfg) (hF : IsFrame cfg ctx.serial F)
    (hfit : F.length ≤ FX5_IOBUF_SIZE cfg) {stream : List Byte}
    (hsplit : ctx.rxCbuffer.contents ++ stream = F) (size : Nat) :
    (ctx.received (stream.take size)).Inv cfg ∧
      (ctx.received (stream.take size)).rxCbuffer.contents ++ stream.drop size = F ∧
      frameStart cfg ctx.serial (ctx.received (stream.take size)).rxCbuffer.contents = 0 := by
  have hroom : ctx.rxCbuffer.contents.length + (stream.take size).length ≤ FX5_IOBUF_SIZE cfg := by
    have hlen := congrArg List.length hsplit
    rw [List.length_append] at hlen
    rw [List.length_take]
    omega
  obtain ⟨hinv', hcont⟩ := hinv.received hroom
  have hsplit' : (ctx.received (stream.take size)).rxCbuffer.contents ++ stream.drop size = F := by
    rw [hcont, List.append_assoc, List.take_append_drop]
    exact hsplit
  exact ⟨hinv', hsplit', (frame_at_front hF hsplit').1⟩

/-- **The receive loop on a whole frame** that arrives in pieces of any size answers for it. -/
theorem receiveEnd_frame (hinv : ctx.Inv cfg) (huse : ctx.inUse = true)
    (hF : IsFrame cfg ctx.serial F) (hfit : F.length ≤ FX5_IOBUF_SIZE cfg)
    (hstatus : (frameAnswer cfg ctx F).status = .ok ∨
      (frameAnswer cfg ctx F).status = .responseError)
    {stream : List Byte} (hsplit : ctx.rxCbuffer.contents ++ stream = F) (hmore : stream ≠ [])
    {sizes : List Nat} (hsizes : ∀ size ∈ sizes, 0 < size ∧ size ≤ CLIENT_RECV_BUFFER_SIZE)
    (hsum : sizes.sum = stream.length) (later : List NetEvent) :
    ∃ ctx', receiveEnd cfg ctx stream (sizes.map .deliver ++ later) =
        some (.answered (frameAnswer cfg ctx F).status, ctx', []) ∧
      answerOf (frameAnswer cfg ctx F).status ctx' = frameAnswer cfg ctx F ∧
      ctx'.Inv cfg ∧ ctx'.inUse = true ∧ ctx'.device = ctx.device := by
  induction sizes generalizing ctx stream with
  | nil =>
    rw [List.sum_nil] at hsum
    exact absurd (List.eq_nil_of_length_eq_zero hsum.symm) hmore
  | cons size sizes ih =>
    obtain ⟨⟨hpos, hmax⟩, hsizes'⟩ := List.forall_mem_cons.mp hsizes
    rw [List.sum_cons] at hsum
    have hsize : size ≤ stream.length := by omega
    have hroom : ctx.rxCbuffer.contents.length + (stream.take size).length ≤
        FX5_IOBUF_SIZE cfg := by
      have hlen := congrArg List.length hsplit
      rw [List.length_append] at hlen
      rw [List.length_take]
      omega
    obtain ⟨hinv', hsplit', hstart⟩ := received_piece hinv hF hfit hsplit size
    have hrun : ¬(size = 0 ∨ CLIENT_RECV_BUFFER_SIZE < size ∨ stream.length < size) := by omega
    have hfeed := feed_fitting hinv huse hroom
    rw [List.length_take_of_le hsize] at hfeed
    rw [List.map_cons, List.cons_append, receiveEnd_deliver, if_neg hrun, hfeed]
    simp only [Option.bind_eq_bind, Option.bind_some, ne_eq, not_true_eq_false, if_false]
    by_cases hrest : stream.drop size = []
    · -- the last piece: the frame is in the buffer
      rw [hrest, List.append_nil] at hsplit'
      have hparse := parseResponse_cases hinv' huse hstart
      rw [hsplit', List.drop_zero] at hparse
      rcases hparse with ⟨hover, _⟩ | ⟨_, hnot, _⟩ | ⟨_, _, status, ctx', hres, hanswer, _⟩
      · exact absurd hover (by decide)
      · exact absurd hF.complete hnot
      · obtain ⟨_, _, hres', hinv₂, huse₂, _, _, _, _, hdevice⟩ := parseResponse_inv hinv' huse
        rw [hres] at hres'
        cases hres'
        have hanswer : answerOf status ctx' = frameAnswer cfg ctx F := hanswer
        have hstatus' : (frameAnswer cfg ctx F).status = status := by rw [← hanswer]; rfl
        rw [hres, Option.bind_some, hstatus', hrest]
        refine ⟨ctx', ?_, hanswer, hinv₂, huse₂, hdevice⟩
        rw [hstatus'] at hstatus
        rcases hstatus with rfl | rfl <;> rfl
    · -- the frame is not complete: the loop continues
      have hnot := (frame_at_front hF hsplit').2 hrest
      rw [parseResponse_needMore hinv' huse hstart (Nat.zero_le _) hnot, Option.bind_some]
      have hle : 0 + 0 ≤ (ctx.received (stream.take size)).rxCbuffer.contents.length :=
        Nat.zero_le _
      exact @ih ((ctx.received (stream.take size)).taken 0 0) (hinv'.taken hle) huse hF hstatus
        (stream.drop size) (by rw [hinv'.contents_taken hle]; exact hsplit') hrest hsizes'
        (by rw [List.length_drop]; omega)

end Receive

/-! ## The answers of a PLC -/

section Answers

variable {cfg : Config} {ctx : Context} {headerType : HeaderType} {r : Routing}

/-- What the parser makes of a well-formed response. -/
theorem frameAnswer_response (ht : HeaderAccepted headerType) (hserial : ctx.serial < 65536)
    {endCode : Nat} (hcode : endCode < 65536) {payload : List Byte}
    (hsize : FX5_RESP_PDU_HEADER_SIZE + payload.length ≤ FX5_IOBUF_SIZE cfg) :
    let answer := frameAnswer cfg ctx (responseFrame headerType ctx.serial r endCode payload)
    let result := payloadResult { ctx with responseCode := endCode } payload
    answer.status = result.status ∧ answer.responseCode = endCode ∧ answer.count = result.count ∧
      answer.values = result.values := by
  have hF : IsFrame cfg ctx.serial _ := @responseFrame_isFrame _ _ r endCode _ cfg ht hserial hsize
  have hbounds := (iobufSize_bounds cfg).2
  have hpacket := @responseFrame_packet headerType ctx.serial r endCode payload ht (by omega)
  have hpdu := pduResult_responsePacket ctx hcode payload
  have hkept := payloadResult_code { ctx with responseCode := endCode } payload
  simp only [frameAnswer, if_pos hF.complete, hpacket, hpdu]
  exact ⟨trivial, hkept, trivial, trivial⟩

/-- **The answer to a read** that carries the values that were asked for. -/
theorem read_answer (hinv : ctx.Inv cfg) (ht : HeaderAccepted headerType)
    (hread : ctx.command = .batchRead) (hcount : ctx.count ≠ 0) {v : Payload}
    (hv : v.Matches ctx.device ctx.count)
    (hsize : FX5_RESP_PDU_HEADER_SIZE + v.encode.length ≤ FX5_IOBUF_SIZE cfg) :
    let answer := frameAnswer cfg ctx
      (responseFrame headerType ctx.serial r FX5_RESPONSE_OK v.encode)
    answer.status = .ok ∧ answer.responseCode = FX5_RESPONSE_OK ∧ answer.count = ctx.count ∧
      ∀ i, i < ctx.count → valueAt ctx.device answer.values i = v.value i := by
  obtain ⟨hstatus, hcode, hcnt, hvalues⟩ :=
    @frameAnswer_response cfg ctx headerType r ht hinv.serial FX5_RESPONSE_OK (by decide) _ hsize
  have hinv' : { ctx with responseCode := FX5_RESPONSE_OK : Context }.Inv cfg := { hinv with }
  obtain ⟨hlen, hencode⟩ := payloadValue_encode hv
  have hread' : { ctx with responseCode := FX5_RESPONSE_OK : Context }.command = .batchRead := hread
  have hok := (payloadResult_status_iff hread' rfl).mpr ⟨hcount, hlen⟩
  obtain ⟨values, hresult, hpayload⟩ := payloadResult_ok hinv' hread rfl hok
  rw [hresult] at hstatus hcnt hvalues
  refine ⟨hstatus, hcode, hcnt, fun i hi => ?_⟩
  rw [hvalues]
  exact (hpayload i hi).trans (hencode i)

/-- **The answer to a write** has no payload. -/
theorem write_answer (hinv : ctx.Inv cfg) (ht : HeaderAccepted headerType)
    (hwrite : ctx.command = .batchWrite) :
    let answer := frameAnswer cfg ctx (responseFrame headerType ctx.serial r FX5_RESPONSE_OK [])
    answer.status = .ok ∧ answer.responseCode = FX5_RESPONSE_OK := by
  have hbounds := (iobufSize_bounds cfg).1
  obtain ⟨hstatus, hcode, _, _⟩ := @frameAnswer_response cfg ctx headerType r ht hinv.serial
    FX5_RESPONSE_OK (by decide) [] (by rw [FX5_RESP_PDU_HEADER_SIZE, List.length_nil]; omega)
  refine ⟨hstatus.trans ?_, hcode⟩
  rw [payloadResult, if_neg (not_not.mpr rfl), if_pos hwrite, if_pos rfl]

/-- **The answer to a request that is refused** tells the end code, whatever it carries. -/
theorem error_answer (hinv : ctx.Inv cfg) (ht : HeaderAccepted headerType) {endCode : Nat}
    (hcode : endCode < 65536) (hne : endCode ≠ FX5_RESPONSE_OK) {payload : List Byte}
    (hsize : FX5_RESP_PDU_HEADER_SIZE + payload.length ≤ FX5_IOBUF_SIZE cfg) :
    let answer := frameAnswer cfg ctx (responseFrame headerType ctx.serial r endCode payload)
    answer.status = .responseError ∧ answer.responseCode = endCode := by
  obtain ⟨hstatus, hanswer, _, _⟩ :=
    @frameAnswer_response cfg ctx headerType r ht hinv.serial endCode hcode _ hsize
  exact ⟨hstatus.trans (payloadResult_responseError.mpr hne), hanswer⟩

end Answers

end Fx5
