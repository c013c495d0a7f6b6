import Fx5Slmp.Lib.StreamDecoder
import Fx5Slmp.FrameBoundary
import Fx5Slmp.Segmentation

/-!
# A receiver over a whole stream

The host loop of the library as a program that runs on: every piece of the stream is fed, and
`fx5_parse_response` is called until it asks for more bytes, also after `FX5_ST_ERR_RESYNC`.  What
it answers is compared with `StreamDecoder.decode`, which reads the stream as a whole.

* `responseFormat` — the responses of the library as a stream format;
* `drain_decode` — the calls after one piece;
* `receive_decodes_stream` — **the answers are those of the stream**, however it was cut and however
  often the parser gave up on garbage;
* `decode_noisy_cut` — wherever a stream of frames and garbage is cut, less than a frame is left;
* `noisy_stream_delivers_frames` — frames between garbage are answered once each, in order.
-/

set_option autoImplicit false

namespace Fx5

open StreamScan StreamDecoder

/-! ## The format -/

/-- What a caller sees of a response. -/
structure Shown where
  status : Status
  responseCode : Nat
  count : Nat
  values : List Word
  deriving DecidableEq

def PduResult.shown (r : PduResult) : Shown := ⟨r.status, r.responseCode, r.count, r.values⟩

/-- The context without its receive buffer and the counter of skipped bytes. -/
def Context.fields (ctx : Context) : Context :=
  { ctx with resyncCounter := 0, rxCbuffer := ⟨[], 0, 0, 0, 0⟩ }

/-- The answer fields of a response are stored. -/
def Context.answeredBy (ctx : Context) (r : PduResult) : Context :=
  { ctx with responseCode := r.responseCode, count := r.count, values := r.values }

/-- A complete frame is read; its payload stage decides how much of it is consumed. -/
def readResponse (cfg : Config) (serial : Nat) (ctx : Context) (b : List Byte) :
    Option (Shown × Context × Nat) :=
  if CompleteFrame cfg serial b then
    let r := pduResult ctx (packetOf b)
    some (r.shown, ctx.answeredBy r, getResponseHeaderSize (magicOf b) + r.consumed)
  else none

section Format

variable {cfg : Config} {serial : Nat} {ctx ctx' : Context} {b : List Byte} {shown : Shown} {n : Nat}

theorem readResponse_complete (h : CompleteFrame cfg serial b) :
    readResponse cfg serial ctx b = some ((pduResult ctx (packetOf b)).shown,
      ctx.answeredBy (pduResult ctx (packetOf b)),
      getResponseHeaderSize (magicOf b) + (pduResult ctx (packetOf b)).consumed) :=
  if_pos h

theorem complete_of_readResponse {r : Shown × Context × Nat}
    (h : readResponse cfg serial ctx b = some r) : CompleteFrame cfg serial b := by
  by_contra hnot
  rw [readResponse, if_neg hnot] at h
  cases h

/-- The header is consumed at least, and the frame at most. -/
theorem readResponse_size (h : readResponse cfg serial ctx b = some (shown, ctx', n)) :
    0 < n ∧ n ≤ b.length := by
  have hcomplete := complete_of_readResponse h
  have hpacket := packetOf_length hcomplete
  have hconsumed : (pduResult ctx (packetOf b)).consumed ≤ (packetOf b).length :=
    pduResult_consumed_le (by rw [hpacket]; exact hcomplete.1.2.2.1)
  have hheader := (headerSize_bounds (magicOf b)).1
  have hframe := hcomplete.2
  rw [frameSizeOf] at hframe
  rw [readResponse_complete hcomplete] at h
  obtain ⟨_, _, rfl⟩ : (pduResult ctx (packetOf b)).shown = shown ∧
      ctx.answeredBy (pduResult ctx (packetOf b)) = ctx' ∧
      getResponseHeaderSize (magicOf b) + (pduResult ctx (packetOf b)).consumed = n := by
    simpa using h
  omega

theorem readResponse_append {r : Shown × Context × Nat} (t : List Byte)
    (h : readResponse cfg serial ctx b = some r) :
    readResponse cfg serial ctx (b ++ t) = some r := by
  have hcomplete := complete_of_readResponse h
  rw [readResponse_complete hcomplete] at h
  rw [readResponse_complete (hcomplete.append t), packetOf_append hcomplete,
    magicOf_append t (two_le_of_magicOf hcomplete.1.1)]
  exact h

/-- **The responses** to a request with a serial number, as a stream format. -/
def responseFormat (cfg : Config) (serial : Nat) : Format Byte Context Shown where
  start := Viable cfg serial
  decidableStart := inferInstance
  read := readResponse cfg serial
  persistent := viable_persistent cfg serial
  starts h := Or.inr (Or.inr (complete_of_readResponse h).1)
  size := readResponse_size
  extend := readResponse_append

end Format

/-! ## The receiver -/

/-- `fx5_parse_response` is called until it asks for more bytes, at most `fuel` times; what it
answers is collected. -/
def drain (cfg : Config) : Nat → Context → Option (List Shown × Context)
  | 0, _ => none
  | fuel + 1, ctx =>
    match parseResponse cfg ctx with
    | none => none
    | some (.errNeedMore, ctx') => some ([], ctx')
    | some (.errResync, ctx') => drain cfg fuel ctx'
    | some (status, ctx') =>
      (drain cfg fuel ctx').map fun r =>
        (⟨status, ctx'.responseCode, ctx'.count, ctx'.values⟩ :: r.1, r.2)

/-- The pieces are fed one after the other, and the buffer is drained after each; there is no result
when a piece is not taken. -/
def receive (cfg : Config) : Context → List (List Byte) → Option (List Shown × Context)
  | ctx, [] => some ([], ctx)
  | ctx, piece :: pieces => do
    let (status, ctx) ← feedResponseBytes cfg ctx (some piece) (BitVec.ofNat 16 piece.length)
    if status ≠ .ok then none
    else do
      let (shown, ctx) ← drain cfg (ctx.rxCbuffer.size + 1) ctx
      let (later, ctx) ← receive cfg ctx pieces
      some (shown ++ later, ctx)

/-- Every piece fits behind what is left of the bytes before it. -/
def PiecesFit (cfg : Config) (serial : Nat) : Context → List Byte → List (List Byte) → Prop
  | _, _, [] => True
  | ctx, left, piece :: pieces =>
    left.length + piece.length ≤ FX5_IOBUF_SIZE cfg ∧
      PiecesFit cfg serial (decode (responseFormat cfg serial) ctx (left ++ piece)).state
        (decode (responseFormat cfg serial) ctx (left ++ piece)).left pieces

section Drain

variable {cfg : Config} {ctx : Context}

/-- The receiver is where decoding is: the fields, and the bytes that are left. -/
structure At (cfg : Config) (serial : Nat) (ctx : Context) (state : Context) (left : List Byte) :
    Prop where
  inv : ctx.Inv cfg
  inUse : ctx.inUse = true
  serial : ctx.serial = serial
  fields : ctx.fields = state
  left : ctx.rxCbuffer.contents = left

theorem drain_answered {fuel : Nat} {status : Status} {ctx' : Context}
    (hres : parseResponse cfg ctx = some (status, ctx'))
    (hstatus : status = .ok ∨ status = .responseError ∨ status = .errInvalidCount) :
    drain cfg (fuel + 1) ctx = (drain cfg fuel ctx').map fun r =>
      (⟨status, ctx'.responseCode, ctx'.count, ctx'.values⟩ :: r.1, r.2) := by
  rw [drain, hres]
  rcases hstatus with rfl | rfl | rfl <;> rfl

/-- **The calls after one piece** answer the frames that are decoded. -/
theorem drain_decode (hinv : ctx.Inv cfg) (huse : ctx.inUse = true) {fuel : Nat}
    (hfuel : ctx.rxCbuffer.contents.length < fuel) :
    ∃ ctx', drain cfg fuel ctx =
        some ((decode (responseFormat cfg ctx.serial) ctx.fields ctx.rxCbuffer.contents).outputs,
          ctx') ∧
      At cfg ctx.serial ctx'
        (decode (responseFormat cfg ctx.serial) ctx.fields ctx.rxCbuffer.contents).state
        (decode (responseFormat cfg ctx.serial) ctx.fields ctx.rxCbuffer.contents).left := by
  induction fuel generalizing ctx with
  | zero => exact absurd hfuel (Nat.not_lt_zero _)
  | succ fuel ih =>
    obtain ⟨k, hk⟩ : ∃ k, frameStart cfg ctx.serial ctx.rxCbuffer.contents = k := ⟨_, rfl⟩
    have hle : k ≤ ctx.rxCbuffer.contents.length := hk ▸ skip_le_length _ _
    have hfront : (responseFormat cfg ctx.serial).front ctx.rxCbuffer.contents =
        ctx.rxCbuffer.contents.drop k := by rw [← hk]; rfl
    rcases Nat.lt_or_ge FX5_RESYNC_LIMIT k with hlimit | hlimit
    · -- the call gives up, and the next one scans on
      obtain ⟨j, hjk, hjlimit, hres⟩ := parseResponse_resync hinv huse hk hlimit
      have hjle : j + 0 ≤ ctx.rxCbuffer.contents.length := Nat.le_trans hjk hle
      have hcont : (ctx.taken j 0).rxCbuffer.contents = ctx.rxCbuffer.contents.drop j :=
        hinv.contents_taken hjle
      have hlimit64 : FX5_RESYNC_LIMIT = 64 := rfl
      obtain ⟨ctx', hdrain, hat⟩ := ih (hinv.taken hjle) huse
        (by rw [hcont, List.length_drop]; omega)
      have hsame : decode (responseFormat cfg ctx.serial) ctx.fields
            (ctx.rxCbuffer.contents.drop j) =
          decode (responseFormat cfg ctx.serial) ctx.fields ctx.rxCbuffer.contents := by
        refine decode_congr ?_
        have hstart := frameStart_drop hk hjk
        rw [hfront, Format.front]
        have hskip : skip (responseFormat cfg ctx.serial).start (ctx.rxCbuffer.contents.drop j) =
            k - j := hstart
        rw [hskip, List.drop_drop, Nat.add_sub_cancel' hjk]
      rw [hcont] at hdrain hat
      have hserial : (ctx.taken j 0).serial = ctx.serial := rfl
      have hfields : (ctx.taken j 0).fields = ctx.fields := rfl
      rw [hserial, hfields, hsame] at hdrain hat
      exact ⟨ctx', by rw [drain, hres]; exact hdrain, hat⟩
    by_cases hcomplete : CompleteFrame cfg ctx.serial (ctx.rxCbuffer.contents.drop k)
    · -- the frame is answered, and the next call goes on behind it
      have hres := parseResponse_complete hinv huse hk hlimit rfl hcomplete
      have hcont := contents_apply_taken hinv hle rfl hcomplete
      have hstatus := pduResult_status ctx (packetOf (ctx.rxCbuffer.contents.drop k))
      have hread := @readResponse_complete cfg ctx.serial ctx.fields _ hcomplete
      obtain ⟨_, next, hnext, hinv', huse', _⟩ := parseResponse_inv hinv huse
      rw [hres] at hnext
      cases hnext
      have hdecode := decode_of_some (F := responseFormat cfg ctx.serial) (s := ctx.fields)
        (l := ctx.rxCbuffer.contents) (by rw [hfront]; exact hread)
      have hpdu : pduResult ctx.fields (packetOf (ctx.rxCbuffer.contents.drop k)) =
          pduResult ctx (packetOf (ctx.rxCbuffer.contents.drop k)) := rfl
      rw [hfront, hpdu] at hdecode
      have hheader := (headerSize_bounds (magicOf (ctx.rxCbuffer.contents.drop k))).1
      have hframe := hcomplete.2
      rw [frameSizeOf, List.length_drop] at hframe
      generalize pduResult ctx (packetOf (ctx.rxCbuffer.contents.drop k)) = r at *
      obtain ⟨ctx', hdrain, hat⟩ := ih hinv' huse'
        (by rw [hcont, List.length_drop, List.length_drop]; omega)
      rw [hcont] at hdrain hat
      rw [hdecode]
      refine ⟨ctx', ?_, hat⟩
      rw [drain_answered hres hstatus, hdrain]
      rfl
    · have hres := parseResponse_needMore hinv huse hk hlimit hcomplete
      have hread : readResponse cfg ctx.serial ctx.fields (ctx.rxCbuffer.contents.drop k) = none :=
        if_neg hcomplete
      rw [decode_of_none (by rw [hfront]; exact hread), hfront]
      exact ⟨ctx.taken k 0, by rw [drain, hres], hinv.taken hle, huse, rfl, rfl,
        hinv.contents_taken hle⟩

/-- **A piece** that fits is fed, and the calls after it answer what is decoded. -/
theorem receive_piece (hinv : ctx.Inv cfg) (huse : ctx.inUse = true) {piece : List Byte}
    (pieces : List (List Byte)) (hsmall : piece.length < 65536) :
    (FX5_IOBUF_SIZE cfg < ctx.rxCbuffer.contents.length + piece.length ∧
      receive cfg ctx (piece :: pieces) = none) ∨
    (ctx.rxCbuffer.contents.length + piece.length ≤ FX5_IOBUF_SIZE cfg ∧
      ∃ next, At cfg ctx.serial next
          (decode (responseFormat cfg ctx.serial) ctx.fields
            (ctx.rxCbuffer.contents ++ piece)).state
          (decode (responseFormat cfg ctx.serial) ctx.fields
            (ctx.rxCbuffer.contents ++ piece)).left ∧
        receive cfg ctx (piece :: pieces) = (receive cfg next pieces).map fun r =>
          ((decode (responseFormat cfg ctx.serial) ctx.fields
            (ctx.rxCbuffer.contents ++ piece)).outputs ++ r.1, r.2)) := by
  have hsize : (BitVec.ofNat 16 piece.length).toNat = piece.length := by
    rw [BitVec.toNat_ofNat]
    omega
  have hdata : ∀ d, some piece = some d → (BitVec.ofNat 16 piece.length).toNat ≤ d.length := by
    rintro d ⟨⟩
    exact Nat.le_of_eq hsize
  rcases feedResponseBytes_cases hinv huse hdata with
    ⟨status, hne, hfull, hfeed⟩ | ⟨d, hd, hroom, hfeed⟩
  · rw [hsize] at hfull
    refine Or.inl ⟨hfull.resolve_left nofun, ?_⟩
    rw [receive, hfeed]
    exact if_pos hne
  · cases hd
    rw [hsize] at hroom hfeed
    rw [List.take_length] at hfeed
    obtain ⟨hinv', hcont⟩ := hinv.received hroom
    have hlen := hinv'.ring.contents_length
    have hfuel : (ctx.received piece).rxCbuffer.contents.length <
        (ctx.received piece).rxCbuffer.size + 1 := by omega
    have huse' : (ctx.received piece).inUse = true := huse
    obtain ⟨next, hdrain, hat⟩ := drain_decode hinv' huse' hfuel
    rw [hcont] at hdrain hat
    refine Or.inr ⟨hroom, next, hat, ?_⟩
    rw [receive, hfeed]
    simp only [Option.bind_eq_bind, Option.bind_some, ne_eq, not_true_eq_false, if_false, hdrain]
    cases receive cfg next pieces <;> rfl

/-- **All pieces.** -/
theorem receive_decode (hinv : ctx.Inv cfg) (huse : ctx.inUse = true)
    {pieces : List (List Byte)} (hsmall : ∀ piece ∈ pieces, piece.length < 65536) :
    ((receive cfg ctx pieces).isSome = true ↔
      PiecesFit cfg ctx.serial ctx.fields ctx.rxCbuffer.contents pieces) ∧
    ∀ shown ctx', receive cfg ctx pieces = some (shown, ctx') →
      shown = (decodePieces (responseFormat cfg ctx.serial) ctx.fields ctx.rxCbuffer.contents
        pieces).outputs ∧
      At cfg ctx.serial ctx'
        (decodePieces (responseFormat cfg ctx.serial) ctx.fields ctx.rxCbuffer.contents
          pieces).state
        (decodePieces (responseFormat cfg ctx.serial) ctx.fields ctx.rxCbuffer.contents
          pieces).left := by
  induction pieces generalizing ctx with
  | nil =>
    refine ⟨by simp [receive, PiecesFit], fun shown ctx' h => ?_⟩
    cases h
    exact ⟨rfl, hinv, huse, rfl, rfl, rfl⟩
  | cons piece pieces ih =>
    obtain ⟨hpiece, hpieces⟩ := List.forall_mem_cons.mp hsmall
    rcases receive_piece hinv huse pieces hpiece with ⟨hfull, hres⟩ | ⟨hroom, next, hat, hres⟩
    · rw [hres]
      refine ⟨⟨nofun, fun h => absurd h.1 (Nat.not_le_of_lt hfull)⟩, fun _ _ h => ?_⟩
      cases h
    · obtain ⟨hfit, hshown⟩ := ih hat.inv hat.inUse hpieces
      rw [hat.serial, hat.fields, hat.left] at hfit hshown
      rw [hres, Option.isSome_map, hfit]
      refine ⟨⟨fun h => ⟨hroom, h⟩, fun h => h.2⟩, fun shown ctx' h => ?_⟩
      obtain ⟨⟨later, last⟩, hlater, heq⟩ := Option.map_eq_some_iff.mp h
      cases heq
      obtain ⟨rfl, hlast⟩ := hshown later last hlater
      exact ⟨rfl, hlast⟩

/-- Pieces of a stream fit if what is left wherever one of them ends does. -/
theorem piecesFit_of_cuts {serial : Nat} {before : List Byte} {pieces : List (List Byte)}
    (h : ∀ earlier piece later, pieces = earlier ++ piece :: later →
      (decode (responseFormat cfg serial) ctx (before ++ earlier.flatten)).left.length +
        piece.length ≤ FX5_IOBUF_SIZE cfg) :
    PiecesFit cfg serial (decode (responseFormat cfg serial) ctx before).state
      (decode (responseFormat cfg serial) ctx before).left pieces := by
  induction pieces generalizing before with
  | nil => trivial
  | cons piece pieces ih =>
    have hfirst := h [] piece pieces rfl
    rw [List.flatten_nil, List.append_nil] at hfirst
    have hrest := @ih (before ++ piece) fun earlier next later hsplit => by
      have hnext := h (piece :: earlier) next later (by rw [hsplit, List.cons_append])
      rwa [List.flatten_cons, ← List.append_assoc] at hnext
    rw [decode_append] at hrest
    exact ⟨hfirst, hrest⟩

end Drain

/-- **A receiver answers what is in the stream.**  From any reachable acquired context: the pieces
are taken exactly as long as each of them fits behind what the frames before it left; and then the
answers, the fields of the context and the bytes left in the buffer are those of reading the whole
stream at once.  It does not matter where the stream was cut and how often `fx5_parse_response` gave
up on garbage on the way. -/
theorem receive_decodes_stream {cfg : Config} {ctx : Context} (hctx : Acquired cfg ctx)
    (piece : List Byte) (pieces : List (List Byte))
    (hsmall : ∀ p ∈ piece :: pieces, p.length < 65536) :
    let stream := ctx.rxCbuffer.contents ++ (piece :: pieces).flatten
    let decoded := decode (responseFormat cfg ctx.serial) ctx.fields stream
    ((receive cfg ctx (piece :: pieces)).isSome = true ↔
      PiecesFit cfg ctx.serial ctx.fields ctx.rxCbuffer.contents (piece :: pieces)) ∧
    ∀ shown ctx', receive cfg ctx (piece :: pieces) = some (shown, ctx') →
      shown = decoded.outputs ∧ ctx'.fields = decoded.state ∧
      ctx'.rxCbuffer.contents = decoded.left := by
  obtain ⟨hinv, huse⟩ := acquired_inv hctx
  obtain ⟨hfit, hshown⟩ := receive_decode hinv huse hsmall
  refine ⟨hfit, fun shown ctx' h => ?_⟩
  obtain ⟨houtputs, hat⟩ := hshown shown ctx' h
  rw [decodePieces_eq] at houtputs hat
  exact ⟨houtputs, hat.fields, hat.left⟩

/-- Two responses with garbage in front of each, in pieces that cut both of them. -/
def noisyPieces : List (List Byte) :=
  [[0xAA, 0xD0, 0xD0, 0x00, 0x00, 0xFF, 0xFF, 0x03, 0x00, 0x04],
    [0x00, 0x00, 0x00, 0x34, 0x12, 0xBB, 0xD0], [0x00, 0x00, 0xFF, 0xFF, 0x03, 0x00, 0x04, 0x00],
    [0x00, 0x00, 0x78, 0x56]]

theorem readingContext_acquired : Acquired .smallest readingContext :=
  acquired_contextAfter (by decide +kernel)

theorem noisyPieces_decoded :
    ∃ shown ctx', receive .smallest readingContext noisyPieces = some (shown, ctx') ∧
      shown = (decode (responseFormat .smallest readingContext.serial) readingContext.fields
        (readingContext.rxCbuffer.contents ++ noisyPieces.flatten)).outputs ∧
      shown.map (·.values.take 1) = [[0x1234], [0x5678]] := by
  have hrun : (receive .smallest readingContext noisyPieces).map
      (fun r => r.1.map (·.values.take 1)) = some [[0x1234], [0x5678]] := by decide +kernel
  obtain ⟨⟨shown, ctx'⟩, hres, hvalues⟩ := Option.map_eq_some_iff.mp hrun
  obtain ⟨_, hshown⟩ := receive_decodes_stream readingContext_acquired
    [0xAA, 0xD0, 0xD0, 0x00, 0x00, 0xFF, 0xFF, 0x03, 0x00, 0x04] noisyPieces.tail
    (by decide +kernel)
  exact ⟨shown, ctx', hres, (hshown shown ctx' hres).1, hvalues⟩

/-! ## Frames between garbage -/

/-- Garbage, and frames with garbage behind each of them. -/
def noisy : List Byte → List (List Byte × List Byte) → List Byte
  | g, [] => g
  | g, (F, behind) :: rest => g ++ (F ++ noisy behind rest)

/-- What frames are answered with, one after the other. -/
def answers (ctx : Context) : List (List Byte) → List Shown
  | [] => []
  | F :: Fs => (pduResult ctx (packetOf F)).shown ::
      answers (ctx.answeredBy (pduResult ctx (packetOf F))) Fs

section Noisy

variable {cfg : Config} {ctx : Context} {serial : Nat}

theorem answers_fields (ctx : Context) (Fs : List (List Byte)) :
    answers ctx.fields Fs = answers ctx Fs := by
  induction Fs generalizing ctx with
  | nil => rfl
  | cons F Fs ih =>
    have hpdu : pduResult ctx.fields (packetOf F) = pduResult ctx (packetOf F) := rfl
    have hnext (r : PduResult) : ctx.fields.answeredBy r = (ctx.answeredBy r).fields := rfl
    rw [answers, answers, hpdu, hnext, ih]

/-- A frame without an odd payload is consumed whole. -/
theorem readResponse_frame {F : List Byte} (hF : IsFrame cfg serial F)
    (hodd : ¬OddWordPayload ctx (packetOf F)) :
    readResponse cfg serial ctx F = some ((pduResult ctx (packetOf F)).shown,
      ctx.answeredBy (pduResult ctx (packetOf F)), F.length) := by
  have hlen := packetOf_length hF.complete
  have hsize := hF.2
  have hmin : FX5_RESP_PDU_HEADER_SIZE ≤ (packetOf F).length := by
    rw [hlen]
    exact hF.1.2.2.1
  rw [frameSizeOf] at hsize
  rw [readResponse_complete hF.complete, pduResult_consumed hmin, if_neg hodd, hlen, ← hsize]

/-- No frame starts in garbage, and at most its last byte may belong to one. -/
theorem decode_garbage {g : List Byte} (hg : NoSubheader g) :
    (decode (responseFormat cfg serial) ctx g).outputs = [] ∧
      (decode (responseFormat cfg serial) ctx g).left.length ≤ 1 := by
  have hunknown (i : Nat) : magicOf (g.drop i) = .unknown := by
    rcases Nat.lt_or_ge i g.length with hi | hi
    · exact hg i hi
    · rw [List.drop_eq_nil_of_le hi]
      exact magicOf_short Nat.two_pos
  rw [decode_waits fun i => if_neg fun hcomplete => hcomplete.1.1 (hunknown i)]
  refine ⟨rfl, ?_⟩
  have hfront : (responseFormat cfg serial).front g = g.drop (frameStart cfg serial g) := rfl
  rw [hfront]
  rcases Nat.lt_or_ge (frameStart cfg serial g) g.length with hlt | hge
  · have hviable : Viable cfg serial (g.drop (frameStart cfg serial g)) := skip_holds hlt
    rcases hviable.candidate with hmagic | hlone
    · exact absurd (hunknown _) hmagic
    · rcases hlone with h | h <;> exact Nat.le_of_eq (congrArg List.length h)
  · rw [List.drop_eq_nil_of_le hge]
    exact Nat.zero_le 1

/-- **Frames between garbage** are decoded one after the other. -/
theorem decode_noisy {g : List Byte} (hg : NoSubheader g) {frames : List (List Byte × List Byte)}
    (hframes : ∀ f ∈ frames, IsFrame cfg serial f.1 ∧ ¬OddWordPayload ctx (packetOf f.1) ∧
      NoSubheader f.2) :
    (decode (responseFormat cfg serial) ctx (noisy g frames)).outputs =
        answers ctx (frames.map Prod.fst) ∧
      (decode (responseFormat cfg serial) ctx (noisy g frames)).left.length ≤ 1 := by
  induction frames generalizing g ctx with
  | nil => exact decode_garbage hg
  | cons f frames ih =>
    obtain ⟨F, behind⟩ := f
    obtain ⟨⟨hF, hodd, hbehind⟩, hrest⟩ := List.forall_mem_cons.mp hframes
    have hviable : Viable cfg serial (F ++ noisy behind frames) :=
      Or.inr (Or.inr (hF.1.append _))
    have hread := readResponse_frame hF hodd
    obtain ⟨houtputs, hleft⟩ := @ih (ctx.answeredBy (pduResult ctx (packetOf F))) behind hbehind
      hrest
    have hdecode : decode (responseFormat cfg serial) ctx (noisy g ((F, behind) :: frames)) =
        (decode (responseFormat cfg serial) (ctx.answeredBy (pduResult ctx (packetOf F)))
          (noisy behind frames)).after [(pduResult ctx (packetOf F)).shown] :=
      decode_message (frameStart_garbage hg hviable) hread
    rw [hdecode]
    refine ⟨?_, hleft⟩
    rw [Decoded.after, houtputs]
    rfl

theorem NoSubheader.take {g : List Byte} (hg : NoSubheader g) (n : Nat) :
    NoSubheader (g.take n) := by
  intro i hi
  rw [List.length_take] at hi
  rw [List.drop_take]
  by_contra hmagic
  have hsame := magicOf_append ((g.drop i).drop (n - i)) (two_le_of_magicOf hmagic)
  rw [List.take_append_drop, hg i (by omega)] at hsame
  exact hmagic hsame.symm

/-- **Wherever the stream is cut**, a byte of the garbage or the front of one frame is left. -/
theorem decode_noisy_cut {g : List Byte} (hg : NoSubheader g)
    {frames : List (List Byte × List Byte)}
    (hframes : ∀ f ∈ frames, IsFrame cfg serial f.1 ∧ ¬OddWordPayload ctx (packetOf f.1) ∧
      NoSubheader f.2) {bound : Nat} (htwo : 2 ≤ bound) (hbound : ∀ f ∈ frames, f.1.length ≤ bound)
    (n : Nat) :
    (decode (responseFormat cfg serial) ctx ((noisy g frames).take n)).left.length < bound := by
  have hgarbage {ctx : Context} {g : List Byte} (hg : NoSubheader g) (n : Nat) :
      (decode (responseFormat cfg serial) ctx (g.take n)).left.length < bound :=
    Nat.lt_of_le_of_lt (decode_garbage (hg.take n)).2 htwo
  induction frames generalizing g ctx n with
  | nil => exact hgarbage hg n
  | cons f frames ih =>
    obtain ⟨F, behind⟩ := f
    obtain ⟨⟨hF, hodd, hbehind⟩, hrest⟩ := List.forall_mem_cons.mp hframes
    obtain ⟨hle, hbounds⟩ := List.forall_mem_cons.mp hbound
    rcases Nat.le_total n g.length with hn | hn
    · -- the cut is in the garbage in front
      rw [noisy, List.take_append_of_le_length hn]
      exact hgarbage hg n
    obtain ⟨k, rfl⟩ := Nat.exists_eq_add_of_le hn
    rw [noisy, List.take_length_add_append]
    rcases Nat.lt_or_ge k F.length with hk | hk
    · -- the cut is in the frame
      rw [List.take_append_of_le_length (Nat.le_of_lt hk)]
      rcases Nat.eq_zero_or_pos k with rfl | hpos
      · rw [List.take_zero, List.append_nil]
        have hall := @hgarbage ctx g hg g.length
        rwa [List.take_length] at hall
      have hlen : (F.take k).length = k := List.length_take_of_le (Nat.le_of_lt hk)
      obtain ⟨hstart, hpartial⟩ := frame_at_front hF (List.take_append_drop k F)
      have hcomplete : ¬CompleteFrame cfg serial (F.take k) := hpartial fun h => by
        have hdrop := congrArg List.length h
        rw [List.length_drop, List.length_nil] at hdrop
        omega
      have hviable : Viable cfg serial (F.take k) := by
        have hfirst : Viable cfg serial ((F.take k).drop (frameStart cfg serial (F.take k))) :=
          skip_holds (show frameStart cfg serial (F.take k) < _ by omega)
        rwa [hstart, List.drop_zero] at hfirst
      have hfront : (responseFormat cfg serial).front (g ++ F.take k) = F.take k := by
        have hskip : skip (responseFormat cfg serial).start (g ++ F.take k) = g.length :=
          frameStart_garbage hg hviable
        rw [StreamDecoder.Format.front, hskip, List.drop_left]
      have hnone : (responseFormat cfg serial).read ctx (F.take k) = none := if_neg hcomplete
      rw [decode_of_none (by rw [hfront]; exact hnone), hfront, hlen]
      exact Nat.lt_of_lt_of_le hk hle
    · -- the frame is read, and the cut is behind it
      obtain ⟨m, rfl⟩ := Nat.exists_eq_add_of_le hk
      rw [List.take_length_add_append]
      have hviable : Viable cfg serial (F ++ (noisy behind frames).take m) :=
        Or.inr (Or.inr (hF.1.append _))
      have hstart : skip (responseFormat cfg serial).start
          (g ++ (F ++ (noisy behind frames).take m)) = g.length := frameStart_garbage hg hviable
      rw [decode_message hstart (readResponse_frame hF hodd)]
      exact @ih (ctx.answeredBy (pduResult ctx (packetOf F))) behind hbehind hrest hbounds m

/-- **Pieces that fit beside a frame** always fit. -/
theorem noisy_piecesFit {g : List Byte} (hg : NoSubheader g)
    {frames : List (List Byte × List Byte)}
    (hframes : ∀ f ∈ frames, IsFrame cfg serial f.1 ∧ ¬OddWordPayload ctx (packetOf f.1) ∧
      NoSubheader f.2) {pieces : List (List Byte)} (hstream : pieces.flatten = noisy g frames)
    (hroom : ∀ p ∈ pieces, p.length < FX5_IOBUF_SIZE cfg ∧
      ∀ f ∈ frames, p.length + f.1.length ≤ FX5_IOBUF_SIZE cfg) :
    PiecesFit cfg serial ctx [] pieces := by
  have hcuts := @piecesFit_of_cuts cfg ctx serial [] pieces
  rw [decode_nil] at hcuts
  refine hcuts fun earlier piece later hsplit => ?_
  obtain ⟨hpiece, hbeside⟩ := hroom piece (by rw [hsplit]; simp)
  -- the stream up to this piece is the whole stream, cut where the piece begins
  have hcut : (noisy g frames).take earlier.flatten.length = earlier.flatten := by
    rw [← hstream, hsplit, List.flatten_append, List.take_left]
  have hleft := @decode_noisy_cut cfg ctx serial g hg frames hframes
    (FX5_IOBUF_SIZE cfg - piece.length + 1) (by omega)
    (fun f hf => by have := hbeside f hf; omega) earlier.flatten.length
  rw [hcut] at hleft
  rw [List.nil_append]
  omega

end Noisy

/-- **Every frame is delivered once, in order.**  The stream consists of whole responses to the
request, with garbage in front of, between and behind them in which no subheader occurs.  Its pieces
are taken exactly as long as each fits behind what is left of those before it, and so always if it
fits into the buffer beside any one of the responses.  Then a receiver answers each response once
and in order, and nothing else, however the stream was cut and however much garbage there is; at
most one byte of it is left.  An odd payload to a word read is excluded: it is not consumed. -/
theorem noisy_stream_delivers_frames {cfg : Config} {ctx : Context} (hctx : Acquired cfg ctx)
    (hempty : ctx.rxCbuffer.contents = []) {piece : List Byte} {pieces : List (List Byte)}
    (hsmall : ∀ p ∈ piece :: pieces, p.length < 65536) {g : List Byte} (hg : NoSubheader g)
    {frames : List (List Byte × List Byte)}
    (hframes : ∀ f ∈ frames, IsFrame cfg ctx.serial f.1 ∧ ¬OddWordPayload ctx (packetOf f.1) ∧
      NoSubheader f.2)
    (hstream : (piece :: pieces).flatten = noisy g frames) :
    (PiecesFit cfg ctx.serial ctx.fields [] (piece :: pieces) ↔
      ∃ shown ctx', receive cfg ctx (piece :: pieces) = some (shown, ctx') ∧
        shown = answers ctx (frames.map Prod.fst) ∧ ctx'.rxCbuffer.contents.length ≤ 1) ∧
    (¬PiecesFit cfg ctx.serial ctx.fields [] (piece :: pieces) ↔
      receive cfg ctx (piece :: pieces) = none) ∧
    ((∀ p ∈ piece :: pieces, p.length < FX5_IOBUF_SIZE cfg ∧
        ∀ f ∈ frames, p.length + f.1.length ≤ FX5_IOBUF_SIZE cfg) →
      PiecesFit cfg ctx.serial ctx.fields [] (piece :: pieces)) := by
  obtain ⟨hinv, huse⟩ := acquired_inv hctx
  obtain ⟨hfit, hshown⟩ := receive_decode hinv huse hsmall
  rw [hempty] at hfit
  have hresult {shown : List Shown} {ctx' : Context}
      (h : receive cfg ctx (piece :: pieces) = some (shown, ctx')) :
      shown = answers ctx (frames.map Prod.fst) ∧ ctx'.rxCbuffer.contents.length ≤ 1 := by
    obtain ⟨houtputs, hat⟩ := hshown shown ctx' h
    rw [decodePieces_eq, hempty, List.nil_append, hstream] at houtputs hat
    obtain ⟨hanswers, hleft⟩ := @decode_noisy cfg ctx.fields ctx.serial g hg frames hframes
    rw [hanswers, answers_fields] at houtputs
    exact ⟨houtputs, by rw [hat.left]; exact hleft⟩
  refine ⟨?_, ?_, @noisy_piecesFit cfg ctx.fields ctx.serial g hg frames hframes _ hstream⟩
  · rw [← hfit, Option.isSome_iff_exists]
    constructor
    · rintro ⟨⟨shown, ctx'⟩, h⟩
      exact ⟨shown, ctx', h, hresult h⟩
    · rintro ⟨shown, ctx', h, _⟩
      exact ⟨_, h⟩
  · rw [← hfit, Option.not_isSome_iff_eq_none]

/-- The responses in `noisyPieces`, with what is behind each. -/
def noisyFrames : List (List Byte × List Byte) :=
  [([0xD0, 0x00, 0x00, 0xFF, 0xFF, 0x03, 0x00, 0x04, 0x00, 0x00, 0x00, 0x34, 0x12], [0xBB]),
    ([0xD0, 0x00, 0x00, 0xFF, 0xFF, 0x03, 0x00, 0x04, 0x00, 0x00, 0x00, 0x78, 0x56], [])]

theorem noisyPieces_delivered :
    ∃ shown ctx', receive .smallest readingContext noisyPieces = some (shown, ctx') ∧
      shown = answers readingContext (noisyFrames.map Prod.fst) ∧ shown.length = 2 := by
  have hgarbage : NoSubheader [0xAA, 0xD0] := by decide +kernel
  have hframes : ∀ f ∈ noisyFrames, IsFrame .smallest readingContext.serial f.1 ∧
      ¬OddWordPayload readingContext (packetOf f.1) ∧ NoSubheader f.2 := by decide +kernel
  have hroom : ∀ p ∈ noisyPieces, p.length < FX5_IOBUF_SIZE .smallest ∧
      ∀ f ∈ noisyFrames, p.length + f.1.length ≤ FX5_IOBUF_SIZE .smallest := by decide +kernel
  obtain ⟨hdelivers, _, hfits⟩ := noisy_stream_delivers_frames readingContext_acquired
    (by decide +kernel) (by decide +kernel : ∀ p ∈ noisyPieces, p.length < 65536) hgarbage hframes
    (by decide +kernel)
  obtain ⟨shown, ctx', hres, hshown, _⟩ := hdelivers.mp (hfits hroom)
  exact ⟨shown, ctx', hres, hshown, hshown ▸ rfl⟩

end Fx5
