import Fx5Slmp.Pool

/-!
# Segmentation of the byte stream

TCP delivers a response in pieces of any size, and the host loop of the library feeds each
piece and parses.  The answer must not depend on where the stream was cut: parsing after each
piece ends with the answer of parsing once, after all of them.

* `frameAnswer_append` — bytes behind a complete frame stay in the buffer;
* `runChunks_answer` — the answer of the piecewise run is the answer for the least viable
  suffix of the whole stream;
* `segmentation_independence` — the two runs agree.
-/

set_option autoImplicit false

namespace Fx5

open StreamScan

/-! ## The two runs -/

/-- Feed `chunk` and parse once. -/
def feedAndParse (cfg : Config) (ctx : Context) (chunk : List Byte) : Option (Status × Context) := do
  let (status, ctx) ← feedResponseBytes cfg ctx (some chunk) (BitVec.ofNat 16 chunk.length)
  if status ≠ .ok then some (status, ctx)
  else parseResponse cfg ctx

/-- Feed and parse chunk by chunk, as long as the parser asks for more bytes and chunks
remain.  The chunks that were not fed are returned. -/
def runChunks (cfg : Config) (ctx : Context) (chunk : List Byte) (chunks : List (List Byte)) :
    Option (Status × Context × List (List Byte)) :=
  match feedAndParse cfg ctx chunk with
  | none => none
  | some (status, ctx') =>
    match chunks with
    | [] => some (status, ctx', [])
    | next :: rest =>
      if status = .errNeedMore then runChunks cfg ctx' next rest
      else some (status, ctx', next :: rest)

section Runs

variable {cfg : Config} {ctx : Context}

theorem feedAndParse_eq (hinv : ctx.Inv cfg) (huse : ctx.inUse = true) {chunk : List Byte}
    (hroom : ctx.rxCbuffer.contents.length + chunk.length ≤ FX5_IOBUF_SIZE cfg) :
    feedAndParse cfg ctx chunk = parseResponse cfg (ctx.received chunk) := by
  rw [feedAndParse, feed_fitting hinv huse hroom]
  rfl

/-- An answer with `t` behind the bytes that are left. -/
def Answer.followedBy (a : Answer) (t : List Byte) : Answer := { a with left := a.left ++ t }

/-- Bytes behind a complete frame do not change its answer and stay in the buffer. -/
theorem frameAnswer_append {b : List Byte} (h : CompleteFrame cfg ctx.serial b) (t : List Byte) :
    frameAnswer cfg ctx (b ++ t) = (frameAnswer cfg ctx b).followedBy t := by
  have hsize := h.2
  have hpacket := packetOf_length h
  have hconsumed : (pduResult ctx (packetOf b)).consumed ≤ (packetOf b).length :=
    pduResult_consumed_le (by rw [hpacket]; exact h.1.2.2.1)
  rw [frameSizeOf] at hsize
  unfold frameAnswer
  rw [if_pos h, if_pos (h.append t), packetOf_append h, magicOf_append t (two_le_of_magicOf h.1.1)]
  simp only [Answer.followedBy]
  rw [List.drop_append_of_le_length (by omega)]

/-! ## The piecewise run -/

/-- **The answer of the piecewise run** is the answer for the least viable suffix of all that
was or would have been fed, as long as that suffix is within the discard limit. -/
theorem runChunks_answer (hinv : ctx.Inv cfg) (huse : ctx.inUse = true) {chunk : List Byte}
    {chunks : List (List Byte)} {s : List Byte}
    (hs : ctx.rxCbuffer.contents ++ (chunk ++ chunks.flatten) = s)
    (hroom : s.length ≤ FX5_IOBUF_SIZE cfg) {k : Nat} (hk : frameStart cfg ctx.serial s = k)
    (hlimit : k ≤ FX5_RESYNC_LIMIT) :
    ∃ status ctx' rest, runChunks cfg ctx chunk chunks = some (status, ctx', rest) ∧
      (answerOf status ctx').followedBy rest.flatten = frameAnswer cfg ctx (s.drop k) := by
  induction chunks generalizing ctx chunk s k with
  | nil =>
    rw [List.flatten_nil, List.append_nil] at hs
    have hfit : ctx.rxCbuffer.contents.length + chunk.length ≤ FX5_IOBUF_SIZE cfg := by
      rw [← List.length_append, hs]
      exact hroom
    obtain ⟨hinv', hcont⟩ := hinv.received hfit
    rw [hs] at hcont
    obtain ⟨status, ctx', hres, hanswer⟩ := parseResponse_answer hinv' huse
      (by rw [hcont]; exact hk) hlimit
    refine ⟨status, ctx', [], ?_, ?_⟩
    · rw [runChunks, feedAndParse_eq hinv huse hfit, hres]
    · rw [hanswer, hcont, List.flatten_nil, Answer.followedBy, List.append_nil]
      rfl
  | cons next rest ih =>
    obtain ⟨x, hx⟩ : ∃ x, ctx.rxCbuffer.contents ++ chunk = x := ⟨_, rfl⟩
    obtain ⟨y, hy⟩ : ∃ y, (next :: rest).flatten = y := ⟨_, rfl⟩
    obtain ⟨j, hj⟩ : ∃ j, frameStart cfg ctx.serial x = j := ⟨_, rfl⟩
    rw [hy, ← List.append_assoc, hx] at hs
    rw [← hs, List.length_append] at hroom
    have hjle : j ≤ x.length := hj ▸ skip_le_length _ _
    -- the scan over the whole stream goes on where the scan over its first piece stopped
    have hsplit : k = j + frameStart cfg ctx.serial (x.drop j ++ y) := by
      rw [← hk, ← hs, ← hj]
      exact frameStart_append cfg ctx.serial x y
    have hdrop : s.drop k = (x.drop j ++ y).drop (k - j) := by
      rw [← hs, ← List.drop_append_of_le_length hjle, List.drop_drop]
      congr 1
      omega
    have hfit : ctx.rxCbuffer.contents.length + chunk.length ≤ FX5_IOBUF_SIZE cfg := by
      rw [← List.length_append, hx]
      omega
    obtain ⟨hinv', hcont⟩ := hinv.received hfit
    rw [hx] at hcont
    have hstart : frameStart cfg (ctx.received chunk).serial
        (ctx.received chunk).rxCbuffer.contents = j := by
      rw [hcont]
      exact hj
    rcases parseResponse_cases hinv' huse hstart with
      ⟨hover, _⟩ | ⟨_, _, hfirst⟩ | ⟨_, hcomplete, status, ctx', hres, hanswer, hstatus⟩
    · omega
    · -- the first call asks for more bytes, and the run continues behind the garbage
      have hle : j + 0 ≤ (ctx.received chunk).rxCbuffer.contents.length := by
        rw [hcont]
        exact hjle
      have hcont' : ((ctx.received chunk).taken j 0).rxCbuffer.contents = x.drop j := by
        rw [hinv'.contents_taken hle, hcont]
        rfl
      have hrest : ((ctx.received chunk).taken j 0).rxCbuffer.contents ++ (next ++ rest.flatten) =
          x.drop j ++ y := by
        rw [hcont', ← hy]
        rfl
      have hstart' : frameStart cfg ((ctx.received chunk).taken j 0).serial (x.drop j ++ y) =
          k - j := by
        show frameStart cfg ctx.serial (x.drop j ++ y) = k - j
        omega
      obtain ⟨status, ctx', left, hrun, hanswer⟩ := ih (hinv'.taken hle) huse hrest
        (by rw [List.length_append, List.length_drop]; omega) hstart' (by omega)
      refine ⟨status, ctx', left, ?_, ?_⟩
      · rw [runChunks, feedAndParse_eq hinv huse hfit, hfirst]
        exact (if_pos rfl).trans hrun
      · rw [hanswer, hdrop]
        rfl
    · -- the frame is complete: both runs end with it
      rw [hcont] at hcomplete hanswer
      have hzero : frameStart cfg ctx.serial (x.drop j ++ y) = 0 :=
        skip_eq_zero (Or.inr (Or.inr (hcomplete.append y).1))
      have hne : status ≠ .errNeedMore := by
        rcases hstatus with rfl | rfl | rfl <;> decide
      refine ⟨status, ctx', next :: rest, ?_, ?_⟩
      · rw [runChunks, feedAndParse_eq hinv huse hfit, hres]
        exact if_neg hne
      · rw [hanswer, hy, hdrop, show k - j = 0 by omega, List.drop_zero]
        exact (frameAnswer_append hcomplete y).symm

/-! ## Both runs -/

/-- **Segmentation independence.**  Unless parsing all the bytes at once gives up, feeding
them in pieces ends with the same status, response code, count and values, and leaves the
same bytes unread. -/
theorem segmentation_independence (hctx : Acquired cfg ctx) (chunk : List Byte)
    (chunks : List (List Byte))
    (hroom : ctx.rxCbuffer.contents.length + (chunk ++ chunks.flatten).length ≤
      FX5_IOBUF_SIZE cfg) :
    ∃ status ctx₁, feedAndParse cfg ctx (chunk ++ chunks.flatten) = some (status, ctx₁) ∧
      (status ≠ .errResync →
        ∃ ctx₂ rest, runChunks cfg ctx chunk chunks = some (status, ctx₂, rest) ∧
          ctx₂.responseCode = ctx₁.responseCode ∧ ctx₂.count = ctx₁.count ∧
          ctx₂.values = ctx₁.values ∧
          ctx₂.rxCbuffer.contents ++ rest.flatten = ctx₁.rxCbuffer.contents) := by
  obtain ⟨hinv, huse⟩ := acquired_inv hctx
  obtain ⟨s, hs⟩ : ∃ s, ctx.rxCbuffer.contents ++ (chunk ++ chunks.flatten) = s := ⟨_, rfl⟩
  obtain ⟨k, hk⟩ : ∃ k, frameStart cfg ctx.serial s = k := ⟨_, rfl⟩
  obtain ⟨hinv', hcont⟩ := hinv.received hroom
  rw [hs] at hcont
  have hstart : frameStart cfg (ctx.received (chunk ++ chunks.flatten)).serial
      (ctx.received (chunk ++ chunks.flatten)).rxCbuffer.contents = k := by
    rw [hcont]
    exact hk
  rw [feedAndParse_eq hinv huse hroom]
  rcases Nat.lt_or_ge FX5_RESYNC_LIMIT k with hlimit | hlimit
  · obtain ⟨j, _, _, hres⟩ := parseResponse_resync hinv' huse hstart hlimit
    exact ⟨_, _, hres, fun h => absurd rfl h⟩
  · obtain ⟨status, ctx₁, hres, hanswer⟩ := parseResponse_answer hinv' huse hstart hlimit
    rw [hcont] at hanswer
    refine ⟨status, ctx₁, hres, fun _ => ?_⟩
    obtain ⟨status₂, ctx₂, rest, hrun, hanswer₂⟩ := runChunks_answer hinv huse hs
      (by rw [← hs, List.length_append]; exact hroom) hk hlimit
    have heq : (answerOf status₂ ctx₂).followedBy rest.flatten = answerOf status ctx₁ := by
      rw [hanswer₂, hanswer]
      rfl
    simp only [answerOf, Answer.followedBy, Answer.mk.injEq] at heq
    obtain ⟨rfl, hcode, hcount, hvalues, hleft⟩ := heq
    exact ⟨ctx₂, rest, hrun, hcode, hcount, hvalues, hleft⟩

/-- One word read is active and nothing has arrived. -/
def readingContext : Context :=
  contextAfter .smallest [.acquire, .setRequest 0 .batchRead .D 100 1]

/-- Two bytes of garbage and a 3E response, cut inside the subheader and inside the length
field. -/
theorem segmentation_independence_cut :
    ∃ status ctx₁,
      feedAndParse .smallest readingContext
        ([0xAA, 0xD0, 0xD0] ++
          [[0x00, 0x00, 0xFF, 0xFF, 0x03, 0x00, 0x04], [0x00, 0x00, 0x00, 0x34, 0x12]].flatten) =
        some (status, ctx₁) ∧
      (status ≠ .errResync →
        ∃ ctx₂ rest,
          runChunks .smallest readingContext [0xAA, 0xD0, 0xD0]
            [[0x00, 0x00, 0xFF, 0xFF, 0x03, 0x00, 0x04], [0x00, 0x00, 0x00, 0x34, 0x12]] =
            some (status, ctx₂, rest) ∧
          ctx₂.responseCode = ctx₁.responseCode ∧ ctx₂.count = ctx₁.count ∧
          ctx₂.values = ctx₁.values ∧
          ctx₂.rxCbuffer.contents ++ rest.flatten = ctx₁.rxCbuffer.contents) :=
  segmentation_independence (acquired_contextAfter (by decide +kernel)) _ _ (by decide +kernel)

end Runs

end Fx5
