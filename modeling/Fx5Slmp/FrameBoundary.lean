import Fx5Slmp.Pool

/-!
# Frame selection and frame boundaries

`parseResponse_selects_least_viable` states the whole call as a declarative search.

A call of `fx5_parse_response` on a buffer that starts with a complete accepted frame should
consume that frame and nothing else, whatever the frame says.  It does, with one exception:
the word branch refuses an odd payload before it drops it, so the payload stays in the buffer
and is scanned for a header by the next call.

* `parseResponse_consumes_frame_iff` — the frame is consumed exactly when its payload is not
  an odd one for a successful word read;
* `odd_payload_stays_in_buffer` — a context and a frame for which it is not.
-/

set_option autoImplicit false

namespace Fx5

open StreamScan

/-! ## The whole call as a search -/

section Selection

variable {cfg : Config} {ctx : Context}

/-- **Frame selection is the search for the least viable index.**  The call gives up exactly
when that index is beyond the limit; otherwise it asks for more bytes with the buffer cut to
the viable suffix, or hands the complete frame at that index to the payload stage.  Garbage
of at most the limit without a subheader in front of a viable suffix changes nothing but the
counter of skipped bytes. -/
theorem parseResponse_selects_least_viable (hinv : ctx.Inv cfg) (huse : ctx.inUse = true)
    {b : List Byte} (hb : ctx.rxCbuffer.contents = b) {k : Nat}
    (hk : LeastViable cfg ctx.serial b k) :
    ((∃ ctx', parseResponse cfg ctx = some (.errResync, ctx')) ↔ FX5_RESYNC_LIMIT < k) ∧
    (k ≤ FX5_RESYNC_LIMIT →
      k = b.length ∨ LoneMagicByte (b.drop k) ∨ PartialHeader (b.drop k) ∨
        (AcceptedHeader cfg ctx.serial (b.drop k) ∧
          (b.drop k).length < frameSizeOf (b.drop k)) →
      ∃ ctx', parseResponse cfg ctx = some (.errNeedMore, ctx') ∧
        ctx'.rxCbuffer.contents = b.drop k) ∧
    (k ≤ FX5_RESYNC_LIMIT → CompleteFrame cfg ctx.serial (b.drop k) →
      let headerSize := getResponseHeaderSize (magicOf (b.drop k))
      parseResponse cfg ctx =
        parseResponsePdu cfg (ctx.taken k headerSize) (packetSizeOf (b.drop k)) ∧
      (ctx.taken k headerSize).rxCbuffer.contents = b.drop (k + headerSize)) ∧
    (∀ g f, b = g ++ f → g.length ≤ FX5_RESYNC_LIMIT → NoSubheader g →
      Viable cfg ctx.serial f →
      ∃ status ctx',
        parseResponse cfg { ctx with rxCbuffer := ctx.rxCbuffer.advance g.length } =
          some (status, ctx') ∧
        parseResponse cfg ctx = some (status, { ctx' with resyncCounter := g.length })) := by
  have hstart := leastViable_iff.mp hk
  rw [← hb] at hstart
  have hle : k ≤ b.length := hk.1
  refine ⟨⟨?_, ?_⟩, ?_, ?_, ?_⟩
  · rintro ⟨ctx', hres⟩
    rcases parseResponse_cases hinv huse hstart with
      ⟨hlimit, _⟩ | ⟨_, _, h⟩ | ⟨_, _, status, ctx₁, h, _, hstatus⟩
    · exact hlimit
    · rw [h] at hres
      cases hres
    · rw [h] at hres
      cases hres
      rcases hstatus with h | h | h <;> cases h
  · intro hlimit
    obtain ⟨j, _, _, hres⟩ := parseResponse_resync hinv huse hstart hlimit
    exact ⟨_, hres⟩
  · intro hlimit hcases
    have hnot : ¬ CompleteFrame cfg ctx.serial (ctx.rxCbuffer.contents.drop k) := by
      rw [hb]
      intro h
      have hhead := h.1.2.1
      have hmagic := two_le_of_magicOf h.1.1
      rcases hcases with hend | hlone | hincomplete | hshort
      · rw [List.length_drop] at hmagic
        omega
      · rcases hlone with hlone | hlone <;> rw [hlone] at hmagic <;> simp at hmagic
      · exact absurd hincomplete.2 (by omega)
      · exact absurd h.2 (by omega)
    refine ⟨_, parseResponse_needMore hinv huse hstart hlimit hnot, ?_⟩
    rw [hinv.contents_taken (by rw [hb]; exact hle), hb]
    rfl
  · intro hlimit hcomplete headerSize
    have hsize := hcomplete.2
    rw [frameSizeOf, List.length_drop] at hsize
    refine ⟨parseResponse_payload hinv huse hstart hlimit (by rw [hb]) hcomplete, ?_⟩
    rw [← hb]
    exact hinv.contents_taken (by rw [hb]; omega)
  · rintro g f rfl hlen hg hf
    have hgarbage := frameStart_garbage hg hf
    rw [← hb] at hgarbage
    exact parseResponse_skip hinv huse hgarbage hlen rfl

/-- Three bytes of garbage and a partial 3E header have arrived. -/
def garbageContext : Context :=
  contextAfter .smallest
    [.acquire, .setRequest 0 .batchRead .D 100 1,
      .feedResponseBytes 0 (some [0xAA, 0xBB, 0xD0, 0xD0, 0x00, 0x00]) 6]

theorem garbageContext_acquired : Acquired .smallest garbageContext :=
  acquired_contextAfter (by decide +kernel)

theorem selects_behind_garbage :
    ∃ ctx', parseResponse .smallest garbageContext = some (.errNeedMore, ctx') ∧
      ctx'.rxCbuffer.contents = [0xD0, 0x00, 0x00] := by
  obtain ⟨hinv, huse⟩ := acquired_inv garbageContext_acquired
  have hk : LeastViable .smallest garbageContext.serial [0xAA, 0xBB, 0xD0, 0xD0, 0x00, 0x00] 3 := by
    decide +kernel
  exact (parseResponse_selects_least_viable hinv huse (by decide +kernel) hk).2.1 (by decide)
    (by decide +kernel)

end Selection

/-! ## What a call consumes -/

/-- A byte string that is one complete frame the header stage accepts, and nothing more. -/
def IsFrame (cfg : Config) (serial : Nat) (F : List Byte) : Prop :=
  AcceptedHeader cfg serial F ∧ F.length = frameSizeOf F

instance (cfg : Config) (serial : Nat) (F : List Byte) : Decidable (IsFrame cfg serial F) :=
  inferInstanceAs (Decidable (_ ∧ _))

theorem IsFrame.complete {cfg : Config} {serial : Nat} {F : List Byte}
    (h : IsFrame cfg serial F) : CompleteFrame cfg serial F := ⟨h.1, Nat.le_of_eq h.2.symm⟩

section Boundary

variable {cfg : Config} {ctx : Context} {F t : List Byte}

/-- A frame at the front is selected at once. -/
theorem frameStart_frame {serial : Nat} (hF : IsFrame cfg serial F) (t : List Byte) :
    frameStart cfg serial (F ++ t) = 0 :=
  skip_eq_zero (Or.inr (Or.inr (hF.1.append t)))

/-- Nothing is skipped of a frame that has not arrived completely, and it is not answered. -/
theorem frame_at_front {serial : Nat} (hF : IsFrame cfg serial F) {front rest : List Byte}
    (hsplit : front ++ rest = F) :
    frameStart cfg serial front = 0 ∧ (rest ≠ [] → ¬CompleteFrame cfg serial front) := by
  have hstart := frameStart_frame hF []
  rw [List.append_nil, ← hsplit, frameStart_append] at hstart
  refine ⟨by omega, fun hrest hcomplete => ?_⟩
  have hsize := hF.2
  have hpos := List.length_pos_of_ne_nil hrest
  have hle := hcomplete.2
  rw [← hsplit, frameSizeOf_append hcomplete.1, List.length_append] at hsize
  omega

theorem parseResponse_frame (hinv : ctx.Inv cfg) (huse : ctx.inUse = true)
    (hF : IsFrame cfg ctx.serial F) (hcont : ctx.rxCbuffer.contents = F ++ t) :
    parseResponse cfg ctx = some ((pduResult ctx (packetOf F)).status,
      (pduResult ctx (packetOf F)).apply
        (ctx.taken 0 (getResponseHeaderSize (magicOf F)))) ∧
    ((pduResult ctx (packetOf F)).apply
      (ctx.taken 0 (getResponseHeaderSize (magicOf F)))).rxCbuffer.contents =
      (F ++ t).drop (getResponseHeaderSize (magicOf F) + (pduResult ctx (packetOf F)).consumed) := by
  have hstart : frameStart cfg ctx.serial ctx.rxCbuffer.contents = 0 := by
    rw [hcont]
    exact frameStart_frame hF t
  have hcomplete := hF.complete.append t
  have hdrop : ctx.rxCbuffer.contents.drop 0 = F ++ t := hcont
  have hmagic := magicOf_append t (two_le_of_magicOf hF.1.1)
  have hpacket := packetOf_append hF.complete t
  have hres := parseResponse_complete hinv huse hstart (Nat.zero_le _) hdrop hcomplete
  have hleft := contents_apply_taken hinv (Nat.zero_le _) hdrop hcomplete
  rw [hmagic, hpacket] at hres hleft
  exact ⟨hres, hleft⟩

/-- **The frame is consumed, and what follows it is left alone, exactly when** it is not a
successful response with an odd payload to a word read. -/
theorem parseResponse_consumes_frame_iff (hctx : Acquired cfg ctx) (hF : IsFrame cfg ctx.serial F)
    (hcont : ctx.rxCbuffer.contents = F ++ t) :
    (∃ status ctx', parseResponse cfg ctx = some (status, ctx') ∧ ctx'.rxCbuffer.contents = t) ↔
      ¬ OddWordPayload ctx (packetOf F) := by
  obtain ⟨hinv, huse⟩ := acquired_inv hctx
  obtain ⟨hres, hleft⟩ := parseResponse_frame hinv huse hF hcont
  have hlen := packetOf_length hF.complete
  have hsize := hF.2
  have hmin : FX5_RESP_PDU_HEADER_SIZE ≤ (packetOf F).length := by
    rw [hlen]
    exact hF.1.2.2.1
  rw [frameSizeOf] at hsize
  rw [pduResult_consumed hmin] at hleft
  constructor
  · rintro ⟨status, ctx', hres', ht⟩ hodd
    rw [hres] at hres'
    cases hres'
    rw [hleft, if_pos hodd] at ht
    have := congrArg List.length ht
    have hpayload := hodd.2.2.2
    rw [List.length_drop, List.length_append] at this
    omega
  · intro hodd
    refine ⟨_, _, hres, ?_⟩
    rw [hleft, if_neg hodd, hlen, ← hsize, List.drop_left]

end Boundary

/-! ## The exception -/

/-- A 3E response with end code 0 and three payload bytes. -/
def oddFrame : List Byte :=
  [0xD0, 0x00, 0x00, 0xFF, 0xFF, 0x03, 0x00, 0x05, 0x00, 0x00, 0x00, 0x01, 0x02, 0x03]

/-- One word read is active, and the odd frame has arrived. -/
def oddContext : Context :=
  contextAfter .smallest
    [.acquire, .setRequest 0 .batchRead .D 100 1, .feedResponseBytes 0 (some oddFrame) 14]

theorem oddContext_acquired : Acquired .smallest oddContext :=
  acquired_contextAfter (by decide +kernel)

/-- The payload of the odd frame is still there after the call. -/
theorem odd_payload_stays_in_buffer :
    ¬ ∀ (cfg : Config) (ctx : Context) (F t : List Byte), Acquired cfg ctx →
      IsFrame cfg ctx.serial F → ctx.rxCbuffer.contents = F ++ t →
      ∃ status ctx', parseResponse cfg ctx = some (status, ctx') ∧
        ctx'.rxCbuffer.contents = t := by
  intro hall
  obtain ⟨status, ctx', hres, hleft⟩ := hall .smallest oddContext oddFrame [] oddContext_acquired
    (by decide +kernel) (by decide +kernel)
  have hreal : (parseResponse .smallest oddContext).map (fun r => r.2.rxCbuffer.contents) =
      some [0x01, 0x02, 0x03] := by decide +kernel
  rw [hres, Option.map_some, hleft] at hreal
  cases hreal

theorem consumes_frame_iff_oddFrame :
    (∃ status ctx', parseResponse .smallest oddContext = some (status, ctx') ∧
      ctx'.rxCbuffer.contents = []) ↔ ¬ OddWordPayload oddContext (packetOf oddFrame) :=
  parseResponse_consumes_frame_iff oddContext_acquired (by decide +kernel) (by decide +kernel)

end Fx5
