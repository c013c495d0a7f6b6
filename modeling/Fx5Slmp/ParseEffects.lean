import Fx5Slmp.FrameBoundary

/-!
# What a call of `fx5_parse_response` leaves alone

* `parseResponse_outcome` — the three outcomes of a call with the context each one leaves;
* `unsuccessful_parse_disturbs_nothing` — a call that does not succeed keeps the transaction,
  and asking again for more bytes changes nothing;
* `discards_within_limit_iff` — the number of bytes a call discards as garbage is within
  `FX5_RESYNC_LIMIT` exactly if the least viable index of the buffer is.
-/

set_option autoImplicit false

namespace Fx5

section Effects

variable {cfg : Config} {ctx : Context}

/-- **The outcomes of a call** and the context each leaves behind. -/
theorem parseResponse_outcome (hinv : ctx.Inv cfg) (huse : ctx.inUse = true) {k : Nat}
    (hk : frameStart cfg ctx.serial ctx.rxCbuffer.contents = k) {b : List Byte}
    (hb : ctx.rxCbuffer.contents.drop k = b) :
    (FX5_RESYNC_LIMIT < k ∧ parseResponse cfg ctx =
      some (.errResync, ctx.taken (resyncEnd FX5_RESYNC_LIMIT ctx.rxCbuffer.contents) 0)) ∨
    (k ≤ FX5_RESYNC_LIMIT ∧ ¬ CompleteFrame cfg ctx.serial b ∧
      parseResponse cfg ctx = some (.errNeedMore, ctx.taken k 0)) ∨
    (k ≤ FX5_RESYNC_LIMIT ∧ CompleteFrame cfg ctx.serial b ∧
      parseResponse cfg ctx = some ((pduResult ctx (packetOf b)).status,
        (pduResult ctx (packetOf b)).apply
          (ctx.taken k (getResponseHeaderSize (magicOf b))))) := by
  subst hb
  rcases Nat.lt_or_ge FX5_RESYNC_LIMIT k with hlimit | hlimit
  · exact Or.inl ⟨hlimit, parseResponse_resync_exact hinv huse hk hlimit⟩
  · by_cases hcomplete : CompleteFrame cfg ctx.serial (ctx.rxCbuffer.contents.drop k)
    · exact Or.inr (Or.inr ⟨hlimit, hcomplete,
        parseResponse_complete hinv huse hk hlimit rfl hcomplete⟩)
    · exact Or.inr (Or.inl ⟨hlimit, hcomplete, parseResponse_needMore hinv huse hk hlimit hcomplete⟩)

theorem frameStart_le_length {k : Nat} {serial : Nat} {b : List Byte}
    (hk : frameStart cfg serial b = k) : k ≤ b.length := hk ▸ StreamScan.skip_le_length _ _

/-! ## Calls that do not succeed -/

/-- A packet that is not answered with success stores no value. -/
theorem pduResult_values (ctx : Context) (packet : List Byte)
    (h : (pduResult ctx packet).status ≠ .ok) : (pduResult ctx packet).values = ctx.values := by
  unfold pduResult payloadResult at h ⊢
  simp only at h ⊢
  split
  · rfl
  split
  · split <;> rfl
  rename_i hcode hwrite
  rw [if_neg hcode, if_neg hwrite] at h
  split
  · rename_i hdevice
    rw [if_pos hdevice] at h
    unfold bitPayloadResult at h ⊢
    split
    · rfl
    · rename_i hok
      rw [if_neg hok] at h
      exact absurd rfl h
  · rename_i hdevice
    rw [if_neg hdevice] at h
    unfold wordPayloadResult at h ⊢
    split
    · rfl
    split
    · rfl
    · rename_i hodd hok
      rw [if_neg hodd, if_neg hok] at h
      exact absurd rfl h

/-- Right after a call that asked for more bytes, the same call asks again and discards
nothing. -/
theorem parseResponse_needMore_again (hinv : ctx.Inv cfg) (huse : ctx.inUse = true) {k : Nat}
    (hk : frameStart cfg ctx.serial ctx.rxCbuffer.contents = k)
    (h : ¬ CompleteFrame cfg ctx.serial (ctx.rxCbuffer.contents.drop k)) :
    parseResponse cfg (ctx.taken k 0) = some (.errNeedMore, (ctx.taken k 0).taken 0 0) := by
  have hle : k + 0 ≤ ctx.rxCbuffer.contents.length := frameStart_le_length hk
  have hcont : (ctx.taken k 0).rxCbuffer.contents = ctx.rxCbuffer.contents.drop k :=
    hinv.contents_taken hle
  have hstart : frameStart cfg (ctx.taken k 0).serial (ctx.taken k 0).rxCbuffer.contents = 0 := by
    rw [hcont, ← Nat.sub_self k]
    exact frameStart_drop hk (Nat.le_refl k)
  apply parseResponse_needMore (hinv.taken hle) huse hstart (Nat.zero_le _)
  rw [List.drop_zero, hcont]
  exact h

/-- **A call that does not succeed does not disturb the transaction.**  Values, request,
settings and serial numbers stay; if the call asks for more bytes or gives up, the answer fields
stay too and the buffer keeps a suffix; and a call repeated after asking for more bytes asks
again, with the same content. -/
theorem unsuccessful_parse_disturbs_nothing (hctx : Acquired cfg ctx) :
    ∃ status ctx', parseResponse cfg ctx = some (status, ctx') ∧
      (status ≠ .ok →
        ctx'.values = ctx.values ∧ ctx'.command = ctx.command ∧ ctx'.device = ctx.device ∧
        ctx'.address = ctx.address ∧ ctx'.networkSettings = ctx.networkSettings ∧
        ctx'.serial = ctx.serial ∧ ctx'.nextSerial = ctx.nextSerial) ∧
      (status = .errNeedMore ∨ status = .errResync →
        ctx'.count = ctx.count ∧ ctx'.responseCode = ctx.responseCode ∧
        ctx'.rxCbuffer.contents <:+ ctx.rxCbuffer.contents) ∧
      (status = .errNeedMore → ∃ ctx'', parseResponse cfg ctx' = some (.errNeedMore, ctx'') ∧
        ctx''.rxCbuffer.contents = ctx'.rxCbuffer.contents) := by
  obtain ⟨hinv, huse⟩ := acquired_inv hctx
  obtain ⟨k, hk⟩ : ∃ k, frameStart cfg ctx.serial ctx.rxCbuffer.contents = k := ⟨_, rfl⟩
  have hle := frameStart_le_length hk
  have hsuffix : ∀ j, j ≤ k →
      (ctx.taken j 0).rxCbuffer.contents <:+ ctx.rxCbuffer.contents := by
    intro j hj
    have hj' : j + 0 ≤ ctx.rxCbuffer.contents.length := Nat.le_trans hj hle
    rw [hinv.contents_taken hj']
    exact List.drop_suffix _ _
  rcases parseResponse_outcome hinv huse hk rfl with
    ⟨hlimit, hres⟩ | ⟨_, hnot, hres⟩ | ⟨_, _, hres⟩
  · refine ⟨_, _, hres, fun _ => ⟨rfl, rfl, rfl, rfl, rfl, rfl, rfl⟩,
      fun _ => ⟨rfl, rfl, hsuffix _ (resyncEnd_bounds hk hlimit).2⟩, ?_⟩
    intro h
    cases h
  · refine ⟨_, _, hres, fun _ => ⟨rfl, rfl, rfl, rfl, rfl, rfl, rfl⟩,
      fun _ => ⟨rfl, rfl, hsuffix k (Nat.le_refl k)⟩, fun _ => ?_⟩
    refine ⟨_, parseResponse_needMore_again hinv huse hk hnot, ?_⟩
    have hle₀ : k + 0 ≤ ctx.rxCbuffer.contents.length := hle
    exact (hinv.taken hle₀).contents_taken (Nat.zero_le _)
  · have hstatus := pduResult_status ctx (packetOf (ctx.rxCbuffer.contents.drop k))
    have hvalues := pduResult_values ctx (packetOf (ctx.rxCbuffer.contents.drop k))
    obtain ⟨r, hr⟩ : ∃ r, pduResult ctx (packetOf (ctx.rxCbuffer.contents.drop k)) = r := ⟨_, rfl⟩
    rw [hr] at hres hstatus hvalues
    refine ⟨_, _, hres, fun h => ⟨hvalues h, rfl, rfl, rfl, rfl, rfl, rfl⟩, ?_, ?_⟩
    · intro h
      rcases hstatus with h' | h' | h' <;> rw [h'] at h <;> rcases h with h | h <;> cases h
    · intro h
      rcases hstatus with h' | h' | h' <;> rw [h'] at h <;> cases h

/-- Garbage and a partial header: the call asks for more, and asks again. -/
theorem garbageContext_undisturbed :
    ∃ status ctx', parseResponse .smallest garbageContext = some (status, ctx') ∧
      (status = .errNeedMore ∨ status = .errResync → ctx'.count = 1) := by
  have hcount : garbageContext.count = 1 := by decide +kernel
  obtain ⟨status, ctx', hres, _, hkeep, _⟩ := unsuccessful_parse_disturbs_nothing garbageContext_acquired
  exact ⟨status, ctx', hres, fun h => (hkeep h).1.trans hcount⟩

/-! ## Discarded garbage -/

/-- The call discards the first `n` buffered bytes as garbage: it leaves exactly what is behind
them, or it hands the complete frame behind them to the payload stage. -/
def DiscardsGarbage (cfg : Config) (ctx : Context) (n : Nat) : Prop :=
  n ≤ ctx.rxCbuffer.contents.length ∧
  ((∃ status ctx', parseResponse cfg ctx = some (status, ctx') ∧
      (status = .errNeedMore ∨ status = .errResync) ∧
      ctx'.rxCbuffer.contents = ctx.rxCbuffer.contents.drop n) ∨
    (CompleteFrame cfg ctx.serial (ctx.rxCbuffer.contents.drop n) ∧
      parseResponse cfg ctx = parseResponsePdu cfg
        (ctx.taken n (getResponseHeaderSize (magicOf (ctx.rxCbuffer.contents.drop n))))
        (packetSizeOf (ctx.rxCbuffer.contents.drop n))))

/-- A call that leaves the content behind `j` bytes discards just these. -/
theorem DiscardsGarbage.eq_of_left {n j : Nat} (hinv : ctx.Inv cfg)
    (h : DiscardsGarbage cfg ctx n) {status : Status} (hj : j ≤ ctx.rxCbuffer.contents.length)
    (hstatus : status = .errNeedMore ∨ status = .errResync)
    (hres : parseResponse cfg ctx = some (status, ctx.taken j 0)) : n = j := by
  obtain ⟨hn, h⟩ := h
  have hj' : j + 0 ≤ ctx.rxCbuffer.contents.length := hj
  rcases h with ⟨status', ctx', hres', _, hleft⟩ | ⟨hcomplete, hres'⟩
  · rw [hres] at hres'
    cases hres'
    rw [hinv.contents_taken hj'] at hleft
    have hlen := congrArg List.length hleft
    simp only [List.length_drop] at hlen
    omega
  · rw [parseResponsePdu_taken hinv rfl hcomplete, hres] at hres'
    simp only [Option.some.injEq, Prod.mk.injEq] at hres'
    rcases pduResult_status ctx (packetOf (ctx.rxCbuffer.contents.drop n)) with h | h | h <;>
      rw [h] at hres' <;> rcases hstatus with rfl | rfl <;> cases hres'.1

/-- A call that hands over the frame behind `k` bytes discards just these. -/
theorem DiscardsGarbage.eq_of_frame {n k : Nat} (hinv : ctx.Inv cfg)
    (h : DiscardsGarbage cfg ctx n) {packet : List Byte} {headerSize : Nat}
    (hres : parseResponse cfg ctx = some ((pduResult ctx packet).status,
      (pduResult ctx packet).apply (ctx.taken k headerSize))) : n = k := by
  rcases h.2 with ⟨status, ctx', hres', hstatus, _⟩ | ⟨hcomplete, hres'⟩
  · rw [hres] at hres'
    simp only [Option.some.injEq, Prod.mk.injEq] at hres'
    rcases pduResult_status ctx packet with h | h | h <;> rw [h] at hres' <;>
      rcases hstatus with rfl | rfl <;> cases hres'.1
  · rw [parseResponsePdu_taken hinv rfl hcomplete, hres] at hres'
    simp only [Option.some.injEq, Prod.mk.injEq] at hres'
    exact (congrArg Context.resyncCounter hres'.2).symm

/-- How many bytes a call discards, by the least viable index. -/
theorem discardsGarbage_cases (hinv : ctx.Inv cfg) (huse : ctx.inUse = true) {k : Nat}
    (hk : frameStart cfg ctx.serial ctx.rxCbuffer.contents = k) :
    ∃ j, j ≤ k ∧ (j ≤ FX5_RESYNC_LIMIT ↔ k ≤ FX5_RESYNC_LIMIT) ∧ DiscardsGarbage cfg ctx j ∧
      ∀ n, DiscardsGarbage cfg ctx n → n = j := by
  have hle := frameStart_le_length hk
  rcases parseResponse_outcome hinv huse hk rfl with
    ⟨hlimit, hres⟩ | ⟨hlimit, hnot, hres⟩ | ⟨hlimit, hcomplete, hres⟩
  · obtain ⟨hlower, hupper⟩ := resyncEnd_bounds hk hlimit
    have hj' : resyncEnd FX5_RESYNC_LIMIT ctx.rxCbuffer.contents + 0 ≤
        ctx.rxCbuffer.contents.length := Nat.le_trans hupper hle
    refine ⟨_, hupper, by omega, ⟨hj', Or.inl ⟨_, _, hres, Or.inr rfl, ?_⟩⟩, fun n hn => ?_⟩
    · exact hinv.contents_taken hj'
    · exact hn.eq_of_left hinv hj' (Or.inr rfl) hres
  · have hle' : k + 0 ≤ ctx.rxCbuffer.contents.length := hle
    refine ⟨k, Nat.le_refl k, Iff.rfl, ⟨hle, Or.inl ⟨_, _, hres, Or.inl rfl, ?_⟩⟩, fun n hn => ?_⟩
    · exact hinv.contents_taken hle'
    · exact hn.eq_of_left hinv hle (Or.inl rfl) hres
  · refine ⟨k, Nat.le_refl k, Iff.rfl, ⟨hle, Or.inr ⟨hcomplete, ?_⟩⟩, fun n hn => ?_⟩
    · exact parseResponse_payload hinv huse hk hlimit rfl hcomplete
    · exact hn.eq_of_frame hinv hres

/-- **The discarded garbage is within the limit exactly if** the least viable index is; and no
call discards more than the bytes in front of that index. -/
theorem discards_within_limit_iff (hctx : Acquired cfg ctx) {k : Nat}
    (hk : LeastViable cfg ctx.serial ctx.rxCbuffer.contents k) :
    ((∃ n, n ≤ FX5_RESYNC_LIMIT ∧ DiscardsGarbage cfg ctx n) ↔ k ≤ FX5_RESYNC_LIMIT) ∧
      ∃ n, n ≤ k ∧ DiscardsGarbage cfg ctx n := by
  obtain ⟨hinv, huse⟩ := acquired_inv hctx
  obtain ⟨j, hjk, hlimit, hj, hunique⟩ := discardsGarbage_cases hinv huse (leastViable_iff.mp hk)
  refine ⟨⟨?_, fun h => ⟨j, hlimit.mpr h, hj⟩⟩, j, hjk, hj⟩
  rintro ⟨n, hn, hdiscards⟩
  rw [hunique n hdiscards] at hn
  exact hlimit.mp hn

/-- Three bytes of garbage are within the limit. -/
theorem garbageContext_within_limit :
    ∃ n, n ≤ FX5_RESYNC_LIMIT ∧ DiscardsGarbage .smallest garbageContext n := by
  have hk : LeastViable .smallest garbageContext.serial garbageContext.rxCbuffer.contents 3 := by
    decide +kernel
  exact (discards_within_limit_iff garbageContext_acquired hk).1.mpr (by decide)

/-- In the default configuration, 65 bytes have arrived that no frame can start with. -/
def floodedContext : Context :=
  contextAfter .default
    [.acquire, .setRequest 0 .batchRead .D 100 1,
      .feedResponseBytes 0 (some (List.replicate 65 0xAA)) 65]

/-- One call discards all 65 of them. -/
theorem flood_discarded_beyond_limit :
    Acquired .default floodedContext ∧
    floodedContext.rxCbuffer.contents = List.replicate 65 0xAA ∧
    (∃ ctx', parseResponse .default floodedContext = some (.errResync, ctx') ∧
      ctx'.rxCbuffer.contents = []) ∧
    ¬ ∃ n, n ≤ FX5_RESYNC_LIMIT ∧ DiscardsGarbage .default floodedContext n := by
  have hctx : Acquired .default floodedContext := acquired_contextAfter (by decide +kernel)
  obtain ⟨hinv, huse⟩ := acquired_inv hctx
  have hcont : floodedContext.rxCbuffer.contents = List.replicate 65 0xAA := by decide +kernel
  have hk : frameStart .default floodedContext.serial floodedContext.rxCbuffer.contents = 65 := by
    decide +kernel
  refine ⟨hctx, hcont, ?_, ?_⟩
  · obtain ⟨j, hj, hlimit, hres⟩ := parseResponse_resync hinv huse hk (by decide)
    have hlen : floodedContext.rxCbuffer.contents.length = 65 := by rw [hcont]; rfl
    have h64 : FX5_RESYNC_LIMIT = 64 := rfl
    refine ⟨_, hres, ?_⟩
    rw [hinv.contents_taken (by omega)]
    exact List.drop_eq_nil_of_le (by omega)
  · rintro ⟨n, hn, hdiscards⟩
    obtain ⟨j, _, hlimit, _, hunique⟩ := discardsGarbage_cases hinv huse hk
    rw [hunique n hdiscards] at hn
    exact absurd (hlimit.mp hn) (by decide)

end Effects

end Fx5
