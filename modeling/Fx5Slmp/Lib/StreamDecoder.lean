import Fx5Slmp.Lib.StreamScan

/-!
# Decoding a stream of messages

A receiver scans its input for a place where a message can start and reads the message there, with a
state that the messages may change; what is left when no whole message is there waits for more
input.

* `decode_append` — **decoding commutes with arrival**: what is decoded of the first part is not
  decoded differently when the rest is there too;
* `decodePieces_eq` — input that comes in pieces is decoded like the whole;
* `decode_message` — a message behind input that is skipped is decoded, and decoding goes on behind
  it;
* `decode_waits` — without a message all that a message could start with is left;
* `decode_messages` — messages one behind the other are decoded one by one.
-/

set_option autoImplicit false

namespace StreamDecoder

open StreamScan

variable {α σ ω : Type}

/-- Where a message can start, and how one is read at the front of the input: what it says, the
state behind it and its length. -/
structure Format (α σ ω : Type) where
  start : List α → Prop
  decidableStart : DecidablePred start
  read : σ → List α → Option (ω × σ × Nat)
  persistent : Persistent start
  starts : ∀ {s l r}, read s l = some r → start l
  size : ∀ {s l o s' n}, read s l = some (o, s', n) → 0 < n ∧ n ≤ l.length
  extend : ∀ {s l r} (t : List α), read s l = some r → read s (l ++ t) = some r

instance (F : Format α σ ω) : DecidablePred F.start := F.decidableStart

/-- What was decoded, the state behind it, and the input that waits for more. -/
structure Decoded (α σ ω : Type) where
  outputs : List ω
  state : σ
  left : List α

/-- More was decoded before. -/
def Decoded.after (earlier : List ω) (r : Decoded α σ ω) : Decoded α σ ω :=
  { r with outputs := earlier ++ r.outputs }

theorem Decoded.after_after (a b : List ω) (r : Decoded α σ ω) :
    (r.after b).after a = r.after (a ++ b) := by
  rw [Decoded.after, Decoded.after, Decoded.after, List.append_assoc]

/-- The input from the first place where a message can start. -/
def Format.front (F : Format α σ ω) (l : List α) : List α := l.drop (skip F.start l)

theorem Format.front_length_le (F : Format α σ ω) (l : List α) :
    (F.front l).length ≤ l.length := by
  rw [Format.front, List.length_drop]
  exact Nat.sub_le _ _

/-- All messages of the input. -/
def decode (F : Format α σ ω) (s : σ) (l : List α) : Decoded α σ ω :=
  match _h : F.read s (F.front l) with
  | none => ⟨[], s, F.front l⟩
  | some (o, s', n) => (decode F s' ((F.front l).drop n)).after [o]
termination_by l.length
decreasing_by
  obtain ⟨hpos, hle⟩ := F.size _h
  have hfront := F.front_length_le l
  rw [List.length_drop]
  omega

/-- Input in pieces; what is left of one piece waits for the next. -/
def decodePieces (F : Format α σ ω) (s : σ) (left : List α) : List (List α) → Decoded α σ ω
  | [] => ⟨[], s, left⟩
  | piece :: pieces =>
    let r := decode F s (left ++ piece)
    (decodePieces F r.state r.left pieces).after r.outputs

section Decode

variable {F : Format α σ ω} {s s' : σ} {l t : List α} {o : ω} {n : Nat}

theorem decode_of_none (h : F.read s (F.front l) = none) : decode F s l = ⟨[], s, F.front l⟩ := by
  rw [decode]
  split
  · rfl
  · rename_i hsome
    rw [h] at hsome
    cases hsome

theorem decode_of_some (h : F.read s (F.front l) = some (o, s', n)) :
    decode F s l = (decode F s' ((F.front l).drop n)).after [o] := by
  rw [decode]
  split
  · rename_i hnone
    rw [h] at hnone
    cases hnone
  · rename_i hsome
    rw [h] at hsome
    cases hsome
    rfl

/-- What is in front of the first place where a message can start is not looked at. -/
theorem decode_congr {l' : List α} (h : F.front l = F.front l') : decode F s l = decode F s l' := by
  cases hread : F.read s (F.front l) with
  | none => rw [decode_of_none hread, h, ← decode_of_none (h ▸ hread)]
  | some r =>
    obtain ⟨o, s', n⟩ := r
    rw [decode_of_some hread, h, ← decode_of_some (h ▸ hread)]

/-- The front of what is left and more input is the front of all of it. -/
theorem front_append (F : Format α σ ω) (l t : List α) :
    F.front (F.front l ++ t) = F.front (l ++ t) := by
  have hle := skip_le_length F.start l
  rw [Format.front, Format.front, Format.front, skip_append F.persistent l t, ← List.drop_drop,
    List.drop_append_of_le_length hle]

/-- **Decoding commutes with arrival.** -/
theorem decode_append (F : Format α σ ω) (s : σ) (l t : List α) :
    decode F s (l ++ t) =
      (decode F (decode F s l).state ((decode F s l).left ++ t)).after (decode F s l).outputs := by
  induction hlen : l.length using Nat.strongRecOn generalizing s l with
  | _ len ih =>
    cases hread : F.read s (F.front l) with
    | none =>
      -- the scan goes on where it stopped
      rw [decode_of_none hread]
      exact decode_congr (front_append F l t).symm
    | some r =>
      -- the message is read again, and what is behind it is shorter
      obtain ⟨o, s', n⟩ := r
      obtain ⟨hpos, hle⟩ := F.size hread
      have hstart : F.front (F.front l ++ t) = F.front l ++ t := by
        rw [Format.front, skip_eq_zero (F.starts (F.extend t hread)), List.drop_zero]
      have hfront : F.front (l ++ t) = F.front l ++ t := by rw [← front_append, hstart]
      have hshort := F.front_length_le l
      have hrest := ih _ (by rw [List.length_drop]; omega) s' ((F.front l).drop n) rfl
      rw [decode_of_some hread, decode_of_some (by rw [hfront]; exact F.extend t hread), hfront,
        List.drop_append_of_le_length hle, hrest, Decoded.after_after]
      rfl

/-- **Input in pieces** is decoded like the whole. -/
theorem decodePieces_eq (F : Format α σ ω) (s : σ) (left piece : List α)
    (pieces : List (List α)) :
    decodePieces F s left (piece :: pieces) =
      decode F s (left ++ (piece :: pieces).flatten) := by
  induction pieces generalizing s left piece with
  | nil =>
    rw [decodePieces, decodePieces, List.flatten_cons, List.flatten_nil, List.append_nil]
    simp only [Decoded.after, List.append_nil]
  | cons next pieces ih =>
    have hflat : left ++ (piece :: next :: pieces).flatten =
        left ++ piece ++ (next :: pieces).flatten := by
      rw [List.flatten_cons, List.append_assoc]
    rw [decodePieces, hflat, decode_append F s (left ++ piece)]
    simp only [ih]

/-- **A message** behind input that is skipped. -/
theorem decode_message {g m : List α} (hskip : skip F.start (g ++ (m ++ t)) = g.length)
    (hread : F.read s m = some (o, s', m.length)) :
    decode F s (g ++ (m ++ t)) = (decode F s' t).after [o] := by
  have hfront : F.front (g ++ (m ++ t)) = m ++ t := by
    rw [Format.front, hskip, List.drop_left]
  rw [decode_of_some (by rw [hfront]; exact F.extend t hread), hfront, List.drop_left]

/-- **Without a message** the input waits. -/
theorem decode_waits (h : ∀ i, F.read s (l.drop i) = none) :
    decode F s l = ⟨[], s, F.front l⟩ :=
  decode_of_none (h _)

theorem decode_nil (F : Format α σ ω) (s : σ) : decode F s [] = ⟨[], s, []⟩ := by
  have hfront : F.front [] = [] := List.drop_nil
  have hnone : F.read s (F.front []) = none := by
    cases hread : F.read s (F.front []) with
    | none => rfl
    | some r =>
      obtain ⟨hpos, hle⟩ := F.size hread
      rw [hfront, List.length_nil] at hle
      omega
  rw [decode_of_none hnone, hfront]

/-- **Whole messages** one behind the other are decoded one by one, and what is behind them waits. -/
theorem decode_messages {ms : List (List α)} {os : List ω}
    (h : List.Forall₂ (fun m o => F.read s m = some (o, s, m.length)) ms os)
    (hleft : F.read s (F.front l) = none) :
    decode F s (ms.flatten ++ l) = ⟨os, s, F.front l⟩ := by
  induction h with
  | nil => exact decode_of_none hleft
  | @cons m o ms os hread _ ih =>
    have hstart : skip F.start ([] ++ (m ++ (ms.flatten ++ l))) = ([] : List α).length :=
      skip_eq_zero (F.starts (F.extend (ms.flatten ++ l) hread))
    have hrest := decode_message hstart hread
    rw [List.nil_append] at hrest
    rw [List.flatten_cons, List.append_assoc, hrest, ih]
    rfl

end Decode

end StreamDecoder
