import Fx5Slmp.Script
import Fx5Slmp.ClientParserBounds
import Fx5Slmp.Pool

/-!
# Scripts line by line

A script is meant to be a list of lines, one command each.  The loop reads pieces of at most 511
characters instead: a longer line comes in several pieces, and each of them is taken for a line.

* `scriptText_pieces` — of a line that has a text, some piece has one;
* `readWhole_of_length_le`, `readWhole_iff` — a line of at most 511 characters is read whole, and
  so is a longer one that is blank outside one piece or has a text in none;
* `script_line_by_line` — a script runs line by line as far as the lines it comes to are read
  whole, and these are the scripts that hand over their lines.
-/

set_option autoImplicit false

namespace Fx5

open CText StoppingRun

/-! ## Lines -/

/-- The texts of the lines, in order. -/
def lineTexts (text : List Char) : List (List Char) := (text.splitOn '\n').filterMap scriptText

/-- The texts that the loop finds in a script, in order. -/
def handedOver (text : List Char) : List (List Char) := (pieces 510 text).filterMap scriptText

/-- The loop finds nothing in the line but its text. -/
def ReadWhole (line : List Char) : Prop := handedOver line = (scriptText line).toList

instance (line : List Char) : Decidable (ReadWhole line) :=
  inferInstanceAs (Decidable (_ = _))

/-- The lines that a run comes to are read whole, where the text of each is run as it is. -/
def ReadsWholeLines (cfg : Config) (platform : Platform) (transport : Transport)
    (text : List Char) (app : ClientApp) : Prop :=
  ReachesGood (runText cfg platform transport) (fun line => (scriptText line).toList) ReadWhole
    (text.splitOn '\n') app

/-! ## Texts in pieces -/

/-- The line is skipped, or its text is what is left of the string. -/
theorem scriptText_eq (line : List Char) :
    scriptText line =
      if peek (skipSpaces line) = '\x00' ∨ peek (skipSpaces line) = '#' then none
      else some (trim (cstr line)) := by
  unfold scriptText
  simp only [skipSpaces_trimRight, peek_trim_cstr, Bool.or_eq_true, decide_eq_true_eq]

theorem scriptText_nil : scriptText [] = none := rfl

/-- The line break at the end of a line belongs to no text. -/
theorem scriptText_break (a : List Char) : scriptText (a ++ ['\n']) = scriptText a := by
  unfold scriptText
  simp only [skipSpaces_trimRight, trim_cstr_break]

/-- **Of a line that has a text**, some piece has one. -/
theorem scriptText_pieces {line text : List Char} (hline : '\n' ∉ line)
    (h : scriptText line = some text) : handedOver line ≠ [] := by
  induction hlen : line.length using Nat.strong_induction_on generalizing line text with
  | _ len ih =>
    have hne : line ≠ [] := by
      rintro rfl
      rw [scriptText_nil] at h
      cases h
    by_cases hfit : line.length ≤ 511
    · rw [handedOver, pieces_of_length_le hline hfit hne, List.filterMap_cons, h]
      exact List.cons_ne_nil _ _
    -- the first piece has a text, or is blank
    rw [handedOver, pieces_cut hline (by omega), List.filterMap_cons]
    by_cases hblank : ∀ c ∈ line.take 511, isSpace c = true
    · have hskip : skipSpaces line = skipSpaces (line.drop 511) := by
        rw [← skipSpaces_append hblank (line.drop 511), List.take_append_drop]
      have hrest : ∃ text', scriptText (line.drop 511) = some text' := by
        rw [scriptText_eq, hskip] at h
        rw [scriptText_eq]
        split at h
        · cases h
        · rename_i hkeep
          exact ⟨_, if_neg hkeep⟩
      obtain ⟨text', htext'⟩ := hrest
      have hkept := ih _ (by rw [List.length_drop]; omega)
        (fun hmem => hline (List.mem_of_mem_drop hmem)) htext' rfl
      cases scriptText (line.take 511) with
      | none => exact hkept
      | some _ => exact List.cons_ne_nil _ _
    · have hfirst : skipSpaces (line.take 511) ≠ [] := by
        rw [ne_eq, skipSpaces, List.dropWhile_eq_nil_iff]
        exact hblank
      have hpeek : peek (skipSpaces (line.take 511)) = peek (skipSpaces line) := by
        obtain ⟨spaces, htake, hspaces⟩ := exists_spaces (line.take 511)
        have hwhole : line = spaces ++ (skipSpaces (line.take 511) ++ line.drop 511) := by
          rw [← List.append_assoc, ← htake, List.take_append_drop]
        have hnot : isSpace (peek (skipSpaces (line.take 511) ++ line.drop 511)) = false := by
          rw [peek_append hfirst]
          exact not_space_skipSpaces _
        rw [hwhole, skipSpaces_append hspaces, skipSpaces_of_not_space hnot, ← hwhole,
          peek_append hfirst]
      rw [scriptText_eq] at h
      rw [scriptText_eq, hpeek]
      split at h
      · cases h
      · rename_i hkeep
        rw [if_neg hkeep]
        exact List.cons_ne_nil _ _

/-- **A line that fits** is read whole. -/
theorem readWhole_of_length_le {line : List Char} (hline : '\n' ∉ line) (h : line.length ≤ 511) :
    ReadWhole line := by
  by_cases hne : line = []
  · rw [hne, ReadWhole, handedOver, pieces_nil]
    rfl
  · rw [ReadWhole, handedOver, pieces_of_length_le hline h hne, List.filterMap_cons]
    cases scriptText line <;> rfl

/-- A text is what is left of the string. -/
theorem scriptText_congr {a b : List Char} (h : trim (cstr a) = trim (cstr b)) :
    scriptText a = scriptText b := by
  rw [scriptText_eq, scriptText_eq, ← peek_trim_cstr, ← peek_trim_cstr, h]

theorem scriptText_blank {a : List Char} (h : ∀ c ∈ a, isSpace c = true) : scriptText a = none := by
  have hskip : skipSpaces a = [] := List.dropWhile_eq_nil_iff.mpr h
  rw [scriptText_eq, hskip]
  exact if_pos (Or.inl rfl)

theorem text_of_scriptText {line text : List Char} (h : scriptText line = some text) :
    trim (cstr line) = text := by
  rw [scriptText_eq] at h
  split at h
  · cases h
  · exact Option.some.inj h

/-- A line in which every piece is skipped has no text. -/
theorem readWhole_of_skipped {line : List Char} (hline : '\n' ∉ line)
    (h : ∀ piece ∈ pieces 510 line, scriptText piece = none) : ReadWhole line := by
  have hnone : handedOver line = [] := List.filterMap_eq_nil_iff.mpr h
  rw [ReadWhole, hnone]
  cases htext : scriptText line with
  | none => rfl
  | some text => exact absurd hnone (scriptText_pieces hline htext)

section Plain

variable {line piece : List Char} {before after : List (List Char)}

theorem cstr_piece (hnul : '\x00' ∉ line) (hmem : piece ∈ pieces 510 line) :
    cstr piece = piece := by
  refine cstr_of_plain fun c hc h => hnul ?_
  rw [← @pieces_flatten 510 line]
  exact List.mem_flatten.mpr ⟨piece, hmem, h ▸ hc⟩

theorem cstr_line (hnul : '\x00' ∉ line) : cstr line = line :=
  cstr_of_plain fun _ hc h => hnul (h ▸ hc)

/-- A line with the text of one of its pieces is blank outside it. -/
theorem blank_of_text {text : List Char} (hnul : '\x00' ∉ line)
    (hsplit : pieces 510 line = before ++ piece :: after) (hline : scriptText line = some text)
    (hpiece : scriptText piece = some text) :
    ∀ c ∈ before.flatten ++ after.flatten, isSpace c = true := by
  have hmem : piece ∈ pieces 510 line := by
    rw [hsplit]
    exact List.mem_append_right _ List.mem_cons_self
  have hsame : trim line = trim piece := by
    rw [← cstr_line hnul, ← cstr_piece hnul hmem, text_of_scriptText hline,
      text_of_scriptText hpiece]
  -- the line has as many characters that are not blank as the piece
  have hcount := countP_trim line
  rw [hsame, countP_trim, ← @pieces_flatten 510 line, hsplit, List.flatten_append,
    List.flatten_cons, List.countP_append, List.countP_append] at hcount
  have hzero : (before.flatten ++ after.flatten).countP (fun c => !isSpace c) = 0 := by
    rw [List.countP_append]
    omega
  intro c hc
  simpa using List.countP_eq_zero.mp hzero c hc

/-- A line that is blank outside one piece has the text of this piece. -/
theorem readWhole_of_blank (hnul : '\x00' ∉ line)
    (hsplit : pieces 510 line = before ++ piece :: after)
    (hblank : ∀ c ∈ before.flatten ++ after.flatten, isSpace c = true) : ReadWhole line := by
  have hbefore : ∀ c ∈ before.flatten, isSpace c = true := fun c hc =>
    hblank c (List.mem_append_left _ hc)
  have hafter : ∀ c ∈ after.flatten, isSpace c = true := fun c hc =>
    hblank c (List.mem_append_right _ hc)
  have hnone {pieces : List (List Char)} (h : ∀ c ∈ pieces.flatten, isSpace c = true) :
      pieces.filterMap scriptText = [] :=
    List.filterMap_eq_nil_iff.mpr fun p hp =>
      scriptText_blank fun c hc => h c (List.mem_flatten.mpr ⟨p, hp, hc⟩)
  have hmem : piece ∈ pieces 510 line := by
    rw [hsplit]
    exact List.mem_append_right _ List.mem_cons_self
  have hflat : line = before.flatten ++ (piece ++ after.flatten) := by
    rw [← List.flatten_cons, ← List.flatten_append, ← hsplit, pieces_flatten]
  have htrim : trim line = trim piece := by
    rw [hflat, trim, skipSpaces_append hbefore, ← trim, trim_append hafter]
  have htext : scriptText line = scriptText piece := by
    refine scriptText_congr ?_
    rw [cstr_line hnul, cstr_piece hnul hmem, htrim]
  rw [ReadWhole, handedOver, htext, hsplit, List.filterMap_append, List.filterMap_cons,
    hnone hbefore, hnone hafter]
  cases scriptText piece <;> rfl

/-- **What a line that is read whole looks like**: no piece of it has a text, or it is blank outside
one of them. -/
theorem readWhole_iff (hline : '\n' ∉ line) (hnul : '\x00' ∉ line) :
    ReadWhole line ↔ (∀ piece ∈ pieces 510 line, scriptText piece = none) ∨
      ∃ before piece after, pieces 510 line = before ++ piece :: after ∧
        ∀ c ∈ before.flatten ++ after.flatten, isSpace c = true := by
  constructor
  · intro h
    rw [ReadWhole, handedOver] at h
    cases htext : scriptText line with
    | none =>
      rw [htext] at h
      exact Or.inl (List.filterMap_eq_nil_iff.mp h)
    | some text =>
      rw [htext] at h
      obtain ⟨before, piece, after, hsplit, _, hpiece, _⟩ := List.filterMap_eq_cons_iff.mp h
      exact Or.inr ⟨before, piece, after, hsplit, blank_of_text hnul hsplit htext hpiece⟩
  · rintro (h | ⟨before, piece, after, hsplit, hblank⟩)
    · exact readWhole_of_skipped hline h
    · exact readWhole_of_blank hnul hsplit hblank

end Plain

/-- A line hands over at least its text. -/
theorem length_handedOver {line : List Char} (hline : '\n' ∉ line) :
    (scriptText line).toList.length ≤ (handedOver line).length := by
  cases h : scriptText line with
  | none => exact Nat.zero_le _
  | some text => exact List.length_pos_of_ne_nil (scriptText_pieces hline h)

/-- A script hands over what its lines hand over. -/
theorem handedOver_lines (text : List Char) :
    handedOver text = (text.splitOn '\n').flatMap handedOver :=
  kept_pieces (fun a _ => scriptText_break a) scriptText_nil text

theorem lineTexts_lines (text : List Char) :
    lineTexts text = (text.splitOn '\n').flatMap fun line => (scriptText line).toList := by
  rw [lineTexts, List.filterMap_eq_flatMap_toList]

theorem handedOver_of_lines_fit {text : List Char}
    (h : ∀ line ∈ text.splitOn '\n', line.length ≤ 511) : handedOver text = lineTexts text :=
  kept_lines (fun a _ => scriptText_break a) scriptText_nil h

/-! ## Scripts -/

/-- **A script runs line by line** as far as the lines it comes to are read whole; and it hands over
its lines to the parser exactly when every line is read whole. -/
theorem script_line_by_line (cfg : Config) (platform : Platform) (text : List Char) :
    (∀ (transport : Transport) (app : ClientApp),
      ReadsWholeLines cfg platform transport text app →
        (scriptLoop cfg platform transport 0 text app).map (·.ended) =
          runTexts cfg platform transport (lineTexts text) app) ∧
    (handedOver text = lineTexts text ↔ ∀ line ∈ text.splitOn '\n', ReadWhole line) := by
  rw [lineTexts_lines]
  constructor
  · intro transport app h
    rw [scriptLoop_texts, ← handedOver, handedOver_lines]
    exact run_flatMap_congr h
  · rw [handedOver_lines]
    exact flatMap_eq_iff fun line hmem => length_handedOver (break_not_mem_line hmem)

/-- The client after its start, with a connection. -/
def startedApp : ClientApp := ⟨configInit, contextAfter .smallest [.acquire], []⟩

/-- A peer that never answers. -/
def silentPeer : Transport := fun _ => ⟨true, [], [.timeout]⟩

/-- A comment, a command and a quit, before a line that is not reached. -/
theorem short_script_line_by_line :
    (scriptLoop .smallest lp64 silentPeer 0 "# gateway\nheader 3e\nquit\nget D0".toList
        startedApp).map (·.ended) =
      runTexts .smallest lp64 silentPeer ["header 3e".toList, "quit".toList, "get D0".toList]
        startedApp :=
  (script_line_by_line .smallest lp64 "# gateway\nheader 3e\nquit\nget D0".toList).1 silentPeer
    startedApp (reachesGood_of_forall (fun line hmem =>
      readWhole_of_length_le (break_not_mem_line hmem) (by
        revert line
        decide +kernel)) _)

/-- A comment of 511 characters, and a command behind it in the same line. -/
def longComment : List Char := '#' :: List.replicate 510 '-' ++ "set D0=1".toList

/-- The tail of a comment is executed. -/
theorem comment_tail_executed : ¬∀ (cfg : Config) (platform : Platform) (transport : Transport)
    (text : List Char) (app : ClientApp),
    (scriptLoop cfg platform transport 0 text app).map (·.ended) =
      runTexts cfg platform transport (lineTexts text) app := by
  intro h
  have hbreak : '\n' ∉ longComment := by decide +kernel
  have hcut : pieces 510 longComment = ['#' :: List.replicate 510 '-', "set D0=1".toList] := by
    rw [pieces_cut hbreak (by decide +kernel), pieces_of_length_le]
    all_goals decide +kernel
  have htexts : (pieces 510 longComment).filterMap scriptText = ["set D0=1".toList] := by
    rw [hcut]
    decide +kernel
  have hlines : lineTexts longComment = [] := by decide +kernel
  have hrun := h .smallest lp64 silentPeer longComment startedApp
  rw [scriptLoop_texts, htexts, hlines] at hrun
  have hcount := congrArg (Option.map (·.outputs.length)) hrun
  revert hcount
  decide +kernel

end Fx5
