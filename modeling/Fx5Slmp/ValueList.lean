import Fx5Slmp.Lib.TextFields
import Fx5Slmp.ClientParserBounds
import Fx5Slmp.TextToWire

/-!
# The value list of a set command

A value text is `item (',' item)*`, with white space around items and commas.  The list loop of
`fx5_client_parse_scalar_or_list` judges an item by the number that is left after `strtoul` and
the conversion to 32 bits, and a comma makes it look for another item without asking for one.

* `parseListItem_cases`, `parseListItem_read` — the item at a cursor is the first field of the
  text;
* `parseListLoop_cases` — the loop accepts the texts whose items it can read, a blank field
  behind the last comma left out;
* `parseScalarOrList_cases` — which value texts are accepted, and the values they leave;
* `value_list_accepted_iff` — they are the documented ones, except for a comma behind the last
  item and for numerals above 65535 whose reduced value is small.
-/

set_option autoImplicit false

namespace Fx5

open CheckedMem CText

/-! ## What a list is -/

/-- A numeral after `strtoul` and the conversion to `uint32_t`. -/
def reduced (platform : Platform) (n : Nat) : Nat := u32 (min n platform.ULONG_MAX)

/-- A value as the list loop takes it: `ValueText`, but with the reduced number. -/
inductive ReadText (platform : Platform) (device : Device) : List Char → Word → Prop where
  | numeral {text : List Char} {n : Nat} (h : IsNumeral 10 text n)
      (hn : reduced platform n ≤ 65535) :
      ReadText platform device text (BitVec.ofNat 16 (reduced platform n))
  | bool (b : Bool) (h : isBitDevice device = true) :
      ReadText platform device (if b then "true".toList else "false".toList) (if b then 1 else 0)

/-- A blank field at the end is left out. -/
def dropBlankLast : List (List Char) → List (List Char)
  | [] => []
  | [field] => if field = [] then [] else [field]
  | field :: next :: rest => field :: dropBlankLast (next :: rest)

/-- The items of a value text as the list loop finds them. -/
def listItems (text : List Char) : List (List Char) := dropBlankLast (fields ',' text)

/-- `item (',' item)*` with `1` or `count` items, and white space around items and commas. -/
structure IsValueList (device : Device) (count : Nat) (text : List Char) : Prop where
  items : ∀ field ∈ fields ',' text, ∃ v, ValueText device field v
  length : (fields ',' text).length = 1 ∨ (fields ',' text).length = count

/-- The text is accepted exactly when it is a value list. -/
def AcceptsExactly (cfg : Config) (platform : Platform) (device : Device) (count : Nat)
    (text : List Char) (cmd : ParsedCommand) : Prop :=
  ∃ ok cmd', parseScalarOrList cfg platform text device count cmd = some (ok, cmd') ∧
    (ok = true ↔ IsValueList device count text)

/-- A list of `1` or `count` items that would be one if it had no comma behind its last item,
or no numeral above 65535 whose reduced value is small. -/
structure SlipsThrough (platform : Platform) (device : Device) (count : Nat) (text : List Char) :
    Prop where
  items : ∀ field ∈ listItems text, ∃ v, ReadText platform device field v
  length : (listItems text).length = 1 ∨ (listItems text).length = count
  slip : listItems text ≠ fields ',' text ∨
    ∃ field ∈ listItems text, ∃ n, IsNumeral 10 field n ∧ 65535 < n

/-! ## Items -/

section Items

variable {platform : Platform} {device : Device}

theorem reduced_of_lt {n : Nat} (h : n < 4294967296) : reduced platform n = n := by
  have := platform.ulong_max_ge
  rw [reduced, Nat.min_eq_left (by omega), u32_of_lt h]

/-- A documented value is taken as it is. -/
theorem ValueText.read {text : List Char} {v : Word} (h : ValueText device text v) :
    ReadText platform device text v := by
  cases h with
  | bool b hbit => exact .bool b hbit
  | numeral hnum hn =>
    rename_i n
    have hsame : reduced platform n = n := reduced_of_lt (by omega)
    have hread : ReadText platform device text (BitVec.ofNat 16 (reduced platform n)) :=
      .numeral hnum (by omega)
    rw [hsame] at hread
    exact hread

/-- An item is a nonempty run of letters and digits. -/
theorem ReadText.plain {text : List Char} {v : Word} (h : ReadText platform device text v) :
    text ≠ [] ∧ ∀ c ∈ text, c.isAlphanum = true := by
  cases h with
  | bool b hbit =>
    refine ⟨?_, List.all_eq_true.mp ?_⟩
    · cases b <;> decide
    · cases b <;> decide
  | numeral hnum hn =>
    exact ⟨hnum.nonempty, fun c hc => isAlphanum_of_isDigitIn (hnum.digits c hc)⟩

/-- What ends an item: white space, a comma or the end of the text. -/
def EndsItem (rest : List Char) : Prop :=
  peek rest = '\x00' ∨ peek rest = ',' ∨ isSpace (peek rest) = true

theorem EndsItem.boundary {rest : List Char} (h : EndsItem rest) :
    isTokenBoundary (peek rest) = true := by
  rcases h with h | h | h
  · rw [h]
    decide
  · rw [h]
    decide
  · rw [isTokenBoundary, h]
    simp

theorem EndsItem.not_alphanum {rest : List Char} (h : EndsItem rest) :
    (peek rest).isAlphanum = false := by
  rw [← Bool.not_eq_true]
  intro halnum
  obtain ⟨hspace, _, _, hcomma, _, hnul⟩ := plain_of_isAlphanum halnum
  rcases h with h | h | h
  · exact hnul h
  · exact hcomma h
  · rw [hspace] at h
    cases h

/-- A boolean word in front of what ends it. -/
theorem parseBoolWord_ends (b : Bool) {rest : List Char} (hrest : EndsItem rest) :
    parseBoolWord ((if b then "true".toList else "false".toList) ++ rest) =
      some (b, if b then 4 else 5) := by
  have hboundary := hrest.boundary
  cases b with
  | true => exact if_pos (Bool.and_eq_true_iff.mpr ⟨rfl, hboundary⟩)
  | false =>
    have hnot : ¬(startsWith ("false".toList ++ rest) "true".toList &&
        isTokenBoundary (peek (("false".toList ++ rest).drop 4))) = true := by
      intro h
      exact Bool.false_ne_true (Bool.and_eq_true_iff.mp h).1
    exact (if_neg hnot).trans (if_pos (Bool.and_eq_true_iff.mpr ⟨rfl, hboundary⟩))

/-- **An item is read** in front of what ends it. -/
theorem parseListItem_read {text rest : List Char} {v : Word}
    (h : ReadText platform device text v) (hrest : EndsItem rest) :
    parseListItem platform device (text ++ rest) = some (v, rest) := by
  cases h with
  | bool b hbit =>
    rw [parseListItem, clientDeviceIsBit_eq, if_pos hbit, parseBoolWord_ends b hrest]
    cases b <;> rfl
  | numeral hnum hn =>
    rename_i n
    have hdigit : (peek (text ++ rest)).isDigit = true := by
      rw [← isDigitIn_ten]
      exact hnum.peek_append rest
    have hdigits : ∀ c ∈ text, c.isDigit = true := fun c hc => by
      rw [← isDigitIn_ten]
      exact hnum.digits c hc
    have hend : (peek rest).isDigit = false := by
      rw [← isDigitIn_ten, isDigitIn, hrest.not_alphanum, Bool.false_and]
    have hstop : rest.takeWhile Char.isDigit = [] ∧ rest.dropWhile Char.isDigit = rest := by
      cases rest with
      | nil => exact ⟨rfl, rfl⟩
      | cons c rest =>
        have hc : ¬c.isDigit = true := by simpa using hend
        exact ⟨List.takeWhile_cons_of_neg hc, List.dropWhile_cons_of_neg hc⟩
    have hcursor : parseUint32Cursor platform (text ++ rest) =
        some (reduced platform n, rest) := by
      rw [parseUint32Cursor_spec, if_pos hdigit, List.takeWhile_append_of_pos hdigits,
        List.dropWhile_append_of_pos hdigits, hstop.1, hstop.2, List.append_nil, hnum.value, reduced]
    rw [parseListItem, parseBoolWord_digit hdigit, ite_self, hcursor]
    simp only [Option.bind_eq_bind, Option.bind_some]
    rw [if_neg (by omega)]

/-- **What is read is an item** in front of the cursor. -/
theorem parseListItem_cases {p rest : List Char} {v : Word}
    (h : parseListItem platform device p = some (v, rest)) :
    ∃ text, p = text ++ rest ∧ ReadText platform device text v := by
  unfold parseListItem at h
  split at h
  · rename_i b len heq
    cases h
    split at heq
    · rename_i hbit
      obtain ⟨rest, hp, hdrop, _⟩ := parseBoolWord_cases heq
      rw [clientDeviceIsBit_eq] at hbit
      rw [hdrop]
      refine ⟨_, hp, ?_⟩
      cases b with
      | true => exact .bool true hbit
      | false => exact .bool false hbit
    · cases heq
  · obtain ⟨⟨number, rest'⟩, hnumber, h⟩ := Option.bind_eq_some_iff.mp h
    rw [parseUint32Cursor_spec] at hnumber
    split at hnumber
    · rename_i hd
      cases hnumber
      simp only at h
      split at h
      · cases h
      cases h
      have hnumeral : IsNumeral 10 (p.takeWhile Char.isDigit)
          (digitsValue 10 (p.takeWhile Char.isDigit)) := by
        refine ⟨?_, fun c hc => (isDigitIn_ten c).trans (List.mem_takeWhile_imp hc), rfl⟩
        cases p with
        | nil => exact absurd hd (by decide)
        | cons c p =>
          rw [List.takeWhile_cons_of_pos (show c.isDigit = true from hd)]
          exact List.cons_ne_nil _ _
      refine ⟨_, (List.takeWhile_append_dropWhile ..).symm, .numeral hnumeral ?_⟩
      rw [reduced]
      omega
    · cases hnumber

end Items

/-! ## Fields -/

section Fields

variable {platform : Platform} {device : Device}

theorem dropBlankLast_cons {field : List Char} {more : List (List Char)} (h : more ≠ []) :
    dropBlankLast (field :: more) = field :: dropBlankLast more := by
  cases more with
  | nil => exact absurd rfl h
  | cons next rest => rfl

theorem dropBlankLast_single {field : List Char} (h : field ≠ []) :
    dropBlankLast [field] = [field] := if_neg h

theorem listItems_nul {p : List Char} (h : peek p = '\x00') : listItems p = [] := by
  have hfields : fields ',' ([] ++ p) = [trim []] := fields_last (by simp) h
  rw [listItems, ← List.nil_append p, hfields]
  rfl

theorem listItems_skipSpaces (p : List Char) : listItems (skipSpaces p) = listItems p := by
  rw [listItems, fields_skipSpaces (by decide) (by decide), listItems]

/-- A text that does not begin with white space has an item, and it begins the text. -/
theorem listItems_cons {p : List Char} (hspace : isSpace (peek p) = false)
    (hnul : peek p ≠ '\x00') : ∃ field rest items, listItems p = field :: items ∧
      (∃ spaces, p = field ++ (spaces ++ rest) ∧ ∀ c ∈ spaces, isSpace c = true) ∧
      (peek rest = '\x00' ∨ peek rest = ',') := by
  obtain ⟨a, b, rfl, ha, hb⟩ := exists_field ',' p
  have hpad : ∃ spaces, a = trim a ++ spaces ∧ ∀ c ∈ spaces, isSpace c = true := by
    refine ⟨a.rtakeWhile isSpace, ?_, fun c hc => ?_⟩
    · have ha' : skipSpaces a = a := by
        cases a with
        | nil => rfl
        | cons c a => exact skipSpaces_of_not_space hspace
      rw [trim, ha', trimRight, List.rdropWhile_append_rtakeWhile]
    · rw [List.rtakeWhile, List.mem_reverse] at hc
      exact List.mem_takeWhile_imp hc
  obtain ⟨spaces, hspaces, hblank⟩ := hpad
  have hsplit : ∀ b, a ++ b = trim a ++ (spaces ++ b) := fun b => by
    rw [← List.append_assoc, ← hspaces]
  rcases hb with hb | ⟨b, rfl⟩
  · have hne : a ≠ [] := by
      rintro rfl
      exact hnul hb
    have hfirst : trim a ≠ [] := by
      refine trim_ne_nil hne ?_
      rwa [peek_append hne] at hspace
    refine ⟨trim a, b, [], ?_, ⟨spaces, hsplit b, hblank⟩, Or.inl hb⟩
    rw [listItems, fields_last ha hb, dropBlankLast_single hfirst]
  · refine ⟨trim a, ',' :: b, dropBlankLast (fields ',' b), ?_, ⟨spaces, hsplit _, hblank⟩,
      Or.inr rfl⟩
    rw [listItems, fields_cons ha (by decide), dropBlankLast_cons (fields_ne_nil _ _)]

/-- White space ends an item, and so does what may follow it. -/
theorem endsItem_spaces {spaces rest : List Char} (hspaces : ∀ c ∈ spaces, isSpace c = true)
    (hrest : peek rest = '\x00' ∨ peek rest = ',') : EndsItem (spaces ++ rest) := by
  cases spaces with
  | nil => exact hrest.imp_right Or.inl
  | cons c spaces => exact Or.inr (Or.inr (hspaces c List.mem_cons_self))

/-- What may follow an item is not skipped with the white space. -/
theorem skipSpaces_itemEnd {spaces rest : List Char} (hspaces : ∀ c ∈ spaces, isSpace c = true)
    (hrest : peek rest = '\x00' ∨ peek rest = ',') : skipSpaces (spaces ++ rest) = rest := by
  rw [skipSpaces_append hspaces]
  refine skipSpaces_of_not_space ?_
  rcases hrest with h | h
  · rw [h]
    decide
  · rw [h]
    decide

/-- The fields of a text behind an item that was read. -/
theorem fields_of_item {p rest : List Char} {v : Word}
    (h : parseListItem platform device p = some (v, rest)) :
    ∃ text, ReadText platform device text v ∧ p = text ++ rest ∧
      (peek (skipSpaces rest) = '\x00' → fields ',' p = [text]) ∧
      ∀ more, skipSpaces rest = ',' :: more → fields ',' p = text :: fields ',' more := by
  obtain ⟨text, rfl, hread⟩ := parseListItem_cases h
  obtain ⟨spaces, hrest, hspaces⟩ := exists_spaces rest
  have hplain := hread.plain.2
  have htrim : trim ([] ++ (text ++ spaces)) = text :=
    trim_pad (by simp) (fun c hc => (plain_of_isAlphanum (hplain c hc)).1) hspaces
  rw [List.nil_append] at htrim
  have hfield : ∀ c ∈ text ++ spaces, c ≠ ',' ∧ c ≠ '\x00' := by
    intro c hc
    rcases List.mem_append.mp hc with hc | hc
    · obtain ⟨_, _, _, hcomma, _, hnul⟩ := plain_of_isAlphanum (hplain c hc)
      exact ⟨hcomma, hnul⟩
    · refine ⟨?_, ne_nul_of_isSpace (hspaces c hc)⟩
      rintro rfl
      exact absurd (hspaces _ hc) (by decide)
  refine ⟨text, hread, rfl, fun hnul => ?_, fun more hmore => ?_⟩
  · rw [hrest, ← List.append_assoc, fields_last hfield hnul, htrim]
  · rw [hrest, hmore, ← List.append_assoc, fields_cons hfield (by decide), htrim]

/-- **The items of a text** behind an item that was read. -/
theorem listItems_of_item {p rest : List Char} {v : Word}
    (h : parseListItem platform device p = some (v, rest)) :
    ∃ text, ReadText platform device text v ∧
      (peek (skipSpaces rest) = '\x00' → listItems p = [text]) ∧
      (peek (skipSpaces rest) = ',' →
        listItems p = text :: listItems (skipSpaces ((skipSpaces rest).drop 1))) := by
  obtain ⟨text, hread, _, hend, hmore⟩ := fields_of_item h
  refine ⟨text, hread, fun hnul => ?_, fun hcomma => ?_⟩
  · rw [listItems, hend hnul, dropBlankLast_single hread.plain.1]
  · rw [listItems_skipSpaces, listItems, hmore _ (eq_cons_of_peek hcomma (by decide)),
      dropBlankLast_cons (fields_ne_nil _ _), listItems]

end Fields

/-! ## The list loop -/

section Loop

variable {cfg : Config} {platform : Platform} {device : Device}

/-- The items of a text are read with these values, and there is room for them. -/
def ReadsItems (platform : Platform) (device : Device) (text : List Char) (room : Nat)
    (values : List Word) : Prop :=
  List.Forall₂ (ReadText platform device) (listItems text) values ∧ values.length ≤ room

/-- A text without an item in front of its first comma is not read. -/
theorem not_readsItems {p : List Char} (hspace : isSpace (peek p) = false)
    (hnul : peek p ≠ '\x00')
    (h : ∀ v rest, parseListItem platform device p = some (v, rest) →
      peek (skipSpaces rest) ≠ '\x00' ∧ peek (skipSpaces rest) ≠ ',')
    (room : Nat) (values : List Word) : ¬ReadsItems platform device p room values := by
  rintro ⟨hitems, _⟩
  obtain ⟨field, rest, items, hlist, ⟨spaces, hp, hspaces⟩, hrest⟩ := listItems_cons hspace hnul
  rw [hlist] at hitems
  cases hitems with
  | cons hread _ =>
    have hitem := parseListItem_read hread (endsItem_spaces hspaces hrest)
    rw [← hp] at hitem
    obtain ⟨hn, hc⟩ := h _ _ hitem
    rw [skipSpaces_itemEnd hspaces hrest] at hn hc
    rcases hrest with h | h
    · exact hn h
    · exact hc h

/-- A text with an item is not read where there is no room. -/
theorem not_readsItems_full {p : List Char} (hspace : isSpace (peek p) = false)
    (hnul : peek p ≠ '\x00') (values : List Word) : ¬ReadsItems platform device p 0 values := by
  rintro ⟨hitems, hroom⟩
  obtain ⟨first, _, items, hfirst, _⟩ := listItems_cons hspace hnul
  rw [hfirst] at hitems
  cases hitems
  exact absurd hroom (by simp)

/-- The items behind a comma, and the one in front of it. -/
theorem ReadsItems.cons {p more text : List Char} {room : Nat} {v : Word} {values : List Word}
    (hlist : listItems p = text :: listItems more) (hread : ReadText platform device text v)
    (h : ReadsItems platform device more room values) :
    ReadsItems platform device p (room + 1) (v :: values) := by
  refine ⟨?_, Nat.succ_le_succ h.2⟩
  rw [hlist]
  exact .cons hread h.1

theorem ReadsItems.tail {p more text : List Char} {room : Nat} {values : List Word}
    (hlist : listItems p = text :: listItems more)
    (h : ReadsItems platform device p (room + 1) values) :
    ∃ rest, ReadsItems platform device more room rest := by
  obtain ⟨hitems, hroom⟩ := h
  rw [hlist] at hitems
  cases hitems with
  | cons _ htail => exact ⟨_, htail, Nat.le_of_succ_le_succ hroom⟩

/-- How the loop ends behind `before`, with `after` left to fill: it stores the values of all items,
or it fails on a text that cannot be read. -/
def LoopOutcome (cfg : Config) (platform : Platform) (device : Device) (p : List Char)
    (before after : List Word) : Prop :=
  (∃ values, ReadsItems platform device p after.length values ∧
    parseListLoop cfg platform device p before.length (before ++ after) =
      some (true, before.length + values.length,
        before ++ (values ++ after.drop values.length))) ∨
  (∃ count stored, parseListLoop cfg platform device p before.length (before ++ after) =
      some (false, count, stored) ∧
    stored.length = FX5_CLIENT_MAX_VALUES cfg ∧
    ∀ values, ¬ReadsItems platform device p after.length values)

/-- The loop at the end of the text, which is also the end of a list with a comma behind it. -/
theorem loopOutcome_nul {p : List Char} {before after : List Word} (hnul : peek p = '\x00') :
    LoopOutcome cfg platform device p before after := by
  refine Or.inl ⟨[], ⟨?_, Nat.zero_le _⟩, ?_⟩
  · rw [listItems_nul hnul]
    exact .nil
  · rw [parseListLoop, if_pos hnul]
    rfl

theorem loopOutcome_full {p : List Char} {before : List Word}
    (hlen : before.length = FX5_CLIENT_MAX_VALUES cfg) (hspace : isSpace (peek p) = false)
    (hnul : peek p ≠ '\x00') : LoopOutcome cfg platform device p before [] := by
  refine Or.inr ⟨before.length, before ++ [], ?_, ?_, not_readsItems_full hspace hnul⟩
  · rw [parseListLoop, if_neg hnul, if_pos (Nat.le_of_eq hlen.symm)]
  · rw [List.append_nil, hlen]

/-- The loop at a text without an item. -/
theorem loopOutcome_unread {p : List Char} {before after : List Word}
    (hlen : (before ++ after).length = FX5_CLIENT_MAX_VALUES cfg) (hpos : after ≠ [])
    (hspace : isSpace (peek p) = false) (hnul : peek p ≠ '\x00')
    (hitem : parseListItem platform device p = none) :
    LoopOutcome cfg platform device p before after := by
  have hroom : before.length < FX5_CLIENT_MAX_VALUES cfg := by
    rw [← hlen, List.length_append]
    exact Nat.lt_add_of_pos_right (List.length_pos_of_ne_nil hpos)
  refine Or.inr ⟨before.length, before ++ after, ?_, hlen, ?_⟩
  · rw [parseListLoop, if_neg hnul, if_neg (Nat.not_le_of_lt hroom)]
    split
    · rfl
    · rename_i hsome
      rw [hitem] at hsome
      cases hsome
  · refine not_readsItems hspace hnul (fun v rest h => ?_) _
    rw [hitem] at h
    cases h

/-- The loop at an item with no comma behind it. -/
theorem loopOutcome_last {p rest : List Char} {before after : List Word} {a v : Word}
    (hlen : (before ++ a :: after).length = FX5_CLIENT_MAX_VALUES cfg)
    (hspace : isSpace (peek p) = false) (hnul : peek p ≠ '\x00')
    (hitem : parseListItem platform device p = some (v, rest))
    (hcomma : peek (skipSpaces rest) ≠ ',') :
    LoopOutcome cfg platform device p before (a :: after) := by
  have hroom := hlen
  rw [List.length_append, List.length_cons] at hroom
  rw [LoopOutcome, parseListLoop_item hitem (by omega) hlen, set_first_free, if_neg hcomma]
  by_cases hstop : peek (skipSpaces rest) = '\x00'
  · obtain ⟨text, hread, hend, _⟩ := listItems_of_item hitem
    refine Or.inl ⟨[v], ⟨?_, ?_⟩, ?_⟩
    · rw [hend hstop]
      exact .cons hread .nil
    · rw [List.length_singleton, List.length_cons]
      omega
    · rw [decide_eq_true hstop, List.append_assoc]
      rfl
  · refine Or.inr ⟨before.length + 1, before ++ [v] ++ after, ?_, ?_, ?_⟩
    · rw [decide_eq_false hstop]
    · simp only [List.length_append, List.length_singleton]
      omega
    · refine not_readsItems hspace hnul (fun v' rest' h => ?_) _
      rw [hitem] at h
      cases h
      exact ⟨hstop, hcomma⟩

/-- The loop at an item with a comma behind it goes on behind the comma. -/
theorem loopOutcome_comma {p rest : List Char} {before after : List Word} {a v : Word}
    (hlen : (before ++ a :: after).length = FX5_CLIENT_MAX_VALUES cfg)
    (hitem : parseListItem platform device p = some (v, rest))
    (hcomma : peek (skipSpaces rest) = ',')
    (hnext : LoopOutcome cfg platform device (skipSpaces ((skipSpaces rest).drop 1))
      (before ++ [v]) after) :
    LoopOutcome cfg platform device p before (a :: after) := by
  obtain ⟨text, hread, _, hmore⟩ := listItems_of_item hitem
  have hroom := hlen
  rw [List.length_append, List.length_cons] at hroom
  rw [LoopOutcome, List.length_append, List.length_singleton] at hnext
  rw [LoopOutcome, parseListLoop_item hitem (by omega) hlen, set_first_free, if_pos hcomma,
    List.length_cons]
  rcases hnext with ⟨values, hreads, hloop⟩ | ⟨count, stored, hloop, hstored, hno⟩
  · refine Or.inl ⟨v :: values, hreads.cons (hmore hcomma) hread, ?_⟩
    rw [hloop, List.length_cons, List.drop_succ_cons, List.append_assoc, Nat.add_assoc,
      Nat.add_comm 1]
    rfl
  · refine Or.inr ⟨count, stored, hloop, hstored, fun values hreads => ?_⟩
    obtain ⟨others, hothers⟩ := hreads.tail (hmore hcomma)
    exact hno others hothers

/-- **The list loop** reads the items of a text in order, or rejects it because it cannot. -/
theorem parseListLoop_cases {p : List Char} {before after : List Word}
    (hlen : (before ++ after).length = FX5_CLIENT_MAX_VALUES cfg)
    (hspace : isSpace (peek p) = false) : LoopOutcome cfg platform device p before after := by
  induction hn : p.length using Nat.strong_induction_on generalizing p before after with
  | _ n ih =>
    by_cases hnul : peek p = '\x00'
    · exact loopOutcome_nul hnul
    cases after with
    | nil =>
      rw [List.append_nil] at hlen
      exact loopOutcome_full hlen hspace hnul
    | cons a after =>
      cases hitem : parseListItem platform device p with
      | none => exact loopOutcome_unread hlen (List.cons_ne_nil a after) hspace hnul hitem
      | some result =>
        obtain ⟨v, rest⟩ := result
        by_cases hcomma : peek (skipSpaces rest) = ','
        · have hsmall : (skipSpaces ((skipSpaces rest).drop 1)).length < n := by
            have h1 := parseListItem_length hitem
            have h2 := skipSpaces_length_le rest
            have h3 := skipSpaces_length_le ((skipSpaces rest).drop 1)
            rw [List.length_drop] at h3
            omega
          have hlen' : (before ++ [v] ++ after).length = FX5_CLIENT_MAX_VALUES cfg := by
            rw [← hlen]
            simp only [List.length_append, List.length_cons, List.length_nil]
            omega
          exact loopOutcome_comma hlen hitem hcomma
            (ih _ hsmall hlen' (not_space_skipSpaces _) rfl)
        · exact loopOutcome_last hlen hspace hnul hitem hcomma

end Loop

/-! ## A value text -/

section ValueText

variable {cfg : Config} {platform : Platform} {device : Device} {cmd : ParsedCommand}

/-- A text is read as `1` or `count` items with these values. -/
structure ReadsList (platform : Platform) (device : Device) (count : Nat) (text : List Char)
    (values : List Word) : Prop where
  items : List.Forall₂ (ReadText platform device) (listItems text) values
  length : values.length = 1 ∨ values.length = count

/-- One value is spread over all points. -/
def spread (count : Nat) : List Word → List Word
  | [v] => List.replicate count v
  | values => values

/-- The fast path takes a text of one boolean word. -/
theorem fields_of_boolAlone {p : List Char} {b : Bool} (h : parseBoolAlone device p = some b) :
    ∃ word, fields ',' p = [word] ∧ ReadText platform device word (if b then 1 else 0) := by
  unfold parseBoolAlone at h
  split at h
  · rename_i hbit
    split at h
    · rename_i b' len hword
      split at h
      · rename_i hnul
        cases h
        have hitem : parseListItem platform device p = some (if b then 1 else 0, p.drop len) := by
          simp only [parseListItem, hbit, if_true, hword]
        obtain ⟨word, hread, _, hend, _⟩ := fields_of_item hitem
        exact ⟨word, hend hnul, hread⟩
      · cases h
    · cases h
  · cases h

/-- The end of `fx5_client_parse_scalar_or_list`, behind the loop. -/
theorem parseScalarOrList_read {text : List Char} {count : Nat} {values : List Word}
    (hlen : cmd.values.length = FX5_CLIENT_MAX_VALUES cfg) (hfit : count ≤ FX5_CLIENT_MAX_VALUES cfg)
    (hpos : 1 ≤ count) (hnul : peek (skipSpaces text) ≠ '\x00')
    (halone : parseBoolAlone device (skipSpaces text) = none)
    (hread : ReadsItems platform device (skipSpaces text) cmd.values.length values)
    (hloop : parseListLoop cfg platform device (skipSpaces text) 0 cmd.values =
      some (true, values.length, values ++ cmd.values.drop values.length)) :
    (values.length = 1 ∨ values.length = count →
      ∃ scalar flag, parseScalarOrList cfg platform text device count cmd =
        some (true, withValues cmd count (spread count values) scalar flag)) ∧
    (¬(values.length = 1 ∨ values.length = count) →
      ∃ cmd', parseScalarOrList cfg platform text device count cmd = some (false, cmd')) := by
  have hsome : values ≠ [] := by
    rintro rfl
    obtain ⟨field, _, items, hlist, _⟩ := listItems_cons (not_space_skipSpaces text) hnul
    have hitems := hread.1
    rw [hlist] at hitems
    cases hitems
  rw [parseScalarOrList]
  simp only [if_neg hnul, halone, hloop, Option.bind_eq_bind, Option.bind_some, Bool.not_true,
    Bool.false_eq_true, if_false, List.length_eq_zero_iff, hsome, Bool.and_eq_true,
    decide_eq_true_eq]
  cases values with
  | nil => exact absurd rfl hsome
  | cons v values =>
    cases values with
    | nil =>
      have hfirst : ([v] ++ cmd.values.drop [v].length)[0]? = some v := rfl
      refine ⟨fun _ => ?_, fun h => absurd (Or.inl rfl) h⟩
      by_cases hone : 1 < count
      · -- the broadcast of the item
        have hcells : ([v] ++ cmd.values.drop [v].length).length = FX5_CLIENT_MAX_VALUES cfg := by
          rw [List.length_append, List.length_singleton, List.length_drop]
          omega
        have hdrop : ([v] ++ cmd.values.drop [v].length).drop count = cmd.values.drop count := by
          rw [List.drop_append, List.length_singleton, List.drop_drop,
            List.drop_eq_nil_of_le (by rw [List.length_singleton]; omega), List.nil_append,
            Nat.add_sub_cancel' hpos]
        rw [if_pos ⟨rfl, hone⟩, hfirst, Option.bind_some, storeFirst_eq hfirst hone, hcells,
          if_pos hfit, hdrop]
        exact ⟨_, _, rfl⟩
      · obtain rfl : count = 1 := by omega
        rw [if_neg (by simp), if_neg (by simp)]
        exact ⟨_, _, rfl⟩
    | cons w values =>
      have hmany : ¬(v :: w :: values).length = 1 := by simp
      rw [if_neg fun h => hmany h.1]
      constructor
      · rintro (hone | rfl)
        · exact absurd hone hmany
        · rw [if_neg (not_not.mpr rfl)]
          exact ⟨_, _, rfl⟩
      · intro h
        rw [if_pos fun hcount => h (Or.inr hcount)]
        exact ⟨_, rfl⟩

/-- **A value text is accepted** when it is read as one item or as one for each point; the values
are spread over the points. -/
theorem parseScalarOrList_cases (text : List Char) {count : Nat}
    (hlen : cmd.values.length = FX5_CLIENT_MAX_VALUES cfg) (hpos : 1 ≤ count)
    (hfit : count ≤ FX5_CLIENT_MAX_VALUES cfg) :
    (∃ values scalar flag, ReadsList platform device count text values ∧
      parseScalarOrList cfg platform text device count cmd =
        some (true, withValues cmd count (spread count values) scalar flag)) ∨
    (∃ cmd', parseScalarOrList cfg platform text device count cmd = some (false, cmd') ∧
      ∀ values, ¬ReadsList platform device count text values) := by
  by_cases hnul : peek (skipSpaces text) = '\x00'
  · -- an empty text
    refine Or.inr ⟨cmd, ?_, ?_⟩
    · rw [parseScalarOrList, if_pos hnul]
    · rintro values ⟨hitems, hlength⟩
      rw [← listItems_skipSpaces, listItems_nul hnul] at hitems
      cases hitems
      simp only [List.length_nil] at hlength
      omega
  cases halone : parseBoolAlone device (skipSpaces text) with
  | some b =>
    obtain ⟨word, hfields, hread⟩ := @fields_of_boolAlone platform device _ _ halone
    have hlist : listItems text = [word] := by
      rw [← listItems_skipSpaces, listItems, hfields, dropBlankLast_single hread.plain.1]
    refine Or.inl ⟨[if b then 1 else 0], true, b, ⟨?_, Or.inl rfl⟩, ?_⟩
    · rw [hlist]
      exact .cons hread .nil
    · rw [parseScalarOrList]
      simp only [if_neg hnul, halone, storeBool_eq, hlen, if_pos hfit, Option.bind_eq_bind,
        Option.bind_some]
      rfl
  | none =>
    rcases @parseListLoop_cases cfg platform device (skipSpaces text) [] cmd.values hlen
      (not_space_skipSpaces text) with ⟨values, hread, hloop⟩ | ⟨n, stored, hloop, _, hno⟩
    · obtain ⟨hyes, hnot⟩ := parseScalarOrList_read hlen hfit hpos hnul halone hread (by
        simpa only [List.length_nil, List.nil_append, Nat.zero_add] using hloop)
      have hitems := hread.1
      rw [listItems_skipSpaces] at hitems
      by_cases hlength : values.length = 1 ∨ values.length = count
      · obtain ⟨scalar, flag, haccept⟩ := hyes hlength
        exact Or.inl ⟨values, scalar, flag, ⟨hitems, hlength⟩, haccept⟩
      · obtain ⟨cmd', hreject⟩ := hnot hlength
        refine Or.inr ⟨cmd', hreject, ?_⟩
        rintro values' ⟨hitems', hlength'⟩
        rw [← hitems'.length_eq, hitems.length_eq] at hlength'
        exact hlength hlength'
    · refine Or.inr ⟨{ cmd with values := stored }, ?_, ?_⟩
      · rw [parseScalarOrList]
        simp only [List.length_nil, List.nil_append] at hloop
        simp only [if_neg hnul, halone, hloop, Option.bind_eq_bind, Option.bind_some,
          Bool.not_false, if_true]
      · rintro values ⟨hitems, hlength⟩
        refine hno values ⟨?_, by omega⟩
        rw [listItems_skipSpaces]
        exact hitems

end ValueText

/-! ## The documented lists -/

section Documented

variable {cfg : Config} {platform : Platform} {device : Device}

theorem exists_forall₂ {α β : Type} {R : α → β → Prop} {xs : List α} :
    (∃ ys, List.Forall₂ R xs ys) ↔ ∀ x ∈ xs, ∃ y, R x y := by
  constructor
  · rintro ⟨ys, h⟩
    induction h with
    | nil => simp
    | cons hxy _ ih =>
      intro x hx
      rcases List.mem_cons.mp hx with rfl | hx
      · exact ⟨_, hxy⟩
      · exact ih x hx
  · intro h
    induction xs with
    | nil => exact ⟨[], .nil⟩
    | cons x xs ih =>
      obtain ⟨y, hxy⟩ := h x List.mem_cons_self
      obtain ⟨ys, hys⟩ := ih fun x hx => h x (List.mem_cons_of_mem _ hx)
      exact ⟨y :: ys, .cons hxy hys⟩

/-- A list of `1` or `count` items is one whose items can all be read. -/
theorem exists_readsList {count : Nat} {text : List Char} :
    (∃ values, ReadsList platform device count text values) ↔
      (∀ field ∈ listItems text, ∃ v, ReadText platform device field v) ∧
        ((listItems text).length = 1 ∨ (listItems text).length = count) := by
  rw [← exists_forall₂]
  constructor
  · rintro ⟨values, hitems, hlength⟩
    exact ⟨⟨values, hitems⟩, by rwa [hitems.length_eq]⟩
  · rintro ⟨⟨values, hitems⟩, hlength⟩
    exact ⟨values, hitems, by rwa [← hitems.length_eq]⟩

theorem dropBlankLast_of_ne_nil {list : List (List Char)} (h : ∀ field ∈ list, field ≠ []) :
    dropBlankLast list = list := by
  induction list with
  | nil => rfl
  | cons field more ih =>
    cases more with
    | nil => exact dropBlankLast_single (h field List.mem_cons_self)
    | cons next rest =>
      rw [dropBlankLast_cons (List.cons_ne_nil _ _), ih fun f hf => h f (List.mem_cons_of_mem _ hf)]

/-- No boolean word is a numeral. -/
theorem not_numeral_bool (b : Bool) {n : Nat} :
    ¬IsNumeral 10 (if b then "true".toList else "false".toList) n := by
  intro h
  have hdigit := h.peek_append []
  cases b <;> exact absurd hdigit (by decide)

/-- An item has one value. -/
theorem ReadText.unique {text : List Char} {v w : Word} (hv : ReadText platform device text v)
    (hw : ReadText platform device text w) : v = w := by
  cases hv with
  | numeral hnum _ =>
    generalize htext : text = text' at hw
    cases hw with
    | numeral hnum' _ =>
      rw [htext] at hnum
      rw [hnum.unique hnum']
    | bool b _ =>
      rw [htext] at hnum
      exact absurd hnum (not_numeral_bool b)
  | bool b _ =>
    generalize htext : (if b then "true".toList else "false".toList) = text' at hw
    cases hw with
    | numeral hnum _ =>
      rw [← htext] at hnum
      exact absurd hnum (not_numeral_bool b)
    | bool b' _ =>
      cases b <;> cases b' <;> first | rfl | exact absurd htext (by decide)

/-- An item of a documented list is at most 65535. -/
theorem ValueText.numeral_le {text : List Char} {v : Word} {n : Nat} (h : ValueText device text v)
    (hn : IsNumeral 10 text n) : n ≤ 65535 := by
  cases h with
  | bool b hbit => exact absurd hn (not_numeral_bool b)
  | numeral hnum hle =>
    rw [hn.unique hnum]
    exact hle

/-- An item that is read is documented, unless it is a numeral above 65535. -/
theorem ReadText.exactly {text : List Char} {v : Word}
    (h : ReadText platform device text v) (hn : ∀ n, IsNumeral 10 text n → n ≤ 65535) :
    ValueText device text v := by
  cases h with
  | bool b hbit => exact .bool b hbit
  | numeral hnum hreduced =>
    rename_i n
    have hle := hn n hnum
    rw [reduced_of_lt (by omega)]
    exact .numeral hnum hle

/-- A documented list has no blank field. -/
theorem IsValueList.listItems_eq {count : Nat} {text : List Char}
    (h : IsValueList device count text) : listItems text = fields ',' text := by
  refine dropBlankLast_of_ne_nil fun field hmem => ?_
  obtain ⟨v, hv⟩ := h.items field hmem
  have halnum := peek_valueText hv []
  rintro rfl
  exact absurd halnum (by decide)

/-- **A value text is accepted exactly when it is a documented list**, for every device, count and
text, unless it slips through: a comma behind its last item, or a numeral above 65535 whose
reduced value is at most 65535. -/
theorem value_list_accepted_iff (cfg : Config) (platform : Platform) (device : Device)
    (text : List Char) (cmd : ParsedCommand) {count : Nat} (hpos : 1 ≤ count)
    (hfit : count ≤ FX5_CLIENT_MAX_VALUES cfg)
    (hlen : cmd.values.length = FX5_CLIENT_MAX_VALUES cfg) :
    AcceptsExactly cfg platform device count text cmd ↔
      ¬SlipsThrough platform device count text := by
  have hread : IsValueList device count text → ∃ values,
      ReadsList platform device count text values := by
    intro h
    have heq : listItems text = fields ',' text := h.listItems_eq
    refine exists_readsList.mpr ⟨fun field hmem => ?_, by rw [heq]; exact h.length⟩
    rw [heq] at hmem
    obtain ⟨v, hv⟩ := h.items field hmem
    exact ⟨v, hv.read⟩
  rcases @parseScalarOrList_cases cfg platform device cmd text count hlen hpos hfit with
    ⟨values, scalar, flag, hlist, haccept⟩ | ⟨cmd', hreject, hno⟩
  · obtain ⟨hitems, hlength⟩ := exists_readsList.mp ⟨values, hlist⟩
    have hsame : AcceptsExactly cfg platform device count text cmd ↔
        IsValueList device count text := by
      constructor
      · rintro ⟨ok, cmd', hparse, hok⟩
        rw [haccept] at hparse
        cases hparse
        exact hok.mp rfl
      · intro h
        exact ⟨true, _, haccept, iff_of_true rfl h⟩
    rw [hsame]
    constructor
    · rintro h ⟨_, _, hslip⟩
      have heq : listItems text = fields ',' text := h.listItems_eq
      rcases hslip with hne | ⟨field, hmem, n, hnum, hbig⟩
      · exact hne heq
      · rw [heq] at hmem
        obtain ⟨v, hv⟩ := h.items field hmem
        have := hv.numeral_le hnum
        omega
    · intro hno
      have heq : listItems text = fields ',' text :=
        Classical.byContradiction fun hne => hno ⟨hitems, hlength, Or.inl hne⟩
      refine ⟨fun field hmem => ?_, by rw [← heq]; exact hlength⟩
      rw [← heq] at hmem
      obtain ⟨v, hv⟩ := hitems field hmem
      exact ⟨v, hv.exactly fun n hn => Nat.le_of_not_lt fun hbig =>
        hno ⟨hitems, hlength, Or.inr ⟨field, hmem, n, hn, hbig⟩⟩⟩
  · refine iff_of_true ⟨false, cmd', hreject, iff_of_false Bool.false_ne_true ?_⟩ ?_
    · intro h
      obtain ⟨values, hvalues⟩ := hread h
      exact hno values hvalues
    · rintro ⟨hitems, hlength, _⟩
      obtain ⟨values, hvalues⟩ := exists_readsList.mpr ⟨hitems, hlength⟩
      exact hno values hvalues

/-- With white space around its items, `true , 0` is a list for two bits, and is accepted. -/
theorem bit_list_accepted :
    AcceptsExactly .default lp64 .M 2 " true , 0".toList (commandInit .default) := by
  refine (value_list_accepted_iff .default lp64 .M _ _ (by decide)
    (Nat.le_trans (by decide) (clientMaxValues_bounds .default).1) List.length_replicate).mpr ?_
  rintro ⟨_, _, hslip⟩
  rcases hslip with hne | ⟨field, hmem, n, hn, hbig⟩
  · exact hne (by decide)
  · have hlist : listItems " true , 0".toList = ["true".toList, "0".toList] := by decide
    rw [hlist] at hmem
    simp only [List.mem_cons, List.not_mem_nil, or_false] at hmem
    rcases hmem with rfl | rfl
    · exact not_numeral_bool true hn
    · rw [← hn.value] at hbig
      exact absurd hbig (by decide)

/-- `5,` is accepted as one value: the loop does not miss the item behind the comma. -/
theorem trailing_comma_accepted :
    ¬AcceptsExactly .default lp64 .D 1 "5,".toList (commandInit .default) := by
  rintro ⟨ok, cmd', hparse, hok⟩
  have hfive : IsNumeral 10 "5".toList 5 := ⟨by decide, List.all_eq_true.mp (by decide), by decide⟩
  have hread : ReadsList lp64 .D 1 "5,".toList [5] := by
    refine ⟨?_, Or.inl rfl⟩
    have hlist : listItems "5,".toList = ["5".toList] := by decide
    rw [hlist]
    exact .cons (.numeral hfive (by decide)) .nil
  rcases @parseScalarOrList_cases .default lp64 .D (commandInit .default) "5,".toList 1
    List.length_replicate (by decide) (Nat.le_trans (by decide) (clientMaxValues_bounds .default).1)
    with ⟨values, scalar, flag, _, haccept⟩ | ⟨_, _, hno⟩
  · rw [haccept] at hparse
    cases hparse
    have hlist := hok.mp rfl
    have heq := hlist.listItems_eq
    exact absurd heq (by decide)
  · exact hno _ hread

end Documented

end Fx5
