import Fx5Slmp.ValueList

/-!
# The numerals of a command line

What a get or set line says, in numbers of any size, and what the parser makes of it.  The
cursor functions saturate a numeral at `ULONG_MAX` and keep 32 bits of it; the size of a range is
computed in 32 bits.  The checks on the end of a range, on its size and on the values come after
that and judge the reduced numbers.

* `parseUint32CursorBase_eq`, `parseDeviceAndRange_written` — the parser reads what is written,
  reduced;
* `parse_written` — a written line is rejected, stored outside the array or read with its reduced
  numbers;
* `numerals_exact_iff` — numerals are read exactly or rejected, except in a line that passes the
  checks only because its numbers are reduced.
-/

set_option autoImplicit false

namespace Fx5

open CheckedMem CText

/-! ## What a line says -/

/-- The numeral at the cursor, in base 16 perhaps behind `0x`: its value, whatever its size, and
what stands behind it. -/
def numeralAt (base : Nat) (s : List Char) : Option (Nat × List Char) :=
  let p := if base = 16 && hasHexPrefix s then s.drop 2 else s
  if p.takeWhile (isDigitIn base) = [] then none
  else some (digitsValue base (p.takeWhile (isDigitIn base)), p.dropWhile (isDigitIn base))

/-- The range at the beginning of a text as it is written, and the text behind it. -/
def writtenRange (p : List Char) : Option (PointRange × List Char) :=
  let s := skipSpaces p
  if peek s = '\x00' then none
  else do
    let (desc, s) ← parseDevicePrefix s
    let (start, s) ← numeralAt desc.base s
    let s := skipSpaces s
    if peek s = '-' then do
      let s ← skipEndDevice desc (skipSpaces (s.drop 1))
      let (stop, s) ← numeralAt desc.base s
      some (⟨desc.device, start, stop⟩, s)
    else some (⟨desc.device, start, start⟩, s)

/-- What stands behind `get` in a get line. -/
def getArguments (line : List Char) : Option (List Char) :=
  let p := skipSpaces line
  if startsWith p "get".toList && isSpace (peek (p.drop 3)) then some (p.drop 3) else none

/-- A get or set line: its range and what stands behind it. -/
structure WrittenCommand where
  isSet : Bool
  range : PointRange
  rest : List Char
  deriving DecidableEq

def writtenCommand (line : List Char) : Option WrittenCommand :=
  match getArguments line with
  | some args => (writtenRange args).map fun (range, rest) => ⟨false, range, rest⟩
  | none =>
    match setArguments line with
    | some args => (writtenRange args).map fun (range, rest) => ⟨true, range, rest⟩
    | none => none

/-- The value text, behind the `=`. -/
def WrittenCommand.values (w : WrittenCommand) : List Char := (skipSpaces w.rest).drop 1

/-- The command has the numbers of the line. -/
structure ReadExactly (w : WrittenCommand) (cmd : ParsedCommand) : Prop where
  device : cmd.device = w.range.device
  start : cmd.startAddress.toNat = w.range.start
  count : (cmd.count.toNat : Int) = (w.range.stop : Int) - (w.range.start : Int) + 1
  count_bounds : 1 ≤ cmd.count.toNat ∧ cmd.count.toNat ≤ 65535
  values : w.isSet = true → ∃ values unused,
    List.Forall₂ (ValueText w.range.device) (listItems w.values) values ∧
    cmd.values = spread cmd.count.toNat values ++ unused ∧ cmd.valueCount = cmd.count

/-- An address that has more than 32 bits, a range that is empty or has more than 65535 points,
or a value above 65535. -/
def Unrepresentable (w : WrittenCommand) : Prop :=
  4294967296 ≤ w.range.start ∨ 4294967296 ≤ w.range.stop ∨ w.range.stop < w.range.start ∨
    65535 < w.range.points ∨
    (w.isSet = true ∧ ∃ field ∈ listItems w.values, ∃ n, IsNumeral 10 field n ∧ 65535 < n)

/-- An accepted get or set line is read exactly, and a line with an unrepresentable number is
rejected. -/
structure NumeralsExact (cfg : Config) (platform : Platform) (line : List Char) : Prop where
  accepted : ∀ cmd, parseCommand cfg platform line = some (true, cmd) →
    cmd.type = .get ∨ cmd.type = .set → ∃ w, writtenCommand line = some w ∧ ReadExactly w cmd
  rejected : ∀ w, writtenCommand line = some w → Unrepresentable w →
    ∃ cmd, parseCommand cfg platform line = some (false, cmd)

/-- The size of the range of the reduced addresses, in 32 bits. -/
def WrittenCommand.reducedCount (platform : Platform) (w : WrittenCommand) : Nat :=
  u32 (reduced platform w.range.stop - reduced platform w.range.start + 1)

/-- The values of a set line pass the checks for so many points.  No points at all are left to a
boolean word. -/
def ValuesPass (cfg : Config) (platform : Platform) (device : Device) (count : Nat)
    (text : List Char) : Prop :=
  if count = 0 then (parseBoolAlone device (skipSpaces text)).isSome = true
  else (∀ field ∈ listItems text, ∃ v, ReadText platform device field v) ∧
    ((listItems text).length = 1 ∨
      ((listItems text).length = count ∧ count ≤ FX5_CLIENT_MAX_VALUES cfg))

/-- The reduced numbers of a line pass the checks. -/
structure PassesChecks (cfg : Config) (platform : Platform) (w : WrittenCommand) : Prop where
  order : reduced platform w.range.start ≤ reduced platform w.range.stop
  count : w.reducedCount platform ≤ 65535
  rest : if w.isSet then peek (skipSpaces w.rest) = '=' ∧
      ValuesPass cfg platform w.range.device (w.reducedCount platform) w.values
    else peek (skipSpaces w.rest) = '\x00'

/-- The command has the reduced numbers of the line. -/
structure ReadReduced (platform : Platform) (w : WrittenCommand) (cmd : ParsedCommand) : Prop where
  device : cmd.device = w.range.device
  start : cmd.startAddress.toNat = reduced platform w.range.start
  count : cmd.count.toNat = w.reducedCount platform
  values : w.isSet = true → 1 ≤ cmd.count.toNat → ∃ values unused,
    List.Forall₂ (ReadText platform w.range.device) (listItems w.values) values ∧
    cmd.values = spread cmd.count.toNat values ++ unused ∧ cmd.valueCount = cmd.count

/-! ## Numerals and ranges -/

section Ranges

variable {platform : Platform}

theorem descriptor_base_le {p rest : List Char} {desc : DeviceDescriptor}
    (h : parseDevicePrefix p = some (desc, rest)) : desc.base ≤ 16 := by
  obtain ⟨desc', hfind, heq⟩ := Option.map_eq_some_iff.mp h
  cases heq
  have hall : ∀ desc ∈ FX5_CLIENT_DEVICE_DESCRIPTORS, desc.base ≤ 16 := by
    simp [FX5_CLIENT_DEVICE_DESCRIPTORS]
  exact hall _ (List.mem_of_find?_eq_some hfind)

/-- A hexadecimal prefix begins with a digit. -/
theorem isXDigit_of_hexPrefix {s : List Char} (h : hasHexPrefix s = true) :
    isXDigit (peek s) = true := by
  simp only [hasHexPrefix, Bool.and_eq_true, decide_eq_true_eq] at h
  rw [h.1.1]
  decide

/-- **The cursor function** reads the numeral, reduced. -/
theorem parseUint32CursorBase_eq (platform : Platform) (s : List Char) {base : Nat}
    (hbase : base ≤ 16) : parseUint32CursorBase platform s base =
      (numeralAt base s).map fun (n, rest) => (reduced platform n, rest) := by
  rw [parseUint32CursorBase, numeralAt]
  by_cases hx : isXDigit (peek s) = true
  · obtain ⟨hspace, hminus, hplus, _⟩ := plain_of_isAlphanum (isAlphanum_of_isDigitIn hx)
    rw [strtoul, skipSpaces_of_not_space hspace, strtoulSign, if_neg hminus, if_neg hplus, hx]
    simp only [Bool.not_true, Bool.false_eq_true, if_false]
    generalize hp : (if (decide (base = 16) && hasHexPrefix s) = true then s.drop 2 else s) = p
    have hshort : p.length ≤ s.length := by
      rw [← hp]
      split
      · rw [List.length_drop]
        omega
      · exact Nat.le_refl _
    by_cases hdigits : p.takeWhile (isDigitIn base) = []
    · simp only [hdigits, if_true, Option.map_none]
    · have hmoved : p.dropWhile (isDigitIn base) ≠ s := by
        intro heq
        have hlen := congrArg List.length (List.takeWhile_append_dropWhile (p := isDigitIn base) (l := p))
        have hpos := List.length_pos_of_ne_nil hdigits
        rw [List.length_append, heq] at hlen
        omega
      simp only [hdigits, if_false, if_neg hmoved, Option.map_some, reduced]
      congr 3
      split
      · omega
      · omega
  · -- no digit in any base
    have hno : ¬(decide (base = 16) && hasHexPrefix s) = true := by
      rw [Bool.and_eq_true]
      exact fun h => hx (isXDigit_of_hexPrefix h.2)
    have hdigits : s.takeWhile (isDigitIn base) = [] := by
      cases s with
      | nil => rfl
      | cons c s => exact List.takeWhile_cons_of_neg fun hc => hx (isDigitIn_mono hbase hc)
    rw [Bool.eq_false_iff.mpr hx]
    simp only [Bool.not_false, if_true, if_neg hno, hdigits, Option.map_none]

/-- **The range parser** reads the range, reduced, and then checks it. -/
theorem parseDeviceAndRange_written (platform : Platform) (p : List Char) :
    parseDeviceAndRange platform p = (writtenRange p).bind fun (range, rest) =>
      if reduced platform range.stop < reduced platform range.start then none
      else if u32 (reduced platform range.stop - reduced platform range.start + 1) > 0xFFFF then none
      else some (range.device, reduced platform range.start,
        u16 (u32 (reduced platform range.stop - reduced platform range.start + 1)), rest) := by
  unfold parseDeviceAndRange writtenRange
  simp only
  split
  · rfl
  cases hdesc : parseDevicePrefix (skipSpaces p) with
  | none => rfl
  | some result =>
    obtain ⟨desc, s⟩ := result
    have hbase := descriptor_base_le hdesc
    simp only [Option.bind_eq_bind, Option.bind_some, parseUint32CursorBase_eq platform s hbase]
    cases numeralAt desc.base s with
    | none => rfl
    | some result =>
      obtain ⟨start, s⟩ := result
      simp only [Option.map_some, Option.bind_some, parseRangeEnd, Option.bind_eq_bind]
      split
      · cases skipEndDevice desc (skipSpaces ((skipSpaces s).drop 1)) with
        | none => rfl
        | some s =>
          simp only [Option.bind_some, parseUint32CursorBase_eq platform s hbase]
          cases numeralAt desc.base s with
          | none => rfl
          | some result => rfl
      · simp [u32, u16]

end Ranges

/-! ## Values -/

section Values

variable {cfg : Config} {platform : Platform} {device : Device} {cmd : ParsedCommand}

/-- A single value is a list of one item. -/
theorem isSingleValue_iff {p : List Char} (hspace : isSpace (peek p) = false) :
    isSingleValue platform device p = true ↔
      (∀ field ∈ listItems p, ∃ v, ReadText platform device field v) ∧
        (listItems p).length = 1 := by
  constructor
  · intro h
    have hone : ∃ text v, listItems p = [text] ∧ ReadText platform device text v := by
      unfold isSingleValue at h
      cases hitem : parseListItem platform device p with
      | none =>
        rw [hitem] at h
        cases h
      | some result =>
        obtain ⟨v, rest⟩ := result
        rw [hitem] at h
        simp only [Bool.or_eq_true, Bool.and_eq_true, decide_eq_true_eq] at h
        obtain ⟨text, hread, hend, hmore⟩ := listItems_of_item hitem
        refine ⟨text, v, ?_, hread⟩
        rcases h with hnul | ⟨hcomma, hnul⟩
        · exact hend hnul
        · rw [hmore hcomma, listItems_nul hnul]
    obtain ⟨text, v, hlist, hread⟩ := hone
    rw [hlist]
    refine ⟨fun field hmem => ?_, rfl⟩
    rw [List.mem_singleton.mp hmem]
    exact ⟨v, hread⟩
  · rintro ⟨hitems, hone⟩
    have hnul : peek p ≠ '\x00' := by
      intro hnul
      rw [listItems_nul hnul] at hone
      cases hone
    obtain ⟨field, rest, items, hlist, ⟨spaces, hp, hspaces⟩, hrest⟩ := listItems_cons hspace hnul
    obtain ⟨v, hread⟩ := hitems field (by rw [hlist]; exact List.mem_cons_self)
    have hitem := parseListItem_read hread (endsItem_spaces hspaces hrest)
    rw [← hp] at hitem
    have hskip := skipSpaces_itemEnd hspaces hrest
    simp only [isSingleValue, hitem, hskip, Bool.or_eq_true, Bool.and_eq_true, decide_eq_true_eq]
    rcases hrest with h | h
    · exact Or.inl h
    · refine Or.inr ⟨h, Classical.byContradiction fun hmore => ?_⟩
      obtain ⟨text, _, _, hitems⟩ := listItems_of_item hitem
      rw [hskip] at hitems
      obtain ⟨next, _, others, hnext, _⟩ := listItems_cons (not_space_skipSpaces (rest.drop 1)) hmore
      rw [hitems h, hnext] at hone
      simp at hone

/-- No boolean word stands in an empty text. -/
theorem parseBoolAlone_nul {p : List Char} (h : peek p = '\x00') : parseBoolAlone device p = none := by
  cases halone : parseBoolAlone device p with
  | none => rfl
  | some b => exact absurd h (@peek_of_single lp64 device p (single_of_boolAlone halone).1)

/-- A value text is rejected, stored outside the array or read. -/
def ValuesOutcome (cfg : Config) (platform : Platform) (device : Device) (count : Nat)
    (text : List Char) (cmd : ParsedCommand) : Prop :=
  (¬ValuesPass cfg platform device count text ∧
    ∃ cmd', parseScalarOrList cfg platform text device count cmd = some (false, cmd')) ∨
  (ValuesPass cfg platform device count text ∧ FX5_CLIENT_MAX_VALUES cfg < count ∧
    parseScalarOrList cfg platform text device count cmd = none) ∨
  (ValuesPass cfg platform device count text ∧ count ≤ FX5_CLIENT_MAX_VALUES cfg ∧
    ∃ values scalar flag,
    (1 ≤ count → List.Forall₂ (ReadText platform device) (listItems text) values) ∧
    parseScalarOrList cfg platform text device count cmd =
      some (true, withValues cmd count (spread count values) scalar flag))

/-- The values of a range that counts as empty. -/
theorem valuesOutcome_empty (text : List Char)
    (hlen : cmd.values.length = FX5_CLIENT_MAX_VALUES cfg) :
    ValuesOutcome cfg platform device 0 text cmd := by
  have hpass : ValuesPass cfg platform device 0 text ↔
      (parseBoolAlone device (skipSpaces text)).isSome = true := by
    rw [ValuesPass, if_pos rfl]
  cases halone : parseBoolAlone device (skipSpaces text) with
  | some b =>
    have hnul : peek (skipSpaces text) ≠ '\x00' := by
      intro hnul
      rw [parseBoolAlone_nul hnul] at halone
      cases halone
    refine Or.inr (Or.inr ⟨hpass.mpr (by rw [halone]; rfl), Nat.zero_le _, [], true, b, by omega, ?_⟩)
    rw [parseScalarOrList]
    simp only [if_neg hnul, halone]
    rfl
  | none =>
    obtain ⟨ok, cmd', hparse, hok⟩ := @parseScalarOrList_inside cfg platform device cmd text 0 hlen
      (fun _ => Nat.zero_le _)
    refine Or.inl ⟨fun h => ?_, cmd', ?_⟩
    · rw [hpass, halone] at h
      cases h
    · cases ok with
      | false => exact hparse
      | true =>
        have hsome := (hok rfl).2.2 rfl
        rw [halone] at hsome
        cases hsome

theorem valuesPass_iff {text : List Char} {count : Nat} (hpos : 1 ≤ count) :
    ValuesPass cfg platform device count text ↔
      (∀ field ∈ listItems text, ∃ v, ReadText platform device field v) ∧
        ((listItems text).length = 1 ∨
          ((listItems text).length = count ∧ count ≤ FX5_CLIENT_MAX_VALUES cfg)) := by
  rw [ValuesPass, if_neg (Nat.ne_of_gt hpos)]

/-- The values of a range that fits into the array. -/
theorem valuesOutcome_fits (text : List Char) {count : Nat}
    (hlen : cmd.values.length = FX5_CLIENT_MAX_VALUES cfg) (hpos : 1 ≤ count)
    (hfit : count ≤ FX5_CLIENT_MAX_VALUES cfg) :
    ValuesOutcome cfg platform device count text cmd := by
  have hread : ValuesPass cfg platform device count text ↔
      ∃ values, ReadsList platform device count text values := by
    rw [valuesPass_iff hpos, exists_readsList]
    simp only [hfit, and_true]
  rcases @parseScalarOrList_cases cfg platform device cmd text count hlen hpos hfit with
    ⟨values, scalar, flag, hlist, haccept⟩ | ⟨cmd', hreject, hno⟩
  · exact Or.inr (Or.inr ⟨hread.mpr ⟨values, hlist⟩, hfit, values, scalar, flag,
      fun _ => hlist.items, haccept⟩)
  · refine Or.inl ⟨fun h => ?_, cmd', hreject⟩
    obtain ⟨values, hlist⟩ := hread.mp h
    exact hno values hlist

/-- The values of a range that does not fit. -/
theorem valuesOutcome_overflow (text : List Char) {count : Nat}
    (hlen : cmd.values.length = FX5_CLIENT_MAX_VALUES cfg)
    (hover : FX5_CLIENT_MAX_VALUES cfg < count) :
    ValuesOutcome cfg platform device count text cmd := by
  have hmax := (clientMaxValues_bounds cfg).1
  have hsingle : ValuesPass cfg platform device count text ↔
      isSingleValue platform device (skipSpaces text) = true := by
    rw [valuesPass_iff (by omega), isSingleValue_iff (not_space_skipSpaces text),
      listItems_skipSpaces]
    simp only [Nat.not_le_of_lt hover, and_false, or_false]
  by_cases hone : isSingleValue platform device (skipSpaces text) = true
  · exact Or.inr (Or.inl ⟨hsingle.mpr hone, hover, parseScalarOrList_overflow hlen hone hover⟩)
  · obtain ⟨ok, cmd', hparse, hok⟩ := @parseScalarOrList_inside cfg platform device cmd text
      count hlen (fun h => absurd h hone)
    refine Or.inl ⟨fun h => hone (hsingle.mp h), cmd', ?_⟩
    cases ok with
    | false => exact hparse
    | true => exact absurd (hok rfl).1 (Nat.not_le_of_lt hover)

/-- **A value text** is rejected, stored outside the array or read. -/
theorem parseValues_cases (text : List Char) (count : Nat)
    (hlen : cmd.values.length = FX5_CLIENT_MAX_VALUES cfg) :
    ValuesOutcome cfg platform device count text cmd := by
  rcases Nat.eq_zero_or_pos count with rfl | hpos
  · exact valuesOutcome_empty text hlen
  rcases Nat.lt_or_ge (FX5_CLIENT_MAX_VALUES cfg) count with hover | hfit
  · exact valuesOutcome_overflow text hlen hover
  · exact valuesOutcome_fits text hlen hpos hfit

end Values

/-! ## Lines -/

section Lines

variable {cfg : Config} {platform : Platform} {line : List Char}

/-- A get line goes to the get parser. -/
theorem parseCommand_get {text : List Char} (h : getArguments line = some text) :
    parseCommand cfg platform line = some (parseGet platform text (commandInit cfg)) := by
  unfold getArguments at h
  simp only at h
  split at h
  · rename_i hget
    cases h
    obtain ⟨rest, hrest⟩ := startsWith_iff.mp (Bool.and_eq_true_iff.mp hget).1
    have hpeek : peek (skipSpaces line) = 'g' := by rw [hrest]; rfl
    have hcmp : ∀ s, peek s ≠ 'g' → peek s ≠ '\x00' → strcmpEq (skipSpaces line) s = false :=
      fun s hs hnul => strcmpEq_of_peek_ne (by rw [hpeek]; exact Ne.symm hs) hnul
    unfold parseCommand
    simp only
    rw [if_neg (by rw [hpeek]; decide), hcmp _ (by decide) (by decide),
      hcmp _ (by decide) (by decide), hcmp _ (by decide) (by decide), hcmp _ (by decide) (by decide),
      hcmp _ (by decide) (by decide), hcmp _ (by decide) (by decide), hcmp _ (by decide) (by decide),
      hget]
    rfl
  · cases h

/-- Every other line is no get or set command. -/
theorem parseCommand_neither (hget : getArguments line = none) (hset : setArguments line = none) :
    ∃ ok cmd, parseCommand cfg platform line = some (ok, cmd) ∧
      cmd.type ≠ .get ∧ cmd.type ≠ .set := by
  have hno : ∀ word : List Char, (let p := skipSpaces line
      if startsWith p word && isSpace (peek (p.drop 3)) then some (p.drop 3) else none) = none →
      ¬(startsWith (skipSpaces line) word && isSpace (peek ((skipSpaces line).drop 3))) = true := by
    intro word h hword
    simp only at h
    rw [if_pos hword] at h
    cases h
  unfold parseCommand
  simp only
  rw [if_neg (hno _ hget), if_neg (hno _ hset)]
  repeat
    split
    · exact ⟨_, _, rfl, by simp [commandInit], by simp [commandInit]⟩
  exact ⟨_, _, rfl, by simp [commandInit], by simp [commandInit]⟩

/-- The two ways in which a range is judged agree. -/
theorem u16_reducedCount {w : WrittenCommand} (h : w.reducedCount platform ≤ 65535) :
    (BitVec.ofNat 16 (u16 (w.reducedCount platform))).toNat = w.reducedCount platform := by
  rw [BitVec.toNat_ofNat, u16]
  omega

theorem reduced_toNat (platform : Platform) (n : Nat) :
    (BitVec.ofNat 32 (reduced platform n)).toNat = reduced platform n := by
  rw [BitVec.toNat_ofNat]
  exact Nat.mod_eq_of_lt (u32_lt _)

/-- A range that is rejected. -/
theorem parseDeviceAndRange_none {p rest : List Char} {w : WrittenCommand}
    (hw : writtenRange p = some (w.range, rest))
    (h : ¬(reduced platform w.range.start ≤ reduced platform w.range.stop ∧
      w.reducedCount platform ≤ 65535)) : parseDeviceAndRange platform p = none := by
  rw [parseDeviceAndRange_written, hw, Option.bind_some]
  simp only
  split
  · rfl
  split
  · rfl
  · rename_i hle hsize
    rw [WrittenCommand.reducedCount] at h
    exact absurd ⟨by omega, by omega⟩ h

/-- A range that is accepted. -/
theorem parseDeviceAndRange_some {p rest : List Char} {w : WrittenCommand}
    (hw : writtenRange p = some (w.range, rest))
    (hle : reduced platform w.range.start ≤ reduced platform w.range.stop)
    (hsize : w.reducedCount platform ≤ 65535) :
    parseDeviceAndRange platform p = some (w.range.device, reduced platform w.range.start,
      u16 (w.reducedCount platform), rest) := by
  rw [parseDeviceAndRange_written, hw, Option.bind_some]
  simp only
  rw [if_neg (by omega), if_neg (by rw [WrittenCommand.reducedCount] at hsize; omega)]
  rfl

/-- A get line. -/
theorem parse_written_get {args : List Char} {w : WrittenCommand} (hargs : getArguments line = some args)
    (hw : writtenRange args = some (w.range, w.rest)) (hget : w.isSet = false) :
    (¬PassesChecks cfg platform w ∧ ∃ cmd, parseCommand cfg platform line = some (false, cmd)) ∨
    (PassesChecks cfg platform w ∧ ∃ cmd, parseCommand cfg platform line = some (true, cmd) ∧
      cmd.type = .get ∧ ReadReduced platform w cmd) := by
  rw [parseCommand_get hargs, parseGet]
  by_cases hrange : reduced platform w.range.start ≤ reduced platform w.range.stop ∧
      w.reducedCount platform ≤ 65535
  · simp only [parseDeviceAndRange_some hw hrange.1 hrange.2]
    by_cases hend : peek (skipSpaces w.rest) = '\x00'
    · refine Or.inr ⟨⟨hrange.1, hrange.2, by rw [hget]; exact hend⟩, _, by rw [decide_eq_true hend],
        rfl, rfl, reduced_toNat platform _, u16_reducedCount hrange.2, ?_⟩
      intro hset
      rw [hget] at hset
      cases hset
    · refine Or.inl ⟨fun h => hend ?_, _, by rw [decide_eq_false hend]⟩
      have hrest := h.rest
      rw [hget] at hrest
      exact hrest
  · rw [parseDeviceAndRange_none hw hrange]
    exact Or.inl ⟨fun h => hrange ⟨h.order, h.count⟩, _, rfl⟩

/-- A set line. -/
theorem parse_written_set {args : List Char} {w : WrittenCommand} (hargs : setArguments line = some args)
    (hw : writtenRange args = some (w.range, w.rest)) (hset : w.isSet = true) :
    (¬PassesChecks cfg platform w ∧ ∃ cmd, parseCommand cfg platform line = some (false, cmd)) ∨
    (PassesChecks cfg platform w ∧ FX5_CLIENT_MAX_VALUES cfg < w.reducedCount platform ∧
      parseCommand cfg platform line = none) ∨
    (PassesChecks cfg platform w ∧ w.reducedCount platform ≤ FX5_CLIENT_MAX_VALUES cfg ∧
      ∃ cmd, parseCommand cfg platform line = some (true, cmd) ∧
        cmd.type = .set ∧ ReadReduced platform w cmd) := by
  rw [parseCommand_set hargs, parseSet]
  by_cases hrange : reduced platform w.range.start ≤ reduced platform w.range.stop ∧
      w.reducedCount platform ≤ 65535
  · simp only [parseDeviceAndRange_some hw hrange.1 hrange.2]
    by_cases heq : peek (skipSpaces w.rest) = '='
    · have hpass : PassesChecks cfg platform w ↔
          ValuesPass cfg platform w.range.device (w.reducedCount platform) w.values := by
        constructor
        · intro h
          have hrest := h.rest
          rw [hset, if_pos rfl] at hrest
          exact hrest.2
        · intro h
          exact ⟨hrange.1, hrange.2, by rw [hset, if_pos rfl]; exact ⟨heq, h⟩⟩
      have hcount := u16_reducedCount hrange.2
      rw [if_neg (not_not.mpr heq), hcount, hpass]
      rcases @parseValues_cases cfg platform w.range.device
        { commandInit cfg with
          type := .set
          device := w.range.device
          startAddress := BitVec.ofNat 32 (reduced platform w.range.start)
          count := BitVec.ofNat 16 (u16 (w.reducedCount platform)) }
        w.values (w.reducedCount platform) List.length_replicate with
        hreject | houtside | ⟨hvalues, hfit, values, scalar, flag, hitems, haccept⟩
      · exact Or.inl hreject
      · exact Or.inr (Or.inl houtside)
      · refine Or.inr (Or.inr ⟨hvalues, hfit, _, haccept, rfl, rfl, reduced_toNat platform _, hcount,
          fun _ hpos => ⟨values, (commandInit cfg).values.drop (w.reducedCount platform), ?_, ?_, ?_⟩⟩)
        · refine hitems ?_
          rw [← hcount]
          exact hpos
        · show spread _ values ++ _ =
            spread (BitVec.ofNat 16 (u16 (w.reducedCount platform))).toNat values ++ _
          rw [hcount]
        · show BitVec.ofNat 16 _ = BitVec.ofNat 16 (u16 _)
          rw [u16_of_lt (by have := hrange.2; omega)]
    · rw [if_pos heq]
      refine Or.inl ⟨fun h => heq ?_, _, rfl⟩
      have hrest := h.rest
      rw [hset, if_pos rfl] at hrest
      exact hrest.1
  · rw [parseDeviceAndRange_none hw hrange]
    exact Or.inl ⟨fun h => hrange ⟨h.order, h.count⟩, _, rfl⟩

/-- The arguments that a written line was read from. -/
theorem writtenCommand_cases {w : WrittenCommand} (h : writtenCommand line = some w) :
    (∃ args, getArguments line = some args ∧ writtenRange args = some (w.range, w.rest) ∧
      w.isSet = false) ∨
    (∃ args, setArguments line = some args ∧ writtenRange args = some (w.range, w.rest) ∧
      w.isSet = true) := by
  unfold writtenCommand at h
  split at h
  · rename_i args hargs
    obtain ⟨⟨range, rest⟩, hrange, rfl⟩ := Option.map_eq_some_iff.mp h
    exact Or.inl ⟨args, hargs, hrange, rfl⟩
  split at h
  · rename_i args hargs
    obtain ⟨⟨range, rest⟩, hrange, rfl⟩ := Option.map_eq_some_iff.mp h
    exact Or.inr ⟨args, hargs, hrange, rfl⟩
  · cases h

/-- **A written line** is rejected, stored outside the array, or read with its reduced numbers. -/
theorem parse_written {w : WrittenCommand} (h : writtenCommand line = some w) :
    (¬PassesChecks cfg platform w ∧ ∃ cmd, parseCommand cfg platform line = some (false, cmd)) ∨
    (PassesChecks cfg platform w ∧ parseCommand cfg platform line = none) ∨
    (PassesChecks cfg platform w ∧ ∃ cmd, parseCommand cfg platform line = some (true, cmd) ∧
      ReadReduced platform w cmd) := by
  rcases writtenCommand_cases h with ⟨args, hargs, hw, hget⟩ | ⟨args, hargs, hw, hset⟩
  · rcases @parse_written_get cfg platform line args w hargs hw hget with
      hreject | ⟨hpass, cmd, haccept, _, hread⟩
    · exact Or.inl hreject
    · exact Or.inr (Or.inr ⟨hpass, cmd, haccept, hread⟩)
  · rcases @parse_written_set cfg platform line args w hargs hw hset with
      hreject | ⟨hpass, _, houtside⟩ | ⟨hpass, _, cmd, haccept, _, hread⟩
    · exact Or.inl hreject
    · exact Or.inr (Or.inl ⟨hpass, houtside⟩)
    · exact Or.inr (Or.inr ⟨hpass, cmd, haccept, hread⟩)

/-- **A line with no range to read** is no accepted get or set line. -/
theorem parse_unwritten (h : writtenCommand line = none) :
    ∃ ok cmd, parseCommand cfg platform line = some (ok, cmd) ∧
      (ok = true → cmd.type ≠ .get ∧ cmd.type ≠ .set) := by
  unfold writtenCommand at h
  split at h
  · rename_i args hargs
    rw [parseCommand_get hargs, parseGet, parseDeviceAndRange_written, Option.map_eq_none_iff.mp h]
    exact ⟨false, _, rfl, by simp⟩
  rename_i hget
  split at h
  · rename_i args hargs
    rw [parseCommand_set hargs, parseSet, parseDeviceAndRange_written, Option.map_eq_none_iff.mp h]
    exact ⟨false, _, rfl, by simp⟩
  · rename_i hset
    obtain ⟨ok, cmd, hparse, htype⟩ := @parseCommand_neither cfg platform line hget hset
    exact ⟨ok, cmd, hparse, fun _ => htype⟩

end Lines

/-! ## Exactness -/

section Exact

variable {platform : Platform} {w : WrittenCommand} {cmd : ParsedCommand}

/-- The reduced numbers of a representable line are its own. -/
theorem ReadReduced.exactly (hread : ReadReduced platform w cmd) (hw : ¬Unrepresentable w) :
    ReadExactly w cmd := by
  simp only [Unrepresentable, not_or, Nat.not_le, Nat.not_lt, not_and, not_exists] at hw
  obtain ⟨hstart, hstop, horder, hpoints, hvalues⟩ := hw
  rw [PointRange.points] at hpoints
  have hcount : cmd.count.toNat = w.range.stop - w.range.start + 1 := by
    rw [hread.count, WrittenCommand.reducedCount, reduced_of_lt hstart, reduced_of_lt hstop]
    exact u32_of_lt (by omega)
  refine ⟨hread.device, by rw [hread.start, reduced_of_lt hstart], by omega, ⟨by omega, by omega⟩,
    fun hset => ?_⟩
  obtain ⟨values, unused, hitems, hstored, hvalueCount⟩ := hread.values hset (by omega)
  refine ⟨values, unused, ?_, hstored, hvalueCount⟩
  refine List.forall₂_iff_get.mpr ⟨hitems.length_eq, fun i h₁ h₂ => ?_⟩
  exact (hitems.get h₁ h₂).exactly (hvalues hset _ (List.get_mem _ _))

/-- **Numerals are read exactly or the line is rejected**, for every line, unless the reduced
numbers of the line pass the checks although one of its own is unrepresentable. -/
theorem numerals_exact_iff (cfg : Config) (platform : Platform) (line : List Char) :
    NumeralsExact cfg platform line ↔
      ¬∃ w, writtenCommand line = some w ∧ PassesChecks cfg platform w ∧ Unrepresentable w := by
  constructor
  · rintro ⟨_, hrejected⟩ ⟨w, hw, hpass, hbad⟩
    obtain ⟨cmd, hreject⟩ := hrejected w hw hbad
    rcases @parse_written cfg platform line w hw with
      ⟨hno, _⟩ | ⟨_, houtside⟩ | ⟨_, cmd', haccept, _⟩
    · exact hno hpass
    · rw [hreject] at houtside
      cases houtside
    · rw [hreject] at haccept
      cases haccept
  · intro hno
    refine ⟨fun cmd hparse htype => ?_, fun w hw hbad => ?_⟩
    · cases hw : writtenCommand line with
      | none =>
        obtain ⟨ok, cmd', hparse', hneither⟩ := @parse_unwritten cfg platform line hw
        rw [hparse] at hparse'
        cases hparse'
        obtain ⟨hget, hset⟩ := hneither rfl
        exact absurd htype (not_or.mpr ⟨hget, hset⟩)
      | some w =>
        rcases @parse_written cfg platform line w hw with
          ⟨_, cmd', hreject⟩ | ⟨_, houtside⟩ | ⟨hpass, cmd', haccept, hread⟩
        · rw [hparse] at hreject
          cases hreject
        · rw [hparse] at houtside
          cases houtside
        · rw [hparse] at haccept
          cases haccept
          exact ⟨w, rfl, hread.exactly fun hbad => hno ⟨w, hw, hpass, hbad⟩⟩
    · rcases @parse_written cfg platform line w hw with
        ⟨_, hreject⟩ | ⟨hpass, _⟩ | ⟨hpass, _⟩
      · exact hreject
      · exact absurd ⟨w, hw, hpass, hbad⟩ hno
      · exact absurd ⟨w, hw, hpass, hbad⟩ hno

/-- `get D4294967296` is accepted, and reads D0. -/
theorem wrapped_start_accepted : ¬NumeralsExact .default lp64 "get D4294967296".toList := by
  rintro ⟨_, hrejected⟩
  have hwritten : writtenCommand "get D4294967296".toList =
      some ⟨false, ⟨.D, 4294967296, 4294967296⟩, []⟩ := by decide +kernel
  obtain ⟨cmd, hreject⟩ := hrejected _ hwritten (Or.inl (Nat.le_refl _))
  have hget : getArguments "get D4294967296".toList = some " D4294967296".toList := by decide
  have hrange : parseDeviceAndRange lp64 " D4294967296".toList = some (.D, 0, 1, []) := by
    decide +kernel
  rw [parseCommand_get hget, parseGet, hrange] at hreject
  cases hreject

end Exact

end Fx5
