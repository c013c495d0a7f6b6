import Fx5Slmp.ClientParser
import Fx5Slmp.RequestDecoding

/-!
# From the text of a write to the frame on the wire

A set line as the client's documentation describes it: device, start and end of a range in the
device's base, and a value for each point or one value for all of them.  The line is parsed,
applied to the protocol context and built, and the reference decoder reads the frame.

* `parseDeviceAndRange_text`, `parseListLoop_text`, `parseScalarOrList_text` — the parser reads
  the parts of the line as they were written;
* `setWriteValuesLoop_values` — the loop over the values writes each of them;
* `set_line_to_wire` — the frame is the batch write that the line describes.
-/

set_option autoImplicit false

namespace Fx5

open CheckedMem CText PackedBits

/-! ## The text of a write -/

/-- Addressing: X and Y octal; B, W, SB and SW hexadecimal; the others decimal. -/
def documentedBase : Device → Nat
  | .X | .Y => 8
  | .B | .W | .SB | .SW => 16
  | _ => 10

/-- How a line names a device. -/
def deviceName : Device → List Char
  | .M => "M".toList
  | .SM => "SM".toList
  | .L => "L".toList
  | .F => "F".toList
  | .S => "S".toList
  | .X => "X".toList
  | .Y => "Y".toList
  | .B => "B".toList
  | .SB => "SB".toList
  | .D => "D".toList
  | .SD => "SD".toList
  | .W => "W".toList
  | .SW => "SW".toList
  | .other _ _ => []

/-- The devices that are not read-only, with their names. -/
def writableDevices : List (Device × List Char) :=
  [(.M, "M".toList), (.X, "X".toList), (.Y, "Y".toList), (.L, "L".toList), (.F, "F".toList),
    (.S, "S".toList), (.B, "B".toList), (.D, "D".toList), (.W, "W".toList)]

/-- A value as a line writes it: a decimal numeral, or for a bit device a boolean word. -/
inductive ValueText (device : Device) : List Char → Word → Prop where
  | numeral {text : List Char} {n : Nat} (h : IsNumeral 10 text n) (hn : n ≤ 65535) :
      ValueText device text (BitVec.ofNat 16 n)
  | bool (b : Bool) (h : isBitDevice device = true) :
      ValueText device (if b then "true".toList else "false".toList) (if b then 1 else 0)

def joinCommas : List (List Char) → List Char
  | [] => []
  | [text] => text
  | text :: texts => text ++ ',' :: joinCommas texts

/-- The value text for `count` points: a list with a value for each, or one value for all. -/
inductive ValuesText (device : Device) (count : Nat) : List Char → List Word → Prop where
  | list (items : List (List Char × Word)) (h : ∀ item ∈ items, ValueText device item.1 item.2)
      (hlen : items.length = count) :
      ValuesText device count (joinCommas (items.map Prod.fst)) (items.map Prod.snd)
  | single {text : List Char} {v : Word} (h : ValueText device text v) :
      ValuesText device count text (List.replicate count v)

theorem ValuesText.length {device : Device} {count : Nat} {text : List Char} {values : List Word}
    (h : ValuesText device count text values) : values.length = count := by
  cases h with
  | single h => exact List.length_replicate
  | list items hitems hlen => rw [List.length_map, hlen]

/-- `set <name><start>-<name><stop>=<values>`. -/
def setLine (name start stop values : List Char) : List Char :=
  "set ".toList ++ (name ++ (start ++ ('-' :: (name ++ (stop ++ ('=' :: values))))))

/-- The payload of a write of these values. -/
def valuesPayload (device : Device) (values : List Word) : Payload :=
  if isBitDevice device then .bits (values.map (· != 0)) else .words values

theorem mem_writableDevices {device : Device} (h : isSupportedDevice device = true)
    (hwritable : device ∉ [.SM, .SD, .SB, .SW]) :
    (device, deviceName device) ∈ writableDevices := by
  cases device with
  | other code hcode => cases h
  | SM | SD | SB | SW => exact absurd (by decide) hwritable
  | _ => decide

/-! ## Reading an address -/

section Parse

variable {cfg : Config} {platform : Platform} {device : Device} {name : List Char}

/-- The first four descriptors have names of two letters. -/
theorem fourNames : ∀ desc ∈ FX5_CLIENT_DEVICE_DESCRIPTORS.take 4,
    ∃ d ∈ ['M', 'D', 'B', 'W'], desc.name = ['S', d] := by
  simp [FX5_CLIENT_DEVICE_DESCRIPTORS]

/-- **A name in front of a digit is found**: no earlier descriptor stands there. -/
theorem parseDevicePrefix_descriptor {desc : DeviceDescriptor}
    (h : desc ∈ FX5_CLIENT_DEVICE_DESCRIPTORS) {rest : List Char}
    (hrest : isDigitIn desc.base (peek rest) = true) :
    parseDevicePrefix (desc.name ++ rest) = some (desc, rest) := by
  have hnul := (plain_of_isAlphanum (isAlphanum_of_isDigitIn hrest)).2.2.2.2.2
  rw [eq_cons_of_peek rfl hnul]
  generalize hc : peek rest = c at hrest
  simp only [FX5_CLIENT_DEVICE_DESCRIPTORS, List.mem_cons, List.not_mem_nil, or_false] at h
  rcases h with rfl | rfl | rfl | rfl | rfl | rfl | rfl | rfl | rfl | rfl | rfl | rfl | rfl
  case inr.inr.inr.inr.inr.inr.inr.inr.inr.inr.inl =>
    -- S is the first letter of four other names, but none of their second letters is a digit
    have hfour : ∀ desc ∈ FX5_CLIENT_DEVICE_DESCRIPTORS.take 4,
        ¬startsWith ("S".toList ++ c :: rest.drop 1) desc.name = true := by
      intro desc hdesc hstart
      obtain ⟨d, hd, hname⟩ := fourNames desc hdesc
      rw [hname] at hstart
      obtain ⟨rest', hrest'⟩ := startsWith_iff.mp hstart
      obtain rfl : c = d := (List.cons.inj (List.cons.inj hrest').2).1
      simp only [List.mem_cons, List.not_mem_nil, or_false] at hd
      rcases hd with rfl | rfl | rfl | rfl <;> exact absurd hrest (by decide)
    rw [parseDevicePrefix, ← List.take_append_drop 4 FX5_CLIENT_DEVICE_DESCRIPTORS,
      List.find?_append, List.find?_eq_none.mpr hfour]
    rfl
  all_goals rfl

/-- In front of a digit of its base, the name of a device is its first descriptor. -/
theorem parseDevicePrefix_name (hdevice : (device, name) ∈ writableDevices) {rest : List Char}
    (hrest : isDigitIn (documentedBase device) (peek rest) = true) :
    parseDevicePrefix (name ++ rest) = some (⟨name, device, documentedBase device⟩, rest) := by
  have hmem : (⟨name, device, documentedBase device⟩ : DeviceDescriptor) ∈
      FX5_CLIENT_DEVICE_DESCRIPTORS := by
    simp only [writableDevices, List.mem_cons, Prod.mk.injEq, List.not_mem_nil, or_false] at hdevice
    rcases hdevice with ⟨rfl, rfl⟩ | ⟨rfl, rfl⟩ | ⟨rfl, rfl⟩ | ⟨rfl, rfl⟩ | ⟨rfl, rfl⟩ |
      ⟨rfl, rfl⟩ | ⟨rfl, rfl⟩ | ⟨rfl, rfl⟩ | ⟨rfl, rfl⟩
    all_goals simp [FX5_CLIENT_DEVICE_DESCRIPTORS, documentedBase]
  exact parseDevicePrefix_descriptor hmem hrest

/-- A numeral that fits into 32 bits is read exactly, up to what ends it. -/
theorem parseUint32CursorBase_numeral (platform : Platform) {base n : Nat} {text : List Char}
    (h : IsNumeral base text n) (hbase : base ≤ 16) (hn : n < 4294967296) {sep : Char}
    (hsep : sep.isAlphanum = false) (rest : List Char) :
    parseUint32CursorBase platform (text ++ sep :: rest) base = some (n, sep :: rest) := by
  have hdigit : isXDigit (peek (text ++ sep :: rest)) = true :=
    isDigitIn_mono hbase (h.peek_append (sep :: rest))
  have hstop : isDigitIn base (peek (sep :: rest)) = false := by
    rw [peek_cons, isDigitIn, hsep, Bool.false_and]
  have hx : peek (sep :: rest) ≠ 'x' ∧ peek (sep :: rest) ≠ 'X' := by
    constructor
    · rintro rfl
      exact absurd hsep (by decide)
    · rintro rfl
      exact absurd hsep (by decide)
  have hmax := platform.ulong_max_ge
  have hmoved : sep :: rest ≠ text ++ sep :: rest := by
    intro heq
    have hlen := congrArg List.length heq
    have hpos := List.length_pos_of_ne_nil h.nonempty
    rw [List.length_append] at hlen
    omega
  rw [parseUint32CursorBase, strtoul_numeral h hstop hx, Nat.min_eq_left (by omega), hdigit]
  simp only [Bool.not_true, Bool.false_eq_true, if_false, if_neg hmoved, u32_of_lt hn]

/-- The name of a writable device is one letter. -/
theorem name_letter (hdevice : (device, name) ∈ writableDevices) :
    ∃ c, name = [c] ∧ c.isAlpha = true ∧ isSpace c = false ∧ c ≠ '\x00' := by
  have hall : ∀ row ∈ writableDevices,
      row.2 = [row.2.headD ' '] ∧ (row.2.headD ' ').isAlpha = true := by
    decide
  obtain ⟨hname, halpha⟩ := hall _ hdevice
  have hplain : (name.headD ' ').isAlphanum = true := by
    rw [Char.isAlphanum, halpha, Bool.true_or]
  exact ⟨_, hname, halpha, (plain_of_isAlphanum hplain).1,
    (plain_of_isAlphanum hplain).2.2.2.2.2⟩

theorem documentedBase_le (device : Device) : documentedBase device ≤ 16 := by
  unfold documentedBase
  split <;> decide

/-- The end of a range with its device repeated. -/
theorem parseRangeEnd_text (platform : Platform) (hdevice : (device, name) ∈ writableDevices)
    {stop : Nat} {text : List Char} (hstop : IsNumeral (documentedBase device) text stop)
    (hlt : stop < 4294967296) (rest : List Char) :
    parseRangeEnd platform ⟨name, device, documentedBase device⟩ (name ++ (text ++ '=' :: rest)) =
      some (stop, '=' :: rest) := by
  have hname := parseDevicePrefix_name hdevice (hstop.peek_append ('=' :: rest))
  have hnumeral := parseUint32CursorBase_numeral platform hstop (documentedBase_le device) hlt
    (by decide : '='.isAlphanum = false) rest
  obtain ⟨c, rfl, halpha, hspace, _⟩ := name_letter hdevice
  have hpeek : peek ([c] ++ (text ++ '=' :: rest)) = c := rfl
  rw [parseRangeEnd, skipSpaces_of_not_space (hpeek.symm ▸ hspace), skipEndDevice, hpeek,
    if_pos halpha, hname]
  simp only [ne_eq, not_true_eq_false, if_false, Option.bind_eq_bind, Option.bind_some]
  exact hnumeral

/-- **The range of a line is read as it was written.** -/
theorem parseDeviceAndRange_text (platform : Platform)
    (hdevice : (device, name) ∈ writableDevices) {start stop : Nat}
    {startText stopText : List Char}
    (hstart : IsNumeral (documentedBase device) startText start)
    (hstop : IsNumeral (documentedBase device) stopText stop) (hle : start ≤ stop)
    (hlt : stop < 4294967296) (hcount : stop - start + 1 ≤ 0xFFFF) (rest : List Char) :
    parseDeviceAndRange platform
        (' ' :: (name ++ (startText ++ '-' :: (name ++ (stopText ++ '=' :: rest))))) =
      some (device, start, stop - start + 1, '=' :: rest) := by
  have hend := parseRangeEnd_text platform hdevice hstop hlt rest
  have hname := parseDevicePrefix_name hdevice
    (hstart.peek_append ('-' :: (name ++ (stopText ++ '=' :: rest))))
  have hnumeral := parseUint32CursorBase_numeral platform hstart (documentedBase_le device)
    (by omega) (by decide : '-'.isAlphanum = false) (name ++ (stopText ++ '=' :: rest))
  obtain ⟨c, hletter, _, hspace, hnul⟩ := name_letter hdevice
  have hpeek : ∀ text, peek (name ++ text) = c := fun text => by rw [hletter]; rfl
  have hskip : ∀ text, skipSpaces (' ' :: (name ++ text)) = name ++ text := by
    intro text
    show skipSpaces (name ++ text) = name ++ text
    exact skipSpaces_of_not_space (by rw [hpeek]; exact hspace)
  rw [parseDeviceAndRange]
  simp only [hskip, hpeek, if_neg hnul, hname, Option.bind_eq_bind, Option.bind_some, hnumeral]
  rw [skipSpaces_of_not_space rfl, peek_cons, if_pos rfl]
  simp only [List.drop_one, List.tail_cons, hend, Option.bind_some]
  rw [if_neg (Nat.not_lt_of_le hle), u32_of_lt (by omega), if_neg (by omega), u16_of_lt (by omega)]

/-! ## Reading the values -/

/-- A boolean word does not begin with a digit. -/
theorem parseBoolWord_digit {p : List Char} (h : (peek p).isDigit = true) :
    parseBoolWord p = none := by
  cases hword : parseBoolWord p with
  | none => rfl
  | some result =>
    obtain ⟨b, len⟩ := result
    obtain ⟨rest, rfl, _⟩ := parseBoolWord_cases hword
    cases b <;> exact absurd h (by simp)

/-- A boolean word in front of a comma or the end of the line. -/
theorem parseBoolWord_text (b : Bool) {rest : List Char} (hrest : peek rest = ',' ∨ rest = []) :
    parseBoolWord ((if b then "true".toList else "false".toList) ++ rest) =
      some (b, if b then 4 else 5) := by
  have hboundary : isTokenBoundary (peek rest) = true := by
    rcases hrest with hcomma | rfl
    · rw [hcomma]
      decide
    · decide
  cases b with
  | true => exact if_pos (Bool.and_eq_true_iff.mpr ⟨rfl, hboundary⟩)
  | false =>
    have hnot : ¬(startsWith ("false".toList ++ rest) "true".toList &&
        isTokenBoundary (peek (("false".toList ++ rest).drop 4))) = true := nofun
    exact (if_neg hnot).trans (if_pos (Bool.and_eq_true_iff.mpr ⟨rfl, hboundary⟩))

/-- A value is read as it was written, in front of a comma or the end of the line. -/
theorem parseListItem_text {text rest : List Char} {v : Word} (h : ValueText device text v)
    (hrest : peek rest = ',' ∨ rest = []) :
    parseListItem platform device (text ++ rest) = some (v, rest) := by
  cases h with
  | bool b hbit =>
    rw [parseListItem, clientDeviceIsBit_eq, if_pos hbit, parseBoolWord_text b hrest]
    cases b <;> rfl
  | numeral hnum hn =>
    rename_i n
    have hdigit : (peek (text ++ rest)).isDigit = true := by
      rw [← isDigitIn_ten]
      exact hnum.peek_append rest
    have hdigits : ∀ c ∈ text, c.isDigit = true := fun c hc => by
      rw [← isDigitIn_ten]
      exact hnum.digits c hc
    have hstop : rest.takeWhile Char.isDigit = [] ∧ rest.dropWhile Char.isDigit = rest := by
      rcases hrest with hcomma | rfl
      · rw [eq_cons_of_peek hcomma (by decide)]
        exact ⟨rfl, rfl⟩
      · exact ⟨rfl, rfl⟩
    have hmax := platform.ulong_max_ge
    have hcursor : parseUint32Cursor platform (text ++ rest) = some (n, rest) := by
      rw [parseUint32Cursor_spec, if_pos hdigit, List.takeWhile_append_of_pos hdigits,
        List.dropWhile_append_of_pos hdigits, hstop.1, hstop.2, List.append_nil, hnum.value,
        Nat.min_eq_left (by omega), u32_of_lt (by omega)]
    rw [parseListItem, parseBoolWord_digit hdigit, ite_self, hcursor]
    simp only [Option.bind_eq_bind, Option.bind_some]
    rw [if_neg (by omega)]

theorem joinCommas_cons (text : List Char) (texts : List (List Char)) :
    ∃ rest, joinCommas (text :: texts) = text ++ rest ∧
      ((texts = [] ∧ rest = []) ∨ (texts ≠ [] ∧ rest = ',' :: joinCommas texts)) := by
  cases texts with
  | nil => exact ⟨[], (List.append_nil text).symm, Or.inl ⟨rfl, rfl⟩⟩
  | cons text' texts => exact ⟨_, rfl, Or.inr ⟨List.cons_ne_nil _ _, rfl⟩⟩

/-- A value begins with a letter or a digit. -/
theorem peek_valueText {text : List Char} {v : Word} (h : ValueText device text v)
    (rest : List Char) : (peek (text ++ rest)).isAlphanum = true := by
  cases h with
  | bool b hbit => cases b <;> rfl
  | numeral hnum hn => exact isAlphanum_of_isDigitIn (hnum.peek_append rest)

/-- Storing the first of the cells that are still free. -/
theorem set_first_free {before : List Word} {a : Word} (after : List Word) (v : Word) :
    (before ++ a :: after).set before.length v = before ++ [v] ++ after := by
  rw [List.set_append_right _ _ (Nat.le_refl _), Nat.sub_self, List.set_cons_zero,
    List.append_assoc]
  rfl

/-- **The list loop reads a list as it was written.** -/
theorem parseListLoop_text {items : List (List Char × Word)}
    (hitems : ∀ item ∈ items, ValueText device item.1 item.2) {before after : List Word}
    (hlen : (before ++ after).length = FX5_CLIENT_MAX_VALUES cfg)
    (hfit : items.length ≤ after.length) :
    parseListLoop cfg platform device (joinCommas (items.map Prod.fst)) before.length
        (before ++ after) =
      some (true, before.length + items.length,
        before ++ (items.map Prod.snd ++ after.drop items.length)) := by
  induction items generalizing before after with
  | nil =>
    rw [parseListLoop]
    rfl
  | cons item items ih =>
    obtain ⟨text, v⟩ := item
    have hitem := hitems _ List.mem_cons_self
    have htail : ∀ item ∈ items, ValueText device item.1 item.2 := fun item hmem =>
      hitems item (List.mem_cons_of_mem _ hmem)
    cases after with
    | nil => exact absurd hfit (by simp)
    | cons a after =>
      simp only [List.length_append, List.length_cons] at hlen hfit
      obtain ⟨rest, hjoin, hrest⟩ := joinCommas_cons text (items.map Prod.fst)
      have hsep : peek rest = ',' ∨ rest = [] := by
        rcases hrest with ⟨_, rfl⟩ | ⟨_, rfl⟩
        · exact Or.inr rfl
        · exact Or.inl rfl
      rw [List.map_cons, hjoin, parseListLoop_item (parseListItem_text hitem hsep) (by omega)
        (by simp only [List.length_append, List.length_cons]; omega), set_first_free]
      rcases hrest with ⟨hnone, rfl⟩ | ⟨hmore, rfl⟩
      · -- the last item
        obtain rfl := List.map_eq_nil_iff.mp hnone
        simp [skipSpaces]
      · -- a comma and the next item
        have hnext : skipSpaces (joinCommas (items.map Prod.fst)) =
            joinCommas (items.map Prod.fst) := by
          cases items with
          | nil => exact absurd rfl hmore
          | cons next items =>
            obtain ⟨rest', hjoin', _⟩ := joinCommas_cons next.1 (items.map Prod.fst)
            rw [List.map_cons, hjoin']
            exact skipSpaces_of_not_space
              (plain_of_isAlphanum (peek_valueText (htail _ List.mem_cons_self) rest')).1
        have hloop := @ih htail (before ++ [v]) after
          (by simp only [List.length_append, List.length_cons, List.length_nil]; omega) (by omega)
        rw [skipSpaces_of_not_space rfl, peek_cons, if_pos rfl, List.drop_one, List.tail_cons, hnext]
        rw [List.length_append] at hloop
        refine hloop.trans ?_
        simp only [List.length_cons, List.length_nil, List.map_cons, List.append_assoc,
          List.cons_append, List.nil_append, List.drop_succ_cons, Nat.zero_add]
        rw [show before.length + 1 + items.length = before.length + (items.length + 1) by omega]

/-- What an accepted value text leaves in the command. -/
def withValues (cmd : ParsedCommand) (count : Nat) (values : List Word) (scalar flag : Bool) :
    ParsedCommand :=
  { cmd with
    hasScalarValue := scalar
    boolValue := flag
    valueCount := BitVec.ofNat 16 count
    values := values ++ cmd.values.drop count }

/-- The fast path is for a boolean word that ends the line. -/
theorem parseBoolAlone_text {text rest : List Char} {v : Word} (h : ValueText device text v)
    (hrest : peek rest = ',') : parseBoolAlone device (text ++ rest) = none := by
  have hskip : skipSpaces rest = rest := skipSpaces_of_not_space (by rw [hrest]; rfl)
  rw [parseBoolAlone]
  split
  · cases h with
    | bool b hbit =>
      rw [parseBoolWord_text b (Or.inl hrest)]
      have hdrop : ((if b then "true".toList else "false".toList) ++ rest).drop
          (if b then 4 else 5) = rest := by cases b <;> rfl
      simp only [hdrop, hskip, hrest]
      rfl
    | numeral hnum hn =>
      rw [parseBoolWord_digit (by rw [← isDigitIn_ten]; exact hnum.peek_append rest)]
  · rfl

/-- The fast path reads the value as it was written. -/
theorem parseBoolAlone_value {text : List Char} {v : Word} {b : Bool}
    (h : ValueText device text v) (halone : parseBoolAlone device text = some b) :
    (if b then 1 else 0) = v := by
  obtain ⟨len, hword⟩ : ∃ len, parseBoolWord text = some (b, len) := by
    unfold parseBoolAlone at halone
    split at halone
    · split at halone
      · rename_i hword
        split at halone
        · cases halone
          exact ⟨_, hword⟩
        · cases halone
      · cases halone
    · cases halone
  cases h with
  | bool b' hbit =>
    have hword' := parseBoolWord_text b' (Or.inr rfl : peek [] = ',' ∨ [] = [])
    rw [List.append_nil, hword] at hword'
    cases hword'
    rfl
  | numeral hnum hn =>
    have hdigit := hnum.peek_append []
    rw [List.append_nil, isDigitIn_ten] at hdigit
    rw [parseBoolWord_digit hdigit] at hword
    cases hword

variable {cmd : ParsedCommand}

/-- **One value** is stored for every point of the range. -/
theorem parseScalarOrList_single {text : List Char} {v : Word} (h : ValueText device text v)
    (hlen : cmd.values.length = FX5_CLIENT_MAX_VALUES cfg) {count : Nat} (hpos : 1 ≤ count)
    (hfit : count ≤ FX5_CLIENT_MAX_VALUES cfg) :
    ∃ scalar flag, parseScalarOrList cfg platform text device count cmd =
      some (true, withValues cmd count (List.replicate count v) scalar flag) := by
  have hmax := (clientMaxValues_bounds cfg).1
  have halnum := peek_valueText h []
  rw [List.append_nil] at halnum
  obtain ⟨hspace, _, _, _, _, hnul⟩ := plain_of_isAlphanum halnum
  have hloop := @parseListLoop_text cfg platform device [(text, v)]
    (fun item hmem => by rw [List.mem_singleton.mp hmem]; exact h) [] cmd.values hlen
    (by rw [List.length_singleton]; omega)
  rw [parseScalarOrList]
  simp only [skipSpaces_of_not_space hspace, if_neg hnul]
  cases halone : parseBoolAlone device text with
  | some b =>
    -- the fast path for a boolean word
    have hv := parseBoolAlone_value h halone
    refine ⟨true, b, ?_⟩
    simp only [storeBool_eq, hlen, if_pos hfit, hv, Option.bind_eq_bind, Option.bind_some]
    rfl
  | none =>
    simp only [List.length_nil, List.length_singleton, Nat.zero_add, List.nil_append,
      List.map_cons, List.map_nil, joinCommas] at hloop
    simp only [hloop, Option.bind_eq_bind, Option.bind_some, Bool.not_true, Bool.false_eq_true,
      if_false, one_ne_zero, decide_true, Bool.true_and, decide_eq_true_eq]
    have hfirst : ([v] ++ cmd.values.drop 1)[0]? = some v := rfl
    by_cases hone : count > 1
    · -- the broadcast of the item
      have hcells : ([v] ++ cmd.values.drop 1).length = FX5_CLIENT_MAX_VALUES cfg := by
        rw [List.length_append, List.length_singleton, List.length_drop]
        omega
      have hdrop : ([v] ++ cmd.values.drop 1).drop count = cmd.values.drop count := by
        rw [List.drop_append, List.length_singleton, List.drop_drop,
          List.drop_eq_nil_of_le (by rw [List.length_singleton]; omega), List.nil_append,
          Nat.add_sub_cancel' hpos]
      refine ⟨true, v != 0, ?_⟩
      rw [if_pos hone, hfirst, Option.bind_some, storeFirst_eq hfirst hone, hcells, if_pos hfit,
        hdrop]
      rfl
    · obtain rfl : count = 1 := by omega
      refine ⟨cmd.hasScalarValue, cmd.boolValue, ?_⟩
      rw [if_neg hone, if_neg (not_not.mpr rfl)]
      rfl

/-- **A list** is stored value by value. -/
theorem parseScalarOrList_list {items : List (List Char × Word)}
    (hitems : ∀ item ∈ items, ValueText device item.1 item.2) (hmany : 2 ≤ items.length)
    (hlen : cmd.values.length = FX5_CLIENT_MAX_VALUES cfg)
    (hfit : items.length ≤ FX5_CLIENT_MAX_VALUES cfg) :
    parseScalarOrList cfg platform (joinCommas (items.map Prod.fst)) device items.length cmd =
      some (true, withValues cmd items.length (items.map Prod.snd) cmd.hasScalarValue
        cmd.boolValue) := by
  have hloop := @parseListLoop_text cfg platform device items hitems [] cmd.values hlen
    (by omega)
  obtain ⟨hnul, hskip, halone⟩ : peek (joinCommas (items.map Prod.fst)) ≠ '\x00' ∧
      skipSpaces (joinCommas (items.map Prod.fst)) = joinCommas (items.map Prod.fst) ∧
      parseBoolAlone device (joinCommas (items.map Prod.fst)) = none := by
    match items with
    | first :: second :: items =>
      have hfirst := hitems _ List.mem_cons_self
      have hplain := plain_of_isAlphanum (peek_valueText hfirst
        (',' :: joinCommas ((second :: items).map Prod.fst)))
      exact ⟨hplain.2.2.2.2.2, skipSpaces_of_not_space hplain.1, parseBoolAlone_text hfirst rfl⟩
  rw [List.length_nil, List.nil_append, Nat.zero_add, List.nil_append] at hloop
  rw [parseScalarOrList]
  simp only [hskip, if_neg hnul, halone, hloop, Option.bind_eq_bind, Option.bind_some,
    Bool.not_true, Bool.false_eq_true, if_false]
  rw [if_neg (by omega), if_neg (by simp; omega), if_neg (not_not.mpr rfl)]
  rfl

/-- **The values of a line are read as they were written.** -/
theorem parseScalarOrList_text (platform : Platform) (cmd : ParsedCommand) {count : Nat}
    {text : List Char} {values : List Word} (h : ValuesText device count text values) (hpos : 1 ≤ count)
    (hlen : cmd.values.length = FX5_CLIENT_MAX_VALUES cfg)
    (hfit : count ≤ FX5_CLIENT_MAX_VALUES cfg) :
    ∃ scalar flag, parseScalarOrList cfg platform text device count cmd =
      some (true, withValues cmd count values scalar flag) := by
  cases h with
  | single h => exact parseScalarOrList_single h hlen hpos hfit
  | list items hitems hcount =>
    subst hcount
    match items with
    | [item] => exact parseScalarOrList_single (hitems _ List.mem_cons_self) hlen hpos hfit
    | first :: second :: items =>
      exact ⟨_, _, parseScalarOrList_list hitems (by simp) hlen hfit⟩

/-- **A set line is parsed as it was written.** -/
theorem parseCommand_setLine (platform : Platform) (hdevice : (device, name) ∈ writableDevices)
    {start count : Nat}
    {startText stopText valuesText : List Char} {values : List Word}
    (hstart : IsNumeral (documentedBase device) startText start)
    (hstop : IsNumeral (documentedBase device) stopText (start + count - 1))
    (haddress : start ≤ FX5_MAX_ADDRESS) (hpos : 1 ≤ count)
    (hfit : count ≤ FX5_CLIENT_MAX_VALUES cfg)
    (hvalues : ValuesText device count valuesText values) :
    ∃ cmd, parseCommand cfg platform (setLine name startText stopText valuesText) =
        some (true, cmd) ∧
      cmd.type = .set ∧ cmd.device = device ∧ cmd.startAddress = BitVec.ofNat 32 start ∧
      cmd.count = BitVec.ofNat 16 count ∧ cmd.valueCount = BitVec.ofNat 16 count ∧
      ∃ unused, cmd.values = values ++ unused := by
  have hmax := (clientMaxValues_bounds cfg).2
  rw [FX5_MAX_ADDRESS] at haddress
  have hrange := parseDeviceAndRange_text platform hdevice hstart hstop (by omega) (by omega)
    (by omega) valuesText
  have hset : setArguments (setLine name startText stopText valuesText) = some
      (' ' :: (name ++ (startText ++ '-' :: (name ++ (stopText ++ '=' :: valuesText))))) := rfl
  have hcount : (BitVec.ofNat 16 count).toNat = count := by
    rw [BitVec.toNat_ofNat]
    omega
  rw [parseCommand_set hset, parseSet, hrange, show start + count - 1 - start + 1 = count by omega]
  simp only
  rw [skipSpaces_of_not_space rfl, peek_cons, if_neg (not_not.mpr rfl), hcount]
  obtain ⟨scalar, flag, hparsed⟩ := parseScalarOrList_text platform
    { commandInit cfg with
      type := .set
      device := device
      startAddress := BitVec.ofNat 32 start
      count := BitVec.ofNat 16 count }
    hvalues hpos List.length_replicate hfit
  exact ⟨_, hparsed, rfl, rfl, rfl, rfl, rfl, _, rfl⟩

end Parse

/-! ## From the command to the frame -/

section Wire

variable {cfg : Config} {ctx : Context} {cmd : ClientCommand} {settings : NetworkSettings}

/-- **The loop over the values** writes each value at its index; `get` is a view of the value
store in which one write changes one index. -/
theorem setWriteValuesLoop_values {β : Type} {get : List Word → Nat → β} {f : Word → β}
    {values unused : List Word} (hinv : ctx.Inv cfg) (huse : ctx.inUse = true)
    (hget : SingleWrite ctx get f) (hvalues : cmd.values = values ++ unused)
    (hvalueCount : cmd.valueCount.toNat = values.length) (hcount : ctx.count = values.length)
    (i : Nat) :
    ∃ stored, setWriteValuesLoop cfg cmd i ctx = some (.ok, { ctx with values := stored }) ∧
      stored.length = ctx.values.length ∧
      ∀ j, (j < i → get stored j = get ctx.values j) ∧
        (i ≤ j → ∀ v, values[j]? = some v → get stored j = f v) := by
  induction hn : values.length - i generalizing i ctx with
  | zero =>
    refine ⟨ctx.values, ?_, rfl, fun j => ⟨fun _ => rfl, fun hij v hv => ?_⟩⟩
    · rw [setWriteValuesLoop, if_neg (by omega)]
    · rw [List.getElem?_eq_none (by omega)] at hv
      cases hv
  | succ n ih =>
    have hi : i < values.length := by omega
    have hread : cmd.values[i]? = some values[i] := by
      rw [hvalues, List.getElem?_append_left hi, List.getElem?_eq_getElem hi]
    have hlt := hinv.count_lt
    have hindex : (BitVec.ofNat 16 i).toNat = i := by
      rw [BitVec.toNat_ofNat]
      omega
    rcases setWriteValue_cases hinv huse (BitVec.ofNat 16 i) values[i] with
      ⟨failed, _, hge, _⟩ | ⟨_, hres⟩
    · omega
    rw [hindex] at hres
    have hlen₁ := writtenValues_length ctx i values[i]
    have hone := hget ctx.values i values[i] rfl (by omega)
    have hget₁ : SingleWrite { ctx with values := writtenValues ctx i values[i] } get f :=
      fun stored index value hlen => hget stored index value (hlen.trans hlen₁)
    obtain ⟨stored, hloop, hlen, hstored⟩ :=
      ih (hinv.written i values[i]) huse hget₁ hcount (i + 1) (by omega)
    refine ⟨stored, ?_, hlen.trans hlen₁, fun j => ⟨fun hj => ?_, fun hj v hv => ?_⟩⟩
    · rw [setWriteValuesLoop, if_pos (by omega), hread]
      simp only [Option.bind_eq_bind, Option.bind_some, hres, ne_eq, not_true_eq_false, if_false]
      exact hloop
    · rw [(hstored j).1 (by omega)]
      exact (hone j).trans (if_neg (by omega))
    · by_cases hji : j = i
      · subst hji
        rw [List.getElem?_eq_getElem hi] at hv
        cases hv
        rw [(hstored j).1 (by omega)]
        exact (hone j).trans (if_pos rfl)
      · exact (hstored j).2 (by omega) v hv

/-- The written values are the payload of the request. -/
theorem payload_of_loop {values unused : List Word} (hinv : ctx.Inv cfg) (huse : ctx.inUse = true)
    (hvalues : cmd.values = values ++ unused) (hvalueCount : cmd.valueCount.toNat = values.length)
    (hcount : ctx.count = values.length) :
    ∃ stored, setWriteValuesLoop cfg cmd 0 ctx = some (.ok, { ctx with values := stored }) ∧
      stored.length = ctx.values.length ∧
      Context.payload { ctx with values := stored } = valuesPayload ctx.device values := by
  cases hdevice : isBitDevice ctx.device with
  | true =>
    obtain ⟨stored, hloop, hlen, hstored⟩ := setWriteValuesLoop_values hinv huse
      (singleWrite_bits hinv hdevice) hvalues hvalueCount hcount 0
    refine ⟨stored, hloop, hlen, ?_⟩
    simp only [Context.payload, valuesPayload, hdevice, if_true, bitValues, hcount]
    congr 1
    apply List.ext_getElem
    · simp
    · intro i h₁ h₂
      have hi : i < values.length := by simpa using h₂
      simp only [List.getElem_map, List.getElem_range]
      exact (hstored i).2 (Nat.zero_le i) _ (List.getElem?_eq_getElem hi)
  | false =>
    obtain ⟨stored, hloop, hlen, hstored⟩ := setWriteValuesLoop_values hinv huse
      (singleWrite_words hinv hdevice) hvalues hvalueCount hcount 0
    have hword := hinv.word_count_le hdevice
    refine ⟨stored, hloop, hlen, ?_⟩
    simp only [Context.payload, valuesPayload, hdevice, Bool.false_eq_true, if_false, hcount]
    congr 1
    apply List.ext_getElem
    · rw [List.length_take]
      omega
    · intro i h₁ h₂
      have hi : i < stored.length := by
        rw [List.length_take] at h₁
        omega
      have hv := (hstored i).2 (Nat.zero_le i) _ (List.getElem?_eq_getElem h₂)
      rw [List.getD_eq_getElem _ _ hi] at hv
      rw [List.getElem_take]
      exact hv

/-- **A set command is applied**: the context is reset, gets the settings and the request, and
the values are written. -/
theorem applyCommandToContext_set (hinv : ctx.Inv cfg) (huse : ctx.inUse = true)
    (hheader : HeaderAccepted settings.headerType) (hset : cmd.type = .set)
    (hwritable : clientDeviceAllowsWrite cmd.device = true)
    (hacc : RequestAccepted cfg .batchWrite cmd.device cmd.startAddress cmd.count) :
    applyCommandToContext cfg ctx cmd settings = setWriteValuesLoop cfg cmd 0
      (Context.withRequest cfg { contextResetInternal cfg ctx with networkSettings := settings }
        .batchWrite cmd.device cmd.startAddress cmd.count) := by
  have hio : clientCommandNeedsPlcIo cmd = true := by
    rw [clientCommandNeedsPlcIo, hset]
    rfl
  have huse' : (contextResetInternal cfg ctx).inUse = true := huse
  have hsettings : setNetworkSettings (contextResetInternal cfg ctx) (some settings) =
      (.ok, { contextResetInternal cfg ctx with networkSettings := settings }) := by
    rw [setNetworkSettings, requireAcquired_ok huse']
    simp only
    rw [if_neg]
    rintro ⟨h3, h4⟩
    exact hheader.elim h3 h4
  obtain ⟨hinv₀, _, _⟩ := reset_settings_spec hinv huse hheader
  unfold applyCommandToContext
  rw [hio, hwritable, reset, requireAcquired_ok huse]
  simp only [Bool.not_true, Bool.false_eq_true, if_false, Bool.and_false, hsettings]
  rw [if_neg (by rw [hset]; decide)]
  rcases setRequest_cases hinv₀.values huse' .batchWrite cmd.device cmd.startAddress cmd.count with
    ⟨failed, _, hnot, _⟩ | ⟨_, hres⟩
  · exact absurd hacc hnot
  · rw [hres]
    simp only [Option.bind_eq_bind, Option.bind_some, ne_eq, not_true_eq_false, if_false]

/-- **From text to wire.**  For every device that is not read-only, every range within the limits
of the library and every value text, the set line is parsed, applied and built, and the frame is
the batch write of these values with the configured settings. -/
theorem set_line_to_wire (hctx : Acquired cfg ctx) (platform : Platform) {device : Device}
    (hdevice : isSupportedDevice device = true) (hwritable : device ∉ [.SM, .SD, .SB, .SW])
    {start count : Nat} {startText stopText valuesText : List Char} {values : List Word}
    (hstart : IsNumeral (documentedBase device) startText start)
    (hstop : IsNumeral (documentedBase device) stopText (start + count - 1))
    (haddress : start ≤ FX5_MAX_ADDRESS) (hpos : 1 ≤ count)
    (hmax : count ≤ getMaxValueCount cfg device)
    (hvalues : ValuesText device count valuesText values)
    (hheader : HeaderAccepted settings.headerType) {outBuf : List Byte} {outBufSize : Word}
    (hroom : FX5_MAX_REQUEST_SIZE cfg ≤ outBufSize.toNat)
    (hout : outBufSize.toNat ≤ outBuf.length) (actualSize : Nat) :
    ∃ (cmd : ParsedCommand) (ctx' : Context) (r : BuildResult),
      parseCommand cfg platform (setLine (deviceName device) startText stopText valuesText) =
        some (true, cmd) ∧
      applyCommandToContext cfg ctx cmd.toClientCommand settings = some (.ok, ctx') ∧
      buildRequest cfg ctx' outBuf outBufSize actualSize = some r ∧ r.status = .ok ∧
      decodeRequest (r.outBuf.take r.actualSize) = some
        { settings := settings
          serial := if settings.headerType = .h4E then some 0 else none
          pdu := ⟨.batchWrite, device, start, count, some (valuesPayload device values)⟩ } := by
  obtain ⟨hinv, huse⟩ := acquired_inv hctx
  have hfit : count ≤ FX5_CLIENT_MAX_VALUES cfg := by
    refine Nat.le_trans hmax ?_
    rw [FX5_CLIENT_MAX_VALUES, maxBitValueCount_eq]
    exact getMaxValueCount_le cfg device
  have hlimit := (clientMaxValues_bounds cfg).2
  obtain ⟨cmd, hparse, htype, hcmdDevice, hcmdStart, hcmdCount, hcmdValueCount, unused, hcmdValues⟩ :=
    parseCommand_setLine platform (mem_writableDevices hdevice hwritable) hstart hstop haddress hpos
      hfit hvalues
  have hcount : (BitVec.ofNat 16 count).toNat = count := by
    rw [BitVec.toNat_ofNat]
    omega
  have hstart' : (BitVec.ofNat 32 start).toNat = start := by
    rw [FX5_MAX_ADDRESS] at haddress
    rw [BitVec.toNat_ofNat]
    omega
  have hallows : clientDeviceAllowsWrite device = true :=
    (client_device_tables device).2.trans (deviceAllowsWrite_of_not_mem hwritable)
  have hacc : RequestAccepted cfg .batchWrite device (BitVec.ofNat 32 start)
      (BitVec.ofNat 16 count) := by
    rw [RequestAccepted, hcount, hstart']
    exact ⟨by omega, haddress, rfl, hdevice, hmax⟩
  have happly := applyCommandToContext_set hinv huse hheader htype (by rw [hcmdDevice]; exact hallows)
    (by rw [hcmdDevice, hcmdStart, hcmdCount]; exact hacc)
  rw [hcmdDevice, hcmdStart, hcmdCount] at happly
  obtain ⟨hinv₀, huse₀, _⟩ := reset_settings_spec hinv huse hheader
  have hinv₁ := hinv₀.withRequest hacc
  have hlen : values.length = count := hvalues.length
  -- the values are in the context
  obtain ⟨stored, hloop, hstored, hpayload⟩ := payload_of_loop hinv₁ huse₀ hcmdValues
    (by rw [hcmdValueCount, hcount, hlen]) (hcount.trans hlen.symm)
  have hinv₂ : Context.Inv cfg { Context.withRequest cfg
      { contextResetInternal cfg ctx with networkSettings := settings } .batchWrite device
      (BitVec.ofNat 32 start) (BitVec.ofNat 16 count) with values := stored } :=
    { hinv₁ with values := hstored.trans hinv₁.values }
  have hvalid := valid_of_accepted hinv₀ hacc (fun _ => hwritable) stored
  have hbuild := buildRequest_spec hinv₂ huse₀ hvalid hout
    (Nat.le_trans (requestBytes_length hinv₂).2 hroom) actualSize
  refine ⟨cmd, _, _, hparse, happly.trans hloop, hbuild, rfl, ?_⟩
  rw [List.take_left' rfl, decodeRequest_requestBytes hinv₂, hpayload]
  simp only [Context.withRequest, hcount, hstart', if_true]
  rfl

/-- Two bits of B, in hexadecimal. -/
theorem hex_write_to_wire :
    ∃ (cmd : ParsedCommand) (ctx' : Context) (r : BuildResult),
      parseCommand .smallest ⟨0xFFFFFFFF, by decide⟩ "set B1E-B1F=true,0".toList =
        some (true, cmd) ∧
      applyCommandToContext .smallest (contextAfter .smallest [.acquire]) cmd.toClientCommand
        otherSettings = some (.ok, ctx') ∧
      buildRequest .smallest ctx' (List.replicate 49 0) 49 0 = some r ∧ r.status = .ok ∧
      decodeRequest (r.outBuf.take r.actualSize) = some
        ⟨otherSettings, some 0, .batchWrite, .B, 0x1E, 2, some (.bits [true, false])⟩ := by
  have hctx : Acquired .smallest (contextAfter .smallest [.acquire]) :=
    acquired_contextAfter (by decide +kernel)
  have hstart : IsNumeral (documentedBase .B) "1E".toList 0x1E :=
    ⟨by decide, List.all_eq_true.mp (by decide), by decide⟩
  have hstop : IsNumeral (documentedBase .B) "1F".toList 0x1F :=
    ⟨by decide, List.all_eq_true.mp (by decide), by decide⟩
  have hzero : ValueText .B "0".toList 0 :=
    .numeral ⟨by decide, List.all_eq_true.mp (by decide), by decide⟩ (by decide)
  have hvalues : ValuesText .B 2 "true,0".toList [1, 0] :=
    .list [("true".toList, 1), ("0".toList, 0)] (by
      intro item hmem
      simp only [List.mem_cons, List.not_mem_nil, or_false] at hmem
      rcases hmem with rfl | rfl
      · exact .bool true rfl
      · exact hzero) rfl
  have hroom : FX5_MAX_REQUEST_SIZE .smallest ≤ (49 : Word).toNat := by decide
  have hout : (49 : Word).toNat ≤ (List.replicate 49 (0 : Byte)).length := by decide
  have hheader : HeaderAccepted otherSettings.headerType := Or.inr rfl
  have hline : setLine (deviceName .B) "1E".toList "1F".toList "true,0".toList =
      "set B1E-B1F=true,0".toList := by decide
  rw [← hline]
  exact set_line_to_wire hctx ⟨0xFFFFFFFF, by decide⟩ rfl (by decide) hstart hstop (by decide)
    (by decide) (by decide) hvalues hheader hroom hout 0

end Wire

end Fx5
