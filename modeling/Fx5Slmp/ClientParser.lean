import Fx5Slmp.Lib.CText
import Fx5Slmp.Lib.CheckedMem
import Fx5Slmp.Client
import Mathlib.Data.List.TakeWhile

/-!
# The command parser of the client

`fx5_client_parser.c`: a line of text becomes a command.  A cursor function returns the value
it read with the cursor behind it, and nothing when the C function returns false; the functions
that write into the command return whether they succeed with the command as they leave it, and
are undefined when a store goes outside the value array.

`parseListLoop` is the loop over the items of a value list.  It is total because an item uses up
at least one character (`parseListItem_length`).

* `parseBoolWord_cases`, `parseUint32Cursor_spec` — what the two kinds of items consume;
* `parseListItem_plain` — an item is a run of letters and digits;
* `parseCommand_set` — a set line goes to the set parser;
* `parseListLoop_item` — one turn of the list loop;
* `storeBool_eq`, `storeFirst_eq` — the two broadcast loops fill the array exactly as far as it
  goes, and are undefined beyond.
-/

set_option autoImplicit false

namespace Fx5

open CheckedMem CText

/-- The conversion `(uint32_t)x`. -/
def u32 (n : Nat) : Nat := n % 4294967296

theorem u32_of_lt {n : Nat} (h : n < 4294967296) : u32 n = n := Nat.mod_eq_of_lt h

theorem u32_lt (n : Nat) : u32 n < 4294967296 := Nat.mod_lt _ (by decide)

/-- `FX5_CLIENT_MAX_VALUES` of `fx5_client_commands.h`. -/
def FX5_CLIENT_MAX_VALUES (cfg : Config) : Nat := FX5_MAX_BIT_VALUE_COUNT cfg

/-- `fx5_client_command_t` with all its members. -/
structure ParsedCommand extends ClientCommand where
  boolValue : Bool
  hasScalarValue : Bool
  traceEnabled : Bool
  headerType : HeaderType
  deriving DecidableEq

/-- `fx5_client_device_descriptor_t`. -/
structure DeviceDescriptor where
  name : List Char
  device : Device
  base : Nat

def FX5_CLIENT_DEVICE_DESCRIPTORS : List DeviceDescriptor :=
  [⟨"SM".toList, .SM, 10⟩,
    ⟨"SD".toList, .SD, 10⟩,
    ⟨"SB".toList, .SB, 16⟩,
    ⟨"SW".toList, .SW, 16⟩,
    ⟨"D".toList, .D, 10⟩,
    ⟨"M".toList, .M, 10⟩,
    ⟨"X".toList, .X, 8⟩,
    ⟨"Y".toList, .Y, 8⟩,
    ⟨"L".toList, .L, 10⟩,
    ⟨"F".toList, .F, 10⟩,
    ⟨"S".toList, .S, 10⟩,
    ⟨"B".toList, .B, 16⟩,
    ⟨"W".toList, .W, 16⟩]

/-- The device code 0 is no enumerator. -/
theorem zero_no_device : (0 : BitVec 32) ∉
    [0x90, 0x91, 0x92, 0x93, 0x98, 0x9C, 0x9D, 0xA0, 0xA1, 0xA8, 0xA9, 0xB4, 0xB5] := by
  decide

/-- `fx5_client_command_init`. -/
def commandInit (cfg : Config) : ParsedCommand where
  type := .invalid
  device := .other 0 zero_no_device
  startAddress := 0
  count := 0
  values := List.replicate (FX5_CLIENT_MAX_VALUES cfg) 0
  valueCount := 0
  boolValue := false
  hasScalarValue := false
  traceEnabled := false
  headerType := .h4E

/-! ## Words and numbers -/

/-- `fx5_client_is_token_boundary`. -/
def isTokenBoundary (c : Char) : Bool := c = '\x00' || isSpace c || c = ',' || c = '='

/-- `fx5_client_parse_bool_word`: the value and the length of the word. -/
def parseBoolWord (text : List Char) : Option (Bool × Nat) :=
  if startsWith text "true".toList && isTokenBoundary (peek (text.drop 4)) then some (true, 4)
  else if startsWith text "false".toList && isTokenBoundary (peek (text.drop 5)) then
    some (false, 5)
  else none

/-- `fx5_client_device_is_bit`. -/
def clientDeviceIsBit : Device → Bool
  | .M | .SM | .L | .F | .S | .X | .Y | .B | .SB => true
  | _ => false

/-- `fx5_client_parse_uint32_cursor_base`. -/
def parseUint32CursorBase (platform : Platform) (s : List Char) (base : Nat) :
    Option (Nat × List Char) :=
  if !isXDigit (peek s) then none
  else
    let (value, endptr) := strtoul platform s base
    if endptr = s then none else some (u32 value, endptr)

/-- `fx5_client_parse_uint32_cursor` of `fx5_client_utility.c`. -/
def parseUint32Cursor (platform : Platform) (s : List Char) : Option (Nat × List Char) :=
  if !(peek s).isDigit then none
  else
    let (value, endptr) := strtoul platform s 10
    if endptr = s then none else some (u32 value, endptr)

/-! ## Devices and ranges -/

/-- `fx5_client_parse_device_prefix`: the first descriptor whose name stands at the cursor. -/
def parseDevicePrefix (p : List Char) : Option (DeviceDescriptor × List Char) :=
  (FX5_CLIENT_DEVICE_DESCRIPTORS.find? fun desc => startsWith p desc.name).map fun desc =>
    (desc, p.drop desc.name.length)

/-- The device of a range may be repeated in front of its end. -/
def skipEndDevice (desc : DeviceDescriptor) (s : List Char) : Option (List Char) :=
  if (peek s).isAlpha then
    match parseDevicePrefix s with
    | some (endDesc, s) => if endDesc.device ≠ desc.device then none else some s
    | none => none
  else some s

/-- The end of a range, behind the `-`. -/
def parseRangeEnd (platform : Platform) (desc : DeviceDescriptor) (s : List Char) :
    Option (Nat × List Char) := do
  let s ← skipEndDevice desc (skipSpaces s)
  parseUint32CursorBase platform s desc.base

/-- `fx5_client_parse_device_and_range`: device, start, count and the cursor behind. -/
def parseDeviceAndRange (platform : Platform) (p : List Char) :
    Option (Device × Nat × Nat × List Char) :=
  let s := skipSpaces p
  if peek s = '\x00' then none
  else do
    let (desc, s) ← parseDevicePrefix s
    let (start, s) ← parseUint32CursorBase platform s desc.base
    let s := skipSpaces s
    if peek s = '-' then do
      let (stop, s) ← parseRangeEnd platform desc (s.drop 1)
      if stop < start then none
      else if u32 (stop - start + 1) > 0xFFFF then none
      else some (desc.device, start, u16 (u32 (stop - start + 1)), s)
    else some (desc.device, start, 1, s)

/-! ## Values -/

/-- The item that a turn of the list loop reads: the value for `cmd->values[count]`. -/
def parseListItem (platform : Platform) (device : Device) (p : List Char) :
    Option (Word × List Char) :=
  match if clientDeviceIsBit device then parseBoolWord p else none with
  | some (b, boolLen) => some (if b then 1 else 0, p.drop boolLen)
  | none => do
    let (number, p) ← parseUint32Cursor platform p
    if number > 0xFFFF then none else some (BitVec.ofNat 16 number, p)

theorem startsWith_iff {p s : List Char} : startsWith p s = true ↔ ∃ rest, p = s ++ rest := by
  rw [startsWith, List.isPrefixOf_iff_prefix]
  constructor
  · rintro ⟨rest, h⟩
    exact ⟨rest, h.symm⟩
  · rintro ⟨rest, h⟩
    exact ⟨rest, h.symm⟩

/-- A boolean word is `true` or `false` at a token boundary. -/
theorem parseBoolWord_cases {p : List Char} {b : Bool} {len : Nat}
    (h : parseBoolWord p = some (b, len)) :
    ∃ rest, p = (if b then "true" else "false").toList ++ rest ∧ p.drop len = rest ∧
      isTokenBoundary (peek rest) = true := by
  unfold parseBoolWord at h
  split at h
  · rename_i hword
    cases h
    obtain ⟨hstart, hboundary⟩ := Bool.and_eq_true_iff.mp hword
    obtain ⟨rest, rfl⟩ := startsWith_iff.mp hstart
    exact ⟨rest, rfl, rfl, hboundary⟩
  split at h
  · rename_i hword
    cases h
    obtain ⟨hstart, hboundary⟩ := Bool.and_eq_true_iff.mp hword
    obtain ⟨rest, rfl⟩ := startsWith_iff.mp hstart
    exact ⟨rest, rfl, rfl, hboundary⟩
  · cases h

/-- On a decimal digit the number is the run of digits; elsewhere there is none. -/
theorem parseUint32Cursor_spec (platform : Platform) (s : List Char) :
    parseUint32Cursor platform s =
      if (peek s).isDigit then
        some (u32 (min (digitsValue 10 (s.takeWhile Char.isDigit)) platform.ULONG_MAX),
          s.dropWhile Char.isDigit)
      else none := by
  have hclass : isDigitIn 10 = Char.isDigit := funext isDigitIn_ten
  rw [parseUint32Cursor]
  by_cases hd : (peek s).isDigit = true
  · have hd' : isDigitIn 10 (peek s) = true := (isDigitIn_ten _).trans hd
    have hcons := eq_cons_of_peek rfl (plain_of_isAlphanum (isAlphanum_of_isDigitIn hd')).2.2.2.2.2
    have hmoved : s.dropWhile Char.isDigit ≠ s := by
      intro heq
      have hle := (List.dropWhile_sublist (l := s.drop 1) Char.isDigit).length_le
      rw [hcons, List.dropWhile_cons_of_pos hd] at heq
      have hlen := congrArg List.length heq
      simp only [List.length_cons] at hlen
      omega
    rw [strtoul_of_digit hd' (fun h => absurd h (by decide)), hclass]
    simp only [hd, Bool.not_true, Bool.false_eq_true, if_false, if_neg hmoved, if_true]
  · rw [Bool.not_eq_true] at hd
    simp [hd]

/-- **An item of a list** is a nonempty run of letters and digits. -/
theorem parseListItem_plain {platform : Platform} {device : Device} {p rest : List Char}
    {value : Word} (h : parseListItem platform device p = some (value, rest)) :
    ∃ item, p = item ++ rest ∧ item ≠ [] ∧ ∀ c ∈ item, c.isAlphanum = true := by
  unfold parseListItem at h
  split at h
  · rename_i b len heq
    cases h
    split at heq
    · obtain ⟨rest, hp, hdrop, _⟩ := parseBoolWord_cases heq
      rw [hdrop]
      refine ⟨_, hp, ?_, ?_⟩
      · cases b <;> decide
      · refine List.all_eq_true.mp ?_
        cases b <;> decide
    · cases heq
  · obtain ⟨⟨number, rest'⟩, hnumber, h⟩ := Option.bind_eq_some_iff.mp h
    rw [parseUint32Cursor_spec] at hnumber
    split at hnumber
    · rename_i hd
      cases hnumber
      simp only at h
      split at h
      · cases h
      cases h
      refine ⟨p.takeWhile Char.isDigit, (List.takeWhile_append_dropWhile ..).symm, ?_, ?_⟩
      · cases p with
        | nil => exact absurd hd (by decide)
        | cons c p =>
          rw [List.takeWhile_cons_of_pos (show c.isDigit = true from hd)]
          exact List.cons_ne_nil _ _
      · intro c hc
        rw [Char.isAlphanum, List.mem_takeWhile_imp hc, Bool.or_true]
    · cases hnumber

/-- An item uses up at least one character. -/
theorem parseListItem_length {platform : Platform} {device : Device} {p rest : List Char}
    {value : Word} (h : parseListItem platform device p = some (value, rest)) :
    rest.length < p.length := by
  obtain ⟨item, rfl, hne, _⟩ := parseListItem_plain h
  have := List.length_pos_of_ne_nil hne
  rw [List.length_append]
  omega

/-- The loop of `fx5_client_parse_scalar_or_list` over the items: whether it is left with
`break` or its condition, `count` and the array. -/
def parseListLoop (cfg : Config) (platform : Platform) (device : Device) (p : List Char)
    (count : Nat) (values : List Word) : Option (Bool × Nat × List Word) :=
  if peek p = '\x00' then some (true, count, values)
  else if count ≥ FX5_CLIENT_MAX_VALUES cfg then some (false, count, values)
  else
    match _h : parseListItem platform device p with
    | none => some (false, count, values)
    | some (value, rest) => do
      let values ← store values count value
      let count := u16 (count + 1)
      if peek (skipSpaces rest) = ',' then
        parseListLoop cfg platform device (skipSpaces ((skipSpaces rest).drop 1)) count values
      else if peek (skipSpaces rest) = '\x00' then some (true, count, values)
      else some (false, count, values)
termination_by p.length
decreasing_by
  have hitem := parseListItem_length _h
  have hrest := skipSpaces_length_le rest
  have hnext := skipSpaces_length_le ((skipSpaces rest).drop 1)
  rw [List.length_drop] at hnext
  omega

/-- The fast path for one boolean word that ends the line. -/
def parseBoolAlone (device : Device) (p : List Char) : Option Bool :=
  if clientDeviceIsBit device then
    match parseBoolWord p with
    | some (b, len) => if peek (skipSpaces (p.drop len)) = '\x00' then some b else none
    | none => none
  else none

/-- `cmd->values[count] = b ? 1u : 0u`. -/
def storeBool (b : Bool) (count : Nat) (values : List Word) : Option (List Word) :=
  store values count (if b then 1 else 0)

/-- `cmd->values[i] = cmd->values[0]`. -/
def storeFirst (i : Nat) (values : List Word) : Option (List Word) := do
  let first ← values[0]?
  store values i first

/-- `fx5_client_parse_scalar_or_list`. -/
def parseScalarOrList (cfg : Config) (platform : Platform) (p : List Char) (device : Device)
    (expectedCount : Nat) (cmd : ParsedCommand) : Option (Bool × ParsedCommand) :=
  let p := skipSpaces p
  if peek p = '\x00' then some (false, cmd)
  else
    match parseBoolAlone device p with
    | some b => do
      let values ← forRange (storeBool b) 0 expectedCount cmd.values
      some (true, { cmd with
        hasScalarValue := true
        boolValue := b
        valueCount := BitVec.ofNat 16 expectedCount
        values := values })
    | none => do
      let (left, count, values) ← parseListLoop cfg platform device p 0 cmd.values
      let cmd := { cmd with values := values }
      if !left then some (false, cmd)
      else if count = 0 then some (false, cmd)
      else if count = 1 && expectedCount > 1 then do
        let first : Word ← values[0]?
        let values ← forRange storeFirst 1 (expectedCount - 1) values
        some (true, { cmd with
          hasScalarValue := true
          boolValue := first != 0
          valueCount := BitVec.ofNat 16 expectedCount
          values := values })
      else if count ≠ expectedCount then some (false, cmd)
      else some (true, { cmd with valueCount := BitVec.ofNat 16 count })

/-! ## Commands -/

/-- `fx5_client_parse_get`. -/
def parseGet (platform : Platform) (p : List Char) (cmd : ParsedCommand) : Bool × ParsedCommand :=
  let cmd := { cmd with type := .get }
  match parseDeviceAndRange platform p with
  | none => (false, cmd)
  | some (device, start, count, p) =>
    (peek (skipSpaces p) = '\x00', { cmd with
      device := device
      startAddress := BitVec.ofNat 32 start
      count := BitVec.ofNat 16 count })

/-- `fx5_client_parse_set`. -/
def parseSet (cfg : Config) (platform : Platform) (p : List Char) (cmd : ParsedCommand) :
    Option (Bool × ParsedCommand) :=
  let cmd := { cmd with type := .set }
  match parseDeviceAndRange platform p with
  | none => some (false, cmd)
  | some (device, start, count, p) =>
    let cmd := { cmd with
      device := device
      startAddress := BitVec.ofNat 32 start
      count := BitVec.ofNat 16 count }
    if peek (skipSpaces p) ≠ '=' then some (false, cmd)
    else
      parseScalarOrList cfg platform ((skipSpaces p).drop 1) cmd.device cmd.count.toNat cmd

/-- `fx5_client_parse_command` with non-NULL arguments. -/
def parseCommand (cfg : Config) (platform : Platform) (line : List Char) :
    Option (Bool × ParsedCommand) :=
  let cmd := commandInit cfg
  let p := skipSpaces line
  if peek p = '\x00' then some (false, cmd)
  else if strcmpEq p "help".toList then some (true, { cmd with type := .help })
  else if strcmpEq p "quit".toList || strcmpEq p "exit".toList then
    some (true, { cmd with type := .quit })
  else if strcmpEq p "trace on".toList then
    some (true, { cmd with type := .trace, traceEnabled := true })
  else if strcmpEq p "trace off".toList then
    some (true, { cmd with type := .trace, traceEnabled := false })
  else if strcmpEq p "header 3e".toList then
    some (true, { cmd with type := .header, headerType := .h3E })
  else if strcmpEq p "header 4e".toList then
    some (true, { cmd with type := .header, headerType := .h4E })
  else if startsWith p "get".toList && isSpace (peek (p.drop 3)) then
    some (parseGet platform (p.drop 3) cmd)
  else if startsWith p "set".toList && isSpace (peek (p.drop 3)) then
    parseSet cfg platform (p.drop 3) cmd
  else some (false, cmd)

/-! ## Set lines -/

/-- What stands behind `set` in a set line. -/
def setArguments (line : List Char) : Option (List Char) :=
  let p := skipSpaces line
  if startsWith p "set".toList && isSpace (peek (p.drop 3)) then some (p.drop 3) else none

section Lines

variable {cfg : Config} {platform : Platform} {line : List Char}

/-- A set line goes to the set parser. -/
theorem parseCommand_set {text : List Char} (h : setArguments line = some text) :
    parseCommand cfg platform line = parseSet cfg platform text (commandInit cfg) := by
  unfold setArguments at h
  simp only at h
  split at h
  · rename_i hset
    cases h
    obtain ⟨rest, hrest⟩ := startsWith_iff.mp (Bool.and_eq_true_iff.mp hset).1
    have hpeek : peek (skipSpaces line) = 's' := by rw [hrest]; rfl
    have hget : startsWith (skipSpaces line) "get".toList = false := by rw [hrest]; rfl
    have hcmp : ∀ s, peek s ≠ 's' → peek s ≠ '\x00' → strcmpEq (skipSpaces line) s = false :=
      fun s hs hnul => strcmpEq_of_peek_ne (by rw [hpeek]; exact Ne.symm hs) hnul
    unfold parseCommand
    simp only
    rw [if_neg (by rw [hpeek]; decide), hcmp _ (by decide) (by decide),
      hcmp _ (by decide) (by decide), hcmp _ (by decide) (by decide), hcmp _ (by decide) (by decide),
      hcmp _ (by decide) (by decide), hcmp _ (by decide) (by decide), hcmp _ (by decide) (by decide),
      hget, hset]
    rfl
  · cases h

end Lines

/-! ## The loops over the value array -/

/-- The parser's table of bit devices is that of the library. -/
theorem clientDeviceIsBit_eq (device : Device) :
    clientDeviceIsBit device = isBitDevice device := by
  cases device <;> rfl

/-- The value array has between 16 and 65520 elements. -/
theorem clientMaxValues_bounds (cfg : Config) :
    16 ≤ FX5_CLIENT_MAX_VALUES cfg ∧ FX5_CLIENT_MAX_VALUES cfg ≤ 65520 := by
  have h1 := cfg.count_pos
  have h2 := cfg.count_le
  rw [FX5_CLIENT_MAX_VALUES, maxBitValueCount_eq]
  omega

section Loops

variable {cfg : Config} {platform : Platform} {device : Device}

/-- **One turn of the list loop** with room for the item. -/
theorem parseListLoop_item {p rest : List Char} {count : Nat} {value : Word} {values : List Word}
    (hitem : parseListItem platform device p = some (value, rest))
    (hcount : count < FX5_CLIENT_MAX_VALUES cfg)
    (hlen : values.length = FX5_CLIENT_MAX_VALUES cfg) :
    parseListLoop cfg platform device p count values =
      if peek (skipSpaces rest) = ',' then
        parseListLoop cfg platform device (skipSpaces ((skipSpaces rest).drop 1)) (count + 1)
          (values.set count value)
      else some (peek (skipSpaces rest) = '\x00', count + 1, values.set count value) := by
  have hmax := (clientMaxValues_bounds cfg).2
  have hpeek : peek p ≠ '\x00' := by
    obtain ⟨item, rfl, hne, halnum⟩ := parseListItem_plain hitem
    cases item with
    | nil => exact absurd rfl hne
    | cons c item => exact (plain_of_isAlphanum (halnum c List.mem_cons_self)).2.2.2.2.2
  rw [parseListLoop, if_neg hpeek, if_neg (by omega)]
  split
  · rename_i hnone
    rw [hitem] at hnone
    cases hnone
  rename_i value' rest' hsome
  rw [hitem] at hsome
  cases hsome
  rw [store_of_lt (by omega), u16_of_lt (by omega)]
  simp only [Option.bind_eq_bind, Option.bind_some]
  split
  · rfl
  · split
    · rename_i hnul
      rw [decide_eq_true hnul]
    · rename_i hnul
      rw [decide_eq_false hnul]

/-- The broadcast of a boolean word. -/
theorem storeBool_eq (b : Bool) (n : Nat) (values : List Word) :
    forRange (storeBool b) 0 n values =
      if n ≤ values.length then some (List.replicate n (if b then 1 else 0) ++ values.drop n)
      else none := by
  split
  · rename_i hfit
    have hfill := forRange_fill (storeBool b) (if b then 1 else 0)
      (by omega : 0 + n ≤ values.length) (fun _ _ => rfl)
    rw [Nat.zero_add] at hfill
    exact hfill
  · rename_i hfit
    refine forRange_undefined (fun s => s.length = values.length) ?_ ?_ n 0 values rfl
      (Nat.zero_le values.length) (by omega)
    · intro k s s' hs hstore
      rw [store_length hstore, hs]
    · intro s hs
      exact store_of_ge (Nat.le_of_eq hs) _

/-- The broadcast of the first element. -/
theorem storeFirst_eq {v : Word} {values : List Word} (hfirst : values[0]? = some v) {n : Nat}
    (hn : 1 < n) :
    forRange storeFirst 1 (n - 1) values =
      if n ≤ values.length then some (List.replicate n v ++ values.drop n) else none := by
  have hcons : values = List.replicate 1 v ++ values.drop 1 := by
    cases values with
    | nil => cases hfirst
    | cons w values => cases hfirst; rfl
  split
  · rename_i hfit
    have hfill := forRange_fill storeFirst v (by omega : 1 + (n - 1) ≤ values.length) (by
      intro k hk
      obtain ⟨k, rfl⟩ : ∃ k', k = k' + 1 := ⟨k - 1, by omega⟩
      rfl)
    rw [← hcons, show 1 + (n - 1) = n by omega] at hfill
    exact hfill
  · rename_i hfit
    refine forRange_undefined (fun s => s.length = values.length) ?_ ?_ (n - 1) 1 values rfl
      (List.length_pos_of_mem (List.mem_of_getElem? hfirst)) (by omega)
    · intro k s s' hs hstore
      obtain ⟨first, _, hstore⟩ := Option.bind_eq_some_iff.mp hstore
      rw [store_length hstore, hs]
    · intro s hs
      unfold storeFirst
      cases hread : s[0]? with
      | none => rfl
      | some w => exact store_of_ge (Nat.le_of_eq hs) w

end Loops

end Fx5
