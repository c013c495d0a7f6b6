import Fx5Slmp.Lib.PrintedNumerals
import Fx5Slmp.WrittenNumerals

/-!
# Addresses in text

How the client prints an address and how its parser reads the address back.  The printer and the
parser have separate tables of device names and number bases.

Behind the `-` of a range the parser takes a letter for the beginning of a device name.  A
hexadecimal end may begin with a letter too.

* `clientDevice_descriptor` — the tables agree;
* `writtenRange_single`, `writtenRange_dash` — the parser finds the device and the start;
* `skipEndDevice_name`, `skipEndDevice_digit`, `skipEndDevice_letter` — what it makes of the end;
* `address_range_parses_back_iff` — both forms of a range parse back, unless the end is written
  with a letter first.
-/

set_option autoImplicit false

namespace Fx5

open CheckedMem CText

/-! ## Printing -/

/-- `fx5_client_device_name`. -/
def clientDeviceName : Device → List Char
  | .D => "D".toList
  | .M => "M".toList
  | .X => "X".toList
  | .Y => "Y".toList
  | .L => "L".toList
  | .F => "F".toList
  | .S => "S".toList
  | .B => "B".toList
  | .W => "W".toList
  | .SM => "SM".toList
  | .SD => "SD".toList
  | .SB => "SB".toList
  | .SW => "SW".toList
  | .other _ _ => "?".toList

/-- `fx5_client_device_address_base`. -/
def clientDeviceAddressBase : Device → Nat
  | .X | .Y => 8
  | .B | .W | .SB | .SW => 16
  | _ => 10

/-- The numeral that `fx5_client_print_device_address` writes behind the name. -/
def addressNumeral (device : Device) (address : Nat) : List Char :=
  printNumeral (clientDeviceAddressBase device) address

/-- `fx5_client_print_device_address`. -/
def printDeviceAddress (device : Device) (address : BitVec 32) : List Char :=
  clientDeviceName device ++ addressNumeral device address.toNat

/-- `get <D><start>-<end>`. -/
def shortRange (device : Device) (start stop : Nat) : List Char :=
  "get ".toList ++ (clientDeviceName device ++ (addressNumeral device start ++
    '-' :: addressNumeral device stop))

/-- `get <D><start>-<D><end>`. -/
def redundantRange (device : Device) (start stop : Nat) : List Char :=
  "get ".toList ++ (clientDeviceName device ++ (addressNumeral device start ++
    '-' :: (clientDeviceName device ++ addressNumeral device stop)))

/-- The line is accepted as a get of these points. -/
def GetsPoints (cfg : Config) (platform : Platform) (line : List Char) (device : Device)
    (start count : Nat) : Prop :=
  ∃ cmd, parseCommand cfg platform line = some (true, cmd) ∧ cmd.type = .get ∧
    cmd.device = device ∧ cmd.startAddress = BitVec.ofNat 32 start ∧
    cmd.count = BitVec.ofNat 16 count

/-- Both forms of a range are accepted and mean the same points. -/
structure ParsesBack (cfg : Config) (platform : Platform) (device : Device) (start stop : Nat) :
    Prop where
  short : GetsPoints cfg platform (shortRange device start stop) device start (stop - start + 1)
  redundant : GetsPoints cfg platform (redundantRange device start stop) device start
    (stop - start + 1)

/-! ## The tables -/

section Tables

variable {device : Device} {desc : DeviceDescriptor}

theorem clientDeviceAddressBase_bounds (device : Device) :
    2 ≤ clientDeviceAddressBase device ∧ clientDeviceAddressBase device ≤ 16 := by
  unfold clientDeviceAddressBase
  split <;> decide

/-- What is printed is a numeral in the base of the device. -/
theorem addressNumeral_isNumeral (device : Device) (address : Nat) :
    IsNumeral (clientDeviceAddressBase device) (addressNumeral device address) address :=
  printNumeral_isNumeral (clientDeviceAddressBase_bounds device).1
    (clientDeviceAddressBase_bounds device).2 address

/-- **The tables agree**: every device has a descriptor with its printed name and base. -/
theorem clientDevice_descriptor (h : isSupportedDevice device = true) :
    (⟨clientDeviceName device, device, clientDeviceAddressBase device⟩ : DeviceDescriptor) ∈
      FX5_CLIENT_DEVICE_DESCRIPTORS := by
  cases device with
  | other code hcode => cases h
  | _ => simp [FX5_CLIENT_DEVICE_DESCRIPTORS, clientDeviceName, clientDeviceAddressBase]

/-- A name begins with a letter, and the base of its device is one of three. -/
theorem descriptor_spec (h : desc ∈ FX5_CLIENT_DEVICE_DESCRIPTORS) :
    (∃ c more, desc.name = c :: more ∧ c.isAlpha = true) ∧ desc.base ≤ 16 := by
  have hall : ∀ desc ∈ FX5_CLIENT_DEVICE_DESCRIPTORS,
      (∃ c more, desc.name = c :: more ∧ c.isAlpha = true) ∧ desc.base ≤ 16 := by
    intro desc hmem
    simp only [FX5_CLIENT_DEVICE_DESCRIPTORS, List.mem_cons, List.not_mem_nil, or_false] at hmem
    rcases hmem with rfl | rfl | rfl | rfl | rfl | rfl | rfl | rfl | rfl | rfl | rfl | rfl | rfl <;>
      exact ⟨⟨_, _, rfl, rfl⟩, by decide⟩
  exact hall desc h

/-- A name that is found stands at the cursor. -/
theorem parseDevicePrefix_cases {p rest : List Char} (h : parseDevicePrefix p = some (desc, rest)) :
    desc ∈ FX5_CLIENT_DEVICE_DESCRIPTORS ∧ p = desc.name ++ rest := by
  obtain ⟨desc', hfind, heq⟩ := Option.map_eq_some_iff.mp h
  cases heq
  have hstart := List.find?_some hfind
  obtain ⟨rest, rfl⟩ := startsWith_iff.mp hstart
  refine ⟨List.mem_of_find?_eq_some hfind, ?_⟩
  rw [List.drop_left]

end Tables

/-! ## Reading an address -/

section Reading

variable {desc : DeviceDescriptor} {start stop : Nat} {text startText stopText rest : List Char}

/-- A numeral is found up to what ends it. -/
theorem numeralAt_text {base n : Nat} (h : IsNumeral base text n)
    (hrest : isDigitIn base (peek rest) = false) (hx : peek rest ≠ 'x' ∧ peek rest ≠ 'X') :
    numeralAt base (text ++ rest) = some (n, rest) := by
  have hno : ¬(decide (base = 16) && hasHexPrefix (text ++ rest)) = true := by
    rw [Bool.and_eq_true, decide_eq_true_eq]
    rintro ⟨rfl, hhex⟩
    rw [h.no_hexPrefix hx] at hhex
    cases hhex
  have hstop : rest.takeWhile (isDigitIn base) = [] ∧ rest.dropWhile (isDigitIn base) = rest := by
    cases rest with
    | nil => exact ⟨rfl, rfl⟩
    | cons c rest =>
      have hc : ¬isDigitIn base c = true := by simpa using hrest
      exact ⟨List.takeWhile_cons_of_neg hc, List.dropWhile_cons_of_neg hc⟩
  rw [numeralAt]
  simp only [if_neg hno]
  rw [List.takeWhile_append_of_pos h.digits, List.dropWhile_append_of_pos h.digits, hstop.1,
    hstop.2, List.append_nil, if_neg h.nonempty, h.value]

theorem numeralAt_nil (base : Nat) : numeralAt base [] = none := by
  simp [numeralAt]

/-- A numeral at the end of a text. -/
theorem numeralAt_end {base n : Nat} (h : IsNumeral base text n) :
    numeralAt base text = some (n, []) := by
  have hend := @numeralAt_text text [] base n h (by simp [isDigitIn]) (by decide)
  rwa [List.append_nil] at hend

/-- In front of something that is no letter and no digit. -/
theorem numeralAt_sep {base n : Nat} (h : IsNumeral base text n) {sep : Char}
    (hsep : sep.isAlphanum = false) (rest : List Char) :
    numeralAt base (text ++ sep :: rest) = some (n, sep :: rest) := by
  refine numeralAt_text h (by rw [peek_cons, isDigitIn, hsep, Bool.false_and]) ?_
  constructor
  · rintro rfl
    exact absurd hsep (by decide)
  · rintro rfl
    exact absurd hsep (by decide)

/-- The parser skips the blank behind the verb and finds the device. -/
theorem skipSpaces_name (hdesc : desc ∈ FX5_CLIENT_DEVICE_DESCRIPTORS) (text : List Char) :
    skipSpaces (' ' :: (desc.name ++ text)) = desc.name ++ text ∧
      peek (desc.name ++ text) ≠ '\x00' := by
  obtain ⟨⟨c, more, hname, halpha⟩, _⟩ := descriptor_spec hdesc
  have halnum : c.isAlphanum = true := by rw [Char.isAlphanum, halpha, Bool.true_or]
  obtain ⟨hspace, _, _, _, _, hnul⟩ := plain_of_isAlphanum halnum
  refine ⟨?_, by rw [hname]; exact hnul⟩
  show skipSpaces (desc.name ++ text) = desc.name ++ text
  exact skipSpaces_of_not_space (by rw [hname]; exact hspace)

/-- **A single address**, in front of an `=`. -/
theorem writtenRange_single (hdesc : desc ∈ FX5_CLIENT_DEVICE_DESCRIPTORS)
    (hstart : IsNumeral desc.base startText start) (rest : List Char) :
    writtenRange (' ' :: (desc.name ++ (startText ++ '=' :: rest))) =
      some (⟨desc.device, start, start⟩, '=' :: rest) := by
  obtain ⟨hskip, hnul⟩ := skipSpaces_name hdesc (startText ++ '=' :: rest)
  have hname := parseDevicePrefix_descriptor hdesc (hstart.peek_append ('=' :: rest))
  rw [writtenRange]
  simp only [hskip, if_neg hnul, hname, Option.bind_eq_bind, Option.bind_some,
    numeralAt_sep hstart (by decide : '='.isAlphanum = false) rest]
  rw [skipSpaces_of_not_space rfl, peek_cons, if_neg (by decide)]

/-- **The start of a range**: what stands behind the `-` is its end. -/
theorem writtenRange_dash (hdesc : desc ∈ FX5_CLIENT_DEVICE_DESCRIPTORS)
    (hstart : IsNumeral desc.base startText start) (rest : List Char) :
    writtenRange (' ' :: (desc.name ++ (startText ++ '-' :: rest))) =
      (skipEndDevice desc (skipSpaces rest)).bind fun s =>
        (numeralAt desc.base s).map fun (stop, s) => (⟨desc.device, start, stop⟩, s) := by
  obtain ⟨hskip, hnul⟩ := skipSpaces_name hdesc (startText ++ '-' :: rest)
  have hname := parseDevicePrefix_descriptor hdesc (hstart.peek_append ('-' :: rest))
  rw [writtenRange]
  simp only [hskip, if_neg hnul, hname, Option.bind_eq_bind, Option.bind_some,
    numeralAt_sep hstart (by decide : '-'.isAlphanum = false) rest]
  rw [skipSpaces_of_not_space rfl, peek_cons, if_pos rfl, List.drop_one, List.tail_cons]
  cases skipEndDevice desc (skipSpaces rest) with
  | none => rfl
  | some s =>
    simp only [Option.bind_some]
    cases numeralAt desc.base s <;> rfl

/-- The end with its device repeated. -/
theorem skipEndDevice_name (hdesc : desc ∈ FX5_CLIENT_DEVICE_DESCRIPTORS)
    (hstop : IsNumeral desc.base stopText stop) :
    skipEndDevice desc (skipSpaces (desc.name ++ stopText)) = some stopText := by
  obtain ⟨⟨c, more, hletter, halpha⟩, _⟩ := descriptor_spec hdesc
  have halnum : c.isAlphanum = true := by rw [Char.isAlphanum, halpha, Bool.true_or]
  have hpeek : peek (desc.name ++ stopText) = c := by rw [hletter]; rfl
  have hdigit := hstop.peek_append []
  rw [List.append_nil] at hdigit
  rw [skipSpaces_of_not_space (by rw [hpeek]; exact (plain_of_isAlphanum halnum).1), skipEndDevice,
    hpeek, if_pos halpha, parseDevicePrefix_descriptor hdesc hdigit]
  simp

/-- The end without its device. -/
theorem skipEndDevice_digit (hstop : IsNumeral desc.base stopText stop)
    (hletter : (peek stopText).isAlpha = false) :
    skipEndDevice desc (skipSpaces stopText) = some stopText := by
  have hdigit := hstop.peek_append []
  rw [List.append_nil] at hdigit
  rw [skipSpaces_of_not_space (plain_of_isAlphanum (isAlphanum_of_isDigitIn hdigit)).1,
    skipEndDevice, hletter]
  rfl

/-- **An end that begins with a letter** loses digits to the name of a device. -/
theorem skipEndDevice_letter (hstop : IsNumeral desc.base stopText stop)
    (hletter : (peek stopText).isAlpha = true) {s s' : List Char} {found : Nat}
    (hskip : skipEndDevice desc (skipSpaces stopText) = some s)
    (hfound : numeralAt desc.base s = some (found, s')) : found < stop := by
  have hdigit := hstop.peek_append []
  rw [List.append_nil] at hdigit
  rw [skipSpaces_of_not_space (plain_of_isAlphanum (isAlphanum_of_isDigitIn hdigit)).1,
    skipEndDevice, if_pos hletter] at hskip
  split at hskip
  · rename_i endDesc s₁ hname
    split at hskip
    · cases hskip
    cases hskip
    obtain ⟨hmem, htext⟩ := parseDevicePrefix_cases hname
    obtain ⟨⟨c, more, hnameText, halpha⟩, _⟩ := descriptor_spec hmem
    rw [hnameText] at htext
    have hdigits : ∀ d ∈ s, isDigitIn desc.base d = true := fun d hd => by
      refine hstop.digits d ?_
      rw [htext]
      exact List.mem_append_right _ hd
    have hfirst := digitValue_letter halpha
    have hc := hstop.digits c (by rw [htext]; exact List.mem_cons_self)
    have hbase : digitValue c < desc.base := of_decide_eq_true (Bool.and_eq_true_iff.mp hc).2
    by_cases hempty : s = []
    · subst hempty
      rw [numeralAt_nil] at hfound
      cases hfound
    · have hnumeral : IsNumeral desc.base s (digitsValue desc.base s) := ⟨hempty, hdigits, rfl⟩
      rw [numeralAt_end hnumeral] at hfound
      cases hfound
      rw [← hstop.value, htext]
      exact digitsValue_suffix_lt (by omega) (by omega) more s
  · cases hskip

end Reading

/-! ## Ranges -/

section Ranges

variable {cfg : Config} {platform : Platform} {device : Device} {start stop : Nat}
  {line args : List Char}

/-- A get line whose range is read as written. -/
theorem gets_of_written (hargs : getArguments line = some args)
    (hw : writtenRange args = some (⟨device, start, stop⟩, [])) (hle : start ≤ stop)
    (hlt : stop < 4294967296) (hcount : stop - start + 1 ≤ 65535) :
    GetsPoints cfg platform line device start (stop - start + 1) := by
  have hstart : reduced platform start = start := reduced_of_lt (by omega)
  have hstop : reduced platform stop = stop := reduced_of_lt hlt
  have hreduced : WrittenCommand.reducedCount platform ⟨false, ⟨device, start, stop⟩, []⟩ =
      stop - start + 1 := by
    simp only [WrittenCommand.reducedCount, hstart, hstop]
    exact u32_of_lt (by omega)
  rcases @parse_written_get cfg platform line args ⟨false, ⟨device, start, stop⟩, []⟩ hargs hw rfl
    with ⟨hno, _⟩ | ⟨_, cmd, haccept, htype, hread⟩
  · refine absurd ⟨?_, ?_, rfl⟩ hno
    · simp only [hstart, hstop]
      exact hle
    · rw [hreduced]
      exact hcount
  · refine ⟨cmd, haccept, htype, hread.device, ?_, ?_⟩
    · refine BitVec.eq_of_toNat_eq ?_
      rw [hread.start, BitVec.toNat_ofNat]
      show reduced platform start = _
      omega
    · refine BitVec.eq_of_toNat_eq ?_
      rw [hread.count, hreduced, BitVec.toNat_ofNat]
      omega

/-- A get line whose end is misread. -/
theorem not_gets_of_misread {found : Nat} {rest : List Char} (hargs : getArguments line = some args)
    (hw : writtenRange args = some (⟨device, start, found⟩, rest)) (hle : start ≤ stop)
    (hfound : found < stop) (hlt : stop < 4294967296) (hcount : stop - start + 1 ≤ 65535) :
    ¬GetsPoints cfg platform line device start (stop - start + 1) := by
  rintro ⟨cmd, haccept, _, _, _, hcmd⟩
  rcases @parse_written_get cfg platform line args ⟨false, ⟨device, start, found⟩, rest⟩ hargs hw rfl
    with ⟨_, cmd', hreject⟩ | ⟨hpass, cmd', haccept', _, hread⟩
  · rw [haccept] at hreject
    cases hreject
  · rw [haccept] at haccept'
    cases haccept'
    have hstart : reduced platform start = start := reduced_of_lt (by omega)
    have hend : reduced platform found = found := reduced_of_lt (by omega)
    have horder := hpass.order
    have hpoints := hread.count
    simp only [WrittenCommand.reducedCount, hstart, hend] at horder hpoints
    rw [hcmd, BitVec.toNat_ofNat, u32] at hpoints
    omega

/-- A get line without a range. -/
theorem not_gets_of_unread (hargs : getArguments line = some args)
    (hw : writtenRange args = none) (count : Nat) :
    ¬GetsPoints cfg platform line device start count := by
  rintro ⟨cmd, haccept, htype, _⟩
  have hnone : writtenCommand line = none := by
    rw [writtenCommand, hargs]
    exact Option.map_eq_none_iff.mpr hw
  obtain ⟨ok, cmd', hparse, hneither⟩ := @parse_unwritten cfg platform line hnone
  rw [haccept] at hparse
  cases hparse
  exact (hneither rfl).1 htype

/-- **Address ranges parse back**: for every supported device and every range of at most 65535
points, the short form and the redundant form are accepted as a get of these points, exactly when
the end is not written with a letter first. -/
theorem address_range_parses_back_iff (cfg : Config) (platform : Platform)
    (hdevice : isSupportedDevice device = true) (hle : start ≤ stop) (hlt : stop < 4294967296)
    (hcount : stop - start + 1 ≤ 65535) :
    ParsesBack cfg platform device start stop ↔
      (peek (addressNumeral device stop)).isAlpha = false := by
  have hdesc := clientDevice_descriptor hdevice
  have hstart := addressNumeral_isNumeral device start
  have hstop := addressNumeral_isNumeral device stop
  have hshort := writtenRange_dash hdesc hstart (addressNumeral device stop)
  have hredundant := writtenRange_dash hdesc hstart
    (clientDeviceName device ++ addressNumeral device stop)
  rw [skipEndDevice_name hdesc hstop, Option.bind_some, numeralAt_end hstop] at hredundant
  have hargs : getArguments (shortRange device start stop) = some (' ' ::
      (clientDeviceName device ++ (addressNumeral device start ++
        '-' :: addressNumeral device stop))) := rfl
  constructor
  · rintro ⟨hgets, _⟩
    rw [← Bool.not_eq_true]
    intro hletter
    -- the letter is taken for a device
    cases hskip : skipEndDevice ⟨clientDeviceName device, device, clientDeviceAddressBase device⟩
        (skipSpaces (addressNumeral device stop)) with
    | none =>
      rw [hskip, Option.bind_none] at hshort
      exact not_gets_of_unread hargs hshort _ hgets
    | some s =>
      rw [hskip, Option.bind_some] at hshort
      cases hfound : numeralAt (clientDeviceAddressBase device) s with
      | none =>
        rw [hfound, Option.map_none] at hshort
        exact not_gets_of_unread hargs hshort _ hgets
      | some result =>
        obtain ⟨found, s'⟩ := result
        rw [hfound, Option.map_some] at hshort
        exact not_gets_of_misread hargs hshort hle
          (skipEndDevice_letter hstop hletter hskip hfound) hlt hcount hgets
  · intro hletter
    rw [skipEndDevice_digit hstop hletter, Option.bind_some, numeralAt_end hstop] at hshort
    exact ⟨gets_of_written hargs hshort hle hlt hcount,
      gets_of_written rfl hredundant hle hlt hcount⟩

/-- `get W10-1F` and `get W10-W1F` are 16 words. -/
theorem hex_range_parses_back : ParsesBack .default lp64 .W 0x10 0x1F :=
  (address_range_parses_back_iff .default lp64 rfl (by decide) (by decide) (by decide)).mpr
    (by decide +kernel)

/-- `get W10-FF` is rejected: `F` is taken for the device F. -/
theorem hex_range_rejected : ¬ParsesBack .default lp64 .W 0x10 0xFF := by
  rintro ⟨⟨cmd, haccept, _⟩, _⟩
  have hline : shortRange .W 0x10 0xFF = "get W10-FF".toList := by decide +kernel
  have hget : getArguments "get W10-FF".toList = some " W10-FF".toList := by decide
  have hrange : parseDeviceAndRange lp64 " W10-FF".toList = none := by decide +kernel
  rw [hline, parseCommand_get hget, parseGet, hrange] at haccept
  cases haccept

end Ranges

end Fx5
