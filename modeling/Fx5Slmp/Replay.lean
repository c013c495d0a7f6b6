import Fx5Slmp.AddressText
import Fx5Slmp.Pool

/-!
# Replaying what was read

The text of the lines that `fx5_client_print_response` prints.  A line with the value of a point
is the argument of a set command: with `set ` in front, it writes the value back to the point.

* `setsPoint_of_value` — a set line for one address and one value is parsed as it is written;
* `valueLine_text` — the text of a value line;
* `printed_values_replay` — every value line replays, with or without its line break.
-/

set_option autoImplicit false

namespace Fx5

open CheckedMem CText

/-! ## The text of a line -/

/-- `%04X`. -/
def printWordHex (n : Nat) : List Char := (printNumeral 16 n).leftpad 4 '0'

/-- The text of a line for a command on this device. -/
def lineText (device : Device) : ReportLine → List Char
  | .plcError endCode => "PLC ERROR: 0x".toList ++ (printWordHex endCode ++ "\n".toList)
  | .ok => "OK\n".toList
  | .bit address value => printDeviceAddress device address ++
      ('=' :: ((if value then "true".toList else "false".toList) ++ "\n".toList))
  | .word address value => printDeviceAddress device address ++
      ('=' :: (printNumeral 10 value.toNat ++ "\n".toList))
  | .readFailed index =>
    "ERR: failed to read response value ".toList ++ (printNumeral 10 index ++ "\n".toList)

/-- The line is accepted as a set of one point to this value. -/
def SetsPoint (cfg : Config) (platform : Platform) (line : List Char) (device : Device)
    (address : Nat) (value : Word) : Prop :=
  ∃ cmd unused, parseCommand cfg platform line = some (true, cmd) ∧ cmd.type = .set ∧
    cmd.device = device ∧ cmd.startAddress = BitVec.ofNat 32 address ∧ cmd.count = 1 ∧
    cmd.valueCount = 1 ∧ cmd.values = value :: unused

/-- The value that a set command stores for a point whose value was read: a bit is 1 or 0. -/
def replayedValue (device : Device) (value : Word) : Word :=
  if isBitDevice device then (if value ≠ 0 then 1 else 0) else value

/-- How a value is printed. -/
def printedValue (device : Device) (value : Word) : List Char :=
  if isBitDevice device then (if value != 0 then "true".toList else "false".toList)
  else printNumeral 10 value.toNat

/-- A printed line, behind `set `, writes the value back to the point, with and without the line
break. -/
def Replays (cfg : Config) (platform : Platform) (printed : List Char) (device : Device)
    (address : Nat) (value : Word) : Prop :=
  ∃ line, printed = line ++ "\n".toList ∧
    SetsPoint cfg platform ("set ".toList ++ line) device address (replayedValue device value) ∧
    SetsPoint cfg platform ("set ".toList ++ printed) device address (replayedValue device value)

/-! ## One address and one value -/

section Point

variable {cfg : Config} {platform : Platform} {device : Device}

/-- A value in front of white space is the only field. -/
theorem listItems_value {text spaces : List Char} {v : Word} (h : ValueText device text v)
    (hspaces : ∀ c ∈ spaces, isSpace c = true) : listItems (text ++ spaces) = [text] := by
  have hplain := (@ValueText.read lp64 device text v h).plain
  have hchars : ∀ c ∈ text ++ spaces, c ≠ ',' ∧ c ≠ '\x00' := by
    intro c hc
    rcases List.mem_append.mp hc with hc | hc
    · obtain ⟨_, _, _, hcomma, _, hnul⟩ := plain_of_isAlphanum (hplain.2 c hc)
      exact ⟨hcomma, hnul⟩
    · refine ⟨?_, ne_nul_of_isSpace (hspaces c hc)⟩
      rintro rfl
      exact absurd (hspaces _ hc) (by decide)
  have htrim : trim ([] ++ (text ++ spaces)) = text :=
    trim_pad (by simp) (fun c hc => (plain_of_isAlphanum (hplain.2 c hc)).1) hspaces
  have hfields : fields ',' (text ++ spaces ++ []) = [trim (text ++ spaces)] :=
    fields_last hchars rfl
  rw [List.append_nil, ← List.nil_append (text ++ spaces), htrim, List.nil_append] at hfields
  rw [listItems, hfields, dropBlankLast_single hplain.1]

/-- **A set line for one point** is parsed as it is written. -/
theorem setsPoint_of_value (hdevice : isSupportedDevice device = true) {address : Nat}
    (haddress : address < 4294967296) {text spaces : List Char} {v : Word}
    (h : ValueText device text v) (hspaces : ∀ c ∈ spaces, isSpace c = true) :
    SetsPoint cfg platform ("set ".toList ++ (clientDeviceName device ++
      (addressNumeral device address ++ '=' :: (text ++ spaces)))) device address v := by
  have hdesc := clientDevice_descriptor hdevice
  have hw := writtenRange_single hdesc (addressNumeral_isNumeral device address) (text ++ spaces)
  have hargs : setArguments ("set ".toList ++ (clientDeviceName device ++
      (addressNumeral device address ++ '=' :: (text ++ spaces)))) = some (' ' ::
        (clientDeviceName device ++ (addressNumeral device address ++
          '=' :: (text ++ spaces)))) := rfl
  have hreduced : reduced platform address = address := reduced_of_lt haddress
  have hcount : WrittenCommand.reducedCount platform
      ⟨true, ⟨device, address, address⟩, '=' :: (text ++ spaces)⟩ = 1 := by
    simp [WrittenCommand.reducedCount, u32]
  have hrange := @parseDeviceAndRange_some platform _ _
    ⟨true, ⟨device, address, address⟩, '=' :: (text ++ spaces)⟩ hw (Nat.le_refl _)
    (by rw [hcount]; decide)
  rw [hcount] at hrange
  simp only [hreduced] at hrange
  have hfit := Nat.le_trans (by decide : 1 ≤ 16) (clientMaxValues_bounds cfg).1
  have hread : ReadsList platform device 1 (text ++ spaces) [v] := by
    refine ⟨?_, Or.inl rfl⟩
    rw [listItems_value h hspaces]
    exact .cons h.read .nil
  rw [SetsPoint, parseCommand_set hargs, parseSet, hrange]
  simp only
  rw [skipSpaces_of_not_space rfl, peek_cons, if_neg (not_not.mpr rfl)]
  rcases @parseScalarOrList_cases cfg platform device
    { commandInit cfg with
      type := .set
      device := device
      startAddress := BitVec.ofNat 32 address
      count := BitVec.ofNat 16 (u16 1) }
    (text ++ spaces) 1 List.length_replicate (Nat.le_refl 1) hfit with
    ⟨values, scalar, flag, hlist, haccept⟩ | ⟨_, _, hno⟩
  · have hitems := hlist.items
    rw [listItems_value h hspaces] at hitems
    cases hitems with
    | cons hfirst hnone =>
      cases hnone
      rw [hfirst.unique h.read] at haccept
      exact ⟨_, _, haccept, rfl, rfl, rfl, rfl, rfl, rfl⟩
  · exact absurd hread (hno _)

end Point

/-! ## Printed lines -/

section Printed

variable {cfg : Config} {platform : Platform} {ctx : Context} {cmd : ClientCommand}

/-- **The text of a value line**: the address, an `=` and the value. -/
theorem valueLine_text (cmd : ClientCommand) (i : Nat) (value : Word) :
    lineText cmd.device (valueLine cmd i value) =
      clientDeviceName cmd.device ++ (addressNumeral cmd.device
        (cmd.startAddress + BitVec.ofNat 32 i).toNat ++
          '=' :: (printedValue cmd.device value ++ "\n".toList)) := by
  rw [valueLine, printedValue, (client_device_tables cmd.device).1]
  split
  · show printDeviceAddress _ _ ++ _ = _
    rw [printDeviceAddress, List.append_assoc]
  · show printDeviceAddress _ _ ++ _ = _
    rw [printDeviceAddress, List.append_assoc]

/-- A value is printed as a set line writes it. -/
theorem printedValue_text (device : Device) (value : Word) :
    ValueText device (printedValue device value) (replayedValue device value) := by
  rw [printedValue, replayedValue]
  cases hbit : isBitDevice device with
  | true =>
    rw [if_pos rfl, if_pos rfl]
    by_cases hvalue : value = 0
    · subst hvalue
      exact .bool false hbit
    · have hne : (value != 0) = true := bne_iff_ne.mpr hvalue
      rw [if_pos hne, if_pos hvalue]
      exact .bool true hbit
  | false =>
    have hnum := printNumeral_isNumeral (by decide : 2 ≤ 10) (by decide) value.toNat
    have hlt := value.isLt
    have htext : ValueText device (printNumeral 10 value.toNat)
        (BitVec.ofNat 16 value.toNat) := .numeral hnum (by omega)
    rw [BitVec.ofNat_toNat, BitVec.setWidth_eq] at htext
    exact htext

/-- A value line replays. -/
theorem valueLine_replays (hdevice : isSupportedDevice cmd.device = true) {i : Nat}
    (haddress : cmd.startAddress.toNat + i < 4294967296) (value : Word) :
    Replays cfg platform (lineText cmd.device (valueLine cmd i value)) cmd.device
      (cmd.startAddress.toNat + i) value := by
  have hline := valueLine_text cmd i value
  have hvalue := printedValue_text cmd.device value
  have hsum : (cmd.startAddress + BitVec.ofNat 32 i).toNat = cmd.startAddress.toNat + i := by
    rw [BitVec.toNat_add, BitVec.toNat_ofNat]
    omega
  rw [hsum] at hline
  have hbare := @setsPoint_of_value cfg platform _ hdevice _ haddress _ [] _ hvalue (by simp)
  have hbroken := @setsPoint_of_value cfg platform _ hdevice _ haddress _ "\n".toList _ hvalue
    (List.all_eq_true.mp (by decide))
  rw [List.append_nil] at hbare
  refine ⟨_, ?_, hbare, ?_⟩
  · rw [hline]
    simp
  · rw [hline]
    exact hbroken

/-- **Printed values replay as writes**: for every acquired context, whatever response it has
parsed, and every get command on a supported device at a valid address, the line printed for each
index sets its point to the value that was read. -/
theorem printed_values_replay (hctx : Acquired cfg ctx) (platform : Platform)
    (hget : cmd.type = .get) (hdevice : isSupportedDevice cmd.device = true)
    (haddress : cmd.startAddress.toNat ≤ FX5_MAX_ADDRESS) {lines : List ReportLine}
    (hprint : printResponse cfg cmd ctx = some lines) (hok : getResponseCode ctx = 0) :
    lines.length = getResponseCount ctx ∧ ∀ i line, lines[i]? = some line →
      ∃ value, getResponseValue cfg ctx (BitVec.ofNat 16 i) = some (.ok, some value) ∧
        Replays cfg platform (lineText cmd.device line) cmd.device
          (cmd.startAddress.toNat + i) value := by
  obtain ⟨hinv, huse⟩ := acquired_inv hctx
  have hcode : ctx.responseCode = FX5_RESPONSE_OK := by
    rw [FX5_RESPONSE_OK]
    simpa [getResponseCode, isAcquired, huse] using hok
  have hcount : getResponseCount ctx = ctx.count := by
    simp [getResponseCount, isAcquired, huse]
  have hlt := hinv.count_lt
  rw [FX5_MAX_ADDRESS] at haddress
  rw [printResponse_get hinv huse hget, if_neg (not_not.mpr hcode)] at hprint
  cases hprint
  refine ⟨by rw [List.length_map, List.length_range, hcount], fun i line hline => ?_⟩
  obtain ⟨hi, hget?⟩ := List.getElem?_eq_some_iff.mp hline
  rw [List.length_map, List.length_range] at hi
  rw [List.getElem_map, List.getElem_range] at hget?
  have hindex : (BitVec.ofNat 16 i).toNat = i := by
    rw [BitVec.toNat_ofNat]
    omega
  refine ⟨valueAt ctx.device ctx.values i, ?_, ?_⟩
  · rw [getResponseValue_spec hinv huse, hindex, if_pos hi]
  · rw [← hget?]
    exact valueLine_replays hdevice (by omega) _

/-- One word is read from D100. -/
def answeredCalls : List Call :=
  [.acquire, .setRequest 0 .batchRead .D 100 1,
    .feedResponseBytes 0 (some [0xD0, 0x00, 0x00, 0xFF, 0xFF, 0x03, 0x00, 0x04, 0x00, 0x00, 0x00,
      0x11, 0x22]) 13, .parseResponse 0]

theorem word_line_replays :
    ∃ value, getResponseValue .smallest (contextAfter .smallest answeredCalls) 0 =
        some (.ok, some value) ∧
      Replays .smallest lp64 (lineText .D (.word 100 0x2211)) .D 100 value := by
  have hctx : Acquired .smallest (contextAfter .smallest answeredCalls) :=
    acquired_contextAfter (by decide +kernel)
  have hprint : printResponse .smallest ⟨.get, .D, 100, 1, [], 0⟩
      (contextAfter .smallest answeredCalls) = some [.word 100 0x2211] := by decide +kernel
  have hall := printed_values_replay hctx lp64 rfl rfl (by decide) hprint (by decide +kernel)
  exact hall.2 0 _ rfl

end Printed

end Fx5
