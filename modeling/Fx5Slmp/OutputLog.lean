import Fx5Slmp.ClientOutput
import Fx5Slmp.PlainClient

/-!
# The standard output as a log

What the client prints can be read back.  With tracing, the standard output has a line for each
request and for each piece that was received; the results of the commands are there in any case.
The rest of the output, the prompts of interactive mode among it, is passed over.

* `readEntry` — the entry of a line;
* `Printed.writes`, `Console.log` — every print statement writes its entry, and so the log can be
  read from the text of the standard output.
-/

set_option autoImplicit false

namespace Fx5

open CText LineLog StoppingRun

/-! ## Entries -/

/-- What a line of the standard output says. -/
inductive LogEntry where
  | sent (data : List Byte)
  | received (data : List Byte)
  | plcError (endCode : Nat)
  | ok
  | bit (device : Device) (address : Nat) (value : Bool)
  | word (device : Device) (address : Nat) (value : Word)
  deriving DecidableEq

/-- The entry of a report line; a device without a name has none. -/
def ReportLine.entry (device : Device) : ReportLine → Option LogEntry
  | .plcError endCode => some (.plcError endCode)
  | .ok => some .ok
  | .bit address value =>
    if isSupportedDevice device then some (.bit device address.toNat value) else none
  | .word address value =>
    if isSupportedDevice device then some (.word device address.toNat value) else none
  | .readFailed _ => none

/-- The entry of a print statement. -/
def Printed.entry : Printed → Option LogEntry
  | .tx data => some (.sent data)
  | .rx data => some (.received data)
  | .response device line => line.entry device
  | _ => none

/-! ## Reading a line -/

/-- A line without the prompts in front of it. -/
def dropPrompts : List Char → List Char
  | 'f' :: 'x' :: '5' :: '>' :: ' ' :: line => dropPrompts line
  | line => line

/-- A point with its value. -/
def readPoint (line : List Char) : Option LogEntry := do
  let (desc, text) ← parseDevicePrefix line
  let (address, text) ← numeralAt desc.base text
  if peek text ≠ '=' then none
  else if text.drop 1 = "true".toList then some (.bit desc.device address true)
  else if text.drop 1 = "false".toList then some (.bit desc.device address false)
  else do
    let (value, rest) ← numeralAt 10 (text.drop 1)
    if rest = [] then some (.word desc.device address (BitVec.ofNat 16 value)) else none

/-- The entry of a line without prompts. -/
def readPlain (line : List Char) : Option LogEntry :=
  if startsWith line "TX: ".toList then (readHexBytes (line.drop 4)).map .sent
  else if startsWith line "RX: ".toList then (readHexBytes (line.drop 4)).map .received
  else if startsWith line "PLC ERROR: 0x".toList then
    (numeralAt 16 (line.drop 13)).map fun n => .plcError n.1
  else if line = "OK".toList then some .ok
  else readPoint line

/-- The entry of a line. -/
def readEntry (line : List Char) : Option LogEntry := readPlain (dropPrompts line)

section Lines

/-- A prompt is not seen. -/
theorem readEntry_prompt (line : List Char) :
    readEntry ("fx5> ".toList ++ line) = readEntry line := rfl

/-- A line with bytes that were sent. -/
theorem readEntry_tx (data : List Byte) :
    readEntry ("TX: ".toList ++ printHexBytes data) = some (.sent data) := by
  have hread : readEntry ("TX: ".toList ++ printHexBytes data) =
      (readHexBytes (printHexBytes data)).map .sent := rfl
  rw [hread, readHexBytes_print]
  rfl

/-- A line with bytes that were received. -/
theorem readEntry_rx (data : List Byte) :
    readEntry ("RX: ".toList ++ printHexBytes data) = some (.received data) := by
  have hread : readEntry ("RX: ".toList ++ printHexBytes data) =
      (readHexBytes (printHexBytes data)).map .received := rfl
  rw [hread, readHexBytes_print]
  rfl

/-- A line with an end code. -/
theorem readEntry_plcError (endCode : Nat) :
    readEntry ("PLC ERROR: 0x".toList ++ printWordHex endCode) = some (.plcError endCode) := by
  have hread : readEntry ("PLC ERROR: 0x".toList ++ printWordHex endCode) =
      (numeralAt 16 (printWordHex endCode)).map fun n => .plcError n.1 := rfl
  have hnumeral : IsNumeral 16 (printWordHex endCode) endCode := printPadded_isNumeral 4 endCode
  rw [hread, numeralAt_end hnumeral]
  rfl

/-- A line that begins with the name of a device is a point. -/
theorem readEntry_device (device : Device) (text : List Char) :
    readEntry (clientDeviceName device ++ text) = readPoint (clientDeviceName device ++ text) := by
  cases device <;> rfl

/-- A line with the value of a point, of a device that has a name. -/
theorem readPoint_value {device : Device} (hdevice : isSupportedDevice device = true)
    (address : BitVec 32) (text : List Char) :
    readPoint (printDeviceAddress device address ++ '=' :: text) =
      if text = "true".toList then some (.bit device address.toNat true)
      else if text = "false".toList then some (.bit device address.toNat false)
      else (numeralAt 10 text).bind fun n =>
        if n.2 = [] then some (.word device address.toNat (BitVec.ofNat 16 n.1)) else none := by
  have hnumeral := addressNumeral_isNumeral device address.toNat
  have hname := parseDevicePrefix_descriptor (clientDevice_descriptor hdevice)
    (hnumeral.peek_append ('=' :: text))
  rw [readPoint, printDeviceAddress, List.append_assoc, hname]
  simp only [Option.bind_eq_bind, Option.bind_some,
    numeralAt_sep hnumeral (by decide : '='.isAlphanum = false) text]
  rw [peek_cons, if_neg (not_not.mpr rfl)]
  rfl

/-- A value that is printed as a numeral is read as one. -/
theorem readPoint_word {device : Device} (hdevice : isSupportedDevice device = true)
    (address : BitVec 32) (value : Word) :
    readPoint (printDeviceAddress device address ++ '=' :: printNumeral 10 value.toNat) =
      some (.word device address.toNat value) := by
  have hnumeral := printNumeral_isNumeral (by decide : 2 ≤ 10) (by decide) value.toNat
  have hdigit := hnumeral.peek_append []
  rw [List.append_nil] at hdigit
  have hletter {word : List Char} (hword : isDigitIn 10 (peek word) = false) :
      printNumeral 10 value.toNat ≠ word := by
    intro heq
    rw [heq, hword] at hdigit
    cases hdigit
  rw [readPoint_value hdevice, if_neg (hletter (by decide)), if_neg (hletter (by decide)),
    numeralAt_end hnumeral, Option.bind_some, if_pos rfl, BitVec.ofNat_toNat, BitVec.setWidth_eq]

/-- No name and no address has a line break in it. -/
theorem break_not_mem_deviceAddress (device : Device) (address : BitVec 32) :
    '\n' ∉ printDeviceAddress device address := by
  have hname : '\n' ∉ clientDeviceName device := by
    cases device <;> simp [clientDeviceName]
  rw [printDeviceAddress, List.mem_append, not_or]
  exact ⟨hname, not_mem_numeral (addressNumeral_isNumeral device address.toNat) (by decide)⟩

end Lines

/-! ## The entries of print statements -/

section Statements

/-- A line of text that was printed. -/
theorem writes_line (body : List Char) {text : List Char} {entry : Option LogEntry}
    (htext : text = body ++ ['\n']) (hbreak : '\n' ∉ body) (hread : readEntry body = entry) :
    Writes readEntry text entry.toList := by
  rw [htext, ← hread]
  exact Writes.line hbreak

/-- A line of which the reader makes nothing. -/
theorem writes_unread (body : List Char) {text : List Char} (htext : text = body ++ ['\n'])
    (hbreak : '\n' ∉ body) (hread : readEntry body = none) : Writes readEntry text [] :=
  writes_line body htext hbreak hread

/-- A line with the value of a point. -/
theorem writes_point (device : Device) (address : BitVec 32) {value : List Char}
    {entry : Option LogEntry} (hbreak : '\n' ∉ value)
    (hread : isSupportedDevice device = true →
      readPoint (printDeviceAddress device address ++ '=' :: value) = entry) :
    Writes readEntry (printDeviceAddress device address ++ ('=' :: (value ++ "\n".toList)))
      (if isSupportedDevice device then entry else none).toList := by
  refine writes_line (printDeviceAddress device address ++ '=' :: value) ?_ ?_ ?_
  · rw [List.append_assoc]
    rfl
  · rw [List.mem_append, List.mem_cons, not_or, not_or]
    exact ⟨break_not_mem_deviceAddress device address, by decide, hbreak⟩
  · have hdevice : readEntry (printDeviceAddress device address ++ '=' :: value) =
        readPoint (printDeviceAddress device address ++ '=' :: value) := by
      rw [printDeviceAddress, List.append_assoc]
      exact readEntry_device device _
    rw [hdevice]
    split
    · rename_i hsupported
      exact hread hsupported
    · rename_i hunsupported
      cases device with
      | other code hcode => rfl
      | _ => exact absurd rfl hunsupported

/-- **A report line** writes its entry. -/
theorem ReportLine.writes (device : Device) (line : ReportLine) :
    Writes readEntry (lineText device line) (line.entry device).toList := by
  cases line with
  | plcError endCode =>
    refine writes_line ("PLC ERROR: 0x".toList ++ printWordHex endCode) ?_ ?_
      (readEntry_plcError endCode)
    · rw [List.append_assoc]
      rfl
    · rw [List.mem_append, not_or]
      exact ⟨by decide, not_mem_numeral (printPadded_isNumeral 4 endCode) (by decide)⟩
  | ok => exact writes_line "OK".toList rfl (by decide) rfl
  | bit address value =>
    refine writes_point device address ?_ fun hdevice => ?_
    · cases value <;> decide
    · rw [readPoint_value hdevice]
      cases value <;> rfl
  | word address value =>
    refine writes_point device address ?_ fun hdevice => readPoint_word hdevice address value
    exact not_mem_numeral (printNumeral_isNumeral (by decide) (by decide) value.toNat) (by decide)
  | readFailed index =>
    refine writes_line ("ERR: failed to read response value ".toList ++
      printNumeral 10 index) ?_ ?_ rfl
    · rw [List.append_assoc]
      rfl
    · rw [List.mem_append, not_or]
      exact ⟨by decide, not_mem_numeral (printNumeral_isNumeral (by decide) (by decide) index)
        (by decide)⟩

/-- A line of hexadecimal bytes. -/
theorem hexdump_writes {linePrefix : List Char} (hbreak : '\n' ∉ linePrefix) {data : List Byte}
    {entry : LogEntry} (hread : readEntry (linePrefix ++ printHexBytes data) = some entry) :
    Writes readEntry (hexdump linePrefix data) [entry] := by
  refine writes_line (linePrefix ++ printHexBytes data) ?_ ?_ hread
  · rw [hexdump, List.append_assoc]
    rfl
  · rw [List.mem_append, not_or]
    exact ⟨hbreak, break_not_mem_hexBytes data⟩

/-- The help is passed over. -/
theorem help_writes : Writes readEntry (helpLines.flatMap (· ++ ['\n'])) [] :=
  Writes.lines (by decide +kernel) (by decide +kernel)

theorem header_stdout (headerType : HeaderType) :
    (Printed.header headerType).stdout = "header: 3E".toList ++ ['\n'] ∨
      (Printed.header headerType).stdout = "header: 4E".toList ++ ['\n'] := by
  by_cases h3 : headerType = .h3E
  · left
    show "header: ".toList ++ ((if headerType = .h3E then _ else _) ++ _) = _
    rw [if_pos h3]
    rfl
  · right
    show "header: ".toList ++ ((if headerType = .h3E then _ else _) ++ _) = _
    rw [if_neg h3]
    rfl

/-- **Every print statement** writes its entry. -/
theorem Printed.writes (p : Printed) : Writes readEntry p.stdout p.entry.toList := by
  cases p with
  | tx data => exact hexdump_writes (by decide) (readEntry_tx data)
  | rx data => exact hexdump_writes (by decide) (readEntry_rx data)
  | response device line => exact line.writes device
  | help => exact help_writes
  | trace enabled =>
    cases enabled
    · exact writes_unread "trace: off".toList rfl (by decide) (by decide +kernel)
    · exact writes_unread "trace: on".toList rfl (by decide) (by decide +kernel)
  | header headerType =>
    rcases header_stdout headerType with htext | htext
    · exact writes_unread "header: 3E".toList htext (by decide) (by decide +kernel)
    · exact writes_unread "header: 4E".toList htext (by decide) (by decide +kernel)
  | unsupportedCommand =>
    exact writes_unread "Unsupported command.".toList rfl (by decide) (by decide +kernel)
  | greeting =>
    have hfirst : Writes readEntry "Interactive mode.\n".toList [] :=
      writes_unread "Interactive mode.".toList rfl (by decide) (by decide +kernel)
    have hsecond : Writes readEntry "Type 'help' for commands, 'quit' to exit.\n".toList [] :=
      writes_unread "Type 'help' for commands, 'quit' to exit.".toList rfl (by decide)
        (by decide +kernel)
    exact hfirst.append hsecond
  | prompt => exact Writes.unseen (by decide) readEntry_prompt
  | inputEnd => exact writes_unread [] rfl (by decide) rfl
  | syntaxError => exact writes_unread "Syntax error.".toList rfl (by decide) (by decide +kernel)
  | _ => exact Writes.nil

/-- The log of what was printed. -/
def Console.log (console : Console) : List LogEntry := console.printed.filterMap Printed.entry

/-- **The log is in the text**: reading the standard output line by line gives the entries of the
statements that printed it, in order. -/
theorem readLines_stdout (console : Console) :
    readLines readEntry console.stdout = console.log := by
  have hwrites := @Writes.flatMap _ _ _ console.printed _ _ fun p _ => p.writes
  rw [Console.stdout, hwrites.read_back rfl, Console.log]
  induction console.printed with
  | nil => rfl
  | cons p printed ih =>
    rw [List.flatMap_cons, List.filterMap_cons, ih]
    cases p.entry <;> rfl

end Statements

end Fx5
