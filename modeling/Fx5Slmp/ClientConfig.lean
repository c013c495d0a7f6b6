import Fx5Slmp.Lib.TextStream
import Fx5Slmp.ClientParser

/-!
# The configuration of the client

`fx5_client_config.c` and the text functions of `fx5_client_utility.c` that it uses: an INI file
is read piece by piece into a buffer of 256 characters, and every piece that is no comment and
has an `=` is applied to the configuration.  A file is the list of its bytes, one `Char` each.

`apply_kv` reads `tmp16` even when nothing was stored in it.  What it reads then is unspecified:
`junk` stands for it, with a value of its own for every call.

* `loadIniFile_entries` — when every line fits, the entries of the lines are applied in order.
-/

set_option autoImplicit false

namespace Fx5

open CText

/-! ## The configuration -/

/-- `fx5_client_config_t`. -/
structure ClientConfig where
  host : Option (List Char)
  port : Word
  traceEnabled : Bool
  recvTimeoutMs : BitVec 32
  scriptPath : Option (List Char)
  networkSettings : NetworkSettings

/-- `fx5_client_config_init`. -/
def configInit : ClientConfig where
  host := none
  port := 0
  traceEnabled := false
  recvTimeoutMs := 1000
  scriptPath := none
  networkSettings := { networkSettingsInit with headerType := .h4E }

/-- `fx5_client_config_set_host`, where there is memory for the copy. -/
def configSetHost (config : ClientConfig) (host : List Char) : ClientConfig :=
  { config with host := some (cstr host) }

/-! ## Values -/

/-- `fx5_client_parse_bool`. -/
def parseBool (text : List Char) : Option Bool :=
  if strcmpEq text "true".toList then some true
  else if strcmpEq text "false".toList then some false
  else none

/-- `fx5_client_parse_uint32_text`. -/
def parseUint32Text (platform : Platform) (text : List Char) : Option Nat :=
  if peek text = '\x00' then none
  else
    let (value, endptr) := strtoul platform text 10
    if endptr = text || peek endptr ≠ '\x00' then none else some (u32 value)

/-- `fx5_client_parse_uint16_text`. -/
def parseUint16Text (platform : Platform) (text : List Char) : Option Nat :=
  match parseUint32Text platform text with
  | some tmp => if tmp > 0xFFFF then none else some tmp
  | none => none

/-! ## Entries -/

/-- `fx5_client_parse_uint16_text(value, &tmp16); (uint8_t)tmp16`. -/
def parseByteText (platform : Platform) (junk : Word) (value : List Char) : Byte :=
  match parseUint16Text platform value with
  | some tmp16 => BitVec.ofNat 8 tmp16
  | none => BitVec.ofNat 8 junk.toNat

/-- The keys of `apply_kv`. -/
inductive IniKey where
  | host
  | port
  | trace
  | recvTimeoutMs
  | networkNo
  | pcNo
  | moduleIoNo
  | moduleStationNo
  | monitoringTimer
  | header
  deriving DecidableEq

def IniKey.name : IniKey → List Char
  | .host => "host".toList
  | .port => "port".toList
  | .trace => "trace".toList
  | .recvTimeoutMs => "recv_timeout_ms".toList
  | .networkNo => "network_no".toList
  | .pcNo => "pc_no".toList
  | .moduleIoNo => "module_io_no".toList
  | .moduleStationNo => "module_station_no".toList
  | .monitoringTimer => "monitoring_timer".toList
  | .header => "header".toList

/-- The keys in the order in which they are compared. -/
def INI_KEYS : List IniKey :=
  [.host, .port, .trace, .recvTimeoutMs, .networkNo, .pcNo, .moduleIoNo, .moduleStationNo,
    .monitoringTimer, .header]

/-- The chain of `strcmp` of `apply_kv`. -/
def iniKey (key : List Char) : Option IniKey := INI_KEYS.find? fun k => strcmpEq key k.name

/-- `apply_kv`. -/
def applyKv (platform : Platform) (junk : Word) (key value : List Char) (config : ClientConfig) :
    ClientConfig :=
  let settings := config.networkSettings
  match iniKey key with
  | some .host => configSetHost config value
  | some .port =>
    match parseUint16Text platform value with
    | some n => { config with port := BitVec.ofNat 16 n }
    | none => config
  | some .trace =>
    match parseBool value with
    | some b => { config with traceEnabled := b }
    | none => config
  | some .recvTimeoutMs =>
    match parseUint32Text platform value with
    | some n => { config with recvTimeoutMs := BitVec.ofNat 32 n }
    | none => config
  | some .networkNo =>
    { config with networkSettings :=
        { settings with networkNo := parseByteText platform junk value } }
  | some .pcNo =>
    { config with networkSettings := { settings with pcNo := parseByteText platform junk value } }
  | some .moduleIoNo =>
    match parseUint16Text platform value with
    | some n => { config with networkSettings := { settings with moduleIoNo := BitVec.ofNat 16 n } }
    | none => config
  | some .moduleStationNo =>
    { config with networkSettings :=
        { settings with moduleStationNo := parseByteText platform junk value } }
  | some .monitoringTimer =>
    match parseUint16Text platform value with
    | some n =>
      { config with networkSettings := { settings with monitoringTimer := BitVec.ofNat 16 n } }
    | none => config
  | some .header =>
    if strcmpEq value "3e".toList then
      { config with networkSettings := { settings with headerType := .h3E } }
    else if strcmpEq value "4e".toList then
      { config with networkSettings := { settings with headerType := .h4E } }
    else config
  | none => config

/-- The key and the value of a line that is no comment and has an `=`. -/
def iniEntry (line : List Char) : Option (List Char × List Char) :=
  let p := trim (cstr line)
  if peek p = '#' || peek p = '\x00' then none
  else if '=' ∈ p then
    some (trim (p.takeWhile (· ≠ '=')), trim ((p.dropWhile (· ≠ '=')).drop 1))
  else none

/-- `sizeof(line)` of `fx5_client_load_ini_file`. -/
def INI_LINE_SIZE : Nat := 256

theorem ini_line_size : 2 ≤ INI_LINE_SIZE := by decide

/-- The loop of `fx5_client_load_ini_file`; `n` entries have been applied. -/
def loadIniLoop (platform : Platform) (junk : Nat → Word) (n : Nat) (text : List Char)
    (config : ClientConfig) : ClientConfig :=
  match _h : fgets INI_LINE_SIZE text with
  | none => config
  | some (line, rest) =>
    match iniEntry line with
    | none => loadIniLoop platform junk n rest config
    | some (key, value) =>
      loadIniLoop platform junk (n + 1) rest (applyKv platform (junk n) key value config)
termination_by text.length
decreasing_by
  all_goals exact fgets_rest_lt ini_line_size _h

/-- `fx5_client_load_ini_file`; there is no text when the file cannot be opened. -/
def loadIniFile (platform : Platform) (junk : Nat → Word) (file : Option (List Char))
    (config : ClientConfig) : Bool × ClientConfig :=
  match file with
  | none => (false, config)
  | some text => (true, loadIniLoop platform junk 0 text config)

/-! ## The entries of a file -/

/-- The entries of a text, line by line. -/
def iniEntries (text : List Char) : List (List Char × List Char) :=
  (text.splitOn '\n').filterMap iniEntry

/-- Every line fits into the buffer. -/
def LinesFit (text : List Char) : Prop := ∀ line ∈ text.splitOn '\n', line.length < INI_LINE_SIZE

instance (text : List Char) : Decidable (LinesFit text) :=
  inferInstanceAs (Decidable (∀ line ∈ text.splitOn '\n', line.length < INI_LINE_SIZE))

/-- The `n`-th entry is applied. -/
def applyEntry (platform : Platform) (junk : Nat → Word) (config : ClientConfig)
    (entry : (List Char × List Char) × Nat) : ClientConfig :=
  applyKv platform (junk entry.2) entry.1.1 entry.1.2 config

section Entries

variable {platform : Platform} {junk : Nat → Word}

/-- A text equals at most one of two different names. -/
theorem strcmpEq_other {p a : List Char} (h : strcmpEq p a = true) (b : List Char) :
    strcmpEq p b = decide (a = b) := by
  have ha : p.takeWhile (· ≠ '\x00') = a := of_decide_eq_true h
  rw [strcmpEq, ha]

/-- **The chain of comparisons** finds the key whose name stands there. -/
theorem iniKey_eq_some {key : List Char} {k : IniKey} :
    iniKey key = some k ↔ strcmpEq key k.name = true := by
  constructor
  · intro h
    have hfound := List.find?_some (p := fun k' : IniKey => strcmpEq key k'.name) h
    exact hfound
  · intro h
    have hnames : (fun k' : IniKey => strcmpEq key k'.name) = fun k' => decide (k.name = k'.name) :=
      funext fun k' => strcmpEq_other h k'.name
    rw [iniKey, hnames]
    cases k <;> decide

theorem iniEntry_nil : iniEntry [] = none := by decide

/-- The line break at the end of a line belongs to no entry. -/
theorem iniEntry_break (a : List Char) : iniEntry (a ++ ['\n']) = iniEntry a := by
  unfold iniEntry
  rw [trim_cstr_break]

/-- **The loop** applies the entries of the pieces in order. -/
theorem loadIniLoop_pieces (n : Nat) (text : List Char) (config : ClientConfig) :
    loadIniLoop platform junk n text config =
      (((pieces 254 text).filterMap iniEntry).zipIdx n).foldl (applyEntry platform junk) config := by
  induction hlen : text.length using Nat.strong_induction_on generalizing n text config with
  | _ len ih =>
    rw [loadIniLoop]
    split
    · rename_i hend
      rw [pieces_of_fgets_none hend]
      rfl
    · rename_i line rest hread
      have hshort := fgets_rest_lt ini_line_size hread
      rw [pieces_fgets (show fgets (254 + 2) text = _ from hread), List.filterMap_cons]
      split
      · rename_i hnone
        rw [ih _ (by omega) _ _ _ rfl, hnone]
      · rename_i key value hsome
        rw [ih _ (by omega) _ _ _ rfl, hsome]
        rfl

/-- **Loading a file** whose lines fit applies the entries of its lines in order. -/
theorem loadIniFile_entries {text : List Char} (hfit : LinesFit text) (config : ClientConfig) :
    loadIniFile platform junk (some text) config =
      (true, ((iniEntries text).zipIdx 0).foldl (applyEntry platform junk) config) := by
  have hentries : (pieces 254 text).filterMap iniEntry = iniEntries text :=
    kept_lines (fun a _ => iniEntry_break a) iniEntry_nil fun line hmem =>
      Nat.le_of_lt_succ (hfit line hmem)
  rw [loadIniFile, loadIniLoop_pieces, hentries]

end Entries

end Fx5
