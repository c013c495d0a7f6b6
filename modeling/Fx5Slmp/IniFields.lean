import Fx5Slmp.Lib.LastUpdate
import Fx5Slmp.Lib.SignedNumerals
import Fx5Slmp.ClientConfig
import Fx5Slmp.ClientParserBounds

/-!
# The numeric fields of an INI file

Seven keys of the configuration file name a number.  `apply_kv` hands the text of a value to a
parser for 16 or 32 bits, and assigns an 8-bit field whatever the parser made of it.

* `parseUint32Text_iff` — the texts that are taken, and the number each gives;
* `applyKv_field` — what one entry assigns to a field;
* `loadIniFile_field` — a field ends with the last assignment;
* `assigns_eq_none`, `spoils_iff` — the texts that change nothing, and those that put in another
  number than expected;
* `ini_fields_iff` — invalid values change nothing, unless a spoiling text is followed by texts of
  the first kind only.
-/

set_option autoImplicit false

namespace Fx5

open CText LastUpdate

/-! ## Keys -/

/-- The keys whose value is a number. -/
inductive NumericKey where
  | port
  | recvTimeoutMs
  | networkNo
  | pcNo
  | moduleIoNo
  | moduleStationNo
  | monitoringTimer
  deriving DecidableEq

def NumericKey.iniKey : NumericKey → IniKey
  | .port => .port
  | .recvTimeoutMs => .recvTimeoutMs
  | .networkNo => .networkNo
  | .pcNo => .pcNo
  | .moduleIoNo => .moduleIoNo
  | .moduleStationNo => .moduleStationNo
  | .monitoringTimer => .monitoringTimer

def NumericKey.name (key : NumericKey) : List Char := key.iniKey.name

/-- The largest value of the field. -/
def NumericKey.max : NumericKey → Nat
  | .recvTimeoutMs => 4294967295
  | .port | .moduleIoNo | .monitoringTimer => 65535
  | .networkNo | .pcNo | .moduleStationNo => 255

/-- The field that the key names. -/
def NumericKey.field : NumericKey → ClientConfig → Nat
  | .port, config => config.port.toNat
  | .recvTimeoutMs, config => config.recvTimeoutMs.toNat
  | .networkNo, config => config.networkSettings.networkNo.toNat
  | .pcNo, config => config.networkSettings.pcNo.toNat
  | .moduleIoNo, config => config.networkSettings.moduleIoNo.toNat
  | .moduleStationNo, config => config.networkSettings.moduleStationNo.toNat
  | .monitoringTimer, config => config.networkSettings.monitoringTimer.toNat

/-- A decimal numeral up to a bound. -/
def numeralUpTo (bound : Nat) (text : List Char) : Option Nat :=
  if text ≠ [] ∧ text.all Char.isDigit = true ∧ digitsValue 10 text ≤ bound then
    some (digitsValue 10 text)
  else none

/-- The text that an entry gives for a key. -/
def NumericKey.valueOf (key : NumericKey) (entry : List Char × List Char) : Option (List Char) :=
  if strcmpEq entry.1 key.name then some entry.2 else none

/-- The texts that entries give for a key. -/
def NumericKey.values (key : NumericKey) (entries : List (List Char × List Char)) :
    List (List Char) := entries.filterMap key.valueOf

/-- The field after a file: the value of the last numeral in its range, or what it was before. -/
def NumericKey.documented (key : NumericKey) (entries : List (List Char × List Char))
    (before : Nat) : Nat := (lastSome (numeralUpTo key.max) (key.values entries)).getD before

/-- Invalid values change nothing: every numeric field is as documented, whatever `tmp16` holds when
nothing was stored in it. -/
def InvalidChangeNothing (platform : Platform) (text : List Char) (config : ClientConfig) : Prop :=
  ∀ (key : NumericKey) (junk : Nat → Word),
    key.field (loadIniFile platform junk (some text) config).2 =
      key.documented (iniEntries text) (key.field config)

/-- The largest number that the temporary of `apply_kv` takes for the key: `tmp16` for all but the
timeout. -/
def NumericKey.limit : NumericKey → Nat
  | .recvTimeoutMs => 4294967295
  | .port | .moduleIoNo | .monitoringTimer => 65535
  | .networkNo | .pcNo | .moduleStationNo => 65535

/-- The text is white space, an optional sign and a decimal numeral, and nothing more; `m` is what 32
bits hold of its number. -/
def Reads (platform : Platform) (value : List Char) (m : Nat) : Prop :=
  ∃ negative n, SignedText 10 (cstr value) negative n [] ∧ m = u32 (platform.loaded negative n)

/-- The text gives no number that the temporary takes. -/
def NumericKey.Unreadable (platform : Platform) (key : NumericKey) (value : List Char) : Prop :=
  ∀ m, Reads platform value m → key.limit < m

/-- The text leaves the field alone: the field is as wide as the temporary, which does not take the
text. -/
def NumericKey.Ignores (platform : Platform) (key : NumericKey) (value : List Char) : Prop :=
  key.max = key.limit ∧ key.Unreadable platform value

/-- The text is no numeral in the range of the field, and puts something unspecified there, or the
low bits of a number, which are not the expected ones. -/
def NumericKey.Spoils (platform : Platform) (key : NumericKey) (expected : Nat)
    (value : List Char) : Prop :=
  numeralUpTo key.max value = none ∧
    (key.max < key.limit ∧ key.Unreadable platform value ∨
      ∃ m, Reads platform value m ∧ m ≤ key.limit ∧ m % (key.max + 1) ≠ expected)

/-- A text for the key spoils what the numerals before it gave, and the texts behind it leave the
field alone. -/
def NumericKey.Misread (platform : Platform) (key : NumericKey)
    (entries : List (List Char × List Char)) (before : Nat) : Prop :=
  ∃ earlier value later, key.values entries = earlier ++ value :: later ∧
    key.Spoils platform ((lastSome (numeralUpTo key.max) earlier).getD before) value ∧
    ∀ text ∈ later, key.Ignores platform text

/-- What `apply_kv` assigns to the field for a value text: nothing, something unspecified, or a
number. -/
def NumericKey.assigns (platform : Platform) (key : NumericKey) (value : List Char) :
    Option (Option Nat) :=
  match key with
  | .recvTimeoutMs => (parseUint32Text platform value).map some
  | .port | .moduleIoNo | .monitoringTimer => (parseUint16Text platform value).map some
  | .networkNo | .pcNo | .moduleStationNo => some ((parseUint16Text platform value).map (· % 256))

/-! ## Value texts -/

section Texts

variable {platform : Platform} {key : NumericKey} {value : List Char}

/-- **The texts that are taken** for a number of 32 bits, and the number. -/
theorem parseUint32Text_iff {m : Nat} :
    parseUint32Text platform value = some m ↔ Reads platform value m := by
  constructor
  · intro h
    unfold parseUint32Text at h
    split at h
    · cases h
    rcases signedText_or platform (by decide : 10 ≠ 16) value with
      ⟨negative, n, rest, hsigned⟩ | ⟨_, hnone⟩
    · rw [strtoul_signedText platform (by decide) hsigned] at h
      simp only at h
      split at h
      · cases h
      · rename_i hend
        cases h
        have hend : peek rest = '\x00' := by simp_all
        exact ⟨negative, n, signedText_cstr.mpr ⟨rest, hsigned, hend⟩, rfl⟩
    · rw [hnone] at h
      simp at h
  · rintro ⟨negative, n, hsigned, rfl⟩
    obtain ⟨rest, hsigned, hend⟩ := signedText_cstr.mp hsigned
    have hnul := hsigned.peek_ne
    have hmoved : rest ≠ value := fun h => hnul (h ▸ hend)
    rw [parseUint32Text, if_neg hnul, strtoul_signedText platform (by decide) hsigned]
    simp [hmoved, hend]

/-- The texts that are taken for a number of 16 bits. -/
theorem parseUint16Text_iff {m : Nat} :
    parseUint16Text platform value = some m ↔ Reads platform value m ∧ m ≤ 65535 := by
  rw [← parseUint32Text_iff, parseUint16Text]
  constructor
  · intro h
    split at h
    · split at h
      · cases h
      · cases h
        exact ⟨by assumption, by omega⟩
    · cases h
  · rintro ⟨hread, hle⟩
    rw [hread]
    exact if_neg (by omega)

theorem Reads.lt {m : Nat} (h : Reads platform value m) : m < 4294967296 := by
  obtain ⟨_, _, _, rfl⟩ := h
  exact u32_lt _

/-- The number that the temporary takes. -/
def NumericKey.parsed (platform : Platform) (key : NumericKey) (value : List Char) : Option Nat :=
  if key.limit = 65535 then parseUint16Text platform value else parseUint32Text platform value

theorem NumericKey.parsed_iff {m : Nat} :
    key.parsed platform value = some m ↔ Reads platform value m ∧ m ≤ key.limit := by
  rw [NumericKey.parsed]
  split
  · rename_i hlimit
    rw [parseUint16Text_iff, hlimit]
  · rename_i hlimit
    have hwide : key.limit = 4294967295 := by cases key <;> first | rfl | exact absurd rfl hlimit
    rw [parseUint32Text_iff, hwide]
    exact ⟨fun h => ⟨h, by have := h.lt; omega⟩, fun h => h.1⟩

theorem NumericKey.parsed_eq_none : key.parsed platform value = none ↔
    key.Unreadable platform value := by
  constructor
  · intro h m hread
    by_contra hle
    have hsome := NumericKey.parsed_iff.mpr ⟨hread, Nat.le_of_not_lt hle⟩
    exact Option.some_ne_none _ (hsome.symm.trans h)
  · intro h
    cases hparsed : key.parsed platform value with
    | none => rfl
    | some m =>
      obtain ⟨hread, hle⟩ := NumericKey.parsed_iff.mp hparsed
      exact absurd (h m hread) (Nat.not_lt.mpr hle)

/-- A field narrower than the temporary is assigned its low bits, whatever it holds. -/
theorem NumericKey.assigns_eq : key.assigns platform value =
    if key.max < key.limit then
      some ((key.parsed platform value).map (· % (key.max + 1)))
    else (key.parsed platform value).map some := by
  cases key <;> rfl

/-- **The texts that change nothing.** -/
theorem assigns_eq_none : key.assigns platform value = none ↔ key.Ignores platform value := by
  have hle : key.max ≤ key.limit := by cases key <;> decide
  rw [NumericKey.assigns_eq, NumericKey.Ignores, ← NumericKey.parsed_eq_none]
  split
  · rename_i hnarrow
    exact ⟨nofun, fun h => absurd h.1 (Nat.ne_of_lt hnarrow)⟩
  · rename_i hwide
    rw [Option.map_eq_none_iff]
    exact ⟨fun h => ⟨by omega, h⟩, fun h => h.2⟩

/-- **The texts that spoil a field** are no numerals in its range and assign something else than
expected. -/
theorem spoils_iff {expected : Nat} : key.Spoils platform expected value ↔
    numeralUpTo key.max value = none ∧
      ∃ assigned, key.assigns platform value = some assigned ∧ assigned ≠ some expected := by
  have hle : key.max ≤ key.limit := by cases key <;> decide
  refine and_congr_right fun _ => ?_
  rw [NumericKey.assigns_eq, ← NumericKey.parsed_eq_none]
  simp only [← and_assoc, ← NumericKey.parsed_iff]
  cases hparsed : key.parsed platform value with
  | none =>
    split
    · rename_i hnarrow
      simp [hnarrow]
    · rename_i hwide
      simp [hwide]
  | some m =>
    split
    · simp
    · rename_i hwide
      -- the field is as wide as the temporary, so that the low bits are the number
      have hfit := (NumericKey.parsed_iff.mp hparsed).2
      have hmod : m % (key.max + 1) = m := Nat.mod_eq_of_lt (by omega)
      simp [hmod]

end Texts

/-! ## One entry -/

section Entry

variable {platform : Platform} {key : NumericKey}

/-- What an entry assigns, with the junk in place of an unspecified value. -/
def NumericKey.update (platform : Platform) (junk : Word) (key : NumericKey)
    (entry : List Char × List Char) : Option Nat :=
  ((key.valueOf entry).bind (key.assigns platform)).map (·.getD (junk.toNat % 256))

/-- What is stored of a number that was parsed. -/
theorem parseUint16Text_stored {value : List Char} {n : Nat}
    (h : parseUint16Text platform value = some n) : (BitVec.ofNat 16 n).toNat = n := by
  have hle := (parseUint16Text_iff.mp h).2
  rw [BitVec.toNat_ofNat]
  omega

theorem parseUint32Text_stored {value : List Char} {n : Nat}
    (h : parseUint32Text platform value = some n) : (BitVec.ofNat 32 n).toNat = n := by
  have hlt := (parseUint32Text_iff.mp h).lt
  rw [BitVec.toNat_ofNat]
  omega

theorem parseByteText_toNat (junk : Word) (value : List Char) :
    (parseByteText platform junk value).toNat =
      ((parseUint16Text platform value).map (· % 256)).getD (junk.toNat % 256) := by
  unfold parseByteText
  split
  · rename_i n h
    rw [h, BitVec.toNat_ofNat]
    rfl
  · rename_i h
    rw [h, BitVec.toNat_ofNat]
    rfl

/-- **One entry** assigns the field of its key, and leaves the others alone. -/
theorem applyKv_field (junk : Word) (name value : List Char) (config : ClientConfig) :
    key.field (applyKv platform junk name value config) =
      (key.update platform junk (name, value)).getD (key.field config) := by
  have hupdate : key.update platform junk (name, value) =
      if iniKey name = some key.iniKey then
        (key.assigns platform value).map (·.getD (junk.toNat % 256))
      else none := by
    rw [NumericKey.update, NumericKey.valueOf]
    simp only [NumericKey.name, ← iniKey_eq_some]
    split <;> rfl
  rw [hupdate, applyKv]
  cases hkey : iniKey name with
  | none => cases key <;> rfl
  | some found =>
    cases found with
    | host => cases key <;> rfl
    | trace =>
      dsimp only
      cases parseBool value <;> cases key <;> rfl
    | header =>
      dsimp only
      split
      · cases key <;> rfl
      · split <;> cases key <;> rfl
    | port | moduleIoNo | monitoringTimer =>
      dsimp only
      cases hvalue : parseUint16Text platform value with
      | none => cases key <;> simp [NumericKey.iniKey, NumericKey.assigns, hvalue]
      | some n =>
        have hstored := parseUint16Text_stored hvalue
        cases key <;> simp_all [NumericKey.iniKey, NumericKey.assigns, NumericKey.field]
    | recvTimeoutMs =>
      dsimp only
      cases hvalue : parseUint32Text platform value with
      | none => cases key <;> simp [NumericKey.iniKey, NumericKey.assigns, hvalue]
      | some n =>
        have hstored := parseUint32Text_stored hvalue
        cases key <;> simp_all [NumericKey.iniKey, NumericKey.assigns, NumericKey.field]
    | networkNo | pcNo | moduleStationNo =>
      have hbyte := @parseByteText_toNat platform junk value
      cases key <;> first | exact hbyte | rfl

theorem numeralUpTo_eq_some {bound n : Nat} {value : List Char} :
    numeralUpTo bound value = some n ↔ IsNumeral 10 value n ∧ n ≤ bound := by
  have hdigits : value.all Char.isDigit = true ↔ ∀ c ∈ value, isDigitIn 10 c = true := by
    rw [List.all_eq_true]
    simp only [isDigitIn_ten]
  constructor
  · intro h
    unfold numeralUpTo at h
    split at h
    · rename_i hvalue
      obtain ⟨hnonempty, hall, hle⟩ := hvalue
      cases h
      exact ⟨⟨hnonempty, hdigits.mp hall, rfl⟩, hle⟩
    · cases h
  · rintro ⟨hnumeral, hle⟩
    obtain rfl := hnumeral.value
    exact if_pos ⟨hnumeral.nonempty, hdigits.mpr hnumeral.digits, hle⟩

/-- A numeral for a number of 32 bits is read as what it says. -/
theorem parseUint32Text_numeral {value : List Char} {n : Nat} (h : IsNumeral 10 value n)
    (hn : n < 4294967296) : parseUint32Text platform value = some n := by
  have hmax := platform.ulong_max_ge
  have hdigit := h.peek_append []
  rw [List.append_nil] at hdigit
  obtain ⟨_, _, _, _, _, hnul⟩ := plain_of_isAlphanum (isAlphanum_of_isDigitIn hdigit)
  have hread := @strtoul_numeral platform _ _ _ [] h (by decide) (by decide)
  rw [List.append_nil, Nat.min_eq_left (by omega)] at hread
  rw [parseUint32Text, if_neg hnul, hread]
  simp [h.nonempty.symm, u32_of_lt hn]

/-- **A numeral in the range** of the field is assigned as what it says. -/
theorem numeral_assigned {value : List Char} {n : Nat}
    (h : numeralUpTo key.max value = some n) : key.assigns platform value = some (some n) := by
  obtain ⟨hnumeral, hle⟩ := numeralUpTo_eq_some.mp h
  have hmax : key.max < 4294967296 := by cases key <;> decide
  have h32 := @parseUint32Text_numeral platform _ _ hnumeral (by omega)
  have h16 (hn : n ≤ 65535) : parseUint16Text platform value = some n := by
    rw [parseUint16Text, h32]
    exact if_neg (by omega)
  cases key with
  | recvTimeoutMs => exact congrArg (Option.map some) h32
  | port | moduleIoNo | monitoringTimer => exact congrArg (Option.map some) (h16 hle)
  | networkNo | pcNo | moduleStationNo =>
    have hbyte : n ≤ 255 := hle
    have hmod : n % 256 = n := Nat.mod_eq_of_lt (by omega)
    rw [NumericKey.assigns, h16 (by omega), Option.map_some, hmod]

end Entry

/-! ## A whole file -/

section File

variable {platform : Platform} {key : NumericKey} {text : List Char}

/-- **A field ends with the last assignment**; what is unspecified has some value. -/
theorem loadIniFile_field (hfit : LinesFit text) (junk : Nat → Word) (config : ClientConfig) :
    ∃ i, key.field (loadIniFile platform junk (some text) config).2 =
      ((lastSome (key.assigns platform) (key.values (iniEntries text))).map
        (·.getD ((junk i).toNat % 256))).getD (key.field config) := by
  have hstep (config : ClientConfig) (entry : (List Char × List Char) × Nat) :
      key.field (applyEntry platform junk config entry) =
        (key.update platform (junk entry.2) entry.1).getD (key.field config) :=
    applyKv_field _ _ _ _
  have hvalues : lastSome (key.assigns platform) (key.values (iniEntries text)) =
      lastSome (fun entry => (key.valueOf entry).bind (key.assigns platform)) (iniEntries text) := by
    rw [lastSome, lastSome, NumericKey.values, List.filterMap_filterMap]
  obtain ⟨i, hi⟩ := lastSome_zipIdx (fun i assigned => assigned.getD ((junk i).toNat % 256))
    (iniEntries text) 0 (f := fun entry => (key.valueOf entry).bind (key.assigns platform))
  refine ⟨i, ?_⟩
  rw [loadIniFile_entries hfit, foldl_lastSome hstep, hvalues, ← hi]
  rfl

/-- A numeral in the range of the field is not ignored. -/
theorem numeral_of_ignores {value : List Char} (h : key.Ignores platform value) :
    numeralUpTo key.max value = none := by
  cases hvalue : numeralUpTo key.max value with
  | none => rfl
  | some n =>
    have hassigned := @numeral_assigned platform _ _ _ hvalue
    rw [assigns_eq_none.mpr h] at hassigned
    cases hassigned

/-- What is documented of a field, where a text that is no numeral is followed by ignored ones. -/
theorem documented_split {entries : List (List Char × List Char)} {earlier later : List (List Char)}
    {value : List Char} {before : Nat} (hsplit : key.values entries = earlier ++ value :: later)
    (hnone : numeralUpTo key.max value = none)
    (hlater : ∀ text ∈ later, key.Ignores platform text) :
    key.documented entries before = (lastSome (numeralUpTo key.max) earlier).getD before := by
  rw [NumericKey.documented, hsplit,
    lastSome_split fun text hmem => numeral_of_ignores (hlater text hmem), hnone, Option.none_or]

/-- **A misread value** can be seen in the field. -/
theorem misread_changes {config : ClientConfig} (hfit : LinesFit text)
    (h : key.Misread platform (iniEntries text) (key.field config)) :
    ¬InvalidChangeNothing platform text config := by
  obtain ⟨earlier, value, later, hsplit, hspoils, hlater⟩ := h
  obtain ⟨hnone, assigned, hassigned, hdiffers⟩ := spoils_iff.mp hspoils
  rw [← documented_split hsplit hnone hlater] at hdiffers
  intro hall
  let expected := key.documented (iniEntries text) (key.field config)
  -- the junk is chosen to be another number than the documented one
  let junk : Word := BitVec.ofNat 16 (expected + 1)
  obtain ⟨i, hi⟩ := @loadIniFile_field platform key _ hfit (fun _ => junk) config
  rw [hall key (fun _ => junk), hsplit,
    lastSome_split fun text hmem => assigns_eq_none.mpr (hlater text hmem), hassigned] at hi
  cases assigned with
  | none =>
    have hjunk : expected = junk.toNat % 256 := hi
    rw [BitVec.toNat_ofNat] at hjunk
    omega
  | some n =>
    have hsame : expected = n := hi
    exact hdiffers (congrArg some hsame.symm)

/-- **Without a misread value** the field is as documented. -/
theorem field_documented {config : ClientConfig} (hfit : LinesFit text)
    (h : ¬key.Misread platform (iniEntries text) (key.field config)) (junk : Nat → Word) :
    key.field (loadIniFile platform junk (some text) config).2 =
      key.documented (iniEntries text) (key.field config) := by
  obtain ⟨i, hi⟩ := @loadIniFile_field platform key _ hfit junk config
  rw [hi]
  rcases exists_last (key.assigns platform) (key.values (iniEntries text)) with
    hnone | ⟨earlier, value, later, hsplit, hassigns, hlater⟩
  · rw [lastSome_eq_none.mpr hnone, NumericKey.documented,
      lastSome_eq_none.mpr fun value hmem => numeral_of_ignores (assigns_eq_none.mp (hnone value hmem))]
    rfl
  · obtain ⟨assigned, hassigned⟩ := Option.ne_none_iff_exists'.mp hassigns
    have hignores (text : List Char) (hmem : text ∈ later) : key.Ignores platform text :=
      assigns_eq_none.mp (hlater text hmem)
    rw [hsplit, lastSome_split hlater, hassigned]
    cases hvalue : numeralUpTo key.max value with
    | some n =>
      have hn := @numeral_assigned platform _ _ _ hvalue
      rw [hassigned, Option.some.injEq] at hn
      rw [NumericKey.documented, hsplit,
        lastSome_split fun text hmem => numeral_of_ignores (hignores text hmem), hvalue, hn]
      rfl
    | none =>
      have hsame : assigned = some (key.documented (iniEntries text) (key.field config)) := by
        rw [documented_split hsplit hvalue hignores]
        by_contra hne
        exact h ⟨earlier, value, later, hsplit, spoils_iff.mpr ⟨hvalue, assigned, hassigned, hne⟩,
          hignores⟩
      rw [hsame]
      rfl

/-- Nothing is misread where the last text for the key is a numeral in the range of its field. -/
theorem not_misread_of_numeral {entries : List (List Char × List Char)} {before : Nat}
    (h : (key.values entries).getLast?.all (fun value => (numeralUpTo key.max value).isSome) = true) :
    ¬key.Misread platform entries before := by
  rintro ⟨earlier, value, later, hsplit, hspoils, hlater⟩
  rw [hsplit] at h
  cases hlast : later.getLast? with
  | none =>
    rw [List.getLast?_append, List.getLast?_cons, hlast] at h
    simp [hspoils.1] at h
  | some text =>
    have hnone := numeral_of_ignores (hlater text (List.mem_of_getLast? hlast))
    rw [List.getLast?_append, List.getLast?_cons, hlast] at h
    simp [hnone] at h

/-- **Invalid values change nothing** unless a text spoils a field and only ignored ones follow. -/
theorem ini_fields_iff (platform : Platform) (text : List Char) (config : ClientConfig)
    (hfit : LinesFit text) :
    InvalidChangeNothing platform text config ↔
      ∀ key : NumericKey, ¬key.Misread platform (iniEntries text) (key.field config) := by
  constructor
  · intro hall key hmisread
    exact misread_changes hfit hmisread hall
  · intro h key junk
    exact field_documented hfit (h key) junk

/-- A comment, a port, a network number out of range and one in range. -/
theorem valid_network_no_assigned : InvalidChangeNothing lp64
    "# gateway\nport = 5010\nnetwork_no = 300\nnetwork_no = 2\n".toList configInit :=
  (ini_fields_iff lp64 _ configInit (by decide +kernel)).mpr fun key =>
    not_misread_of_numeral (by cases key <;> decide +kernel)

/-- A network number out of range changes the field. -/
theorem invalid_network_no_assigned : ¬∀ (platform : Platform) (text : List Char)
    (config : ClientConfig), LinesFit text → InvalidChangeNothing platform text config := by
  intro h
  have hfit : LinesFit "network_no=300\n".toList := by decide +kernel
  have hfield := h lp64 _ configInit hfit .networkNo fun _ => 0
  rw [loadIniFile_entries hfit] at hfield
  revert hfield
  decide +kernel

end File

end Fx5
