import Fx5Slmp.AppLifecycle
import Fx5Slmp.IniFields
import Fx5Slmp.Lib.SignedNumerals
import Fx5Slmp.SessionMemory

/-!
# The program

`main` of the client: the words of the command line are read, the configuration is put together from
the defaults, the file `fx5_client.ini` and the command line, and `fx5_client_app_run` is called.

* `parsePort_iff` — which texts are ports;
* `Options` — the words of a command line as a sequence of options;
* `main_configures` — which command lines are accepted, and the configuration they lead to;
* `main_runs_session` — the program with a script does what the texts of the script mean.
-/

set_option autoImplicit false

namespace Fx5

open CText LastUpdate StoppingRun

/-! ## The words of the command line -/

/-- `fx5_client_config_set_script_path`, where there is memory for the copy. -/
def configSetScriptPath (config : ClientConfig) (path : List Char) : ClientConfig :=
  { config with scriptPath := some (cstr path) }

/-- `fx5_client_parse_port`. -/
def parsePort (platform : Platform) (text : List Char) : Option Word :=
  let (value, endptr) := strtol platform text 10
  if peek text = '\x00' || peek endptr ≠ '\x00' then none
  else if value < 1 || value > 65535 then none
  else some (BitVec.ofInt 16 value)

/-- `config->network_settings.header_type = type`. -/
def ClientConfig.withHeader (config : ClientConfig) (type : HeaderType) : ClientConfig :=
  { config with networkSettings := { config.networkSettings with headerType := type } }

/-- `fx5_client_parse_optional_arg`: the index and the configuration behind an option. -/
def parseOptionalArg (argv : List (List Char)) (index : Nat) (config : ClientConfig) :
    Option (Nat × ClientConfig) := do
  let arg ← argv[index]?
  if strcmpEq arg "--trace".toList then some (index, { config with traceEnabled := true })
  else if strcmpEq arg "--header=3e".toList then some (index, config.withHeader .h3E)
  else if strcmpEq arg "--header=4e".toList then some (index, config.withHeader .h4E)
  else if strcmpEq arg "--script".toList then do
    let path ← argv[index + 1]?
    some (index + 1, configSetScriptPath config path)
  else if startsWith arg "--script=".toList then
    let path := arg.drop 9
    if peek path = '\x00' then none else some (index, configSetScriptPath config path)
  else none

/-- An option does not go back. -/
theorem parseOptionalArg_index {argv : List (List Char)} {index index' : Nat}
    {config config' : ClientConfig}
    (h : parseOptionalArg argv index config = some (index', config')) : index ≤ index' := by
  obtain ⟨arg, _, h⟩ := Option.bind_eq_some_iff.mp h
  split at h
  · cases h; rfl
  split at h
  · cases h; rfl
  split at h
  · cases h; rfl
  split at h
  · obtain ⟨path, _, h⟩ := Option.bind_eq_some_iff.mp h
    cases h
    exact Nat.le_succ index
  split at h
  · simp only at h
    split at h
    · cases h
    · cases h; rfl
  · cases h

/-- The loop of `main` over the options: the configuration, or the index of the word at which the
loop stopped. -/
def mainOptions (argv : List (List Char)) (i : Nat) (config : ClientConfig) :
    Except Nat ClientConfig :=
  if i < argv.length then
    match _h : parseOptionalArg argv i config with
    | none => .error i
    | some (index, config) => mainOptions argv (index + 1) config
  else .ok config
termination_by argv.length - i
decreasing_by
  have := parseOptionalArg_index _h
  omega

/-! ## The program -/

/-- Why `main` does not get to `fx5_client_app_run`. -/
inductive MainStop where
  | version
  | help
  | usage
  | invalidPort (text : List Char)
  | unknownOption (arg : List Char)
  deriving DecidableEq

/-- What `main` returns then. -/
def MainStop.rc : MainStop → Nat
  | .version | .help => 0
  | .usage | .invalidPort _ | .unknownOption _ => 1

/-- `strcmp(argv[i], word) == 0`. -/
def argIs (argv : List (List Char)) (i : Nat) (word : List Char) : Bool :=
  (argv[i]?).any (strcmpEq · word)

/-- `main` up to the call of `fx5_client_app_run`; `ini` is the text of `fx5_client.ini`. -/
def mainConfig (platform : Platform) (junk : Nat → Word) (ini : Option (List Char))
    (argv : List (List Char)) : Except MainStop ClientConfig :=
  if argv.length = 2 && argIs argv 1 "--version".toList then .error .version
  else if argv.length = 2 && (argIs argv 1 "--help".toList || argIs argv 1 "-h".toList) then
    .error .help
  else
    match argv with
    | _ :: host :: portText :: _ =>
      match parsePort platform portText with
      | none => .error (.invalidPort portText)
      | some port =>
        let config := (loadIniFile platform junk ini configInit).2
        let config := { configSetHost config host with port := port }
        match mainOptions argv 3 config with
        | .error i => .error (.unknownOption (argv.getD i []))
        | .ok config => .ok config
    | _ => .error .usage

/-- How `main` ended. -/
inductive MainEnd where
  | stopped (stop : MainStop)
  | ran (r : AppEnd)

/-- What `main` returns. -/
def MainEnd.rc : MainEnd → Nat
  | .stopped stop => stop.rc
  | .ran r => r.rc

/-- `main`. -/
def clientMain (cfg : Config) (platform : Platform) (junk : Nat → Word) (env : Surroundings)
    (argv : List (List Char)) (world : World) : Option MainEnd :=
  let ini := (env.files "fx5_client.ini".toList).map (·.text)
  match mainConfig platform junk ini argv with
  | .error stop => some (.stopped stop)
  | .ok config => (appRun cfg platform env config world).map .ran

/-! ## Ports -/

/-- A port as it can be written: white space, perhaps a plus sign, and a decimal numeral. -/
def PortText (text : List Char) (port : Word) : Prop :=
  1 ≤ port.toNat ∧ SignedText 10 (cstr text) false port.toNat []

/-- A number that is a port is in the range of `long`. -/
theorem port_lt_LONG_MAX (platform : Platform) : 65535 < platform.LONG_MAX := by
  have := platform.ulong_max_ge
  rw [Platform.LONG_MAX]
  omega

/-- **The texts of ports.** -/
theorem parsePort_iff {platform : Platform} {text : List Char} {port : Word} :
    parsePort platform text = some port ↔ PortText text port := by
  have hlong := port_lt_LONG_MAX platform
  have hport := port.isLt
  constructor
  · intro h
    unfold parsePort at h
    rcases signedText_or platform (by decide : 10 ≠ 16) text with
      ⟨negative, n, rest, hsigned⟩ | ⟨hnone, _⟩
    · rw [strtol_signedText platform (by decide) hsigned] at h
      cases negative with
      | true =>
        simp only [if_true] at h
        split at h
        · cases h
        · rw [if_pos (by simp; omega)] at h
          cases h
      | false =>
        simp only [Bool.false_eq_true, if_false] at h
        split at h
        · cases h
        rename_i hend
        simp only [Bool.or_eq_true, decide_eq_true_eq, not_or, not_not] at hend
        split at h
        · cases h
        rename_i hrange
        simp only [Bool.or_eq_true, decide_eq_true_eq, not_or, Int.not_lt] at hrange
        cases h
        have hmin : min n platform.LONG_MAX = n := by omega
        rw [hmin] at hrange ⊢
        have hn : (BitVec.ofInt 16 (n : Int)).toNat = n := by
          rw [BitVec.ofInt_natCast, BitVec.toNat_ofNat]
          omega
        rw [PortText, hn]
        exact ⟨by omega, signedText_cstr.mpr ⟨rest, hsigned, hend.2⟩⟩
    · rw [hnone] at h
      simp only at h
      split at h
      · cases h
      · rename_i hend
        simp only [Bool.or_eq_true, decide_eq_true_eq, not_or, not_not] at hend
        exact absurd hend.2 hend.1
  · rintro ⟨hone, hsigned⟩
    obtain ⟨rest, hsigned, hend⟩ := signedText_cstr.mp hsigned
    have hnonempty : peek text ≠ '\x00' := hsigned.peek_ne
    have hmin : min port.toNat platform.LONG_MAX = port.toNat := by omega
    unfold parsePort
    rw [strtol_signedText platform (by decide) hsigned, if_neg Bool.false_ne_true, hmin]
    simp only
    rw [if_neg (by simp [hnonempty, hend]), if_neg (by simp; omega), BitVec.ofInt_natCast,
      BitVec.ofNat_toNat, BitVec.setWidth_eq]

/-! ## Options -/

/-- What an option of the command line sets. -/
inductive ClientOption where
  | trace
  | header (type : HeaderType)
  | script (path : List Char)
  deriving DecidableEq

def ClientOption.apply (config : ClientConfig) : ClientOption → ClientConfig
  | .trace => { config with traceEnabled := true }
  | .header type => config.withHeader type
  | .script path => { config with scriptPath := some path }

def ClientOption.traceOf : ClientOption → Option Bool
  | .trace => some true
  | _ => none

def ClientOption.headerOf : ClientOption → Option HeaderType
  | .header type => some type
  | _ => none

def ClientOption.scriptOf : ClientOption → Option (List Char)
  | .script path => some path
  | _ => none

/-- The words of one option. -/
inductive OptionWords : List (List Char) → ClientOption → Prop
  | trace {arg : List Char} (h : cstr arg = "--trace".toList) : OptionWords [arg] .trace
  | header3E {arg : List Char} (h : cstr arg = "--header=3e".toList) :
      OptionWords [arg] (.header .h3E)
  | header4E {arg : List Char} (h : cstr arg = "--header=4e".toList) :
      OptionWords [arg] (.header .h4E)
  | script {arg : List Char} (path : List Char) (h : cstr arg = "--script".toList) :
      OptionWords [arg, path] (.script (cstr path))
  | scriptEq {arg path : List Char} (h : cstr arg = "--script=".toList ++ path) (hpath : path ≠ []) :
      OptionWords [arg] (.script path)

/-- The words of some options, one after the other. -/
inductive Options : List (List Char) → List ClientOption → Prop
  | nil : Options [] []
  | cons {words rest : List (List Char)} {option : ClientOption} {options : List ClientOption}
      (hwords : OptionWords words option) (hrest : Options rest options) :
      Options (words ++ rest) (option :: options)

/-- An option names a header type that the library accepts. -/
theorem Options.headerAccepted {args : List (List Char)} {options : List ClientOption}
    (h : Options args options) : ∀ option ∈ options, ∀ type, option.headerOf = some type →
      HeaderAccepted type := by
  induction h with
  | nil => exact fun _ hmem => absurd hmem List.not_mem_nil
  | cons hwords _ ih =>
    refine List.forall_mem_cons.mpr ⟨fun type htype => ?_, ih⟩
    cases hwords with
    | header3E => cases htype; exact Or.inl rfl
    | header4E => cases htype; exact Or.inr rfl
    | trace | script | scriptEq => cases htype

/-- No option begins the words. -/
def NoOption (args : List (List Char)) : Prop :=
  ∀ words option rest, OptionWords words option → args ≠ words ++ rest

theorem OptionWords.length_pos {words : List (List Char)} {option : ClientOption}
    (h : OptionWords words option) : 0 < words.length := by
  cases h <;> exact Nat.succ_pos _

section Options

variable {argv words rest : List (List Char)} {option : ClientOption}
  {options : List ClientOption} {config config' : ClientConfig} {i j : Nat}

theorem strcmpEq_cstr (arg word : List Char) : strcmpEq arg word = decide (cstr arg = word) := rfl

/-- A string that begins with a word goes on behind it. -/
theorem cstr_startsWith {arg word path : List Char} (h : cstr arg = word ++ path) :
    startsWith arg word = true ∧ cstr (arg.drop word.length) = path := by
  have hplain : ∀ c ∈ word ++ path, c ≠ '\x00' := fun c hc => by
    rw [← h] at hc
    simpa using List.mem_takeWhile_imp hc
  have hsplit : word ++ (path ++ arg.dropWhile (· ≠ '\x00')) = arg := by
    have hsplit : cstr arg ++ arg.dropWhile (· ≠ '\x00') = arg := List.takeWhile_append_dropWhile
    rwa [h, List.append_assoc] at hsplit
  have hword (c : Char) (hc : c ∈ word) : c ≠ '\x00' := hplain c (List.mem_append_left _ hc)
  constructor
  · rw [startsWith, List.isPrefixOf_iff_prefix]
    exact ⟨_, hsplit⟩
  · rw [← hsplit, cstr_append hword] at h
    rw [← hsplit, List.drop_left]
    exact List.append_cancel_left h

theorem getElem?_of_drop {arg : List Char} (h : argv.drop i = arg :: rest) : argv[i]? = some arg := by
  have hhead := congrArg List.head? h
  rwa [List.head?_drop] at hhead

/-- **The words of an option** are read as it. -/
theorem parseOptionalArg_of_words (hwords : OptionWords words option)
    (hargv : argv.drop i = words ++ rest) (config : ClientConfig) :
    parseOptionalArg argv i config = some (i + words.length - 1, option.apply config) := by
  unfold parseOptionalArg
  cases hwords with
  | trace h | header3E h | header4E h =>
    simp only [getElem?_of_drop hargv, Option.bind_eq_bind, Option.bind_some, strcmpEq_cstr, h]
    rfl
  | script path h =>
    have hnext : argv.drop (i + 1) = path :: rest := by
      rw [← List.drop_drop, hargv]
      rfl
    simp only [getElem?_of_drop hargv, getElem?_of_drop hnext, Option.bind_eq_bind,
      Option.bind_some, strcmpEq_cstr, h]
    rfl
  | @scriptEq arg path h hpath =>
    obtain ⟨hstarts, hrest⟩ := cstr_startsWith h
    have hrest : cstr (arg.drop 9) = path := hrest
    have hnul : peek (arg.drop 9) ≠ '\x00' := fun hend => by
      rw [cstr_of_peek hend] at hrest
      exact hpath hrest.symm
    have hother (word : List Char) (hne : word.take 9 ≠ "--script=".toList) :
        cstr arg ≠ word := by
      rintro rfl
      rw [h] at hne
      exact hne rfl
    simp only [getElem?_of_drop hargv, Option.bind_eq_bind, Option.bind_some, strcmpEq_cstr]
    rw [decide_eq_false (hother _ (by decide)), decide_eq_false (hother _ (by decide)),
      decide_eq_false (hother _ (by decide)), decide_eq_false (hother _ (by decide))]
    simp only [Bool.false_eq_true, if_false, hstarts, if_true, if_neg hnul, configSetScriptPath,
      hrest]
    rfl

/-- **What is read** are the words of an option. -/
theorem parseOptionalArg_words (h : parseOptionalArg argv i config = some (j, config')) :
    ∃ words option rest, OptionWords words option ∧ argv.drop i = words ++ rest ∧
      j + 1 = i + words.length ∧ config' = option.apply config := by
  obtain ⟨arg, harg, h⟩ := Option.bind_eq_some_iff.mp h
  have hargv : argv.drop i = arg :: argv.drop (i + 1) := by
    obtain ⟨hlt, rfl⟩ := List.getElem?_eq_some_iff.mp harg
    exact List.drop_eq_getElem_cons hlt
  split at h
  · rename_i hword
    cases h
    exact ⟨_, _, _, .trace (of_decide_eq_true hword), hargv, rfl, rfl⟩
  split at h
  · rename_i hword
    cases h
    exact ⟨_, _, _, .header3E (of_decide_eq_true hword), hargv, rfl, rfl⟩
  split at h
  · rename_i hword
    cases h
    exact ⟨_, _, _, .header4E (of_decide_eq_true hword), hargv, rfl, rfl⟩
  split at h
  · rename_i hword
    obtain ⟨path, hpath, h⟩ := Option.bind_eq_some_iff.mp h
    cases h
    obtain ⟨hlt, rfl⟩ := List.getElem?_eq_some_iff.mp hpath
    refine ⟨_, _, argv.drop (i + 2), .script _ (of_decide_eq_true hword), ?_, rfl, rfl⟩
    rw [hargv, List.drop_eq_getElem_cons hlt]
    rfl
  split at h
  · rename_i hword
    simp only at h
    split at h
    · cases h
    · rename_i hnul
      cases h
      obtain ⟨path, rfl⟩ := List.isPrefixOf_iff_prefix.mp hword
      refine ⟨_, _, _, @OptionWords.scriptEq _ (cstr path) ?_ ?_, hargv, rfl, rfl⟩
      · refine cstr_append (fun c hc => ?_) path
        rintro rfl
        exact absurd hc (by decide)
      · intro hempty
        have hpeek := peek_cstr path
        rw [hempty] at hpeek
        exact hnul hpeek.symm
  · cases h

/-- **Some words** are options, up to the end or to a word at which no option begins. -/
theorem exists_options (args : List (List Char)) : ∃ words options rest,
    args = words ++ rest ∧ Options words options ∧ (rest ≠ [] → NoOption rest) := by
  induction hlen : args.length using Nat.strong_induction_on generalizing args with
  | _ len ih =>
    by_cases hfirst : ∃ words option rest, OptionWords words option ∧ args = words ++ rest
    · obtain ⟨words, option, rest, hwords, rfl⟩ := hfirst
      have hpos := hwords.length_pos
      rw [List.length_append] at hlen
      obtain ⟨later, options, left, rfl, hoptions, hleft⟩ := ih _ (by omega) rest rfl
      exact ⟨words ++ later, option :: options, left, (List.append_assoc ..).symm,
        .cons hwords hoptions, hleft⟩
    · exact ⟨[], [], args, rfl, .nil, fun _ words option rest hwords hargs =>
        hfirst ⟨words, option, rest, hwords, hargs⟩⟩

/-- **The loop** goes through the options. -/
theorem mainOptions_options (hoptions : Options words options) (i : Nat) (config : ClientConfig)
    (hargv : argv.drop i = words ++ rest) :
    mainOptions argv i config =
      mainOptions argv (i + words.length) (options.foldl ClientOption.apply config) := by
  induction hoptions generalizing i config with
  | nil => rfl
  | @cons first later option options hwords _ ih =>
    have hpos := hwords.length_pos
    have hlt : i < argv.length := by
      have hall := congrArg List.length hargv
      rw [List.length_drop, List.length_append, List.length_append] at hall
      omega
    rw [List.append_assoc] at hargv
    have hread := parseOptionalArg_of_words hwords hargv config
    have hnext : argv.drop (i + first.length - 1 + 1) = later ++ rest := by
      rw [Nat.sub_add_cancel (by omega), ← List.drop_drop, hargv, List.drop_left]
    rw [mainOptions, if_pos hlt]
    split
    · rename_i hnone
      exact absurd (hnone.symm.trans hread) (Option.some_ne_none _).symm
    · rename_i index config₁ hsome
      cases hsome.symm.trans hread
      rw [ih _ _ hnext, Nat.sub_add_cancel (by omega), List.length_append, ← Nat.add_assoc]
      rfl

/-- The loop stops behind the last word. -/
theorem mainOptions_end (config : ClientConfig) : mainOptions argv argv.length config = .ok config := by
  rw [mainOptions, if_neg (Nat.lt_irrefl _)]

/-- The loop stops in front of a word at which no option begins. -/
theorem mainOptions_noOption (hi : i < argv.length) (hno : NoOption (argv.drop i))
    (config : ClientConfig) : mainOptions argv i config = .error i := by
  rw [mainOptions, if_pos hi]
  split
  · rfl
  · rename_i hsome
    obtain ⟨words, option, rest, hwords, hargv, _⟩ := parseOptionalArg_words hsome
    exact absurd hargv (hno words option rest hwords)

end Options

/-! ## The configuration -/

/-- The entries of the INI file, piece by piece. -/
def fileEntries (ini : Option (List Char)) : List (List Char × List Char) :=
  match ini with
  | none => []
  | some text => (pieces 254 text).filterMap iniEntry

/-- What an entry sets the trace to. -/
def iniTrace (entry : List Char × List Char) : Option Bool :=
  if iniKey entry.1 = some .trace then parseBool entry.2 else none

/-- What an entry sets the header type to. -/
def iniHeader (entry : List Char × List Char) : Option HeaderType :=
  if iniKey entry.1 = some .header then
    if strcmpEq entry.2 "3e".toList then some .h3E
    else if strcmpEq entry.2 "4e".toList then some .h4E
    else none
  else none

/-- The words of a command line with a host, a port and options. -/
inductive CommandLine (argv : List (List Char)) : List Char → Word → List ClientOption → Prop
  | mk {program host portText : List Char} {args : List (List Char)} {port : Word}
      {options : List ClientOption} (hargv : argv = program :: host :: portText :: args)
      (hport : PortText portText port) (hoptions : Options args options) :
      CommandLine argv (cstr host) port options

/-- The configuration for a command line and the entries of an INI file: the last word of the command
line counts, then the last entry, then the default.  The host and the port come from the command line
only, and so does the script. -/
structure Configured (platform : Platform) (junk : Nat → Word)
    (entries : List (List Char × List Char)) (host : List Char) (port : Word)
    (options : List ClientOption) (config : ClientConfig) : Prop where
  host : config.host = some host
  port : config.port = port
  trace : config.traceEnabled =
    (lastSome ClientOption.traceOf options).getD ((lastSome iniTrace entries).getD false)
  header : config.networkSettings.headerType =
    (lastSome ClientOption.headerOf options).getD ((lastSome iniHeader entries).getD .h4E)
  script : config.scriptPath = lastSome ClientOption.scriptOf options
  numbers : ∀ key : NumericKey, key ≠ .port → ∃ i, key.field config =
    ((lastSome (key.assigns platform) (key.values entries)).map
      (·.getD ((junk i).toNat % 256))).getD (key.field configInit)

/-- The words of a command line with which the program stops, and why. -/
inductive Refused (argv : List (List Char)) : MainStop → Prop
  | version {program arg : List Char} (hargv : argv = [program, arg])
      (harg : cstr arg = "--version".toList) : Refused argv .version
  | help {program arg : List Char} (hargv : argv = [program, arg])
      (harg : cstr arg = "--help".toList ∨ cstr arg = "-h".toList) : Refused argv .help
  | usage (hfew : argv.length < 3) (hother : ∀ program arg, argv = [program, arg] →
      cstr arg ∉ ["--version".toList, "--help".toList, "-h".toList]) : Refused argv .usage
  | invalidPort {program host portText : List Char} {args : List (List Char)}
      (hargv : argv = program :: host :: portText :: args) (hport : ∀ port, ¬PortText portText port) :
      Refused argv (.invalidPort portText)
  | unknownOption {program host portText arg : List Char} {words rest : List (List Char)}
      {port : Word} {options : List ClientOption}
      (hargv : argv = program :: host :: portText :: (words ++ arg :: rest))
      (hport : PortText portText port) (hwords : Options words options)
      (hno : NoOption (arg :: rest)) : Refused argv (.unknownOption arg)

section Configuration

variable {platform : Platform} {junk : Nat → Word}

/-- **The file** applies its entries in order. -/
theorem loadIniFile_fold (ini : Option (List Char)) (config : ClientConfig) :
    (loadIniFile platform junk ini config).2 =
      ((fileEntries ini).zipIdx 0).foldl (applyEntry platform junk) config := by
  cases ini with
  | none => rfl
  | some text => exact loadIniLoop_pieces 0 text config

/-- What an entry does to a field, the whole file does with the last such entry. -/
theorem foldl_entries {β : Type} (field : ClientConfig → β)
    {f : List Char × List Char → Option β}
    (hstep : ∀ (word : Word) (entry : List Char × List Char) (config : ClientConfig),
      field (applyKv platform word entry.1 entry.2 config) = (f entry).getD (field config))
    (entries : List (List Char × List Char)) (config : ClientConfig) :
    field ((entries.zipIdx 0).foldl (applyEntry platform junk) config) =
      (lastSome f entries).getD (field config) := by
  obtain ⟨i, hi⟩ := @lastSome_zipIdx _ _ _ f (fun _ (value : β) => value) entries 0
  have hsame : (fun entry : (List Char × List Char) × Nat => (f entry.1).map fun value => value) =
      fun entry => f entry.1 := funext fun entry => Option.map_id'
  rw [hsame, Option.map_id'] at hi
  have happly (config : ClientConfig) (entry : (List Char × List Char) × Nat) :
      field (applyEntry platform junk config entry) = (f entry.1).getD (field config) :=
    hstep _ entry.1 config
  rw [foldl_lastSome happly, hi]

/-- **One entry** sets the trace or the header type if it names them, and never the script. -/
theorem applyKv_flags (word : Word) (entry : List Char × List Char) (config : ClientConfig) :
    let config' := applyKv platform word entry.1 entry.2 config
    config'.traceEnabled = (iniTrace entry).getD config.traceEnabled ∧
      config'.networkSettings.headerType =
        (iniHeader entry).getD config.networkSettings.headerType ∧
      config'.scriptPath = config.scriptPath := by
  unfold applyKv iniTrace iniHeader
  cases hkey : iniKey entry.1 with
  | none => exact ⟨rfl, rfl, rfl⟩
  | some key =>
    cases key with
    | trace =>
      simp only [if_true]
      cases parseBool entry.2 <;> exact ⟨rfl, rfl, rfl⟩
    | header =>
      simp only [if_true]
      split
      · exact ⟨rfl, rfl, rfl⟩
      · split <;> exact ⟨rfl, rfl, rfl⟩
    | port | moduleIoNo | monitoringTimer =>
      simp only
      cases parseUint16Text platform entry.2 <;> exact ⟨rfl, rfl, rfl⟩
    | recvTimeoutMs =>
      simp only
      cases parseUint32Text platform entry.2 <;> exact ⟨rfl, rfl, rfl⟩
    | host | networkNo | pcNo | moduleStationNo => exact ⟨rfl, rfl, rfl⟩

/-- A number of the file. -/
theorem entries_number (key : NumericKey) (entries : List (List Char × List Char))
    (config : ClientConfig) :
    ∃ i, key.field ((entries.zipIdx 0).foldl (applyEntry platform junk) config) =
      ((lastSome (key.assigns platform) (key.values entries)).map
        (·.getD ((junk i).toNat % 256))).getD (key.field config) := by
  have hstep (config : ClientConfig) (entry : (List Char × List Char) × Nat) :
      key.field (applyEntry platform junk config entry) =
        (key.update platform (junk entry.2) entry.1).getD (key.field config) :=
    applyKv_field _ _ _ _
  have hvalues : lastSome (key.assigns platform) (key.values entries) =
      lastSome (fun entry => (key.valueOf entry).bind (key.assigns platform)) entries := by
    rw [lastSome, lastSome, NumericKey.values, List.filterMap_filterMap]
  obtain ⟨i, hi⟩ := lastSome_zipIdx (fun i assigned => assigned.getD ((junk i).toNat % 256))
    entries 0 (f := fun entry => (key.valueOf entry).bind (key.assigns platform))
  refine ⟨i, ?_⟩
  rw [foldl_lastSome hstep, hvalues, ← hi]
  rfl

/-- What an option does to a field, the options do with the last such option. -/
theorem foldl_options {β : Type} (field : ClientConfig → β) (f : ClientOption → Option β)
    (hstep : ∀ config option, field (ClientOption.apply config option) =
      (f option).getD (field config)) (options : List ClientOption) (config : ClientConfig) :
    field (options.foldl ClientOption.apply config) =
      (lastSome f options).getD (field config) := foldl_lastSome hstep config options

/-- A field that no option sets. -/
theorem foldl_options_kept {β : Type} (field : ClientConfig → β)
    (hkept : ∀ config option, field (ClientOption.apply config option) = field config)
    (options : List ClientOption) (config : ClientConfig) :
    field (options.foldl ClientOption.apply config) = field config := by
  rw [foldl_options field (fun _ => none) hkept, lastSome_eq_none.mpr fun _ _ => rfl,
    Option.getD_none]

/-- The configuration in front of the options. -/
def mainStart (platform : Platform) (junk : Nat → Word) (ini : Option (List Char))
    (host : List Char) (port : Word) : ClientConfig :=
  { configSetHost (loadIniFile platform junk ini configInit).2 host with port := port }

/-- **The configuration** that the file and the command line lead to. -/
theorem configured (ini : Option (List Char)) (host : List Char) (port : Word)
    (options : List ClientOption) :
    Configured platform junk (fileEntries ini) (cstr host) port options
      (options.foldl ClientOption.apply (mainStart platform junk ini host port)) := by
  rw [mainStart]
  have hfile := @loadIniFile_fold platform junk ini configInit
  have hflags := @applyKv_flags platform
  generalize (loadIniFile platform junk ini configInit).2 = loaded at hfile ⊢
  constructor
  · rw [foldl_options_kept ClientConfig.host fun config option => by cases option <;> rfl]
    rfl
  · rw [foldl_options_kept ClientConfig.port fun config option => by cases option <;> rfl]
  · rw [foldl_options ClientConfig.traceEnabled ClientOption.traceOf
      fun config option => by cases option <;> rfl]
    refine congrArg _ ?_
    show loaded.traceEnabled = _
    rw [hfile, foldl_entries ClientConfig.traceEnabled fun word entry config =>
      (hflags word entry config).1]
    rfl
  · rw [foldl_options (fun config => config.networkSettings.headerType) ClientOption.headerOf
      fun config option => by cases option <;> rfl]
    refine congrArg _ ?_
    show loaded.networkSettings.headerType = _
    rw [hfile, foldl_entries (fun config => config.networkSettings.headerType)
      fun word entry config => (hflags word entry config).2.1]
    rfl
  · rw [foldl_options ClientConfig.scriptPath (fun option => (ClientOption.scriptOf option).map some)
      fun config option => by cases option <;> rfl, lastSome_map]
    have hnone : loaded.scriptPath = none := by
      rw [hfile, foldl_entries ClientConfig.scriptPath (f := fun _ => none)
        fun word entry config => (hflags word entry config).2.2, lastSome_eq_none.mpr fun _ _ => rfl]
      rfl
    show ((lastSome ClientOption.scriptOf options).map some).getD loaded.scriptPath = _
    rw [hnone]
    cases lastSome ClientOption.scriptOf options <;> rfl
  · intro key hkey
    obtain ⟨i, hi⟩ := @entries_number platform junk key (fileEntries ini) configInit
    refine ⟨i, ?_⟩
    rw [foldl_options_kept key.field fun config option => by cases option <;> cases key <;> rfl, ← hi,
      ← hfile]
    cases key <;> first | rfl | exact absurd rfl hkey

/-- **A command line** is accepted or refused. -/
theorem refused_or_accepted (argv : List (List Char)) :
    (∃ stop, Refused argv stop) ∨ ∃ host port options, CommandLine argv host port options := by
  by_cases hfew : argv.length < 3
  · refine Or.inl ?_
    by_cases hword : ∃ program arg, argv = [program, arg] ∧
        cstr arg ∈ ["--version".toList, "--help".toList, "-h".toList]
    · obtain ⟨program, arg, hargv, hmem⟩ := hword
      simp only [List.mem_cons, List.not_mem_nil, or_false] at hmem
      rcases hmem with hversion | hhelp
      · exact ⟨_, .version hargv hversion⟩
      · exact ⟨_, .help hargv hhelp⟩
    · exact ⟨_, .usage hfew fun program arg hargv hmem => hword ⟨program, arg, hargv, hmem⟩⟩
  · obtain ⟨program, host, portText, args, hargv⟩ : ∃ program host portText args,
        argv = program :: host :: portText :: args := by
      match argv, hfew with
      | program :: host :: portText :: args, _ => exact ⟨_, _, _, _, rfl⟩
      | [], h | [_], h | [_, _], h => exact absurd (by simp) h
    by_cases hport : ∃ port, PortText portText port
    · obtain ⟨port, hport⟩ := hport
      obtain ⟨words, options, rest, rfl, hoptions, hrest⟩ := exists_options args
      cases rest with
      | nil => exact Or.inr ⟨_, port, options, .mk hargv hport (by rwa [List.append_nil])⟩
      | cons arg rest =>
        exact Or.inl ⟨_, .unknownOption hargv hport hoptions (hrest (List.cons_ne_nil _ _))⟩
    · exact Or.inl ⟨_, .invalidPort hargv fun port h => hport ⟨port, h⟩⟩

theorem mainConfig_invalidPort {ini : Option (List Char)} {program host portText : List Char}
    {args : List (List Char)} (hport : ∀ port, ¬PortText portText port) :
    mainConfig platform junk ini (program :: host :: portText :: args) =
      .error (.invalidPort portText) := by
  have hnone : parsePort platform portText = none :=
    Option.eq_none_iff_forall_ne_some.mpr fun port h => hport port (parsePort_iff.mp h)
  rw [mainConfig, if_neg (by simp), if_neg (by simp)]
  simp only [hnone]

/-- **The options** are read behind the port. -/
theorem mainConfig_options {ini : Option (List Char)} {program host portText : List Char}
    {words rest : List (List Char)} {port : Word} {options : List ClientOption}
    (hport : PortText portText port) (hoptions : Options words options) :
    let argv := program :: host :: portText :: (words ++ rest)
    mainConfig platform junk ini argv =
      match mainOptions argv (3 + words.length)
        (options.foldl ClientOption.apply (mainStart platform junk ini host port)) with
      | .error i => .error (.unknownOption (argv.getD i []))
      | .ok config => .ok config := by
  intro argv
  have hread : parsePort platform portText = some port := parsePort_iff.mpr hport
  have hloop := @mainOptions_options argv words rest options hoptions 3
    (mainStart platform junk ini host port) rfl
  rw [mainConfig, if_neg (by simp), if_neg (by simp)]
  simp only [argv, hread]
  rw [← hloop]
  rfl

theorem argIs_one (program arg word : List Char) :
    argIs [program, arg] 1 word = decide (cstr arg = word) := rfl

/-- **Refused words** stop the program. -/
theorem mainConfig_refused {ini : Option (List Char)} {argv : List (List Char)} {stop : MainStop}
    (h : Refused argv stop) : mainConfig platform junk ini argv = .error stop := by
  cases h with
  | version hargv harg =>
    subst hargv
    unfold mainConfig
    rw [argIs_one, harg]
    rfl
  | help hargv harg =>
    subst hargv
    unfold mainConfig
    rw [argIs_one, argIs_one, argIs_one]
    rcases harg with harg | harg <;> rw [harg] <;> rfl
  | usage hfew hother =>
    cases argv with
    | nil => rfl
    | cons program args =>
      cases args with
      | nil => rfl
      | cons arg args =>
        cases args with
        | nil =>
          obtain ⟨hversion, hhelp, hh⟩ : cstr arg ≠ "--version".toList ∧
              cstr arg ≠ "--help".toList ∧ cstr arg ≠ "-h".toList := by
            simpa using hother program arg rfl
          unfold mainConfig
          rw [argIs_one, argIs_one, argIs_one, decide_eq_false hversion, decide_eq_false hhelp,
            decide_eq_false hh]
          rfl
        | cons portText args =>
          simp only [List.length_cons] at hfew
          omega
  | invalidPort hargv hport =>
    subst hargv
    exact mainConfig_invalidPort hport
  | @unknownOption program host portText arg words rest port options hargv hport hoptions hno =>
    subst hargv
    have hdrop : (program :: host :: portText :: (words ++ arg :: rest)).drop (3 + words.length) =
        arg :: rest := by
      rw [Nat.add_comm]
      exact List.drop_left
    have hlt : 3 + words.length < (program :: host :: portText :: (words ++ arg :: rest)).length := by
      simp only [List.length_cons, List.length_append]
      omega
    have harg := getElem?_of_drop hdrop
    rw [← hdrop] at hno
    rw [mainConfig_options hport hoptions, mainOptions_noOption hlt hno]
    simp only [List.getD_eq_getElem?_getD, harg, Option.getD_some]

/-- **Accepted words** lead to a configuration. -/
theorem mainConfig_accepted {ini : Option (List Char)} {argv : List (List Char)} {host : List Char}
    {port : Word} {options : List ClientOption} (h : CommandLine argv host port options) :
    ∃ config, mainConfig platform junk ini argv = .ok config ∧
      Configured platform junk (fileEntries ini) host port options config := by
  obtain @⟨program, host, portText, args, port, options, hargv, hport, hoptions⟩ := h
  refine ⟨_, ?_, configured ini host port options⟩
  subst hargv
  have hread := @mainConfig_options platform junk ini program host portText args [] port options
    hport hoptions
  simp only [List.append_nil] at hread
  have hend : 3 + args.length = (program :: host :: portText :: args).length := by
    simp only [List.length_cons]
    omega
  rw [hread, hend, mainOptions_end]

/-- Whatever the file and the options say, the library accepts the header type. -/
theorem Configured.headerAccepted {entries : List (List Char × List Char)} {host : List Char}
    {port : Word} {args : List (List Char)} {options : List ClientOption} {config : ClientConfig}
    (h : Configured platform junk entries host port options config)
    (hoptions : Options args options) : HeaderAccepted config.networkSettings.headerType := by
  rw [h.header]
  cases hoption : lastSome ClientOption.headerOf options with
  | some type =>
    obtain ⟨option, hmem, htype⟩ := lastSome_mem hoption
    exact hoptions.headerAccepted option hmem type htype
  | none =>
    cases hentry : lastSome iniHeader entries with
    | none => exact Or.inr rfl
    | some type =>
      obtain ⟨entry, _, htype⟩ := lastSome_mem hentry
      unfold iniHeader at htype
      split at htype
      · split at htype
        · cases htype
          exact Or.inl rfl
        · split at htype
          · cases htype
            exact Or.inr rfl
          · cases htype
      · cases htype

end Configuration

/-- **What the command line and the file make of the configuration.**  The program stops exactly for
the words that are refused, and says which one: without a port it reads no option, and it names the
first word at which no option begins.  Every other command line is a host, a port and a sequence of
options, whatever the file says; in the configuration the last option counts, then the last entry of
the file, then the default. -/
theorem main_configures (platform : Platform) (junk : Nat → Word) (ini : Option (List Char))
    (argv : List (List Char)) :
    (∀ stop, mainConfig platform junk ini argv = .error stop ↔ Refused argv stop) ∧
    ((∃ config, mainConfig platform junk ini argv = .ok config) ↔
      ∃ host port options, CommandLine argv host port options) ∧
    ∀ config host port options, mainConfig platform junk ini argv = .ok config →
      CommandLine argv host port options →
      Configured platform junk (fileEntries ini) host port options config := by
  refine ⟨fun stop => ⟨fun h => ?_, mainConfig_refused⟩, ⟨fun ⟨config, h⟩ => ?_, ?_⟩, ?_⟩
  · rcases refused_or_accepted argv with ⟨stop', hrefused⟩ | ⟨host, port, options, hline⟩
    · cases h.symm.trans (mainConfig_refused hrefused)
      exact hrefused
    · obtain ⟨config, hok, _⟩ := @mainConfig_accepted platform junk ini _ _ _ _ hline
      cases h.symm.trans hok
  · rcases refused_or_accepted argv with ⟨stop', hrefused⟩ | hline
    · cases h.symm.trans (mainConfig_refused hrefused)
    · exact hline
  · rintro ⟨host, port, options, hline⟩
    obtain ⟨config, hok, _⟩ := @mainConfig_accepted platform junk ini _ _ _ _ hline
    exact ⟨config, hok⟩
  · intro config host port options h hline
    obtain ⟨config', hok, hconfigured⟩ := @mainConfig_accepted platform junk ini _ _ _ _ hline
    cases h.symm.trans hok
    exact hconfigured

/-- A command line with two header options and a script. -/
def scriptWords : List (List Char) :=
  ["fx5_client".toList, "plc".toList, "5000".toList, "--header=4e".toList, "--script".toList,
    "bits.txt".toList, "--header=3e".toList]

def scriptOptions : List ClientOption := [.header .h4E, .script "bits.txt".toList, .header .h3E]

theorem scriptWords_line : CommandLine scriptWords "plc".toList 5000 scriptOptions := by
  have hport : PortText "5000".toList 5000 :=
    (@parsePort_iff lp64 _ _).mp (by decide +kernel)
  exact .mk rfl hport (.cons (.header4E rfl) (.cons (.script _ rfl) (.cons (.header3E rfl) .nil)))

theorem scriptWords_configure : ∃ config,
    mainConfig lp64 (fun _ => 0) (some "trace=true\nheader=4e\n".toList) scriptWords = .ok config ∧
      config.traceEnabled = true ∧ config.networkSettings.headerType = .h3E ∧
      config.scriptPath = some "bits.txt".toList := by
  obtain ⟨_, hiff, hfields⟩ := main_configures lp64 (fun _ => 0)
    (some "trace=true\nheader=4e\n".toList) scriptWords
  obtain ⟨config, hok⟩ := hiff.mpr ⟨_, _, _, scriptWords_line⟩
  have hconfigured := hfields config _ _ _ hok scriptWords_line
  have hentries : fileEntries (some "trace=true\nheader=4e\n".toList) =
      [("trace".toList, "true".toList), ("header".toList, "4e".toList)] := by decide +kernel
  rw [hentries] at hconfigured
  exact ⟨config, hok, hconfigured.trace, hconfigured.header, hconfigured.script⟩

/-! ## The whole program -/

/-- What a session shows of the end of the program: what it returns, and the commands of a script. -/
def MainEnd.view (plc : Plc) (m : DeviceMemory) :
    MainEnd → Nat × Option (Ended SessionEntry ScriptStop DeviceMemory)
  | .ran ⟨rc, some (.script r), _⟩ =>
    (rc, some (r.ended.view Execution.entry (ClientApp.memory plc m)))
  | e => (e.rc, none)

section Program

variable {cfg : Config} {platform : Platform} {junk : Nat → Word} {env : Surroundings}
  {world : World} {argv : List (List Char)} {host : List Char} {port : Word}
  {options : List ClientOption}

/-- **An accepted command line** with a set-up that succeeds gets to its commands, with a client that
is ready and a header type that the library accepts. -/
theorem clientMain_commands (hpool : PoolInv cfg world.pool)
    (hline : CommandLine argv host port options)
    (hsetup : SetupSucceeds cfg env.setup host port world) :
    ∃ config ctx, Configured platform junk
        (fileEntries ((env.files "fx5_client.ini".toList).map (·.text))) host port options config ∧
      (⟨config, ctx, []⟩ : ClientApp).InSession cfg ∧
      ∃ runs : Option AppEnd, clientMain cfg platform junk env argv world = runs.map .ran ∧
        runs.map (fun r => (r.rc, r.commands)) =
          (appCommands cfg platform env ⟨config, ctx, []⟩).map fun done => (done.1, some done.2) := by
  obtain ⟨config, hok, hconfigured⟩ := @mainConfig_accepted platform junk
    ((env.files "fx5_client.ini".toList).map (·.text)) _ _ _ _ hline
  obtain ⟨ctx, hready, hcommands⟩ := @appRun_commands cfg config world platform env host hpool
    hconfigured.host (by rwa [hconfigured.port])
  have hheader : HeaderAccepted config.networkSettings.headerType := by
    cases hline with
    | mk hargv hport hoptions => exact hconfigured.headerAccepted hoptions
  refine ⟨config, ctx, hconfigured, ⟨hready, hheader⟩, _, ?_, hcommands⟩
  rw [clientMain, hok]

end Program

/-- **The program does what it is told.**  A PLC is behind the connection, the command line is
accepted and the set-up succeeds.  With a script, the program returns and reports what the texts of
the script mean on the memory of the PLC, whatever the command line and the file `fx5_client.ini` say
besides.  Without one, it ends with 0, and every get command of the standard input reports what was
written last. -/
theorem main_runs_session {cfg : Config} (platform : Platform) (junk : Nat → Word)
    {env : Surroundings} {world : World} {plc : Plc} {m : DeviceMemory}
    (hplc : plc.Behind cfg m (socketTransport env.kernel)) (hpool : PoolInv cfg world.pool)
    {argv : List (List Char)} {host : List Char} {port : Word} {options : List ClientOption}
    (hline : CommandLine argv host port options)
    (hsetup : SetupSucceeds cfg env.setup host port world) :
    (∀ path script, lastSome ClientOption.scriptOf options = some path →
      env.files path = some script →
      (clientMain cfg platform junk env argv world).map (MainEnd.view plc m) =
        (session cfg platform plc (handedOver script.text) m).map
          fun ended => (scriptRc script.ferror ended.reason, some ended)) ∧
    (lastSome ClientOption.scriptOf options = none →
      ∀ e, clientMain cfg platform junk env argv world = some e →
        ∃ r run, e = .ran r ∧ r.rc = 0 ∧ r.commands = some (.repl run) ∧
          SessionHistory cfg plc m ((run.outputs.filterMap ReplEvent.execution).map Execution.entry)
            (run.state.memory plc m)) := by
  obtain ⟨config, ctx, hconfigured, hsession, runs, hmain, hruns⟩ :=
    @clientMain_commands cfg platform junk env world argv host port options hpool hline hsetup
  have hpath := hconfigured.script
  refine ⟨fun path script hscript hfile => ?_, fun hnone e he => ?_⟩
  · rw [hscript] at hpath
    have htexts := @scriptLoop_texts cfg platform (socketTransport env.kernel) 0 script.text
      ⟨config, ctx, []⟩
    have hmeans : _ = session cfg platform plc (handedOver script.text) m :=
      runTexts_session platform hplc hsession (handedOver script.text)
    rw [← handedOver] at htexts
    rw [← htexts, Option.map_map] at hmeans
    simp only [appCommands, hpath, hfile, scriptRun_eq, Option.bind_eq_bind] at hruns
    rw [hmain, ← hmeans]
    cases hloop : scriptLoop cfg platform (socketTransport env.kernel) 0 script.text
        ⟨config, ctx, []⟩ with
    | none =>
      rw [hloop] at hruns
      rw [Option.map_eq_none_iff.mp hruns]
      rfl
    | some r =>
      rw [hloop] at hruns
      obtain ⟨end', hend, hparts⟩ := Option.map_eq_some_iff.mp hruns
      obtain ⟨rc, commands, world'⟩ := end'
      cases hparts
      rw [hend]
      rfl
  · rw [hnone] at hpath
    simp only [appCommands, hpath, Option.bind_eq_bind] at hruns
    rw [hmain] at he
    obtain ⟨r, rfl, rfl⟩ := Option.map_eq_some_iff.mp he
    obtain ⟨done, hdone, hparts⟩ := Option.map_eq_some_iff.mp hruns.symm
    obtain ⟨⟨rc, run⟩, hrepl, hdone⟩ := Option.bind_eq_some_iff.mp hdone
    obtain ⟨hrc, hrun⟩ := replRun_run hrepl
    cases hdone
    obtain ⟨hr, hcommands⟩ := Prod.mk.inj hparts
    refine ⟨r, run, rfl, hr.symm.trans hrc, hcommands.symm, ?_⟩
    exact replTexts_history platform hplc hsession hrun

/-- A kernel with a PLC at the other end: a request is taken at once, and the answer is received byte by
byte. -/
def plcKernel (plc : Plc) (m : DeviceMemory) : Kernel := fun requests =>
  let io := plc.transport m requests
  { send := ⟨fun _ n => n, fun _ _ => Int.le_refl _⟩
    arriving := io.stream
    recv := io.events.map fun event => if event = .timeout then ⟨-1, true⟩ else ⟨1, false⟩ }

theorem plcKernel_transport (plc : Plc) (m : DeviceMemory) :
    socketTransport (plcKernel plc m) = plc.transport m := by
  funext requests
  have hsent (data : List Byte) :
      (socketSendAll ⟨fun _ n => n, fun _ _ => Int.le_refl _⟩ data).1 = true := by
    rw [socketSendAll, sendAllLoop]
    split
    · rename_i hlt
      have hpos : ¬((data.length - 0 : Nat) : Int) ≤ 0 := by omega
      simp only [dif_neg hpos]
      rw [sendAllLoop, if_neg (by omega)]
    · rfl
  rw [socketTransport, plcKernel, hsent]
  unfold Plc.transport
  cases decodeRequest (requests.getLastD []) with
  | none => rfl
  | some d =>
    simp only [List.map_replicate]
    rfl

/-- The client of a PLC with a script of its own. -/
def servedPlc : Surroundings where
  setup := ⟨true, true, fun _ _ => some [⟨some 3, 0⟩]⟩
  kernel := plcKernel willingPlc zeroMemory
  files := fun path => if path = "bits.txt".toList then some bitScript else none
  stdin := []

theorem servedPlc_succeeds : SetupSucceeds .smallest servedPlc.setup "plc".toList 5000
    ⟨Pool.zero .smallest, [], 0, 0⟩ where
  globalInit := rfl
  context := by
    have hsome : ((acquire .smallest (Pool.zero .smallest)).map fun r => (r.1, r.2.1)) =
        some (.ok, some 0) := by decide +kernel
    obtain ⟨⟨status, ctx, pool'⟩, hacquire, hparts⟩ := Option.map_eq_some_iff.mp hsome
    cases hparts
    exact ⟨0, pool', hacquire⟩
  memory := rfl
  address := ⟨_, rfl, rfl⟩
  fresh := fun _ _ _ _ _ _ _ _ => List.not_mem_nil

theorem bitScript_main : ∃ ended,
    (clientMain .smallest lp64 (fun _ => 0) servedPlc scriptWords
      ⟨Pool.zero .smallest, [], 0, 0⟩).map (MainEnd.view willingPlc zeroMemory) =
        some (0, some ended) ∧
      ended.outputs.map (·.report) = [some [.ok], none, some [.bit 0 false, .bit 1 true, .bit 2 false]] := by
  have hplc : willingPlc.Behind .smallest zeroMemory (socketTransport servedPlc.kernel) := by
    rw [servedPlc, plcKernel_transport]
    exact willingPlc_behind .smallest
  have hfile : servedPlc.files "bits.txt".toList = some bitScript := rfl
  have hmain := (main_runs_session lp64 (fun _ => 0) hplc (poolInv_zero .smallest) scriptWords_line
    servedPlc_succeeds).1 "bits.txt".toList bitScript rfl hfile
  have hsession : (session .smallest lp64 willingPlc (handedOver bitScript.text) zeroMemory).map
      (fun ended => (ended.reason, ended.outputs.map (·.report))) =
        some (none, [some [.ok], none, some [.bit 0 false, .bit 1 true, .bit 2 false]]) := by
    rw [handedOver_bitScript]
    decide +kernel
  obtain ⟨ended, hended, hparts⟩ := Option.map_eq_some_iff.mp hsession
  obtain ⟨hreason, hreports⟩ := Prod.mk.inj hparts
  refine ⟨ended, ?_, hreports⟩
  rw [hmain, hended, Option.map_some, hreason]
  rfl

end Fx5
