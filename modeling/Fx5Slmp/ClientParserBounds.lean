import Fx5Slmp.ClientParser

/-!
# The value array of the command parser

The list loop of `fx5_client_parse_scalar_or_list` checks `count` against the size of the array
before it stores an item.  The two broadcast loops do not: they store as many elements as they are
told to.

* `parseListLoop_spec` — the list loop stays inside the array and counts the items of the text;
* `parseScalarOrList_overflow` — a single value for too many points is stored behind the end;
* `parseScalarOrList_inside` — every other value text is processed inside the array.
-/

set_option autoImplicit false

namespace Fx5

open CheckedMem CText

/-! ## Ranges and lists -/

/-- Points `start` to `stop` of a device. -/
structure PointRange where
  device : Device
  start : Nat
  stop : Nat
  deriving DecidableEq

def PointRange.points (range : PointRange) : Nat := range.stop - range.start + 1

/-- The number of nonempty items between commas; `inItem` while inside one. -/
def listLengthFrom : Bool → List Char → Nat
  | _, [] => 0
  | inItem, c :: p =>
    if c = '\x00' then 0
    else if c = ',' then listLengthFrom false p
    else if isSpace c || inItem then listLengthFrom inItem p
    else 1 + listLengthFrom true p

def listLength (text : List Char) : Nat := listLengthFrom false text

/-- The text is one item, possibly with a comma behind it. -/
def isSingleValue (platform : Platform) (device : Device) (p : List Char) : Bool :=
  match parseListItem platform device p with
  | none => false
  | some (_, rest) =>
    let s := skipSpaces rest
    peek s = '\x00' || (peek s = ',' && peek (skipSpaces (s.drop 1)) = '\x00')

/-! ## Counting the items of a list -/

theorem listLengthFrom_skipSpaces (inItem : Bool) (p : List Char) :
    listLengthFrom inItem (skipSpaces p) = listLengthFrom inItem p := by
  induction p with
  | nil => rfl
  | cons c p ih =>
    rw [skipSpaces, List.dropWhile_cons]
    split
    · rename_i hspace
      have hplain : c ≠ '\x00' ∧ c ≠ ',' := by
        constructor
        · rintro rfl
          exact absurd hspace (by decide)
        · rintro rfl
          exact absurd hspace (by decide)
      rw [listLengthFrom, if_neg hplain.1, if_neg hplain.2, if_pos (by rw [hspace]; rfl), ← ih]
      rfl
    · rfl

theorem listLengthFrom_run {item : List Char} (halnum : ∀ c ∈ item, c.isAlphanum = true)
    (rest : List Char) : listLengthFrom true (item ++ rest) = listLengthFrom true rest := by
  induction item with
  | nil => rfl
  | cons c item ih =>
    obtain ⟨_, _, _, hcomma, _, hnul⟩ := plain_of_isAlphanum (halnum c List.mem_cons_self)
    rw [List.cons_append, listLengthFrom, if_neg hnul, if_neg hcomma, if_pos (Bool.or_true _)]
    exact ih fun d hd => halnum d (List.mem_cons_of_mem _ hd)

/-- An item at the cursor counts once. -/
theorem listLength_item {platform : Platform} {device : Device} {p rest : List Char}
    {value : Word} (h : parseListItem platform device p = some (value, rest)) :
    listLength p = 1 + listLengthFrom true (skipSpaces rest) := by
  obtain ⟨item, rfl, hne, halnum⟩ := parseListItem_plain h
  cases item with
  | nil => exact absurd rfl hne
  | cons c item =>
    obtain ⟨hspace, _, _, hcomma, _, hnul⟩ := plain_of_isAlphanum (halnum c List.mem_cons_self)
    rw [listLength, List.cons_append, listLengthFrom, if_neg hnul, if_neg hcomma, hspace,
      if_neg (by decide), listLengthFrom_run fun d hd => halnum d (List.mem_cons_of_mem _ hd),
      listLengthFrom_skipSpaces]

theorem listLengthFrom_comma {p : List Char} (h : peek p = ',') (inItem : Bool) :
    listLengthFrom inItem p = listLength (skipSpaces (p.drop 1)) := by
  rw [eq_cons_of_peek h (by decide), listLengthFrom, if_neg (by decide), if_pos rfl, listLength,
    listLengthFrom_skipSpaces]
  rfl

theorem listLengthFrom_nul {p : List Char} (h : peek p = '\x00') (inItem : Bool) :
    listLengthFrom inItem p = 0 := by
  cases p with
  | nil => rfl
  | cons c p => exact if_pos h

/-! ## The list loop -/

section Loop

variable {cfg : Config} {platform : Platform} {device : Device}

/-- **The list loop** stays inside the array; when it is left in order, it has stored every item
of the text. -/
theorem parseListLoop_spec {p : List Char} {count : Nat} {values : List Word}
    (hcount : count ≤ FX5_CLIENT_MAX_VALUES cfg)
    (hlen : values.length = FX5_CLIENT_MAX_VALUES cfg) :
    ∃ left count' values',
      parseListLoop cfg platform device p count values = some (left, count', values') ∧
      values'.length = FX5_CLIENT_MAX_VALUES cfg ∧
      (left = true → count' = count + listLength p ∧ count' ≤ FX5_CLIENT_MAX_VALUES cfg) := by
  induction hn : p.length using Nat.strong_induction_on generalizing p count values with
  | _ n ih =>
    by_cases hnul : peek p = '\x00'
    · refine ⟨true, count, values, ?_, hlen, fun _ => ⟨?_, hcount⟩⟩
      · rw [parseListLoop, if_pos hnul]
      · rw [listLength, listLengthFrom_nul hnul, Nat.add_zero]
    by_cases hfull : count ≥ FX5_CLIENT_MAX_VALUES cfg
    · refine ⟨false, count, values, ?_, hlen, by simp⟩
      rw [parseListLoop, if_neg hnul, if_pos hfull]
    cases hitem : parseListItem platform device p with
    | none =>
      refine ⟨false, count, values, ?_, hlen, by simp⟩
      rw [parseListLoop, if_neg hnul, if_neg hfull]
      split
      · rfl
      · rename_i hsome
        rw [hitem] at hsome
        cases hsome
    | some result =>
      obtain ⟨value, rest⟩ := result
      rw [parseListLoop_item hitem (by omega) hlen]
      have hset : (values.set count value).length = FX5_CLIENT_MAX_VALUES cfg := by
        rw [List.length_set, hlen]
      rw [listLength_item hitem]
      split
      · rename_i hcomma
        have hshort : (skipSpaces ((skipSpaces rest).drop 1)).length < n := by
          have h1 := parseListItem_length hitem
          have h2 := skipSpaces_length_le rest
          have h3 := skipSpaces_length_le ((skipSpaces rest).drop 1)
          rw [List.length_drop] at h3
          omega
        obtain ⟨left, count', values', hloop, hlen', hleft⟩ :=
          ih _ hshort (by omega : count + 1 ≤ FX5_CLIENT_MAX_VALUES cfg) hset rfl
        refine ⟨left, count', values', hloop, hlen', fun h => ?_⟩
        rw [listLengthFrom_comma hcomma]
        have := hleft h
        omega
      · refine ⟨_, _, _, rfl, hset, fun h => ?_⟩
        rw [listLengthFrom_nul (of_decide_eq_true h)]
        omega

/-- The loop finds exactly one item when the text is a single value. -/
theorem parseListLoop_single {p : List Char} {values : List Word}
    (hlen : values.length = FX5_CLIENT_MAX_VALUES cfg)
    (hsingle : isSingleValue platform device p = true) :
    ∃ values', parseListLoop cfg platform device p 0 values = some (true, 1, values') ∧
      values'.length = FX5_CLIENT_MAX_VALUES cfg := by
  have hmax := (clientMaxValues_bounds cfg).1
  unfold isSingleValue at hsingle
  cases hitem : parseListItem platform device p with
  | none =>
    rw [hitem] at hsingle
    cases hsingle
  | some result =>
    obtain ⟨value, rest⟩ := result
    rw [hitem] at hsingle
    simp only [Bool.or_eq_true, Bool.and_eq_true, decide_eq_true_eq] at hsingle
    refine ⟨values.set 0 value, ?_, by rw [List.length_set, hlen]⟩
    rw [parseListLoop_item hitem (by omega) hlen]
    rcases hsingle with hnul | ⟨hcomma, hnul⟩
    · rw [if_neg (by rw [hnul]; decide), decide_eq_true hnul]
    · rw [if_pos hcomma, parseListLoop, if_pos hnul]

/-- A loop that is left in order has read an item, unless the text is used up. -/
theorem parseListLoop_left {p : List Char} {count count' : Nat} {values values' : List Word}
    (h : parseListLoop cfg platform device p count values = some (true, count', values'))
    (hnul : peek p ≠ '\x00') :
    count < FX5_CLIENT_MAX_VALUES cfg ∧
      ∃ value rest, parseListItem platform device p = some (value, rest) := by
  rw [parseListLoop, if_neg hnul] at h
  split at h
  · cases h
  rename_i hcount
  split at h
  · cases h
  · rename_i value rest hitem
    exact ⟨by omega, value, rest, hitem⟩

/-- A list of one item is a single value. -/
theorem single_of_listLength {p : List Char} {values values' : List Word} {count : Nat}
    (hlen : values.length = FX5_CLIENT_MAX_VALUES cfg)
    (h : parseListLoop cfg platform device p 0 values = some (true, count, values'))
    (hone : listLength p = 1) : isSingleValue platform device p = true := by
  have hnul : peek p ≠ '\x00' := by
    intro hnul
    rw [listLength, listLengthFrom_nul hnul] at hone
    cases hone
  obtain ⟨hcount, value, rest, hitem⟩ := parseListLoop_left h hnul
  rw [listLength_item hitem] at hone
  rw [parseListLoop_item hitem hcount hlen] at h
  simp only [isSingleValue, hitem, Bool.or_eq_true, Bool.and_eq_true, decide_eq_true_eq]
  split at h
  · rename_i hcomma
    refine Or.inr ⟨hcomma, ?_⟩
    rw [listLengthFrom_comma hcomma] at hone
    refine Classical.byContradiction fun hmore => ?_
    obtain ⟨_, _, _, hitem'⟩ := parseListLoop_left h hmore
    rw [listLength_item hitem'] at hone
    omega
  · exact Or.inl (of_decide_eq_true (congrArg Prod.fst (Option.some.inj h)))

/-- A boolean word that ends the line is a single value. -/
theorem single_of_boolAlone {p : List Char} {b : Bool} (h : parseBoolAlone device p = some b) :
    isSingleValue platform device p = true ∧ listLength p = 1 := by
  unfold parseBoolAlone at h
  split at h
  · rename_i hdevice
    split at h
    · rename_i b' len hword
      split at h
      · rename_i hnul
        have hitem : parseListItem platform device p =
            some (if b' then 1 else 0, p.drop len) := by
          simp only [parseListItem, hdevice, if_true, hword]
        refine ⟨?_, ?_⟩
        · simp only [isSingleValue, hitem, hnul, decide_true, Bool.true_or]
        · rw [listLength_item hitem, listLengthFrom_nul hnul]
      · cases h
    · cases h
  · cases h

/-- A single value is an item. -/
theorem peek_of_single {p : List Char} (h : isSingleValue platform device p = true) :
    peek p ≠ '\x00' := by
  unfold isSingleValue at h
  split at h
  · cases h
  · rename_i value rest hitem
    obtain ⟨item, rfl, hne, halnum⟩ := parseListItem_plain hitem
    cases item with
    | nil => exact absurd rfl hne
    | cons c item => exact (plain_of_isAlphanum (halnum c List.mem_cons_self)).2.2.2.2.2

end Loop

/-! ## A value text -/

section ValueText

variable {cfg : Config} {platform : Platform} {device : Device} {cmd : ParsedCommand}

/-- **A single value for too many points** is stored behind the end of the array. -/
theorem parseScalarOrList_overflow {text : List Char} {expectedCount : Nat}
    (hlen : cmd.values.length = FX5_CLIENT_MAX_VALUES cfg)
    (hsingle : isSingleValue platform device (skipSpaces text) = true)
    (hmany : FX5_CLIENT_MAX_VALUES cfg < expectedCount) :
    parseScalarOrList cfg platform text device expectedCount cmd = none := by
  have hmax := (clientMaxValues_bounds cfg).1
  rw [parseScalarOrList]
  simp only [if_neg (peek_of_single hsingle)]
  cases halone : parseBoolAlone device (skipSpaces text) with
  | some b =>
    simp only [storeBool_eq, hlen, if_neg (Nat.not_le_of_lt hmany), Option.bind_eq_bind,
      Option.bind_none]
  | none =>
    obtain ⟨values', hloop, hlen'⟩ := parseListLoop_single hlen hsingle
    obtain ⟨v, hv⟩ : ∃ v, values'[0]? = some v := ⟨_, List.getElem?_eq_getElem (by omega)⟩
    simp only [hloop, Option.bind_eq_bind, Option.bind_some, Bool.not_true, Bool.false_eq_true,
      if_false, one_ne_zero, decide_true, Bool.true_and, decide_eq_true_eq, hv]
    rw [if_pos (by omega), storeFirst_eq hv (by omega), hlen', if_neg (Nat.not_le_of_lt hmany),
      Option.bind_none]

/-- **A value text that is not broadcast too far** is processed inside the array; when it is
accepted, the range and the list fit. -/
theorem parseScalarOrList_inside {text : List Char} {expectedCount : Nat}
    (hlen : cmd.values.length = FX5_CLIENT_MAX_VALUES cfg)
    (hsingle : isSingleValue platform device (skipSpaces text) = true →
      expectedCount ≤ FX5_CLIENT_MAX_VALUES cfg) :
    ∃ ok cmd', parseScalarOrList cfg platform text device expectedCount cmd = some (ok, cmd') ∧
      (ok = true → expectedCount ≤ FX5_CLIENT_MAX_VALUES cfg ∧
        listLength text ≤ FX5_CLIENT_MAX_VALUES cfg ∧
        (expectedCount = 0 → (parseBoolAlone device (skipSpaces text)).isSome = true)) := by
  have hmax := (clientMaxValues_bounds cfg).1
  have hcount : listLength (skipSpaces text) = listLength text := listLengthFrom_skipSpaces _ _
  rw [parseScalarOrList]
  simp only
  split
  · exact ⟨false, cmd, rfl, by simp⟩
  rename_i hnul
  split
  · -- the fast path
    rename_i b halone
    obtain ⟨hone, hlist⟩ := single_of_boolAlone halone
    rw [storeBool_eq, hlen, if_pos (hsingle hone)]
    refine ⟨true, _, rfl, fun _ => ⟨hsingle hone, by omega, fun _ => ?_⟩⟩
    rw [halone]
    rfl
  obtain ⟨left, count, values', hloop, hlen', hleft⟩ := parseListLoop_spec
    (Nat.zero_le (FX5_CLIENT_MAX_VALUES cfg)) hlen
  rw [hloop]
  simp only [Option.bind_eq_bind, Option.bind_some]
  cases left with
  | false => exact ⟨false, _, rfl, by simp⟩
  | true =>
    obtain ⟨hitems, hfit⟩ := hleft rfl
    simp only [Bool.not_true, Bool.false_eq_true, if_false]
    split
    · exact ⟨false, _, rfl, by simp⟩
    split
    · -- the broadcast of one item
      rename_i hbranch
      simp only [Bool.and_eq_true, decide_eq_true_eq] at hbranch
      have hexpected := hsingle (single_of_listLength hlen hloop (by omega))
      obtain ⟨v, hv⟩ : ∃ v, values'[0]? = some v := ⟨_, List.getElem?_eq_getElem (by omega)⟩
      rw [hv, Option.bind_some, storeFirst_eq hv hbranch.2, hlen', if_pos hexpected]
      refine ⟨true, _, rfl, fun _ => ⟨hexpected, by omega, fun h0 => ?_⟩⟩
      omega
    · split
      · exact ⟨false, _, rfl, by simp⟩
      · rename_i hne
        refine ⟨true, _, rfl, fun _ => ⟨by omega, by omega, fun h0 => ?_⟩⟩
        omega

end ValueText

/-- `unsigned long` with 64 bits. -/
def lp64 : Platform := ⟨0xFFFFFFFFFFFFFFFF, by decide⟩

end Fx5
