import Fx5Slmp.WrittenNumerals

/-!
# The lines that fit into the value array

A set line fits when the range that is written in it, and its list, have no more points and items
than the value array has elements.  The broadcast loops store as many elements as the range has
points, and the range parser admits 65535.  Its checks come after the reduction of the endpoints to
32 bits and the size is computed in 32 bits, so that a range of any size can count as a small one.

* `line_in_array` — a set line is rejected, stored outside the array, or accepted with no more points
  than the array has elements;
* `stays_inside_iff` — a line stays inside the array, and is rejected if it does not fit, unless it
  passes the checks although its range has too many points, as it is written or as it is reduced.
-/

set_option autoImplicit false

namespace Fx5

open CText

/-- The range and the list of a set line, as they are written, fit into the value array. -/
structure Fits (cfg : Config) (w : WrittenCommand) : Prop where
  range : w.range.points ≤ FX5_CLIENT_MAX_VALUES cfg
  list : (listItems w.values).length ≤ FX5_CLIENT_MAX_VALUES cfg

/-- No store goes outside the value array, and a set line that does not fit is rejected. -/
def StaysInside (cfg : Config) (platform : Platform) (line : List Char) : Prop :=
  ∃ ok cmd, parseCommand cfg platform line = some (ok, cmd) ∧
    ∀ w, writtenCommand line = some w → w.isSet = true → ¬Fits cfg w → ok = false

/-- A set line passes the checks although its range has more points than the array has elements: as
it is written, or between the endpoints that are left of it in 32 bits. -/
structure BroadcastOverflow (cfg : Config) (platform : Platform) (w : WrittenCommand) : Prop where
  isSet : w.isSet = true
  passes : PassesChecks cfg platform w
  tooMany : FX5_CLIENT_MAX_VALUES cfg < w.range.points ∨
    FX5_CLIENT_MAX_VALUES cfg < w.reducedCount platform

section Lines

variable {cfg : Config} {platform : Platform} {line : List Char} {w : WrittenCommand}

/-- The list of a line that passes the checks has one item, or as many as the reduced range. -/
theorem PassesChecks.list_fits (h : PassesChecks cfg platform w) (hset : w.isSet = true) :
    (listItems w.values).length ≤ FX5_CLIENT_MAX_VALUES cfg := by
  have hmax := (clientMaxValues_bounds cfg).1
  have hrest := h.rest
  rw [hset, if_pos rfl] at hrest
  have hvalues := hrest.2
  rcases Nat.eq_zero_or_pos (w.reducedCount platform) with hzero | hpos
  · rw [hzero, ValuesPass, if_pos rfl] at hvalues
    obtain ⟨b, halone⟩ := Option.isSome_iff_exists.mp hvalues
    have hsingle := (@single_of_boolAlone platform _ _ _ halone).1
    have hone := ((isSingleValue_iff (not_space_skipSpaces _)).mp hsingle).2
    rw [listItems_skipSpaces] at hone
    omega
  · rw [valuesPass_iff hpos] at hvalues
    rcases hvalues.2 with hone | ⟨hcount, hfit⟩
    · omega
    · omega

/-- **A set line** is rejected, stored outside the array, or accepted with no more points than the
array has elements. -/
theorem line_in_array (hw : writtenCommand line = some w) (hset : w.isSet = true) :
    (¬PassesChecks cfg platform w ∧ ∃ cmd, parseCommand cfg platform line = some (false, cmd)) ∨
    (PassesChecks cfg platform w ∧ FX5_CLIENT_MAX_VALUES cfg < w.reducedCount platform ∧
      parseCommand cfg platform line = none) ∨
    (PassesChecks cfg platform w ∧ w.reducedCount platform ≤ FX5_CLIENT_MAX_VALUES cfg ∧
      ∃ cmd, parseCommand cfg platform line = some (true, cmd)) := by
  rcases writtenCommand_cases hw with ⟨_, _, _, hget⟩ | ⟨args, hargs, hrange, _⟩
  · rw [hset] at hget
    cases hget
  rcases @parse_written_set cfg platform line args w hargs hrange hset with
    hreject | houtside | ⟨hpass, hfit, cmd, haccept, _⟩
  · exact Or.inl hreject
  · exact Or.inr (Or.inl houtside)
  · exact Or.inr (Or.inr ⟨hpass, hfit, cmd, haccept⟩)

/-- A line without a range, and a get line, store nothing. -/
theorem line_defined (h : ∀ w, writtenCommand line = some w → w.isSet = false) :
    ∃ ok cmd, parseCommand cfg platform line = some (ok, cmd) := by
  cases hw : writtenCommand line with
  | none =>
    obtain ⟨ok, cmd, hparse, _⟩ := @parse_unwritten cfg platform line hw
    exact ⟨ok, cmd, hparse⟩
  | some w =>
    have hget := h w hw
    rcases writtenCommand_cases hw with ⟨args, hargs, _⟩ | ⟨_, _, _, hset⟩
    · exact ⟨_, _, parseCommand_get hargs⟩
    · rw [hget] at hset
      cases hset

/-- **The parser stays inside the value array**, and rejects a set line that does not fit, exactly
when no set line passes the checks with too many points. -/
theorem stays_inside_iff (cfg : Config) (platform : Platform) (line : List Char) :
    StaysInside cfg platform line ↔
      ¬∃ w, writtenCommand line = some w ∧ BroadcastOverflow cfg platform w := by
  constructor
  · rintro ⟨ok, cmd, hdefined, hreject⟩ ⟨w, hw, hset, hpass, hmany⟩
    rcases @line_in_array cfg platform line w hw hset with
      ⟨hno, _⟩ | ⟨_, _, houtside⟩ | ⟨_, hfit, cmd', haccept⟩
    · exact hno hpass
    · -- the broadcast runs over the end
      rw [houtside] at hdefined
      cases hdefined
    · -- the line is accepted although its range does not fit
      rw [haccept] at hdefined
      cases hdefined
      have hpoints : FX5_CLIENT_MAX_VALUES cfg < w.range.points := by omega
      have hnot : ¬Fits cfg w := fun hfits => Nat.not_le_of_lt hpoints hfits.range
      cases hreject w hw hset hnot
  · intro hno
    by_cases hall : ∀ w, writtenCommand line = some w → w.isSet = false
    · obtain ⟨ok, cmd, hparse⟩ := @line_defined cfg platform line hall
      refine ⟨ok, cmd, hparse, fun w hw hset => ?_⟩
      rw [hall w hw] at hset
      cases hset
    · obtain ⟨w, hw, hset⟩ : ∃ w, writtenCommand line = some w ∧ w.isSet = true := by
        refine Classical.byContradiction fun hnone => hall fun w hw => ?_
        exact Bool.eq_false_iff.mpr fun hset => hnone ⟨w, hw, hset⟩
      have hall (w' : WrittenCommand) (hw' : writtenCommand line = some w') : w' = w :=
        Option.some.inj (hw'.symm.trans hw)
      rcases @line_in_array cfg platform line w hw hset with
        ⟨_, cmd, hreject⟩ | ⟨hpass, hmany, _⟩ | ⟨hpass, _, cmd, haccept⟩
      · exact ⟨false, cmd, hreject, fun _ _ _ _ => rfl⟩
      · exact absurd ⟨w, hw, hset, hpass, Or.inr hmany⟩ hno
      · refine ⟨true, cmd, haccept, fun w' hw' _ hnot => ?_⟩
        rw [hall w' hw'] at hnot
        refine absurd ⟨Nat.le_of_not_lt fun hmany => hno ?_, hpass.list_fits hset⟩ hnot
        exact ⟨w, hw, hset, hpass, Or.inl hmany⟩

/-- With the default configuration the array has 512 elements; this line stores a 513th. -/
theorem broadcast_stores_outside :
    ¬StaysInside .default lp64 "set M0-M512=true".toList := by
  rintro ⟨ok, cmd, hparse, _⟩
  have hset : setArguments "set M0-M512=true".toList = some " M0-M512=true".toList := by decide
  have hrange : parseDeviceAndRange lp64 " M0-M512=true".toList =
      some (.M, 0, 513, "=true".toList) := by decide +kernel
  have hsingle : isSingleValue lp64 .M (skipSpaces "true".toList) = true := by decide
  rw [parseCommand_set hset, parseSet, hrange] at hparse
  simp only at hparse
  rw [if_neg (by decide)] at hparse
  have hnone : ∀ cmd : ParsedCommand, cmd.values.length = FX5_CLIENT_MAX_VALUES .default →
      parseScalarOrList .default lp64 "true".toList .M 513 cmd = none := fun cmd hlen =>
    parseScalarOrList_overflow hlen hsingle (by decide)
  rw [show (BitVec.ofNat 16 513).toNat = 513 by decide] at hparse
  cases hparse.symm.trans (hnone _ List.length_replicate)

end Lines

end Fx5
