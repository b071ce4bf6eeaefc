import Mathlib
import FluidSheet.Proofs.Json.Parts
import FluidSheet.Proofs.Options.Json

namespace FluidSheet

open Json Json.Decode

inductive Kind where
  | text
  | flag
  | count
  | number
  | texts
  | selectors
  | width
  | designs
  | exclusion
deriving DecidableEq, Repr

namespace Kind

def Carrier : Kind → Type
  | text => String
  | flag => Bool
  | count => UInt32
  | number => Binary64
  | texts => List String
  | selectors => List SelectorSpec
  | width => WidthSpec
  | designs => List DesignSpec
  | exclusion => ExcludeSpec

def read : (kind : Kind) → Json → Except ReadError kind.Carrier
  | text => string
  | flag => bool
  | count => word32
  | number => Json.Decode.number
  | texts => list string
  | selectors => list Decode.selector
  | width => Decode.width
  | designs => list Decode.design
  | exclusion => Decode.exclude

end Kind

def OptionKey.kind : OptionKey → Kind
  | sourceUnit | viewportUnit | fontViewportUnit | landscapeUnit | multiDesignUnit => .text
  | mediaQuery | replace | landscape | multiDesign => .flag
  | unitPrecision => .count
  | minPixelValue => .number
  | propList => .texts
  | selectorBlackList => .selectors
  | viewportWidth | viewportHeight | landscapeWidth => .width
  | multiDesignWidths => .designs
  | exclude => .exclusion

namespace Overrides

def get (o : Overrides) : (key : OptionKey) → Option key.kind.Carrier
  | .sourceUnit => o.sourceUnit
  | .viewportWidth => o.viewportWidth
  | .viewportHeight => o.viewportHeight
  | .unitPrecision => o.unitPrecision
  | .viewportUnit => o.viewportUnit
  | .fontViewportUnit => o.fontViewportUnit
  | .selectorBlackList => o.selectorBlackList
  | .propList => o.propList
  | .minPixelValue => o.minPixelValue
  | .mediaQuery => o.mediaQuery
  | .replace => o.replace
  | .landscape => o.landscape
  | .landscapeUnit => o.landscapeUnit
  | .landscapeWidth => o.landscapeWidth
  | .multiDesign => o.multiDesign
  | .multiDesignUnit => o.multiDesignUnit
  | .multiDesignWidths => o.multiDesignWidths
  | .exclude => o.exclude

def put (o : Overrides) : (key : OptionKey) → Option key.kind.Carrier → Overrides
  | .sourceUnit, x => { o with sourceUnit := x }
  | .viewportWidth, x => { o with viewportWidth := x }
  | .viewportHeight, x => { o with viewportHeight := x }
  | .unitPrecision, x => { o with unitPrecision := x }
  | .viewportUnit, x => { o with viewportUnit := x }
  | .fontViewportUnit, x => { o with fontViewportUnit := x }
  | .selectorBlackList, x => { o with selectorBlackList := x }
  | .propList, x => { o with propList := x }
  | .minPixelValue, x => { o with minPixelValue := x }
  | .mediaQuery, x => { o with mediaQuery := x }
  | .replace, x => { o with replace := x }
  | .landscape, x => { o with landscape := x }
  | .landscapeUnit, x => { o with landscapeUnit := x }
  | .landscapeWidth, x => { o with landscapeWidth := x }
  | .multiDesign, x => { o with multiDesign := x }
  | .multiDesignUnit, x => { o with multiDesignUnit := x }
  | .multiDesignWidths, x => { o with multiDesignWidths := x }
  | .exclude, x => { o with exclude := x }

theorem get_put (o : Overrides) (key : OptionKey) (x : Option key.kind.Carrier) : (o.put key x).get key = x := by
  cases key <;> rfl

theorem get_put_other (o : Overrides) {key key' : OptionKey} (other : key' ≠ key) (x : Option key'.kind.Carrier) :
    (o.put key' x).get key = o.get key := by
  cases key' <;> cases key <;> first | rfl | exact absurd rfl other

end Overrides

namespace Decode

theorem strings_ok : list string j = .ok ps ↔ j = strings ps := by
  simp only [list_ok, string_ok, ← List.forall₂_map_right_iff, List.forall₂_eq_eq_eq, strings, exists_eq_right]

theorem oneOf_ok {r : Except ReadError α} : oneOf name r = .ok a ↔ r = .ok a := mapError_ok

theorem exclude_ok : exclude j = .ok spec ↔ j = spec.json := by
  unfold exclude
  rw [oneOf_ok]
  constructor
  · intro read
    split at read
    · cases read
      rfl
    · obtain ⟨ps, listed, read⟩ := bind_ok read
      cases read
      exact strings_ok.mp listed
  · rintro rfl
    cases spec with
    | pattern p => rfl
    | list ps => exact take_ok (strings_ok.mpr rfl) ExcludeSpec.list

theorem selector_read (read : selector j = .ok spec) :
    (∃ s, j = .string s ∧ spec = .text s) ∨
      ∃ ms s, j = .object ms ∧ Json.get? "regex" ms = some (.string s) ∧ spec = .pattern s := by
  unfold selector at read
  rw [oneOf_ok] at read
  split at read
  · cases read
    exact .inl ⟨_, rfl, rfl⟩
  · split at read
    · rename_i held
      cases read
      exact .inr ⟨_, _, rfl, held, rfl⟩
    · cases read
  · cases read

theorem width_read (read : width j = .ok spec) :
    (∃ n, j = .number n ∧ spec = .fixed n.toBinary64) ∨
      ∃ table fallback, pathTable j = .ok (table, fallback) ∧ spec = .byPath table fallback := by
  unfold width at read
  rw [oneOf_ok] at read
  split at read
  · cases read
    exact .inl ⟨_, rfl, rfl⟩
  · obtain ⟨⟨table, fallback⟩, opened, filled⟩ := bind_ok read
    cases filled
    exact .inr ⟨table, fallback, opened, rfl⟩

theorem pathWidth_read (read : pathWidth j = .ok entry) :
    Given ["pattern"] 0 j (fun part => string part = .ok entry.pattern) ∧
      Given ["width"] 1 j fun part => number part = .ok entry.width := by
  constructor
  · refine record_required PathWidth.pattern (fun part p => string part = .ok p) (.first ?_ ?_) rfl (by decide) rfl read
    · intros; rfl
    · intros; rfl
  · refine record_required PathWidth.width (fun part x => number part = .ok x) (.second ?_ ?_) rfl (by decide) rfl read
    · intros; rfl
    · intros; rfl

theorem pathTable_read (read : pathTable j = .ok (table, fallback)) :
    Given ["byPath"] 0 j (fun part => list pathWidth part = .ok table) ∧
      (∀ part, Part ["fallback"] 1 j part → option number part = .ok fallback) ∧
      ((¬∃ part, Part ["fallback"] 1 j part) → fallback = none) := by
  constructor
  · refine record_required Prod.fst (fun part ws => list pathWidth part = .ok ws) (.first ?_ ?_) rfl (by decide) rfl read
    · intros; rfl
    · intros; rfl
  · have given : (∀ part, Part ["fallback"] 1 j part → option number part = .ok fallback) ∧
        ((¬∃ part, Part ["fallback"] 1 j part) → fallback = none ∧ Presence.free ≠ .required) := by
      refine record_share Prod.snd (fun part x => option number part = .ok x) (.second ?_ ?_) rfl (by decide) read
      · intros; rfl
      · intros; rfl
    exact ⟨given.1, fun absent => (given.2 absent).1⟩

theorem design_read (read : design j = .ok spec) :
    Given ["width", "value"] 0 j (fun part => width part = .ok spec.width) ∧
      Given ["mediaQuery"] 1 j fun part => string part = .ok spec.mediaQuery := by
  constructor
  · refine record_required DesignSpec.width (fun part w => width part = .ok w) (.first ?_ ?_) rfl (by decide) rfl read
    · intros; rfl
    · intros; rfl
  · refine record_required DesignSpec.mediaQuery (fun part q => string part = .ok q) (.second ?_ ?_) rfl (by decide) rfl
      read
    · intros; rfl
    · intros; rfl

-- The fields of the overrides are all made alike, each for its own option.
theorem field_at (key : OptionKey) :
    overridesFields[key.place]? = some (field key key.kind.read fun x o => o.put key x) := by
  cases key <;> rfl

theorem option_taken {slot : Field Json Overrides} {key : OptionKey} (here : overridesFields[key.place]? = some slot)
    (taken : slot.take part o = .ok o') : ∃ x, option key.kind.read part = .ok x ∧ o' = o.put key x := by
  rw [field_at] at here
  cases here
  exact filling_taken taken

theorem placed_key {slot : Field Json Overrides} (here : overridesFields[i]? = some slot) : ∃ key : OptionKey, key.place = i := by
  have inside : i < 18 := (List.getElem?_eq_some_iff.mp here).1
  have each : ∀ i : Fin 18, (OptionKey.all[i.val]).place = i.val := by decide
  exact ⟨_, each ⟨i, inside⟩⟩

theorem option_owned (key : OptionKey) :
    Owns overridesFields key.place (·.get key) fun part x => option key.kind.read part = .ok x := by
  refine .ofFilling (field_at key) (fun x o => o.get_put key x) fun i slot part o o' other here taken => ?_
  obtain ⟨key', rfl⟩ := placed_key here
  obtain ⟨x, -, rfl⟩ := option_taken here taken
  exact o.get_put_other (fun same => other (congrArg OptionKey.place same)) x

end Decode

namespace Overrides

theorem ofJson_record (read : ofJson j = .ok o) :
    record .value "struct OptionOverrides" Decode.overridesFields none j.sorted = .ok o := by
  unfold ofJson at read
  dsimp only at read
  split at read
  · split at read
    · split_ifs at read
      · cases read
      · exact mapError_ok.mp read
    · exact mapError_ok.mp read
  · exact mapError_ok.mp read

-- Every part that is meant for an option is read as one of its kind, and is what the option holds.
theorem ofJson_gives (read : ofJson j = .ok o) (key : OptionKey) (meant : Part key.spellings key.place j.sorted part) :
    option key.kind.read part = .ok (o.get key) :=
  (record_share _ _ (Decode.option_owned key) (Decode.field_at key) (fun _ => OptionKey.spelled_place)
    (ofJson_record read)).1 part meant

end Overrides
end FluidSheet
