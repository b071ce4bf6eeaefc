import Mathlib
import FluidSheet.Proofs.Options.Read

-- A document that gives the options by their places is not looked at for the shape of "exclude".

namespace FluidSheet

open Json Json.Decode

inductive ExcludeSpec.Shape : Json → Prop where
  | unset : Shape .null
  | pattern (p : String) : Shape (.string p)
  | list (ps : List String) : Shape (strings ps)

namespace Decode

@[simp] theorem isString_exact : isString j = true ↔ ∃ s, j = .string s := by
  cases j <;> simp [isString]

@[simp] theorem isString_sorted (j : Json) : isString j.sorted = isString j := by
  cases j <;> rfl

theorem excludeShape_exact : excludeShape e = true ↔ ExcludeSpec.Shape e := by
  constructor
  · intro shaped
    cases e with
    | null => exact .unset
    | string p => exact .pattern p
    | array items =>
      simp only [excludeShape, List.all_eq_true, isString_exact] at shaped
      have written : items ∈ Set.range (List.map Json.string) := by
        simpa [Set.range_list_map, eq_comm] using shaped
      obtain ⟨ps, rfl⟩ := written
      exact .list ps
    | bool | number | object => cases shaped
  · intro shaped
    cases shaped with
    | unset | pattern => rfl
    | list ps => simp [strings, excludeShape]

theorem excludeShape_sorted (e : Json) : excludeShape e.sorted = excludeShape e := by
  cases e with
  | array items => simp [sorted, sortedItems_map, excludeShape, Function.comp_def]
  | _ => rfl

theorem exclude_shaped (read : option exclude e = .ok x) : ExcludeSpec.Shape e := by
  rcases option_ok.mp read with ⟨rfl, -⟩ | ⟨-, spec, read, -⟩
  · exact .unset
  · rw [exclude_ok.mp read]
    cases spec with
    | pattern p => exact .pattern p
    | list ps => exact .list ps

end Decode

namespace Overrides

-- What a document gives for "exclude": under its name, or at the end of the array of all options.
inductive Excludes : Json → Json → Prop where
  | member {ms : List (String × Json)} (held : last? OptionKey.exclude.text ms = some e) : Excludes (.object ms) e
  | item (whole : items.length = OptionKey.all.length) (held : items[OptionKey.exclude.place]? = some e) :
    Excludes (.array items) e

def Reported (j : Json) : Prop := ofJson j = .error .excludeShape ↔ ∃ e, Excludes j e ∧ ¬ExcludeSpec.Shape e

-- The options are given by their places, and what stands in the place of "exclude" is of the wrong shape.
def Overlooked (j : Json) : Prop := ∃ items e, j = .array items ∧ Excludes j e ∧ ¬ExcludeSpec.Shape e

theorem unreadable_other (r : Except ReadError Overrides) : r.mapError OptionError.unreadable ≠ .error .excludeShape := by
  cases r <;> simp [Except.mapError]

theorem object_reported (members : List (String × Json)) : Reported (.object members) := by
  have given (e : Json) : Excludes (.object members) e ↔ last? OptionKey.exclude.text members = some e :=
    ⟨fun | .member held => held, .member⟩
  simp only [Reported, given, ofJson, sorted, get_sorted]
  cases held : last? OptionKey.exclude.text members with
  | none => simp [unreadable_other]
  | some e =>
    simp only [Option.map_some, Decode.excludeShape_sorted, Option.some.injEq, exists_eq_left', ← Decode.excludeShape_exact]
    cases Decode.excludeShape e
    · simp [throw, throwThe, MonadExceptOf.throw, bind, Except.bind]
    · simp [unreadable_other]

theorem array_other (items : List Json) : ofJson (.array items) ≠ .error .excludeShape :=
  unreadable_other _

theorem array_read (items : List Json) : ofJson (.array items) =
    (record .value "struct OptionOverrides" Decode.overridesFields none (Json.array items).sorted).mapError .unreadable :=
  rfl

theorem array_ill (given : Excludes (.array items) e) (ill : ¬ExcludeSpec.Shape e) : ofJson (.array items) ≠ .ok o := by
  intro read
  cases given with
  | item whole held =>
    have meant : Part OptionKey.exclude.spellings OptionKey.exclude.place (Json.array items).sorted e.sorted := by
      rw [sorted, sortedItems_map]
      apply Part.item
      simp [held]
    have shaped := Decode.exclude_shaped (ofJson_gives read .exclude meant)
    rw [← Decode.excludeShape_exact, Decode.excludeShape_sorted, Decode.excludeShape_exact] at shaped
    exact ill shaped

theorem overlooked_unreadable (overlooked : Overlooked j) : ∃ fault, ofJson j = .error (.unreadable fault) := by
  obtain ⟨items, e, rfl, given, ill⟩ := overlooked
  have refused (o : Overrides) : ofJson (.array items) ≠ .ok o := array_ill given ill
  rw [array_read] at refused ⊢
  cases read : record .value "struct OptionOverrides" Decode.overridesFields none (Json.array items).sorted with
  | ok o =>
    rw [read] at refused
    exact absurd rfl (refused o)
  | error fault => exact ⟨fault, rfl⟩

-- In a document that gives it by its place it is told as an option that cannot be read.
theorem ofJson_reports (j : Json) :
    (Reported j ↔ ¬Overlooked j) ∧ (Overlooked j → ∃ fault, ofJson j = .error (.unreadable fault)) := by
  refine ⟨⟨?_, ?_⟩, overlooked_unreadable⟩
  · rintro reported ⟨items, e, rfl, given, ill⟩
    exact array_other items (reported.mpr ⟨e, given, ill⟩)
  · intro looked
    cases j with
    | object members => exact object_reported members
    | array items =>
      constructor
      · intro refused
        exact absurd refused (array_other items)
      · rintro ⟨e, given, ill⟩
        exact absurd ⟨items, e, rfl, given, ill⟩ looked
    | null | bool | number | string =>
      constructor
      · nofun
      · rintro ⟨_, ⟨⟩, -⟩

-- All options left open but the last, and a number for that.
def byPlace : Json := .array (List.replicate 17 .null ++ [.nat 42])

theorem byPlace_overlooked : Overlooked byPlace := ⟨_, .nat 42, rfl, .item rfl rfl, nofun⟩

theorem ofJson_reports_byPlace :
    Overlooked byPlace ∧ ¬Reported byPlace ∧ ∃ fault, ofJson byPlace = .error (.unreadable fault) := by
  have law := ofJson_reports byPlace
  exact ⟨byPlace_overlooked, fun reported => law.1.mp reported byPlace_overlooked, law.2 byPlace_overlooked⟩

theorem byPlace_unreported :
    ofJson byPlace = .error (.unreadable (.mismatch (.noVariant "ExcludeSpec"))) ∧ ¬Reported byPlace := by
  refine ⟨rfl, fun reported => ?_⟩
  have refused := reported.mpr ⟨.nat 42, .item rfl rfl, nofun⟩
  cases refused

end Overrides
end FluidSheet
