import Mathlib
import FluidSheet.Options.Json
import FluidSheet.Proofs.Json.Decode
import FluidSheet.Proofs.Json.Sorted

namespace FluidSheet

open Json Json.Decode

-- Overrides whose numbers are all finite; JSON has no others.

def WidthSpec.Finite : WidthSpec → Prop
  | .fixed width => width.isFinite = true
  | .byPath table fallback =>
    (∀ entry ∈ table, entry.width.isFinite = true) ∧ ∀ width ∈ fallback, width.isFinite = true

structure Overrides.Finite (o : Overrides) : Prop where
  viewportWidth : ∀ spec ∈ o.viewportWidth, spec.Finite
  viewportHeight : ∀ spec ∈ o.viewportHeight, spec.Finite
  minPixelValue : ∀ minimum ∈ o.minPixelValue, minimum.isFinite = true
  landscapeWidth : ∀ spec ∈ o.landscapeWidth, spec.Finite
  multiDesignWidths : ∀ specs ∈ o.multiDesignWidths, ∀ spec ∈ specs, spec.width.Finite

-- A name for each key of the overrides, and one for each key of each design entry, by its place.
structure Spelling where
  option : String → String
  entry : Nat → String → String
  option_accepted : ∀ key : OptionKey, option key.text ∈ key.spellings
  width_accepted : ∀ i, entry i "width" ∈ ["width", "value"]
  mediaQuery_kept : ∀ i, entry i "mediaQuery" = "mediaQuery"

def Json.renamed (name : String → String) : Json → Json
  | .object members => .object (members.map fun m => (name m.1, m.2))
  | j => j

namespace Spelling

def respellEntries (p : Spelling) : Json → Json
  | .array items => .array (items.mapIdx fun i j => j.renamed (p.entry i))
  | j => j

def respellValue (p : Spelling) (name : String) (value : Json) : Json :=
  if name = OptionKey.multiDesignWidths.text then p.respellEntries value else value

def respell (p : Spelling) : Json → Json
  | .object members => .object (members.map fun m => (p.option m.1, p.respellValue m.1 m.2))
  | j => j

end Spelling

namespace OptionKey

def all : List OptionKey :=
  [sourceUnit, viewportWidth, viewportHeight, unitPrecision, viewportUnit, fontViewportUnit, selectorBlackList, propList,
    minPixelValue, mediaQuery, replace, landscape, landscapeUnit, landscapeWidth, multiDesign, multiDesignUnit,
    multiDesignWidths, exclude]

def place (key : OptionKey) : Nat := key.ctorIdx

theorem all_place (key : OptionKey) : all[key.place]? = some key := by cases key <;> rfl

theorem place_inj {key key' : OptionKey} (same : key.place = key'.place) : key = key' := by
  have here := all_place key
  rw [same, all_place key'] at here
  exact (Option.some.inj here).symm

theorem all_spelled : ∀ key ∈ all, ∀ name ∈ key.spellings,
    Field.place? Decode.overridesFields name = some key.place := by decide

theorem spelled_place {key : OptionKey} (spelled : name ∈ key.spellings) :
    Field.place? Decode.overridesFields name = some key.place :=
  all_spelled key (List.mem_of_getElem? (all_place key)) name spelled

theorem spelled_unique {key key' : OptionKey} (spelled : name ∈ key.spellings) (spelled' : name ∈ key'.spellings) :
    key = key' :=
  place_inj (Option.some.inj ((spelled_place spelled).symm.trans (spelled_place spelled')))

theorem text_spelled (key : OptionKey) : key.text ∈ key.spellings := by
  cases key <;> exact List.mem_cons_self

end OptionKey

namespace Overrides

def value? (o : Overrides) : OptionKey → Option Json
  | .sourceUnit => o.sourceUnit.map .string
  | .viewportWidth => o.viewportWidth.map WidthSpec.json
  | .viewportHeight => o.viewportHeight.map WidthSpec.json
  | .unitPrecision => o.unitPrecision.map fun n => Json.nat n.toNat
  | .viewportUnit => o.viewportUnit.map .string
  | .fontViewportUnit => o.fontViewportUnit.map .string
  | .selectorBlackList => o.selectorBlackList.map fun specs => .array (specs.map SelectorSpec.json)
  | .propList => o.propList.map strings
  | .minPixelValue => o.minPixelValue.map Json.real
  | .mediaQuery => o.mediaQuery.map .bool
  | .replace => o.replace.map .bool
  | .landscape => o.landscape.map .bool
  | .landscapeUnit => o.landscapeUnit.map .string
  | .landscapeWidth => o.landscapeWidth.map WidthSpec.json
  | .multiDesign => o.multiDesign.map .bool
  | .multiDesignUnit => o.multiDesignUnit.map .string
  | .multiDesignWidths => o.multiDesignWidths.map fun specs => .array (specs.map DesignSpec.json)
  | .exclude => o.exclude.map ExcludeSpec.json

theorem members_exact (o : Overrides) :
    o.members = OptionKey.all.filterMap fun key => (o.value? key).map fun j => (key.text, j) := by
  rw [List.filterMap_eq_flatMap_toList, members]
  simp only [OptionKey.all, List.flatMap_cons, List.flatMap_nil, List.append_nil, List.append_assoc]
  rfl

-- An option as it is after those at these places have been read.
def kept (places : List Nat) (key : OptionKey) (x : Option α) : Option α :=
  if places.contains key.place then x else .none

def among (o : Overrides) (places : List Nat) : Overrides :=
  { sourceUnit := kept places .sourceUnit o.sourceUnit
    viewportWidth := kept places .viewportWidth o.viewportWidth
    viewportHeight := kept places .viewportHeight o.viewportHeight
    unitPrecision := kept places .unitPrecision o.unitPrecision
    viewportUnit := kept places .viewportUnit o.viewportUnit
    fontViewportUnit := kept places .fontViewportUnit o.fontViewportUnit
    selectorBlackList := kept places .selectorBlackList o.selectorBlackList
    propList := kept places .propList o.propList
    minPixelValue := kept places .minPixelValue o.minPixelValue
    mediaQuery := kept places .mediaQuery o.mediaQuery
    replace := kept places .replace o.replace
    landscape := kept places .landscape o.landscape
    landscapeUnit := kept places .landscapeUnit o.landscapeUnit
    landscapeWidth := kept places .landscapeWidth o.landscapeWidth
    multiDesign := kept places .multiDesign o.multiDesign
    multiDesignUnit := kept places .multiDesignUnit o.multiDesignUnit
    multiDesignWidths := kept places .multiDesignWidths o.multiDesignWidths
    exclude := kept places .exclude o.exclude }

theorem kept_all {x : Option α} {write : α → Json} (covered : ∀ j, x.map write = some j → key.place ∈ places) :
    kept places key x = x := by
  cases x with
  | none => exact ite_self _
  | some a => exact if_pos (List.contains_iff_mem.mpr (covered _ rfl))

theorem among_all {o : Overrides} (covered : ∀ key j, o.value? key = some j → key.place ∈ places) : o.among places = o := by
  rw [among, kept_all (covered .sourceUnit), kept_all (covered .viewportWidth), kept_all (covered .viewportHeight),
    kept_all (covered .unitPrecision), kept_all (covered .viewportUnit), kept_all (covered .fontViewportUnit),
    kept_all (covered .selectorBlackList), kept_all (covered .propList), kept_all (covered .minPixelValue),
    kept_all (covered .mediaQuery), kept_all (covered .replace), kept_all (covered .landscape),
    kept_all (covered .landscapeUnit), kept_all (covered .landscapeWidth), kept_all (covered .multiDesign),
    kept_all (covered .multiDesignUnit), kept_all (covered .multiDesignWidths), kept_all (covered .exclude)]

end Overrides

namespace Decode

theorem real_sorted (x : Binary64) : (Json.real x).sorted = Json.real x := by
  unfold Json.real
  split_ifs <;> rfl

theorem pathWidth_json (finite : entry.width.isFinite = true) :
    pathWidth (WidthSpec.pathWidthJson entry).sorted = .ok entry := by
  have sorted : (WidthSpec.pathWidthJson entry).sorted =
      .object [("pattern", .string entry.pattern), ("width", (Json.real entry.width).sorted)] := rfl
  rw [sorted, real_sorted]
  exact record_filled (.present rfl rfl rfl (.present rfl rfl (take_ok (number_real finite) _) (.all (by decide))))

theorem table_json (finite : ∀ entry ∈ table, entry.width.isFinite = true) :
    list pathWidth (.array (sortedItems (table.map WidthSpec.pathWidthJson))) = .ok table := by
  rw [sortedItems_map, List.map_map]
  exact mapM_written fun entry member => pathWidth_json (finite entry member)

theorem width_json (finite : spec.Finite) : width spec.json.sorted = .ok spec := by
  cases spec with
  | fixed x =>
    rw [WidthSpec.json, real_sorted, Json.real, if_pos (show x.isFinite = true from finite)]
    rfl
  | byPath table fallback =>
    have rows := take_ok (table_json finite.1) fun table => (table, (none : Option Binary64))
    have read : pathTable (WidthSpec.byPath table fallback).json.sorted = .ok (table, fallback) := by
      cases fallback with
      | none => exact record_filled (.present rfl rfl rows (.absent rfl (by decide) (.all (by decide))))
      | some x =>
        have sorted : (WidthSpec.byPath table (some x)).json.sorted = .object
            [("byPath", .array (sortedItems (table.map WidthSpec.pathWidthJson))), ("fallback", (Json.real x).sorted)] := rfl
        have last := option_reads number_strict (number_real (finite.2 x rfl))
        rw [sorted, real_sorted]
        exact record_filled (.present rfl rfl rows (.present rfl rfl (take_ok last fun x => (table, x)) (.all (by decide))))
    exact congrArg (oneOf "WidthSpec") (take_ok read fun made => WidthSpec.byPath made.1 made.2)

theorem selectors_json (specs : List SelectorSpec) :
    list selector (.array (sortedItems (specs.map SelectorSpec.json))) = .ok specs := by
  rw [sortedItems_map, List.map_map]
  refine mapM_written fun spec _ => ?_
  cases spec <;> rfl

theorem strings_json (ss : List String) : list string (strings ss).sorted = .ok ss := by
  rw [strings, sorted, sortedItems_map, List.map_map]
  exact mapM_written fun _ _ => rfl

theorem exclude_json (spec : ExcludeSpec) : exclude spec.json.sorted = .ok spec := by
  cases spec with
  | pattern p => rfl
  | list ps => exact congrArg (oneOf "ExcludeSpec") (take_ok (strings_json ps) ExcludeSpec.list)

theorem excludeShape_json (spec : ExcludeSpec) : excludeShape spec.json.sorted = true := by
  cases spec with
  | pattern p => rfl
  | list ps =>
    rw [ExcludeSpec.json, strings, sorted, sortedItems_map, List.map_map, excludeShape, List.all_map]
    exact List.all_eq_true.mpr fun _ _ => rfl

theorem design_members (named : name ∈ ["width", "value"]) (read : width j = .ok w) (query : String) :
    design (.object [("mediaQuery", .string query), (name, j)]) = .ok ⟨w, query⟩ := by
  unfold design
  refine record_gathers (?_ : Gathers _ (fun places => (⟨if places.contains 0 then w else .fixed 0,
    if places.contains 1 then query else ""⟩ : DesignSpec)) _ _)
  have place {take : Json → DesignSpec → Except ReadError DesignSpec} {fields : List (Field Json DesignSpec)} :
      Field.place? (⟨["width", "value"], .required, take⟩ :: fields) name = some 0 := by
    simp only [List.mem_cons, List.not_mem_nil, or_false] at named
    rcases named with rfl | rfl <;> rfl
  have queried : ("mediaQuery", Json.string query) ∈ [("mediaQuery", Json.string query), (name, j)] := List.mem_cons_self
  have widened : (name, j) ∈ [("mediaQuery", Json.string query), (name, j)] := List.mem_cons_of_mem _ List.mem_cons_self
  constructor
  · simp only [List.forall_mem_cons]
    exact ⟨⟨1, _, rfl, rfl, fun _ => rfl⟩, ⟨0, _, place, rfl, fun _ => take_ok read _⟩, nofun⟩
  · rw [List.map_cons, List.map_singleton, place]
    exact (by decide : [some 1, some 0].Nodup)
  · intro i field here required
    match i with
    | 0 => exact ⟨_, widened, place⟩
    | 1 => exact ⟨_, queried, rfl⟩
    | i + 2 => cases here
  · intro seen all
    have width := all _ widened 0 place
    have mediaQuery := all _ queried 1 rfl
    simp [width, mediaQuery]

-- Put in order, the keys of a design entry stand the other way round than they were written.
theorem design_json (p : Spelling) (i : Nat) (finite : spec.width.Finite) :
    design (spec.json.renamed (p.entry i)).sorted = .ok spec := by
  obtain ⟨width, query⟩ := spec
  have read := width_json finite
  have named := p.width_accepted i
  have renamed : (DesignSpec.json ⟨width, query⟩).renamed (p.entry i) =
      .object [(p.entry i "width", width.json), ("mediaQuery", .string query)] := by
    rw [DesignSpec.json, Json.renamed, List.map_cons, List.map_singleton, p.mediaQuery_kept]
  rw [renamed]
  generalize p.entry i "width" = name at named
  have sorted : (Json.object [(name, width.json), ("mediaQuery", .string query)]).sorted =
      .object [("mediaQuery", .string query), (name, width.json.sorted)] := by
    simp only [List.mem_cons, List.not_mem_nil, or_false] at named
    rcases named with rfl | rfl <;> rfl
  rw [sorted]
  exact design_members named read query

theorem designs_json (p : Spelling) (finite : ∀ spec ∈ specs, spec.width.Finite) :
    list design (p.respellEntries (.array (specs.map DesignSpec.json))).sorted = .ok specs := by
  rw [Spelling.respellEntries, sorted, sortedItems_map, list, List.mapM_map]
  exact mapM_numbered fun i spec member => design_json p i (finite spec member)

-- A field that is given is taken over, whatever was read before it.
def Reads (o : Overrides) (key : OptionKey) (j : Json) : Prop :=
  ∃ field, overridesFields[key.place]? = some field ∧
    ∀ places, field.take j (o.among places) = .ok (o.among (key.place :: places))

theorem field_reads {read : Json → Except ReadError α} {set : Option α → Overrides → Overrides} {x : Option α}
    (here : overridesFields[key.place]? = some (field key read set))
    (sets : ∀ places, set x (o.among places) = o.among (key.place :: places)) (given : x = some a)
    (strict : ∀ a, read .null ≠ .ok a) (reads : read j = .ok a) : Reads o key j := by
  refine ⟨_, here, fun places => ?_⟩
  rw [← sets, given]
  exact take_ok (option_reads strict reads) fun v => set v (o.among places)

theorem other_value (p : Spelling) {key : OptionKey} (other : key ≠ .multiDesignWidths) (j : Json) :
    p.respellValue key.text j = j := by
  refine if_neg fun same => other ?_
  have spelled := key.text_spelled
  rw [same] at spelled
  exact OptionKey.spelled_unique spelled (OptionKey.text_spelled _)

-- Of all options only the design entries hold keys that have other names.
theorem plain_reads (p : Spelling) {x : Option α} {write : α → Json} {read : Json → Except ReadError α}
    {set : Option α → Overrides → Overrides} (given : x.map write = some j) (other : key ≠ .multiDesignWidths)
    (here : overridesFields[key.place]? = some (field key read set))
    (sets : ∀ places, set x (o.among places) = o.among (key.place :: places))
    (strict : ∀ a, read .null ≠ .ok a) (reads : ∀ a ∈ x, read (write a).sorted = .ok a) :
    Reads o key (p.respellValue key.text j).sorted := by
  obtain ⟨a, present, rfl⟩ := Option.map_eq_some_iff.mp given
  rw [other_value p other]
  exact field_reads here sets present strict (reads a present)

theorem key_reads (p : Spelling) (finite : o.Finite) {key : OptionKey} (given : o.value? key = some j) :
    Reads o key (p.respellValue key.text j).sorted := by
  cases key with
  | sourceUnit | viewportUnit | fontViewportUnit | landscapeUnit | multiDesignUnit =>
    exact plain_reads p given nofun rfl (fun _ => rfl) nofun fun _ _ => rfl
  | mediaQuery | replace | landscape | multiDesign =>
    exact plain_reads p given nofun rfl (fun _ => rfl) nofun fun _ _ => rfl
  | viewportWidth =>
    exact plain_reads p given nofun rfl (fun _ => rfl) nofun fun spec here => width_json (finite.viewportWidth spec here)
  | viewportHeight =>
    exact plain_reads p given nofun rfl (fun _ => rfl) nofun fun spec here => width_json (finite.viewportHeight spec here)
  | landscapeWidth =>
    exact plain_reads p given nofun rfl (fun _ => rfl) nofun fun spec here => width_json (finite.landscapeWidth spec here)
  | unitPrecision => exact plain_reads p given nofun rfl (fun _ => rfl) nofun fun n _ => word32_count n
  | selectorBlackList => exact plain_reads p given nofun rfl (fun _ => rfl) nofun fun specs _ => selectors_json specs
  | propList => exact plain_reads p given nofun rfl (fun _ => rfl) nofun fun entries _ => strings_json entries
  | minPixelValue =>
    refine plain_reads p given nofun rfl (fun _ => rfl) number_strict fun x here => ?_
    rw [real_sorted]
    exact number_real (finite.minPixelValue x here)
  | multiDesignWidths =>
    obtain ⟨specs, here, rfl⟩ := Option.map_eq_some_iff.mp given
    exact field_reads rfl (fun _ => rfl) here nofun (designs_json p (finite.multiDesignWidths specs here))
  | exclude => exact plain_reads p given nofun rfl (fun _ => rfl) nofun fun spec _ => exclude_json spec

end Decode

namespace Overrides

def respelled (p : Spelling) (o : Overrides) : List (String × Json) :=
  OptionKey.all.filterMap fun key =>
    (o.value? key).map fun j => (p.option key.text, (p.respellValue key.text j).sorted)

theorem mem_respelled {p : Spelling} : m ∈ respelled p o ↔
    ∃ key j, o.value? key = some j ∧ m = (p.option key.text, (p.respellValue key.text j).sorted) := by
  simp only [respelled, List.mem_filterMap, Option.map_eq_some_iff]
  constructor
  · rintro ⟨key, _, j, given, rfl⟩
    exact ⟨key, j, given, rfl⟩
  · rintro ⟨key, j, given, rfl⟩
    exact ⟨key, List.mem_of_getElem? key.all_place, j, given, rfl⟩

theorem respelled_apart (p : Spelling) (o : Overrides) :
    ((o.respelled p).map fun m => Field.place? Decode.overridesFields m.1).Nodup := by
  rw [respelled, List.map_filterMap]
  refine List.Nodup.filterMap ?_ (by decide)
  intro key key' place here here'
  have placed {key : OptionKey} (here : place ∈ ((o.value? key).map fun j =>
      (p.option key.text, (p.respellValue key.text j).sorted)).map fun m => Field.place? Decode.overridesFields m.1) :
      place = some key.place := by
    obtain ⟨m, given, rfl⟩ := Option.map_eq_some_iff.mp here
    obtain ⟨j, _, rfl⟩ := Option.map_eq_some_iff.mp given
    exact OptionKey.spelled_place (p.option_accepted key)
  exact OptionKey.place_inj (Option.some.inj ((placed here).symm.trans (placed here')))

theorem names_apart {ms : List (String × Json)} {fields : List (Field Json α)}
    (apart : (ms.map fun m => Field.place? fields m.1).Nodup) : (ms.map Prod.fst).Nodup := by
  refine List.Nodup.of_map (Field.place? fields) ?_
  rw [List.map_map]
  exact apart

theorem respelled_gathers (p : Spelling) (finite : o.Finite) :
    Gathers Decode.overridesFields o.among (o.respelled p) o where
  each m member := by
    obtain ⟨key, j, given, rfl⟩ := mem_respelled.mp member
    obtain ⟨field, here, taken⟩ := Decode.key_reads p finite given
    exact ⟨key.place, field, OptionKey.spelled_place (p.option_accepted key), here, taken⟩
  apart := respelled_apart p o
  required i field here required := by
    have positional : ∀ field ∈ Decode.overridesFields, field.presence = .positional := by
      simp [Decode.overridesFields, Decode.field]
    rw [positional field (List.mem_of_getElem? here)] at required
    cases required
  whole places all := by
    refine among_all fun key j given => ?_
    exact all _ (mem_respelled.mpr ⟨key, j, given, rfl⟩) key.place (OptionKey.spelled_place (p.option_accepted key))

theorem respell_members (p : Spelling) (o : Overrides) :
    ∃ ms, (p.respell o.json).sorted = .object ms ∧ ms.Perm (o.respelled p) := by
  have renamed : ((o.members.map fun m => (p.option m.1, p.respellValue m.1 m.2)).map fun m => (m.1, m.2.sorted)) =
      o.respelled p := by
    rw [members_exact, List.map_filterMap, List.map_filterMap, respelled]
    simp only [Option.map_map]
    rfl
  have distinct : ((o.members.map fun m => (p.option m.1, p.respellValue m.1 m.2)).map Prod.fst).Nodup := by
    have apart := names_apart (respelled_apart p o)
    rw [← renamed, List.map_map] at apart
    exact apart
  rw [← renamed]
  exact sorted_object distinct

theorem ofJson_respelled (p : Spelling) (o : Overrides) (finite : o.Finite) : ofJson (p.respell o.json) = .ok o := by
  obtain ⟨ms, sorted, moved⟩ := respell_members p o
  have read : record .value "struct OptionOverrides" Decode.overridesFields none (.object ms) = .ok o :=
    record_gathers ((respelled_gathers p finite).perm moved)
  have shape : ∀ e, Json.get? OptionKey.exclude.text ms = some e → Decode.excludeShape e = true := by
    intro e found
    obtain ⟨key, j, given, same⟩ := mem_respelled.mp (moved.mem_iff.mp (get_mem found))
    obtain ⟨named, rfl⟩ := Prod.mk.inj same
    have spelled := p.option_accepted key
    rw [← named] at spelled
    obtain rfl := OptionKey.spelled_unique spelled (OptionKey.text_spelled .exclude)
    obtain ⟨spec, -, rfl⟩ := Option.map_eq_some_iff.mp given
    have other : OptionKey.exclude ≠ .multiDesignWidths := nofun
    rw [Decode.other_value p other]
    exact Decode.excludeShape_json spec
  have opened : ofJson (p.respell o.json) =
      (record .value "struct OptionOverrides" Decode.overridesFields none (.object ms)).mapError .unreadable := by
    rw [ofJson, sorted]
    cases found : Json.get? OptionKey.exclude.text ms with
    | none => simp only [found]
    | some e =>
      simp only [found, shape e found]
      rfl
  rw [opened, read]
  rfl

-- The names from earlier days, with the width of every other design entry under its second name.
def earlier : Spelling where
  option name :=
    match name with
    | "sourceUnit" => "unitToConvert"
    | "multiDesign" => "mutiDesign"
    | "multiDesignUnit" => "mutiDesignUnit"
    | "multiDesignWidths" => "mutiDesignWidth"
    | name => name
  entry i name := if name = "width" ∧ i % 2 = 1 then "value" else name
  option_accepted key := by cases key <;> decide
  width_accepted i := by split_ifs <;> simp
  mediaQuery_kept i := if_neg (by simp)

theorem ofJson_respelled_earlier :
    let table : WidthSpec := .byPath [⟨"^a", 375⟩, ⟨"b$", 750⟩] (some 1024)
    let o : Overrides :=
      { none with
        sourceUnit := some "rpx", viewportWidth := some table, unitPrecision := some 3, minPixelValue := some 1,
        selectorBlackList := some [.text ".hairline", .pattern "^\\.wrap"], propList := some ["*", "!border*"],
        multiDesign := some true, multiDesignUnit := some "dpx",
        multiDesignWidths := some [⟨.fixed 750, "(min-width: 600px)"⟩, ⟨table, "(min-width: 900px)"⟩],
        exclude := some (.list ["vendor", "^lib/"]) }
    o.Finite ∧ ofJson (earlier.respell o.json) = .ok o := by
  intro table o
  have one : (1 : Binary64).isFinite = true := by decide +kernel
  have narrow : (375 : Binary64).isFinite = true := by decide +kernel
  have wide : (750 : Binary64).isFinite = true := by decide +kernel
  have other : (1024 : Binary64).isFinite = true := by decide +kernel
  have widths : table.Finite := by
    refine ⟨List.forall_mem_cons.mpr ⟨narrow, List.forall_mem_cons.mpr ⟨wide, nofun⟩⟩, ?_⟩
    exact fun _ given => Option.some.inj given ▸ other
  have finite : o.Finite := by
    constructor
    case viewportWidth => exact fun _ given => Option.some.inj given ▸ widths
    case minPixelValue => exact fun _ given => Option.some.inj given ▸ one
    case multiDesignWidths =>
      refine fun _ given => Option.some.inj given ▸ ?_
      exact List.forall_mem_cons.mpr ⟨wide, List.forall_mem_cons.mpr ⟨widths, nofun⟩⟩
    all_goals nofun
  exact ⟨finite, ofJson_respelled earlier o finite⟩

end Overrides
end FluidSheet
