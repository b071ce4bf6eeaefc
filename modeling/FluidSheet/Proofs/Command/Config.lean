import Mathlib
import FluidSheet.Command.Config
import FluidSheet.Options.Merge
import FluidSheet.Proofs.Options.Read
import FluidSheet.Proofs.Toml.Json

-- Numbers that are infinite or none become null on the way through JSON, and null is an option left open.

namespace FluidSheet

open Json Json.Decode

namespace Toml.Value

def Lists (Says : Value → α → Prop) (v : Value) (as : List α) : Prop :=
  ∃ items, v = .array items ∧ List.Forall₂ Says items as

def SaysEntry (v : Value) (entry : PathWidth) : Prop :=
  v.Given ["pattern"] 0 (fun part => part = .string entry.pattern) ∧
    v.Given ["width"] 1 fun part => part.number? = some entry.width

def SaysFallback (v : Value) (fallback : Option Binary64) : Prop :=
  (∀ part, Part ["fallback"] 1 v part → ∃ x, part.number? = some x ∧ fallback = some x) ∧
    ((¬∃ part, Part ["fallback"] 1 v part) → fallback = none)

def SaysWidth (v : Value) : WidthSpec → Prop
  | .fixed width => v.number? = some width
  | .byPath entries fallback => v.Given ["byPath"] 0 (Lists SaysEntry · entries) ∧ v.SaysFallback fallback

def SaysDesign (v : Value) (spec : DesignSpec) : Prop :=
  v.Given ["width", "value"] 0 (SaysWidth · spec.width) ∧
    v.Given ["mediaQuery"] 1 fun part => part = .string spec.mediaQuery

def SaysSelector (v : Value) : SelectorSpec → Prop
  | .text s => v = .string s
  | .pattern p => ∃ members, v = .table members ∧ last? "regex" members = some (.string p)

def SaysPatterns (v : Value) : ExcludeSpec → Prop
  | .pattern p => v = .string p
  | .list ps => v = .array (ps.map .string)

def LosesFallback (v : Value) : Prop := ∃ part, Part ["fallback"] 1 v part ∧ part.Unsayable

def LosesWidth (v : Value) : Prop := ∃ part, Part ["width", "value"] 0 v part ∧ part.LosesFallback

end Toml.Value

namespace Kind
open Toml

def Says : (kind : Kind) → Value → kind.Carrier → Prop
  | text, v, s => v = .string s
  | flag, v, b => v = .boolean b
  | count, v, n => v = .integer n.toNat
  | number, v, x => v.number? = some x
  | texts, v, ss => v = .array (ss.map .string)
  | selectors, v, specs => v.Lists Value.SaysSelector specs
  | width, v, spec => v.SaysWidth spec
  | designs, v, specs => v.Lists Value.SaysDesign specs
  | exclusion, v, spec => v.SaysPatterns spec

def Loses : Kind → Value → Prop
  | width, v => v.LosesFallback
  | designs, v => ∃ items, v = .array items ∧ ∃ item ∈ items, item.LosesWidth
  | _, _ => False

end Kind

-- Whatever can be read says what was read of it, unless a part of it got lost

namespace Toml.Value

theorem entry_said {v : Value} (read : Decode.pathWidth v.json.sorted = .ok entry) : v.SaysEntry entry := by
  obtain ⟨pattern, width⟩ := Decode.pathWidth_read read
  constructor
  · exact (given_json (by decide) pattern).mono fun part => string_json.mp
  · exact (given_json (by decide) width).mono fun part read => (number_json.mp read).1

theorem entries_said {v : Value} (read : list Decode.pathWidth v.json.sorted = .ok entries) : v.Lists SaysEntry entries := by
  obtain ⟨items, rfl, each⟩ := list_json.mp read
  exact ⟨items, rfl, each.imp fun _ _ => entry_said⟩

theorem fallback_said {v : Value} (given : ∀ part, Json.Part ["fallback"] 1 v.json.sorted part →
      option Decode.number part = .ok fallback)
    (absent : (¬∃ part, Json.Part ["fallback"] 1 v.json.sorted part) → fallback = none) :
    v.SaysFallback fallback ↔ ¬v.LosesFallback := by
  have read (part : Value) (meant : Part ["fallback"] 1 v part) : option Decode.number part.json.sorted = .ok fallback :=
    given _ ((part_json (by decide)).mpr ⟨part, meant, rfl⟩)
  constructor
  · rintro ⟨said, -⟩ ⟨part, meant, unsayable⟩
    obtain ⟨x, -, held⟩ := said part meant
    have lost := read part meant
    rw [json_null.mpr unsayable, held] at lost
    cases lost
  · intro whole
    constructor
    · intro part meant
      rcases option_ok.mp (read part meant) with ⟨null, -⟩ | ⟨-, x, read, held⟩
      · exact absurd ⟨part, meant, json_null.mp null⟩ whole
      · exact ⟨x, (number_json.mp read).1, held⟩
    · intro none
      apply absent
      rintro ⟨j, meant⟩
      obtain ⟨part, meant, -⟩ := (part_json (by decide)).mp meant
      exact none ⟨part, meant⟩

theorem fixed_said {v : Value} (number : v.json.sorted = .number n) :
    v.number? = some n.toBinary64 ∧ ¬v.LosesFallback := by
  constructor
  · exact (number_json.mp (number_ok.mpr ⟨n, number, rfl⟩)).1
  · rintro ⟨part, meant, -⟩
    have meant := (part_json (by decide)).mpr ⟨part, meant, rfl⟩
    rw [number] at meant
    cases meant

theorem width_said {v : Value} (read : Decode.width v.json.sorted = .ok spec) :
    v.SaysWidth spec ↔ ¬v.LosesFallback := by
  rcases Decode.width_read read with ⟨n, number, rfl⟩ | ⟨entries, fallback, opened, rfl⟩
  · have fixed := fixed_said number
    simp [SaysWidth, fixed]
  · obtain ⟨listed, given, absent⟩ := Decode.pathTable_read opened
    have said : v.Given ["byPath"] 0 (Lists SaysEntry · entries) :=
      (given_json (by decide) listed).mono fun part => entries_said
    simp [SaysWidth, said, fallback_said given absent]

theorem design_said {v : Value} (read : Decode.design v.json.sorted = .ok spec) :
    v.SaysDesign spec ↔ ¬v.LosesWidth := by
  obtain ⟨width, query⟩ := Decode.design_read read
  have width := given_json (by decide) width
  have query := (given_json (by decide) query).mono fun part => string_json.mp
  constructor
  · rintro ⟨said, -⟩ ⟨part, meant, lost⟩
    exact (width_said (width.2 part meant)).mp (said.2 part meant) lost
  · intro whole
    refine ⟨⟨width.1, fun part meant => ?_⟩, query⟩
    apply (width_said (width.2 part meant)).mpr
    intro lost
    exact whole ⟨part, meant, lost⟩

theorem selector_said {v : Value} (read : Decode.selector v.json.sorted = .ok spec) : v.SaysSelector spec := by
  rcases Decode.selector_read read with ⟨s, text, rfl⟩ | ⟨ms, s, opened, held, rfl⟩
  · exact string_json.mp (string_ok.mpr text)
  · have meant : Json.Part ["regex"] 0 v.json.sorted (.string s) := by
      rw [opened]
      exact .member List.mem_cons_self held
    obtain ⟨part, meant, same⟩ := (part_json (by decide)).mp meant
    obtain rfl := string_json.mp (string_ok.mpr same.symm)
    cases meant with
    | member named held =>
      cases List.mem_singleton.mp named
      exact ⟨_, rfl, held⟩
    | item =>
      rw [json_array] at opened
      cases opened

theorem patterns_said {v : Value} (read : Decode.exclude v.json.sorted = .ok spec) : v.SaysPatterns spec := by
  have read := Decode.exclude_ok.mp read
  cases spec with
  | pattern p => exact string_json.mp (string_ok.mpr read)
  | list ps => exact strings_json.mp (Decode.strings_ok.mpr read)

theorem designs_said {items : List Value}
    (read : List.Forall₂ (fun item spec => Decode.design item.json.sorted = .ok spec) items specs) :
    List.Forall₂ SaysDesign items specs ↔ ¬∃ item ∈ items, item.LosesWidth := by
  induction read with
  | nil => simp
  | cons first _ ih => simp [ih, design_said first]

end Toml.Value

theorem Kind.read_said {kind : Kind} {v : Toml.Value} {a : kind.Carrier} (read : kind.read v.json.sorted = .ok a) :
    kind.Says v a ↔ ¬kind.Loses v := by
  cases kind with
  | text => exact iff_of_true (Toml.Value.string_json.mp read) id
  | flag => exact iff_of_true (Toml.Value.bool_json.mp read) id
  | count => exact iff_of_true (Toml.Value.word32_json.mp read) id
  | number => exact iff_of_true (Toml.Value.number_json.mp read).1 id
  | texts => exact iff_of_true (Toml.Value.strings_json.mp read) id
  | selectors =>
    obtain ⟨items, rfl, each⟩ := Toml.Value.list_json.mp read
    exact iff_of_true ⟨items, rfl, each.imp fun _ _ => Toml.Value.selector_said⟩ id
  | width => exact Toml.Value.width_said read
  | designs =>
    obtain ⟨items, rfl, each⟩ := Toml.Value.list_json.mp read
    simpa [Says, Toml.Value.Lists, Loses] using Toml.Value.designs_said each
  | exclusion => exact iff_of_true (Toml.Value.patterns_said read) id

namespace Config
open Toml (Value)

-- What an option is set to, under any of its names.
def Sets (table : Toml.Table) (key : OptionKey) (v : Value) : Prop := ∃ name ∈ key.spellings, last? name table = some v

-- An option is there, with the value that was written.
def Holds (o : Overrides) (key : OptionKey) (v : Value) : Prop := ∃ a, o.get key = some a ∧ key.kind.Says v a

def Lost (key : OptionKey) (v : Value) : Prop := v.Unsayable ∨ key.kind.Loses v

-- The configuration is refused, in reading or in checking, or no option that it sets is dropped.
def Kept (path : String) (table : Toml.Table) : Prop :=
  (∃ e, ofDocument path table.json = .error e) ∨
    ∃ o, ofDocument path table.json = .ok o ∧
      ((∃ e, Settings.ofOverrides o = .error e) ∨ ∀ key v, Sets table key v → Holds o key v)

section Loaded
variable {path : String} {table : Toml.Table} {key : OptionKey} {v : Value}

theorem sets_meant (sets : Sets table key v) : Part key.spellings key.place table.json.sorted v.json.sorted := by
  obtain ⟨name, spelled, held⟩ := sets
  have plain : "datetime" ∉ key.spellings := by cases key <;> decide
  exact (Value.part_json plain).mpr ⟨v, .member spelled held, rfl⟩

theorem sets_read (loaded : ofDocument path table.json = .ok o) (sets : Sets table key v) :
    option key.kind.read v.json.sorted = .ok (o.get key) :=
  Overrides.ofJson_gives (mapError_ok.mp loaded) key (sets_meant sets)

theorem holds_exact (loaded : ofDocument path table.json = .ok o) (sets : Sets table key v) :
    Holds o key v ↔ ¬Lost key v := by
  rcases option_ok.mp (sets_read loaded sets) with ⟨null, absent⟩ | ⟨sayable, a, read, given⟩
  · have unsayable := Value.json_null.mp null
    simp [Holds, Lost, absent, unsayable]
  · have sayable : ¬v.Unsayable := mt Value.json_null.mpr sayable
    simp [Holds, Lost, given, sayable, Kind.read_said read]

theorem unsayable_open (loaded : ofDocument path table.json = .ok o) (sets : Sets table key v) (unsayable : v.Unsayable) :
    o.get key = none := by
  have read := sets_read loaded sets
  rw [Value.json_null.mpr unsayable] at read
  exact (Except.ok.inj read).symm

theorem overrides_table (toml : isToml path = true) (parsed : Toml.ofText? text = some table) :
    overrides path text = ofDocument path table.json := by
  simp only [overrides, document, toml, parsed]
  rfl

end Loaded

-- An option that is set to a number that is infinite or none is left open.
theorem overrides_keeps (path : String) (table : Toml.Table) :
    (∀ text, isToml path = true → Toml.ofText? text = some table →
        overrides path text = ofDocument path table.json) ∧
      (Kept path table ↔ ¬∃ o settings, ofDocument path table.json = .ok o ∧ Settings.ofOverrides o = .ok settings ∧
        ∃ key v, Sets table key v ∧ Lost key v) ∧
      ∀ o key v, ofDocument path table.json = .ok o → Sets table key v →
        (Holds o key v ↔ ¬Lost key v) ∧ (v.Unsayable → o.get key = none) := by
  refine ⟨fun text => overrides_table, ⟨?_, ?_⟩, ?_⟩
  · rintro kept ⟨o, settings, loaded, merged, key, v, sets, lost⟩
    rcases kept with ⟨e, refused⟩ | ⟨o', loaded', ⟨e, refused⟩ | held⟩
    · rw [loaded] at refused
      cases refused
    · cases Except.ok.inj (loaded.symm.trans loaded')
      rw [merged] at refused
      cases refused
    · cases Except.ok.inj (loaded.symm.trans loaded')
      exact (holds_exact loaded sets).mp (held key v sets) lost
  · intro whole
    cases loaded : ofDocument path table.json with
    | error e => exact .inl ⟨e, loaded⟩
    | ok o =>
      refine .inr ⟨o, loaded, ?_⟩
      cases merged : Settings.ofOverrides o with
      | error e => exact .inl ⟨e, rfl⟩
      | ok settings =>
        refine .inr fun key v sets => (holds_exact loaded sets).mpr fun lost => whole ?_
        exact ⟨o, settings, loaded, merged, key, v, sets, lost⟩
  · intro o key v loaded sets
    exact ⟨holds_exact loaded sets, unsayable_open loaded sets⟩

-- A minimum that is infinite, a switch, and a width whose fallback is no number

def partlyLost : Toml.Table :=
  [("minPixelValue", .float (.infinite false)), ("replace", .boolean false),
    ("viewportWidth", .table [("byPath", .array []), ("fallback", .float .nan)])]

theorem partlyLost_parsed : Toml.ofText?
    "minPixelValue = inf\nreplace = false\nviewportWidth = \x7bbyPath = [], fallback = nan\x7d" = some partlyLost := by
  cbv

theorem overrides_keeps_partly :
    let o : Overrides := { Overrides.none with replace := some false, viewportWidth := some (.byPath [] none) }
    overrides "pxv.toml" "minPixelValue = inf\nreplace = false\nviewportWidth = \x7bbyPath = [], fallback = nan\x7d" =
        .ok o ∧
      ¬Kept "pxv.toml" partlyLost ∧ Holds o .replace (.boolean false) ∧ o.get .minPixelValue = none ∧
      ∀ v, Sets partlyLost .viewportWidth v → ¬Holds o .viewportWidth v := by
  intro o
  obtain ⟨parsed, kept, each⟩ := overrides_keeps "pxv.toml" partlyLost
  have loaded : ofDocument "pxv.toml" partlyLost.json = .ok o := by rfl
  have minimum : Sets partlyLost .minPixelValue (.float (.infinite false)) := ⟨_, List.mem_cons_self, rfl⟩
  have switch : Sets partlyLost .replace (.boolean false) := ⟨_, List.mem_cons_self, rfl⟩
  have unsayable : (Value.float (.infinite false)).Unsayable := ⟨_, rfl, rfl⟩
  refine ⟨?_, ?_, ?_, ?_, ?_⟩
  · rw [parsed _ (by decide +kernel) partlyLost_parsed, loaded]
  · intro all
    exact kept.mp all ⟨o, _, loaded, rfl, .minPixelValue, _, minimum, .inl unsayable⟩
  · apply (each o _ _ loaded switch).1.mpr
    rintro (⟨x, ⟨⟩, -⟩ | ⟨⟨⟩⟩)
  · exact (each o _ _ loaded minimum).2 unsayable
  · rintro v sets held
    refine (each o _ _ loaded sets).1.mp held (.inr ?_)
    obtain ⟨name, spelled, here⟩ := sets
    cases List.mem_singleton.mp spelled
    cases here
    exact ⟨.float .nan, .member List.mem_cons_self rfl, .nan, rfl, rfl⟩

theorem minimum_dropped :
    let table : Toml.Table := [("minPixelValue", .float (.infinite false))]
    ofDocument "pxv.toml" table.json = .ok Overrides.none ∧ (∃ settings, Settings.ofOverrides .none = .ok settings) ∧
      Sets table .minPixelValue (.float (.infinite false)) ∧ ¬Kept "pxv.toml" table := by
  intro table
  have loaded : ofDocument "pxv.toml" table.json = .ok Overrides.none := by rfl
  have merged : ∃ settings, Settings.ofOverrides .none = .ok settings := ⟨_, rfl⟩
  have minimum : Sets table .minPixelValue (.float (.infinite false)) := ⟨_, List.mem_cons_self, rfl⟩
  refine ⟨loaded, merged, minimum, ?_⟩
  rintro (⟨e, refused⟩ | ⟨o, loaded', ⟨e, refused⟩ | held⟩)
  · rw [loaded] at refused
    cases refused
  · cases Except.ok.inj (loaded.symm.trans loaded')
    obtain ⟨settings, merged⟩ := merged
    rw [merged] at refused
    cases refused
  · cases Except.ok.inj (loaded.symm.trans loaded')
    obtain ⟨x, given, -⟩ := held _ _ minimum
    cases given

end Config
end FluidSheet
