import Mathlib
import FluidSheet.Toml.Value
import FluidSheet.Proofs.Json.Parts

-- Only numbers that are infinite or none are lost: these become null.

namespace FluidSheet.Toml

open Json Json.Decode

namespace Value

def Unsayable (v : Value) : Prop := ∃ x, v = .float x ∧ x.isFinite = false

def number? : Value → Option Binary64
  | integer n => some (Binary64.ofInt n)
  | float x => some x
  | _ => none

inductive Part (names : List String) (place : Nat) : Value → Value → Prop where
  | member (named : name ∈ names) (held : last? name members = some part) : Part names place (.table members) part
  | item (held : items[place]? = some part) : Part names place (.array items) part

def Given (names : List String) (place : Nat) (v : Value) (Means : Value → Prop) : Prop :=
  (∃ part, Part names place v part) ∧ ∀ part, Part names place v part → Means part

@[simp] theorem itemsJson_map (items : List Value) : itemsJson items = items.map json := by
  induction items with
  | nil => rfl
  | cons v rest ih => simp [itemsJson, ih]

@[simp] theorem membersJson_map (members : List (String × Value)) :
    membersJson members = members.map fun m => (m.1, m.2.json) := by
  induction members with
  | nil => rfl
  | cons m rest ih =>
    obtain ⟨k, v⟩ := m
    simp [membersJson, ih]

@[simp] theorem json_array (items : List Value) :
    (array items).json.sorted = .array (items.map fun v => v.json.sorted) := by
  simp [json, sorted, sortedItems_map]

theorem json_float (x : Binary64) : (float x).json.sorted = if x.isFinite then .number (.real x) else .null := by
  cases finite : x.isFinite <;> simp [json, real, sorted, finite]

theorem json_table (members : List (String × Value)) : ∃ ms, (table members).json.sorted = .object ms ∧
    ∀ name, get? name ms = (last? name members).map fun v => v.json.sorted := by
  refine ⟨_, rfl, fun name => ?_⟩
  simp [get_sorted, last_map, Function.comp_def]

theorem json_moment (text : String) : (moment text).json.sorted = .object [("datetime", .string text)] := rfl

theorem json_null {v : Value} : v.json.sorted = .null ↔ v.Unsayable := by
  cases v with
  | float x => simp [json_float, Unsayable]
  | _ => simp [Unsayable, json, sorted]

theorem string_json {v : Value} : Decode.string v.json.sorted = .ok s ↔ v = .string s := by
  cases v with
  | float x =>
    rw [json_float]
    split <;> simp [string_ok]
  | _ => simp [string_ok, json, sorted]

theorem bool_json {v : Value} : bool v.json.sorted = .ok b ↔ v = .boolean b := by
  cases v with
  | float x =>
    rw [json_float]
    split <;> simp [bool_ok]
  | _ => simp [bool_ok, json, sorted]

theorem word32_json {v : Value} : word32 v.json.sorted = .ok n ↔ v = .integer n.toNat := by
  cases v with
  | float x =>
    rw [json_float]
    split <;> simp [word32_ok, nat]
  | _ => simp [word32_ok, json, sorted, nat]

theorem number_json {v : Value} : Decode.number v.json.sorted = .ok x ↔ v.number? = some x ∧ ¬v.Unsayable := by
  cases v with
  | float y =>
    rw [json_float]
    split <;> simp_all [number_ok, number?, Unsayable, Number.toBinary64]
  | _ => simp [number_ok, json, sorted, number?, Unsayable, Number.toBinary64]

theorem list_json {read : Json → Except ReadError α} {v : Value} : list read v.json.sorted = .ok as ↔
    ∃ items, v = .array items ∧ List.Forall₂ (fun item a => read item.json.sorted = .ok a) items as := by
  cases v with
  | array items => simp [list_ok, List.forall₂_map_left_iff]
  | float x =>
    rw [json_float]
    split <;> simp [list_ok]
  | _ => simp [list_ok, json, sorted]

theorem strings_json {v : Value} : list Decode.string v.json.sorted = .ok ps ↔ v = .array (ps.map .string) := by
  have each (items : List Value) : List.Forall₂ (fun (v : Value) p => v = .string p) items ps ↔ items = ps.map .string := by
    rw [← List.forall₂_map_right_iff, List.forall₂_eq_eq_eq]
  simp only [list_json, string_json, each, exists_eq_right]

-- A date has a member too, under a name of its own.
theorem part_json {v : Value} (plain : "datetime" ∉ names) :
    Json.Part names place v.json.sorted j ↔ ∃ part, Part names place v part ∧ j = part.json.sorted := by
  constructor
  · intro meant
    cases v with
    | table members =>
      obtain ⟨ms, opened, held'⟩ := json_table members
      rw [opened] at meant
      cases meant with
      | member named held =>
        rw [held', Option.map_eq_some_iff] at held
        obtain ⟨part, held, rfl⟩ := held
        exact ⟨part, .member named held, rfl⟩
    | array items =>
      rw [json_array] at meant
      cases meant with
      | item held =>
        rw [List.getElem?_map, Option.map_eq_some_iff] at held
        obtain ⟨part, held, rfl⟩ := held
        exact ⟨part, .item held, rfl⟩
    | moment text =>
      rw [json_moment] at meant
      cases meant with
      | member named held =>
        rw [get?] at held
        split_ifs at held with here
        · exact absurd (here ▸ named) plain
        · cases held
    | float x =>
      rw [json_float] at meant
      split at meant <;> cases meant
    | string | integer | boolean => cases meant
  · rintro ⟨part, meant, rfl⟩
    cases meant with
    | member named held =>
      obtain ⟨ms, opened, held'⟩ := json_table _
      rw [opened]
      exact .member named (by simp [held', held])
    | item held =>
      rw [json_array]
      exact .item (by simp [held])

theorem given_json {v : Value} {Means : Json → Prop} (plain : "datetime" ∉ names)
    (given : Json.Given names place v.json.sorted Means) : Given names place v fun part => Means part.json.sorted := by
  obtain ⟨⟨j, meant⟩, means⟩ := given
  constructor
  · obtain ⟨part, meant, -⟩ := (part_json plain).mp meant
    exact ⟨part, meant⟩
  · intro part meant
    exact means _ ((part_json plain).mpr ⟨part, meant, rfl⟩)

theorem Given.mono {v : Value} (given : Given names place v Means) (weaker : ∀ part, Means part → Means' part) :
    Given names place v Means' :=
  ⟨given.1, fun part meant => weaker part (given.2 part meant)⟩

end Value
end FluidSheet.Toml
