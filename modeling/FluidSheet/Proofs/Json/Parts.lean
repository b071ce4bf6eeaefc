import Mathlib
import FluidSheet.Proofs.Json.Decode
import FluidSheet.Proofs.Json.Sorted

namespace FluidSheet.Json

-- The member under one of its names, or the item in its place.
inductive Part (names : List String) (place : Nat) : Json → Json → Prop where
  | member (named : name ∈ names) (held : get? name members = some part) : Part names place (.object members) part
  | item (held : items[place]? = some part) : Part names place (.array items) part

-- The document has such a part, and every one it has is as it should be.
def Given (names : List String) (place : Nat) (j : Json) (Means : Json → Prop) : Prop :=
  (∃ part, Part names place j part) ∧ ∀ part, Part names place j part → Means part

structure Owns (fields : List (Field α σ)) (place : Nat) (share : σ → γ) (Gives : α → γ → Prop) : Prop where
  gives : ∀ field part s t, fields[place]? = some field → field.take part s = .ok t → Gives part (share t)
  keeps : ∀ i field part s t, i ≠ place → fields[i]? = some field → field.take part s = .ok t → share t = share s

section Filling
variable {read : Json → Except ReadError β} {fill : β → σ → σ} {read' : Json → Except ReadError γ} {fill' : γ → σ → σ}

def filling (names : List String) (presence : Presence) (read : Json → Except ReadError β) (fill : β → σ → σ) :
    Field Json σ :=
  ⟨names, presence, fun j s => do return fill (← read j) s⟩

theorem filling_taken (taken : (filling names presence read fill).take part s = .ok t) :
    ∃ b, read part = .ok b ∧ t = fill b s := by
  obtain ⟨b, given, filled⟩ := Decode.bind_ok taken
  cases filled
  exact ⟨b, given, rfl⟩

theorem Owns.ofFilling {fields : List (Field Json σ)} {share : σ → β}
    (here : fields[place]? = some (filling names presence read fill)) (gives : ∀ b s, share (fill b s) = b)
    (keeps : ∀ i field part s t, i ≠ place → fields[i]? = some field → field.take part s = .ok t → share t = share s) :
    Owns fields place share fun part b => read part = .ok b where
  gives field part s t here' taken := by
    cases Option.some.inj (here.symm.trans here')
    obtain ⟨b, given, rfl⟩ := filling_taken taken
    rw [given, gives]
  keeps := keeps

theorem Owns.first {share : σ → β} (gives : ∀ b s, share (fill b s) = b) (keeps : ∀ c s, share (fill' c s) = share s) :
    Owns [filling names presence read fill, filling names' presence' read' fill'] 0 share
      fun part b => read part = .ok b := by
  refine .ofFilling rfl gives fun i field part s t other here taken => ?_
  match i with
  | 0 => exact absurd rfl other
  | 1 =>
    cases here
    obtain ⟨c, -, rfl⟩ := filling_taken taken
    exact keeps c s

theorem Owns.second {share : σ → γ} (gives : ∀ c s, share (fill' c s) = c) (keeps : ∀ b s, share (fill b s) = share s) :
    Owns [filling names presence read fill, filling names' presence' read' fill'] 1 share
      fun part c => read' part = .ok c := by
  refine .ofFilling rfl gives fun i field part s t other here taken => ?_
  match i with
  | 0 =>
    cases here
    obtain ⟨b, -, rfl⟩ := filling_taken taken
    exact keeps b s
  | 1 => exact absurd rfl other

end Filling

theorem Owns.tail {fields : List (Field α σ)} (owns : Owns (field :: fields) (place + 1) share Gives) :
    Owns fields place share Gives where
  gives field' := owns.gives field'
  keeps i field' part s t other here := owns.keeps (i + 1) field' part s t (by omega) here

theorem place_field {fields : List (Field α σ)} (placed : Field.place? fields k = some i) :
    ∃ field, fields[i]? = some field ∧ k ∈ field.names := by
  obtain ⟨inside, here, -⟩ := List.findIdx?_eq_some_iff_getElem.mp placed
  exact ⟨fields[i], List.getElem?_eq_getElem inside, List.contains_iff_mem.mp here⟩

theorem takeMembers_cons {access : Access α} {fields : List (Field α σ)} (keys : access.Keys wrap)
    (took : takeMembers access fields seen s ((wrap k, v) :: ms) = .ok (seen', t)) :
    Field.place? fields k = none ∧ takeMembers access fields seen s ms = .ok (seen', t) ∨
      ∃ i field s', Field.place? fields k = some i ∧ fields[i]? = some field ∧ i ∉ seen ∧ field.take v s = .ok s' ∧
        takeMembers access fields (i :: seen) s' ms = .ok (seen', t) := by
  rw [takeMembers, keys k] at took
  obtain ⟨_, ⟨rfl⟩, took⟩ := Decode.bind_ok took
  cases placed : Field.place? fields k with
  | none =>
    rw [placed] at took
    obtain ⟨_, -, took⟩ := Decode.bind_ok took
    exact .inl ⟨rfl, took⟩
  | some i =>
    obtain ⟨field, here, -⟩ := place_field placed
    simp only [placed, here] at took
    split_ifs at took with again
    · cases took
    obtain ⟨s', taken, took⟩ := Decode.bind_ok took
    exact .inr ⟨i, field, s', rfl, here, fun member => again (List.contains_iff_mem.mpr member), taken, took⟩

section Members
variable {access : Access α} {fields : List (Field α σ)} {ms : List (String × α)}

theorem takeMembers_once (keys : access.Keys wrap)
    (took : takeMembers access fields seen s (ms.map fun (k, v) => (wrap k, v)) = .ok (seen', t)) (given : place ∈ seen) :
    ∀ m ∈ ms, Field.place? fields m.1 ≠ some place := by
  induction ms generalizing seen s with
  | nil => nofun
  | cons m ms ih =>
    rw [List.forall_mem_cons]
    rcases takeMembers_cons keys took with ⟨none, took⟩ | ⟨i, field, s', placed, here, fresh, taken, took⟩
    · exact ⟨none.symm ▸ nofun, ih took given⟩
    · refine ⟨fun same => fresh ?_, ih took (List.mem_cons_of_mem _ given)⟩
      rw [Option.some.inj (placed.symm.trans same)]
      exact given

theorem takeMembers_keeps (keys : access.Keys wrap) (owns : Owns fields place share Gives)
    (took : takeMembers access fields seen s (ms.map fun (k, v) => (wrap k, v)) = .ok (seen', t))
    (absent : ∀ m ∈ ms, Field.place? fields m.1 ≠ some place) : share t = share s ∧ (place ∈ seen' → place ∈ seen) := by
  induction ms generalizing seen s with
  | nil =>
    cases took
    exact ⟨rfl, id⟩
  | cons m ms ih =>
    rw [List.forall_mem_cons] at absent
    rcases takeMembers_cons keys took with ⟨none, took⟩ | ⟨i, field, s', placed, here, fresh, taken, took⟩
    · exact ih took absent.2
    · have other : i ≠ place := fun same => absent.1 (same ▸ placed)
      obtain ⟨same, before⟩ := ih took absent.2
      refine ⟨same.trans (owns.keeps i field m.2 s s' other here taken), fun member => ?_⟩
      exact (List.mem_cons.mp (before member)).resolve_left other.symm

theorem takeMembers_gives (keys : access.Keys wrap) (owns : Owns fields place share Gives)
    (took : takeMembers access fields seen s (ms.map fun (k, v) => (wrap k, v)) = .ok (seen', t)) :
    ∀ m ∈ ms, Field.place? fields m.1 = some place → Gives m.2 (share t) := by
  induction ms generalizing seen s with
  | nil => nofun
  | cons m ms ih =>
    rw [List.forall_mem_cons]
    rcases takeMembers_cons keys took with ⟨none, took⟩ | ⟨i, field, s', placed, here, fresh, taken, took⟩
    · exact ⟨fun named => (nomatch none.symm.trans named), ih took⟩
    · refine ⟨fun named => ?_, ih took⟩
      obtain rfl := Option.some.inj (placed.symm.trans named)
      have once := takeMembers_once keys took List.mem_cons_self
      rw [(takeMembers_keeps keys owns took once).1]
      exact owns.gives field m.2 s s' here taken

end Members

section Items
variable {fields : List (Field α σ)}

theorem takeItems_cons {field : Field α σ}
    (took : takeItems wanted n s (field :: fields) (item :: items) = .ok (t, extra)) :
    ∃ s', field.take item s = .ok s' ∧ takeItems wanted (n + 1) s' fields items = .ok (t, extra) :=
  Decode.bind_ok took

theorem takeItems_none (took : takeItems wanted n s fields [] = .ok (t, extra)) :
    t = s ∧ ∀ field ∈ fields, field.presence = .free := by
  induction fields generalizing n with
  | nil =>
    cases took
    exact ⟨rfl, nofun⟩
  | cons field fields ih =>
    rw [takeItems] at took
    split_ifs at took with free
    rw [List.forall_mem_cons]
    exact ⟨(ih took).1, not_not.mp free, (ih took).2⟩

theorem takeItems_keeps {share : σ → γ}
    (keeps : ∀ field ∈ fields, ∀ part s t, field.take part s = .ok t → share t = share s)
    (took : takeItems wanted n s fields items = .ok (t, extra)) : share t = share s := by
  induction fields generalizing n s items with
  | nil =>
    cases took
    rfl
  | cons field fields ih =>
    rw [List.forall_mem_cons] at keeps
    cases items with
    | nil => rw [(takeItems_none took).1]
    | cons item items =>
      obtain ⟨s', taken, took⟩ := takeItems_cons took
      rw [ih keeps.2 took, keeps.1 item s s' taken]

-- Induction on the fields, with the place counted from the one that is next.
theorem takeItems_gives (owns : Owns fields place share Gives) (took : takeItems wanted n s fields items = .ok (t, extra))
    (here : fields[place]? = some field) :
    match items[place]? with
    | some part => Gives part (share t)
    | none => share t = share s ∧ field.presence = .free := by
  induction fields generalizing n s items place with
  | nil => cases here
  | cons first fields ih =>
    cases items with
    | nil =>
      obtain ⟨rfl, free⟩ := takeItems_none took
      exact ⟨rfl, free field (List.mem_of_getElem? here)⟩
    | cons item items =>
      obtain ⟨s', taken, took⟩ := takeItems_cons took
      cases place with
      | zero =>
        have keeps : ∀ field ∈ fields, ∀ part s t, field.take part s = .ok t → share t = share s := by
          intro field member part s t taken
          obtain ⟨i, here⟩ := List.mem_iff_getElem?.mp member
          exact owns.keeps (i + 1) field part s t (Nat.succ_ne_zero i) here taken
        rw [List.getElem?_cons_zero]
        dsimp only
        rw [takeItems_keeps keeps took]
        exact owns.gives first item s s' rfl taken
      | succ place =>
        rw [List.getElem?_cons_succ]
        have rest := ih owns.tail took here
        cases found : items[place]? with
        | some part =>
          rw [found] at rest
          exact rest
        | none =>
          rw [found] at rest
          refine ⟨rest.1.trans ?_, rest.2⟩
          exact owns.keeps 0 first item s s' (Nat.succ_ne_zero place).symm rfl taken

end Items

theorem checkPresent_required {fields : List (Field α σ)} (present : checkPresent fields seen = .ok ())
    (here : fields[i]? = some field) (required : field.presence = .required) : i ∈ seen := by
  by_contra missing
  unfold checkPresent at present
  split at present
  · cases present
  · rename_i none
    have complete := List.find?_eq_none.mp none (field, i) (List.mem_zipIdx_iff_getElem?.mpr here)
    simp [required, missing] at complete

theorem get_none {ms : List (String × Json)} (absent : get? name ms = none) : ∀ m ∈ ms, m.1 ≠ name := by
  induction ms with
  | nil => nofun
  | cons m ms ih =>
    rw [get?] at absent
    split_ifs at absent with here
    rw [List.forall_mem_cons]
    exact ⟨here, ih absent⟩

-- Where there is no part for it, a field was left as it was and did not have to be there.
theorem record_share {fields : List (Field Json σ)} (share : σ → γ) (Gives : Json → γ → Prop)
    (owns : Owns fields place share Gives) (here : fields[place]? = some field)
    (names : ∀ name ∈ field.names, Field.place? fields name = some place)
    (read : Decode.record origin title fields init j = .ok s) :
    (∀ part, Part field.names place j part → Gives part (share s)) ∧
      ((¬∃ part, Part field.names place j part) → share s = share init ∧ field.presence ≠ .required) := by
  cases j with
  | object members =>
    have keys : Access.json.Keys Json.string := fun _ => rfl
    obtain ⟨⟨seen, t⟩, took, ran⟩ := Decode.bind_ok read
    obtain ⟨_, present, ran⟩ := Decode.bind_ok ran
    cases ran
    constructor
    · intro part meant
      cases meant with
      | member named held => exact takeMembers_gives keys owns took _ (get_mem held) (names _ named)
    · intro absent
      have other : ∀ m ∈ members, Field.place? fields m.1 ≠ some place := by
        intro m member placed
        obtain ⟨field', here', named⟩ := place_field placed
        obtain rfl := Option.some.inj (here.symm.trans here')
        cases held : get? m.1 members with
        | some part => exact absent ⟨part, .member named held⟩
        | none => exact get_none held m member rfl
      obtain ⟨same, before⟩ := takeMembers_keeps keys owns took other
      exact ⟨same, fun required => nomatch before (checkPresent_required present here required)⟩
  | array items =>
    obtain ⟨⟨t, extra⟩, took, ran⟩ := Decode.bind_ok read
    have same : t = s := by
      dsimp only at ran
      split_ifs at ran
      cases ran
      rfl
    subst same
    have given := takeItems_gives owns took here
    constructor
    · intro part meant
      cases meant with
      | item held =>
        rw [held] at given
        exact given
    · intro absent
      cases held : items[place]? with
      | some part => exact absurd ⟨part, .item held⟩ absent
      | none =>
        rw [held] at given
        exact ⟨given.1, given.2.symm ▸ nofun⟩
  | null | bool | number | string => cases read

theorem record_required {fields : List (Field Json σ)} (share : σ → γ) (Gives : Json → γ → Prop)
    (owns : Owns fields place share Gives) (here : fields[place]? = some field)
    (names : ∀ name ∈ field.names, Field.place? fields name = some place) (required : field.presence = .required)
    (read : Decode.record origin title fields init j = .ok s) :
    Given field.names place j fun part => Gives part (share s) := by
  obtain ⟨gives, left⟩ := record_share share Gives owns here names read
  refine ⟨?_, gives⟩
  by_contra absent
  exact (left absent).2 required

end FluidSheet.Json
