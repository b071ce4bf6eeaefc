import Mathlib
import FluidSheet.Json.Basic

namespace FluidSheet.Json

theorem put_perm {ms : List (String × Json)} (fresh : k ∉ ms.map Prod.fst) : (put k v ms).Perm ((k, v) :: ms) := by
  induction ms with
  | nil => exact .refl _
  | cons m ms ih =>
    obtain ⟨k', v'⟩ := m
    rw [List.map_cons, List.mem_cons, not_or] at fresh
    rw [put, if_neg fresh.1]
    split_ifs with before
    · exact .refl _
    · exact ((ih fresh.2).cons _).trans (.swap _ _ _)

theorem sortedMembers_perm (acc : List (String × Json)) (distinct : ((acc ++ ms).map Prod.fst).Nodup) :
    (sortedMembers acc ms).Perm (acc ++ ms.map fun m => (m.1, m.2.sorted)) := by
  induction ms generalizing acc with
  | nil => rw [sortedMembers, List.map_nil, List.append_nil]
  | cons m ms ih =>
    obtain ⟨k, v⟩ := m
    rw [List.map_append, List.map_cons, List.nodup_middle, List.nodup_cons, ← List.map_append] at distinct
    have fresh : k ∉ acc.map Prod.fst := by
      intro member
      rw [List.map_append] at distinct
      exact distinct.1 (List.mem_append_left _ member)
    have moved : (put k v.sorted acc).Perm ((k, v.sorted) :: acc) := put_perm fresh
    have distinct' : ((put k v.sorted acc ++ ms).map Prod.fst).Nodup := by
      rw [((moved.append_right ms).map Prod.fst).nodup_iff]
      exact List.nodup_cons.mpr distinct
    rw [sortedMembers]
    refine (ih _ distinct').trans ((moved.append_right _).trans ?_)
    exact List.perm_middle.symm

theorem sorted_object (distinct : (ms.map Prod.fst).Nodup) :
    ∃ ms', (Json.object ms).sorted = .object ms' ∧ ms'.Perm (ms.map fun m => (m.1, m.2.sorted)) :=
  ⟨_, by rw [sorted], sortedMembers_perm [] distinct⟩

theorem sortedItems_map (items : List Json) : sortedItems items = items.map sorted := by
  induction items with
  | nil => rfl
  | cons j items ih => rw [sortedItems, ih, List.map_cons]

theorem get_mem {ms : List (String × Json)} (found : get? k ms = some v) : (k, v) ∈ ms := by
  induction ms with
  | nil => cases found
  | cons m ms ih =>
    obtain ⟨k', v'⟩ := m
    rw [get?] at found
    split_ifs at found with here
    · cases found
      rw [here]
      exact List.mem_cons_self
    · exact List.mem_cons_of_mem _ (ih found)

-- The last value of a key, the one that counts.
def last? (key : String) : List (String × α) → Option α
  | [] => none
  | (k, v) :: rest => (last? key rest).or (if k = key then some v else none)

theorem last_map (f : α → β) (key : String) (ms : List (String × α)) :
    last? key (ms.map fun m => (m.1, f m.2)) = (last? key ms).map f := by
  induction ms with
  | nil => rfl
  | cons m ms ih =>
    obtain ⟨k, v⟩ := m
    rw [List.map_cons, last?, last?, ih]
    cases last? key ms with
    | some _ => rfl
    | none => by_cases here : k = key <;> simp [here]

theorem get_put (key k : String) (v : Json) (ms : List (String × Json)) :
    get? key (put k v ms) = (if k = key then some v else none).or (get? key ms) := by
  induction ms with
  | nil => by_cases here : k = key <;> simp [put, get?, here]
  | cons m ms ih =>
    obtain ⟨k', v'⟩ := m
    by_cases before : k < k'
    · rw [put, if_pos before, get?]
      by_cases here : k = key <;> simp [here]
    rw [put, if_neg before]
    by_cases same : k = k'
    · subst same
      rw [if_pos rfl]
      by_cases here : k = key <;> simp [get?, here]
    · rw [if_neg same, get?, get?, ih]
      by_cases other : k' = key
      · have here : k ≠ key := fun here => same (here.trans other.symm)
        simp [here, other]
      · simp [other]

theorem get_sortedMembers (key : String) (acc ms : List (String × Json)) :
    get? key (sortedMembers acc ms) = ((last? key ms).map sorted).or (get? key acc) := by
  induction ms generalizing acc with
  | nil => rfl
  | cons m ms ih =>
    obtain ⟨k, v⟩ := m
    rw [sortedMembers, ih, get_put, last?]
    cases last? key ms with
    | some _ => rfl
    | none => by_cases here : k = key <;> simp [here]

-- Put in order, an object has under each key what it had there last.
theorem get_sorted (key : String) (ms : List (String × Json)) :
    get? key (sortedMembers [] ms) = (last? key ms).map sorted := by
  rw [get_sortedMembers, get?, Option.or_none]

end FluidSheet.Json
