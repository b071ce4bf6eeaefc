import Mathlib
import FluidSheet.Json.Record

-- In any order, where each field has a part of the state to itself.

namespace FluidSheet.Json

inductive Filled (fields : List (Field α σ)) : Nat → σ → List (String × α) → σ → Prop where
  | all (last : fields.length ≤ n) : Filled fields n s [] s
  | absent (here : fields[n]? = some field) (free : field.presence ≠ .required) (more : Filled fields (n + 1) s ms s') :
    Filled fields n s ms s'
  | present (here : fields[n]? = some field) (named : Field.place? fields k = some n) (taken : field.take v s = .ok t)
    (more : Filled fields (n + 1) t ms s') : Filled fields n s ((k, v) :: ms) s'

def Access.Keys (access : Access α) (wrap : String → α) : Prop := ∀ k, access.key (wrap k) = .ok k

theorem checkPresent_all {fields : List (Field α σ)}
    (all : ∀ i field, fields[i]? = some field → field.presence = .required → i ∈ seen) :
    checkPresent fields seen = .ok () := by
  unfold checkPresent
  split
  · rename_i field i found
    have here := List.mem_zipIdx_iff_getElem?.mp (List.mem_of_find?_eq_some found)
    have missing := List.find?_some found
    rw [Bool.and_eq_true, decide_eq_true_eq] at missing
    have member := all i field here missing.1
    simp [member] at missing
  · rfl

-- The places taken so far lie before the next, so no field is taken twice.
theorem Filled.takes {access : Access α} {fields : List (Field α σ)} (keys : access.Keys wrap)
    (filled : Filled fields n s ms s') (seen : List Nat) (before : ∀ i ∈ seen, i < n) :
    ∃ seen', takeMembers access fields seen s (ms.map fun (k, v) => (wrap k, v)) = .ok (seen', s') ∧
      (∀ i ∈ seen, i ∈ seen') ∧
      ∀ i field, n ≤ i → fields[i]? = some field → field.presence = .required → i ∈ seen' := by
  induction filled generalizing seen with
  | all last =>
    refine ⟨seen, rfl, fun _ member => member, fun i field reached here => ?_⟩
    have inside := (List.getElem?_eq_some_iff.mp here).1
    omega
  | absent here free more ih =>
    obtain ⟨seen', taken, kept, rest⟩ := ih seen fun i member => Nat.lt_succ_of_lt (before i member)
    refine ⟨seen', taken, kept, fun i field reached here' required => ?_⟩
    rcases Nat.eq_or_lt_of_le reached with rfl | later
    · rw [here] at here'
      cases here'
      exact absurd required free
    · exact rest i field later here' required
  | @present n field k v s t ms s' here named taken more ih =>
    have fresh : seen.contains n = false := by
      rw [List.contains_eq_mem, decide_eq_false_iff_not]
      exact fun member => Nat.lt_irrefl n (before n member)
    obtain ⟨seen', took, kept, rest⟩ := ih (n :: seen) fun i member => by
      rcases List.mem_cons.mp member with rfl | old
      · exact Nat.lt_succ_self _
      · exact Nat.lt_succ_of_lt (before i old)
    refine ⟨seen', ?_, fun i member => kept i (List.mem_cons_of_mem _ member), fun i field' reached here' required => ?_⟩
    · rw [List.map_cons, takeMembers, keys k, ← took]
      simp only [named, here, fresh, taken, bind, Except.bind]
      rfl
    · rcases Nat.eq_or_lt_of_le reached with rfl | later
      · exact kept _ List.mem_cons_self
      · exact rest i field' later here' required

theorem Filled.ofMembers {access : Access α} {fields : List (Field α σ)} (keys : access.Keys wrap)
    (filled : Filled fields 0 s ms s') :
    Json.ofMembers access fields s (ms.map fun (k, v) => (wrap k, v)) = .ok s' := by
  obtain ⟨seen, taken, -, rest⟩ := filled.takes keys [] fun _ member => nomatch member
  have all : checkPresent fields seen = .ok () := checkPresent_all fun i field => rest i field (Nat.zero_le i)
  simp only [Json.ofMembers, taken, all, bind, Except.bind]
  rfl

-- `state` is what has come together once the fields at some places are taken.
def Fills (fields : List (Field α σ)) (state : List Nat → σ) (m : String × α) : Prop :=
  ∃ i field, Field.place? fields m.1 = some i ∧ fields[i]? = some field ∧
    ∀ seen, field.take m.2 (state seen) = .ok (state (i :: seen))

structure Gathers (fields : List (Field α σ)) (state : List Nat → σ) (ms : List (String × α)) (s : σ) : Prop where
  each : ∀ m ∈ ms, Fills fields state m
  apart : (ms.map fun m => Field.place? fields m.1).Nodup
  required : ∀ i field, fields[i]? = some field → field.presence = .required →
    ∃ m ∈ ms, Field.place? fields m.1 = some i
  whole : ∀ seen : List Nat, (∀ m ∈ ms, ∀ i, Field.place? fields m.1 = some i → i ∈ seen) → state seen = s

theorem Gathers.perm {fields : List (Field α σ)} (gathers : Gathers fields state ms s) (moved : ms'.Perm ms) :
    Gathers fields state ms' s where
  each m member := gathers.each m (moved.mem_iff.mp member)
  apart := (moved.map _).nodup_iff.mpr gathers.apart
  required i field here required := by
    obtain ⟨m, member, named⟩ := gathers.required i field here required
    exact ⟨m, moved.mem_iff.mpr member, named⟩
  whole seen all := gathers.whole seen fun m member => all m (moved.mem_iff.mpr member)

-- Induction on the members still to come; none of them names a place that is taken.
theorem takeMembers_each {access : Access α} {fields : List (Field α σ)} {ms : List (String × α)} (keys : access.Keys wrap)
    (each : ∀ m ∈ ms, Fills fields state m)
    (apart : (ms.map fun m => Field.place? fields m.1).Nodup) (seen : List Nat)
    (fresh : ∀ m ∈ ms, ∀ i ∈ seen, Field.place? fields m.1 ≠ some i) :
    ∃ seen', takeMembers access fields seen (state seen) (ms.map fun (k, v) => (wrap k, v)) = .ok (seen', state seen') ∧
      (∀ i ∈ seen, i ∈ seen') ∧ ∀ m ∈ ms, ∀ i, Field.place? fields m.1 = some i → i ∈ seen' := by
  induction ms generalizing seen with
  | nil => exact ⟨seen, rfl, fun _ member => member, nofun⟩
  | cons m ms ih =>
    obtain ⟨k, v⟩ := m
    obtain ⟨i, field, named, here, taken⟩ := each (k, v) List.mem_cons_self
    obtain ⟨other, apart⟩ := List.nodup_cons.mp apart
    have untaken : seen.contains i = false := by
      rw [List.contains_eq_mem, decide_eq_false_iff_not]
      exact fun member => fresh (k, v) List.mem_cons_self i member named
    have fresh' : ∀ m ∈ ms, ∀ j ∈ i :: seen, Field.place? fields m.1 ≠ some j := by
      intro m member j among
      rcases List.mem_cons.mp among with rfl | old
      · intro same
        exact other (List.mem_map.mpr ⟨m, member, same.trans named.symm⟩)
      · exact fresh m (List.mem_cons_of_mem _ member) j old
    obtain ⟨seen', took, kept, all⟩ := ih (fun m member => each m (List.mem_cons_of_mem _ member)) apart (i :: seen) fresh'
    refine ⟨seen', ?_, fun j member => kept j (List.mem_cons_of_mem _ member), ?_⟩
    · rw [List.map_cons, takeMembers, keys k, ← took]
      simp only [named, here, untaken, taken, bind, Except.bind]
      rfl
    · intro m member j placed
      rcases List.mem_cons.mp member with rfl | later
      · rw [named] at placed
        cases placed
        exact kept i List.mem_cons_self
      · exact all m later j placed

theorem Gathers.ofMembers {access : Access α} {fields : List (Field α σ)} (keys : access.Keys wrap)
    (gathers : Gathers fields state ms s) :
    Json.ofMembers access fields (state []) (ms.map fun (k, v) => (wrap k, v)) = .ok s := by
  obtain ⟨seen, taken, -, all⟩ := takeMembers_each keys gathers.each gathers.apart [] fun _ _ _ none => nomatch none
  have present : checkPresent fields seen = .ok () := by
    refine checkPresent_all fun i field here required => ?_
    obtain ⟨m, member, named⟩ := gathers.required i field here required
    exact all m member i named
  simp only [Json.ofMembers, taken, present, gathers.whole seen all, bind, Except.bind]
  rfl

end FluidSheet.Json
