import Mathlib
import FluidSheet.Json.Decode
import FluidSheet.Proofs.Json.Record

namespace FluidSheet.Json.Decode

theorem take_ok {r : Except ReadError α} (read : r = .ok a) (fill : α → σ) : (do return fill (← r)) = .ok (fill a) := by
  rw [read]
  rfl

theorem record_filled (filled : Filled fields 0 init ms state) :
    record origin name fields init (.object ms) = .ok state :=
  Filled.ofMembers (fun _ => rfl) filled

theorem record_gathers (gathers : Gathers fields state ms s) :
    record origin name fields (state []) (.object ms) = .ok s :=
  gathers.ofMembers fun _ => rfl

theorem word32_count (n : UInt32) : word32 (.nat n.toNat) = .ok n := by
  have small : (n.toNat : Int) < Int.pow 2 32 := by
    have := n.toNat_lt
    show (n.toNat : Int) < 4294967296
    omega
  unfold Json.nat word32
  dsimp only
  rw [if_pos ⟨by omega, small⟩, Int.toNat_natCast, UInt32.ofNat_toNat]

theorem number_real (finite : x.isFinite = true) : number (.real x) = .ok x := by
  rw [real, if_pos finite]
  rfl

theorem number_strict (x : Binary64) : number .null ≠ .ok x := nofun

-- A reader that does not take null for a value reads the same where the value may be left open.
theorem option_reads {read : Json → Except ReadError α} (strict : ∀ a, read .null ≠ .ok a) (reads : read j = .ok a) :
    option read j = .ok (some a) := by
  cases j with
  | null => exact absurd reads (strict a)
  | _ => exact congrArg (Except.map some) reads

theorem bind_ok {r : Except ε α} {next : α → Except ε β} (ran : r >>= next = .ok b) :
    ∃ a, r = .ok a ∧ next a = .ok b := by
  cases r with
  | error e => cases ran
  | ok a => exact ⟨a, rfl, ran⟩

theorem mapError_ok {r : Except ε α} {f : ε → ε'} : r.mapError f = .ok a ↔ r = .ok a := by
  cases r <;> simp [Except.mapError]

theorem mapM_ok {f : α → Except ε β} : as.mapM f = .ok bs ↔ List.Forall₂ (fun a b => f a = .ok b) as bs := by
  constructor
  · intro ran
    induction as generalizing bs with
    | nil =>
      cases ran
      exact .nil
    | cons a as ih =>
      rw [List.mapM_cons] at ran
      obtain ⟨b, first, ran⟩ := bind_ok ran
      obtain ⟨rest, later, ran⟩ := bind_ok ran
      cases ran
      exact .cons first (ih later)
  · intro each
    induction each with
    | nil => rfl
    | cons first _ ih =>
      rw [List.mapM_cons, first, ih]
      rfl

theorem mapM_written {ns : List ν} {write : ν → α} {read : α → Except ReadError ν}
    (each : ∀ n ∈ ns, read (write n) = .ok n) : (ns.map write).mapM read = .ok ns := by
  apply mapM_ok.mpr
  simpa [List.forall₂_map_left_iff, List.forall₂_same] using each

theorem mapM_numbered {ns : List ν} {write : ν → β} {change : Nat → β → α} {read : α → Except ReadError ν}
    (each : ∀ i, ∀ n ∈ ns, read (change i (write n)) = .ok n) : ((ns.map write).mapIdx change).mapM read = .ok ns := by
  induction ns generalizing change with
  | nil => rfl
  | cons n ns ih =>
    have later := ih fun i m member => each (i + 1) m (List.mem_cons_of_mem _ member)
    rw [List.map_cons, List.mapIdx_cons, List.mapM_cons, each 0 n List.mem_cons_self, later]
    rfl

theorem string_ok : string j = .ok s ↔ j = .string s := by
  cases j <;> simp [string, wrong]

theorem bool_ok : bool j = .ok b ↔ j = .bool b := by
  cases j <;> simp [bool, wrong]

theorem number_ok : number j = .ok x ↔ ∃ n, j = .number n ∧ n.toBinary64 = x := by
  cases j <;> simp [number, wrong]

theorem word32_ok : word32 j = .ok n ↔ j = .nat n.toNat := by
  constructor
  · intro read
    unfold word32 at read
    split at read
    · rename_i m
      split_ifs at read with inside
      cases read
      have small : m.toNat < 2 ^ 32 := (Int.toNat_lt inside.1).mpr inside.2
      rw [Json.nat, UInt32.toNat_ofNat_of_lt' small, Int.toNat_of_nonneg inside.1]
    · cases read
  · rintro rfl
    exact word32_count n

theorem list_ok {read : Json → Except ReadError α} :
    list read j = .ok as ↔ ∃ js, j = .array js ∧ List.Forall₂ (fun j a => read j = .ok a) js as := by
  cases j <;> simp [list, wrong, mapM_ok]

theorem option_ok {read : Json → Except ReadError α} :
    option read j = .ok x ↔ j = .null ∧ x = none ∨ j ≠ .null ∧ ∃ a, read j = .ok a ∧ x = some a := by
  have taken (r : Except ReadError α) : r.map some = .ok x ↔ ∃ a, r = .ok a ∧ x = some a := by
    cases r <;> simp [Except.map, eq_comm]
  cases j <;> simp [option, taken, eq_comm]

end FluidSheet.Json.Decode
