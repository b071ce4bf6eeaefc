import Mathlib
import FluidSheet.Number.Decimal

-- A finite number ends in a digit, without a letter anywhere; any other in a name of three letters.

namespace FluidSheet

def EndsInDigit (cs : List Char) : Prop := ∃ front d, cs = front ++ [d] ∧ d.isDigit = true

def Unlettered (cs : List Char) : Prop := ∀ c ∈ cs, c.isAlpha = false

theorem digits_end (digits : ∀ c ∈ ds, c.isDigit = true) (some : ds ≠ []) : EndsInDigit ds := by
  obtain ⟨front, d, rfl⟩ := List.eq_nil_or_concat ds |>.resolve_left some
  exact ⟨front, d, by simp, digits d (by simp)⟩

theorem ends_behind (front : List Char) (ends : EndsInDigit cs) : EndsInDigit (front ++ cs) := by
  obtain ⟨front', d, rfl, digit⟩ := ends
  exact ⟨front ++ front', d, by simp, digit⟩

theorem digit_letter {c : Char} (digit : c.isDigit = true) : c.isAlpha = false := by
  simp only [Char.isDigit, Char.isAlpha, Char.isUpper, Char.isLower, Bool.and_eq_true, decide_eq_true_eq,
    Bool.or_eq_false_iff, Bool.and_eq_false_iff, decide_eq_false_iff_not, ge_iff_le, UInt32.le_iff_toNat_le] at *
  have nine : '9'.val.toNat = 57 := rfl
  have upper : 'A'.val.toNat = 65 := rfl
  have lower : 'a'.val.toNat = 97 := rfl
  omega

theorem unlettered_digits (digits : ∀ c ∈ ds, c.isDigit = true) : Unlettered ds :=
  fun c member => digit_letter (digits c member)

theorem unlettered_single (other : c.isAlpha = false) : Unlettered [c] := by
  intro c' member
  cases List.mem_singleton.mp member
  exact other

theorem unlettered_append (first : Unlettered as) (second : Unlettered bs) : Unlettered (as ++ bs) := by
  intro c member
  rcases List.mem_append.mp member with here | there
  · exact first c here
  · exact second c there

namespace Layout

theorem positional_ends (digits : ∀ c ∈ ds, c.isDigit = true) (some : ds ≠ []) (exponent : Int) :
    EndsInDigit (positional false ds exponent) := by
  unfold positional
  split
  · rw [if_neg Bool.false_ne_true, List.append_nil]
    refine digits_end ?_ (by simp [some])
    intro c member
    rcases List.mem_append.mp member with own | zero
    · exact digits c own
    · rw [(List.mem_replicate.mp zero).2]
      rfl
  · rename_i negative
    dsimp only
    split
    · rename_i short
      refine ends_behind _ (ends_behind ['.'] (digits_end (fun c member => digits c (List.mem_of_mem_drop member)) ?_))
      rw [Ne, List.drop_eq_nil_iff]
      omega
    · exact ends_behind _ (digits_end digits some)

theorem positional_unlettered (digits : ∀ c ∈ ds, c.isDigit = true) (exponent : Int) :
    Unlettered (positional false ds exponent) := by
  have own := unlettered_digits digits
  have point : Unlettered ['.'] := unlettered_single rfl
  have zeros : ∀ n, Unlettered (List.replicate n '0') := by
    intro n c member
    rw [(List.mem_replicate.mp member).2]
    rfl
  unfold positional
  split
  · rw [if_neg Bool.false_ne_true, List.append_nil]
    exact unlettered_append own (zeros _)
  · dsimp only
    split
    · exact unlettered_append (fun c member => own c (List.mem_of_mem_take member))
        (unlettered_append point fun c member => own c (List.mem_of_mem_drop member))
    · exact unlettered_append (unlettered_append (zeros 1) (unlettered_append point (zeros _))) own

theorem decimal_digits (d : Decimal) : ∀ c ∈ Nat.toDigits 10 d.digits, c.isDigit = true :=
  fun _ member => Nat.isDigit_of_mem_toDigits (by decide) (by decide) member

end Layout

namespace Binary64
variable {x : Binary64}

theorem chars_finite (finite : x.isFinite = true) : EndsInDigit (x.chars .plain) ∧ Unlettered (x.chars .plain) := by
  cases x with
  | nan | infinite => cases finite
  | finite s q =>
    have sign : Unlettered (if s then ['-'] else []) := by
      cases s with
      | true => exact unlettered_single rfl
      | false => exact fun _ none => by cases none
    have zero : ∀ c ∈ ['0'], c.isDigit = true := by
      intro c member
      cases List.mem_singleton.mp member
      rfl
    rw [chars]
    by_cases nothing : q = 0
    · rw [if_pos nothing]
      exact ⟨ends_behind _ (Layout.positional_ends zero (by simp) 0),
        unlettered_append sign (Layout.positional_unlettered zero 0)⟩
    · rw [if_neg nothing]
      exact ⟨ends_behind _ (Layout.positional_ends (Layout.decimal_digits _) Nat.toDigits_ne_nil _),
        unlettered_append sign (Layout.positional_unlettered (Layout.decimal_digits _) _)⟩

theorem chars_special (special : x.isFinite = false) : ∃ sign name, x.chars .plain = sign ++ name ∧
    (sign = [] ∨ sign = ['-']) ∧ (name = ['i', 'n', 'f'] ∨ name = ['N', 'a', 'N']) := by
  cases x with
  | finite => cases special
  | nan => exact ⟨[], _, rfl, .inl rfl, .inr rfl⟩
  | infinite s =>
    cases s with
    | true => exact ⟨['-'], _, rfl, .inr rfl, .inl rfl⟩
    | false => exact ⟨[], _, rfl, .inl rfl, .inl rfl⟩

end Binary64
end FluidSheet
