import FluidSheet.Proofs.Number.Nearest
import FluidSheet.Proofs.Number.Numeral

-- A decimal counts by its value alone, however many zeros it is written with.

namespace FluidSheet

namespace Decimal
variable {ds : List Char} {d : Decimal}

theorem ofDigits_chars (cs : List Char) : ofDigits cs = Nat.ofDigitChars 10 cs 0 := rfl

theorem ofDigits_toDigits (n : Nat) : ofDigits (Nat.toDigits 10 n) = n :=
  Nat.ofDigitChars_toDigits (by decide) (by decide)

theorem ofDigits_behind (ds : List Char) (k : Nat) :
    ofDigits (ds ++ List.replicate k '0') = ofDigits ds * Nat.pow 10 k := by
  rw [ofDigits_chars, Nat.ofDigitChars_append, Nat.ofDigitChars_replicate_zero, Nat.mul_comm]
  rfl

theorem ofDigits_before (k : Nat) (ds : List Char) : ofDigits (List.replicate k '0' ++ ds) = ofDigits ds := by
  rw [ofDigits_chars, Nat.ofDigitChars_append, Nat.ofDigitChars_replicate_zero, Nat.mul_zero]
  rfl

theorem ten_pos (n : Nat) : 0 < Nat.pow 10 n := Nat.pow_pos (by decide)

theorem ten_mono (less : m ≤ n) : Nat.pow 10 m ≤ Nat.pow 10 n := Nat.pow_le_pow_right (by decide) less

theorem ten_add (m n : Nat) : Nat.pow 10 (m + n) = Nat.pow 10 m * Nat.pow 10 n := Nat.pow_add 10 m n

theorem limit_below : Binary64.limit ≤ Nat.pow 10 400 * Binary64.unit := by decide +kernel

theorem unit_below : ∃ k ≤ 402, 4 * Binary64.unit ≤ Nat.pow 10 k := ⟨402, Nat.le_refl _, by decide +kernel⟩

theorem large_beyond (some : n ≠ 0) (large : 400 ≤ k) : Binary64.limit ≤ n * Nat.pow 10 k * Binary64.unit := by
  have limit := limit_below
  have power := ten_mono large
  generalize Nat.pow 10 400 = scale at limit power
  have digits := Nat.le_trans power (Nat.le_mul_of_pos_left _ (Nat.pos_of_ne_zero some))
  exact Nat.le_trans limit (Nat.mul_le_mul_right _ digits)

theorem small_below (small : 402 + n.log2 ≤ k) : 2 * (n * Binary64.unit) < Nat.pow 10 k := by
  have positive := Binary64.unit_pos
  have bits : n < 2 ^ (n.log2 + 1) := Nat.lt_log2_self
  have base : 2 ^ n.log2 ≤ Nat.pow 10 n.log2 := Nat.pow_le_pow_left (by decide) _
  obtain ⟨j, few, under⟩ := unit_below
  have reach : Nat.pow 10 (j + n.log2) ≤ Nat.pow 10 k := ten_mono (by omega)
  rw [ten_add] at reach
  refine Nat.lt_of_lt_of_le ?_ reach
  generalize Binary64.unit = unit at *
  calc 2 * (n * unit) < 2 * (2 ^ (n.log2 + 1) * unit) :=
        Nat.mul_lt_mul_of_pos_left (Nat.mul_lt_mul_of_pos_right bits positive) (by decide)
    _ = 4 * unit * 2 ^ n.log2 := by ring
    _ ≤ Nat.pow 10 j * Nat.pow 10 n.log2 := Nat.mul_le_mul under base

-- The early answers are those of rounding.
theorem toBinary64_nearest (s : Bool) (some : d.digits ≠ 0) : d.toBinary64 s =
    Binary64.nearest s (d.digits * Nat.pow 10 d.exponent.toNat * Binary64.unit) (Nat.pow 10 (-d.exponent).toNat) := by
  have whole : Nat.pow 10 0 = 1 := rfl
  unfold toBinary64
  rw [if_neg some]
  split
  · rename_i large
    have positive : (-d.exponent).toNat = 0 := by omega
    rw [positive, whole]
    refine (Binary64.nearest_beyond Nat.one_pos ?_).symm
    rw [Nat.mul_one]
    exact large_beyond some (by omega)
  · split
    · rename_i small
      have negative : d.exponent.toNat = 0 := by omega
      rw [negative, whole, Nat.mul_one]
      exact (Binary64.nearest_tiny (small_below (by omega))).symm
    · split
      · have positive : (-d.exponent).toNat = 0 := by omega
        rw [positive, whole]
      · have negative : d.exponent.toNat = 0 := by omega
        rw [negative, whole, Nat.mul_one]

theorem toBinary64_shift (s : Bool) (n k : Nat) (exponent : Int) :
    (⟨n * Nat.pow 10 k, exponent⟩ : Decimal).toBinary64 s = (⟨n, exponent + k⟩ : Decimal).toBinary64 s := by
  have power : Nat.pow 10 k ≠ 0 := Nat.ne_of_gt (ten_pos k)
  by_cases zero : n = 0
  · rw [zero, Nat.zero_mul]
    rfl
  · rw [toBinary64_nearest s (Nat.mul_ne_zero zero power), toBinary64_nearest s zero]
    refine Binary64.nearest_congr (ten_pos _) (ten_pos _) ?_
    dsimp only
    have level : k + exponent.toNat + (-(exponent + k)).toNat = (exponent + k).toNat + (-exponent).toNat := by omega
    have powers := congrArg (Nat.pow 10) level
    generalize Binary64.unit = unit
    simp only [Nat.pow_eq, Nat.pow_add] at powers ⊢
    calc _ = n * unit * (10 ^ k * 10 ^ exponent.toNat * 10 ^ (-(exponent + k)).toNat) := by ring
      _ = n * unit * (10 ^ (exponent + k).toNat * 10 ^ (-exponent).toNat) := by rw [powers]
      _ = _ := by ring

theorem trim_toBinary64 (s : Bool) (d : Decimal) : d.trim.toBinary64 s = d.toBinary64 s := by
  induction d using trim.induct with
  | case1 d tens ih =>
    rw [trim, if_pos tens, ih]
    have whole : d.digits = d.digits / 10 * Nat.pow 10 1 := (Nat.div_mul_cancel (Nat.dvd_of_mod_eq_zero tens.2)).symm
    rw [← Int.natCast_one, ← toBinary64_shift, ← whole]
  | case2 d other => rw [trim, if_neg other]

theorem toBinary64_sign (s : Bool) (found : d.toBinary64 false = .finite false q) : d.toBinary64 s = .finite s q := by
  by_cases zero : d.digits = 0
  · unfold toBinary64 at found ⊢
    rw [if_pos zero] at found ⊢
    cases found
    rfl
  · rw [toBinary64_nearest _ zero] at found ⊢
    unfold Binary64.nearest at found ⊢
    dsimp only at found ⊢
    split at found
    · rename_i small
      cases found
      exact if_pos small
    · cases found

end Decimal

namespace Shortest

theorem onGrid_reads (found : onGrid tie q grid = some d) : readsBack q d = true := by
  unfold onGrid at found
  dsimp only at found
  split at found
  · cases found
  · cases found
    assumption
  · cases found
    assumption
  · rename_i below above
    split at found
    · cases found
      exact below
    · split at found
      · cases found
        exact above
      · split at found
        · cases found
          exact above
        · split at found
          · cases found
            exact below
          · cases found
            exact above

theorem five_two (n : Nat) : Nat.pow 5 n * Nat.pow 2 n = Nat.pow 10 n := (Nat.mul_pow 5 2 n).symm

-- A quantum is one part in a power of two: so many of them are so many times the power of five, behind the point.
theorem exact_toBinary64 (exact : Binary64.Exact q) (some : q ≠ 0) (s : Bool) (unit : Binary64.unit = Nat.pow 2 n) :
    (⟨q * Nat.pow 5 n, -(n : Int)⟩ : Decimal).toBinary64 s = .finite s q := by
  have whole : Nat.pow 10 0 = 1 := rfl
  have positive : (-(n : Int)).toNat = 0 := by omega
  have places : (-(-(n : Int))).toNat = n := by omega
  have five : q * Nat.pow 5 n ≠ 0 := Nat.mul_ne_zero some (Nat.ne_of_gt (Nat.pow_pos (by decide)))
  rw [Decimal.toBinary64_nearest s five, ← Binary64.nearest_exact exact]
  refine Binary64.nearest_congr (Decimal.ten_pos _) Nat.one_pos ?_
  dsimp only
  rw [positive, places, whole, unit, Nat.mul_one, Nat.mul_one, Nat.mul_assoc, five_two]

-- The digits that are written denote the number that they are written for.
theorem digits_toBinary64 (tie : Tie) (exact : Binary64.Exact q) (some : q ≠ 0) (s : Bool) :
    (digits tie q).toBinary64 s = .finite s q := by
  unfold digits
  dsimp only
  split
  · rename_i d found
    obtain ⟨i, -, here⟩ := List.exists_of_findSome?_eq_some found
    rw [Decimal.trim_toBinary64]
    exact Decimal.toBinary64_sign s (of_decide_eq_true (onGrid_reads here))
  · rw [Decimal.trim_toBinary64]
    have unit : Binary64.unit = Nat.pow 2 1074 := by unfold Binary64.unit; rfl
    have places : (-1074 : Int) = -((1074 : Nat) : Int) := rfl
    rw [places]
    generalize 1074 = n at unit ⊢
    exact exact_toBinary64 exact some s unit

end Shortest

inductive Positional : List Char → Decimal → Prop where
  | whole (digits : Digits ds) : Positional ds ⟨Decimal.ofDigits ds, 0⟩
  | fraction (front : Digits ws) (digits : Digits ds) :
      Positional (ws ++ '.' :: ds) ⟨Decimal.ofDigits (ws ++ ds), -(ds.length : Int)⟩

theorem positional_mantissa (written : Positional cs d) : Mantissa cs d := by
  cases written with
  | whole digits => exact .whole digits
  | fraction front digits => exact .fraction front.2 digits

theorem zeros_digits (k : Nat) : ∀ c ∈ List.replicate k '0', c.isDigit = true := by
  intro c member
  rw [(List.mem_replicate.mp member).2]
  rfl

theorem positional_written (digits : Digits ds) (exponent : Int) : ∃ d, Positional (Layout.positional false ds exponent) d ∧
    ∀ s, d.toBinary64 s = (⟨Decimal.ofDigits ds, exponent⟩ : Decimal).toBinary64 s := by
  unfold Layout.positional
  split
  · rename_i positive
    rw [if_neg Bool.false_ne_true, List.append_nil]
    refine ⟨_, .whole (digits_append digits (zeros_digits _)), fun s => ?_⟩
    rw [Decimal.ofDigits_behind, Decimal.toBinary64_shift, Int.zero_add, Int.toNat_of_nonneg positive]
  · rename_i negative
    have places : -((-exponent).toNat : Int) = exponent := by omega
    dsimp only
    split
    · rename_i short
      have front : Digits (ds.take (ds.length - (-exponent).toNat)) := by
        refine ⟨?_, fun c member => digits.2 c (List.mem_of_mem_take member)⟩
        rw [Ne, List.take_eq_nil_iff]
        rintro (none | none)
        · omega
        · exact digits.1 none
      have back : Digits (ds.drop (ds.length - (-exponent).toNat)) := by
        refine ⟨?_, fun c member => digits.2 c (List.mem_of_mem_drop member)⟩
        rw [Ne, List.drop_eq_nil_iff]
        omega
      have length : ds.length - (ds.length - (-exponent).toNat) = (-exponent).toNat := by omega
      refine ⟨_, .fraction front back, fun s => ?_⟩
      rw [List.take_append_drop, List.length_drop, length, places]
    · rename_i long
      have front : Digits ['0'] := ⟨List.cons_ne_nil _ _, zeros_digits 1⟩
      have back : Digits (List.replicate ((-exponent).toNat - ds.length) '0' ++ ds) :=
        ⟨List.append_ne_nil_of_right_ne_nil _ digits.1, List.forall_mem_append.mpr ⟨zeros_digits _, digits.2⟩⟩
      have one : ['0'] = List.replicate 1 '0' := rfl
      refine ⟨_, .fraction front back, fun s => ?_⟩
      rw [List.append_eq, one, Decimal.ofDigits_before, Decimal.ofDigits_before, List.length_append, List.length_replicate,
        Nat.sub_add_cancel (Nat.not_lt.mp long), places]

namespace Binary64

theorem chars_positional (exact : Exact q) (some : q ≠ 0) (s : Bool) : ∃ body d,
    (Binary64.finite s q).chars .plain = (if s then ['-'] else []) ++ body ∧ Positional body d ∧
      ∀ s', d.toBinary64 s' = .finite s' q := by
  have digits : Digits (Nat.toDigits 10 (Shortest.digits .up q).digits) :=
    ⟨Nat.toDigits_ne_nil, Layout.decimal_digits _⟩
  obtain ⟨d, written, same⟩ := positional_written digits (Shortest.digits .up q).exponent
  refine ⟨_, d, ?_, written, fun s' => ?_⟩
  · rw [chars, if_neg some]
    rfl
  · rw [same, Decimal.ofDigits_toDigits]
    exact Shortest.digits_toBinary64 .up exact some s'

end Binary64
end FluidSheet
