import Mathlib
import FluidSheet.Number.Decimal

namespace FluidSheet.Binary64

structure Exact (quanta : Nat) : Prop where
  grid : spacing quanta ∣ quanta
  small : quanta < limit

theorem power_pos (n : Nat) : 0 < Nat.pow 2 n := Nat.pow_pos (by decide)

theorem power_mono (less : m ≤ n) : Nat.pow 2 m ≤ Nat.pow 2 n := Nat.pow_le_pow_right (by decide) less

theorem unit_pos : 0 < unit := by
  unfold unit
  generalize 1074 = n
  exact power_pos n

theorem limit_pos : 0 < limit := by
  unfold limit
  generalize 2098 = n
  exact power_pos n

theorem spacing_pos (quanta : Nat) : 0 < spacing quanta := power_pos _

theorem spacing_dvd (less : p ≤ q) : spacing p ∣ spacing q := by
  rw [spacing, spacing, Nat.log2_eq_log_two, Nat.log2_eq_log_two]
  exact Nat.pow_dvd_pow 2 (Nat.sub_le_sub_right (Nat.log_mono_right less) 52)

theorem roundHalfEven_scale (some : 0 < k) : roundHalfEven (k * num) (k * den) = roundHalfEven num den := by
  have below : 2 * (k * (num % den)) < k * den ↔ 2 * (num % den) < den := by
    rw [Nat.mul_left_comm, Nat.mul_lt_mul_left some]
  have above : k * den < 2 * (k * (num % den)) ↔ den < 2 * (num % den) := by
    rw [Nat.mul_left_comm 2, Nat.mul_lt_mul_left some]
  unfold roundHalfEven
  rw [Nat.mul_div_mul_left _ _ some, Nat.mul_mod_mul_left]
  simp only [below, above]

theorem roundHalfEven_whole (some : 0 < den) : roundHalfEven (m * den) den = m := by
  unfold roundHalfEven
  rw [Nat.mul_div_cancel _ some, Nat.mul_mod_left]
  dsimp only
  rw [if_pos some]

theorem roundHalfEven_floor (num den : Nat) : num / den ≤ roundHalfEven num den := by
  unfold roundHalfEven
  dsimp only
  split
  · exact Nat.le_refl _
  · split
    · exact Nat.le_succ _
    · split
      · exact Nat.le_refl _
      · exact Nat.le_succ _

-- A whole number that the fraction does not pass is not passed by rounding.
theorem roundHalfEven_le (some : 0 < den) (less : num ≤ k * den) : roundHalfEven num den ≤ k := by
  have whole : num / den ≤ k := Nat.div_le_of_le_mul (by rwa [Nat.mul_comm])
  rcases Nat.lt_or_eq_of_le whole with under | level
  · have next : roundHalfEven num den ≤ num / den + 1 := by
      unfold roundHalfEven
      dsimp only
      split
      · exact Nat.le_succ _
      · split
        · exact Nat.le_refl _
        · split
          · exact Nat.le_succ _
          · exact Nat.le_refl _
    omega
  · have parts := Nat.div_add_mod num den
    rw [level, Nat.mul_comm] at parts
    have exact : num = k * den := by omega
    rw [exact, roundHalfEven_whole some]

theorem nearest_scale (some : 0 < k) : nearest s (k * num) (k * den) = nearest s num den := by
  unfold nearest
  dsimp only
  rw [Nat.mul_div_mul_left _ _ some, Nat.mul_assoc, roundHalfEven_scale some]

theorem nearest_congr (some : 0 < den) (some' : 0 < den') (same : num * den' = num' * den) :
    nearest s num den = nearest s num' den' := by
  rw [← nearest_scale some', Nat.mul_comm, same, Nat.mul_comm den' den, Nat.mul_comm, nearest_scale some]

theorem nearest_exact (exact : Exact q) (s : Bool) : nearest s q 1 = .finite s q := by
  obtain ⟨k, whole⟩ := exact.grid
  have kept : roundHalfEven q (1 * spacing q) * spacing q = q := by
    have parts : q = k * spacing q := by rw [Nat.mul_comm]; exact whole
    rw [Nat.one_mul]
    nth_rewrite 1 [parts]
    rw [roundHalfEven_whole (spacing_pos q)]
    exact parts.symm
  unfold nearest
  dsimp only
  rw [Nat.div_one, kept]
  exact if_pos exact.small

-- No more than 53 significant bits.
theorem spacing_significant (few : m ≤ Nat.pow 2 53) (s : Nat) : spacing (m * Nat.pow 2 s) ∣ m * Nat.pow 2 s := by
  rcases Nat.eq_zero_or_pos m with rfl | some
  · rw [Nat.zero_mul]
    exact Nat.dvd_zero _
  · rcases Nat.lt_or_eq_of_le few with under | rfl
    · have short : (m * Nat.pow 2 s).log2 - 52 ≤ s := by
        have bits : (m * Nat.pow 2 s).log2 < 53 + s := by
          have positive : m * Nat.pow 2 s ≠ 0 := Nat.mul_ne_zero (Nat.ne_of_gt some) (Nat.ne_of_gt (power_pos s))
          rw [Nat.log2_lt positive, Nat.pow_add]
          exact Nat.mul_lt_mul_of_pos_right under (power_pos s)
        omega
      exact (Nat.pow_dvd_pow 2 short).trans (Nat.dvd_mul_left _ _)
    · have power : Nat.pow 2 53 * Nat.pow 2 s = 2 ^ (53 + s) := (Nat.pow_add 2 53 s).symm
      rw [power, spacing, Nat.log2_two_pow]
      exact Nat.pow_dvd_pow 2 (by omega)

theorem nearest_grid (found : nearest s num den = .finite s' q) : Exact q ∧ s' = s := by
  unfold nearest at found
  dsimp only at found
  split at found
  · rename_i small
    cases found
    refine ⟨⟨?_, small⟩, rfl⟩
    apply spacing_significant
    -- The fraction lies below the next power of two, so 53 bits hold its steps.
    rcases Nat.eq_zero_or_pos den with rfl | some
    · rw [Nat.zero_mul, roundHalfEven, Nat.div_zero]
      split_ifs <;> decide
    · refine roundHalfEven_le (Nat.mul_pos some (spacing_pos _)) ?_
      have under : num / den < 2 ^ ((num / den).log2 + 1) := Nat.lt_log2_self
      have reach : 2 ^ ((num / den).log2 + 1) ≤ Nat.pow 2 53 * spacing (num / den) := by
        change _ ≤ 2 ^ 53 * 2 ^ ((num / den).log2 - 52)
        rw [← Nat.pow_add]
        exact Nat.pow_le_pow_right (by decide) (by omega)
      have less : num / den < Nat.pow 2 53 * spacing (num / den) := Nat.lt_of_lt_of_le under reach
      rw [Nat.mul_comm den, ← Nat.mul_assoc]
      exact Nat.le_of_lt ((Nat.div_lt_iff_lt_mul some).mp less)
  · cases found

theorem nearest_within (some : 0 < den) (exact : Exact p) (less : num ≤ p * den) :
    ∃ q, nearest s num den = .finite s q ∧ q ≤ p := by
  have floor : num / den ≤ p := Nat.div_le_of_le_mul (by rwa [Nat.mul_comm])
  obtain ⟨k, steps⟩ := (spacing_dvd floor).trans exact.grid
  have within : roundHalfEven num (den * spacing (num / den)) ≤ k := by
    refine roundHalfEven_le (Nat.mul_pos some (spacing_pos _)) ?_
    rw [Nat.mul_left_comm, Nat.mul_comm k, ← steps, Nat.mul_comm]
    exact less
  have bound : roundHalfEven num (den * spacing (num / den)) * spacing (num / den) ≤ p := by
    calc _ ≤ k * spacing (num / den) := Nat.mul_le_mul_right _ within
      _ = p := by rw [Nat.mul_comm]; exact steps.symm
  refine ⟨_, ?_, bound⟩
  unfold nearest
  dsimp only
  rw [if_pos (Nat.lt_of_le_of_lt bound exact.small)]

theorem nearest_beyond (some : 0 < den) (large : limit * den ≤ num) : nearest s num den = .infinite s := by
  have floor : limit ≤ num / den := (Nat.le_div_iff_mul_le some).mpr large
  have positive : num / den ≠ 0 := Nat.ne_of_gt (Nat.lt_of_lt_of_le limit_pos floor)
  have bits : 2098 ≤ (num / den).log2 := by
    unfold limit at floor
    generalize 2098 = n at floor ⊢
    exact (Nat.le_log2 positive).mpr floor
  have lead : 2 ^ (num / den).log2 ≤ num / den := Nat.log2_self_le positive
  have whole : 2 ^ (num / den).log2 = 2 ^ 52 * spacing (num / den) := by
    change _ = 2 ^ 52 * 2 ^ _
    rw [← Nat.pow_add]
    congr 1
    omega
  have steps : 2 ^ 52 ≤ roundHalfEven num (den * spacing (num / den)) := by
    refine Nat.le_trans ?_ (roundHalfEven_floor _ _)
    rw [← Nat.div_div_eq_div_mul, Nat.le_div_iff_mul_le (spacing_pos _), ← whole]
    exact lead
  have reach : limit ≤ roundHalfEven num (den * spacing (num / den)) * spacing (num / den) := by
    calc limit ≤ 2 ^ (num / den).log2 := by unfold limit; generalize 2098 = n at bits ⊢; exact power_mono bits
      _ = 2 ^ 52 * spacing (num / den) := whole
      _ ≤ _ := Nat.mul_le_mul_right _ steps
  unfold nearest
  dsimp only
  rw [if_neg (Nat.not_lt.mpr reach)]

theorem nearest_tiny (tiny : 2 * num < den) : nearest s num den = .finite s 0 := by
  have floor : num / den = 0 := Nat.div_eq_of_lt (by omega)
  have step : spacing 0 = 1 := by decide
  have none : roundHalfEven num den = 0 := by
    unfold roundHalfEven
    dsimp only
    rw [Nat.mod_eq_of_lt (by omega), if_pos tiny, floor]
  unfold nearest
  dsimp only
  rw [floor, step, Nat.mul_one, Nat.mul_one, none]
  exact if_pos limit_pos

end FluidSheet.Binary64
