import FluidSheet.Proofs.Length.Fixed
import FluidSheet.Proofs.Length.Number
import FluidSheet.Proofs.Number.Shortest

namespace FluidSheet

namespace Binary64
variable {x y : Binary64}

set_option maxRecDepth 4000 in
theorem scale_exact : ∀ places ≤ 15, pow 10 places = .finite false (Nat.pow 10 places * unit) := by
  decide +kernel

-- A product that is finite is rounded, and one of finite numbers.
theorem mul_exact (found : x * y = .finite s q) : Exact q ∧ x.isFinite = true := by
  change mul x y = _ at found
  cases x with
  | nan => cases y <;> cases found
  | infinite =>
    cases y with
    | nan | infinite => cases found
    | finite =>
      simp only [mul] at found
      split at found <;> cases found
  | finite =>
    cases y with
    | nan => cases found
    | infinite =>
      simp only [mul] at found
      split at found <;> cases found
    | finite =>
      simp only [mul] at found
      exact ⟨(nearest_grid found).1, rfl⟩

-- Rounding to a whole number finds one at hand: either the number is whole, or there are few below it.
theorem roundAway_exact (exact : Exact q) : Exact ((2 * q + unit) / (2 * unit) * unit) := by
  have power : unit = Nat.pow 2 1074 := by unfold unit; rfl
  have room : Nat.pow 2 53 * unit < limit := by decide +kernel
  have positive := unit_pos
  generalize 1074 = n at power
  generalize unit = one at *
  by_cases whole : one ∣ q
  · obtain ⟨k, rfl⟩ := whole
    have same : (2 * (one * k) + one) / (2 * one) = k := by
      have parts : 2 * (one * k) + one = one * (2 * k + 1) := by ring
      rw [parts, Nat.mul_comm 2 one, Nat.mul_div_mul_left _ _ positive]
      omega
    rw [same, Nat.mul_comm]
    exact exact
  · have small : q < Nat.pow 2 52 * one := by
      by_contra large
      refine whole (Nat.dvd_trans ?_ exact.grid)
      have reach : 2 ^ (52 + n) ≤ q := by
        rw [power] at large
        rw [Nat.pow_add]
        exact Nat.not_lt.mp large
      have some : q ≠ 0 := Nat.ne_of_gt (Nat.lt_of_lt_of_le (Nat.pow_pos (by decide)) reach)
      have bits := (Nat.le_log2 some).mpr reach
      rw [power]
      exact Nat.pow_dvd_pow 2 (by omega)
    have few : (2 * q + one) / (2 * one) ≤ Nat.pow 2 53 := by
      refine Nat.div_le_of_le_mul ?_
      have double : Nat.pow 2 53 = 2 * Nat.pow 2 52 := rfl
      have first : 1 ≤ Nat.pow 2 52 := power_pos 52
      rw [double]
      generalize Nat.pow 2 52 = bound at small first ⊢
      have less : one ≤ bound * one := Nat.le_mul_of_pos_left _ first
      calc 2 * q + one ≤ 2 * (bound * one) + 2 * (bound * one) := by omega
        _ = 2 * one * (2 * bound) := by ring
    refine ⟨?_, Nat.lt_of_le_of_lt (Nat.mul_le_mul_right one few) room⟩
    rw [power] at few ⊢
    exact spacing_significant few n

theorem div_finite (some : q ≠ 0) (s t : Bool) (p : Nat) : finite s p / finite t q = nearest (s != t) (p * unit) q :=
  if_neg some

theorem toPlaces_exact (precise : places ≤ 15) :
    (∃ s q, Exact q ∧ x.toPlaces places = .finite s q) ∧ (x * pow 10 places).isFinite = true ∨
      (x.toPlaces places).isFinite = false ∧ (x * pow 10 places).isFinite = false := by
  have scale := scale_exact places precise
  have some : Nat.pow 10 places * unit ≠ 0 := Nat.mul_ne_zero (Nat.ne_of_gt (Decimal.ten_pos _)) (Nat.ne_of_gt unit_pos)
  unfold toPlaces
  rw [scale]
  dsimp only
  cases scaled : x * .finite false (Nat.pow 10 places * unit) with
  | nan => exact .inr ⟨rfl, rfl⟩
  | infinite => exact .inr ⟨rfl, rfl⟩
  | finite s q =>
    have exact := roundAway_exact (mul_exact scaled).1
    have less : (2 * q + unit) / (2 * unit) * unit * unit ≤
        (2 * q + unit) / (2 * unit) * unit * (Nat.pow 10 places * unit) :=
      Nat.mul_le_mul_left _ (Nat.le_mul_of_pos_left _ (Decimal.ten_pos _))
    obtain ⟨p, found, -⟩ := nearest_within (s := s != false) (Nat.pos_of_ne_zero some) exact less
    rw [roundAway, div_finite some, found]
    exact .inl ⟨⟨_, p, (nearest_grid found).1, rfl⟩, rfl⟩

end Binary64

-- Nothing, a zero, or a decimal with the unit that is not zero and reads back as the share.
inductive Sound (unit : List Char) (share : Binary64) : Option (List Char) → Prop where
  | kept : Sound unit share none
  | zero : Sound unit share (some ['0'])
  | number (sign : front = [] ∨ front = ['-']) (written : Positional body d) (other : d.digits ≠ 0)
      (reads : Binary64.read? (front ++ body) = some share) (finite : share.isFinite = true) :
      Sound unit share (some (front ++ body ++ unit))

namespace Target
variable {t : Target} {pixels : Binary64}

theorem finite_sound (exact : Binary64.Exact q) (share : t.share pixels = .finite s q) :
    Sound t.unit.toList (t.share pixels) (t.convert? pixels) := by
  unfold convert?
  split
  · exact .kept
  · split
    · exact .zero
    · rename_i other
      have some : q ≠ 0 := by
        rintro rfl
        rw [share] at other
        exact other rfl
      obtain ⟨body, d, text, written, same⟩ := Binary64.chars_positional exact some s
      rw [Binary64.css, if_neg other, share, text]
      have digits : d.digits ≠ 0 := by
        intro zero
        have none := same false
        rw [Decimal.toBinary64, if_pos zero] at none
        cases none
        exact some rfl
      have unsigned := Unsigned.plain (positional_mantissa written)
      refine .number (by cases s <;> simp) written digits ?_ rfl
      rw [← same s]
      cases s with
      | false => exact Binary64.denotes_read (.positive unsigned)
      | true => exact Binary64.denotes_read (.negative unsigned)

theorem special_unsound (special : (t.share pixels).isFinite = false)
    (sound : Sound t.unit.toList (t.share pixels) (t.convert? pixels)) : t.convert? pixels = none := by
  cases found : t.convert? pixels with
  | none => rfl
  | some text =>
    rw [found] at sound
    cases sound with
    | number _ _ _ _ finite =>
      rw [special] at finite
      cases finite
    | zero =>
      obtain ⟨front, name, text, -, word⟩ := Binary64.chars_special special
      unfold convert? Binary64.css at found
      have other : ¬ (t.share pixels).isZero = true := by
        intro zero
        cases share : t.share pixels with
        | nan | infinite => rw [share] at zero; cases zero
        | finite => rw [share] at special; cases special
      split at found
      · cases found
      · rw [text] at found
        have size := congrArg (Option.map List.length) found
        rcases word with rfl | rfl <;> simp at size <;> omega

-- A share is written as a number exactly where the length is kept or its scaled share is finite.
theorem convert_sound (unit value : String) (t : Target) (precise : t.precision ≤ 15) (number : List Char)
    (found : .length number ∈ Length.scan unit.toList 0 value.toList) :
    ∃ pixels, Binary64.read? number = some pixels ∧
      (Sound t.unit.toList (t.share pixels) (t.convert? pixels) ↔
        t.convert? pixels = none ∨ (pixels / t.width * 100 * Binary64.pow 10 t.precision).isFinite = true) := by
  refine ⟨_, Binary64.denotes_read (Length.scan_denotes _ _ number found), ?_⟩
  rcases Binary64.toPlaces_exact (x := Length.magnitude number / t.width * 100) precise with
    ⟨⟨s, q, exact, share⟩, finite⟩ | ⟨special, infinite⟩
  · exact ⟨fun _ => .inr finite, fun _ => finite_sound exact share⟩
  · constructor
    · exact fun sound => .inl (special_unsound special sound)
    · rintro (kept | finite)
      · rw [kept]
        exact .kept
      · rw [infinite] at finite
        cases finite

theorem convert_sound_quarter :
    let t : Target := ⟨"vw", 320, 5, 1⟩
    ∃ pixels, Binary64.read? "16".toList = some pixels ∧ Sound t.unit.toList (t.share pixels) (t.convert? pixels) := by
  intro t
  obtain ⟨pixels, read, exact⟩ := convert_sound "px" "0 16px" t (by decide) "16".toList (by decide +kernel)
  have same : pixels = 16 := by
    have other : Binary64.read? "16".toList = some 16 := by decide +kernel
    exact Option.some.inj (read.symm.trans other)
  refine ⟨pixels, read, exact.mpr (.inr ?_)⟩
  rw [same]
  decide +kernel

theorem infinity_written :
    let t : Target := ⟨"vw", 320, 5, 1⟩
    .length "1e400".toList ∈ Length.scan "px".toList 0 "1e400px".toList ∧
      ∃ pixels, Binary64.read? "1e400".toList = some pixels ∧ t.convert? pixels = some "infvw".toList ∧
        ¬ Sound t.unit.toList (t.share pixels) (t.convert? pixels) := by
  intro t
  have written : t.convert? (.infinite false) = some "infvw".toList := by decide +kernel
  refine ⟨by decide +kernel, .infinite false, by decide +kernel, written, fun sound => ?_⟩
  have special : (t.share (.infinite false)).isFinite = false := by decide +kernel
  have none := special_unsound special sound
  rw [written] at none
  cases none

end Target
end FluidSheet
