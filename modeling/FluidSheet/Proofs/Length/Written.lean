import FluidSheet.Proofs.Length.Share

-- For a width above zero a share has the sign of its length.

namespace FluidSheet

namespace Binary64
variable {x y : Binary64}

inductive Signed (s : Bool) : Binary64 → Prop where
  | finite : Signed s (.finite s q)
  | infinite : Signed s (.infinite s)

def Above (y : Binary64) : Prop := ∃ q, q ≠ 0 ∧ y = .finite false q

theorem nearest_signed (s : Bool) (num den : Nat) : Signed s (nearest s num den) := by
  unfold nearest
  dsimp only
  split
  · exact .finite
  · exact .infinite

theorem mul_signed (signed : Signed s x) (above : Above y) : Signed s (x * y) := by
  obtain ⟨q, some, rfl⟩ := above
  change Signed s (mul x (.finite false q))
  cases signed with
  | finite =>
    rw [mul, Bool.bne_false]
    exact nearest_signed _ _ _
  | infinite =>
    rw [mul, if_neg some, Bool.bne_false]
    exact .infinite

theorem div_signed (signed : Signed s x) (above : Above y) : Signed s (x / y) := by
  obtain ⟨q, some, rfl⟩ := above
  cases signed with
  | finite =>
    rw [div_finite some, Bool.bne_false]
    exact nearest_signed _ _ _
  | infinite =>
    change Signed s (.infinite (s != false))
    rw [Bool.bne_false]
    exact .infinite

theorem roundAway_signed (signed : Signed s x) : Signed s x.roundAway := by
  cases signed with
  | finite => exact .finite
  | infinite => exact .infinite

theorem scale_above (precise : places ≤ 15) : Above (pow 10 places) :=
  ⟨_, Nat.mul_ne_zero (Nat.ne_of_gt (Decimal.ten_pos _)) (Nat.ne_of_gt unit_pos), scale_exact places precise⟩

theorem hundred_above : Above 100 := by
  have exact : (100 : Binary64) = .finite false (100 * unit) := by decide +kernel
  exact ⟨_, Nat.mul_ne_zero (by decide) (Nat.ne_of_gt unit_pos), exact⟩

end Binary64

open Binary64 (Signed Above)

theorem Target.share_signed {t : Target} (above : Above t.width) (precise : t.precision ≤ 15) (signed : Signed s pixels) :
    Signed s (t.share pixels) := by
  have scale := Binary64.scale_above precise
  have percent := Binary64.mul_signed (Binary64.div_signed signed above) Binary64.hundred_above
  exact Binary64.div_signed (Binary64.roundAway_signed (Binary64.mul_signed percent scale)) scale

theorem Decimal.toBinary64_signed (s : Bool) (d : Decimal) : Signed s (d.toBinary64 s) := by
  by_cases zero : d.digits = 0
  · rw [Decimal.toBinary64, if_pos zero]
    exact .finite
  · rw [Decimal.toBinary64_nearest s zero]
    exact Binary64.nearest_signed _ _ _

def minus (s : Bool) : List Char := if s then ['-'] else []

def negative (number : List Char) : Bool := number.head? = some '-'

theorem denotes_signed (denotes : Denotes n x) : Signed (negative n) x := by
  cases denotes with
  | positive unsigned =>
    obtain ⟨c, back, rfl, opens⟩ := unsigned_opens unsigned
    have plain : negative (c :: back) = false := by
      refine decide_eq_false fun same => ?_
      cases same
      rcases opens with digit | point <;> contradiction
    rw [plain]
    exact Decimal.toBinary64_signed _ _
  | negative => exact Decimal.toBinary64_signed _ _

def infinity : List Char := ['i', 'n', 'f']

inductive Literal (unit : List Char) (t : Target) (number : List Char) : List Char → Prop where
  | kept (kept : t.convert? (Length.magnitude number) = none) : Literal unit t number (number ++ unit)
  | zero : Literal unit t number ['0']
  | finite (written : Positional body d) : Literal unit t number (minus (negative number) ++ body ++ t.unit.toList)
  | infinite (converted : t.convert? (Length.magnitude number) ≠ none)
      (special : (t.share (Length.magnitude number)).isFinite = false) :
      Literal unit t number (minus (negative number) ++ (infinity ++ t.unit.toList))

theorem share_exact {t : Target} (precise : t.precision ≤ 15) (share : t.share pixels = .finite s q) : Binary64.Exact q := by
  rcases Binary64.toPlaces_exact (x := pixels / t.width * 100) precise with ⟨⟨s', q', exact, found⟩, -⟩ | ⟨special, -⟩
  · cases found.symm.trans share
    exact exact
  · change (t.share pixels).isFinite = false at special
    rw [share] at special
    cases special

theorem literal_written {t : Target} (above : Above t.width) (precise : t.precision ≤ 15)
    (denotes : Denotes number (Length.magnitude number)) (unit : List Char) :
    Literal unit t number ((t.convert? (Length.magnitude number)).getD (number ++ unit)) := by
  have signed := Target.share_signed above precise (denotes_signed denotes)
  cases found : t.convert? (Length.magnitude number) with
  | none => exact .kept found
  | some text =>
    have converted : t.convert? (Length.magnitude number) ≠ none := by simp [found]
    unfold Target.convert? at found
    split at found
    · cases found
    · split at found
      · cases found
        exact .zero
      · rename_i other
        cases found
        rw [Option.getD_some, Binary64.css, if_neg other]
        cases share : t.share (Length.magnitude number) with
        | nan =>
          rw [share] at signed
          cases signed
        | infinite s =>
          rw [share] at signed
          cases signed
          have text : Binary64.chars .plain (.infinite (negative number)) = minus (negative number) ++ infinity := by
            cases negative number <;> rfl
          rw [text, List.append_assoc]
          exact .infinite converted (by rw [share]; rfl)
        | finite s q =>
          rw [share] at signed
          cases signed
          have some : q ≠ 0 := by
            rintro rfl
            rw [share] at other
            exact other rfl
          obtain ⟨body, d, text, written, -⟩ := Binary64.chars_positional (share_exact precise share) some (negative number)
          rw [text]
          exact .finite written

end FluidSheet
