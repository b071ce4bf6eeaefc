import FluidSheet.Length.Target
import FluidSheet.Proofs.Length.Scan

-- What is written for a length ends in other letters than the length did, or else has fewer digits.

namespace FluidSheet

def Word (unit : List Char) : Prop := ∀ c ∈ unit, c.isAlpha = true

-- The letters at the end, last one first.
def ending (cs : List Char) : List Char := cs.reverse.takeWhile Char.isAlpha

theorem ending_word (word : Word unit) (front : List Char) : ending (front ++ unit) = unit.reverse ++ ending front := by
  unfold ending
  rw [List.reverse_append, List.takeWhile_append_of_pos]
  exact fun c member => word c (List.mem_reverse.mp member)

theorem ending_digit (ends : EndsInDigit cs) : ending cs = [] := by
  obtain ⟨front, d, rfl, digit⟩ := ends
  simp [ending, digit_letter digit]

theorem word_letters (word : Word unit) : unit.countP Char.isAlpha = unit.length := List.countP_eq_length.mpr word

theorem word_digits (word : Word unit) : unit.countP Char.isDigit = 0 := by
  rw [List.countP_eq_zero]
  intro c member digit
  have letter := word c member
  rw [digit_letter digit] at letter
  cases letter

theorem unlettered_count (unlettered : Unlettered cs) : cs.countP Char.isAlpha = 0 := by
  rw [List.countP_eq_zero]
  intro c member letter
  rw [unlettered c member] at letter
  cases letter

inductive Written (unit : List Char) : List Char → Prop where
  | zero : Written unit ['0']
  | number (ends : EndsInDigit body) (unlettered : Unlettered body) : Written unit (body ++ unit)
  | special (plain : sign = [] ∨ sign = ['-']) (name : word = ['i', 'n', 'f'] ∨ word = ['N', 'a', 'N']) :
      Written unit (sign ++ word ++ unit)

namespace Target

theorem convert_none (t : Target) (pixels : Binary64) : t.convert? pixels = none ↔ pixels.abs.lt t.minimum = true := by
  unfold convert?
  split
  · simp_all
  · split <;> simp_all

theorem convert_written (t : Target) (found : t.convert? pixels = some text) : Written t.unit.toList text := by
  unfold convert? at found
  split at found
  · cases found
  · split at found
    · cases found
      exact .zero
    · rename_i some
      cases found
      rw [Binary64.css, if_neg some]
      cases finite : (t.share pixels).isFinite with
      | true =>
        obtain ⟨ends, unlettered⟩ := Binary64.chars_finite finite
        exact .number ends unlettered
      | false =>
        obtain ⟨sign, name, text, plain, word⟩ := Binary64.chars_special finite
        rw [text]
        exact .special plain word

end Target

namespace Length
variable {unit : List Char} {t : Target}

-- Only a target unit that is shorter by a name can hide a conversion from the letters at the end.
theorem written_ending (word : Word unit) (some : unit ≠ []) (word' : Word t.unit.toList) (other : unit ≠ t.unit.toList)
    (written : Written t.unit.toList text) (ends : EndsInDigit number) (same : front ++ text = front' ++ (number ++ unit)) :
    t.unit.toList.length + 3 ≤ unit.length := by
  have tail : ending (front ++ text) = unit.reverse := by
    rw [same, ← List.append_assoc, ending_word word, ending_digit (ends_behind front' ends), List.append_nil]
  cases written with
  | zero =>
    have digit : EndsInDigit ['0'] := ⟨[], '0', rfl, rfl⟩
    rw [ending_digit (ends_behind front digit)] at tail
    exact absurd (List.reverse_eq_nil_iff.mp tail.symm) some
  | number ends' =>
    rw [← List.append_assoc, ending_word word', ending_digit (ends_behind front ends'), List.append_nil,
      List.reverse_inj] at tail
    exact absurd tail.symm other
  | @special sign called plain name =>
    have letters : Word called := by rcases name with rfl | rfl <;> simp [Word]
    have long : called.length = 3 := by rcases name with rfl | rfl <;> rfl
    rw [← List.append_assoc, ending_word word', ← List.append_assoc, ending_word letters] at tail
    have size := congrArg List.length tail
    simp only [List.length_append, List.length_reverse] at size
    omega

theorem replaced_cases (unit : List Char) (t : Target) (piece : Piece) :
    (replaced unit t.convert? piece = piece.text unit ∧
      ∀ number, piece = .length number → t.convert? (magnitude number) = none) ∨
    ∃ number, piece = .length number ∧ Written t.unit.toList (replaced unit t.convert? piece) := by
  cases piece with
  | plain | sealed => exact .inl ⟨rfl, fun _ same => by cases same⟩
  | length number =>
    cases found : t.convert? (magnitude number) with
    | none =>
      refine .inl ⟨?_, fun number' same => by cases same; exact found⟩
      rw [replaced, found]
      rfl
    | some text =>
      refine .inr ⟨number, rfl, ?_⟩
      rw [replaced, found, Option.getD_some]
      exact Target.convert_written t found

theorem same_ending (word : Word unit) (some : unit ≠ []) (word' : Word t.unit.toList) (other : unit ≠ t.unit.toList)
    (pieces : List Piece) (numbers : Numbers pieces)
    (same : pieces.flatMap (replaced unit t.convert?) = pieces.flatMap (Piece.text unit)) :
    (∀ number, .length number ∈ pieces → t.convert? (magnitude number) = none) ∨
      t.unit.toList.length + 3 ≤ unit.length := by
  induction pieces using List.reverseRecOn with
  | nil => exact .inl fun _ none => by cases none
  | append_singleton front last ih =>
    rw [List.flatMap_append, List.flatMap_append, List.flatMap_singleton, List.flatMap_singleton] at same
    rcases replaced_cases unit t last with ⟨still, kept⟩ | ⟨number, rfl, written⟩
    · rw [still] at same
      rcases ih (fun number member => numbers number (by simp [member])) (List.append_cancel_right same) with none | long
      · left
        intro number member
        rcases List.mem_append.mp member with early | here
        · exact none number early
        · exact kept number (List.mem_singleton.mp here).symm
      · exact .inr long
    · exact .inr (written_ending word some word' other written (numbers number (by simp)) same)

theorem count_each {f g : Piece → List Char} (p : Char → Bool) (pieces : List Piece)
    (fewer : ∀ piece ∈ pieces, (f piece).countP p ≤ (g piece).countP p) (same : pieces.flatMap f = pieces.flatMap g) :
    ∀ piece ∈ pieces, (f piece).countP p = (g piece).countP p := by
  have total := congrArg (List.countP p) same
  rw [List.countP_flatMap, List.countP_flatMap] at total
  clear same
  induction pieces with
  | nil => exact fun _ none => by cases none
  | cons piece rest ih =>
    have later := List.sum_le_sum fun i (member : i ∈ rest) => fewer i (List.mem_cons_of_mem _ member)
    have first := fewer piece List.mem_cons_self
    simp only [List.map_cons, List.sum_cons, Function.comp_apply] at total
    simp only [Function.comp_def] at total ih
    intro i member
    rcases List.mem_cons.mp member with rfl | member
    · omega
    · exact ih (fun i member => fewer i (List.mem_cons_of_mem _ member)) (by omega) i member

theorem written_letters (word' : Word t.unit.toList) (written : Written t.unit.toList text) :
    text.countP Char.isAlpha ≤ t.unit.toList.length ∨
      text.countP Char.isAlpha = t.unit.toList.length + 3 ∧ text.countP Char.isDigit = 0 := by
  cases written with
  | zero => exact .inl (Nat.zero_le _)
  | number _ unlettered =>
    left
    rw [List.countP_append, unlettered_count unlettered, word_letters word', Nat.zero_add]
  | special plain name =>
    right
    rw [List.countP_append, List.countP_append, List.countP_append, List.countP_append, word_letters word', word_digits word']
    rcases plain with rfl | rfl <;> rcases name with rfl | rfl <;> exact ⟨Nat.add_comm 3 _, rfl⟩

-- What was replaced cannot make up for itself elsewhere.
theorem replaced_fixed (word : Word unit) (some : unit ≠ []) (word' : Word t.unit.toList) (other : unit ≠ t.unit.toList)
    (pieces : List Piece) (numbers : Numbers pieces)
    (same : pieces.flatMap (replaced unit t.convert?) = pieces.flatMap (Piece.text unit)) :
    ∀ number, .length number ∈ pieces → t.convert? (magnitude number) = none := by
  rcases same_ending word some word' other pieces numbers same with none | long
  · exact none
  · -- By the count of letters only names can have been written, and these have no digits.
    have letters : ∀ piece ∈ pieces,
        (replaced unit t.convert? piece).countP Char.isAlpha ≤ (piece.text unit).countP Char.isAlpha := by
      intro piece _
      rcases replaced_cases unit t piece with ⟨still, _⟩ | ⟨number, rfl, written⟩
      · rw [still]
      · rw [Piece.text, List.countP_append, word_letters word]
        rcases written_letters word' written with few | ⟨most, _⟩ <;> omega
    have blank : ∀ number, .length number ∈ pieces → Written t.unit.toList (replaced unit t.convert? (.length number)) →
        (replaced unit t.convert? (.length number)).countP Char.isDigit = 0 := by
      intro number member written
      have balance := count_each Char.isAlpha pieces letters same _ member
      rw [Piece.text, List.countP_append, word_letters word] at balance
      rcases written_letters word' written with few | ⟨_, none⟩
      · omega
      · exact none
    have digits : ∀ piece ∈ pieces,
        (replaced unit t.convert? piece).countP Char.isDigit ≤ (piece.text unit).countP Char.isDigit := by
      intro piece member
      rcases replaced_cases unit t piece with ⟨still, _⟩ | ⟨number, rfl, written⟩
      · rw [still]
      · rw [blank number member written]
        exact Nat.zero_le _
    intro number member
    rcases replaced_cases unit t (.length number) with ⟨_, kept⟩ | ⟨_, _, written⟩
    · exact kept number rfl
    · have balance := count_each Char.isDigit pieces digits same _ member
      obtain ⟨front, d, rfl, digit⟩ := numbers number member
      rw [blank _ member written, Piece.text] at balance
      simp [digit] at balance

theorem below_kept (unit : String) (t : Target) (value : String) :
    (∀ m ∈ magnitudes unit value, m.abs.lt t.minimum = true) ↔
      ∀ number, .length number ∈ scan unit.toList 0 value.toList → t.convert? (magnitude number) = none := by
  simp only [magnitudes, List.mem_filterMap, Option.map_eq_some_iff, Target.convert_none]
  constructor
  · intro small number member
    exact small _ ⟨_, member, number, rfl, rfl⟩
  · rintro small m ⟨piece, member, number, found, rfl⟩
    cases piece with
    | length number' =>
      cases found
      exact small _ member
    | plain | sealed => cases found

-- A value stays as it is exactly when all its lengths are below the minimum.
theorem convert_fixed (unit : String) (t : Target) (value : String) (word : Word unit.toList) (some : unit ≠ "")
    (word' : Word t.unit.toList) (other : unit ≠ t.unit) :
    convert unit t value = value ↔ ∀ m ∈ magnitudes unit value, m.abs.lt t.minimum = true := by
  rw [below_kept]
  constructor
  · intro same
    apply replaced_fixed word (by simpa using some) word' (by simpa [String.toList_inj] using other) _ (scan_numbers _ _)
    have text := congrArg String.toList same
    rw [convert, replace, String.toList_ofList] at text
    rw [text, scan_text]
  · intro none
    unfold convert replace
    have still : (scan unit.toList 0 value.toList).flatMap (replaced unit.toList t.convert?) = value.toList := by
      refine (List.flatMap_congr fun piece member => ?_).trans (scan_text unit.toList value.toList)
      cases piece with
      | plain | sealed => rfl
      | length number => rw [replaced, none number member, Option.getD_none, Piece.text]
    rw [still, String.ofList_toList]

end Length
end FluidSheet
