import FluidSheet.Proofs.Length.Number
import FluidSheet.Proofs.Length.Segment

namespace FluidSheet

theorem mantissa_letters (mantissa : Mantissa cs d) : ∀ c ∈ cs, ¬ PowerLetter c := by
  have digit : ∀ c : Char, c.isDigit = true → ¬ PowerLetter c := fun c digit => (digit_sign digit).2.2.2
  cases mantissa with
  | whole digits => exact fun c member => digit c (digits.2 c member)
  | fraction front digits =>
    refine List.forall_mem_append.mpr ⟨fun c member => digit c (front c member), ?_⟩
    exact List.forall_mem_cons.mpr ⟨by simp [PowerLetter], fun c member => digit c (digits.2 c member)⟩

theorem power_letters (power : Power (e :: back) k) : ∀ c ∈ back, ¬ PowerLetter c := by
  have digit : ∀ c : Char, c.isDigit = true → ¬ PowerLetter c := fun c digit => (digit_sign digit).2.2.2
  cases power with
  | bare _ digits => exact fun c member => digit c (digits.2 c member)
  | raised _ digits | lowered _ digits =>
    exact List.forall_mem_cons.mpr ⟨by simp [PowerLetter], fun c member => digit c (digits.2 c member)⟩

theorem letter_unique (same : front ++ e :: back = front' ++ e' :: back') (letter' : PowerLetter e')
    (before : ∀ c ∈ front, ¬ PowerLetter c) (after : ∀ c ∈ back, ¬ PowerLetter c) :
    front = front' ∧ e :: back = e' :: back' := by
  rcases List.append_eq_append_iff.mp same with ⟨between, rfl, behind⟩ | ⟨between, rfl, behind⟩
  · cases between with
    | nil => exact ⟨(List.append_nil _).symm, behind⟩
    | cons c between =>
      obtain ⟨rfl, rfl⟩ := List.cons.inj behind
      exact absurd letter' (after e' (by simp))
  · cases between with
    | nil => exact ⟨List.append_nil _, behind.symm⟩
    | cons c between =>
      obtain ⟨rfl, rfl⟩ := List.cons.inj behind
      exact absurd letter' (before e' (by simp))

-- A numeral with a letter in it: behind is its exponent, before it a numeral without one.
structure Divided (front : List Char) (e : Char) (back : List Char) : Prop where
  before : ∀ c ∈ front, ¬ PowerLetter c
  power : ∃ k, Power (e :: back) k

theorem unsigned_divided (unsigned : Unsigned (front ++ e :: back) d) (letter : PowerLetter e) :
    Divided front e back ∧ ∃ d, Unsigned front d := by
  generalize whole : front ++ e :: back = cs at unsigned
  cases unsigned with
  | plain mantissa => exact absurd letter (mantissa_letters mantissa e (by simp [← whole]))
  | scaled mantissa power =>
    obtain ⟨e', back', rfl, -⟩ := power_opens power
    have before := mantissa_letters mantissa
    obtain ⟨rfl, same⟩ := letter_unique whole.symm letter before (power_letters power)
    exact ⟨⟨before, _, same ▸ power⟩, _, .plain mantissa⟩

theorem denotes_divided (denotes : Denotes (front ++ e :: back) x) (letter : PowerLetter e) :
    Divided front e back ∧ ∃ y, Denotes front y := by
  generalize whole : front ++ e :: back = cs at denotes
  cases denotes with
  | positive unsigned =>
    subst whole
    obtain ⟨divided, d, unsigned⟩ := unsigned_divided unsigned letter
    exact ⟨divided, _, .positive unsigned⟩
  | negative unsigned =>
    cases front with
    | nil =>
      obtain ⟨rfl, -⟩ := List.cons.inj whole
      rcases letter with letter | letter <;> cases letter
    | cons c front =>
      obtain ⟨rfl, rfl⟩ := List.cons.inj whole
      obtain ⟨divided, d, unsigned⟩ := unsigned_divided unsigned letter
      exact ⟨⟨List.forall_mem_cons.mpr ⟨by simp [PowerLetter], divided.before⟩, divided.power⟩, _, .negative unsigned⟩

-- A text that goes on alike behind a first part repeats that part.
theorem rotation (some : x ≠ []) (same : x ++ (unit ++ rest) = unit ++ behind) : ∃ k p t, x = p ++ t ∧ t ≠ [] ∧
    unit = (List.replicate k x).flatten ++ p ∧ behind = t ++ (p ++ rest) := by
  induction size : unit.length using Nat.strong_induction_on generalizing unit with
  | _ n ih =>
    rcases List.append_eq_append_iff.mp same with ⟨a, rfl, later⟩ | ⟨t, rfl, rfl⟩
    · rw [List.append_assoc] at later
      have shorter : a.length < n := by
        have positive := List.length_pos_of_ne_nil some
        rw [← size, List.length_append]
        omega
      obtain ⟨k, p, t, parts, more, again, last⟩ := ih a.length shorter later rfl
      refine ⟨k + 1, p, t, parts, more, ?_, last⟩
      rw [List.replicate_succ, List.flatten_cons, List.append_assoc, ← again]
    · by_cases whole : t = []
      · subst whole
        exact ⟨1, [], unit, by simp, by simpa using some, by simp, by simp⟩
      · exact ⟨0, unit, t, rfl, whole, rfl, rfl⟩

namespace Length
variable {unit cs n r : List Char}

-- A number with a signed exponent, and a unit of that exponent, so many times, and its letter.
def Echo (mantissa number unit : List Char) : Prop :=
  ∃ e s ds k, number = mantissa ++ e :: s :: ds ∧ PowerLetter e ∧ (s = '+' ∨ s = '-') ∧ Digits ds ∧
    unit = (List.replicate k (e :: s :: ds)).flatten ++ [e]

theorem echo_unique (denotes : Denotes n x) (echo : Echo m n unit) (echo' : Echo m' n unit) : m = m' := by
  obtain ⟨e, s, ds, k, rfl, letter, -⟩ := echo
  obtain ⟨e', s', ds', k', same, letter', -⟩ := echo'
  obtain ⟨⟨before, _, power⟩, -⟩ := denotes_divided denotes letter
  exact (letter_unique same letter' before (power_letters power)).1

theorem digit_bounds {c : Char} (digit : c.isDigit = true) : 48 ≤ c.toNat ∧ c.toNat ≤ 57 := by
  simp only [Char.isDigit, Bool.and_eq_true, decide_eq_true_eq, ge_iff_le, UInt32.le_iff_toNat_le] at digit
  have zero : '0'.val.toNat = 48 := rfl
  have nine : '9'.val.toNat = 57 := rfl
  have same : c.toNat = c.val.toNat := rfl
  omega

theorem alphabetic_numeric (alphabetic : Text.isAlphabetic c = true) (numeric : Numeric c) : PowerLetter c := by
  have others : ∀ c ∈ ['-', '.', 'e', 'E', '+'], c.toNat < 0x80 ∧ (c.isAlpha = true → c = 'e' ∨ c = 'E') := by simp
  have small : c.toNat < 0x80 := by
    rcases numeric with digit | other
    · exact Nat.lt_of_le_of_lt (digit_bounds digit).2 (by decide)
    · exact (others c other).1
  rw [Text.isAlphabetic, if_pos small] at alphabetic
  rcases numeric with digit | other
  · rw [digit_letter digit] at alphabetic
    cases alphabetic
  · exact (others c other).2 alphabetic

theorem word_digit {c : Char} (digit : c.isDigit = true) : CharSet.word.has c = true := by
  obtain ⟨low, high⟩ := digit_bounds digit
  have all : ∀ n ≤ 9, CharSet.word.has (Char.ofNat (48 + n)) = true := by decide +kernel
  have word := all (c.toNat - 48) (by omega)
  rwa [Nat.add_sub_cancel' low, Char.ofNat_toNat] at word

theorem word_letter (letter : PowerLetter e) : CharSet.word.has e = true := by
  rcases letter with rfl | rfl <;> decide +kernel

theorem scan_occurs (unit cs : List Char) : ∀ m, .length m ∈ scan unit 0 cs →
    ∃ front rest, cs = front ++ m ++ (unit ++ rest) ∧ unitEnds unit rest = true ∧ EndsInDigit m := by
  intro m member
  obtain ⟨front, back, rest, rfl, here⟩ := scan_lengths unit cs m member
  obtain ⟨rfl, digit⟩ := length_whole here
  exact ⟨front, rest, by simp, (length_number here).2, digit⟩

theorem ends_last (digit : EndsInDigit (front ++ p)) (some : p ≠ []) : EndsInDigit p := by
  obtain ⟨p, d, rfl⟩ := List.eq_nil_or_concat p |>.resolve_left some
  obtain ⟨whole, d', same, digit⟩ := digit
  rw [List.concat_eq_append, ← List.append_assoc] at same
  obtain ⟨-, same⟩ := List.append_inj' same rfl
  cases same
  exact ⟨p, d, List.concat_eq_append, digit⟩

theorem denotes_numeric (denotes : Denotes n x) : ∀ c ∈ n, Numeric c := by
  have found : (n, []) ∈ numberEnds n := (gives_numeral n _).mpr ⟨List.append_nil n, x, denotes⟩
  exact numberEnds_spelled n _ found

-- Behind the number there are too few digits for another one before the unit.
theorem no_further (same : unit ++ r = p ++ (unit ++ rest)) (none : ∀ c ∈ r, c.isDigit = false) (ends : EndsInDigit p) : False := by
  obtain ⟨front, d, rfl, digit⟩ := ends
  have few : r.countP Char.isDigit = 0 := List.countP_eq_zero.mpr fun c member => by simp [none c member]
  have count := congrArg (List.countP Char.isDigit) same
  simp only [List.countP_append, List.countP_singleton, digit, few] at count
  simp at count
  omega

theorem power_word (power : Power x k) : ∀ c ∈ x, CharSet.word.has c = true ∨ c = '+' ∨ c = '-' := by
  have digit : ∀ {ds : List Char}, Digits ds → ∀ c ∈ ds, CharSet.word.has c = true ∨ c = '+' ∨ c = '-' :=
    fun digits c member => .inl (word_digit (digits.2 c member))
  cases power with
  | bare letter digits => exact List.forall_mem_cons.mpr ⟨.inl (word_letter letter), digit digits⟩
  | raised letter digits =>
    exact List.forall_mem_cons.mpr ⟨.inl (word_letter letter), List.forall_mem_cons.mpr ⟨.inr (.inl rfl), digit digits⟩⟩
  | lowered letter digits =>
    exact List.forall_mem_cons.mpr ⟨.inl (word_letter letter), List.forall_mem_cons.mpr ⟨.inr (.inr rfl), digit digits⟩⟩

-- The last character of a unit is no sign, and nothing else in an exponent is outside of words.
theorem repeats_word (power : Power x k) (bounded : needsBoundary unit = true) (inside : ∀ c ∈ unit, c ∈ x) :
    endsWord unit = true := by
  unfold needsBoundary at bounded
  unfold endsWord
  cases last : unit.getLast? with
  | none =>
    rw [last] at bounded
    cases bounded
  | some c =>
    rw [last] at bounded
    rcases power_word power c (inside c (List.mem_of_getLast? last)) with word | rfl | rfl
    · exact word
    · revert bounded
      decide +kernel
    · revert bounded
      decide +kernel

theorem outside_sign (letter : PowerLetter e) (digits : Digits ds) (other : CharSet.word.has c = false)
    (parts : e :: s :: ds = p ++ c :: t) : p = [e] := by
  cases p with
  | nil =>
    obtain ⟨rfl, -⟩ := List.cons.inj parts
    rw [word_letter letter] at other
    cases other
  | cons e' p =>
    obtain ⟨rfl, behind⟩ := List.cons.inj parts
    cases p with
    | nil => rfl
    | cons s' p =>
      obtain ⟨-, among⟩ := List.cons.inj behind
      have member : c ∈ ds := by
        rw [among]
        exact List.mem_append_right _ List.mem_cons_self
      rw [word_digit (digits.2 c member)] at other
      cases other

theorem echo_within (bounded : needsBoundary unit = true) (ends : unitEnds unit rest = true) (power : Power x k)
    (same : x ++ (unit ++ r) = unit ++ rest) :
    ∃ e s ds k, x = e :: s :: ds ∧ PowerLetter e ∧ (s = '+' ∨ s = '-') ∧ Digits ds ∧ unit = (List.replicate k x).flatten ++ [e] := by
  obtain ⟨e, back, rfl, letter⟩ := power_opens power
  obtain ⟨times, p, t, parts, some, repeated, rfl⟩ := rotation (List.cons_ne_nil e back) same
  have word : endsWord unit = true := by
    refine repeats_word power bounded fun c member => ?_
    rw [repeated] at member
    rcases List.mem_append.mp member with early | late
    · obtain ⟨x, again, here⟩ := List.mem_flatten.mp early
      rwa [(List.mem_replicate.mp again).2] at here
    · exact parts ▸ List.mem_append_left _ late
  obtain ⟨c, t, rfl⟩ := List.exists_cons_of_ne_nil some
  have other : CharSet.word.has c = false := by
    rw [unitEnds, bounded, word] at ends
    simpa [startsWord] using ends
  have inside : c ∈ e :: back := by simp [parts]
  cases power with
  | bare _ digits =>
    rcases List.mem_cons.mp inside with rfl | member
    · rw [word_letter letter] at other
      cases other
    · rw [word_digit (digits.2 c member)] at other
      cases other
  | raised _ digits =>
    cases outside_sign letter digits other parts
    exact ⟨e, '+', _, times, rfl, letter, .inl rfl, digits, repeated⟩
  | lowered _ digits =>
    cases outside_sign letter digits other parts
    exact ⟨e, '-', _, times, rfl, letter, .inr rfl, digits, repeated⟩

-- The unit stands behind the number, or within it where there is an echo.
theorem occurs_cases (opens : ∃ c ∈ unit.head?, Text.isAlphabetic c = true) (bounded : needsBoundary unit = true)
    (denotes : Denotes n x) (none : ∀ c ∈ r, c.isDigit = false)
    (same : n ++ (unit ++ r) = f ++ (unit ++ rest)) (digit : EndsInDigit f) (ends : unitEnds unit rest = true) :
    f = n ∧ rest = r ∨ Echo f n unit := by
  rcases List.append_eq_append_iff.mp same with ⟨p, rfl, further⟩ | ⟨s, rfl, further⟩
  · by_cases empty : p = []
    · subst empty
      exact .inl ⟨List.append_nil n, (List.append_cancel_left further).symm⟩
    · exact (no_further further none (ends_last digit empty)).elim
  · by_cases empty : s = []
    · subst empty
      exact .inl ⟨(List.append_nil f).symm, List.append_cancel_left further⟩
    · right
      obtain ⟨e, back, rfl⟩ := List.exists_cons_of_ne_nil empty
      have letter : PowerLetter e := by
        obtain ⟨c, first, alphabetic⟩ := opens
        obtain ⟨letters, rfl⟩ := List.head?_eq_some_iff.mp first
        obtain ⟨rfl, -⟩ := List.cons.inj further
        exact alphabetic_numeric alphabetic (denotes_numeric denotes _ (List.mem_append_right f List.mem_cons_self))
      obtain ⟨⟨-, k, power⟩, -⟩ := denotes_divided denotes letter
      obtain ⟨e', s, ds, times, parts, letter', sign, digits, repeated⟩ := echo_within bounded ends power further.symm
      cases parts
      exact ⟨e, s, ds, times, rfl, letter', sign, digits, repeated⟩

theorem numbers_none {pieces : List Piece} (none : ∀ m, .length m ∉ pieces) :
    pieces.filterMap (fun piece => piece.number?.map magnitude) = [] := by
  rw [List.filterMap_eq_nil_iff]
  intro piece member
  cases piece with
  | plain | sealed => rfl
  | length m => exact absurd member (none m)

theorem digitless_none (none : ∀ c ∈ r, c.isDigit = false) (unit : List Char) : ∀ m, .length m ∉ scan unit 0 r := by
  intro m member
  obtain ⟨front, rest, rfl, -, before, d, rfl, digit⟩ := scan_occurs unit r m member
  rw [none d (by simp)] at digit
  cases digit

theorem denotes_outside (denotes : Denotes n x) (rest : List Char) : sealed? (n ++ rest) = none := by
  obtain ⟨c, back, rfl⟩ := denotes_cons denotes
  exact sealed_outside (numeric_outside (denotes_numeric denotes c List.mem_cons_self) _)

theorem afterUnit_behind (ends : unitEnds unit rest = true) : afterUnit? unit (unit ++ rest) = some rest := by
  unfold afterUnit?
  rw [List.isPrefixOf_iff_prefix.mpr (List.prefix_append unit rest), List.drop_left, ends]
  rfl

theorem length_there (denotes : Denotes n x) (ends : unitEnds unit rest = true) : length? unit (n ++ (unit ++ rest)) ≠ none := by
  intro none
  have member : (n, unit ++ rest) ∈ numberEnds (n ++ (unit ++ rest)) := (gives_numeral _ _).mpr ⟨rfl, x, denotes⟩
  have here := List.findSome?_eq_none_iff.mp none _ member
  rw [Option.map_eq_none_iff, afterUnit_behind ends] at here
  cases here

theorem alphabetic_stops (opens : ∃ c ∈ unit.head?, Text.isAlphabetic c = true) (rest : List Char) :
    Binary64.Stops (unit ++ rest) := by
  obtain ⟨c, first, alphabetic⟩ := opens
  obtain ⟨letters, rfl⟩ := List.head?_eq_some_iff.mp first
  intro d here
  cases here
  have letter := alphabetic_numeric alphabetic
  refine ⟨Bool.eq_false_of_not_eq_true fun digit => (digit_sign digit).2.2.2 (letter (.inl digit)), ?_⟩
  rintro rfl
  rcases letter (.inr (by decide)) with same | same <;> cases same

theorem length_first (opens : ∃ c ∈ unit.head?, Text.isAlphabetic c = true) (denotes : Denotes n x)
    (none : ∀ c ∈ r, c.isDigit = false) (ends : unitEnds unit r = true) : length? unit (n ++ (unit ++ r)) = some (n, r) := by
  obtain ⟨longer, others, same, further⟩ := numeral_first denotes (alphabetic_stops opens r)
  unfold length?
  rw [same, List.findSome?_append, (List.findSome?_eq_none_iff.mpr ?_ : List.findSome? _ longer = .none), Option.none_or,
    List.findSome?_cons]
  · dsimp only
    rw [afterUnit_behind ends]
    rfl
  · rintro ⟨m, behind⟩ member
    rw [Option.map_eq_none_iff, Option.eq_none_iff_forall_ne_some]
    intro rest found
    obtain ⟨p, some, rfl⟩ := further _ member
    obtain ⟨rfl, -⟩ := afterUnit_exact found
    obtain ⟨whole, digit⟩ := numberEnds_cuts _ _ (same ▸ List.mem_append_left _ member)
    rw [List.append_assoc] at whole
    exact no_further (List.append_cancel_left whole).symm none (ends_last digit some)

theorem scan_length (closed : sealed? cs = none) (found : length? unit cs = some (m, rest)) :
    scan unit 0 cs = .length m :: scan unit 0 rest :=
  scan_token (token_exact.mpr (.length closed found))

-- The exponent once more than the unit repeats it is the unit and what is behind its letter.
theorem echo_again (x tail : List Char) (k : Nat) :
    e :: x ++ ((List.replicate k (e :: x)).flatten ++ [e] ++ tail) =
      (List.replicate k (e :: x)).flatten ++ [e] ++ (x ++ e :: tail) := by
  have turn : e :: x ++ (List.replicate k (e :: x)).flatten = (List.replicate k (e :: x)).flatten ++ (e :: x) := by
    rw [← List.flatten_cons, ← List.replicate_succ, List.replicate_succ', List.flatten_append, List.flatten_singleton]
  simp only [← List.append_assoc, turn]
  simp

theorem echo_word (echo : Echo m n unit) : endsWord unit = true := by
  obtain ⟨e, s, ds, k, -, letter, -, -, rfl⟩ := echo
  rw [endsWord, List.getLast?_concat, Option.any_some, word_letter letter]

theorem echo_length (bounded : needsBoundary unit = true) (denotes : Denotes n x) (echo : Echo m n unit) (r : List Char) :
    length? unit (n ++ (unit ++ r)) ≠ none := by
  have word := echo_word echo
  obtain ⟨e, s, ds, k, rfl, letter, sign, -, repeated⟩ := echo
  have again : e :: s :: ds ++ (unit ++ r) = unit ++ (s :: ds ++ e :: r) := by
    rw [repeated]
    exact echo_again (s :: ds) r k
  have ends : unitEnds unit (s :: ds ++ e :: r) = true := by
    have other : CharSet.word.has s = false := by rcases sign with rfl | rfl <;> decide +kernel
    rw [unitEnds, bounded, word]
    simpa [startsWord] using other
  obtain ⟨-, y, numeral⟩ := denotes_divided denotes letter
  rw [List.append_assoc, again]
  exact length_there numeral ends

-- Where no word ends or starts behind the unit there are echoes only, and no two of them.
theorem echo_occurs (opens : ∃ c ∈ unit.head?, Text.isAlphabetic c = true) (bounded : needsBoundary unit = true)
    (denotes : Denotes n x) (none : ∀ c ∈ r, c.isDigit = false) (level : unitEnds unit r = false)
    (same : n ++ (unit ++ r) = f ++ (unit ++ rest)) (digit : EndsInDigit f) (ends : unitEnds unit rest = true) :
    Echo f n unit := by
  rcases occurs_cases opens bounded denotes none same digit ends with ⟨-, rfl⟩ | echo
  · rw [level] at ends
    cases ends
  · exact echo

theorem echo_alone (opens : ∃ c ∈ unit.head?, Text.isAlphabetic c = true) (bounded : needsBoundary unit = true)
    (denotes : Denotes n x) (none : ∀ c ∈ r, c.isDigit = false) (level : unitEnds unit r = false)
    (echo : Echo m n unit) (same : n ++ (unit ++ r) = m ++ (unit ++ rest)) : ∀ m', .length m' ∉ scan unit 0 rest := by
  intro m' member
  obtain ⟨front, behind, rfl, ends, digit⟩ := scan_occurs unit rest m' member
  have later : n ++ (unit ++ r) = m ++ unit ++ front ++ m' ++ (unit ++ behind) := by
    rw [same]
    simp
  have echo' := echo_occurs opens bounded denotes none level later (ends_behind _ digit) ends
  have size := congrArg List.length (echo_unique denotes echo echo')
  obtain ⟨before, d, rfl, -⟩ := digit
  simp at size

section
variable {number unit rest : String} (opens : ∃ c ∈ unit.toList.head?, Text.isAlphabetic c = true)
  (bounded : needsBoundary unit.toList = true) (denotes : Denotes number.toList x)
  (none : ∀ c ∈ rest.toList, c.isDigit = false)
include opens denotes none

theorem magnitudes_ends (ends : unitEnds unit.toList rest.toList = true) : magnitudes unit (number ++ unit ++ rest) = [x] := by
  have whole : (number ++ unit ++ rest).toList = number.toList ++ (unit.toList ++ rest.toList) := by simp
  rw [magnitudes, whole, scan_length (denotes_outside denotes _) (length_first opens denotes none ends),
    ← denotes_magnitude denotes]
  exact congrArg _ (numbers_none (digitless_none none unit.toList))

include bounded

theorem magnitudes_echo (level : unitEnds unit.toList rest.toList = false) (echo : Echo m number.toList unit.toList) :
    magnitudes unit (number ++ unit ++ rest) = [magnitude m] := by
  have whole : (number ++ unit ++ rest).toList = number.toList ++ (unit.toList ++ rest.toList) := by simp
  obtain ⟨⟨m', behind⟩, found⟩ := Option.ne_none_iff_exists'.mp (echo_length bounded denotes echo rest.toList)
  obtain ⟨same, digit⟩ := length_whole found
  rw [List.append_assoc] at same
  have echo' := echo_occurs opens bounded denotes none level same.symm digit (length_number found).2
  obtain rfl := echo_unique denotes echo echo'
  rw [magnitudes, whole, scan_length (denotes_outside denotes _) found]
  exact congrArg _ (numbers_none (echo_alone opens bounded denotes none level echo same.symm))

theorem magnitudes_level (level : unitEnds unit.toList rest.toList = false)
    (other : ∀ m, ¬ Echo m number.toList unit.toList) : magnitudes unit (number ++ unit ++ rest) = [] := by
  have whole : (number ++ unit ++ rest).toList = number.toList ++ (unit.toList ++ rest.toList) := by simp
  rw [magnitudes, whole]
  refine numbers_none fun m member => ?_
  obtain ⟨front, behind, same, ends, digit⟩ := scan_occurs unit.toList _ m member
  exact other _ (echo_occurs opens bounded denotes none level same (ends_behind front digit) ends)

end

-- What is behind the unit is nothing, or neither in names nor in words.
def Stops (rest : List Char) : Prop := ∀ c ∈ rest.head?, Text.isAlphanumeric c = false ∧ CharSet.word.has c = false

-- What is behind the unit goes on like a name.
def RunsOn (rest : List Char) : Prop := ∃ c ∈ rest.head?, Text.isAlphabetic c = true ∨ c = '_'

theorem stops_word (stops : Stops r) : startsWord r = false := by
  unfold startsWord
  cases first : r.head? with
  | none => rfl
  | some c => exact (stops c first).2

-- So the unit is told from a longer name by what ends the one and begins the other only as far as words
-- have the same characters as names.
theorem magnitudes_boundary (number unit rest : String) (opens : ∃ c ∈ unit.toList.head?, Text.isAlphabetic c = true)
    (bounded : needsBoundary unit.toList = true) (denotes : Denotes number.toList x)
    (none : ∀ c ∈ rest.toList, c.isDigit = false) :
    let offered := magnitudes unit (number ++ unit ++ rest)
    (endsWord unit.toList ≠ startsWord rest.toList → offered = [x]) ∧
    (endsWord unit.toList = startsWord rest.toList →
      (∀ m, Echo m number.toList unit.toList → offered = [magnitude m]) ∧
      ((∀ m, ¬ Echo m number.toList unit.toList) → offered = [])) ∧
    ((Stops rest.toList → offered = [x]) ∧ (RunsOn rest.toList → offered = []) ↔
      (Stops rest.toList → endsWord unit.toList = true) ∧
      (RunsOn rest.toList → endsWord unit.toList = startsWord rest.toList ∧ ∀ m, ¬ Echo m number.toList unit.toList)) := by
  intro offered
  have ends : unitEnds unit.toList rest.toList = (endsWord unit.toList != startsWord rest.toList) := by
    rw [unitEnds, bounded]
    rfl
  have apart : endsWord unit.toList ≠ startsWord rest.toList → offered = [x] := by
    intro other
    exact magnitudes_ends opens denotes none (by rw [ends, bne_iff_ne]; exact other)
  have level : endsWord unit.toList = startsWord rest.toList → unitEnds unit.toList rest.toList = false := by
    intro same
    rw [ends, same, bne_self_eq_false]
  have echoed : endsWord unit.toList = startsWord rest.toList → ∀ m, Echo m number.toList unit.toList → offered = [magnitude m] :=
    fun same m echo => magnitudes_echo opens bounded denotes none (level same) echo
  have silent : endsWord unit.toList = startsWord rest.toList → (∀ m, ¬ Echo m number.toList unit.toList) → offered = [] :=
    fun same other => magnitudes_level opens bounded denotes none (level same) other
  refine ⟨apart, fun same => ⟨echoed same, silent same⟩, and_congr ?_ ?_⟩
  · refine forall_congr' fun stops => ⟨fun found => ?_, fun word => apart ?_⟩
    · by_contra other
      have same : endsWord unit.toList = startsWord rest.toList := by
        rw [stops_word stops]
        exact Bool.eq_false_iff.mpr other
      have nothing := silent same fun m echo => other (echo_word echo)
      rw [found] at nothing
      cases nothing
    · rw [word, stops_word stops]
      decide
  · refine forall_congr' fun _ => ⟨fun nothing => ?_, fun ⟨same, other⟩ => silent same other⟩
    have same : endsWord unit.toList = startsWord rest.toList := by
      by_contra other
      rw [apart other] at nothing
      cases nothing
    refine ⟨same, fun m echo => ?_⟩
    rw [echoed same m echo] at nothing
    cases nothing

theorem magnitudes_boundary_pixels :
    magnitudes "px" ("10" ++ "px" ++ ";") = [10] ∧ magnitudes "px" ("10" ++ "px" ++ "a") = [] ∧
      magnitudes "x²" ("10" ++ "x²" ++ "a") = [10] := by
  have ten : (⟨Decimal.ofDigits "10".toList, 0⟩ : Decimal).toBinary64 false = 10 := by decide +kernel
  have denotes : Denotes "10".toList 10 := ten ▸ .positive (.plain (.whole ⟨by simp, by simp⟩))
  have opens : ∃ c ∈ "px".toList.head?, Text.isAlphabetic c = true := ⟨'p', rfl, by decide +kernel⟩
  have opens' : ∃ c ∈ "x²".toList.head?, Text.isAlphabetic c = true := ⟨'x', rfl, by decide +kernel⟩
  have bounded : needsBoundary "px".toList = true := by decide +kernel
  have bounded' : needsBoundary "x²".toList = true := by decide +kernel
  refine ⟨(magnitudes_boundary "10" "px" ";" opens bounded denotes (by simp)).1 (by decide +kernel), ?_,
    (magnitudes_boundary "10" "x²" "a" opens' bounded' denotes (by simp)).1 (by decide +kernel)⟩
  refine ((magnitudes_boundary "10" "px" "a" opens bounded denotes (by simp)).2.1 (by decide +kernel)).2 ?_
  rintro m ⟨e, s, ds, k, same, letter, -⟩
  have member : e ∈ "10".toList := by simp [same]
  rcases letter with rfl | rfl <;> revert member <;> decide

-- The number gives its exponent back to a unit that is its letter. A unit that ends in a number
-- which is no word character is found only where a word follows, and the newest letters begin none.
theorem boundary_slips :
    (Text.isAlphabetic 'e' = true ∧ Text.isAlphabetic 'a' = true ∧ (∃ x, Denotes "1e+5".toList x) ∧
      magnitudes "e" ("1e+5" ++ "e" ++ "a") = [1]) ∧
    (Text.isAlphabetic 'x' = true ∧ Text.isAlphanumeric '²' = true ∧ magnitudes "x²" ("10" ++ "x²" ++ "") = []) ∧
    Text.isAlphabetic '\ua7ce' = true ∧ magnitudes "px" ("10" ++ "px" ++ "\ua7ce") = [10] := by
  have mantissa : Mantissa ['1'] _ := .whole ⟨by simp, by simp⟩
  have power : Power ['e', '+', '5'] _ := .raised (.inl rfl) ⟨by simp, by simp⟩
  refine ⟨⟨?_, ?_, ⟨_, .positive (.scaled mantissa power)⟩, ?_⟩, ⟨?_, ?_, ?_⟩, ?_, ?_⟩ <;> decide +kernel

end Length
end FluidSheet
