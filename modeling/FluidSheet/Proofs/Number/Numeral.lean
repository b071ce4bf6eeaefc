import FluidSheet.Proofs.Number.Decimal

namespace FluidSheet

def Digits (ds : List Char) : Prop := ds ≠ [] ∧ ∀ c ∈ ds, c.isDigit = true

-- Digits, or a point with digits behind it and perhaps others before it.
inductive Mantissa : List Char → Decimal → Prop where
  | whole (digits : Digits ds) : Mantissa ds ⟨Decimal.ofDigits ds, 0⟩
  | fraction (front : ∀ c ∈ ws, c.isDigit = true) (digits : Digits ds) :
      Mantissa (ws ++ '.' :: ds) ⟨Decimal.ofDigits (ws ++ ds), -(ds.length : Int)⟩

def PowerLetter (e : Char) : Prop := e = 'e' ∨ e = 'E'

inductive Power : List Char → Int → Prop where
  | bare (letter : PowerLetter e) (digits : Digits ds) : Power (e :: ds) (Decimal.ofDigits ds)
  | raised (letter : PowerLetter e) (digits : Digits ds) : Power (e :: '+' :: ds) (Decimal.ofDigits ds)
  | lowered (letter : PowerLetter e) (digits : Digits ds) : Power (e :: '-' :: ds) (-(Decimal.ofDigits ds : Int))

inductive Unsigned : List Char → Decimal → Prop where
  | plain (mantissa : Mantissa cs d) : Unsigned cs d
  | scaled (mantissa : Mantissa cs d) (power : Power xs n) : Unsigned (cs ++ xs) ⟨d.digits, n + d.exponent⟩

-- A numeral, with the number that it denotes.
inductive Denotes : List Char → Binary64 → Prop where
  | positive (unsigned : Unsigned cs d) : Denotes cs (d.toBinary64 false)
  | negative (unsigned : Unsigned cs d) : Denotes ('-' :: cs) (d.toBinary64 true)

theorem digits_append (digits : Digits ds) (more : ∀ c ∈ cs, c.isDigit = true) : Digits (ds ++ cs) :=
  ⟨List.append_ne_nil_of_left_ne_nil digits.1 cs, List.forall_mem_append.mpr ⟨digits.2, more⟩⟩

theorem digit_sign {c : Char} (digit : c.isDigit = true) : c ≠ '-' ∧ c ≠ '+' ∧ c ≠ '.' ∧ ¬ PowerLetter c := by
  have other : ∀ d : Char, d.isDigit = false → c ≠ d := by
    rintro d none rfl
    rw [digit] at none
    cases none
  exact ⟨other _ rfl, other _ rfl, other _ rfl, fun letter => letter.elim (other _ rfl) (other _ rfl)⟩

theorem power_opens (power : Power xs n) : ∃ e back, xs = e :: back ∧ PowerLetter e := by
  cases power with
  | bare letter | raised letter | lowered letter => exact ⟨_, _, rfl, letter⟩

theorem mantissa_opens (mantissa : Mantissa cs d) : ∃ c back, cs = c :: back ∧ (c.isDigit = true ∨ c = '.') := by
  cases mantissa with
  | whole digits =>
    obtain ⟨c, back, rfl⟩ := List.exists_cons_of_ne_nil digits.1
    exact ⟨c, back, rfl, .inl (digits.2 c List.mem_cons_self)⟩
  | @fraction ws ds front digits =>
    cases ws with
    | nil => exact ⟨_, _, rfl, .inr rfl⟩
    | cons c ws => exact ⟨_, _, rfl, .inl (front c List.mem_cons_self)⟩

theorem mantissa_digit (mantissa : Mantissa cs d) : ∃ c ∈ cs, c.isDigit = true := by
  cases mantissa with
  | whole digits =>
    obtain ⟨c, back, rfl⟩ := List.exists_cons_of_ne_nil digits.1
    exact ⟨c, List.mem_cons_self, digits.2 c List.mem_cons_self⟩
  | @fraction ws ds front digits =>
    obtain ⟨c, back, rfl⟩ := List.exists_cons_of_ne_nil digits.1
    exact ⟨c, by simp, digits.2 c List.mem_cons_self⟩

theorem unsigned_opens (unsigned : Unsigned cs d) : ∃ c back, cs = c :: back ∧ (c.isDigit = true ∨ c = '.') := by
  cases unsigned with
  | plain mantissa => exact mantissa_opens mantissa
  | @scaled _ _ xs _ mantissa =>
    obtain ⟨c, back, rfl, opens⟩ := mantissa_opens mantissa
    exact ⟨c, back ++ xs, rfl, opens⟩

theorem denotes_cons (denotes : Denotes cs x) : ∃ c back, cs = c :: back := by
  cases denotes with
  | positive unsigned =>
    obtain ⟨c, back, rfl, -⟩ := unsigned_opens unsigned
    exact ⟨c, back, rfl⟩
  | negative => exact ⟨_, _, rfl⟩

theorem unsigned_digit (unsigned : Unsigned cs d) : ∃ c ∈ cs, c.isDigit = true := by
  cases unsigned with
  | plain mantissa => exact mantissa_digit mantissa
  | scaled mantissa =>
    obtain ⟨c, member, digit⟩ := mantissa_digit mantissa
    exact ⟨c, List.mem_append_left _ member, digit⟩

namespace Binary64
variable {cs ds xs rest body name : List Char} {c : Char} {d : Decimal}

theorem span_run (digits : ∀ c ∈ ds, c.isDigit = true) (stop : ∀ c ∈ rest.head?, c.isDigit = false) :
    (ds ++ rest).span Char.isDigit = (ds, rest) := by
  rw [List.span_eq_takeWhile_dropWhile, List.takeWhile_append_of_pos digits, List.dropWhile_append_of_pos digits]
  cases rest with
  | nil => simp
  | cons c rest => simp [stop c rfl]

theorem lower_digit (digit : c.isDigit = true) : c.toLower = c := by
  have small : c.isUpper = false := by
    have letter := digit_letter digit
    rw [Char.isAlpha, Bool.or_eq_false_iff] at letter
    exact letter.1
  simp only [Char.isUpper, decide_eq_false_iff_not] at small
  unfold Char.toLower
  rw [dif_neg small]

theorem name_other (member : c ∈ body) (digit : c.isDigit = true) (letters : ∀ d ∈ name, d.isDigit = false) :
    body.map Char.toLower ≠ name := by
  rintro rfl
  have none := letters c (List.mem_map.mpr ⟨c, member, lower_digit digit⟩)
  rw [digit] at none
  cases none

theorem natural_digits (digits : Digits ds) : Decimal.natural? ds = some (Decimal.ofDigits ds) := by
  unfold Decimal.natural?
  rw [if_neg]
  have all : ds.all Char.isDigit = true := List.all_eq_true.mpr digits.2
  rw [all, List.isEmpty_eq_false_iff.mpr digits.1]
  decide

theorem exponent_power (power : Power xs n) : Decimal.exponent? xs = some n := by
  cases power with
  | @bare e ds letter digits =>
    obtain ⟨c, back, rfl⟩ := List.exists_cons_of_ne_nil digits.1
    obtain ⟨minus, plus, -⟩ := digit_sign (digits.2 c List.mem_cons_self)
    have letter : e = 'e' ∨ e = 'E' := letter
    rw [Decimal.exponent?, if_pos letter, natural_digits digits]
    · rfl
    · exact fun _ same => minus (List.cons.inj same).1
    · exact fun _ same => plus (List.cons.inj same).1
  | @raised e _ letter digits =>
    have letter : e = 'e' ∨ e = 'E' := letter
    rw [Decimal.exponent?, if_pos letter, natural_digits digits]
    rfl
  | @lowered e _ letter digits =>
    have letter : e = 'e' ∨ e = 'E' := letter
    rw [Decimal.exponent?, if_pos letter, natural_digits digits]
    rfl

-- What follows a mantissa that is not read as a part of it.
def Stops (rest : List Char) : Prop := ∀ c ∈ rest.head?, c.isDigit = false ∧ c ≠ '.'

theorem read_mantissa (mantissa : Mantissa cs d) (stops : Stops rest) :
    Decimal.read? (cs ++ rest) = (Decimal.exponent? rest).map fun n => ⟨d.digits, n + d.exponent⟩ := by
  have ends : ∀ c ∈ rest.head?, c.isDigit = false := fun c first => (stops c first).1
  cases mantissa with
  | whole digits =>
    have none : Decimal.spanFraction rest = ([], rest) := by
      unfold Decimal.spanFraction
      split
      · exact absurd rfl (stops '.' rfl).2
      · rfl
    unfold Decimal.read?
    rw [span_run digits.2 ends]
    dsimp only
    rw [none, List.isEmpty_eq_false_iff.mpr digits.1, Bool.false_and, if_neg Bool.false_ne_true, List.append_nil]
    simp only [List.length_nil, Int.ofNat_zero, Int.sub_zero, Int.add_zero]
  | @fraction ws ds front digits =>
    have stop : ∀ c ∈ ('.' :: (ds ++ rest)).head?, c.isDigit = false := by
      intro c first
      cases first
      rfl
    have part : Decimal.spanFraction ('.' :: (ds ++ rest)) = (ds, rest) := span_run digits.2 ends
    unfold Decimal.read?
    rw [List.append_assoc, List.cons_append, span_run front stop]
    dsimp only
    rw [part, List.isEmpty_eq_false_iff.mpr digits.1, Bool.and_false, if_neg Bool.false_ne_true]
    rfl

theorem read_unsigned (unsigned : Unsigned cs d) : Decimal.read? cs = some d := by
  cases unsigned with
  | plain mantissa =>
    have stops : Stops [] := fun _ none => by cases none
    have read := read_mantissa mantissa stops
    rw [List.append_nil] at read
    rw [read, Decimal.exponent?]
    simp
  | @scaled _ _ xs _ mantissa power =>
    have stops : Stops xs := by
      intro c first
      obtain ⟨e, back, rfl, letter⟩ := power_opens power
      cases first
      rcases letter with rfl | rfl <;> decide
    rw [read_mantissa mantissa stops, exponent_power power]
    rfl

theorem denotes_read (denotes : Denotes cs x) : read? cs = some x := by
  have named : ∀ {cs d} negative, Unsigned cs d → unsigned? negative cs = some (d.toBinary64 negative) := by
    intro cs d negative unsigned
    obtain ⟨c, member, digit⟩ := unsigned_digit unsigned
    have infinite : cs.map Char.toLower ≠ "inf".toList := name_other member digit (by simp)
    have infinity : cs.map Char.toLower ≠ "infinity".toList := name_other member digit (by simp)
    have nan : cs.map Char.toLower ≠ "nan".toList := name_other member digit (by simp)
    unfold unsigned?
    dsimp only
    rw [if_neg (not_or.mpr ⟨infinite, infinity⟩), if_neg nan, read_unsigned unsigned]
    rfl
  cases denotes with
  | positive unsigned =>
    obtain ⟨c, back, rfl, opens⟩ := unsigned_opens unsigned
    rw [← named false unsigned]
    unfold read?
    split
    · rename_i same
      cases same
      rcases opens with digit | point <;> contradiction
    · rename_i same
      cases same
      rcases opens with digit | point <;> contradiction
    · rfl
  | negative unsigned => exact named true unsigned

end Binary64
end FluidSheet
