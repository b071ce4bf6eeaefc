import FluidSheet.Length.Target
import FluidSheet.Proofs.Length.Scan
import FluidSheet.Proofs.Number.Numeral

namespace FluidSheet.Length
variable {cs rest front : List Char} {splits : List Split} {P Q : List Char → Prop}

def Gives (splits : List Split) (cs : List Char) (P : List Char → Prop) : Prop :=
  ∀ split, split ∈ splits ↔ split.1 ++ split.2 = cs ∧ P split.1

theorem gives_same (gives : Gives splits cs P) (same : ∀ n rest, n ++ rest = cs → (P n ↔ Q n)) : Gives splits cs Q := by
  intro split
  rw [gives split]
  constructor
  · exact fun ⟨whole, kind⟩ => ⟨whole, (same _ _ whole).mp kind⟩
  · exact fun ⟨whole, kind⟩ => ⟨whole, (same _ _ whole).mpr kind⟩

theorem gives_none (none : ∀ n rest, n ++ rest = cs → ¬ P n) : Gives [] cs P := by
  intro split
  constructor
  · exact fun member => by cases member
  · exact fun ⟨whole, kind⟩ => absurd kind (none _ _ whole)

theorem gives_front (gives : Gives splits cs P) (front : List Char) :
    Gives (splits.map fun (number, rest) => (front ++ number, rest)) (front ++ cs) (fun n => ∃ m, n = front ++ m ∧ P m) := by
  rintro ⟨n, rest⟩
  constructor
  · intro member
    obtain ⟨⟨m, rest⟩, found, same⟩ := List.mem_map.mp member
    cases same
    obtain ⟨whole, kind⟩ := (gives _).mp found
    exact ⟨by simp only [List.append_assoc, whole], m, rfl, kind⟩
  · rintro ⟨whole, m, rfl, kind⟩
    rw [List.append_assoc, List.append_cancel_left_eq] at whole
    exact List.mem_map.mpr ⟨(m, rest), (gives _).mpr ⟨whole, kind⟩, rfl⟩

theorem gives_digits (cs : List Char) : Gives (endsIn (cs.takeWhile Char.isDigit) (cs.dropWhile Char.isDigit)) cs Digits := by
  rintro ⟨n, rest⟩
  constructor
  · intro member
    refine ⟨(digits_cuts cs _ member).1, ?_, ?_⟩
    · obtain ⟨front, d, same, -⟩ := (digits_cuts cs _ member).2
      rw [same]
      exact List.append_ne_nil_of_right_ne_nil _ (List.cons_ne_nil _ _)
    · obtain ⟨k, -, same⟩ := List.mem_map.mp member
      cases same
      exact fun c inside => List.mem_takeWhile_imp (List.mem_of_mem_take inside)
  · rintro ⟨rfl, digits⟩
    have size := List.length_pos_of_ne_nil digits.1
    unfold endsIn
    rw [List.takeWhile_append_of_pos digits.2, List.dropWhile_append_of_pos digits.2]
    refine List.mem_map.mpr ⟨(rest.takeWhile Char.isDigit).length, ?_, ?_⟩
    · rw [List.mem_range, List.length_append]
      exact Nat.lt_add_of_pos_left size
    · rw [List.length_append, Nat.add_sub_cancel, List.take_left, List.drop_left, List.takeWhile_append_dropWhile]

-- Behind the letter, a sign shows which kind of exponent there can be.

theorem power_signed (letter : PowerLetter e) (sign : s = '+' ∨ s = '-') (whole : n ++ rest = e :: s :: cs) :
    (∃ ds, n = [e, s] ++ ds ∧ Digits ds) ↔ ∃ m, Power n m := by
  constructor
  · rintro ⟨ds, rfl, kind⟩
    rcases sign with rfl | rfl
    · exact ⟨_, .raised letter kind⟩
    · exact ⟨_, .lowered letter kind⟩
  · rintro ⟨m, power⟩
    cases power with
    | @bare _ ds _ kind =>
      obtain ⟨c, ds, rfl⟩ := List.exists_cons_of_ne_nil kind.1
      obtain ⟨rfl, tail⟩ := List.cons.inj whole
      obtain ⟨rfl, -⟩ := List.cons.inj tail
      obtain ⟨minus, plus, -⟩ := digit_sign (kind.2 c List.mem_cons_self)
      rcases sign with same | same
      · exact absurd same plus
      · exact absurd same minus
    | @raised _ ds _ kind | @lowered _ ds _ kind =>
      obtain ⟨rfl, tail⟩ := List.cons.inj whole
      obtain ⟨rfl, -⟩ := List.cons.inj tail
      exact ⟨ds, rfl, kind⟩

theorem power_unsigned (letter : PowerLetter e) (sign : ¬ (s = '+' ∨ s = '-')) (whole : n ++ rest = e :: s :: cs) :
    (∃ ds, n = [e] ++ ds ∧ Digits ds) ↔ ∃ m, Power n m := by
  constructor
  · rintro ⟨ds, rfl, kind⟩
    exact ⟨_, .bare letter kind⟩
  · rintro ⟨m, power⟩
    cases power with
    | @bare _ ds _ kind =>
      obtain ⟨rfl, -⟩ := List.cons.inj whole
      exact ⟨ds, rfl, kind⟩
    | raised =>
      obtain ⟨-, tail⟩ := List.cons.inj whole
      exact absurd (.inl (List.cons.inj tail).1.symm) sign
    | lowered =>
      obtain ⟨-, tail⟩ := List.cons.inj whole
      exact absurd (.inr (List.cons.inj tail).1.symm) sign

theorem power_short (whole : n ++ rest = [e]) : ¬ Power n m := by
  intro power
  cases power with
  | bare _ kind =>
    obtain ⟨-, tail⟩ := List.cons.inj whole
    exact kind.1 (List.append_eq_nil_iff.mp tail).1
  | raised | lowered => cases (List.cons.inj whole).2

theorem gives_exponent (cs : List Char) : Gives (exponentEnds cs) cs (fun n => ∃ m, Power n m) := by
  unfold exponentEnds
  split
  · rename_i e rest
    split
    · rename_i letter
      split
      · rename_i s digits
        split
        · rename_i sign
          exact gives_same (gives_front (gives_digits digits) [e, s]) fun n rest whole => power_signed letter sign whole
        · rename_i sign
          exact gives_same (gives_front (gives_digits (s :: digits)) [e]) fun n rest whole => power_unsigned letter sign whole
      · exact gives_none fun n rest whole ⟨m, power⟩ => power_short whole power
    · rename_i other
      refine gives_none ?_
      rintro n rest whole ⟨m, power⟩
      obtain ⟨e', back, rfl, letter⟩ := power_opens power
      obtain ⟨rfl, -⟩ := List.cons.inj whole
      exact other letter
  · refine gives_none ?_
    rintro n rest whole ⟨m, power⟩
    obtain ⟨e, back, rfl, -⟩ := power_opens power
    cases whole

def Scaled (P : List Char → Prop) (n : List Char) : Prop := P n ∨ ∃ a x m, n = a ++ x ∧ P a ∧ Power x m

theorem gives_scaled (gives : Gives splits cs P) : Gives (withExponent splits) cs (Scaled P) := by
  rintro ⟨n, rest⟩
  unfold withExponent
  constructor
  · intro member
    obtain ⟨⟨a, behind⟩, found, member⟩ := List.mem_flatMap.mp member
    obtain ⟨whole, kind⟩ := (gives _).mp found
    rcases List.mem_append.mp member with longer | plain
    · obtain ⟨divided, x, same, m, power⟩ := (gives_front (gives_exponent behind) a _).mp longer
      exact ⟨divided.trans whole, .inr ⟨a, x, m, same, kind, power⟩⟩
    · cases List.mem_singleton.mp plain
      exact ⟨whole, .inl kind⟩
  · rintro ⟨whole, kind | ⟨a, x, m, rfl, kind, power⟩⟩
    · refine List.mem_flatMap.mpr ⟨(n, rest), (gives _).mpr ⟨whole, kind⟩, ?_⟩
      exact List.mem_append_right _ List.mem_cons_self
    · rw [List.append_assoc] at whole
      refine List.mem_flatMap.mpr ⟨(a, x ++ rest), (gives _).mpr ⟨whole, kind⟩, List.mem_append_left _ ?_⟩
      exact List.mem_map.mpr ⟨(x, rest), (gives_exponent _ _).mpr ⟨rfl, m, power⟩, rfl⟩

def Pointed (n : List Char) : Prop := ∃ ws m, (∀ c ∈ ws, c.isDigit = true) ∧ n = ws ++ '.' :: m ∧ Scaled Digits m

theorem unsigned_exact : (∃ d, Unsigned n d) ↔ Pointed n ∨ Scaled Digits n := by
  constructor
  · rintro ⟨d, unsigned⟩
    cases unsigned with
    | plain mantissa =>
      cases mantissa with
      | whole digits => exact .inr (.inl digits)
      | fraction before digits => exact .inl ⟨_, _, before, rfl, .inl digits⟩
    | scaled mantissa power =>
      cases mantissa with
      | whole digits => exact .inr (.inr ⟨_, _, _, rfl, digits, power⟩)
      | fraction before digits =>
        exact .inl ⟨_, _, before, List.append_assoc .., .inr ⟨_, _, _, rfl, digits, power⟩⟩
  · rintro (⟨ws, m, before, rfl, digits | ⟨ds, x, k, rfl, digits, power⟩⟩ | digits | ⟨ds, x, k, rfl, digits, power⟩)
    · exact ⟨_, .plain (.fraction before digits)⟩
    · rw [← List.cons_append, ← List.append_assoc]
      exact ⟨_, .scaled (.fraction before digits) power⟩
    · exact ⟨_, .plain (.whole digits)⟩
    · exact ⟨_, .scaled (.whole digits) power⟩

theorem gives_whole (cs : List Char) :
    Gives (withExponent (endsIn (cs.takeWhile Char.isDigit) (cs.dropWhile Char.isDigit))) cs (Scaled Digits) :=
  gives_scaled (gives_digits cs)

theorem point_run (before : ∀ c ∈ ws, c.isDigit = true) (behind : List Char) :
    (ws ++ '.' :: behind).takeWhile Char.isDigit = ws ∧ (ws ++ '.' :: behind).dropWhile Char.isDigit = '.' :: behind := by
  rw [List.takeWhile_append_of_pos before, List.dropWhile_append_of_pos before]
  exact ⟨List.append_nil ws, rfl⟩

theorem gives_unsigned (cs : List Char) : Gives (unsignedEnds cs) cs (fun n => ∃ d, Unsigned n d) := by
  rintro ⟨n, rest⟩
  unfold unsignedEnds
  dsimp only
  rw [unsigned_exact, List.mem_append, gives_whole cs, and_or_left]
  refine or_congr_left ?_
  constructor
  · intro member
    split at member
    · rename_i behind point
      have pointed := gives_front (gives_whole behind) (cs.takeWhile Char.isDigit ++ ['.']) (n, rest)
      rw [List.append_assoc, List.singleton_append, ← point, List.takeWhile_append_dropWhile] at pointed
      simp only [List.append_assoc, List.singleton_append] at pointed
      obtain ⟨whole, m, same, kind⟩ := pointed.mp member
      exact ⟨whole, _, m, fun c inside => List.mem_takeWhile_imp inside, same, kind⟩
    · cases member
  · rintro ⟨rfl, ws, m, before, same, kind⟩
    obtain ⟨run, behind⟩ := point_run before (m ++ rest)
    rw [same, List.append_assoc, List.cons_append, run, behind]
    exact List.mem_map.mpr ⟨(m, rest), (gives_whole _ _).mpr ⟨rfl, kind⟩, rfl⟩

-- The numbers that are tried are just the numerals.
theorem gives_numeral (cs : List Char) : Gives (numberEnds cs) cs (fun n => ∃ x, Denotes n x) := by
  unfold numberEnds
  split
  · rename_i rest
    refine gives_same (gives_front (gives_unsigned rest) ['-']) fun n behind whole => ?_
    constructor
    · rintro ⟨m, rfl, d, unsigned⟩
      exact ⟨_, .negative unsigned⟩
    · rintro ⟨x, denotes⟩
      cases denotes with
      | positive unsigned =>
        obtain ⟨c, back, rfl, opens⟩ := unsigned_opens unsigned
        obtain ⟨rfl, -⟩ := List.cons.inj whole
        rcases opens with digit | point <;> contradiction
      | negative unsigned => exact ⟨_, rfl, _, unsigned⟩
  · rename_i other
    refine gives_same (gives_unsigned cs) fun n behind whole => ?_
    constructor
    · rintro ⟨d, unsigned⟩
      exact ⟨_, .positive unsigned⟩
    · rintro ⟨x, denotes⟩
      cases denotes with
      | positive unsigned => exact ⟨_, unsigned⟩
      | negative => exact absurd whole.symm (other _)

-- One that nothing more of its kind follows comes first, but for those that go on behind it.

open Binary64 (Stops)

def Leads (splits : List Split) (n rest : List Char) : Prop :=
  ∃ longer others, splits = longer ++ (n, rest) :: others ∧ ∀ split ∈ longer, ∃ p, p ≠ [] ∧ split.1 = n ++ p

theorem leads_here (n rest : List Char) (others : List Split) : Leads ((n, rest) :: others) n rest :=
  ⟨[], others, rfl, fun _ none => by cases none⟩

theorem leads_map (leads : Leads splits n rest) (front : List Char) :
    Leads (splits.map fun (number, rest) => (front ++ number, rest)) (front ++ n) rest := by
  obtain ⟨longer, others, rfl, further⟩ := leads
  refine ⟨_, _, List.map_append, ?_⟩
  intro split member
  obtain ⟨split, inside, rfl⟩ := List.mem_map.mp member
  obtain ⟨p, some, same⟩ := further split inside
  refine ⟨p, some, ?_⟩
  change front ++ split.1 = _
  rw [same, List.append_assoc]

theorem leads_append (leads : Leads splits n rest) (others : List Split) : Leads (splits ++ others) n rest := by
  obtain ⟨longer, others', rfl, further⟩ := leads
  exact ⟨longer, others' ++ others, by simp, further⟩

theorem endsIn_first (some : ds ≠ []) (rest : List Char) : ∃ others, endsIn ds rest = (ds, rest) :: others := by
  obtain ⟨c, ds, rfl⟩ := List.exists_cons_of_ne_nil some
  unfold endsIn
  rw [List.length_cons, List.range_succ_eq_map, List.map_cons]
  simp

theorem run_ends (digits : ∀ c ∈ ds, c.isDigit = true) (stop : ∀ c ∈ rest.head?, c.isDigit = false) :
    (ds ++ rest).takeWhile Char.isDigit = ds ∧ (ds ++ rest).dropWhile Char.isDigit = rest := by
  have span := Binary64.span_run digits stop
  rw [List.span_eq_takeWhile_dropWhile] at span
  exact Prod.mk.inj span

theorem run_first (digits : Digits ds) (stop : ∀ c ∈ rest.head?, c.isDigit = false) :
    ∃ others, endsIn ((ds ++ rest).takeWhile Char.isDigit) ((ds ++ rest).dropWhile Char.isDigit) = (ds, rest) :: others := by
  obtain ⟨run, behind⟩ := run_ends digits.2 stop
  rw [run, behind]
  exact endsIn_first digits.1 rest

theorem exponent_first (power : Power x k) (stop : ∀ c ∈ rest.head?, c.isDigit = false) :
    ∃ others, exponentEnds (x ++ rest) = (x, rest) :: others := by
  cases power with
  | @bare e ds letter digits =>
    obtain ⟨others, first⟩ := run_first digits stop
    obtain ⟨c, ds, rfl⟩ := List.exists_cons_of_ne_nil digits.1
    obtain ⟨minus, plus, -⟩ := digit_sign (digits.2 c List.mem_cons_self)
    unfold exponentEnds
    have letter : e = 'e' ∨ e = 'E' := letter
    simp only [List.cons_append, if_pos letter]
    rw [if_neg (not_or.mpr ⟨plus, minus⟩), ← List.cons_append, first]
    exact ⟨_, rfl⟩
  | @raised e ds letter digits | @lowered e ds letter digits =>
    obtain ⟨others, first⟩ := run_first digits stop
    have letter : e = 'e' ∨ e = 'E' := letter
    unfold exponentEnds
    simp only [List.cons_append, if_pos letter]
    rw [if_pos (by simp), first]
    exact ⟨_, rfl⟩

theorem mantissa_first (mantissa : Mantissa m d) (stops : Stops rest) : ∃ front ds others others', m = front ++ ds ∧
    unsignedEnds (m ++ rest) =
      (withExponent ((ds, rest) :: others)).map (fun (number, rest) => (front ++ number, rest)) ++ others' := by
  have stop : ∀ c ∈ rest.head?, c.isDigit = false := fun c first => (stops c first).1
  cases mantissa with
  | whole digits =>
    obtain ⟨others, first⟩ := run_first digits stop
    refine ⟨[], m, others, [], rfl, ?_⟩
    unfold unsignedEnds
    dsimp only
    rw [first, (run_ends digits.2 stop).2]
    split
    · exact absurd rfl (stops '.' rfl).2
    · exact (List.map_id _).symm.trans (List.append_nil _).symm
  | @fraction ws ds before digits =>
    obtain ⟨others, first⟩ := run_first digits stop
    obtain ⟨run, behind⟩ := point_run before (ds ++ rest)
    refine ⟨ws ++ ['.'], ds, others, withExponent (endsIn ws ('.' :: (ds ++ rest))), by simp, ?_⟩
    unfold unsignedEnds
    rw [List.append_assoc, List.cons_append, run, behind]
    simp only [first, List.append_assoc, List.singleton_append]

theorem unsigned_first (unsigned : Unsigned n d) (stops : Stops rest) : Leads (unsignedEnds (n ++ rest)) n rest := by
  cases unsigned with
  | plain mantissa =>
    obtain ⟨front, ds, others, others', rfl, first⟩ := mantissa_first mantissa stops
    rw [first]
    refine leads_append (leads_map ?_ front) others'
    refine ⟨(exponentEnds rest).map fun (exponent, rest) => (ds ++ exponent, rest), _, List.append_assoc .., ?_⟩
    intro split member
    obtain ⟨⟨p, behind⟩, found, rfl⟩ := List.mem_map.mp member
    obtain ⟨-, fore, c, rfl, -⟩ := exponentEnds_cuts rest _ found
    exact ⟨fore ++ [c], by simp, rfl⟩
  | @scaled m _ x _ mantissa power =>
    have stops' : Stops (x ++ rest) := by
      obtain ⟨e, back, rfl, letter⟩ := power_opens power
      intro c first
      cases first
      rcases letter with rfl | rfl <;> decide
    obtain ⟨front, ds, others, others', rfl, first⟩ := mantissa_first mantissa stops'
    obtain ⟨further, exponent⟩ := exponent_first power fun c first => (stops c first).1
    rw [List.append_assoc, first, List.append_assoc]
    refine leads_append (leads_map ?_ front) others'
    unfold withExponent
    rw [List.flatMap_cons]
    dsimp only
    rw [exponent]
    exact leads_here _ _ _

theorem numeral_first (denotes : Denotes n x) (stops : Stops rest) : Leads (numberEnds (n ++ rest)) n rest := by
  cases denotes with
  | positive unsigned =>
    obtain ⟨c, back, rfl, opens⟩ := unsigned_opens unsigned
    have leads := unsigned_first unsigned stops
    unfold numberEnds
    split
    · rename_i same
      obtain ⟨rfl, -⟩ := List.cons.inj same
      rcases opens with digit | point <;> contradiction
    · exact leads
  | negative unsigned => exact leads_map (unsigned_first unsigned stops) ['-']

theorem denotes_magnitude (denotes : Denotes number x) : magnitude number = x := by
  rw [magnitude, Binary64.denotes_read denotes]
  rfl

theorem length_denotes {unit : List Char} (found : length? unit cs = some (number, rest)) :
    Denotes number (magnitude number) := by
  obtain ⟨-, x, denotes⟩ := (gives_numeral cs _).mp (length_number found).1
  rw [denotes_magnitude denotes]
  exact denotes

theorem scan_denotes (unit cs : List Char) : ∀ number, .length number ∈ scan unit 0 cs → Denotes number (magnitude number) := by
  intro number member
  obtain ⟨front, back, rest, -, here⟩ := scan_lengths unit cs number member
  exact length_denotes here

end FluidSheet.Length
