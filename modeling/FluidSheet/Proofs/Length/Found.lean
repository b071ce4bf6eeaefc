import FluidSheet.Proofs.Length.Rewritten

-- Only an infinite share can end a word that reads as the unit.

namespace FluidSheet.Length
variable {unit cs out num text number rest tail s : List Char} {t : Target} {before : Option Char} {c p : Char}

theorem fitting_some (fits : Fitting unit t) : unit ≠ [] := by
  rintro rfl
  exact absurd fits.long (by decide)

theorem fitting_ends (fits : Fitting unit t) : unitEnds unit rest = true ↔ startsWord rest = false := by
  rw [unitEnds_word fits.word (fitting_some fits), Bool.not_eq_true']

theorem paren_ends (rest : List Char) : startsWord ('(' :: rest) = false := by
  change CharSet.word.has '(' = false
  decide +kernel

theorem numeric_word (numeric : Numeric c) : CharSet.word.has c = true ∨ c = '-' ∨ c = '.' ∨ c = '+' := by
  rcases numeric with digit | other
  · exact .inl (word_digit digit)
  · simp only [List.mem_cons, List.not_mem_nil, or_false] at other
    rcases other with rfl | rfl | rfl | rfl | rfl
    · exact .inr (.inl rfl)
    · exact .inr (.inr (.inl rfl))
    · exact .inl (word_letter (.inl rfl))
    · exact .inl (word_letter (.inr rfl))
    · exact .inr (.inr (.inr rfl))

theorem segment_letter (opens : Segment inside (c :: text)) : ¬ Numeric c := by
  cases opens with
  | quoted quote => rcases quote with rfl | rfl <;> decide
  | url => decide

theorem infinite_word (fits : Fitting unit t) : Word (infinity ++ t.unit.toList) :=
  List.forall_mem_append.mpr ⟨by simp [infinity], fits.word'⟩

-- No number with the unit behind it begins with a zero that was written for a length.
theorem zeros_end (fits : Fitting unit t) (rewrites : Rewrites unit t before cs out) (ends : startsWord cs = false)
    (undotted : cs.head? ≠ some '.') (trailing : Trailing ('0' :: num)) (same : out = num ++ (unit ++ tail)) : False := by
  induction num generalizing before cs out with
  | nil =>
    obtain ⟨c, letters, whole⟩ := List.exists_cons_of_ne_nil (fitting_some fits)
    have letter := rewrites_unlettered rewrites ends undotted c (by rw [same, whole]; rfl)
    rw [fits.word c (by simp [whole])] at letter
    cases letter
  | cons c num ih =>
    have numeric : Numeric c := trailing.numeric c (by simp)
    obtain ⟨minus, plus⟩ := (List.isChain_cons_cons.mp trailing.chain).1.2 rfl
    -- Behind the length no word begins, so that only another zero, for one with a sign, goes on with a number.
    have other : cs.head? ≠ some c := by
      intro first
      obtain ⟨back, rfl⟩ := List.head?_eq_some_iff.mp first
      rcases numeric_word numeric with word | rfl | rfl | rfl
      · exact word_starts word ends
      · exact minus rfl
      · exact undotted first
      · exact plus rfl
    cases rewrites with
    | nil => cases same
    | plain =>
      cases same
      exact other rfl
    | sealed opens =>
      obtain ⟨d, text, rfl⟩ := List.exists_cons_of_ne_nil (segment_some opens)
      exact other (congrArg List.head? same)
    | @length number rest text _ _ denotes ends' safe written behind =>
      have signed := numeral_signed denotes ends undotted
      cases written with
      | kept =>
        obtain ⟨digits, rfl⟩ := List.head?_eq_some_iff.mp (of_decide_eq_true signed)
        exact minus (List.cons.inj same).1.symm
      | zero =>
        cases same
        have later := trailing_behind (show Trailing (['0'] ++ _) from trailing)
        exact ih behind ((fitting_ends fits).mp ends') safe.undotted later rfl
      | finite | infinite =>
        rw [signed] at same
        exact minus (List.cons.inj same).1.symm

theorem numeral_unlettered (denotes : Denotes (c :: back) x) : c.isAlpha = false := by
  rcases numeral_opens denotes with ⟨-, first⟩ | ⟨-, d, first, digit | rfl⟩
  · cases first
    rfl
  · cases first
    exact digit_letter digit
  · cases first
    rfl

theorem literal_letter (denotes : Denotes number (magnitude number)) (written : Literal unit t number text)
    (same : text = c :: back) (letter : c.isAlpha = true) : text = infinity ++ t.unit.toList ∧
      t.convert? (magnitude number) ≠ none ∧ (t.share (magnitude number)).isFinite = false := by
  have other : ∀ d, d.isAlpha = false → c ≠ d := by
    rintro d none rfl
    rw [letter] at none
    cases none
  cases written with
  | kept =>
    obtain ⟨d, digits, rfl⟩ := denotes_cons denotes
    exact absurd (List.cons.inj same).1.symm (other d (numeral_unlettered denotes))
  | zero => exact absurd (List.cons.inj same).1.symm (other _ rfl)
  | finite written =>
    cases sign : negative number with
    | true =>
      rw [sign] at same
      exact absurd (List.cons.inj same).1.symm (other _ rfl)
    | false =>
      obtain ⟨d, digits, rfl, digit⟩ := positional_digit written
      rw [sign] at same
      exact absurd (List.cons.inj same).1.symm (other d (digit_letter digit))
  | infinite converted special =>
    cases sign : negative number with
    | true =>
      rw [sign] at same
      exact absurd (List.cons.inj same).1.symm (other _ rfl)
    | false => exact ⟨rfl, converted, special⟩

-- The unit is found again, as long as no infinite share ends it.
theorem unit_found (fits : Fitting unit t) (rewrites : Rewrites unit t before cs out) (whole : unit = front ++ back)
    (lettered : front = [] → ∃ d ∈ before, d.isDigit = true) (same : out = back ++ tail) (ends : startsWord tail = false) :
    ∃ tail', cs = back ++ tail' ∧ startsWord tail' = false := by
  induction back generalizing front before cs out with
  | nil =>
    subst same
    exact ⟨cs, rfl, rewrites_word rewrites ends⟩
  | cons c back ih =>
    have letters : Word (c :: back) := fun d member => fits.word d (whole ▸ List.mem_append_right front member)
    have letter : c.isAlpha = true := letters c List.mem_cons_self
    cases rewrites with
    | nil => cases same
    | plain _ behind =>
      cases same
      obtain ⟨tail', rfl, ends'⟩ := ih behind (show unit = (front ++ [c]) ++ back by simp [whole]) (by simp) rfl
      exact ⟨tail', rfl, ends'⟩
    | @sealed inside _ _ rest _ opens =>
      cases opens with
      | quoted quote =>
        have first := (List.cons.inj same).1
        rcases quote with rfl | rfl <;> subst first <;> cases letter
      | url =>
        have name : Word ['u', 'r', 'l'] := by simp [Word]
        obtain ⟨spelt, rfl⟩ := word_unique name letters (ends_unlettered (paren_ends _)) (ends_unlettered ends) same
        exact ⟨'(' :: (inside ++ [')'] ++ rest), by rw [← spelt]; rfl, paren_ends _⟩
    | @length number rest text _ _ denotes ends' safe written behind =>
      exfalso
      obtain ⟨c', back', rfl, -⟩ := literal_opens denotes written
      obtain ⟨spelt, converted, special⟩ := literal_letter denotes written rfl ((List.cons.inj same).1 ▸ letter)
      rw [spelt] at same
      have stop := rewrites_unlettered behind ((fitting_ends fits).mp ends') safe.undotted
      obtain ⟨again, -⟩ := word_unique (infinite_word fits) letters stop (ends_unlettered ends) same
      by_cases empty : front = []
      · obtain ⟨d, here, digit⟩ := lettered empty
        rw [(safe.apart d here).1] at digit
        cases digit
      · rcases safe.shown with kept | finite | apart
        · exact converted kept
        · rw [special] at finite
          cases finite
        · exact apart ⟨front, empty, whole.trans (congrArg _ again.symm)⟩

theorem minus_unlettered (s : Bool) : Unlettered (minus s) := by
  cases s <;> simp [minus, Unlettered]

theorem body_unlettered (written : Positional body d) : Unlettered body := by
  intro c member
  rcases mantissa_flat (positional_mantissa written) c member with digit | rfl
  · exact digit_letter digit
  · rfl

theorem other_unfound (fits : Fitting unit t) (unlettered : Unlettered s) (parted : Parted num)
    (stop : ∀ c ∈ out.head?, c.isAlpha = false) (ends : startsWord tail = false) :
    s ++ (t.unit.toList ++ out) ≠ num ++ (unit ++ tail) := by
  intro same
  obtain ⟨-, further⟩ := parted_unique (unlettered_parted unlettered) parted fits.word' fits.long' fits.word fits.long same
  exact fits.other (word_unique fits.word' fits.word stop (ends_unlettered ends) further).1.symm

theorem infinite_unfound (fits : Fitting unit t) (b : Bool) (trailing : Trailing num) (some : num ≠ []) :
    minus b ++ (infinity ++ t.unit.toList ++ out) ≠ num ++ (unit ++ tail) := by
  intro same
  have long : 2 ≤ (infinity ++ t.unit.toList).length := by simp [infinity]
  obtain ⟨rfl, -⟩ := parted_unique (unlettered_parted (minus_unlettered b)) (trailing_parted trailing) (infinite_word fits) long
    fits.word fits.long same
  cases b with
  | false => exact some rfl
  | true => exact absurd (trailing.last '-' rfl) (by decide)

theorem literal_found (fits : Fitting unit t) (denotes : Denotes number (magnitude number)) (ends : unitEnds unit rest = true)
    (undotted : rest.head? ≠ some '.') (written : Literal unit t number text) (behind : Rewrites unit t before rest out)
    (trailing : Trailing num) (some : num ≠ []) (same : text ++ out = num ++ (unit ++ tail)) (ends' : startsWord tail = false) :
    t.convert? (magnitude number) = none ∧ text = number ++ unit ∧ num = number ∧ tail = out := by
  have stop := rewrites_unlettered behind ((fitting_ends fits).mp ends) undotted
  have parted := trailing_parted trailing
  cases written with
  | kept kept =>
    rw [List.append_assoc] at same
    obtain ⟨rfl, further⟩ := parted_unique (trailing_parted (denotes_trailing denotes)) parted fits.word fits.long fits.word
      fits.long same
    exact ⟨kept, rfl, rfl, (List.append_cancel_left further).symm⟩
  | zero =>
    obtain ⟨c, num, rfl⟩ := List.exists_cons_of_ne_nil some
    cases (List.cons.inj same).1
    exact (zeros_end fits behind ((fitting_ends fits).mp ends) undotted trailing (List.cons.inj same).2).elim
  | finite written =>
    rw [List.append_assoc _ _ out] at same
    have unlettered := unlettered_append (minus_unlettered (negative number)) (body_unlettered written)
    exact (other_unfound fits unlettered parted stop ends' same).elim
  | infinite =>
    rw [List.append_assoc _ _ out] at same
    exact (infinite_unfound fits _ trailing some same).elim

theorem number_found (fits : Fitting unit t) (rewrites : Rewrites unit t (some p) cs out) (trailing : Trailing (p :: num))
    (same : out = num ++ (unit ++ tail)) (ends : startsWord tail = false) :
    ∃ tail', cs = num ++ (unit ++ tail') ∧ startsWord tail' = false := by
  induction num generalizing p cs out with
  | nil =>
    have digit : p.isDigit = true := trailing.last p rfl
    exact unit_found fits rewrites (List.nil_append unit).symm (fun _ => ⟨p, rfl, digit⟩) same ends
  | cons c num ih =>
    have later : Trailing (c :: num) := trailing_behind (show Trailing ([p] ++ _) from trailing)
    cases rewrites with
    | nil => cases same
    | plain _ behind =>
      cases same
      obtain ⟨tail', rfl, ends'⟩ := ih behind later rfl
      exact ⟨tail', rfl, ends'⟩
    | sealed opens =>
      obtain ⟨d, text, rfl⟩ := List.exists_cons_of_ne_nil (segment_some opens)
      exact absurd ((List.cons.inj same).1 ▸ later.numeric c List.mem_cons_self) (segment_letter opens)
    | @length number rest text _ _ denotes ends' safe written behind =>
      obtain ⟨-, -, again, -⟩ := literal_found fits denotes ends' safe.undotted written behind later (List.cons_ne_nil c num) same ends
      exact ⟨rest, by rw [again], (fitting_ends fits).mp ends'⟩

end FluidSheet.Length
