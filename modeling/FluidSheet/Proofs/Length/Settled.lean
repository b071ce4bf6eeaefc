import FluidSheet.Proofs.Length.Found
import FluidSheet.Proofs.Length.Spares

namespace FluidSheet.Length
variable {unit cs out rest s w : List Char} {t : Target} {before : Option Char} {c : Char}

def Calm (unit : List Char) (t : Target) (cs : List Char) : Prop :=
  ∀ number, .length number ∈ scan unit 0 cs → t.convert? (magnitude number) = none

theorem calm_plain (found : token? unit (c :: rest) = none) (calm : Calm unit t rest) : Calm unit t (c :: rest) := by
  intro number member
  rw [scan_plain found] at member
  rcases List.mem_cons.mp member with same | later
  · cases same
  · exact calm number later

theorem calm_token (found : token? unit cs = some (piece, rest))
    (kept : ∀ number, piece = .length number → t.convert? (magnitude number) = none) (calm : Calm unit t rest) :
    Calm unit t cs := by
  intro number member
  rw [scan_token found] at member
  rcases List.mem_cons.mp member with same | later
  · exact kept number same.symm
  · exact calm number later

theorem calm_plains (same : scan unit 0 (s ++ rest) = s.map .plain ++ scan unit 0 rest) (calm : Calm unit t rest) :
    Calm unit t (s ++ rest) := by
  intro number member
  rw [same] at member
  rcases List.mem_append.mp member with first | later
  · obtain ⟨c, -, other⟩ := List.mem_map.mp first
    cases other
  · exact calm number later

theorem scan_run (numeric : ∀ c ∈ s, Numeric c)
    (none : ∀ front back, s = front ++ back → back ≠ [] → length? unit (back ++ rest) = none) :
    scan unit 0 (s ++ rest) = s.map .plain ++ scan unit 0 rest := by
  induction s with
  | nil => rfl
  | cons c s ih =>
    have closed := sealed_outside (numeric_outside (numeric c List.mem_cons_self) (s ++ rest))
    have later : scan unit 0 (s ++ rest) = s.map .plain ++ scan unit 0 rest := by
      refine ih (fun d member => numeric d (List.mem_cons_of_mem c member)) ?_
      rintro front back rfl
      exact none (c :: front) back rfl
    rw [List.cons_append, scan_plain (token_none.mpr ⟨closed, none [] (c :: s) rfl (List.cons_ne_nil c s)⟩), later]
    rfl

theorem letter_short (letter : c.isAlpha = true) : length? unit (c :: rest) = none := by
  rw [Option.eq_none_iff_forall_ne_some]
  rintro ⟨number, after⟩ found
  have denotes := length_denotes found
  obtain ⟨whole, front, d, ends, -⟩ := length_whole found
  obtain ⟨e, digits, rfl⟩ := List.exists_cons_of_ne_nil (ends ▸ List.concat_ne_nil d front : number ≠ [])
  have other := numeral_unlettered denotes
  rw [(List.cons.inj whole).1, letter] at other
  cases other

-- A word opens nothing, unless it ends in the name of a URL.
theorem scan_word (word : Word w) (stop : ∀ c ∈ rest.head?, c.isAlpha = false)
    (other : ['u', 'r', 'l'] <:+ w → rest.head? ≠ some '(') :
    scan unit 0 (w ++ rest) = w.map .plain ++ scan unit 0 rest := by
  induction w with
  | nil => rfl
  | cons c w ih =>
    have closed : sealed? (c :: (w ++ rest)) = none := by
      rw [Option.eq_none_iff_forall_ne_some]
      rintro ⟨text, after⟩ found
      obtain ⟨same, inside, -, opens⟩ := sealed_exact.mp found
      cases opens with
      | quoted quote =>
        have letter := word _ List.mem_cons_self
        rw [← (List.cons.inj same).1] at letter
        rcases quote with rfl | rfl <;> cases letter
      | url =>
        have name : Word ['u', 'r', 'l'] := by simp [Word]
        have paren : ∀ d ∈ ('(' :: (inside ++ [')'] ++ after)).head?, d.isAlpha = false := by simp
        obtain ⟨spelt, rfl⟩ := word_unique name word paren stop same
        exact other (spelt ▸ List.suffix_rfl) rfl
    have later : scan unit 0 (w ++ rest) = w.map .plain ++ scan unit 0 rest :=
      ih (fun d member => word d (List.mem_cons_of_mem c member)) fun ends => other (ends.trans (List.suffix_cons c w))
    rw [List.cons_append, scan_plain (token_none.mpr ⟨closed, letter_short (word c List.mem_cons_self)⟩), later]
    rfl

theorem length_trailing (fits : Fitting unit t) (found : length? unit cs = some (number, rest)) :
    Trailing number ∧ number ≠ [] ∧ number ++ (unit ++ rest) = cs ∧ startsWord rest = false := by
  obtain ⟨whole, front, d, ends, -⟩ := length_whole found
  refine ⟨denotes_trailing (length_denotes found), ends ▸ List.concat_ne_nil d front, ?_, ?_⟩
  · rw [← whole, List.append_assoc]
  · exact (fitting_ends fits).mp (length_number found).2

-- The number before a unit is found whole, from where the search starts.
theorem found_parted (fits : Fitting unit t) (parted : Parted s) (found : length? unit (s ++ (unit ++ out)) = some (number, rest)) :
    number = s ∧ rest = out := by
  obtain ⟨trailing, -, whole, -⟩ := length_trailing fits found
  obtain ⟨rfl, further⟩ := parted_unique (trailing_parted trailing) parted fits.word fits.long fits.word fits.long whole
  exact ⟨rfl, List.append_cancel_left further⟩

theorem calm_kept (fits : Fitting unit t) (denotes : Denotes number (magnitude number))
    (kept : t.convert? (magnitude number) = none) (stop : ∀ c ∈ out.head?, c.isAlpha = false) (calm : Calm unit t out) :
    Calm unit t (number ++ (unit ++ out)) := by
  have parted := trailing_parted (denotes_trailing denotes)
  by_cases ends : unitEnds unit out = true
  · obtain ⟨⟨number', rest⟩, found⟩ := Option.ne_none_iff_exists'.mp (length_there denotes ends)
    obtain ⟨rfl, rfl⟩ := found_parted fits parted found
    refine calm_token (token_exact.mpr (.length (denotes_outside denotes _) found)) (fun _ same => ?_) calm
    cases same
    exact kept
  · refine calm_plains (scan_run (denotes_numeric denotes) ?_) (calm_plains (scan_word fits.word stop ?_) calm)
    · rintro front back rfl -
      rw [Option.eq_none_iff_forall_ne_some]
      rintro ⟨number', rest⟩ found
      obtain ⟨rfl, rfl⟩ := found_parted fits (parted_behind parted) found
      exact ends (length_number found).2
    · intro _ paren
      obtain ⟨rest, rfl⟩ := List.head?_eq_some_iff.mp paren
      exact ends ((fitting_ends fits).mpr (paren_ends rest))

theorem single_behind (short : s.length ≤ 1) (same : s = front ++ back) (some : back ≠ []) : back = s := by
  have size := congrArg List.length same
  have taken := List.length_pos_of_ne_nil some
  rw [List.length_append] at size
  obtain rfl : front = [] := List.eq_nil_of_length_eq_zero (by omega)
  exact same.symm

theorem infinite_last (fits : Fitting unit t) : ¬ ['u', 'r', 'l'] <:+ infinity ++ t.unit.toList := by
  rintro ⟨front, same⟩
  rcases List.append_eq_append_iff.mp same with ⟨s, whole, further⟩ | ⟨s, -, further⟩
  · cases s with
    | nil => exact fits.last (further ▸ List.suffix_rfl)
    | cons c s =>
      obtain ⟨rfl, -⟩ := List.cons.inj further
      have member : 'u' ∈ infinity := by simp [whole]
      exact absurd member (by decide)
  · exact fits.last ⟨s, further.symm⟩

theorem calm_literal (fits : Fitting unit t) (denotes : Denotes number (magnitude number)) (ends : unitEnds unit rest = true)
    (undotted : rest.head? ≠ some '.') (written : Literal unit t number text) (behind : Rewrites unit t before rest out)
    (calm : Calm unit t out) : Calm unit t (text ++ out) := by
  have stop := rewrites_unlettered behind ((fitting_ends fits).mp ends) undotted
  cases written with
  | kept kept =>
    rw [List.append_assoc]
    exact calm_kept fits denotes kept stop calm
  | zero =>
    refine calm_plains (s := ['0']) (scan_run (List.forall_mem_singleton.mpr (.inl rfl)) ?_) calm
    intro front back same some
    obtain rfl := single_behind (s := ['0']) (Nat.le_refl 1) same some
    rw [Option.eq_none_iff_forall_ne_some]
    rintro ⟨number', rest⟩ found
    obtain ⟨trailing, some', whole, -⟩ := length_trailing fits found
    obtain ⟨c, num, rfl⟩ := List.exists_cons_of_ne_nil some'
    obtain ⟨rfl, later⟩ := List.cons.inj whole
    exact zeros_end fits behind ((fitting_ends fits).mp ends) undotted trailing later.symm
  | finite written =>
    have unlettered := unlettered_append (minus_unlettered (negative number)) (body_unlettered written)
    rw [List.append_assoc]
    refine calm_plains (scan_run ?_ ?_) (calm_plains (scan_word fits.word' stop fun last => absurd last fits.last) calm)
    · exact List.forall_mem_append.mpr ⟨minus_numeric _, body_numeric written⟩
    · intro front back same _
      rw [Option.eq_none_iff_forall_ne_some]
      rintro ⟨number', rest⟩ found
      obtain ⟨trailing, -, whole, ends'⟩ := length_trailing fits found
      have unlettered' : Unlettered back := fun c member => unlettered c (same ▸ List.mem_append_right front member)
      exact other_unfound fits unlettered' (trailing_parted trailing) stop ends' whole.symm
  | infinite =>
    rw [List.append_assoc]
    have last : ['u', 'r', 'l'] <:+ infinity ++ t.unit.toList → out.head? ≠ some '(' := fun last => absurd last (infinite_last fits)
    refine calm_plains (scan_run ?_ ?_) (calm_plains (scan_word (infinite_word fits) stop last) calm)
    · exact minus_numeric _
    · intro front back same some
      obtain rfl := single_behind (by cases negative number <;> decide) same some
      rw [Option.eq_none_iff_forall_ne_some]
      rintro ⟨number', rest⟩ found
      obtain ⟨trailing, some', whole, -⟩ := length_trailing fits found
      exact infinite_unfound fits _ trailing some' whole.symm

-- What a text was rewritten to has nothing left to convert.
theorem rewrites_calm (fits : Fitting unit t) (rewrites : Rewrites unit t before cs out) : Calm unit t out := by
  induction rewrites with
  | nil => exact fun _ none => by cases none
  | @plain c rest out before found behind ih =>
    obtain ⟨closed, short⟩ := token_none.mp found
    refine calm_plain (token_none.mpr ⟨rewrites_sealed fits.word fits.word' closed behind, ?_⟩) ih
    rw [Option.eq_none_iff_forall_ne_some]
    rintro ⟨number, tail⟩ again
    obtain ⟨trailing, some, whole, ends⟩ := length_trailing fits again
    obtain ⟨d, num, rfl⟩ := List.exists_cons_of_ne_nil some
    obtain ⟨rfl, later⟩ := List.cons.inj whole
    obtain ⟨tail', rfl, ends'⟩ := number_found fits behind trailing later.symm ends
    exact length_there (length_denotes again) ((fitting_ends fits).mpr ends') short
  | @sealed inside text before rest out opens full _ ih =>
    have closed : sealed? (text ++ out) = some (text, out) := sealed_exact.mpr ⟨rfl, inside, full, opens⟩
    exact calm_token (token_exact.mpr (.sealed closed)) (fun _ same => by cases same) ih
  | length denotes ends safe written behind ih => exact calm_literal fits denotes ends safe.undotted written behind ih

theorem fixed_calm {unit : String} (fits : Fitting unit.toList t) (value : String) :
    convert unit t value = value ↔ Calm unit.toList t value.toList := by
  have some : unit ≠ "" := by
    rintro rfl
    exact fitting_some fits rfl
  have other : unit ≠ t.unit := fun same => fits.other (same ▸ rfl)
  exact (convert_fixed unit t value fits.word some fits.word' other).trans (below_kept unit t value)

-- No length has a digit or a point directly before it, or a point directly behind.
def Spaced (unit value : String) : Prop :=
  ∀ front number back, scan unit.toList 0 value.toList = front ++ .length number :: back →
    (∀ c ∈ (front.flatMap (Piece.text unit.toList)).getLast?, c.isDigit = false ∧ c ≠ '.') ∧
      (back.flatMap (Piece.text unit.toList)).head? ≠ some '.'

theorem spaced_last {unit value : String} (scanned : scan unit.toList 0 value.toList = cs.map .plain ++ [.length number])
    (apart : ∀ c ∈ cs.getLast?, c.isDigit = false ∧ c ≠ '.') : Spaced unit value := by
  intro front number' back same
  rw [scanned] at same
  obtain ⟨front', rfl, single⟩ := plain_front cs (fun _ other => by cases other) same
  cases front' with
  | cons _ front' => cases front' <;> cases (List.cons.inj single).2
  | nil =>
    obtain ⟨-, rfl⟩ := List.cons.inj single
    rw [List.append_nil, plain_text]
    exact ⟨apart, by simp⟩

theorem spaced_safe {unit value : String} (spaced : Spaced unit value)
    (shown : ¬ Hides unit.toList t.unit.toList ∨
      ∀ m ∈ magnitudes unit value, t.convert? m = none ∨ (t.share m).isFinite = true) :
    AllSafe unit.toList t none (scan unit.toList 0 value.toList) := by
  intro front number back whole
  obtain ⟨apart, undotted⟩ := spaced front number back whole
  refine ⟨by rwa [Option.or_none], undotted, ?_⟩
  rcases shown with never | each
  · exact .inr (.inr never)
  · have member : magnitude number ∈ magnitudes unit value := by
      rw [magnitudes, whole]
      simp [Piece.number?]
    exact (each _ member).imp_right .inl

theorem shown_settles {unit value : String} (fits : Fitting unit.toList t) (spaced : Spaced unit value)
    (shown : ¬ Hides unit.toList t.unit.toList ∨
      ∀ m ∈ magnitudes unit value, t.convert? m = none ∨ (t.share m).isFinite = true) :
    convert unit t (convert unit t value) = convert unit t value := by
  have calm := rewrites_calm fits (rewrites_exists fits value.toList none (spaced_safe spaced shown))
  refine (fixed_calm fits _).mpr ?_
  rwa [convert, replace, String.toList_ofList]

def huge : List Char := ['1', 'e', '9', '9', '9']

theorem huge_denotes : Denotes huge (.infinite false) := by
  have read : (⟨Decimal.ofDigits ['1'], Decimal.ofDigits ['9', '9', '9'] + 0⟩ : Decimal).toBinary64 false = .infinite false := by
    decide +kernel
  have mantissa : Mantissa ['1'] _ := .whole ⟨by simp, by simp⟩
  exact read ▸ .positive (.scaled mantissa (.bare (.inl rfl) ⟨by simp, by simp⟩))

theorem infinite_mul (above : Binary64.Above y) : .infinite false * y = .infinite false := by
  obtain ⟨q, some, rfl⟩ := above
  exact if_neg some

theorem infinite_div (above : Binary64.Above y) : .infinite false / y = .infinite false := by
  obtain ⟨q, -, rfl⟩ := above
  rfl

theorem infinite_share (above : Binary64.Above t.width) (precise : t.precision ≤ 15) :
    t.share (.infinite false) = .infinite false := by
  have scale := Binary64.scale_above precise
  rw [Target.share, infinite_div above, infinite_mul Binary64.hundred_above, Binary64.toPlaces, infinite_mul scale]
  exact infinite_div scale

theorem huge_converted (fits : Fitting unit t) (finite : t.minimum.isFinite = true) :
    t.convert? (magnitude huge) = some (infinity ++ t.unit.toList) := by
  have large : (Binary64.infinite false).abs.lt t.minimum = false := by
    cases minimum : t.minimum with
    | nan | infinite =>
      rw [minimum] at finite
      cases finite
    | finite => rfl
  rw [denotes_magnitude huge_denotes, Target.convert?, large, infinite_share fits.above fits.precise]
  rfl

-- A number and a word behind it that are not found, where the unit is a longer word.
theorem huge_short (fits : Fitting unit t) (whole : unit = w ++ (infinity ++ t.unit.toList)) (some : w ≠ [])
    (split : huge = front ++ back) : length? unit (back ++ (w ++ (huge ++ unit))) = none := by
  rw [Option.eq_none_iff_forall_ne_some]
  rintro ⟨number, tail⟩ found
  obtain ⟨trailing, -, same, ends⟩ := length_trailing fits found
  have word : Word w := fun c member => fits.word c (whole ▸ List.mem_append_left _ member)
  have parts : number ++ unit ++ tail = back ++ w ++ huge ++ unit := by simpa using same
  rcases List.append_eq_append_iff.mp parts with ⟨s, early, -⟩ | ⟨s, late, rest⟩
  · -- There are too few letters before the unit for it to be there as well.
    have few := congrArg (List.countP Char.isAlpha) split
    have letters := congrArg (List.countP Char.isAlpha) early
    have one : huge.countP Char.isAlpha = 1 := rfl
    have long := congrArg List.length whole
    rw [List.countP_append, one] at few
    simp only [List.countP_append, word_letters word, word_letters fits.word, one] at letters
    simp only [List.length_append] at long
    have name : infinity.length = 3 := rfl
    omega
  · have none : tail = [] := by
      cases tail with
      | nil => rfl
      | cons c tail =>
        have letter := fits.word c (by simp [rest])
        rw [ends_unlettered ends c rfl] at letter
        cases letter
    subst none
    rw [List.append_nil] at rest
    subst rest
    have numeral := List.append_cancel_right late
    obtain ⟨x, w, rfl⟩ := List.exists_cons_of_ne_nil some
    have inside : x ∈ number := by simp [numeral]
    have letter := alphabetic_numeric (alpha_alphabetic (word x List.mem_cons_self)) (trailing.numeric x inside)
    have denotes : Denotes ((back ++ (x :: w) ++ ['1']) ++ 'e' :: ['9', '9', '9']) (magnitude number) := by
      have denotes := length_denotes found
      generalize magnitude number = m at denotes
      rw [numeral] at denotes
      simpa [huge] using denotes
    exact (denotes_divided denotes (.inl rfl)).1.before x (by simp) letter

theorem huge_scan (fits : Fitting unit t) (ends : startsWord rest = false) :
    scan unit 0 (huge ++ (unit ++ rest)) = .length huge :: scan unit 0 rest := by
  have parted := trailing_parted (denotes_trailing huge_denotes)
  obtain ⟨⟨number, after⟩, found⟩ := Option.ne_none_iff_exists'.mp (length_there huge_denotes ((fitting_ends fits).mpr ends))
  obtain ⟨rfl, rfl⟩ := found_parted fits parted found
  exact scan_length (denotes_outside huge_denotes _) found

theorem hidden_scan (fits : Fitting unit t) (whole : unit = w ++ (infinity ++ t.unit.toList)) (some : w ≠ []) :
    scan unit 0 (huge ++ (w ++ (huge ++ unit))) = (huge ++ w).map .plain ++ [.length huge] := by
  have numeric : ∀ c ∈ huge, Numeric c := denotes_numeric huge_denotes
  have word : Word w := fun c member => fits.word c (whole ▸ List.mem_append_left _ member)
  have last : scan unit 0 (huge ++ unit) = [.length huge] := by
    have found := huge_scan fits (show startsWord [] = false from rfl)
    rwa [List.append_nil] at found
  have stop : ∀ c ∈ (huge ++ unit).head?, c.isAlpha = false := by simp [huge]
  rw [scan_run numeric fun front back split _ => huge_short fits whole some split, scan_word word stop (by simp [huge]), last,
    List.map_append, List.append_assoc]

-- Such a number behind a first one and the start of the unit: the first becomes a length.
theorem hidden_unsettled {unit : String} (fits : Fitting unit.toList t) (finite : t.minimum.isFinite = true)
    (hides : Hides unit.toList t.unit.toList) :
    ∃ value, Spaced unit value ∧ convert unit t (convert unit t value) ≠ convert unit t value := by
  obtain ⟨w, some, whole⟩ := hides
  have scanned := hidden_scan fits whole some
  have word : Word w := fun c member => fits.word c (whole ▸ List.mem_append_left _ member)
  refine ⟨String.ofList (huge ++ (w ++ (huge ++ unit.toList))), ?_, ?_⟩
  · refine spaced_last (by rw [String.toList_ofList, scanned]) fun c last => ?_
    rw [List.getLast?_append_of_ne_nil _ some] at last
    have letter := word c (List.mem_of_mem_getLast? last)
    refine ⟨Bool.eq_false_of_not_eq_true fun digit => ?_, ?_⟩
    · rw [digit_letter digit] at letter
      cases letter
    · rintro rfl
      cases letter
  · have written : convert unit t (String.ofList (huge ++ (w ++ (huge ++ unit.toList)))) = String.ofList (huge ++ unit.toList) := by
      have found : replaced unit.toList t.convert? (.length huge) = infinity ++ t.unit.toList := by
        rw [replaced, huge_converted fits finite]
        rfl
      rw [convert, replace, String.toList_ofList, scanned, List.flatMap_append, replaced_plain, List.flatMap_singleton, found,
        List.append_assoc, ← whole]
    rw [written, Ne, fixed_calm fits, String.toList_ofList]
    intro calm
    have again := huge_scan fits (show startsWord [] = false from rfl)
    rw [List.append_nil] at again
    have kept := calm huge (by rw [again]; exact List.mem_cons_self)
    rw [huge_converted fits finite] at kept
    cases kept

-- In any value just when no infinite share ends the unit, else where every share that is written is finite.
theorem convert_settles (unit : String) (t : Target) (fits : Fitting unit.toList t) (finite : t.minimum.isFinite = true) :
    ((∀ value, Spaced unit value → convert unit t (convert unit t value) = convert unit t value) ↔
      ¬ Hides unit.toList t.unit.toList) ∧
    ∀ value, Spaced unit value → (∀ m ∈ magnitudes unit value, t.convert? m = none ∨ (t.share m).isFinite = true) →
      convert unit t (convert unit t value) = convert unit t value := by
  refine ⟨⟨fun settles hides => ?_, fun never value spaced => shown_settles fits spaced (.inl never)⟩,
    fun value spaced each => shown_settles fits spaced (.inr each)⟩
  obtain ⟨value, spaced, other⟩ := hidden_unsettled fits finite hides
  exact other (settles value spaced)

theorem viewport_fits (word : Word unit) (long : 2 ≤ unit.length) (other : unit ≠ ['v', 'w']) :
    Fitting unit ⟨"vw", 320, 5, 1⟩ := by
  have width : (320 : Binary64) = .finite false (320 * Binary64.unit) := by decide +kernel
  have above : Binary64.Above 320 := ⟨_, Nat.mul_ne_zero (by decide) (Nat.ne_of_gt Binary64.unit_pos), width⟩
  refine ⟨word, long, by simp [Word], by simp, by simpa using other, ?_, above, by decide⟩
  rw [← List.isSuffixOf_iff_suffix]
  decide

theorem convert_settles_pixels :
    let t : Target := ⟨"vw", 320, 5, 1⟩
    convert "px" t "0 10px" = "0 3.125vw" ∧ convert "px" t (convert "px" t "0 10px") = convert "px" t "0 10px" := by
  intro t
  have fits : Fitting "px".toList t := viewport_fits (by simp [Word]) (by simp) (by simp)
  have scanned : scan "px".toList 0 "0 10px".toList = ['0', ' '].map .plain ++ [.length ['1', '0']] := by decide +kernel
  refine ⟨by decide +kernel, (convert_settles "px" t fits (by decide +kernel)).1.mpr ?_ _ (spaced_last scanned (by simp))⟩
  rintro ⟨front, -, same⟩
  have size := congrArg List.length same
  simp [infinity, t] at size

-- The share of a number beyond the range of binary64 ends a word that reads as the unit.
theorem infinity_hides :
    let t : Target := ⟨"vw", 320, 5, 1⟩
    let value := "5x1e999xinfvw"
    Fitting "xinfvw".toList t ∧ Spaced "xinfvw" value ∧ convert "xinfvw" t value = "5xinfvw" ∧
      convert "xinfvw" t (convert "xinfvw" t value) = "1.5625vw" := by
  intro t value
  have scanned : scan "xinfvw".toList 0 value.toList = ['5', 'x'].map .plain ++ [.length huge] := by decide +kernel
  refine ⟨viewport_fits (by simp [Word]) (by simp) (by simp), spaced_last scanned (by simp), ?_, ?_⟩ <;> decide +kernel

end FluidSheet.Length
