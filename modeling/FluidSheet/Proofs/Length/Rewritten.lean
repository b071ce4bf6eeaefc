import FluidSheet.Proofs.Length.Boundary
import FluidSheet.Proofs.Length.Written

-- What stands before a word of letters can be told from it.

namespace FluidSheet.Length
variable {cs front a b s v w y z : List Char}

-- What may stand side by side in a numeral: one letter, and signs behind no digit.
def Adjoining (a b : Char) : Prop :=
  (a.isAlpha = true → b.isAlpha = false) ∧ (a.isDigit = true → b ≠ '-' ∧ b ≠ '+')

structure Trailing (cs : List Char) : Prop where
  numeric : ∀ c ∈ cs, Numeric c
  chain : cs.IsChain Adjoining
  last : ∀ c ∈ cs.getLast?, c.isDigit = true

structure Parted (cs : List Char) : Prop where
  chain : cs.IsChain fun a b => a.isAlpha = true → b.isAlpha = false
  last : ∀ c ∈ cs.getLast?, c.isAlpha = false

theorem flat_chain (flat : ∀ c ∈ cs, c.isDigit = true ∨ c = '.') : cs.IsChain Adjoining := by
  refine List.Pairwise.isChain (List.pairwise_of_forall_mem_list fun a first b second => ⟨fun letter => ?_, fun _ => ?_⟩)
  · rcases flat a first with digit | rfl
    · rw [digit_letter digit] at letter
      cases letter
    · cases letter
  · rcases flat b second with digit | rfl
    · exact ⟨(digit_sign digit).1, (digit_sign digit).2.1⟩
    · exact ⟨by decide, by decide⟩

theorem mantissa_flat (mantissa : Mantissa cs d) : ∀ c ∈ cs, c.isDigit = true ∨ c = '.' := by
  cases mantissa with
  | whole digits => exact fun c member => .inl (digits.2 c member)
  | fraction front digits =>
    refine List.forall_mem_append.mpr ⟨fun c member => .inl (front c member), ?_⟩
    exact List.forall_mem_cons.mpr ⟨.inr rfl, fun c member => .inl (digits.2 c member)⟩

theorem digits_behind {e : Char} (digits : Digits ds) (other : e.isDigit = false) : (e :: ds).IsChain Adjoining := by
  refine List.isChain_cons.mpr ⟨fun b first => ⟨fun _ => ?_, fun digit => ?_⟩, flat_chain fun c member => .inl (digits.2 c member)⟩
  · exact digit_letter (digits.2 b (List.mem_of_mem_head? first))
  · rw [other] at digit
    cases digit

theorem power_chain (power : Power xs k) : xs.IsChain Adjoining := by
  have other : ∀ {e}, PowerLetter e → e.isDigit = false := by rintro e (rfl | rfl) <;> rfl
  cases power with
  | bare letter digits => exact digits_behind digits (other letter)
  | raised letter digits | lowered letter digits =>
    refine List.isChain_cons_cons.mpr ⟨⟨fun _ => rfl, fun digit => ?_⟩, digits_behind digits rfl⟩
    rw [other letter] at digit
    cases digit

theorem unsigned_chain (unsigned : Unsigned cs d) : cs.IsChain Adjoining := by
  cases unsigned with
  | plain mantissa => exact flat_chain (mantissa_flat mantissa)
  | scaled mantissa power =>
    refine List.isChain_append.mpr ⟨flat_chain (mantissa_flat mantissa), power_chain power, fun a last b first => ?_⟩
    obtain ⟨e, back, rfl, letter⟩ := power_opens power
    cases first
    refine ⟨fun alpha => ?_, fun _ => by rcases letter with rfl | rfl <;> exact ⟨by decide, by decide⟩⟩
    rcases mantissa_flat mantissa a (List.mem_of_mem_getLast? last) with digit | rfl
    · rw [digit_letter digit] at alpha
      cases alpha
    · cases alpha

theorem denotes_digit (denotes : Denotes n x) : EndsInDigit n :=
  (numberEnds_cuts n (n, []) ((gives_numeral n _).mpr ⟨List.append_nil n, x, denotes⟩)).2

theorem denotes_trailing (denotes : Denotes n x) : Trailing n := by
  refine ⟨denotes_numeric denotes, ?_, ?_⟩
  · cases denotes with
    | positive unsigned => exact unsigned_chain unsigned
    | negative unsigned =>
      refine List.isChain_cons.mpr ⟨fun b _ => ⟨fun alpha => ?_, fun digit => ?_⟩, unsigned_chain unsigned⟩
      · cases alpha
      · cases digit
  · obtain ⟨front, d, rfl, digit⟩ := denotes_digit denotes
    intro c last
    rw [List.getLast?_concat] at last
    cases last
    exact digit

theorem last_behind (last : c ∈ cs.getLast?) (front : List Char) : c ∈ (front ++ cs).getLast? := by
  rw [List.getLast?_append, last]
  rfl

theorem trailing_behind (trailing : Trailing (front ++ cs)) : Trailing cs :=
  ⟨fun c member => trailing.numeric c (List.mem_append_right _ member), trailing.chain.right_of_append,
    fun c last => trailing.last c (last_behind last front)⟩

theorem parted_behind (parted : Parted (front ++ cs)) : Parted cs :=
  ⟨parted.chain.right_of_append, fun c last => parted.last c (last_behind last front)⟩

theorem trailing_parted (trailing : Trailing cs) : Parted cs :=
  ⟨trailing.chain.imp fun _ _ both => both.1, fun c last => digit_letter (trailing.last c last)⟩

theorem unlettered_parted (unlettered : Unlettered cs) : Parted cs := by
  refine ⟨List.Pairwise.isChain (List.pairwise_of_forall_mem_list fun a _ b second _ => unlettered b second), fun c last => ?_⟩
  exact unlettered c (List.mem_of_mem_getLast? last)

theorem parted_stops (parted : Parted (a ++ s)) (word : Word v) (long : 2 ≤ v.length) (same : s ++ behind = v ++ y) : s = [] := by
  obtain ⟨c, d, v, rfl⟩ : ∃ c d w, v = c :: d :: w := by
    match v with
    | c :: d :: w => exact ⟨c, d, w, rfl⟩
  match s with
  | [] => rfl
  | [c'] =>
    simp only [List.cons_append, List.cons.injEq] at same
    have stop := parted.last c' (by simp)
    rw [same.1, word c List.mem_cons_self] at stop
    cases stop
  | c' :: d' :: s =>
    simp only [List.cons_append, List.cons.injEq] at same
    have stop := (List.isChain_cons_cons.mp parted.chain.right_of_append).1
    rw [same.1, same.2.1, word d (by simp)] at stop
    cases stop (word c List.mem_cons_self)

theorem parted_unique (parted : Parted a) (parted' : Parted b) (word : Word v) (long : 2 ≤ v.length) (word' : Word w)
    (long' : 2 ≤ w.length) (same : a ++ (v ++ y) = b ++ (w ++ z)) : a = b ∧ v ++ y = w ++ z := by
  rcases List.append_eq_append_iff.mp same with ⟨s, rfl, further⟩ | ⟨s, rfl, further⟩
  · cases parted_stops parted' word long further.symm
    exact ⟨(List.append_nil a).symm, further⟩
  · cases parted_stops parted word' long' further.symm
    exact ⟨List.append_nil b, further.symm⟩

theorem word_unique (word : Word v) (word' : Word w) (stop : ∀ c ∈ y.head?, c.isAlpha = false)
    (stop' : ∀ c ∈ z.head?, c.isAlpha = false) (same : v ++ y = w ++ z) : v = w ∧ y = z := by
  have run : ∀ {v y : List Char}, Word v → (∀ c ∈ y.head?, c.isAlpha = false) → (v ++ y).takeWhile Char.isAlpha = v := by
    intro v y word stop
    rw [List.takeWhile_append_of_pos word]
    cases y with
    | nil => exact List.append_nil v
    | cons c y =>
      rw [List.takeWhile_cons_of_neg (by simp [stop c rfl])]
      exact List.append_nil v
  have whole := run word stop
  rw [same, run word' stop'] at whole
  subst whole
  exact ⟨rfl, List.append_cancel_left same⟩

-- A unit that ends in an infinite share with its unit.
def Hides (unit other : List Char) : Prop := ∃ front, front ≠ [] ∧ unit = front ++ (infinity ++ other)

-- Units that are different words, of two letters at least, and a width to measure against.
structure Fitting (unit : List Char) (t : Target) : Prop where
  word : Word unit
  long : 2 ≤ unit.length
  word' : Word t.unit.toList
  long' : 2 ≤ t.unit.toList.length
  other : unit ≠ t.unit.toList
  last : ¬ ['u', 'r', 'l'] <:+ t.unit.toList
  above : Binary64.Above t.width
  precise : t.precision ≤ 15

-- What is written for a length does not run together with what is beside it.
structure Safe (unit : List Char) (t : Target) (before : Option Char) (number rest : List Char) : Prop where
  apart : ∀ c ∈ before, c.isDigit = false ∧ c ≠ '.'
  undotted : rest.head? ≠ some '.'
  shown : t.convert? (magnitude number) = none ∨ (t.share (magnitude number)).isFinite = true ∨ ¬ Hides unit t.unit.toList

inductive Rewrites (unit : List Char) (t : Target) : Option Char → (cs out : List Char) → Prop where
  | nil : Rewrites unit t before [] []
  | plain (found : token? unit (c :: rest) = none) (behind : Rewrites unit t (some c) rest out) :
      Rewrites unit t before (c :: rest) (c :: out)
  | sealed (opens : Segment inside text) (full : inside ≠ []) (behind : Rewrites unit t (text.getLast?.or before) rest out) :
      Rewrites unit t before (text ++ rest) (text ++ out)
  | length (denotes : Denotes number (magnitude number)) (ends : unitEnds unit rest = true)
      (safe : Safe unit t before number rest) (written : Literal unit t number text)
      (behind : Rewrites unit t ((number ++ unit).getLast?.or before) rest out) :
      Rewrites unit t before (number ++ (unit ++ rest)) (text ++ out)

def AllSafe (unit : List Char) (t : Target) (before : Option Char) (pieces : List Piece) : Prop :=
  ∀ front number back, pieces = front ++ .length number :: back →
    Safe unit t ((front.flatMap (Piece.text unit)).getLast?.or before) number (back.flatMap (Piece.text unit))

variable {unit cs out : List Char} {t : Target} {before : Option Char} {c : Char}

theorem allSafe_behind (safe : AllSafe unit t before (piece :: pieces)) :
    AllSafe unit t ((piece.text unit).getLast?.or before) pieces := by
  intro front number back whole
  have here := safe (piece :: front) number back (by rw [whole]; rfl)
  rwa [List.flatMap_cons, List.getLast?_append, Option.or_assoc] at here

theorem rewrites_exists (fits : Fitting unit t) (cs : List Char) (before : Option Char)
    (safe : AllSafe unit t before (scan unit 0 cs)) :
    Rewrites unit t before cs ((scan unit 0 cs).flatMap (replaced unit t.convert?)) := by
  induction cs using scan_induct unit generalizing before with
  | nil => exact .nil
  | plain c rest found ih =>
    rw [scan_plain found] at safe ⊢
    exact .plain found (ih _ (allSafe_behind safe))
  | token cs piece after found ih =>
    rw [scan_token found] at safe ⊢
    have behind := ih _ (allSafe_behind safe)
    rw [List.flatMap_cons]
    cases token_exact.mp found with
    | sealed closed =>
      obtain ⟨rfl, inside, full, opens⟩ := sealed_exact.mp closed
      exact .sealed opens full behind
    | length _ length =>
      have denotes := length_denotes length
      obtain ⟨whole, -⟩ := length_whole length
      rw [List.append_assoc] at whole
      have first := safe [] _ _ rfl
      rw [scan_text] at first
      rw [← whole]
      exact .length denotes (length_number length).2 first (literal_written fits.above fits.precise denotes unit) behind

theorem alpha_bounds (alpha : c.isAlpha = true) : 65 ≤ c.toNat ∧ c.toNat ≤ 90 ∨ 97 ≤ c.toNat ∧ c.toNat ≤ 122 := by
  simp only [Char.isAlpha, Char.isUpper, Char.isLower, Bool.or_eq_true, Bool.and_eq_true, decide_eq_true_eq, ge_iff_le,
    UInt32.le_iff_toNat_le] at alpha
  have upper : 'A'.val.toNat = 65 := rfl
  have upper' : 'Z'.val.toNat = 90 := rfl
  have lower : 'a'.val.toNat = 97 := rfl
  have lower' : 'z'.val.toNat = 122 := rfl
  have same : c.toNat = c.val.toNat := rfl
  omega

theorem alpha_word (alpha : c.isAlpha = true) : CharSet.word.has c = true := by
  have bounds := alpha_bounds alpha
  have all : ∀ n ≤ 57, n ≤ 25 ∨ 32 ≤ n → CharSet.word.has (Char.ofNat (65 + n)) = true := by decide +kernel
  have word := all (c.toNat - 65) (by omega) (by omega)
  rwa [Nat.add_sub_cancel' (by omega), Char.ofNat_toNat] at word

theorem alpha_alphabetic (alpha : c.isAlpha = true) : Text.isAlphabetic c = true := by
  have bounds := alpha_bounds alpha
  rwa [Text.isAlphabetic, if_pos (by omega)]

theorem unitEnds_word (word : Word unit) (some : unit ≠ []) (rest : List Char) : unitEnds unit rest = !startsWord rest := by
  obtain ⟨front, c, rfl⟩ := List.eq_nil_or_concat unit |>.resolve_left some
  have alpha : c.isAlpha = true := word c (by simp)
  rw [unitEnds, needsBoundary, endsWord, List.concat_eq_append, List.getLast?_concat, Option.any_some, alpha_word alpha]
  simp [Text.isAlphanumeric, alpha_alphabetic alpha]

theorem numeral_opens (denotes : Denotes n x) :
    negative n = true ∧ n.head? = some '-' ∨ negative n = false ∧ ∃ c, n.head? = some c ∧ (c.isDigit = true ∨ c = '.') := by
  cases denotes with
  | positive unsigned =>
    obtain ⟨c, back, rfl, opens⟩ := unsigned_opens unsigned
    refine .inr ⟨decide_eq_false fun same => ?_, c, rfl, opens⟩
    cases same
    rcases opens with digit | point <;> contradiction
  | negative => exact .inl ⟨rfl, rfl⟩

theorem word_starts (word : CharSet.word.has c = true) (ends : startsWord (c :: cs) = false) : False := by
  change CharSet.word.has c = false at ends
  rw [word] at ends
  cases ends

theorem ends_unlettered (ends : startsWord cs = false) : ∀ c ∈ cs.head?, c.isAlpha = false := by
  intro c first
  obtain ⟨back, rfl⟩ := List.head?_eq_some_iff.mp first
  exact Bool.eq_false_of_not_eq_true fun alpha => word_starts (alpha_word alpha) ends

theorem numeral_signed (denotes : Denotes n x) (ends : startsWord (n ++ cs) = false) (undotted : (n ++ cs).head? ≠ some '.') :
    negative n = true := by
  rcases numeral_opens denotes with ⟨signed, -⟩ | ⟨-, d, first, digit | rfl⟩
  · exact signed
  · obtain ⟨digits, rfl⟩ := List.head?_eq_some_iff.mp first
    exact (word_starts (word_digit digit) ends).elim
  · obtain ⟨digits, rfl⟩ := List.head?_eq_some_iff.mp first
    exact absurd rfl undotted

theorem positional_digit (written : Positional body d) : ∃ c back, body = c :: back ∧ c.isDigit = true := by
  cases written with
  | whole digits =>
    obtain ⟨c, back, rfl⟩ := List.exists_cons_of_ne_nil digits.1
    exact ⟨c, back, rfl, digits.2 c List.mem_cons_self⟩
  | fraction front =>
    obtain ⟨c, back, rfl⟩ := List.exists_cons_of_ne_nil front.1
    exact ⟨c, _, rfl, front.2 c List.mem_cons_self⟩

-- What is written for a length begins with its sign, or like a word where the length begins with a digit.
theorem literal_opens (denotes : Denotes n (magnitude n)) (written : Literal unit t n text) : ∃ c back, text = c :: back ∧
    (negative n = true → c = '-' ∨ c = '0') ∧ (negative n = false → n.head? = some c ∨ CharSet.word.has c = true) ∧
    (Numeric c ∨ c = 'i') := by
  cases written with
  | kept =>
    rcases numeral_opens denotes with ⟨minus, first⟩ | ⟨plus, c, first, opens⟩
    · obtain ⟨back, rfl⟩ := List.head?_eq_some_iff.mp first
      exact ⟨_, _, rfl, fun _ => .inl rfl, fun none => by simp [minus] at none, .inl (.inr (by decide))⟩
    · obtain ⟨back, rfl⟩ := List.head?_eq_some_iff.mp first
      refine ⟨_, _, rfl, fun none => by simp [plus] at none, fun _ => .inl rfl, .inl ?_⟩
      exact opens.imp_right fun point => by
        rw [point]
        decide
  | zero => exact ⟨_, _, rfl, fun _ => .inr rfl, fun _ => .inr (by decide +kernel), .inl (.inl rfl)⟩
  | finite written =>
    cases sign : negative n with
    | true => exact ⟨_, _, rfl, fun _ => .inl rfl, fun none => by (cases none), .inl (.inr (by decide))⟩
    | false =>
      obtain ⟨c, back, rfl, digit⟩ := positional_digit written
      exact ⟨_, _, rfl, fun none => by (cases none), fun _ => .inr (word_digit digit), .inl (.inl digit)⟩
  | infinite =>
    cases sign : negative n with
    | true => exact ⟨_, _, rfl, fun _ => .inl rfl, fun none => by (cases none), .inl (.inr (by decide))⟩
    | false => exact ⟨_, _, rfl, fun none => by (cases none), fun _ => .inr (by decide +kernel), .inr rfl⟩

theorem rewrites_opens (rewrites : Rewrites unit t before cs out) : cs.head? = out.head? ∨ ∃ number text rest behind,
    cs = number ++ rest ∧ out = text ++ behind ∧ Denotes number (magnitude number) ∧ Literal unit t number text := by
  cases rewrites with
  | nil | plain => exact .inl rfl
  | sealed opens =>
    obtain ⟨c, text, rfl⟩ := List.exists_cons_of_ne_nil (segment_some opens)
    exact .inl rfl
  | length denotes _ _ written => exact .inr ⟨_, _, _, _, rfl, rfl, denotes, written⟩

theorem rewrites_word (rewrites : Rewrites unit t before cs out) (ends : startsWord out = false) : startsWord cs = false := by
  rcases rewrites_opens rewrites with same | ⟨number, text, rest, behind, rfl, rfl, denotes, written⟩
  · rwa [startsWord, same]
  · obtain ⟨c, back, rfl, -, plus, -⟩ := literal_opens denotes written
    rcases numeral_opens denotes with ⟨-, first⟩ | ⟨unsigned, d, first, -⟩
    · obtain ⟨digits, rfl⟩ := List.head?_eq_some_iff.mp first
      change CharSet.word.has '-' = false
      decide +kernel
    · obtain ⟨digits, rfl⟩ := List.head?_eq_some_iff.mp first
      rcases plus unsigned with same | word
      · cases same
        exact ends
      · exact (word_starts word ends).elim

theorem rewrites_unlettered (rewrites : Rewrites unit t before cs out) (ends : startsWord cs = false)
    (undotted : cs.head? ≠ some '.') : ∀ c ∈ out.head?, c.isAlpha = false := by
  rcases rewrites_opens rewrites with same | ⟨number, text, rest, behind, rfl, rfl, denotes, written⟩
  · exact same ▸ ends_unlettered ends
  · obtain ⟨c, back, rfl, minus, -, -⟩ := literal_opens denotes written
    intro c first
    cases first
    rcases minus (numeral_signed denotes ends undotted) with rfl | rfl <;> rfl

theorem rewrites_plain (rewrites : Rewrites unit t before cs (c :: out)) (other : ¬ Numeric c)
    (others : c ∉ ['i', 'u', '"', '\x27']) : ∃ rest, cs = c :: rest ∧ Rewrites unit t (some c) rest out := by
  generalize whole : c :: out = whole at rewrites
  cases rewrites with
  | nil => cases whole
  | plain _ behind =>
    cases whole
    exact ⟨_, rfl, behind⟩
  | sealed opens =>
    cases opens with
    | quoted quote =>
      cases whole
      rcases quote with rfl | rfl <;> simp at others
    | url =>
      cases whole
      simp at others
  | length denotes _ _ written =>
    obtain ⟨c', back, rfl, -, -, first⟩ := literal_opens denotes written
    cases whole
    rcases first with numeric | rfl
    · exact absurd numeric other
    · simp at others

theorem minus_numeric (s : Bool) : ∀ c ∈ minus s, Numeric c := by
  intro c member
  cases s with
  | false => cases member
  | true =>
    cases List.mem_singleton.mp member
    exact .inr (by decide)

theorem body_numeric (written : Positional body d) : ∀ c ∈ body, Numeric c := by
  intro c member
  rcases mantissa_flat (positional_mantissa written) c member with digit | rfl
  · exact .inl digit
  · exact .inr (by decide)

theorem literal_chars (word : Word unit) (word' : Word t.unit.toList) (denotes : Denotes n (magnitude n))
    (written : Literal unit t n text) : ∀ c ∈ text, Numeric c ∨ c.isAlpha = true := by
  have sign : ∀ c ∈ minus (negative n), Numeric c ∨ c.isAlpha = true := fun c member => .inl (minus_numeric _ c member)
  have letters : ∀ c ∈ t.unit.toList, Numeric c ∨ c.isAlpha = true := fun c member => .inr (word' c member)
  cases written with
  | kept =>
    exact List.forall_mem_append.mpr ⟨fun c member => .inl (denotes_numeric denotes c member), fun c member => .inr (word c member)⟩
  | zero => exact List.forall_mem_singleton.mpr (.inl (.inl rfl))
  | finite written =>
    refine List.forall_mem_append.mpr ⟨List.forall_mem_append.mpr ⟨sign, ?_⟩, letters⟩
    exact fun c member => .inl (body_numeric written c member)
  | infinite =>
    have name : Word infinity := by simp [Word, infinity]
    exact List.forall_mem_append.mpr ⟨sign, List.forall_mem_append.mpr ⟨fun c member => .inr (name c member), letters⟩⟩

theorem rewrites_member (word : Word unit) (word' : Word t.unit.toList) (rewrites : Rewrites unit t before cs out)
    (other : ¬ Numeric c) (other' : c.isAlpha = false) (member : c ∈ out) : c ∈ cs := by
  induction rewrites with
  | nil => exact member
  | plain _ _ ih =>
    rcases List.mem_cons.mp member with rfl | member
    · exact List.mem_cons_self
    · exact List.mem_cons_of_mem _ (ih member)
  | sealed _ _ _ ih => exact List.mem_append.mpr ((List.mem_append.mp member).imp_right ih)
  | length denotes _ _ written _ ih =>
    rcases List.mem_append.mp member with here | later
    · rcases literal_chars word word' denotes written c here with numeric | alpha
      · exact absurd numeric other
      · rw [other'] at alpha
        cases alpha
    · exact List.mem_append_right _ (List.mem_append_right _ (ih later))

-- What is closed now was closed before.
theorem rewrites_closed {q : Char} (word : Word unit) (word' : Word t.unit.toList) (rewrites : Rewrites unit t before cs out)
    (other : ¬ Numeric q) (other' : q.isAlpha = false) (whole : out = inside ++ q :: after) (some : inside ≠ [])
    (first : q ∉ inside) : ∃ inside' after', cs = inside' ++ q :: after' ∧ inside' ≠ [] ∧ q ∉ inside' := by
  have member : q ∈ cs := rewrites_member word word' rewrites other other' (by simp [whole])
  obtain ⟨inside', after', rfl, first'⟩ := List.eq_append_cons_of_mem member
  refine ⟨inside', after', rfl, ?_, first'⟩
  rintro rfl
  obtain ⟨d, inside, rfl⟩ := List.exists_cons_of_ne_nil some
  rcases rewrites_opens rewrites with same | ⟨number, text, rest, behind, same, -, denotes, -⟩
  · rw [whole] at same
    cases same
    exact first List.mem_cons_self
  · obtain ⟨e, digits, rfl⟩ := denotes_cons denotes
    cases same
    exact other (denotes_numeric denotes _ List.mem_cons_self)

-- No segment opens that did not before.
theorem rewrites_sealed (word : Word unit) (word' : Word t.unit.toList) (closed : sealed? (c :: cs) = none)
    (rewrites : Rewrites unit t before cs out) : sealed? (c :: out) = none := by
  rw [Option.eq_none_iff_forall_ne_some] at closed ⊢
  rintro ⟨text, after⟩ found
  obtain ⟨whole, inside, some, opens⟩ := sealed_exact.mp found
  cases opens with
  | @quoted q _ quote first =>
    obtain ⟨rfl, rfl⟩ := List.cons.inj whole
    obtain ⟨other, other'⟩ : ¬ Numeric q ∧ q.isAlpha = false := by rcases quote with rfl | rfl <;> exact ⟨by decide, rfl⟩
    obtain ⟨inside', after', rfl, some', first'⟩ :=
      rewrites_closed word word' rewrites other other' (List.append_assoc ..) some first
    exact closed (_, after') (sealed_exact.mpr ⟨by simp, inside', some', .quoted quote first'⟩)
  | url first =>
    obtain ⟨rfl, rfl⟩ := List.cons.inj whole
    obtain ⟨cs', rfl, second⟩ := rewrites_plain rewrites (by decide) (by decide)
    obtain ⟨cs', rfl, third⟩ := rewrites_plain second (by decide) (by decide)
    obtain ⟨cs', rfl, fourth⟩ := rewrites_plain third (by decide) (by decide)
    obtain ⟨inside', after', rfl, some', first'⟩ :=
      rewrites_closed word word' fourth (by decide) rfl (List.append_assoc inside [')'] after) some first
    exact closed (_, after') (sealed_exact.mpr ⟨by simp [urlOpening], inside', some', .url first'⟩)

end FluidSheet.Length
