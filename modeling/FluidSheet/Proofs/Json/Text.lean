import Mathlib
import FluidSheet.Json.Reader
import FluidSheet.Json.Writer

namespace FluidSheet.Json

-- Documents whose numbers are counts of at most 64 bits.
inductive Counts : Json → Prop where
  | null : Counts .null
  | bool : Counts (.bool b)
  | number (small : n < Nat.pow 2 64) : Counts (.nat n)
  | string : Counts (.string s)
  | array (each : ∀ j ∈ items, Counts j) : Counts (.array items)
  | object (each : ∀ m ∈ members, Counts m.2) : Counts (.object members)

-- Strings

theorem hexValue_digit : ∀ d < 16, hexValue? (hexDigit d) = some d := by decide

theorem bytesLeft_long (long : n ≤ cs.length) : bytesLeft n cs = true := by
  induction cs generalizing n with
  | nil =>
    cases Nat.le_zero.mp long
    rfl
  | cons c cs ih =>
    cases n with
    | zero => rfl
    | succ n =>
      have wide := c.utf8Size_pos
      rw [List.length_cons] at long
      exact ih (by omega)

theorem readString_plain (q : Quoted) (quote : c ≠ '"') (slash : c ≠ '\\') (control : ¬ c.toNat < 0x20) (rest : List Char) :
    readString q .plain (c :: rest) = readString (q.push c) .plain rest := by
  simp only [readString, readPlain, quote, slash, control, if_false]

theorem readString_simple (q : Quoted) (unit : e ≠ 'u') (stands : simpleEscape? e = some c) (rest : List Char) :
    readString q .plain ('\\' :: e :: rest) = readString (q.push c) .plain rest := by
  simp [readString, readPlain, unit, stands]

theorem readString_unit (q : Quoted) (control : c.toNat < 0x20) (rest : List Char) :
    readString q .plain ('\\' :: 'u' :: '0' :: '0' :: hexDigit (c.toNat / 16) :: hexDigit (c.toNat % 16) :: rest) =
      readString (q.push c) .plain rest := by
  have upper := hexValue_digit (c.toNat / 16) (by omega)
  have lower := hexValue_digit (c.toNat % 16) (by omega)
  have zero : hexValue? '0' = some 0 := hexValue_digit 0 (by decide)
  have left : bytesLeft 4 ('0' :: '0' :: hexDigit (c.toNat / 16) :: hexDigit (c.toNat % 16) :: rest) = true :=
    bytesLeft_long (by simp)
  have value : 16 * (c.toNat / 16) + c.toNat % 16 = c.toNat := Nat.div_add_mod ..
  have unit : q.unit none c.toNat = (q.push c, .plain) := by
    unfold Quoted.unit
    dsimp only
    rw [if_neg (by omega), if_neg (by omega), Char.ofNat_toNat]
  simp [readString, readPlain, left, zero, upper, lower, value, unit]

theorem readString_escape (q : Quoted) (c : Char) (rest : List Char) :
    readString q .plain (escape c ++ rest) = readString (q.push c) .plain rest := by
  have numbered : ∀ n, c.toNat = n → some (Char.ofNat n) = some c := fun n here => by rw [← here, Char.ofNat_toNat]
  unfold escape
  split_ifs with quote slash line feed tab back form control
  · exact readString_simple q (by decide) (by rw [quote]; rfl) rest
  · exact readString_simple q (by decide) (by rw [slash]; rfl) rest
  · exact readString_simple q (by decide) (by rw [line]; rfl) rest
  · exact readString_simple q (by decide) (by rw [feed]; rfl) rest
  · exact readString_simple q (by decide) (by rw [tab]; rfl) rest
  · exact readString_simple q (e := 'b') (by decide) (numbered 8 back) rest
  · exact readString_simple q (e := 'f') (by decide) (numbered 12 form) rest
  · exact readString_unit q control rest
  · exact readString_plain q quote slash control rest

theorem readString_escapes (acc cs rest : List Char) :
    readString ⟨false, acc⟩ .plain (cs.flatMap escape ++ '"' :: rest) =
      (.string (String.ofList (acc.reverse ++ cs)), some rest) := by
  induction cs generalizing acc with
  | nil =>
    rw [List.flatMap_nil, List.nil_append, List.append_nil]
    rfl
  | cons c cs ih =>
    rw [List.flatMap_cons, List.append_assoc, readString_escape, Quoted.push, ih]
    simp

theorem writeString_append (s : String) (rest : List Char) :
    writeString s ++ rest = '"' :: (s.toList.flatMap escape ++ '"' :: rest) := by
  simp [writeString]

theorem readString_write (s : String) (rest : List Char) :
    readString ⟨false, []⟩ .plain (s.toList.flatMap escape ++ '"' :: rest) = (.string s, some rest) := by
  rw [readString_escapes, List.reverse_nil, List.nil_append, String.ofList_toList]

-- Counts

def NumeralEnds (rest : List Char) : Prop :=
  ∀ c, rest.head? = some c → c.isDigit = false ∧ c ≠ '.' ∧ c ≠ 'e' ∧ c ≠ 'E'

theorem numeralEnds_before (sign : c ∈ [',', ']', '}', '\n']) (rest : List Char) : NumeralEnds (c :: rest) := by
  intro d here
  cases here
  simp only [List.mem_cons, List.not_mem_nil, or_false] at sign
  rcases sign with rfl | rfl | rfl | rfl <;> exact ⟨rfl, by decide, by decide, by decide⟩

theorem fitting_grows (acc : Nat) (ds : List Char) : acc ≤ Nat.ofDigitChars 10 ds acc := by
  induction ds generalizing acc with
  | nil => exact Nat.le_refl _
  | cons c ds ih =>
    rw [Nat.ofDigitChars_cons]
    exact Nat.le_trans (by omega) (ih _)

theorem fitting_small (small : Nat.ofDigitChars 10 ds acc < Numeral.capacity) :
    Numeral.fitting acc ds = (Nat.ofDigitChars 10 ds acc, 0) := by
  induction ds generalizing acc with
  | nil => rfl
  | cons c ds ih =>
    rw [Nat.ofDigitChars_cons] at small ⊢
    have fits : 10 * acc + Numeral.digit c < Numeral.capacity := Nat.lt_of_le_of_lt (fitting_grows _ ds) small
    rw [Numeral.fitting, if_pos fits]
    exact ih small

theorem numeralDraft_count (small : n < Nat.pow 2 64) :
    numeralDraft ⟨false, Nat.toDigits 10 n, none, none⟩ = .number (.whole n) := by
  have value := Nat.ofDigitChars_toDigits (n := n) (show 1 < 10 by decide) (Nat.le_refl 10)
  have fits : Numeral.fitting 0 (Nat.toDigits 10 n) = (n, 0) := by
    rw [fitting_small (by rw [value]; exact small), value]
  simp [numeralDraft, Numeral.value?, fits]

theorem toDigits_lead (some : 0 < n) : ∃ c cs, Nat.toDigits 10 n = c :: cs ∧ c ≠ '0' := by
  induction n using Nat.strongRecOn with
  | _ n ih =>
    by_cases small : n < 10
    · refine ⟨n.digitChar, [], Nat.toDigits_of_lt_base small, ?_⟩
      interval_cases n <;> decide
    · obtain ⟨c, cs, digits, lead⟩ := ih (n / 10) (by omega) (by omega)
      exact ⟨c, cs ++ [(n % 10).digitChar], by rw [Nat.toDigits_of_base_le (by decide) (by omega), digits]; rfl, lead⟩

theorem span_digits (digits : ∀ c ∈ ds, c.isDigit = true) (ends : NumeralEnds rest) :
    (ds ++ rest).span Char.isDigit = (ds, rest) := by
  rw [List.span_eq_takeWhile_dropWhile, List.takeWhile_append_of_pos digits, List.dropWhile_append_of_pos digits]
  cases rest with
  | nil => simp
  | cons c rest =>
    have other := (ends c rfl).1
    simp [other]

theorem readFraction_ends (ends : NumeralEnds rest) (n : Numeral) : readFraction n rest = (numeralDraft n, some rest) := by
  cases rest with
  | nil => rfl
  | cons c rest =>
    obtain ⟨-, point, lower, upper⟩ := ends c rfl
    simp [readFraction, readExponent, point, lower, upper]

theorem readNumeral_write (small : n < Nat.pow 2 64) (ends : NumeralEnds rest) :
    readNumeral false (Nat.toDigits 10 n ++ rest) = (.number (.whole n), some rest) := by
  have digits : ∀ c ∈ Nat.toDigits 10 n, c.isDigit = true :=
    fun _ member => Nat.isDigit_of_mem_toDigits (by decide) (by decide) member
  rw [← numeralDraft_count small]
  by_cases zero : n = 0
  · subst zero
    cases rest with
    | nil => rfl
    | cons c rest =>
      have other := (ends c rfl).1
      have whole : Nat.toDigits 10 0 = ['0'] := rfl
      rw [whole, ← readFraction_ends ends]
      simp [readNumeral, other]
  · obtain ⟨c, cs, lead, other⟩ := toDigits_lead (Nat.pos_of_ne_zero zero)
    have parts := span_digits digits ends
    rw [lead, List.cons_append] at parts ⊢
    rw [← readFraction_ends ends]
    unfold readNumeral
    split
    · rename_i impossible
      cases impossible
      exact absurd rfl other
    · rw [parts]
      rfl

-- Documents

theorem skipBlank_other (other : isBlank c = false) (cs : List Char) : skipBlank (c :: cs) = c :: cs := by
  simp [skipBlank, other]

theorem skipBlank_newline (style : Style) (depth : Nat) (cs : List Char) :
    skipBlank (style.newline depth ++ cs) = skipBlank cs := by
  refine List.dropWhile_append_of_pos fun c member => ?_
  cases style with
  | compact => cases member
  | pretty =>
    rcases List.mem_cons.mp member with rfl | space
    · rfl
    · rw [List.eq_of_mem_replicate space]
      rfl

theorem newline_ends (style : Style) (depth : Nat) (close : NumeralEnds (c :: rest)) :
    NumeralEnds (style.newline depth ++ c :: rest) := by
  cases style with
  | compact => exact close
  | pretty => exact numeralEnds_before (by decide) _

theorem readValue_colon (style : Style) (fuel : Nat) (cs : List Char) :
    ∃ rest, skipBlank (style.colon ++ cs) = ':' :: rest ∧ readValue fuel rest = readValue fuel cs := by
  cases style with
  | compact => exact ⟨cs, rfl, rfl⟩
  | pretty =>
    refine ⟨' ' :: cs, rfl, ?_⟩
    cases fuel with
    | zero => rfl
    | succ fuel =>
      rw [readValue, readValue]
      rfl

theorem digit_other {c d : Char} (digit : c.isDigit = true) (other : d.isDigit = false) : c ≠ d := by
  rintro rfl
  rw [other] at digit
  cases digit

theorem digit_shown {c : Char} (digit : c.isDigit = true) : isBlank c = false := by
  have space : c ≠ ' ' := digit_other digit rfl
  have line : c ≠ '\n' := digit_other digit rfl
  have tab : c ≠ '\t' := digit_other digit rfl
  have feed : c ≠ '\r' := digit_other digit rfl
  simp [isBlank, space, line, tab, feed]

theorem readValue_digit (digit : c.isDigit = true) (fuel : Nat) (cs : List Char) :
    readValue (fuel + 1) (c :: cs) = readNumeral false (c :: cs) := by
  rw [readValue, skipBlank_other (digit_shown digit)]
  split
  case h_9 same =>
    cases same
    rw [if_pos digit]
  case h_1 impossible => cases impossible
  all_goals
    rename_i same
    cases same
    cases digit

theorem count_opens (n : Nat) : ∃ c cs, Nat.toDigits 10 n = c :: cs ∧ c.isDigit = true := by
  obtain ⟨c, cs, digits⟩ := List.exists_cons_of_ne_nil (Nat.toDigits_ne_nil (n := n) (b := 10))
  exact ⟨c, cs, digits, Nat.isDigit_of_mem_toDigits (b := 10) (n := n) (by decide) (by decide) (by simp [digits])⟩

-- What a written document begins with: nothing blank, and not the end of an array.
theorem write_opens (counts : Counts j) (style : Style) (depth : Nat) :
    ∃ c cs, j.write style depth = c :: cs ∧ isBlank c = false ∧ c ≠ ']' := by
  cases counts with
  | null => exact ⟨'n', _, rfl, rfl, by decide⟩
  | @bool b => cases b <;> exact ⟨_, _, rfl, rfl, by decide⟩
  | @number n small =>
    obtain ⟨c, cs, digits, digit⟩ := count_opens n
    exact ⟨c, cs, digits, digit_shown digit, digit_other digit rfl⟩
  | string => exact ⟨'"', _, rfl, rfl, by decide⟩
  | @array items each => cases items <;> exact ⟨'[', _, rfl, rfl, by decide⟩
  | @object members each => cases members <;> exact ⟨'{', _, rfl, rfl, by decide⟩

theorem write_takes (counts : Counts j) (enough : (j.write style depth).length ≤ fuel) : ∃ f, fuel = f + 1 := by
  obtain ⟨c, cs, opens, -⟩ := write_opens counts style depth
  rw [opens, List.length_cons] at enough
  exact Nat.exists_eq_add_one.mpr (by omega)

def ReadsBack (j : Json) : Prop :=
  ∀ style depth fuel rest, (j.write style depth).length ≤ fuel → NumeralEnds rest →
    readValue fuel (j.write style depth ++ rest) = (.ofJson j, some rest)

theorem readItems_last (value : readValue fuel cs = (d, some rest)) (close : skipBlank rest = ']' :: after) :
    readItems (fuel + 1) cs = ([d], some after) := by
  simp only [readItems, value, close]

theorem readItems_next (value : readValue fuel cs = (d, some rest)) (comma : skipBlank rest = ',' :: more)
    (opens : skipBlank more = c :: after) (other : c ≠ ']') :
    readItems (fuel + 1) cs = consItem d (readItems fuel (c :: after)) := by
  simp only [readItems, value, comma, opens]
  split
  · rename_i impossible
    cases impossible
  · rename_i same
    cases same
    exact absurd rfl other
  · rfl

theorem readMembers_last (key : readString ⟨false, []⟩ .plain cs = (k, some rest)) (colon : skipBlank rest = ':' :: more)
    (value : readValue fuel more = (v, some rest')) (close : skipBlank rest' = '}' :: after) :
    readMembers (fuel + 1) ('"' :: cs) = ([(k, v)], some after) := by
  simp only [readMembers, key, colon, value, close]

theorem readMembers_next (key : readString ⟨false, []⟩ .plain cs = (k, some rest)) (colon : skipBlank rest = ':' :: more)
    (value : readValue fuel more = (v, some rest')) (comma : skipBlank rest' = ',' :: more')
    (opens : skipBlank more' = c :: after) :
    readMembers (fuel + 1) ('"' :: cs) = consMember k v (readMembers fuel (c :: after)) := by
  simp only [readMembers, key, colon, value, comma, opens]

theorem readItems_write (style : Style) (depth fuel : Nat) (rest : List Char)
    (each : ∀ j' ∈ j :: js, Counts j' ∧ ReadsBack j')
    (enough : (j.write style (depth + 1)).length + (writeItems style depth js).length ≤ fuel) :
    readItems fuel (j.write style (depth + 1) ++ (writeItems style depth js ++ rest)) =
      (Draft.ofItems (j :: js), some rest) := by
  induction js generalizing j fuel with
  | nil =>
    have text : writeItems style depth [] ++ rest = style.newline depth ++ ']' :: rest := by simp [writeItems]
    obtain ⟨fuel, rfl⟩ : ∃ f, fuel = f + 1 := Nat.exists_eq_add_one.mpr (by simp [writeItems] at enough; omega)
    rw [text]
    refine readItems_last ((each j List.mem_cons_self).2 style (depth + 1) fuel _ ?_ ?_) ?_
    · simp only [writeItems, List.length_append, List.length_singleton] at enough
      omega
    · exact newline_ends style depth (numeralEnds_before (by decide) _)
    · rw [skipBlank_newline, skipBlank_other rfl]
  | cons k js ih =>
    have text : writeItems style depth (k :: js) ++ rest =
        ',' :: (style.newline (depth + 1) ++ (k.write style (depth + 1) ++ (writeItems style depth js ++ rest))) := by
      simp [writeItems]
    simp only [writeItems, List.cons_append, List.length_cons, List.length_append] at enough
    obtain ⟨fuel, rfl⟩ : ∃ f, fuel = f + 1 := Nat.exists_eq_add_one.mpr (by omega)
    obtain ⟨c, cs, opens, shown, other⟩ := write_opens (each k (by simp)).1 style (depth + 1)
    have behind := ih fuel (fun j' member => each j' (List.mem_cons_of_mem _ member)) (by omega)
    rw [opens, List.cons_append] at behind
    rw [text, readItems_next ((each j List.mem_cons_self).2 style (depth + 1) fuel _ (by omega) ?_)
      (skipBlank_other rfl _) ?_ other, behind]
    · rfl
    · exact numeralEnds_before (by decide) _
    · rw [skipBlank_newline, opens]
      exact skipBlank_other shown _

theorem readMembers_write (style : Style) (depth fuel : Nat) (rest : List Char)
    (each : ∀ m' ∈ m :: ms, ReadsBack m'.2)
    (enough : (m.2.write style (depth + 1)).length + (writeMembers style depth ms).length ≤ fuel) :
    readMembers fuel
        (writeString m.1 ++ (style.colon ++ (m.2.write style (depth + 1) ++ (writeMembers style depth ms ++ rest)))) =
      (Draft.ofMembers (m :: ms), some rest) := by
  induction ms generalizing m fuel with
  | nil =>
    have text : writeMembers style depth [] ++ rest = style.newline depth ++ '}' :: rest := by simp [writeMembers]
    simp only [writeMembers, List.length_append, List.length_singleton] at enough
    obtain ⟨fuel, rfl⟩ : ∃ f, fuel = f + 1 := Nat.exists_eq_add_one.mpr (by omega)
    obtain ⟨behind, colon, value⟩ := readValue_colon style fuel
      (m.2.write style (depth + 1) ++ (style.newline depth ++ '}' :: rest))
    rw [text, writeString_append]
    refine readMembers_last (readString_write m.1 _) colon
      (value.trans ((each m List.mem_cons_self) style (depth + 1) fuel _ (by omega) ?_)) ?_
    · exact newline_ends style depth (numeralEnds_before (by decide) _)
    · rw [skipBlank_newline, skipBlank_other rfl]
  | cons k ms ih =>
    have text : writeMembers style depth (k :: ms) ++ rest =
        ',' :: (style.newline (depth + 1) ++ (writeString k.1 ++ (style.colon ++
          (k.2.write style (depth + 1) ++ (writeMembers style depth ms ++ rest))))) := by
      simp [writeMembers]
    simp only [writeMembers, List.cons_append, List.length_cons, List.length_append] at enough
    obtain ⟨fuel, rfl⟩ : ∃ f, fuel = f + 1 := Nat.exists_eq_add_one.mpr (by omega)
    have behind := ih fuel (fun m' member => each m' (List.mem_cons_of_mem _ member)) (by omega)
    obtain ⟨after, colon, value⟩ := readValue_colon style fuel
      (m.2.write style (depth + 1) ++ (writeMembers style depth (k :: ms) ++ rest))
    rw [writeString_append k.1] at behind
    rw [writeString_append, readMembers_next (readString_write m.1 _) colon
      (value.trans ((each m List.mem_cons_self) style (depth + 1) fuel _ (by omega) ?_))
      ((congrArg skipBlank text).trans (skipBlank_other rfl _)) ?_, behind]
    · rfl
    · rw [text]
      exact numeralEnds_before (by decide) _
    · rw [skipBlank_newline, writeString_append]
      exact skipBlank_other rfl _

theorem readValue_items (opens : skipBlank cs = c :: after) (other : c ≠ ']')
    (read : readItems fuel (c :: after) = (ds, some rest)) :
    readValue (fuel + 1) ('[' :: cs) = (.array ds, some rest) := by
  rw [readValue, skipBlank_other rfl]
  simp only [opens]
  split
  · rename_i impossible
    cases impossible
    exact absurd rfl other
  · rw [read]

theorem readValue_members (opens : skipBlank cs = '"' :: after)
    (read : readMembers fuel ('"' :: after) = (ds, some rest)) :
    readValue (fuel + 1) ('{' :: cs) = (.object ds, some rest) := by
  rw [readValue, skipBlank_other rfl]
  simp only [opens]
  split
  · rename_i impossible
    cases impossible
  · rw [read]

theorem array_reads (each : ∀ j ∈ items, Counts j ∧ ReadsBack j) : ReadsBack (.array items) := by
  intro style depth fuel rest enough ends
  obtain ⟨fuel, rfl⟩ := write_takes (.array fun j member => (each j member).1) enough
  cases items with
  | nil => rfl
  | cons j js =>
    have text : (Json.array (j :: js)).write style depth ++ rest =
        '[' :: (style.newline (depth + 1) ++ (j.write style (depth + 1) ++ (writeItems style depth js ++ rest))) := by
      simp [write]
    simp only [write, List.cons_append, List.length_cons, List.length_append] at enough
    have read := readItems_write style depth fuel rest each (by omega)
    obtain ⟨c, cs, opens, shown, other⟩ := write_opens (each j List.mem_cons_self).1 style (depth + 1)
    rw [opens, List.cons_append] at read
    rw [text]
    refine readValue_items ?_ other read
    rw [skipBlank_newline, opens]
    exact skipBlank_other shown _

theorem object_reads (each : ∀ m ∈ members, Counts m.2 ∧ ReadsBack m.2) : ReadsBack (.object members) := by
  intro style depth fuel rest enough ends
  obtain ⟨fuel, rfl⟩ := write_takes (.object fun m member => (each m member).1) enough
  cases members with
  | nil => rfl
  | cons m ms =>
    have text : (Json.object (m :: ms)).write style depth ++ rest =
        '{' :: (style.newline (depth + 1) ++ (writeString m.1 ++ (style.colon ++
          (m.2.write style (depth + 1) ++ (writeMembers style depth ms ++ rest))))) := by
      simp [write]
    simp only [write, List.cons_append, List.length_cons, List.length_append] at enough
    have read := readMembers_write style depth fuel rest (fun m member => (each m member).2) (by omega)
    rw [writeString_append] at read
    rw [text]
    refine readValue_members ?_ read
    rw [skipBlank_newline, writeString_append]
    exact skipBlank_other rfl _

theorem Counts.reads (counts : Counts j) : ReadsBack j := by
  induction counts with
  | array each ih => exact array_reads fun j member => ⟨each j member, ih j member⟩
  | object each ih => exact object_reads fun m member => ⟨each m member, ih m member⟩
  | null =>
    intro style depth fuel rest enough ends
    obtain ⟨fuel, rfl⟩ := write_takes .null enough
    rfl
  | @bool b =>
    intro style depth fuel rest enough ends
    obtain ⟨fuel, rfl⟩ := write_takes .bool enough
    cases b <;> rfl
  | @number n small =>
    intro style depth fuel rest enough ends
    obtain ⟨fuel, rfl⟩ := write_takes (.number small) enough
    obtain ⟨c, cs, digits, digit⟩ := count_opens n
    have text : (Json.nat n).write style depth ++ rest = c :: (cs ++ rest) := congrArg (· ++ rest) digits
    rw [text, readValue_digit digit, ← List.cons_append, ← digits]
    exact readNumeral_write small ends
  | @string s =>
    intro style depth fuel rest enough ends
    obtain ⟨fuel, rfl⟩ := write_takes .string enough
    have text : (Json.string s).write style depth = writeString s := rfl
    rw [text, writeString_append, readValue, skipBlank_other rfl]
    exact readString_write s rest

theorem ofText_write (counts : Counts j) (style : Style) :
    Page.ofText (String.ofList (j.write style 0)) = ⟨.ofJson j, false⟩ := by
  have read := counts.reads style 0 ((j.write style 0).length + 1) [] (Nat.le_succ _) (fun _ none => nomatch none)
  rw [List.append_nil] at read
  unfold Page.ofText
  rw [String.toList_ofList]
  dsimp only
  rw [read]
  rfl

-- Depth

mutual
def nesting : Json → Nat
  | .array items => nestingItems items + 1
  | .object members => nestingMembers members + 1
  | _ => 0

def nestingItems : List Json → Nat
  | [] => 0
  | j :: rest => max j.nesting (nestingItems rest)

def nestingMembers : List (String × Json) → Nat
  | [] => 0
  | (_, j) :: rest => max j.nesting (nestingMembers rest)
end

theorem nesting_item (member : j ∈ items) : j.nesting ≤ nestingItems items := by
  induction items with
  | nil => cases member
  | cons i items ih =>
    rw [nestingItems]
    rcases List.mem_cons.mp member with rfl | later
    · exact Nat.le_max_left ..
    · exact Nat.le_trans (ih later) (Nat.le_max_right ..)

theorem nesting_member (member : (k, j) ∈ members) : j.nesting ≤ nestingMembers members := by
  induction members with
  | nil => cases member
  | cons m members ih =>
    obtain ⟨k', j'⟩ := m
    rw [nestingMembers]
    rcases List.mem_cons.mp member with same | later
    · cases same
      exact Nat.le_max_left ..
    · exact Nat.le_trans (ih later) (Nat.le_max_right ..)

mutual
theorem toJson_ofJson : (j : Json) → j.nesting ≤ depth → (Draft.ofJson j).toJson depth = .ok j
  | .null, _ | .bool _, _ | .number _, _ | .string _, _ => rfl
  | .array items, shallow => by
    rw [nesting] at shallow
    cases depth with
    | zero => omega
    | succ depth =>
      rw [Draft.ofJson, Draft.toJson, toItems_ofItems items (by omega)]
      rfl
  | .object members, shallow => by
    rw [nesting] at shallow
    cases depth with
    | zero => omega
    | succ depth =>
      rw [Draft.ofJson, Draft.toJson, toMembers_ofMembers members (by omega)]
      rfl

theorem toItems_ofItems : (items : List Json) → nestingItems items ≤ depth →
    Draft.toItems depth (Draft.ofItems items) = .ok items
  | [], _ => rfl
  | j :: rest, shallow => by
    rw [nestingItems] at shallow
    rw [Draft.ofItems, Draft.toItems, toJson_ofJson j (by omega), toItems_ofItems rest (by omega)]
    rfl

theorem toMembers_ofMembers : (members : List (String × Json)) → nestingMembers members ≤ depth →
    Draft.toMembers depth (Draft.ofMembers members) = .ok members
  | [], _ => rfl
  | (k, j) :: rest, shallow => by
    rw [nestingMembers] at shallow
    rw [Draft.ofMembers, Draft.toMembers, toJson_ofJson j (by omega), toMembers_ofMembers rest (by omega)]
    rfl
end

end FluidSheet.Json
