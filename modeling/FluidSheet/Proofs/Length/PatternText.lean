import FluidSheet.Proofs.Length.Pattern
import FluidSheet.Proofs.Pattern.Steps

-- Whatever the unit is, it is escaped in the text and so read as itself.

namespace FluidSheet.Length
open Pattern (Term Goes chain escape inSequence inChoice)
variable {t : Term} {bs ts : List Term} {rest unit : List Char}

def enclosingText (opening : List Char) (close : Char) : List Char :=
  escape opening ++ (['[', '^', close, ']', '+'] ++ escape [close])

def digitsText : List Char := ['[', '0', '-', '9', ']', '+']

def exponentBody : List Char := ['[', 'e', 'E', ']', '[', '+', '-', ']', '?'] ++ digitsText

def numeralBody : List Char :=
  ['-', '?', '[', '0', '-', '9', ']', '*', '\\', '.', '?'] ++ digitsText ++ '(' :: '?' :: ':' :: exponentBody ++ [')', '?']

def boundaryText (unit : List Char) : List Char := if needsBoundary unit then ['\\', 'b'] else []

def patternText (unit : List Char) : List Char :=
  enclosingText ['"'] '"' ++ '|' :: (enclosingText ['\x27'] '\x27' ++ '|' :: (enclosingText urlOpening ')' ++
    '|' :: '(' :: (numeralBody ++ ')' :: (escape unit ++ boundaryText unit))))

example : String.ofList (patternText "px".toList) =
    "\"[^\"]+\"|'[^']+'|url\\([^)]+\\)|(-?[0-9]*\\.?[0-9]+(?:[eE][+-]?[0-9]+)?)px\\b" := by decide +kernel

-- The terms of a branch stand in it with the last one first.

def manyTerm (s : CharSet) : Term := (Term.ofSet s 1).again 1 none false

def maybeTerm (t : Term) : Term := t.again 0 (some 1) false

def enclosingTerms (opening : List Char) (close : Char) : List Term :=
  .ofChar close :: manyTerm (.complement (.char close)) :: (opening.map Term.ofChar).reverse

def exponentTerm : Term :=
  (inChoice [inSequence [manyTerm digit, maybeTerm (.ofSet (.chars ['+', '-']) 2), .ofSet (.chars ['e', 'E']) 2]]).grouped none

def numeralTerm : Term :=
  (inChoice [inSequence [maybeTerm exponentTerm, manyTerm digit, maybeTerm (.ofChar '.'),
    (Term.ofSet digit 1).again 0 none false, maybeTerm (.ofChar '-')]]).grouped (some 1)

def suffixTerms (unit : List Char) : List Term :=
  (if needsBoundary unit then [Pattern.single (.check (.boundary false false))] else []) ++ (unit.map Term.ofChar).reverse

theorem goes_maybe (bs ts : List Term) (repeatable : t.repeatable = true) (greedy : rest.head? ≠ some '?') :
    Goes inGroup ⟨⟨.standard, names, groups⟩, bs, t :: ts, '?' :: rest⟩
      ⟨⟨.standard, names, groups⟩, bs, maybeTerm t :: ts, rest⟩ :=
  Pattern.goes_again 0 (some 1) (by decide) repeatable greedy

theorem goes_digit (bs ts : List Term) (rest : List Char) :
    Goes inGroup ⟨⟨.standard, names, groups⟩, bs, ts, '[' :: '0' :: '-' :: '9' :: ']' :: rest⟩
      ⟨⟨.standard, names, groups⟩, bs, .ofSet digit 1 :: ts, rest⟩ :=
  Pattern.goes_bracket (s := ⟨digit, 1⟩) (by simp; omega) rfl

theorem goes_digits (bs ts : List Term) (greedy : rest.head? ≠ some '?') :
    Goes inGroup ⟨⟨.standard, names, groups⟩, bs, ts, digitsText ++ rest⟩
      ⟨⟨.standard, names, groups⟩, bs, manyTerm digit :: ts, rest⟩ :=
  (goes_digit _ _ _).trans (Pattern.goes_again 1 none (by decide) rfl greedy)

theorem goes_enclosing (opening : List Char) (ordinary : close ∉ ['\\', '[', ']', '-', '&', '~']) (bs : List Term)
    (rest : List Char) :
    Goes inGroup ⟨⟨.standard, names, groups⟩, bs, [], enclosingText opening close ++ '|' :: rest⟩
      ⟨⟨.standard, names, groups⟩, inSequence (enclosingTerms opening close) :: bs, [], rest⟩ := by
  unfold enclosingText
  rw [List.append_assoc, List.append_assoc]
  refine (Pattern.goes_escape opening).trans ?_
  rw [List.append_nil]
  have others : Goes inGroup
      ⟨⟨.standard, names, groups⟩, bs, (opening.map Term.ofChar).reverse,
        ['[', '^', close, ']', '+'] ++ (escape [close] ++ '|' :: rest)⟩
      ⟨⟨.standard, names, groups⟩, bs, manyTerm (.complement (.char close)) :: (opening.map Term.ofChar).reverse,
        escape [close] ++ '|' :: rest⟩ :=
    (Pattern.goes_other ordinary _ _ _).trans (Pattern.goes_again 1 none (by decide) rfl (Pattern.escape_head close []))
  exact others.trans ((Pattern.goes_escape [close]).trans (Pattern.goes_bar _ _ _))

theorem goes_exponent (bs ts : List Term) (rest : List Char) :
    Goes inGroup ⟨⟨.standard, names, groups⟩, bs, ts, '(' :: '?' :: ':' :: (exponentBody ++ ')' :: rest)⟩
      ⟨⟨.standard, names, groups⟩, bs, exponentTerm :: ts, rest⟩ := by
  have letter : Goes true ⟨⟨.standard, names, groups⟩, [], [], exponentBody ++ ')' :: rest⟩
      ⟨⟨.standard, names, groups⟩, [], [.ofSet (.chars ['e', 'E']) 2], '[' :: '+' :: '-' :: ']' :: '?' :: (digitsText ++ ')' :: rest)⟩ :=
    Pattern.goes_bracket (s := ⟨.chars ['e', 'E'], 2⟩) (by simp) rfl
  have sign : ∀ ts, Goes true ⟨⟨.standard, names, groups⟩, [], ts, '[' :: '+' :: '-' :: ']' :: '?' :: (digitsText ++ ')' :: rest)⟩
      ⟨⟨.standard, names, groups⟩, [], .ofSet (.chars ['+', '-']) 2 :: ts, '?' :: (digitsText ++ ')' :: rest)⟩ :=
    fun ts => Pattern.goes_bracket (s := ⟨.chars ['+', '-'], 2⟩) (by simp) rfl
  refine Pattern.goes_group rfl (by simp; omega) (letter.trans ((sign _).trans ?_))
  exact (goes_maybe _ _ rfl (by simp [digitsText])).trans (goes_digits _ _ (by simp))

theorem goes_numeral (bs ts : List Term) (rest : List Char) :
    Goes inGroup ⟨⟨.standard, names, 0⟩, bs, ts, '(' :: (numeralBody ++ ')' :: rest)⟩
      ⟨⟨.standard, names, 1⟩, bs, numeralTerm :: ts, rest⟩ := by
  refine Pattern.goes_group rfl ⟨Nat.le_refl _, by simp; omega⟩ ?_
  refine Goes.trans (Pattern.goes_plain (by decide)) ?_
  refine Goes.trans (goes_maybe _ _ rfl (by simp)) ?_
  refine Goes.trans (goes_digit _ _ _) ?_
  refine Goes.trans (Pattern.goes_again 0 none (by decide) rfl (by simp)) ?_
  refine Goes.trans (Pattern.goes_escaped (by decide)) ?_
  refine Goes.trans (goes_maybe _ _ rfl (by simp [digitsText])) ?_
  refine Goes.trans (goes_digits _ _ (by simp)) ?_
  refine Goes.trans (goes_exponent _ _ _) ?_
  exact goes_maybe _ _ rfl (by simp)

theorem goes_suffix (unit : List Char) (bs ts : List Term) :
    Goes inGroup ⟨⟨.standard, names, groups⟩, bs, ts, escape unit ++ boundaryText unit⟩
      ⟨⟨.standard, names, groups⟩, bs, suffixTerms unit ++ ts, []⟩ := by
  refine (Pattern.goes_escape unit).trans ?_
  unfold boundaryText suffixTerms
  split
  · exact Pattern.goes_boundary _ _
  · exact .refl _

theorem many_pattern (s : CharSet) : (manyTerm s).pattern = many s :=
  Pattern.again_pattern (Pattern.ofSet_takes s) 1 none false

theorem enclosing_pattern (opening : List Char) (close : Char) :
    (inSequence (enclosingTerms opening close)).pattern = enclosing opening close := by
  have terms : (enclosingTerms opening close).reverse =
      opening.map Term.ofChar ++ [manyTerm (.complement (.char close)), .ofChar close] := by simp [enclosingTerms]
  rw [Pattern.inSequence_pattern, terms, List.map_append, List.map_map, List.map_cons, many_pattern]
  rfl

theorem numeral_pattern : numeralTerm.pattern = numeral := by decide +kernel

theorem suffix_pattern (unit : List Char) : (suffixTerms unit).reverse.map (·.pattern) = suffix unit := by
  unfold suffixTerms suffix
  rw [List.reverse_append, List.reverse_reverse, List.map_append, List.map_map]
  split <;> rfl

theorem branch_pattern (unit : List Char) :
    (inSequence (suffixTerms unit ++ [numeralTerm])).pattern = chain (numeral :: suffix unit) := by
  rw [Pattern.inSequence_pattern, List.reverse_append, List.map_append, suffix_pattern, ← numeral_pattern]
  rfl

theorem patternText_reads (unit : List Char) : Pattern.ReadsAs (patternText unit) (pattern unit) := by
  have goes : Goes false ⟨⟨.standard, [], 0⟩, [], [], patternText unit⟩
      ⟨⟨.standard, [], 1⟩, [inSequence (enclosingTerms urlOpening ')'), inSequence (enclosingTerms ['\x27'] '\x27'),
        inSequence (enclosingTerms ['"'] '"')], suffixTerms unit ++ [numeralTerm], []⟩ :=
    (goes_enclosing ['"'] (by decide) _ _).trans <| (goes_enclosing ['\x27'] (by decide) _ _).trans <|
      (goes_enclosing urlOpening (by decide) _ _).trans <| (goes_numeral _ _ _).trans (goes_suffix unit _ _)
  have reads := Pattern.goes_readsAs goes rfl
  change Pattern.ReadsAs _ (.either (.either (.either _ _) _) _) at reads
  rw [branch_pattern, enclosing_pattern, enclosing_pattern, enclosing_pattern] at reads
  exact reads

end FluidSheet.Length
