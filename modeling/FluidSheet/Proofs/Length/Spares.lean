import FluidSheet.Proofs.Length.Cutting
import FluidSheet.Proofs.Length.Fixed

-- An empty quoted text is not taken whole, so that the scan can fall out of step behind it.

namespace FluidSheet.Length

-- Every conversion is asked for lengths outside the segments only, and writes in their place only.
def Spares (unit value : String) : Prop :=
  ∃ parts pieces, Reads value.toList parts ∧ Cutting unit.toList parts pieces ∧
    pieces.filterMap Piece.number? = (scan unit.toList 0 value.toList).filterMap Piece.number? ∧
    ∀ convert, replace unit value convert = String.ofList (pieces.flatMap (replaced unit.toList convert))

-- A length that is found reaches into a segment.
def Reaches (unit value : String) : Prop :=
  ∃ parts, Reads value.toList parts ∧ Overlap unit.toList (scan unit.toList 0 value.toList) parts

-- An empty quoted text has no quote of its kind behind it, unless directly behind.
def Lone (cs : List Char) : Prop :=
  ∀ front q back, Reads cs (front ++ .sealed [q, q] :: back) →
    q ∈ back.flatMap (Piece.text []) → (back.flatMap (Piece.text [])).head? = some q

variable {unit cs : List Char} {as bs : List Piece}

theorem replaced_plain (unit : List Char) (convert : Binary64 → Option (List Char)) (cs : List Char) :
    (cs.map .plain).flatMap (replaced unit convert) = cs := by
  induction cs with
  | nil => rfl
  | cons c cs ih => exact congrArg (List.cons c) ih

theorem dissolve_replaced (unit : List Char) (convert : Binary64 → Option (List Char)) (p : Piece) :
    p.dissolve.flatMap (replaced unit convert) = replaced unit convert p := by
  cases p with
  | plain | length => exact List.append_nil _
  | sealed text => exact replaced_plain unit convert text

theorem dissolve_numbers (pieces : List Piece) :
    (pieces.flatMap Piece.dissolve).filterMap Piece.number? = pieces.filterMap Piece.number? := by
  induction pieces with
  | nil => rfl
  | cons p pieces ih =>
    rw [List.flatMap_cons, List.filterMap_append, ih]
    cases p with
    | plain | length => rfl
    | sealed text =>
      have none : (text.map Piece.plain).filterMap Piece.number? = [] := by simp [List.filterMap_map, Piece.number?]
      rw [Piece.dissolve, none]
      rfl

def Loose (pieces : List Piece) : Prop := ∀ text, .sealed text ∉ pieces

theorem dissolve_loose (pieces : List Piece) : Loose (pieces.flatMap Piece.dissolve) := by
  intro text member
  obtain ⟨p, _, inside⟩ := List.mem_flatMap.mp member
  cases p with
  | plain | length => cases List.mem_singleton.mp inside
  | sealed text' =>
    obtain ⟨c, _, same⟩ := List.mem_map.mp inside
    cases same

-- One character is written for every length.
def marked (unit : List Char) (d : Char) (pieces : List Piece) : List Char :=
  pieces.flatMap (replaced unit fun _ => some [d])

-- The pieces can be told by the numbers among them and by where such characters come to stand.
theorem loose_unique (unit : List Char) (loose : Loose as) (loose' : Loose bs)
    (numbers : as.filterMap Piece.number? = bs.filterMap Piece.number?)
    (same : ∀ d, marked unit d as = marked unit d bs) : as = bs := by
  induction as generalizing bs with
  | nil =>
    cases bs with
    | nil => rfl
    | cons b bs =>
      cases b with
      | sealed text => exact absurd List.mem_cons_self (loose' text)
      | plain | length => cases same 'x'
  | cons a as ih =>
    have later : Loose as := fun text member => loose text (List.mem_cons_of_mem _ member)
    cases bs with
    | nil =>
      cases a with
      | sealed text => exact absurd List.mem_cons_self (loose text)
      | plain | length => cases same 'x'
    | cons b bs =>
      have later' : Loose bs := fun text member => loose' text (List.mem_cons_of_mem _ member)
      cases a with
      | sealed text => exact absurd List.mem_cons_self (loose text)
      | plain c =>
        cases b with
        | sealed text => exact absurd List.mem_cons_self (loose' text)
        | plain c' =>
          have heads : ∀ d, c :: marked unit d as = c' :: marked unit d bs := same
          rw [(List.cons.inj (heads 'x')).1, ih later later' numbers fun d => (List.cons.inj (heads d)).2]
        | length number =>
          have x : c = 'x' := (List.cons.inj (same 'x')).1
          have y : c = 'y' := (List.cons.inj (same 'y')).1
          exact absurd (x.symm.trans y) (by decide)
      | length number =>
        cases b with
        | sealed text => exact absurd List.mem_cons_self (loose' text)
        | plain c =>
          have x : 'x' = c := (List.cons.inj (same 'x')).1
          have y : 'y' = c := (List.cons.inj (same 'y')).1
          exact absurd (x.trans y.symm) (by decide)
        | length number' =>
          obtain ⟨first, others⟩ := List.cons.inj numbers
          rw [first, ih later later' others fun d => (List.cons.inj (same d)).2]

theorem spares_exact (unit value : String) : Spares unit value ↔ InStep unit.toList value.toList := by
  constructor
  · rintro ⟨parts, pieces, reads, cutting, numbers, replaces⟩
    refine ⟨parts, pieces, reads, cutting, loose_unique unit.toList (dissolve_loose _) (dissolve_loose _) ?_ fun d => ?_⟩
    · rw [dissolve_numbers, dissolve_numbers, numbers]
    · unfold marked
      rw [dissolve_flatMap (dissolve_replaced _ _), dissolve_flatMap (dissolve_replaced _ _)]
      exact (String.ofList_injective (replaces fun _ => some [d])).symm
  · rintro ⟨parts, pieces, reads, cutting, same⟩
    refine ⟨parts, pieces, reads, cutting, ?_, fun convert => ?_⟩
    · rw [← dissolve_numbers, same, dissolve_numbers]
    · rw [replace, ← dissolve_flatMap (dissolve_replaced _ _), ← same, dissolve_flatMap (dissolve_replaced _ _)]

theorem token_other (closed : sealed? (c :: rest) = none) (other : ¬ Numeric c) : token? unit (c :: rest) = none := by
  refine token_none.mpr ⟨closed, ?_⟩
  rw [Option.eq_none_iff_forall_ne_some]
  rintro ⟨number, after⟩ found
  obtain ⟨whole, front, d, rfl, _⟩ := length_whole found
  have first : c ∈ front ++ [d] := by
    cases front with
    | nil => exact List.mem_singleton.mpr (List.cons.inj whole).1.symm
    | cons x front => exact List.mem_cons.mpr (.inl (List.cons.inj whole).1.symm)
  exact other (length_spelled found c first)

theorem quote_closed (quote : q = '"' ∨ q = '\x27') (alone : q ∈ rest → rest.head? = some q) :
    sealed? (q :: rest) = none := by
  rw [Option.eq_none_iff_forall_ne_some]
  rintro ⟨text, after⟩ found
  obtain ⟨same, inside, some, opens⟩ := sealed_exact.mp found
  cases opens with
  | quoted _ first =>
    obtain ⟨rfl, behind⟩ := List.cons.inj same
    obtain ⟨c, inside, rfl⟩ := List.exists_cons_of_ne_nil some
    have here := alone (by simp [← behind])
    rw [← behind] at here
    cases here
    exact first List.mem_cons_self
  | url => rcases quote with rfl | rfl <;> cases (List.cons.inj same).1

theorem segment_scan (unit : List Char) (opens : Segment inside text)
    (lone : ∀ q, text = [q, q] → q ∈ rest → rest.head? = some q) :
    (scan unit 0 (text ++ rest)).flatMap Piece.dissolve = text.map .plain ++ (scan unit 0 rest).flatMap Piece.dissolve := by
  by_cases empty : inside = []
  · subst empty
    have closed := sealed_none opens rest
    cases opens with
    | @quoted q _ quote _ =>
      have other : ¬ Numeric q := by rcases quote with rfl | rfl <;> decide
      change sealed? (q :: q :: rest) = none at closed
      change (scan unit 0 (q :: q :: rest)).flatMap Piece.dissolve = _
      rw [scan_plain (token_other closed other), scan_plain (token_other (quote_closed quote (lone q rfl)) other)]
      rfl
    | url =>
      change sealed? ('u' :: 'r' :: 'l' :: '(' :: ')' :: rest) = none at closed
      change (scan unit 0 ('u' :: 'r' :: 'l' :: '(' :: ')' :: rest)).flatMap Piece.dissolve = _
      rw [scan_plain (token_other closed (by decide)), scan_plain (token_other rfl (by decide)),
        scan_plain (token_other rfl (by decide)), scan_plain (token_other rfl (by decide)),
        scan_plain (token_other rfl (by decide))]
      rfl
  · have found : sealed? (text ++ rest) = some (text, rest) := sealed_exact.mpr ⟨rfl, inside, empty, opens⟩
    rw [scan_token (token_exact.mpr (.sealed found))]
    rfl

theorem runs_on (front rest : List Char) (named : Text.isAlphanumeric c = true) (word : CharSet.word.has c = true)
    (word' : CharSet.word.has d = true) : unitEnds (front ++ [c]) (d :: rest) = false := by
  simp [unitEnds, needsBoundary, endsWord, startsWord, named, word, word']

theorem unit_outside (word : Word unit) (last : ¬ ['u', 'r', 'l'] <:+ unit)
    (ends : unitEnds unit rest = true) (whole : unit = front ++ c :: back) : Outside (c :: (back ++ rest)) := by
  have letter : ∀ d ∈ c :: back, d.isAlpha = true :=
    fun d member => word d (whole ▸ List.mem_append_right front member)
  have quote : ∀ d, d.isAlpha = false → c ≠ d := by
    rintro d none rfl
    rw [letter c List.mem_cons_self] at none
    cases none
  refine outside_other ⟨quote _ (by decide), quote _ (by decide)⟩ ?_
  rintro ⟨tail, starts⟩
  have u : CharSet.word.has 'u' = true := by decide +kernel
  have r : CharSet.word.has 'r' = true := by decide +kernel
  have l : CharSet.word.has 'l' = true := by decide +kernel
  obtain ⟨rfl, second⟩ := List.cons.inj starts
  cases back with
  | nil =>
    obtain rfl : 'r' :: 'l' :: '(' :: tail = rest := second
    rw [whole, runs_on front _ (by decide) u r] at ends
    cases ends
  | cons x back =>
    obtain ⟨rfl, third⟩ := List.cons.inj second
    cases back with
    | nil =>
      obtain rfl : 'l' :: '(' :: tail = rest := third
      rw [whole, List.append_cons, runs_on (front ++ ['u']) _ (by decide) r l] at ends
      cases ends
    | cons y back =>
      obtain ⟨rfl, fourth⟩ := List.cons.inj third
      cases back with
      | nil => exact last ⟨front, whole.symm⟩
      | cons z back =>
        obtain ⟨rfl, -⟩ := List.cons.inj fourth
        exact absurd (letter '(' (by simp)) (by decide)

theorem length_reads (word : Word unit) (last : ¬ ['u', 'r', 'l'] <:+ unit) (found : length? unit cs = some (number, rest))
    (behind : Reads rest parts) : Reads cs ((number ++ unit).map .plain ++ parts) := by
  obtain ⟨whole, -⟩ := length_whole found
  rw [← whole, List.map_append, List.append_assoc, List.append_assoc]
  refine reads_run ?_ (reads_run ?_ behind)
  · rintro front c back rfl
    exact numeric_outside (length_spelled found c (by simp)) _
  · intro front c back split
    exact unit_outside word last (length_number found).2 split

-- What is behind a length stays in step, and so it does behind a segment or a plain character.
theorem length_inStep (word : Word unit) (last : ¬ ['u', 'r', 'l'] <:+ unit) (outside : Outside cs)
    (found : length? unit cs = some (number, rest)) (step : InStep unit rest) : InStep unit cs := by
  obtain ⟨parts, pieces, reads, cutting, same⟩ := step
  refine ⟨_, _, length_reads word last found reads, .length cutting, ?_⟩
  rw [scan_token (token_exact.mpr (.length (sealed_outside outside) found)), List.flatMap_cons, same]
  rfl

theorem plain_inStep (outside : Outside (c :: rest)) (short : length? unit (c :: rest) = none) (step : InStep unit rest) :
    InStep unit (c :: rest) := by
  obtain ⟨parts, pieces, reads, cutting, same⟩ := step
  refine ⟨_, _, .plain outside reads, .plain cutting, ?_⟩
  rw [scan_plain (token_none.mpr ⟨sealed_outside outside, short⟩), List.flatMap_cons, same]
  rfl

theorem segment_inStep (opens : Segment inside text) (lone : ∀ q, text = [q, q] → q ∈ rest → rest.head? = some q)
    (step : InStep unit rest) : InStep unit (text ++ rest) := by
  obtain ⟨parts, pieces, reads, cutting, same⟩ := step
  refine ⟨_, _, .segment opens reads, .segment cutting, ?_⟩
  rw [segment_scan unit opens lone, List.flatMap_cons, same]
  rfl

theorem word_inStep (word : Word unit) (last : ¬ ['u', 'r', 'l'] <:+ unit) (cs : List Char) : Lone cs → InStep unit cs := by
  induction cs using segments_induct with
  | nil => exact fun _ => ⟨[], [], .nil, .nil, rfl⟩
  | segment inside text rest opens ih =>
    intro lone
    refine segment_inStep opens ?_ (ih fun front q back reads => lone (.sealed text :: front) q back (.segment opens reads))
    rintro q rfl behind
    obtain ⟨parts, reads⟩ := reads_exists rest
    rw [← reads_text reads []] at behind ⊢
    exact lone [] q parts (.segment opens reads) behind
  | plain c rest outside ih =>
    intro lone
    cases found : length? unit (c :: rest) with
    | none =>
      exact plain_inStep outside found (ih rest (Nat.le_refl _) fun front q back reads =>
        lone (.plain c :: front) q back (.plain outside reads))
    | some split =>
      obtain ⟨number, after⟩ := split
      refine length_inStep word last outside found (ih after (length_shorter found) fun front q back reads => ?_)
      have whole := length_reads word last found reads
      rw [← List.append_assoc] at whole
      exact lone _ q back whole

-- The unit has to end in the name of a URL, or an empty quoted text to have a quote of its kind further on,
-- for a length to reach into a segment.
theorem replace_spares (unit value : String) : (Spares unit value ↔ ¬ Reaches unit value) ∧
    (Word unit.toList → ¬ ['u', 'r', 'l'] <:+ unit.toList → Lone value.toList → Spares unit value) :=
  ⟨(spares_exact unit value).trans (inStep_exact unit.toList value.toList),
    fun word last lone => (spares_exact unit value).mpr (word_inStep word last value.toList lone)⟩

theorem replace_spares_quoted :
    let value := "\"10px\" 10px url(10px)"
    Spares "px" value ∧ replace "px" value (fun _ => some ['x']) = "\"10px\" x url(10px)" := by
  intro value
  refine ⟨(replace_spares "px" value).2 (by simp [Word]) ?_ ?_, by decide +kernel⟩
  · rw [← List.isSuffixOf_iff_suffix]
    decide
  · intro front q back reads _
    have apart : value.toList.IsChain (· ≠ ·) := by decide +kernel
    rw [← reads_text reads [], List.flatMap_append, List.flatMap_cons] at apart
    exact absurd rfl (List.isChain_cons_cons.mp apart.right_of_append).1

-- Behind an empty quoted text the scan takes the next quote for the start of a text.
theorem quotes_slip :
    let value := "\"\" \"10px\""
    Word "px".toList ∧
      Reads value.toList [.sealed ['"', '"'], .plain ' ', .sealed ['"', '1', '0', 'p', 'x', '"']] ∧
      replace "px" value (fun _ => some ['x']) = "\"\" \"x\"" ∧ ¬ Spares "px" value := by
  intro value
  have reads : Reads value.toList [.sealed ['"', '"'], .plain ' ', .sealed ['"', '1', '0', 'p', 'x', '"']] := by
    have whole : value.toList = ['"', '"'] ++ ' ' :: (['"', '1', '0', 'p', 'x', '"'] ++ []) := by decide +kernel
    have empty : Segment [] ['"', '"'] := .quoted (.inl rfl) List.not_mem_nil
    have text : Segment ['1', '0', 'p', 'x'] ['"', '1', '0', 'p', 'x', '"'] := .quoted (.inl rfl) (by decide)
    rw [whole]
    refine .segment empty (.plain (outside_other (by decide) ?_) (.segment text .nil))
    rw [← List.isPrefixOf_iff_prefix]
    decide
  refine ⟨by simp [Word], reads, by decide +kernel, fun spares => ?_⟩
  have found : scan "px".toList 0 value.toList = [.plain '"', .sealed ['"', ' ', '"'], .length ['1', '0'], .plain '"'] := by
    decide +kernel
  refine (inStep_exact _ _).mp ((spares_exact _ _).mp spares) ⟨_, reads, ?_⟩
  rw [found]
  exact ⟨[.plain '"', .sealed ['"', ' ', '"']], ['1', '0'], [.plain '"'], [.sealed ['"', '"'], .plain ' '], _, [], rfl, rfl,
    by decide, by decide⟩

end FluidSheet.Length
