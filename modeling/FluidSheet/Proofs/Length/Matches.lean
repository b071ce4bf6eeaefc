import FluidSheet.Proofs.Length.Pattern

namespace FluidSheet.Length
open Pattern (Place Ways Alike Through chain)
variable {a : Pattern} {f g : List Char → List Split} {ps : List Pattern} {unit cs : List Char}

theorem spells_empty : Spells (chain []) (fun cs => [([], cs)]) := fun _ _ => ⟨_, .empty, .refl _⟩

theorem onward_stay (splits : List Split) : onward (fun cs => [([], cs)]) splits = splits := by
  induction splits with
  | nil => rfl
  | cons split splits ih =>
    change (split.1 ++ [], split.2) :: onward (fun cs => [([], cs)]) splits = split :: splits
    rw [ih, List.append_nil]

theorem spells_chain (first : Spells a f) (others : Spells (chain ps) g) :
    Spells (chain (a :: ps)) (fun cs => onward g (f cs)) := by
  intro before cs
  obtain ⟨xs, ways, alike⟩ := spells_seq first others before cs
  exact ⟨xs, Pattern.ways_chain ps ways, alike⟩

def texts (text cs : List Char) : List Split := if text.isPrefixOf cs then [(text, cs.drop text.length)] else []

theorem texts_here (text rest : List Char) : texts text (text ++ rest) = [(text, rest)] := by
  unfold texts
  rw [if_pos (List.isPrefixOf_iff_prefix.mpr (List.prefix_append text rest)), List.drop_left]

theorem texts_other (other : ¬ text <+: cs) : texts text cs = [] :=
  if_neg fun here => other (List.isPrefixOf_iff_prefix.mp here)

theorem texts_cons (c : Char) (text cs : List Char) : texts (c :: text) cs = onward (texts text) (taking (.char c) cs) := by
  by_cases opens : ∃ rest, cs = c :: rest
  · obtain ⟨rest, rfl⟩ := opens
    rw [taking_takes (by rw [char_has]; exact decide_eq_true rfl), onward_single]
    by_cases further : text <+: rest
    · obtain ⟨behind, rfl⟩ := further
      rw [← List.cons_append, texts_here, texts_here]
      rfl
    · rw [texts_other further, texts_other fun here => further (List.cons_prefix_cons.mp here).2]
      rfl
  · rw [taking_other fun rest same => opens ⟨rest, same⟩, texts_other]
    · rfl
    · rintro ⟨behind, same⟩
      exact opens ⟨_, same.symm⟩

theorem spells_texts (text : List Char) (spells : Spells (chain ps) g) :
    Spells (chain (text.map single ++ ps)) (fun cs => onward g (texts text cs)) := by
  induction text with
  | nil =>
    have same : (fun cs => onward g (texts [] cs)) = g := funext fun cs => by
      rw [← List.nil_append cs, texts_here, onward_single, behind_none]
      rfl
    rw [same]
    exact spells
  | cons c text ih =>
    have same : (fun cs => onward g (texts (c :: text) cs)) =
        fun cs => onward (fun cs => onward g (texts text cs)) (taking (.char c) cs) := funext fun cs => by
      rw [texts_cons, onward_onward]
    rw [same]
    exact spells_chain (spells_set _) ih

theorem closing_taken (close : Char) (others : ∀ c ∈ body, c ≠ close) (some : body ≠ []) (rest : List Char) :
    onward (taking (.char close)) (endsIn body rest) = behind body (taking (.char close) rest) := by
  induction body with
  | nil => exact absurd rfl some
  | cons c body ih =>
    rw [endsIn_cons, onward_append, onward_behind, onward_single]
    cases body with
    | nil => rfl
    | cons d body =>
      have none : taking (.char close) (d :: body ++ rest) = [] :=
        taking_other fun _ same => others d (by simp) (List.cons.inj same).1
      rw [ih (fun c member => others c (List.mem_cons_of_mem _ member)) (List.cons_ne_nil _ _), behind_behind, none]
      exact List.append_nil _

theorem complement_has (close : Char) : (CharSet.complement (.char close)).has = fun c => decide (c ≠ close) := by
  funext c
  rw [CharSet.has, char_has, decide_not]

theorem runs_closing (close : Char) (cs : List Char) :
    onward (taking (.char close)) (runs (.complement (.char close)) cs) = (enclosed? close cs).toList := by
  have others : ∀ c ∈ cs.takeWhile (fun c => decide (c ≠ close)), c ≠ close := fun c member => by
    simpa using List.mem_takeWhile_imp member
  have stop := List.head?_dropWhile_not (fun c => decide (c ≠ close)) cs
  unfold runs enclosed?
  rw [complement_has]
  dsimp only
  generalize cs.takeWhile (fun c => decide (c ≠ close)) = body at others ⊢
  generalize cs.dropWhile (fun c => decide (c ≠ close)) = rest at stop ⊢
  cases body with
  | nil => cases rest <;> rfl
  | cons c body =>
    rw [closing_taken close others (List.cons_ne_nil _ _)]
    cases rest with
    | nil => rfl
    | cons d rest =>
      have same : d = close := by simpa using stop
      rw [same, taking_takes (by rw [char_has]; exact decide_eq_true rfl)]
      rfl

theorem spells_enclosing (opening : List Char) (close : Char) :
    Spells (enclosing opening close) (fun cs => onward (fun cs => (enclosed? close cs).toList) (texts opening cs)) := by
  have close' : Spells (chain [single close]) (taking (.char close)) := spells_set _
  have spells := spells_chain (spells_many (.complement (.char close))) close'
  refine spells_texts opening (spells_alike spells fun cs => ?_)
  rw [runs_closing]
  exact .refl _

theorem texts_apart (other : c ≠ d) (text cs : List Char) : texts (c :: text) (d :: cs) = [] :=
  texts_other fun starts => other (List.cons_prefix_cons.mp starts).1

theorem behind_found (front : List Char) (found : Option Split) :
    behind front found.toList = (found.map fun (body, rest) => (front ++ body, rest)).toList := by
  cases found <;> rfl

theorem onward_none (g : List Char → List Split) : onward g [] = [] := rfl

theorem spells_segment : Spells segment (fun cs => (sealed? cs).toList) := by
  have spells := spells_either (spells_either (spells_enclosing ['"'] '"') (spells_enclosing ['\x27'] '\x27'))
    (spells_enclosing urlOpening ')')
  refine spells_alike spells fun cs => ?_
  unfold sealed?
  split
  · rename_i rest
    have double : texts ['"'] ('"' :: rest) = [(['"'], rest)] := texts_here ['"'] rest
    have single : texts ['\x27'] ('"' :: rest) = [] := texts_apart (by decide) _ _
    have url : texts urlOpening ('"' :: rest) = [] := texts_apart (by decide) _ _
    rw [double, single, url, onward_single, behind_found, onward_none, onward_none, List.append_nil, List.append_nil]
    exact .refl _
  · rename_i rest
    have double : texts ['"'] ('\x27' :: rest) = [] := texts_apart (by decide) _ _
    have single : texts ['\x27'] ('\x27' :: rest) = [(['\x27'], rest)] := texts_here ['\x27'] rest
    have url : texts urlOpening ('\x27' :: rest) = [] := texts_apart (by decide) _ _
    rw [double, single, url, onward_single, behind_found, onward_none, onward_none, List.append_nil, List.nil_append]
    exact .refl _
  · rename_i double single
    have double : texts ['"'] cs = [] := texts_other fun ⟨rest, starts⟩ => double rest starts.symm
    have single : texts ['\x27'] cs = [] := texts_other fun ⟨rest, starts⟩ => single rest starts.symm
    rw [double, single]
    unfold texts
    split
    · rw [onward_single, behind_found]
      exact .refl _
    · exact .refl _

-- The unit, where the word that it ends in ends too.
def ended (unit cs : List Char) : List Split := (texts unit cs).filter fun split => unitEnds unit split.2

theorem ended_after (unit cs : List Char) : ended unit cs = (afterUnit? unit cs).toList.map fun rest => (unit, rest) := by
  unfold ended texts afterUnit?
  by_cases starts : unit.isPrefixOf cs = true
  · rw [if_pos starts, starts, Bool.true_and, List.filter_cons]
    split <;> rfl
  · rw [if_neg starts, Bool.eq_false_of_not_eq_true starts]
    rfl

theorem spells_last (c : Char) : Spells (chain [single c, .check (.boundary false false)])
    (fun cs => (taking (.char c) cs).filter fun split => CharSet.word.has c != startsWord split.2) := by
  intro before cs
  dsimp only
  rcases opens_or (.char c) cs with ⟨d, rest, rfl, member⟩ | other
  · have same : d = c := by rwa [char_has, decide_eq_true_eq] at member
    subst same
    have check : ∀ p : Place, p.before = some d → p.rest = rest →
        (Pattern.Check.boundary false false).holds p = (CharSet.word.has d != startsWord rest) := by
      rintro p before rfl
      rw [Pattern.Check.holds, before, Bool.bne_false]
      rfl
    rw [taking_takes member, List.filter_cons]
    cases ends : CharSet.word.has d != startsWord rest with
    | true =>
      refine ⟨_, .seq (f := fun q => [q]) (.takes rfl member) fun q here => ?_, .refl _⟩
      cases List.mem_singleton.mp here
      exact .holds ((check _ rfl rfl).trans ends)
    | false =>
      refine ⟨_, .seq (f := fun _ => []) (.takes rfl member) fun q here => ?_, .refl _⟩
      cases List.mem_singleton.mp here
      exact .fails ((check _ rfl rfl).trans ends)
  · rw [taking_stops other]
    exact ⟨_, .seq (f := fun _ => []) (.stops other) (fun _ none => by cases none), .refl _⟩

theorem ended_last (needs : needsBoundary (front ++ [c]) = true) (cs : List Char) : ended (front ++ [c]) cs =
    onward (fun cs => (taking (.char c) cs).filter fun split => CharSet.word.has c != startsWord split.2) (texts front cs) := by
  by_cases starts : front <+: cs
  · obtain ⟨rest, rfl⟩ := starts
    rw [texts_here, onward_single, ended]
    by_cases last : ∃ rest', rest = c :: rest'
    · obtain ⟨rest, rfl⟩ := last
      have ends : unitEnds (front ++ [c]) rest = (CharSet.word.has c != startsWord rest) := by
        rw [unitEnds, needs, endsWord, List.getLast?_concat]
        rfl
      rw [List.append_cons front c rest, texts_here, taking_takes (by rw [char_has]; exact decide_eq_true rfl), List.filter_cons,
        List.filter_cons, ends]
      dsimp only
      split <;> rfl
    · rw [taking_other fun rest' same => last ⟨rest', same⟩, texts_other]
      · rfl
      · rw [List.prefix_append_right_inj]
        rintro ⟨rest', same⟩
        exact last ⟨rest', same.symm⟩
  · rw [texts_other starts, ended, texts_other fun here => starts ((List.prefix_append _ _).trans here)]
    rfl

theorem spells_suffix (unit : List Char) : Spells (chain (suffix unit)) (ended unit) := by
  unfold suffix
  cases needs : needsBoundary unit with
  | false =>
    refine spells_alike (spells_texts unit spells_empty) fun cs => ?_
    have all : ended unit cs = texts unit cs := List.filter_eq_self.mpr fun _ _ => by rw [unitEnds, needs]; rfl
    rw [onward_stay, all]
    exact .refl _
  | true =>
    have some : unit ≠ [] := by rintro rfl; cases needs
    obtain ⟨front, c, rfl⟩ := List.eq_nil_or_concat unit |>.resolve_left some
    rw [List.concat_eq_append] at needs ⊢
    rw [List.map_append, List.append_assoc]
    refine spells_alike (spells_texts front (spells_last c)) fun cs => ?_
    rw [ended_last needs]
    exact .refl _

theorem spells_pattern (unit : List Char) :
    Spells (pattern unit) (fun cs => (sealed? cs).toList ++ onward (ended unit) (numberEnds cs)) :=
  spells_either spells_segment (spells_chain spells_numeral (spells_suffix unit))

-- A number is what is captured of a length.
inductive Matches (unit : List Char) : Option Char → List Char → List Piece → Prop where
  | done (nothing : Ways (pattern unit) (.ofText before []) []) : Matches unit before [] []
  | plain (nothing : Ways (pattern unit) (.ofText before (c :: rest)) []) (further : Matches unit (some c) rest pieces) :
      Matches unit before (c :: rest) (.plain c :: pieces)
  | sealed (first : Ways (pattern unit) (.ofText before (text ++ rest)) (reached before (text, rest) :: others))
      (whole : Ways segment (.ofText before (text ++ rest)) (reached before (text, rest) :: others'))
      (further : Matches unit (text.getLast?.or before) rest pieces) :
      Matches unit before (text ++ rest) (.sealed text :: pieces)
  | length (first : Ways (pattern unit) (.ofText before (number ++ unit ++ rest)) (reached before (number ++ unit, rest) :: others))
      (other : Ways segment (.ofText before (number ++ unit ++ rest)) [])
      (captured : Through numeral (chain (suffix unit)) (.ofText before (number ++ unit ++ rest))
        (reached before (number, unit ++ rest)) (reached before (number ++ unit, rest)))
      (further : Matches unit ((number ++ unit).getLast?.or before) rest pieces) :
      Matches unit before (number ++ unit ++ rest) (.length number :: pieces)

theorem spells_some (spells : Spells a f) (before : Option Char) (head : (f cs).head? = some split) :
    ∃ others, Ways a (.ofText before cs) (reached before split :: others) := by
  obtain ⟨xs, ways, alike⟩ := spells before cs
  have first := alike.head
  rw [List.head?_map, head] at first
  obtain ⟨others, rfl⟩ := List.head?_eq_some_iff.mp first
  exact ⟨others, ways⟩

theorem spells_none (spells : Spells a f) (before : Option Char) (none : f cs = []) : Ways a (.ofText before cs) [] := by
  obtain ⟨xs, ways, alike⟩ := spells before cs
  rw [none] at alike
  cases List.head?_eq_none_iff.mp alike.head
  exact ways

theorem sealed_ways (before : Option Char) (found : sealed? cs = some split) :
    ∃ others, Ways segment (.ofText before cs) (reached before split :: others) :=
  spells_some spells_segment before (by rw [found]; rfl)

theorem unsealed_ways (before : Option Char) (found : sealed? cs = none) : Ways segment (.ofText before cs) [] :=
  spells_none spells_segment before (by rw [found]; rfl)

theorem length_head (unit cs : List Char) :
    (onward (ended unit) (numberEnds cs)).head? = (length? unit cs).map fun (number, rest) => (number ++ unit, rest) := by
  unfold length? onward
  rw [List.head?_flatMap, List.map_findSome?]
  refine congrArg (List.findSome? · _) (funext fun split => ?_)
  change (behind split.1 (ended unit split.2)).head? = _
  rw [ended_after]
  cases found : afterUnit? unit split.2 <;> simp [behind, found]

theorem token_ways (before : Option Char) (found : token? unit cs = some (piece, rest)) :
    ∃ others, Ways (pattern unit) (.ofText before cs) (reached before (piece.text unit, rest) :: others) := by
  refine spells_some (spells_pattern unit) before ?_
  cases token_exact.mp found with
  | sealed here =>
    rw [here]
    rfl
  | length here length =>
    rw [here]
    exact (length_head unit cs).trans (by rw [length]; rfl)

theorem plain_ways (before : Option Char) (found : token? unit cs = none) : Ways (pattern unit) (.ofText before cs) [] := by
  refine spells_none (spells_pattern unit) before ?_
  obtain ⟨closed, short⟩ := token_none.mp found
  rw [closed, ← List.head?_eq_none_iff]
  exact (length_head unit cs).trans (by rw [short]; rfl)

-- The unit is found behind the first number that has it behind it.
theorem length_ways (before : Option Char) (found : length? unit cs = some (number, rest)) :
    Through numeral (chain (suffix unit)) (.ofText before cs) (reached before (number, unit ++ rest))
      (reached before (number ++ unit, rest)) := by
  obtain ⟨qs, ways, alike⟩ := spells_numeral before cs
  obtain ⟨ends, further⟩ := spells_further (spells_suffix unit) alike
  have leads : ∀ split ∈ numberEnds cs,
      (ends (reached before split)).head? = (afterUnit? unit split.2).map fun rest => reached before (split.1 ++ unit, rest) := by
    intro split member
    have same := (further _ (alike.mem.mpr (List.mem_map_of_mem member))).2.head
    rw [same, List.head?_map]
    change Option.map _ (ended unit split.2).head? = _
    rw [ended_after]
    cases afterUnit? unit split.2 with
    | none => rfl
    | some rest =>
      refine congrArg some ?_
      simp only [reached, List.getLast?_append, Option.or_assoc]
      rfl
  obtain ⟨fore, ⟨number', behind⟩, aft, whole, here, none⟩ := List.findSome?_eq_some_iff.mp found
  obtain ⟨rest', after, same⟩ := Option.map_eq_some_iff.mp here
  cases same
  obtain ⟨rfl, -⟩ := afterUnit_exact after
  have last := leads (number, unit ++ rest) (by rw [whole]; simp)
  rw [after] at last
  refine ⟨qs, ends, ways, fun q member => (further q member).1, ?_, last⟩
  have first : (numberEnds cs).find? ((fun x => !(ends x).isEmpty) ∘ reached before) = some (number, unit ++ rest) := by
    refine List.find?_eq_some_iff_append.mpr ⟨?_, fore, aft, whole, fun split member => ?_⟩
    · obtain ⟨others, there⟩ := List.head?_eq_some_iff.mp last
      rw [Function.comp_apply, there]
      rfl
    · have stop := leads split (by rw [whole]; exact List.mem_append_left _ member)
      rw [Option.map_eq_none_iff.mp (none split member)] at stop
      rw [Function.comp_apply, List.head?_eq_none_iff.mp stop]
      rfl
  rw [alike, List.find?_map, first]
  rfl

-- The pieces of a text are its matches.

theorem matches_scan (unit cs : List Char) (before : Option Char) : Matches unit before cs (scan unit 0 cs) := by
  induction cs using scan_induct unit generalizing before with
  | nil => exact .done (plain_ways before rfl)
  | plain c rest found ih =>
    rw [scan_plain found]
    exact .plain (plain_ways before found) (ih _)
  | token cs piece after found ih =>
    rw [scan_token found]
    obtain ⟨rfl, -⟩ := token_whole found
    obtain ⟨others, ways⟩ := token_ways before found
    cases token_exact.mp found with
    | sealed here =>
      obtain ⟨others', whole⟩ := sealed_ways before here
      exact .sealed ways whole (ih _)
    | length here length =>
      exact .length ways (unsealed_ways before here) (length_ways before length) (ih _)

theorem reached_rest (same : reached before (text, rest) = reached before (text', rest')) : rest = rest' :=
  congrArg Place.rest same

theorem matches_unique (found : Matches unit before cs pieces) : pieces = scan unit 0 cs := by
  induction found with
  | done => rfl
  | @plain before c rest pieces nothing _ ih =>
    cases token : token? unit (c :: rest) with
    | none => rw [scan_plain token, ih]
    | some split =>
      obtain ⟨others, ways⟩ := token_ways before token
      cases Pattern.ways_unique nothing ways
  | @sealed before text rest others others' pieces first whole _ ih =>
    cases closed : sealed? (text ++ rest) with
    | none => cases Pattern.ways_unique whole (unsealed_ways before closed)
    | some split =>
      obtain ⟨text', rest'⟩ := split
      obtain ⟨others'', ways⟩ := sealed_ways before closed
      obtain rfl : rest = rest' := reached_rest (List.cons.inj (Pattern.ways_unique whole ways)).1
      rw [scan_token (token_exact.mpr (.sealed closed)), ih, List.append_cancel_right (sealed_whole closed).1]
  | @length before number rest others pieces first other captured _ ih =>
    have closed : sealed? (number ++ unit ++ rest) = none := by
      rw [Option.eq_none_iff_forall_ne_some]
      intro split closed
      obtain ⟨others', ways⟩ := sealed_ways before closed
      cases Pattern.ways_unique other ways
    cases length : length? unit (number ++ unit ++ rest) with
    | none => cases Pattern.ways_unique first (plain_ways before (token_none.mpr ⟨closed, length⟩))
    | some split =>
      obtain ⟨number', rest'⟩ := split
      have mid := (Pattern.through_unique captured (length_ways before length)).1
      obtain rfl : rest = rest' := List.append_cancel_left (reached_rest mid)
      obtain rfl : number = number' := by
        have whole := (length_whole length).1
        rw [List.append_assoc, List.append_assoc] at whole
        exact (List.append_cancel_right whole).symm
      rw [scan_token (token_exact.mpr (.length closed length)), ih]

-- The digits before a unit that begins like an exponent.
example : scan "e1x".toList 0 "2e1e1x 3e1x".toList = [.length "2e1".toList, .plain ' ', .length ['3']] := by decide +kernel

end FluidSheet.Length
