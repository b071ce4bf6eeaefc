import FluidSheet.Options.Settings
import FluidSheet.Proofs.Conversion.Properties
import FluidSheet.Proofs.Length.Boundary
import FluidSheet.Proofs.Length.Matches
import FluidSheet.Proofs.Length.PatternText

-- In a value without the unit nothing is asked for, so only declarations with it need be looked at.

namespace FluidSheet

namespace Length
open Pattern (Ways chain)
variable {unit value : String} {m : Type → Type u} [Monad m]

-- A conversion may act when it is asked: it may count, remember or fail.

def replacedM (unit : List Char) (convert : Binary64 → m (Option (List Char))) : Piece → m (List Char)
  | .length number => do return (← convert (magnitude number)).getD (number ++ unit)
  | piece => return piece.text unit

def replaceM (unit value : String) (convert : Binary64 → m (Option (List Char))) : m String := do
  return String.ofList (← (scan unit.toList 0 value.toList).mapM (replacedM unit.toList convert)).flatten

def filled (unit : List Char) : List Piece → List (Option (List Char)) → List Char
  | [], _ => []
  | .length number :: pieces, answer :: answers => answer.getD (number ++ unit) ++ filled unit pieces answers
  | piece :: pieces, answers => piece.text unit ++ filled unit pieces answers

theorem filled_nothing (unit : List Char) (pieces : List Piece) : filled unit pieces [] = pieces.flatMap (Piece.text unit) := by
  induction pieces with
  | nil => rfl
  | cons piece pieces ih =>
    cases piece <;> simp [filled, ih]

theorem replaceM_pure [LawfulMonad m] (unit value : String) (convert : Binary64 → Option (List Char)) :
    replaceM unit value (fun x => pure (convert x)) = (pure (replace unit value convert) : m String) := by
  have each : replacedM unit.toList (fun x => (pure (convert x) : m _)) = fun piece => pure (replaced unit.toList convert piece) := by
    funext piece
    cases piece <;> simp [replacedM, replaced]
  simp [replaceM, replace, each, List.flatMap]

-- The conversion is asked for the numbers that are found, one after the other, and for nothing else.
theorem replacedM_asks [LawfulMonad m] (unit : List Char) (convert : Binary64 → m (Option (List Char))) (pieces : List Piece) :
    List.flatten <$> pieces.mapM (replacedM unit convert) =
      filled unit pieces <$> (pieces.filterMap fun piece => piece.number?.map magnitude).mapM convert := by
  induction pieces with
  | nil => simp [filled]
  | cons piece pieces ih =>
    have behind : ∀ text : List Char, (fun texts => text ++ texts.flatten) <$> pieces.mapM (replacedM unit convert) =
        (fun answers => text ++ filled unit pieces answers) <$>
          (pieces.filterMap fun piece => piece.number?.map magnitude).mapM convert := by
      intro text
      have both := congrArg ((text ++ ·) <$> ·) ih
      simpa only [Functor.map_map] using both
    cases piece with
    | plain | sealed =>
      rw [List.filterMap_cons_none rfl]
      simpa [replacedM, filled] using behind _
    | length number =>
      change _ = filled unit (.length number :: pieces) <$>
        (magnitude number :: pieces.filterMap fun piece => piece.number?.map magnitude).mapM convert
      have answered : ∀ answer : Option (List Char), _ := fun answer => behind (answer.getD (number ++ unit))
      simpa [replacedM, filled] using bind_congr answered

theorem replaceM_asks [LawfulMonad m] (unit value : String) (convert : Binary64 → m (Option (List Char))) :
    replaceM unit value convert =
      (fun answers => String.ofList (filled unit.toList (scan unit.toList 0 value.toList) answers)) <$>
        (magnitudes unit value).mapM convert := by
  have asks := congrArg (String.ofList <$> ·) (replacedM_asks unit.toList convert (scan unit.toList 0 value.toList))
  simpa [replaceM, magnitudes] using asks

-- What is written for the pieces, where the conversion answers for each number by itself.
inductive Answered (unit : List Char) (convert : Binary64 → Option (List Char)) : List Piece → List Char → Prop where
  | nil : Answered unit convert [] []
  | plain (behind : Answered unit convert pieces out) : Answered unit convert (.plain c :: pieces) (c :: out)
  | sealed (behind : Answered unit convert pieces out) : Answered unit convert (.sealed text :: pieces) (text ++ out)
  | anew (denotes : Denotes number x) (answer : convert x = some text) (behind : Answered unit convert pieces out) :
      Answered unit convert (.length number :: pieces) (text ++ out)
  | declined (denotes : Denotes number x) (answer : convert x = none) (behind : Answered unit convert pieces out) :
      Answered unit convert (.length number :: pieces) (number ++ (unit ++ out))

theorem answered_replaced {unit : List Char} {convert : Binary64 → Option (List Char)} (answered : Answered unit convert pieces out) :
    out = pieces.flatMap (replaced unit convert) := by
  induction answered with
  | nil => rfl
  | plain _ ih | sealed _ ih =>
    rw [ih]
    rfl
  | anew denotes answer _ ih => rw [List.flatMap_cons, replaced, denotes_magnitude denotes, answer, ← ih, Option.getD_some]
  | declined denotes answer _ ih =>
    rw [List.flatMap_cons, replaced, denotes_magnitude denotes, answer, ← ih, Option.getD_none, List.append_assoc]

theorem replaced_answered {unit : List Char} {pieces : List Piece} (denotes : ∀ number, .length number ∈ pieces → Denotes number (magnitude number))
    (convert : Binary64 → Option (List Char)) : Answered unit convert pieces (pieces.flatMap (replaced unit convert)) := by
  induction pieces with
  | nil => exact .nil
  | cons piece pieces ih =>
    have behind := ih fun number member => denotes number (List.mem_cons_of_mem _ member)
    cases piece with
    | plain => exact .plain behind
    | sealed => exact .sealed behind
    | length number =>
      have here := denotes number List.mem_cons_self
      rw [List.flatMap_cons, replaced]
      cases answer : convert (magnitude number) with
      | some text => exact .anew here answer behind
      | none =>
        rw [Option.getD_none, List.append_assoc]
        exact .declined here answer behind

theorem magnitudes_read (unit value : String) :
    ((scan unit.toList 0 value.toList).filterMap Piece.number?).map Binary64.read? = (magnitudes unit value).map some := by
  have denotes := scan_denotes unit.toList value.toList
  unfold magnitudes
  generalize scan unit.toList 0 value.toList = pieces at denotes
  induction pieces with
  | nil => rfl
  | cons piece pieces ih =>
    have rest := ih fun number member => denotes number (List.mem_cons_of_mem _ member)
    cases piece with
    | plain | sealed => exact rest
    | length number =>
      have read := Binary64.denotes_read (denotes number List.mem_cons_self)
      exact congrArg₂ List.cons read rest

-- The conversion is asked for the numbers in their order and for nothing else, whatever else it does.
-- Where it has an answer that is written, and all else stays.
theorem replace_matches (unit value : String) : ∃ pieces,
    (∀ others, Matches unit.toList none value.toList others ↔ others = pieces) ∧
    pieces.flatMap (Piece.text unit.toList) = value.toList ∧
    (pieces.filterMap Piece.number?).map Binary64.read? = (magnitudes unit value).map some ∧
    (∀ convert out, Answered unit.toList convert pieces out ↔ String.ofList out = replace unit value convert) ∧
    ∀ {m : Type → Type} [Monad m] [LawfulMonad m],
      (∀ convert, replaceM unit value (fun x => (pure (convert x) : m _)) = pure (replace unit value convert)) ∧
      ∀ convert : Binary64 → m (Option (List Char)), replaceM unit value convert =
        (fun answers => String.ofList (filled unit.toList pieces answers)) <$> (magnitudes unit value).mapM convert := by
  refine ⟨scan unit.toList 0 value.toList, fun others => ⟨matches_unique, ?_⟩, scan_text _ _, magnitudes_read unit value,
    fun convert out => ⟨fun answered => ?_, fun same => ?_⟩, fun {m} _ _ => ⟨replaceM_pure unit value, replaceM_asks unit value⟩⟩
  · rintro rfl
    exact matches_scan _ _ none
  · rw [answered_replaced answered, replace]
  · rw [replace, String.ofList_inj] at same
    rw [same]
    exact replaced_answered (scan_denotes unit.toList value.toList) convert

theorem replace_matches_counted :
    let count : Binary64 → StateM Nat (Option (List Char)) := fun x => do
      modify (· + 1)
      return if x.lt 2 then none else some ['0']
    Id.run ((replaceM "px" "1px 2em 'px' 3px" count).run 0) = ("1px 2em 'px' 0", 2) := by
  intro count
  obtain ⟨pieces, unique, -, -, -, asks⟩ := replace_matches "px" "1px 2em 'px' 3px"
  obtain rfl := (unique _).mp (matches_scan _ _ none)
  rw [asks.2 count]
  decide +kernel

-- The part of the pattern that goes through a number leads nowhere, as the unit would have to follow.
def lengths (unit : List Char) : Pattern := chain (numeral :: suffix unit)

theorem lengths_nowhere {unit cs : List Char} (absent : ¬ unit <:+: cs) (before : Option Char) :
    Ways (lengths unit) (.ofText before cs) [] := by
  refine spells_none (spells_chain spells_numeral (spells_suffix unit)) before ?_
  unfold onward
  rw [List.flatMap_eq_nil_iff]
  rintro ⟨number, rest⟩ member
  obtain ⟨whole, -⟩ := numberEnds_cuts cs _ member
  have apart : ¬ unit <+: rest := by
    intro starts
    exact absent (starts.isInfix.trans ⟨number, [], by simpa using whole⟩)
  have none : ended unit rest = [] := by
    unfold ended
    rw [texts_other apart]
    rfl
  dsimp only
  rw [none]
  rfl

theorem magnitudes_nothing (absent : ¬ unit.toList <:+: value.toList) : magnitudes unit value = [] := by
  refine numbers_none fun number member => ?_
  obtain ⟨front, rest, whole, -⟩ := scan_occurs unit.toList value.toList number member
  apply absent
  rw [whole]
  exact ⟨front ++ number, rest, by simp⟩

structure Unasked (unit value : String) : Prop where
  nowhere : ∀ front rest, value.toList = front ++ rest → Ways (lengths unit.toList) (.ofText front.getLast? rest) []
  nothing : magnitudes unit value = []
  kept : ∀ convert, replace unit value convert = value
  idle : ∀ {m : Type → Type} [Monad m] [LawfulMonad m] (convert : Binary64 → m (Option (List Char))),
    replaceM unit value convert = pure value

-- What is looked for first is what every length must have in it.
theorem contains_unasked (absent : Text.contains value unit = false) : Unasked unit value := by
  have apart : ¬ unit.toList <:+: value.toList := by
    rw [← Text.occursIn_exact]
    exact Bool.eq_false_iff.mp absent
  have idle : ∀ {m : Type → Type} [Monad m] [LawfulMonad m] (convert : Binary64 → m (Option (List Char))),
      replaceM unit value convert = pure value := by
    intro m _ _ convert
    rw [replaceM_asks, magnitudes_nothing apart]
    simp [filled_nothing, scan_text]
  refine ⟨fun front rest whole => lengths_nowhere (fun here => apart ?_) _, magnitudes_nothing apart, fun convert => ?_, idle⟩
  · rw [whole]
    exact here.trans (List.suffix_append front rest).isInfix
  · exact (replaceM_pure (m := Id) unit value convert).symm.trans (idle _)

end Length

namespace Settings

-- So what is no candidate, though its property is selected, is not changed by any conversion.
theorem candidates_suffice :
    (∀ unit : String, Pattern.ReadsAs (Length.patternText unit.toList) (.either Length.segment (Length.lengths unit.toList)) ∧
      ∀ value, Text.contains value unit = false → Length.Unasked unit value) ∧
    ∀ (s : Settings) (d : Declaration) (t : Target), (PropertyList.ofEntries s.propList).selects d.prop = true →
      s.convert t d.value ≠ d.value → s.isCandidate d = true := by
  refine ⟨fun unit => ⟨Length.patternText_reads _, fun value absent => Length.contains_unasked absent⟩, ?_⟩
  intro s d t selected changed
  have present : Text.contains d.value s.sourceUnit = true := by
    by_contra absent
    exact changed ((Length.contains_unasked (Bool.eq_false_iff.mpr absent)).kept t.convert?)
  unfold isCandidate
  rw [present, selected]
  rfl

theorem candidates_suffice_pixels :
    let value := "2em \"p x\""
    let count : Binary64 → StateM Nat (Option (List Char)) := fun _ => do
      modify (· + 1)
      return none
    let d := Declaration.of "width" "100px"
    let t : Target := ⟨"vw", 320, 5, 1⟩
    Text.contains value "px" = false ∧ Length.replaceM "px" value count = pure value ∧
      (PropertyList.ofEntries standard.propList).selects d.prop = true ∧ standard.convert t d.value ≠ d.value ∧
      standard.isCandidate d = true := by
  intro value count d t
  have absent : Text.contains value "px" = false := by decide +kernel
  have selected : (PropertyList.ofEntries standard.propList).selects d.prop = true := by decide +kernel
  have changed : standard.convert t d.value ≠ d.value := by decide +kernel
  have unasked := (candidates_suffice.1 "px").2 value absent
  exact ⟨absent, unasked.idle count, selected, changed, candidates_suffice.2 standard d t selected changed⟩

end Settings
end FluidSheet
