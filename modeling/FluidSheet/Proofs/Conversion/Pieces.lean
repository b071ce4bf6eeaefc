import FluidSheet.Proofs.Conversion.Walk

-- A breakpoint that collects nothing leaves no trace, so pieces meet by the ranks of breakpoints, not of blocks.

namespace FluidSheet

structure Joins (first second whole : Report) : Prop where
  converted : whole.outcome.converted = first.outcome.converted + second.outcome.converted
  inserted : whole.outcome.inserted = first.outcome.inserted + second.outcome.inserted
  ignored : whole.outcome.ignored = first.outcome.ignored + second.outcome.ignored
  duplicates : whole.outcome.duplicates = first.outcome.duplicates + second.outcome.duplicates
  excludedRules : whole.outcome.excludedRules = first.outcome.excludedRules + second.outcome.excludedRules
  blacklistedRules : whole.outcome.blacklistedRules = first.outcome.blacklistedRules + second.outcome.blacklistedRules
  breakpointRules : whole.breakpointRules = first.breakpointRules + second.breakpointRules
  warnings : whole.outcome.warnings = first.outcome.warnings ++ second.outcome.warnings

-- One block for each breakpoint that has collected rules, and none for the others.
inductive Fills : List Breakpoint → List (List Rule) → List AtRule → Prop where
  | nil : Fills [] [] []
  | empty (rest : Fills bs held blocks) : Fills (b :: bs) ([] :: held) blocks
  | filled (rest : Fills bs held blocks) :
      Fills (b :: bs) ((r :: rs) :: held) (⟨"media", b.mediaQuery, (r :: rs).map Rule.node, none⟩ :: blocks)

theorem fills_collected (bs : List Breakpoint) (collected : Breakpoint → List Rule) :
    Fills bs (bs.map collected) (bs.filterMap fun b => b.block (collected b)) := by
  induction bs with
  | nil => exact .nil
  | cons b bs ih =>
    rw [List.map_cons]
    cases rules : collected b with
    | nil =>
      rw [List.filterMap_cons_none (by rw [rules]; rfl)]
      exact .empty ih
    | cons r rs =>
      rw [List.filterMap_cons_some (by rw [rules]; rfl)]
      exact .filled ih

theorem fills_rules (fills : Fills bs held blocks) :
    ((blocks.map EmittedBlock.ofBlock).map (·.rules)).foldr (· + ·) 0 = (held.map List.length).sum := by
  induction fills with
  | nil => rfl
  | empty _ ih => rw [ih, List.map_cons, List.sum_cons, List.length_nil, Nat.zero_add]
  | filled _ ih =>
    simp only [List.map_cons, List.foldr_cons, ih, List.sum_cons, EmittedBlock.ofBlock, List.length_cons, List.length_map]

theorem joined_lengths (collected collected' : Breakpoint → List Rule) (bs : List Breakpoint) :
    ((bs.map fun b => collected b ++ collected' b).map List.length).sum =
      ((bs.map collected).map List.length).sum + ((bs.map collected').map List.length).sum := by
  induction bs with
  | nil => rfl
  | cons b bs ih =>
    simp only [List.map_cons, List.sum_cons, List.length_append, ih]
    omega

namespace Settings

-- What each breakpoint collects from the nodes of a file, by its rank among the breakpoints.
def held (s : Settings) (sheetFile : String) (nodes : List Node) : List (List Rule) :=
  s.breakpoints.map fun b => (s.sourcesAmong sheetFile false nodes).filterMap fun (r, file) => b.copy? s file r

variable {s : Settings}

theorem walkNodes_append (s : Settings) (sheetFile : String) (parent : Option Parent) (xs ys : List Node) :
    s.walkNodes sheetFile parent (xs ++ ys) =
      ((s.walkNodes sheetFile parent xs).1 ++ (s.walkNodes sheetFile parent ys).1,
        (s.walkNodes sheetFile parent xs).2 ++ (s.walkNodes sheetFile parent ys).2) := by
  induction xs with
  | nil => simp only [List.nil_append, walkNodes, nothing_outcome]
  | cons n xs ih => simp only [List.cons_append, walkNodes, ih, outcome_assoc]

theorem sourcesAmong_append (s : Settings) (sheetFile : String) (inAtRule : Bool) (xs ys : List Node) :
    s.sourcesAmong sheetFile inAtRule (xs ++ ys) =
      s.sourcesAmong sheetFile inAtRule xs ++ s.sourcesAmong sheetFile inAtRule ys := by
  simp only [sourcesAmong_flatMap, List.flatMap_append]

theorem held_append (s : Settings) (sheetFile : String) (xs ys : List Node) :
    s.held sheetFile (xs ++ ys) = List.zipWith (· ++ ·) (s.held sheetFile xs) (s.held sheetFile ys) := by
  simp only [held, sourcesAmong_append, List.filterMap_append, List.zipWith_map, List.zipWith_self]

theorem convertSheet_fills (s : Settings) (sheet : Sheet) : Fills s.breakpoints (s.held sheet.fileName sheet.nodes)
    (s.blocks (s.sourcesAmong sheet.fileName false sheet.nodes)) :=
  fills_collected s.breakpoints _

theorem convertSheet_breakpointRules (s : Settings) (sheet : Sheet) :
    (s.convertSheet sheet).report.breakpointRules = ((s.held sheet.fileName sheet.nodes).map List.length).sum := by
  rw [Report.breakpointRules, convertSheet_emitted]
  exact fills_rules (convertSheet_fills s sheet)

theorem convertSheet_joins (s : Settings) (file : Option String) (xs ys : List Node) :
    Joins (s.convertSheet ⟨file, xs⟩).report (s.convertSheet ⟨file, ys⟩).report
      (s.convertSheet ⟨file, xs ++ ys⟩).report := by
  have told : (s.convertSheet ⟨file, xs ++ ys⟩).report.outcome =
      (s.convertSheet ⟨file, xs⟩).report.outcome ++ (s.convertSheet ⟨file, ys⟩).report.outcome := by
    simp only [convertSheet_outcome]
    exact congrArg Prod.snd (walkNodes_append s (file.getD "") none xs ys)
  have rules : (s.convertSheet ⟨file, xs ++ ys⟩).report.breakpointRules =
      (s.convertSheet ⟨file, xs⟩).report.breakpointRules + (s.convertSheet ⟨file, ys⟩).report.breakpointRules := by
    simp only [convertSheet_breakpointRules, held, Sheet.fileName, sourcesAmong_append, List.filterMap_append]
    exact joined_lengths _ _ s.breakpoints
  refine ⟨?_, ?_, ?_, ?_, ?_, ?_, rules, ?_⟩ <;> rw [told] <;> rfl

-- Each breakpoint has in its block what it collects from the one piece and then from the other.
theorem convertSheet_append (s : Settings) (file : Option String) (xs ys : List Node) :
    let run := fun nodes => s.convertSheet ⟨file, nodes⟩
    let held := s.held (file.getD "")
    (run (xs ++ ys)).sheet.nodes.take (xs ++ ys).length =
        (run xs).sheet.nodes.take xs.length ++ (run ys).sheet.nodes.take ys.length ∧
      Joins (run xs).report (run ys).report (run (xs ++ ys)).report ∧
      held (xs ++ ys) = List.zipWith (· ++ ·) (held xs) (held ys) ∧
      ∀ nodes, nodes.length ≤ (run nodes).sheet.nodes.length ∧ ∃ blocks,
        (run nodes).sheet.nodes.drop nodes.length = blocks.map AtRule.node ∧
        Fills s.breakpoints (held nodes) blocks := by
  intro run held
  have walked : ∀ nodes, (run nodes).sheet.nodes.take nodes.length = (s.walkNodes (file.getD "") none nodes).1 :=
    fun nodes => convertSheet_walked s ⟨file, nodes⟩
  refine ⟨?_, convertSheet_joins s file xs ys, held_append s _ xs ys, fun nodes => ?_⟩
  · rw [walked, walked, walked, walkNodes_append]
  · exact ⟨convertSheet_longer s ⟨file, nodes⟩, _, convertSheet_blocks s ⟨file, nodes⟩, convertSheet_fills s ⟨file, nodes⟩⟩

end Settings
end FluidSheet
