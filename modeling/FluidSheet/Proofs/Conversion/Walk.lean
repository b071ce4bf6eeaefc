import FluidSheet.Proofs.Conversion.Stages

namespace FluidSheet

theorem Node.induct {P : Node → Prop}
    (rule : ∀ selector nodes source, (∀ n ∈ nodes, P n) → P (.rule selector nodes source))
    (atRule : ∀ name params nodes source, (∀ n ∈ nodes, P n) → P (.atRule name params nodes source))
    (declaration : ∀ d, P (.declaration d)) (comment : ∀ m, P (.comment m)) (n : Node) : P n :=
  @Node.rec P (fun nodes => ∀ n ∈ nodes, P n) (fun selector nodes source => rule selector nodes source)
    (fun name params nodes source => atRule name params nodes source) declaration comment
    (fun _ none => by cases none)
    (fun _ _ head tail _ member => (List.mem_cons.mp member).elim (fun same => same ▸ head) (tail _)) n

-- A rule of a sheet with the file it belongs to and the at-rule directly around it.
structure Met where
  rule : Rule
  file : String
  parent : Option Parent
deriving DecidableEq, Repr

namespace Met

-- Neither excluded nor blacklisted, and in a place whose declarations are converted.
def takesPart (s : Settings) (m : Met) : Bool :=
  s.standing m.file m.rule.selector = .taken && allowsIn s.mediaQuery m.parent

def context (s : Settings) (m : Met) : Context :=
  ⟨m.rule.selector, m.file, s.landscape && m.parent.any Parent.isLandscape⟩

def converted (s : Settings) (m : Met) : List Node :=
  if m.takesPart s then (s.convertNodes (m.context s) m.rule.nodes).1 else m.rule.nodes

end Met

-- The rules from first to last, each before those below it.
mutual
def metIn (sheetFile : String) (parent : Option Parent) : Node → List Met
  | .rule selector nodes source =>
    ⟨⟨selector, nodes, source⟩, Settings.fileOf sheetFile source, parent⟩ :: metAmong sheetFile none nodes
  | .atRule name params nodes source => metAmong sheetFile (some (.of ⟨name, params, [], source⟩)) nodes
  | _ => []

def metAmong (sheetFile : String) (parent : Option Parent) : List Node → List Met
  | [] => []
  | n :: rest => metIn sheetFile parent n ++ metAmong sheetFile parent rest
end

def Sheet.met (sheet : Sheet) : List Met := metAmong sheet.fileName none sheet.nodes

theorem metAmong_flatMap (sheetFile : String) (parent : Option Parent) (nodes : List Node) :
    metAmong sheetFile parent nodes = nodes.flatMap (metIn sheetFile parent) := by
  induction nodes with
  | nil => rfl
  | cons n rest ih => rw [metAmong, ih, List.flatMap_cons]

namespace Settings
variable {s : Settings} {sheetFile : String} {parent : Option Parent}

theorem walkNodes_length (s : Settings) (sheetFile : String) (parent : Option Parent) (nodes : List Node) :
    (s.walkNodes sheetFile parent nodes).1.length = nodes.length := by
  rw [walkNodes_map, List.length_map]

theorem convertRule_met (s : Settings) (sheetFile : String) (parent : Option Parent) (selector : String)
    (source : Option Source) (nodes : List Node) :
    (s.convertRule sheetFile parent selector source nodes).1 =
      Met.converted s ⟨⟨selector, nodes, source⟩, fileOf sheetFile source, parent⟩ := by
  unfold convertRule
  dsimp only
  split
  · rename_i standing
    simp [Met.converted, Met.takesPart, standing]
  · rename_i standing
    simp [Met.converted, Met.takesPart, standing]
  · rename_i standing
    cases allowed : allowsIn s.mediaQuery parent with
    | true => simp [Met.converted, Met.takesPart, Met.context, standing, allowed]
    | false => simp [Met.converted, Met.takesPart, standing, allowed]

theorem walkNode_rule (s : Settings) (sheetFile : String) (parent : Option Parent) (selector : String)
    (nodes : List Node) (source : Option Source) :
    (s.walkNode sheetFile parent (.rule selector nodes source)).1 =
      .rule selector ((s.walkNodes sheetFile none
        (Met.converted s ⟨⟨selector, nodes, source⟩, fileOf sheetFile source, parent⟩)).1) source := by
  rw [walkNode_own, convertRule_met]

theorem converted_flatMap (f : Node → List α) (declaration : ∀ d, f (.declaration d) = [])
    (comment : ∀ m, f (.comment m) = []) (m : Met) : (m.converted s).flatMap f = m.rule.nodes.flatMap f := by
  unfold Met.converted
  split
  · exact convertNodes_flatMap f declaration comment m.rule.nodes
  · rfl

end Settings

namespace Met

def walked (s : Settings) (sheetFile : String) (m : Met) : Met :=
  { m with rule := { m.rule with nodes := (s.walkNodes sheetFile none (m.converted s)).1 } }

end Met

namespace Settings
variable {s : Settings} {sheetFile : String}

theorem metIn_walk (n : Node) : ∀ parent, metIn sheetFile parent (s.walkNode sheetFile parent n).1 =
    (metIn sheetFile parent n).map (Met.walked s sheetFile) := by
  induction n using Node.induct with
  | declaration | comment => intro parent; rfl
  | atRule name params nodes source ih =>
    intro parent
    simp only [walkNode, metIn, metAmong_flatMap, walkNodes_map, List.flatMap_map, List.map_flatMap, Parent.of]
    exact List.flatMap_congr fun n member => ih n member _
  | rule selector nodes source ih =>
    intro parent
    have below : (metAmong sheetFile none (s.walkNodes sheetFile none
        (Met.converted s ⟨⟨selector, nodes, source⟩, fileOf sheetFile source, parent⟩)).1) =
        (metAmong sheetFile none nodes).map (Met.walked s sheetFile) := by
      simp only [metAmong_flatMap, walkNodes_map, List.flatMap_map, List.map_flatMap]
      rw [converted_flatMap (fun n => metIn sheetFile none (s.walkNode sheetFile none n).1)
        (fun _ => rfl) (fun _ => rfl)]
      exact List.flatMap_congr fun n member => ih n member none
    rw [walkNode_rule, metIn, metIn, List.map_cons, below]
    rfl

theorem metAmong_walk (s : Settings) (sheetFile : String) (parent : Option Parent) (nodes : List Node) :
    metAmong sheetFile parent (s.walkNodes sheetFile parent nodes).1 =
      (metAmong sheetFile parent nodes).map (Met.walked s sheetFile) := by
  simp only [metAmong_flatMap, walkNodes_map, List.flatMap_map, List.map_flatMap]
  exact List.flatMap_congr fun n _ => metIn_walk n parent

theorem convertSheet_sheet (s : Settings) (sheet : Sheet) : (s.convertSheet sheet).sheet = ⟨sheet.file,
    (s.walkNodes sheet.fileName none sheet.nodes).1 ++
      (s.blocks (s.sourcesAmong sheet.fileName false sheet.nodes)).map AtRule.node⟩ := by
  rw [convertSheet_staged]
  rfl

theorem convertSheet_nodes (s : Settings) (sheet : Sheet) : (s.convertSheet sheet).sheet.nodes =
    (s.walkNodes sheet.fileName none sheet.nodes).1 ++
      (s.blocks (s.sourcesAmong sheet.fileName false sheet.nodes)).map AtRule.node := by
  rw [convertSheet_sheet]

theorem convertSheet_outcome (s : Settings) (sheet : Sheet) :
    (s.convertSheet sheet).report.outcome = (s.walkNodes sheet.fileName none sheet.nodes).2 := by
  rw [convertSheet_staged]
  rfl

theorem convertSheet_emitted (s : Settings) (sheet : Sheet) : (s.convertSheet sheet).report.emitted =
    (s.blocks (s.sourcesAmong sheet.fileName false sheet.nodes)).map .ofBlock := by
  rw [convertSheet_staged]
  rfl

theorem convertSheet_longer (s : Settings) (sheet : Sheet) :
    sheet.nodes.length ≤ (s.convertSheet sheet).sheet.nodes.length := by
  rw [convertSheet_nodes, List.length_append, walkNodes_length]
  exact Nat.le_add_right _ _

theorem convertSheet_walked (s : Settings) (sheet : Sheet) :
    (s.convertSheet sheet).sheet.nodes.take sheet.nodes.length = (s.walkNodes sheet.fileName none sheet.nodes).1 := by
  rw [convertSheet_nodes]
  exact List.take_left' (walkNodes_length ..)

theorem convertSheet_blocks (s : Settings) (sheet : Sheet) :
    (s.convertSheet sheet).sheet.nodes.drop sheet.nodes.length =
      (s.blocks (s.sourcesAmong sheet.fileName false sheet.nodes)).map AtRule.node := by
  rw [convertSheet_nodes]
  exact List.drop_left' (walkNodes_length ..)

theorem convertSheet_mets (s : Settings) (sheet : Sheet) : (s.convertSheet sheet).sheet.met =
    sheet.met.map (Met.walked s sheet.fileName) ++ metAmong sheet.fileName none
      ((s.blocks (s.sourcesAmong sheet.fileName false sheet.nodes)).map AtRule.node) := by
  unfold Sheet.met
  rw [← metAmong_walk s sheet.fileName none sheet.nodes, convertSheet_sheet]
  simp only [metAmong_flatMap, ← List.flatMap_append]
  rfl

theorem convertSheet_met (s : Settings) (sheet : Sheet) (rank : Nat) (met : sheet.met[rank]? = some m) :
    (s.convertSheet sheet).sheet.met[rank]? = some (m.walked s sheet.fileName) := by
  rw [convertSheet_mets, List.getElem?_append_left, List.getElem?_map, met]
  · rfl
  · rw [List.length_map]
    exact (List.getElem?_eq_some_iff.mp met).1

end Settings

namespace Met

-- What the breakpoints get from a rule: nothing, unless it is taken and no at-rule is directly around it.
def source? (s : Settings) (m : Met) : Option (Rule × String) :=
  if m.parent.isNone && s.standing m.file m.rule.selector = .taken then some (m.rule, m.file) else none

end Met

namespace Settings
variable {s : Settings} {sheetFile : String}

theorem sourcesIn_met (n : Node) : ∀ parent : Option Parent,
    s.sourcesIn sheetFile parent.isSome n = (metIn sheetFile parent n).filterMap (Met.source? s) := by
  induction n using Node.induct with
  | declaration | comment => intro parent; rfl
  | atRule name params nodes source ih =>
    intro parent
    rw [sourcesIn, metIn, sourcesAmong_flatMap, metAmong_flatMap, List.filterMap_flatMap]
    exact List.flatMap_congr fun n member => ih n member (some _)
  | rule selector nodes source ih =>
    intro parent
    have below : s.sourcesAmong sheetFile false nodes = (metAmong sheetFile none nodes).filterMap (Met.source? s) := by
      rw [sourcesAmong_flatMap, metAmong_flatMap, List.filterMap_flatMap]
      exact List.flatMap_congr fun n member => ih n member none
    rw [sourcesIn, metIn, below, List.filterMap_cons, Met.source?]
    cases parent with
    | none => by_cases taken : s.standing (fileOf sheetFile source) selector = .taken <;> simp [taken]
    | some parent => simp

theorem sourcesAmong_met (s : Settings) (sheetFile : String) (parent : Option Parent) (nodes : List Node) :
    s.sourcesAmong sheetFile parent.isSome nodes = (metAmong sheetFile parent nodes).filterMap (Met.source? s) := by
  rw [sourcesAmong_flatMap, metAmong_flatMap, List.filterMap_flatMap]
  exact List.flatMap_congr fun n _ => sourcesIn_met n parent

theorem sheet_sources (s : Settings) (sheet : Sheet) :
    s.sourcesAmong sheet.fileName false sheet.nodes = sheet.met.filterMap (Met.source? s) :=
  sourcesAmong_met s sheet.fileName none sheet.nodes

theorem copy_nodes {b : Breakpoint} {copy : Rule} (found : b.copy? s file r = some copy) :
    copy.nodes = (r.declarations.filterMap (b.convert? s file)).map .declaration := by
  unfold Breakpoint.copy? at found
  split at found
  · cases found
  · cases found
    rfl

theorem copy_shell {b : Breakpoint} (found : b.copy? s file r = some copy) :
    copy.selector = r.selector ∧ copy.source = r.source := by
  unfold Breakpoint.copy? at found
  split at found
  · cases found
  · cases found
    exact ⟨rfl, rfl⟩

theorem metAmong_declarations (sheetFile : String) (parent : Option Parent) (ds : List Declaration) :
    metAmong sheetFile parent (ds.map .declaration) = [] := by
  rw [metAmong_flatMap, List.flatMap_map, List.flatMap_eq_nil_iff]
  exact fun _ _ => rfl

theorem blocks_met (met : m ∈ metAmong sheetFile none ((s.blocks sources).map AtRule.node)) :
    m.parent.isSome = true ∧ m.file = fileOf sheetFile m.rule.source ∧
      ∃ b ∈ s.breakpoints, ∃ source ∈ sources, b.copy? s source.2 source.1 = some m.rule := by
  rw [metAmong_flatMap, List.flatMap_map] at met
  obtain ⟨block, member, met⟩ := List.mem_flatMap.mp met
  obtain ⟨b, breakpoint, made⟩ := List.mem_filterMap.mp member
  unfold Breakpoint.block at made
  split at made
  · cases made
  · cases made
    rw [AtRule.node, AtRule.media, metIn, metAmong_flatMap, List.flatMap_map] at met
    obtain ⟨copy, copied, met⟩ := List.mem_flatMap.mp met
    obtain ⟨source, member, found⟩ := List.mem_filterMap.mp copied
    rw [Rule.node, metIn, copy_nodes found, metAmong_declarations, List.mem_singleton, ← copy_nodes found] at met
    cases met
    exact ⟨rfl, rfl, b, breakpoint, source, member, found⟩

theorem source_met (found : Met.source? s m = some source) : source = (m.rule, m.file) ∧ m.parent = none ∧
    m.takesPart s = true ∧ m.context s = ⟨m.rule.selector, m.file, false⟩ := by
  obtain ⟨rule, file, parent⟩ := m
  unfold Met.source? at found
  split at found
  · rename_i both
    rw [Bool.and_eq_true, decide_eq_true_eq] at both
    cases found
    cases parent with
    | some p => cases both.1
    | none =>
      refine ⟨rfl, rfl, ?_, ?_⟩
      · simp [Met.takesPart, allowsIn, both.2]
      · simp [Met.context]
  · cases found

end Settings
end FluidSheet
