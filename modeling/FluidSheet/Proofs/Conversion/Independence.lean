import FluidSheet.Proofs.Conversion.Walk

namespace FluidSheet

namespace Settings

structure Alike (s s' : Settings) (c : Context) : Prop where
  candidate : ∀ d, s'.isCandidate d = s.isCandidate d
  target : ∀ prop, s'.targetIn? c prop = s.targetIn? c prop
  convert : ∀ t value, s'.convert t value = s.convert t value
  replace : s'.replace = s.replace

-- Settings of landscape count as such only where no media query is converted.
inductive SameButBreakpoints : Settings → Settings → Prop where
  | designs (s : Settings) (multiDesign : Bool) (multiDesignUnit : String) (multiDesignWidths : List DesignWidth) :
      SameButBreakpoints s { s with multiDesign, multiDesignUnit, multiDesignWidths }
  | landscape (s : Settings) (closed : s.mediaQuery = false) (multiDesign : Bool) (multiDesignUnit : String)
      (multiDesignWidths : List DesignWidth) (landscape : Bool) (landscapeUnit : String) (landscapeWidth : WidthSource) :
      SameButBreakpoints s
        { s with multiDesign, multiDesignUnit, multiDesignWidths, landscape, landscapeUnit, landscapeWidth }

variable {s s' : Settings} {c : Context} {sheetFile : String} {parent : Option Parent}

theorem place_alike (alike : Alike s s' c) (siblings : List Node) (d : Declaration) :
    s'.place c siblings d = s.place c siblings d := by
  unfold place
  simp only [alike.target, alike.convert, alike.replace]

theorem step_alike (alike : Alike s s' c) (done : List Node) (n : Node) (rest : List Node) :
    s'.step c done n rest = s.step c done n rest := by
  cases n with
  | rule | atRule | comment => rfl
  | declaration d => simp only [step, alike.candidate, place_alike alike]

theorem convertNodesFrom_alike (alike : Alike s s' c) (done : List Node) (dropped : Bool) (nodes : List Node) :
    s'.convertNodesFrom c done dropped nodes = s.convertNodesFrom c done dropped nodes := by
  induction nodes generalizing done dropped with
  | nil => rfl
  | cons n rest ih => simp only [convertNodesFrom, step_alike alike, ih]

-- With media queries left alone, a place whose declarations are converted is no landscape one.
theorem context_alike (same : SameButBreakpoints s s') (allowed : allowsIn s.mediaQuery parent = true)
    (selector file : String) :
    (s'.landscape && parent.any Parent.isLandscape) = (s.landscape && parent.any Parent.isLandscape) ∧
      Alike s s' ⟨selector, file, s.landscape && parent.any Parent.isLandscape⟩ := by
  cases same with
  | designs => exact ⟨rfl, fun _ => rfl, fun _ => rfl, fun _ _ => rfl, rfl⟩
  | landscape closed =>
    cases parent with
    | none =>
      simp only [Option.any_none, Bool.and_false]
      exact ⟨trivial, fun _ => rfl, fun _ => rfl, fun _ _ => rfl, rfl⟩
    | some p =>
      rw [closed] at allowed
      cases allowed

theorem convertRule_alike (same : SameButBreakpoints s s') (selector : String) (source : Option Source)
    (nodes : List Node) :
    s'.convertRule sheetFile parent selector source nodes = s.convertRule sheetFile parent selector source nodes := by
  have standing : s'.standing (fileOf sheetFile source) selector = s.standing (fileOf sheetFile source) selector := by
    cases same <;> rfl
  have allows : s'.mediaQuery = s.mediaQuery := by cases same <;> rfl
  unfold convertRule
  dsimp only
  rw [standing, allows]
  split
  · rfl
  · rfl
  · split
    · rename_i allowed
      obtain ⟨context, alike⟩ := context_alike same allowed selector (fileOf sheetFile source)
      rw [context]
      exact convertNodesFrom_alike alike [] false nodes
    · rfl

theorem walkNodes_alike {nodes : List Node}
    (each : ∀ n ∈ nodes, s'.walkNode sheetFile parent n = s.walkNode sheetFile parent n) :
    s'.walkNodes sheetFile parent nodes = s.walkNodes sheetFile parent nodes := by
  induction nodes with
  | nil => rfl
  | cons n rest ih =>
    rw [walkNodes, walkNodes, each n List.mem_cons_self, ih fun m member => each m (List.mem_cons_of_mem _ member)]

theorem walkNode_alike (same : SameButBreakpoints s s') (n : Node) : ∀ parent,
    s'.walkNode sheetFile parent n = s.walkNode sheetFile parent n := by
  induction n using Node.induct with
  | declaration | comment => exact fun _ => rfl
  | atRule name params nodes source ih =>
    intro parent
    rw [walkNode, walkNode, walkNodes_alike fun n member => ih n member _]
  | rule selector nodes source ih =>
    intro parent
    rw [walkNode, walkNode, walkNodes_alike fun n member => ih n member none]
    simp only [convertRule_alike same]

-- The engines may only differ in the blocks behind.
theorem convertSheet_primary (same : SameButBreakpoints s s') (sheet : Sheet) :
    let run := s.convertSheet sheet
    let run' := s'.convertSheet sheet
    sheet.nodes.length ≤ run.sheet.nodes.length ∧ sheet.nodes.length ≤ run'.sheet.nodes.length ∧
      run'.sheet.nodes.take sheet.nodes.length = run.sheet.nodes.take sheet.nodes.length ∧
      run'.report.outcome = run.report.outcome := by
  have walked : s'.walkNodes sheet.fileName none sheet.nodes = s.walkNodes sheet.fileName none sheet.nodes :=
    walkNodes_alike fun n _ => walkNode_alike same n none
  refine ⟨convertSheet_longer s sheet, convertSheet_longer s' sheet, ?_, ?_⟩
  · rw [convertSheet_walked, convertSheet_walked, walked]
  · rw [convertSheet_outcome, convertSheet_outcome, walked]

theorem convertSheet_primary_blocks :
    let s' : Settings := { standard with multiDesign := true, landscape := true }
    let sheet : Sheet := ⟨none, [
      .rule ".a" [.declaration (.of "width" "32px")] none,
      .atRule "media" "(orientation: landscape)" [.rule ".b" [.declaration (.of "width" "32px")] none] none]⟩
    SameButBreakpoints standard s' ∧ (s'.convertSheet sheet).report.emitted.length = 3 ∧
      (standard.convertSheet sheet).report.emitted = [] ∧
      (s'.convertSheet sheet).sheet.nodes.take 2 = (standard.convertSheet sheet).sheet.nodes.take 2 ∧
      (s'.convertSheet sheet).report.outcome = (standard.convertSheet sheet).report.outcome := by
  intro s' sheet
  have same : SameButBreakpoints standard s' := .landscape standard rfl true _ _ true _ _
  obtain ⟨-, -, nodes, outcome⟩ := convertSheet_primary same sheet
  exact ⟨same, by decide +kernel, by decide +kernel, nodes, outcome⟩

example :
    let s : Settings := { standard with mediaQuery := true }
    let sheet : Sheet := ⟨none, [
      .atRule "media" "(orientation: landscape)" [.rule ".b" [.declaration (.of "width" "32px")] none] none]⟩
    ({ s with landscape := true }.convertSheet sheet).sheet.nodes.take 1 ≠ (s.convertSheet sheet).sheet.nodes.take 1 := by
  decide +kernel

end Settings
end FluidSheet
