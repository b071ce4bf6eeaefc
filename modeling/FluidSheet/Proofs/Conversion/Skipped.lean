import FluidSheet.Proofs.Conversion.Account
import FluidSheet.Proofs.Conversion.Emission

-- Rules below a skipped one are dealt with on their own.

namespace FluidSheet

namespace Met

def Skipped (s : Settings) (m : Met) : Prop :=
  (m.file ≠ "" ∧ s.excludes m.file = true) ∨ s.blacklists m.rule.selector = true

structure Warns (s : Settings) (m : Met) (told : List Warning) : Prop where
  silent : m.Skipped s → told = []
  own : ∀ w ∈ told, .comment w.comment ∈ m.rule.nodes ∧ w.file = if m.file = "" then none else some m.file

end Met

-- Declarations and comments are the same ones in the same places; among them blocks stay blocks.
def LeavesStay (before after : List Node) : Prop :=
  List.Forall₂ (fun n n' => n'.isBlock = n.isBlock ∧ (n.isBlock = false → n' = n)) before after

variable {s : Settings} {sheetFile : String} {parent : Option Parent}

theorem skipped_standing {m : Met} (skipped : m.Skipped s) : s.standing m.file m.rule.selector ≠ .taken := by
  unfold Settings.standing
  split
  · exact fun impossible => by cases impossible
  · rename_i included
    rw [if_pos (skipped.resolve_left included)]
    exact fun impossible => by cases impossible

theorem free_unskipped {m : Met} (free : m.Free s) : ¬ m.Skipped s := by
  rintro (excluded | blacklisted)
  · exact free.included excluded
  · rw [free.listed] at blacklisted
    cases blacklisted

theorem leafwise_stay (leafwise : Leafwise g) (nodes : List Node) : LeavesStay nodes (nodes.map g) := by
  unfold LeavesStay
  rw [List.forall₂_map_right_iff, List.forall₂_same]
  intro n _
  cases block : n.isBlock with
  | true => exact ⟨leafwise.block n block, fun leaf => by cases leaf⟩
  | false =>
    rw [leafwise.leaf block]
    exact ⟨block, fun _ => rfl⟩

theorem skipped_stay {m : Met} (skipped : m.Skipped s) (sheetFile : String) :
    LeavesStay m.rule.nodes (m.walked s sheetFile).rule.nodes := by
  have apart : m.takesPart s = false := by simp [Met.takesPart, skipped_standing skipped]
  have converted : m.converted s = m.rule.nodes := by simp [Met.converted, apart]
  rw [Met.walked, converted, Settings.walkNodes_map]
  exact leafwise_stay (Settings.walk_leafwise s sheetFile none) m.rule.nodes

namespace Settings

theorem place_silent (s : Settings) (c : Context) (siblings : List Node) (d : Declaration) :
    (s.place c siblings d).2.warnings = [] := by
  rw [List.eq_nil_iff_forall_not_mem]
  intro w member
  cases ((place_tells s c siblings d).warned w member).1

theorem step_file (s : Settings) (c : Context) (done : List Node) (n : Node) (rest : List Node) :
    ∀ w ∈ (s.step c done n rest).outcome.warnings, w.file = if c.file = "" then none else some c.file := by
  intro w member
  cases n with
  | rule | atRule | comment => cases member
  | declaration d =>
    simp only [step] at member
    split at member
    · cases member
    · split at member
      · cases member
      · cases member
      · have warns : w ∈ (warned c _).warnings ++ (s.place c _ d).2.warnings := member
        rw [place_silent, List.append_nil] at warns
        cases List.mem_singleton.mp warns
        rfl
      · rw [place_silent] at member
        cases member

theorem convertNodesFrom_file (s : Settings) (c : Context) (done : List Node) (dropped : Bool) (nodes : List Node) :
    ∀ w ∈ (s.convertNodesFrom c done dropped nodes).2.warnings, w.file = if c.file = "" then none else some c.file := by
  induction nodes generalizing done dropped with
  | nil => exact fun _ none => by cases none
  | cons n rest ih =>
    intro w member
    rw [convertNodesFrom] at member
    split at member
    · exact ih done false w member
    · have parts : w ∈ (s.step c done n rest).outcome.warnings ++ (convertNodesFrom s c _ _ rest).2.warnings := member
      rcases List.mem_append.mp parts with here | later
      · exact step_file s c done n rest w here
      · exact ih _ _ w later

-- `children` are those of the rule once the walk below is through with them.
theorem convertRule_warns (s : Settings) (sheetFile : String) (parent : Option Parent) (selector : String)
    (source : Option Source) (nodes children : List Node) (kept : ∀ m, .comment m ∈ children ↔ .comment m ∈ nodes) :
    Met.Warns s ⟨⟨selector, nodes, source⟩, fileOf sheetFile source, parent⟩
      (s.convertRule sheetFile parent selector source children).2.warnings := by
  unfold convertRule
  dsimp only
  split
  · exact ⟨fun _ => rfl, fun _ none => by cases none⟩
  · exact ⟨fun _ => rfl, fun _ none => by cases none⟩
  · rename_i taken
    split
    · refine ⟨fun skipped => absurd taken (skipped_standing skipped), fun w member => ⟨?_, ?_⟩⟩
      · exact (kept w.comment).mp ((convertNodesFrom_tells s _ [] false children).warned w member).1
      · exact convertNodesFrom_file s _ [] false children w member
    · exact ⟨fun _ => rfl, fun _ none => by cases none⟩

theorem walkNodes_warns {nodes : List Node} (each : ∀ n ∈ nodes, ∃ told,
      (s.walkNode sheetFile parent n).2.warnings = told.flatten ∧
      List.Forall₂ (Met.Warns s) (metIn sheetFile parent n) told) :
    ∃ told, (s.walkNodes sheetFile parent nodes).2.warnings = told.flatten ∧
      List.Forall₂ (Met.Warns s) (metAmong sheetFile parent nodes) told := by
  induction nodes with
  | nil => exact ⟨[], rfl, .nil⟩
  | cons n rest ih =>
    obtain ⟨told, here, each'⟩ := each n List.mem_cons_self
    obtain ⟨told', later, others⟩ := ih fun m member => each m (List.mem_cons_of_mem _ member)
    refine ⟨told ++ told', ?_, List.rel_append each' others⟩
    rw [List.flatten_append, ← here, ← later]
    rfl

theorem walkNode_warns (n : Node) : ∀ parent, ∃ told, (s.walkNode sheetFile parent n).2.warnings = told.flatten ∧
    List.Forall₂ (Met.Warns s) (metIn sheetFile parent n) told := by
  induction n using Node.induct with
  | declaration | comment => exact fun _ => ⟨[], rfl, .nil⟩
  | atRule name params nodes source ih => exact fun _ => walkNodes_warns fun n member => ih n member _
  | rule selector nodes source ih =>
    intro parent
    obtain ⟨told, below, others⟩ := walkNodes_warns fun n member => ih n member none
    have own := convertRule_warns s sheetFile parent selector source nodes (s.walkNodes sheetFile none nodes).1 fun m => by
        rw [walkNodes_map, (walk_leafwise s sheetFile none).mem_comment]
    refine ⟨_ :: told, ?_, .cons own others⟩
    rw [List.flatten_cons, ← below]
    rfl

theorem met_file (n : Node) : ∀ parent, ∀ m ∈ metIn sheetFile parent n, m.file = fileOf sheetFile m.rule.source := by
  induction n using Node.induct with
  | declaration | comment => exact fun _ _ none => by cases none
  | atRule name params nodes source ih =>
    intro parent m met
    rw [metIn, metAmong_flatMap] at met
    obtain ⟨n, member, met⟩ := List.mem_flatMap.mp met
    exact ih n member _ m met
  | rule selector nodes source ih =>
    intro parent m met
    rw [metIn, metAmong_flatMap] at met
    rcases List.mem_cons.mp met with rfl | below
    · rfl
    · obtain ⟨n, member, met⟩ := List.mem_flatMap.mp below
      exact ih n member none m met

theorem emitted_origin (s : Settings) (sheet : Sheet)
    (emitted : m ∈ metAmong sheet.fileName none ((s.convertSheet sheet).sheet.nodes.drop sheet.nodes.length)) :
    ¬ m.Skipped s ∧ ∃ origin ∈ sheet.met, origin.rule.selector = m.rule.selector ∧
      origin.rule.source = m.rule.source ∧ origin.file = m.file ∧ ¬ origin.Skipped s := by
  rw [convertSheet_blocks] at emitted
  obtain ⟨-, file, b, -, source, member, copied⟩ := blocks_met emitted
  rw [sheet_sources] at member
  obtain ⟨origin, met, found⟩ := List.mem_filterMap.mp member
  obtain ⟨rfl, -⟩ := source_met found
  obtain ⟨selector, shell⟩ := copy_shell copied
  have unskipped : ¬ origin.Skipped s := free_unskipped (free_exact.mpr found)
  have same : origin.file = m.file := by
    rw [Sheet.met, metAmong_flatMap] at met
    obtain ⟨n, -, met⟩ := List.mem_flatMap.mp met
    rw [file, shell, met_file n none origin met]
  refine ⟨?_, origin, met, selector.symm, shell.symm, same, unskipped⟩
  rwa [Met.Skipped, ← same, selector]

-- Skipped rules keep what is their own; no warning comes from them, and no copy.
theorem convertSheet_skips (s : Settings) (sheet : Sheet) :
    let run := s.convertSheet sheet
    (∀ (rank : Nat) (m : Met), sheet.met[rank]? = some m → m.Skipped s → ∃ nodes,
      run.sheet.met[rank]? = some { m with rule := { m.rule with nodes } } ∧ LeavesStay m.rule.nodes nodes) ∧
    (∃ told, run.report.outcome.warnings = told.flatten ∧ List.Forall₂ (Met.Warns s) sheet.met told) ∧
    ∀ m ∈ metAmong sheet.fileName none (run.sheet.nodes.drop sheet.nodes.length), ¬ m.Skipped s ∧
      ∃ origin ∈ sheet.met, origin.rule.selector = m.rule.selector ∧ origin.rule.source = m.rule.source ∧
        origin.file = m.file ∧ ¬ origin.Skipped s := by
  refine ⟨?_, ?_, fun m emitted => emitted_origin s sheet emitted⟩
  · intro rank m met skipped
    exact ⟨_, convertSheet_met s sheet rank met, skipped_stay skipped sheet.fileName⟩
  · rw [convertSheet_outcome]
    exact walkNodes_warns fun n _ => walkNode_warns n none

example :
    let s : Settings := { standard with selectorBlackList := [.text ".keep"] }
    let sheet : Sheet := ⟨none, [.rule ".keep" [.comment (.ownLine "px-to-vw-ignore-next"),
      .declaration (.of "width" "32px"), .rule ".in" [.declaration (.of "width" "32px")] none] none]⟩
    (s.convertSheet sheet).sheet.nodes = [.rule ".keep" [.comment (.ownLine "px-to-vw-ignore-next"),
      .declaration (.of "width" "32px"), .rule ".in" [.declaration (.of "width" "10vw")] none] none] := by
  decide +kernel

end Settings
end FluidSheet
