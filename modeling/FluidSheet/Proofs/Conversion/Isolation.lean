import FluidSheet.Proofs.Conversion.Walk

-- Rules below rules count as standing outside any at-rule.

namespace FluidSheet

-- The at-rules around which there is no other, in order.
mutual
def outerIn : Node → List AtRule
  | .rule _ nodes _ => outerAmong nodes
  | .atRule name params nodes source => [⟨name, params, nodes, source⟩]
  | _ => []

def outerAmong : List Node → List AtRule
  | [] => []
  | n :: rest => outerIn n ++ outerAmong rest
end

def Sheet.outer (sheet : Sheet) : List AtRule := outerAmong sheet.nodes

theorem outerAmong_flatMap (nodes : List Node) : outerAmong nodes = nodes.flatMap outerIn := by
  induction nodes with
  | nil => rfl
  | cons n rest ih => rw [outerAmong, ih, List.flatMap_cons]

namespace Settings

-- The rules that breakpoints are made from, save those with an at-rule anywhere around them.
mutual
def openIn (s : Settings) (sheetFile : String) : Node → List (Rule × String)
  | .rule selector nodes source =>
    (Met.source? s ⟨⟨selector, nodes, source⟩, fileOf sheetFile source, none⟩).toList ++ openAmong s sheetFile nodes
  | _ => []

def openAmong (s : Settings) (sheetFile : String) : List Node → List (Rule × String)
  | [] => []
  | n :: rest => openIn s sheetFile n ++ openAmong s sheetFile rest
end

def openSources (s : Settings) (sheet : Sheet) : List (Rule × String) := s.openAmong sheet.fileName sheet.nodes

def sheltered (s : Settings) (sheetFile : String) (a : AtRule) : List (Rule × String) :=
  s.sourcesAmong sheetFile true a.nodes

variable {s : Settings} {sheetFile : String}

theorem openAmong_flatMap (s : Settings) (sheetFile : String) (nodes : List Node) :
    s.openAmong sheetFile nodes = nodes.flatMap (s.openIn sheetFile) := by
  induction nodes with
  | nil => rfl
  | cons n rest ih => rw [openAmong, ih, List.flatMap_cons]

theorem sourcesIn_rule (s : Settings) (sheetFile selector : String) (nodes : List Node) (source : Option Source) :
    s.sourcesIn sheetFile false (.rule selector nodes source) =
      (Met.source? s ⟨⟨selector, nodes, source⟩, fileOf sheetFile source, none⟩).toList ++
        s.sourcesAmong sheetFile false nodes := by
  rw [sourcesIn, Met.source?]
  by_cases taken : s.standing (fileOf sheetFile source) selector = .taken <;> simp [taken]

theorem openAmong_sublist (each : ∀ n ∈ nodes, (s.openIn sheetFile n).Sublist (s.sourcesIn sheetFile false n)) :
    (s.openAmong sheetFile nodes).Sublist (s.sourcesAmong sheetFile false nodes) := by
  induction nodes with
  | nil => exact List.Sublist.refl _
  | cons n rest ih => exact (each n List.mem_cons_self).append (ih fun m member => each m (List.mem_cons_of_mem _ member))

theorem openIn_sublist (s : Settings) (sheetFile : String) (n : Node) : (s.openIn sheetFile n).Sublist (s.sourcesIn sheetFile false n) := by
  induction n using Node.induct with
  | declaration | comment => exact List.Sublist.refl _
  | atRule => exact List.nil_sublist _
  | rule selector nodes source ih =>
    rw [openIn, sourcesIn_rule]
    exact (openAmong_sublist ih).append_left _

theorem sourcesAmong_split (each : ∀ n ∈ nodes, (s.sourcesIn sheetFile false n).Perm
      (s.openIn sheetFile n ++ (outerIn n).flatMap (s.sheltered sheetFile))) :
    (s.sourcesAmong sheetFile false nodes).Perm
      (s.openAmong sheetFile nodes ++ (outerAmong nodes).flatMap (s.sheltered sheetFile)) := by
  rw [openAmong_flatMap, sourcesAmong_flatMap, outerAmong_flatMap, List.flatMap_assoc]
  exact (List.Perm.flatMap_left nodes each).trans (List.flatMap_append_perm nodes _ _).symm

theorem sourcesIn_split (s : Settings) (sheetFile : String) (n : Node) : (s.sourcesIn sheetFile false n).Perm
    (s.openIn sheetFile n ++ (outerIn n).flatMap (s.sheltered sheetFile)) := by
  induction n using Node.induct with
  | declaration | comment => exact List.Perm.refl _
  | atRule => simp [sourcesIn, openIn, outerIn, sheltered]
  | rule selector nodes source ih =>
    rw [openIn, sourcesIn_rule, outerIn, List.append_assoc]
    exact (sourcesAmong_split ih).append_left _

-- Copies of sheltered rules are missing from a block exactly when there are none.
theorem copies_exact (f : Rule × String → Option Rule) (nodes : List Node) :
    (s.sourcesAmong sheetFile false nodes).filterMap f = (s.openAmong sheetFile nodes).filterMap f ↔
      ∀ a ∈ outerAmong nodes, ∀ source ∈ s.sheltered sheetFile a, f source = none := by
  have kept := (openAmong_sublist fun n (_ : n ∈ nodes) => openIn_sublist s sheetFile n).filterMap f
  have count := ((sourcesAmong_split fun n (_ : n ∈ nodes) => sourcesIn_split s sheetFile n).filterMap f).length_eq
  rw [List.filterMap_append, List.length_append] at count
  have missing : (∀ a ∈ outerAmong nodes, ∀ source ∈ s.sheltered sheetFile a, f source = none) ↔
      ((outerAmong nodes).flatMap (s.sheltered sheetFile)).filterMap f = [] := by
    simp only [List.filterMap_eq_nil_iff, List.mem_flatMap]
    constructor
    · rintro none source ⟨a, outer, member⟩
      exact none a outer source member
    · intro none a outer source member
      exact none source ⟨a, outer, member⟩
  rw [missing]
  constructor
  · intro same
    rw [same] at count
    exact List.eq_nil_of_length_eq_zero (by omega)
  · intro empty
    rw [empty, List.length_nil, Nat.add_zero] at count
    exact (kept.eq_of_length count.symm).symm

variable {all few : Breakpoint → List Rule}

theorem block_nil (b : Breakpoint) : b.block [] = none := rfl

theorem block_cons (b : Breakpoint) (r : Rule) (rules : List Rule) :
    b.block (r :: rules) = some (AtRule.media b.mediaQuery ((r :: rules).map Rule.node)) := rfl

theorem media_rules {as bs : List Rule}
    (same : AtRule.media query (as.map Rule.node) = AtRule.media query (bs.map Rule.node)) : as = bs := by
  have nodes : as.map Rule.node = bs.map Rule.node := congrArg AtRule.nodes same
  refine (List.map_inj_right ?_).mp nodes
  rintro ⟨selector, children, source⟩ ⟨selector', children', source'⟩ alike
  cases alike
  rfl

theorem blocks_fewer (bs : List Breakpoint) (fewer : ∀ b, (few b).Sublist (all b)) :
    (bs.filterMap fun b => b.block (few b)).length ≤ (bs.filterMap fun b => b.block (all b)).length := by
  induction bs with
  | nil => exact Nat.le_refl _
  | cons b bs ih =>
    have first := fewer b
    cases every : all b with
    | nil =>
      rw [every, List.sublist_nil] at first
      simp only [List.filterMap_cons, every, first, block_nil]
      exact ih
    | cons r rules =>
      cases part : few b with
      | nil =>
        simp only [List.filterMap_cons, every, part, block_nil, block_cons, List.length_cons]
        exact Nat.le_succ_of_le ih
      | cons =>
        simp only [List.filterMap_cons, every, part, block_cons, List.length_cons]
        exact Nat.succ_le_succ ih

-- Blocks cannot make up for one another: with fewer rules for some breakpoint they differ.
theorem blocks_exact (bs : List Breakpoint) (fewer : ∀ b, (few b).Sublist (all b)) :
    (bs.filterMap fun b => b.block (all b)) = bs.filterMap (fun b => b.block (few b)) ↔
      ∀ b ∈ bs, all b = few b := by
  induction bs with
  | nil => simp
  | cons b bs ih =>
    rw [List.forall_mem_cons, ← ih]
    have first := fewer b
    cases every : all b with
    | nil =>
      rw [every, List.sublist_nil] at first
      simp [every, first, block_nil]
    | cons r rules =>
      cases part : few b with
      | nil =>
        simp only [List.filterMap_cons, every, part, block_nil, block_cons]
        constructor
        · intro same
          have short := blocks_fewer bs fewer
          rw [← same, List.length_cons] at short
          omega
        · rintro ⟨impossible, _⟩
          cases impossible
      | cons r' rules' =>
        simp only [List.filterMap_cons, every, part, block_cons, List.cons.injEq]
        constructor
        · rintro ⟨same, rest⟩
          have alike := media_rules same
          rw [List.cons.injEq] at alike
          exact ⟨alike, rest⟩
        · rintro ⟨⟨rfl, rfl⟩, rest⟩
          exact ⟨rfl, rest⟩

theorem filter_block (nodes : List Node) :
    nodes.filter Node.isBlock = nodes.flatMap fun n => if n.isBlock then [n] else [] := by
  induction nodes with
  | nil => rfl
  | cons n rest ih =>
    rw [List.flatMap_cons, ← ih]
    cases block : n.isBlock <;> simp [block]

theorem map_fixed {g : Node → Node} {nodes : List Node} : nodes.map g = nodes ↔ ∀ n ∈ nodes, g n = n := by
  have alike : nodes.map g = nodes.map id ↔ ∀ n ∈ nodes, g n = id n := List.map_inj_left
  rwa [List.map_id] at alike

theorem leafwise_blocks (leafwise : Leafwise g) (nodes : List Node) :
    (nodes.map g).filter Node.isBlock = (nodes.filter Node.isBlock).map g := by
  rw [List.filter_map]
  congr 2
  funext n
  cases block : n.isBlock with
  | true => exact leafwise.block n block
  | false => rw [Function.comp_apply, leafwise.leaf block, block]

theorem converted_fixed (leafwise : Leafwise g) (m : Met) :
    (m.converted s).map g = m.rule.nodes ↔ m.converted s = m.rule.nodes ∧ ∀ n ∈ m.rule.nodes, g n = n := by
  have blocks : (m.converted s).filter Node.isBlock = m.rule.nodes.filter Node.isBlock := by
    rw [filter_block, filter_block]
    exact converted_flatMap _ (fun _ => rfl) (fun _ => rfl) m
  constructor
  · intro same
    have below : (m.rule.nodes.filter Node.isBlock).map g = m.rule.nodes.filter Node.isBlock := by
      rw [← blocks, ← leafwise_blocks leafwise, same, blocks]
    have still : ∀ n, (n.isBlock = true → n ∈ m.rule.nodes) → g n = n := by
      intro n member
      cases block : n.isBlock with
      | true => exact map_fixed.mp below n (List.mem_filter.mpr ⟨member block, block⟩)
      | false => exact leafwise.leaf block
    refine ⟨?_, fun n member => still n fun _ => member⟩
    rw [← same]
    refine (map_fixed.mpr fun n member => still n fun block => ?_).symm
    have found := List.mem_filter.mpr ⟨member, block⟩
    rw [blocks] at found
    exact (List.mem_filter.mp found).1
  · rintro ⟨same, still⟩
    rw [same]
    exact map_fixed.mpr still

theorem walkNodes_fixed {nodes : List Node} (each : ∀ n ∈ nodes, ((s.walkNode sheetFile parent n).1 = n ↔
      ∀ m ∈ metIn sheetFile parent n, m.converted s = m.rule.nodes)) :
    (s.walkNodes sheetFile parent nodes).1 = nodes ↔
      ∀ m ∈ metAmong sheetFile parent nodes, m.converted s = m.rule.nodes := by
  rw [walkNodes_map, map_fixed, metAmong_flatMap]
  constructor
  · intro still m met
    obtain ⟨n, member, met⟩ := List.mem_flatMap.mp met
    exact (each n member).mp (still n member) m met
  · intro still n member
    exact (each n member).mpr fun m met => still m (List.mem_flatMap.mpr ⟨n, member, met⟩)

theorem walkNode_fixed (n : Node) : ∀ parent, (s.walkNode sheetFile parent n).1 = n ↔
    ∀ m ∈ metIn sheetFile parent n, m.converted s = m.rule.nodes := by
  induction n using Node.induct with
  | declaration | comment => exact fun _ => ⟨fun _ _ none => (by cases none), fun _ => rfl⟩
  | atRule name params nodes source ih =>
    intro parent
    rw [metIn, ← walkNodes_fixed fun n member => ih n member _]
    simp only [walkNode, Node.atRule.injEq, true_and, and_true]
  | rule selector nodes source ih =>
    intro parent
    have own := converted_fixed (s := s) (walk_leafwise s sheetFile none)
      ⟨⟨selector, nodes, source⟩, fileOf sheetFile source, parent⟩
    rw [metIn, List.forall_mem_cons, ← walkNodes_fixed fun n member => ih n member none, walkNode_rule,
      walkNodes_map, walkNodes_map, map_fixed, ← own]
    simp only [Node.rule.injEq, true_and, and_true]

theorem outerIn_walk (n : Node) : ∀ parent, outerIn (s.walkNode sheetFile parent n).1 =
    (outerIn n).map fun a => { a with nodes := (s.walkNodes sheetFile (some (.of a)) a.nodes).1 } := by
  induction n using Node.induct with
  | declaration | comment | atRule => exact fun _ => rfl
  | rule selector nodes source ih =>
    intro parent
    rw [walkNode_rule, outerIn, outerIn, walkNodes_map]
    simp only [outerAmong_flatMap, List.flatMap_map, List.map_flatMap]
    rw [converted_flatMap (fun n => outerIn (s.walkNode sheetFile none n).1) (fun _ => rfl) (fun _ => rfl)]
    exact List.flatMap_congr fun n member => ih n member none

theorem outer_blocks (blocks : List AtRule) : outerAmong (blocks.map AtRule.node) = blocks := by
  induction blocks with
  | nil => rfl
  | cons b blocks ih =>
    rw [List.map_cons, outerAmong, ih]
    rfl

theorem convertSheet_outer (s : Settings) (sheet : Sheet) : (s.convertSheet sheet).sheet.outer =
    (sheet.outer.map fun a => { a with nodes := (s.walkNodes sheet.fileName (some (.of a)) a.nodes).1 }) ++
      s.blocks (s.sourcesAmong sheet.fileName false sheet.nodes) := by
  have walked : outerAmong (s.walkNodes sheet.fileName none sheet.nodes).1 = sheet.outer.map fun a =>
      { a with nodes := (s.walkNodes sheet.fileName (some (.of a)) a.nodes).1 } := by
    rw [Sheet.outer, walkNodes_map, outerAmong_flatMap, outerAmong_flatMap, List.flatMap_map, List.map_flatMap]
    exact List.flatMap_congr fun n _ => outerIn_walk n none
  rw [← walked, convertSheet_sheet]
  change outerAmong (_ ++ _) = _
  rw [outerAmong_flatMap, List.flatMap_append, ← outerAmong_flatMap, ← outerAmong_flatMap, outer_blocks]

structure PassesOver (s : Settings) (source : Rule × String) : Prop where
  kept : (s.convertNodes ⟨source.1.selector, source.2, false⟩ source.1.nodes).1 = source.1.nodes
  uncopied : ∀ b ∈ s.breakpoints, b.copy? s source.2 source.1 = none

theorem converted_source (closed : s.mediaQuery = false) (m : Met) : m.converted s = m.rule.nodes ↔
    ∀ source, m.source? s = some source →
      (s.convertNodes ⟨source.1.selector, source.2, false⟩ source.1.nodes).1 = source.1.nodes := by
  obtain ⟨rule, file, parent⟩ := m
  cases parent with
  | some p => simp [Met.converted, Met.takesPart, Met.source?, allowsIn, closed]
  | none =>
    by_cases taken : s.standing file rule.selector = .taken
    · simp [Met.converted, Met.takesPart, Met.source?, Met.context, allowsIn, taken]
    · simp [Met.converted, Met.takesPart, Met.source?, taken]

theorem sheltered_kept (closed : s.mediaQuery = false) (sheetFile : String) (a : AtRule) :
    (s.walkNodes sheetFile (some (.of a)) a.nodes).1 = a.nodes ↔ ∀ source ∈ s.sheltered sheetFile a,
      (s.convertNodes ⟨source.1.selector, source.2, false⟩ source.1.nodes).1 = source.1.nodes := by
  have sources : s.sheltered sheetFile a = (metAmong sheetFile (some (.of a)) a.nodes).filterMap (Met.source? s) :=
    sourcesAmong_met s sheetFile (some (.of a)) a.nodes
  rw [walkNodes_fixed fun n _ => walkNode_fixed n _, sources]
  simp only [List.mem_filterMap, converted_source closed]
  constructor
  · rintro kept source ⟨m, met, found⟩
    exact kept m met source found
  · intro kept m met source found
    exact kept source ⟨m, met, found⟩

-- Unless conversion or a breakpoint has something to do with a rule below a rule inside an at-rule.
theorem convertSheet_isolates (s : Settings) (sheet : Sheet) (closed : s.mediaQuery = false) :
    (s.convertSheet sheet).sheet.outer = sheet.outer ++ s.blocks (s.openSources sheet) ↔
      ∀ a ∈ sheet.outer, ∀ source ∈ s.sheltered sheet.fileName a, s.PassesOver source := by
  have fewer : ∀ b : Breakpoint, ((s.openSources sheet).filterMap fun source => b.copy? s source.2 source.1).Sublist
      ((s.sourcesAmong sheet.fileName false sheet.nodes).filterMap fun source => b.copy? s source.2 source.1) :=
    fun b => (openAmong_sublist fun n _ => openIn_sublist s _ n).filterMap _
  have copies : s.blocks (s.sourcesAmong sheet.fileName false sheet.nodes) = s.blocks (s.openSources sheet) ↔
      ∀ b ∈ s.breakpoints, ∀ a ∈ sheet.outer, ∀ source ∈ s.sheltered sheet.fileName a,
        b.copy? s source.2 source.1 = none := by
    refine (blocks_exact s.breakpoints fewer).trans ?_
    exact forall₂_congr fun b _ => copies_exact (fun source => b.copy? s source.2 source.1) sheet.nodes
  rw [convertSheet_outer]
  constructor
  · intro same
    obtain ⟨kept, emitted⟩ := List.append_inj same (List.length_map _)
    intro a outer source member
    refine ⟨?_, fun b member' => copies.mp emitted b member' a outer source member⟩
    have still := List.map_inj_left.mp (kept.trans (List.map_id _).symm) a outer
    exact (sheltered_kept closed sheet.fileName a).mp (congrArg AtRule.nodes still) source member
  · intro passed
    rw [copies.mpr fun b member' a outer source member => (passed a outer source member).uncopied b member']
    congr 1
    refine (List.map_congr_left fun a outer => ?_).trans (List.map_id _)
    rw [(sheltered_kept closed sheet.fileName a).mpr fun source member => (passed a outer source member).kept]
    rfl

theorem convertSheet_isolates_plain :
    let s : Settings := { standard with landscape := true }
    let inner : Node := .rule ".b" [.declaration (.of "color" "red")] none
    let sheet : Sheet := ⟨none, [
      .atRule "media" "print" [.rule ".a" [.declaration (.of "width" "32px"), inner] none] none,
      .rule ".c" [.declaration (.of "width" "32px")] none]⟩
    s.mediaQuery = false ∧ s.sheltered "" ⟨"media", "print", [.rule ".a" [inner] none], none⟩ ≠ [] ∧
      (s.convertSheet sheet).sheet.outer = sheet.outer ++ s.blocks (s.openSources sheet) := by
  intro s inner sheet
  refine ⟨rfl, by decide +kernel, (convertSheet_isolates s sheet rfl).mpr ?_⟩
  intro a outer source member
  cases List.mem_singleton.mp outer
  cases List.mem_singleton.mp member
  refine ⟨by decide +kernel, ?_⟩
  intro b member
  cases List.mem_singleton.mp member
  decide +kernel

-- With something to convert it is converted, and copied into the landscape block.
theorem shelter_lost :
    let s : Settings := { standard with landscape := true }
    let sheet : Sheet := ⟨none, [.atRule "media" "(min-width: 100px)"
      [.rule ".a" [.rule ".b" [.declaration (.of "width" "32px")] none] none] none]⟩
    s.mediaQuery = false ∧ (s.convertSheet sheet).sheet.outer =
        [⟨"media", "(min-width: 100px)", [.rule ".a" [.rule ".b" [.declaration (.of "width" "10vw")] none] none], none⟩,
          .media landscapeQuery [.rule ".b" [.declaration (.of "width" "5.6338vw")] none]] ∧
      (s.convertSheet sheet).sheet.outer ≠ sheet.outer ++ s.blocks (s.openSources sheet) := by
  decide +kernel

end Settings
end FluidSheet
