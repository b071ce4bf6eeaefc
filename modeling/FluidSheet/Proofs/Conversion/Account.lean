import FluidSheet.Proofs.Conversion.Edits

namespace FluidSheet

mutual
def leavesIn : Node → List Node
  | .rule _ nodes _ => leavesAmong nodes
  | .atRule _ _ nodes _ => leavesAmong nodes
  | n => [n]

def leavesAmong : List Node → List Node
  | [] => []
  | n :: rest => leavesIn n ++ leavesAmong rest
end

def Revalues (d e : Declaration) : Prop := e = d.withValue e.value

def revalued (before after : List Declaration) : Nat := (before.zip after).countP fun (d, e) => d.value ≠ e.value

structure Accounts (s : Settings) (before after : List Node) (t : Tally) : Prop where
  removed : (after.filterMap Node.comment?).Sublist (before.filterMap Node.comment?) ∧
    (before.filterMap Node.comment?).length = (after.filterMap Node.comment?).length + t.ignored
  grown : (after.filterMap Node.declaration?).length = (before.filterMap Node.declaration?).length + t.inserted
  replaced : s.replace = true →
    List.Forall₂ Revalues (before.filterMap Node.declaration?) (after.filterMap Node.declaration?) ∧
      revalued (before.filterMap Node.declaration?) (after.filterMap Node.declaration?) = t.converted
  inserted : s.replace = false →
    (before.filterMap Node.declaration?).Sublist (after.filterMap Node.declaration?) ∧ t.converted = 0
  kept : ∀ m, .comment m ∈ before → ¬ m.Keeper → .comment m ∈ after

variable {s : Settings} {c : Context} {sheetFile : String} {parent : Option Parent} {own : Option Context}

theorem revalued_append (same : as.length = bs.length) :
    revalued (as ++ as') (bs ++ bs') = revalued as bs + revalued as' bs' := by
  rw [revalued, List.zip_append same, List.countP_append]
  rfl

theorem revalued_self (ds : List Declaration) : revalued ds ds = 0 := by
  induction ds with
  | nil => rfl
  | cons d ds ih => simpa [revalued] using ih

theorem accounts_self (leaves : List Node) : Accounts s leaves leaves 0 := by
  refine ⟨⟨List.Sublist.refl _, rfl⟩, rfl, ?_, fun _ => ⟨List.Sublist.refl _, rfl⟩, fun _ member _ => member⟩
  intro _
  exact ⟨List.forall₂_same.mpr fun d _ => rfl, revalued_self _⟩

theorem accounts_append (first : Accounts s before after t) (second : Accounts s before' after' u) :
    Accounts s (before ++ before') (after ++ after') (t + u) := by
  have converted : (t + u).converted = t.converted + u.converted := rfl
  have inserted : (t + u).inserted = t.inserted + u.inserted := rfl
  have ignored : (t + u).ignored = t.ignored + u.ignored := rfl
  refine ⟨⟨?_, ?_⟩, ?_, ?_, ?_, ?_⟩
  · rw [List.filterMap_append, List.filterMap_append]
    exact first.removed.1.append second.removed.1
  · rw [List.filterMap_append, List.filterMap_append, List.length_append, List.length_append, first.removed.2,
      second.removed.2, ignored]
    omega
  · rw [List.filterMap_append, List.filterMap_append, List.length_append, List.length_append, first.grown,
      second.grown, inserted]
    omega
  · intro mode
    obtain ⟨same, count⟩ := first.replaced mode
    obtain ⟨same', count'⟩ := second.replaced mode
    rw [List.filterMap_append, List.filterMap_append, revalued_append same.length_eq, count, count', converted]
    exact ⟨List.rel_append same same', rfl⟩
  · intro mode
    obtain ⟨inside, none⟩ := first.inserted mode
    obtain ⟨inside', none'⟩ := second.inserted mode
    rw [List.filterMap_append, List.filterMap_append, converted, none, none']
    exact ⟨inside.append inside', rfl⟩
  · intro m member unmarked
    rw [List.mem_append] at member ⊢
    exact member.imp (fun early => first.kept m early unmarked) fun late => second.kept m late unmarked

theorem accounts_behind (leaves : List Node) (rest : Accounts s before after t) :
    Accounts s (leaves ++ before) (leaves ++ after) t := by
  have whole := accounts_append (accounts_self leaves) rest
  rwa [zero_add] at whole

theorem accounts_removal (obeyed : m.Keeper) : Accounts s [.comment m] [] .removal := by
  refine ⟨⟨List.nil_sublist _, rfl⟩, rfl, fun _ => ⟨.nil, rfl⟩, fun _ => ⟨List.Sublist.refl _, rfl⟩, ?_⟩
  intro m' member unmarked
  cases List.mem_singleton.mp member
  exact absurd obeyed unmarked

theorem accounts_replacement (mode : s.replace = true) (converts : Converts s c d value) :
    Accounts s [.declaration d] [.declaration ⟨d.prop, value, d.important, d.source⟩] .replacement := by
  refine ⟨⟨List.Sublist.refl _, rfl⟩, rfl, ?_, ?_, fun _ member _ => by simp at member⟩
  · intro _
    refine ⟨.cons rfl .nil, ?_⟩
    have differs : decide (d.value ≠ value) = true := decide_eq_true converts.other.symm
    exact List.countP_cons_of_pos differs
  · intro insert
    rw [mode] at insert
    cases insert

theorem accounts_insertion (mode : s.replace = false) (d : Declaration) (value : String) : Accounts s
    [.declaration d] [.declaration d, .declaration ⟨d.prop, value, d.important, d.source⟩] .insertion := by
  refine ⟨⟨List.Sublist.refl _, rfl⟩, rfl, ?_, ?_, fun _ member _ => by simp at member⟩
  · intro replace
    rw [mode] at replace
    cases replace
  · intro _
    exact ⟨(List.nil_sublist _).cons_cons d, rfl⟩

theorem edits_accounts (edits : Edits s sheetFile parent own before after t) :
    Accounts s (leavesAmong before) (leavesAmong after) t := by
  induction edits with
  | nil => exact accounts_self []
  | leaf _ _ ih => exact accounts_behind _ ih
  | atRule _ _ inside ih => exact accounts_append inside ih
  | rule _ _ inside ih => exact accounts_append inside ih
  | removed obeyed _ ih => exact accounts_append (accounts_removal obeyed) ih
  | replaced mode converts _ ih => exact accounts_append (accounts_replacement mode converts) ih
  | @inserted c d value _ before after t mode _ _ ih =>
    have whole := accounts_append (accounts_insertion mode d value) ih
    exact whole

theorem tally_parts {t u : Tally} (none : t + u = 0) : t = 0 ∧ u = 0 := by
  have converted : t.converted + u.converted = 0 := congrArg Tally.converted none
  have inserted : t.inserted + u.inserted = 0 := congrArg Tally.inserted none
  have ignored : t.ignored + u.ignored = 0 := congrArg Tally.ignored none
  rw [Nat.add_eq_zero_iff] at converted inserted ignored
  exact ⟨Tally.ext converted.1 inserted.1 ignored.1, Tally.ext converted.2 inserted.2 ignored.2⟩

theorem edits_still (edits : Edits s sheetFile parent own before after t) (none : t = 0) : after = before := by
  induction edits with
  | nil => rfl
  | leaf _ _ ih => rw [ih none]
  | atRule _ _ inside ih | rule _ _ inside ih =>
    obtain ⟨below, behind⟩ := tally_parts none
    rw [inside below, ih behind]
  | removed | replaced | inserted => cases (tally_parts none).1

-- What a report has besides the edits: how many rules were passed over, and the comments it warns of.
structure Tells (s : Settings) (ms : List Met) (leaves : List Node) (o : Outcome) : Prop where
  excluded : o.excludedRules = ms.countP fun m => m.file ≠ "" && s.excludes m.file
  blacklisted : o.blacklistedRules =
    ms.countP fun m => !(m.file ≠ "" && s.excludes m.file) && s.blacklists m.rule.selector
  warned : ∀ w ∈ o.warnings, .comment w.comment ∈ leaves ∧ ¬ w.comment.Keeper

theorem tells_silent (excluded : o.excludedRules = 0) (blacklisted : o.blacklistedRules = 0) (calm : o.warnings = [])
    (leaves : List Node) : Tells s [] leaves o := by
  refine ⟨excluded, blacklisted, ?_⟩
  intro w member
  rw [calm] at member
  cases member

theorem tells_append (first : Tells s ms leaves o) (second : Tells s ms' leaves' o') :
    Tells s (ms ++ ms') (leaves ++ leaves') (o ++ o') := by
  refine ⟨?_, ?_, ?_⟩
  · rw [List.countP_append, ← first.excluded, ← second.excluded]
    rfl
  · rw [List.countP_append, ← first.blacklisted, ← second.blacklisted]
    rfl
  · intro w member
    rcases List.mem_append.mp (show w ∈ o.warnings ++ o'.warnings from member) with early | late
    · exact (first.warned w early).imp_left (List.mem_append_left _)
    · exact (second.warned w late).imp_left (List.mem_append_right _)

theorem tells_within (tells : Tells s ms leaves o) (within : ∀ m, .comment m ∈ leaves → .comment m ∈ leaves') :
    Tells s ms leaves' o :=
  ⟨tells.excluded, tells.blacklisted, fun w member => (tells.warned w member).imp_left (within _)⟩

namespace Settings

theorem place_tells (s : Settings) (c : Context) (siblings : List Node) (d : Declaration) :
    Tells s [] [] (s.place c siblings d).2 := by
  unfold place
  split
  · exact tells_silent rfl rfl rfl _
  · dsimp only
    split
    · exact tells_silent rfl rfl rfl _
    · split
      · exact tells_silent rfl rfl rfl _
      · split <;> exact tells_silent rfl rfl rfl _

theorem step_tells (s : Settings) (c : Context) (done : List Node) (n : Node) (rest : List Node) :
    Tells s [] rest (s.step c done n rest).outcome := by
  have silent : ∀ o : Outcome, Tells s [] [] o → Tells s [] rest o :=
    fun o tells => tells_within tells fun _ none => by cases none
  by_cases leaf : ∃ d, n = .declaration d
  · obtain ⟨d, rfl⟩ := leaf
    simp only [step]
    split
    · exact tells_silent rfl rfl rfl _
    · split
      · exact tells_silent rfl rfl rfl _
      · exact tells_silent rfl rfl rfl _
      · rename_i m judged
        obtain ⟨here, marked, apart⟩ := between_misplaced judged
        have warns : Tells s [] rest (warned c m) := by
          refine ⟨rfl, rfl, ?_⟩
          intro w member
          cases List.mem_singleton.mp member
          refine ⟨List.mem_of_mem_head? here, ?_⟩
          rintro (next | ⟨_, behind⟩)
          · rw [marked] at next
            revert next
            decide
          · rw [apart] at behind
            cases behind
        have both := tells_append warns (place_tells s c (done ++ .declaration d :: rest) d)
        exact tells_within both fun m member => by simpa using member
      · exact silent _ (place_tells s c _ d)
  · rw [step_plain fun d here => leaf ⟨d, here⟩]
    exact tells_silent rfl rfl rfl _

theorem convertNodesFrom_tells (s : Settings) (c : Context) (done : List Node) (dropped : Bool) (nodes : List Node) :
    Tells s [] nodes (s.convertNodesFrom c done dropped nodes).2 := by
  induction nodes generalizing done dropped with
  | nil => exact tells_silent rfl rfl rfl _
  | cons n rest ih =>
    rw [convertNodesFrom]
    split
    · exact tells_within (ih done false) fun m member => List.mem_cons_of_mem _ member
    · refine tells_within (tells_append (step_tells s c done n rest) (ih _ _)) ?_
      intro m member
      exact List.mem_cons_of_mem _ ((List.mem_append.mp member).elim id id)

theorem leavesAmong_flatMap (nodes : List Node) : leavesAmong nodes = nodes.flatMap leavesIn := by
  induction nodes with
  | nil => rfl
  | cons n rest ih => rw [leavesAmong, ih, List.flatMap_cons]

theorem leaves_comment {nodes : List Node} (member : .comment m ∈ nodes) : .comment m ∈ leavesAmong nodes := by
  rw [leavesAmong_flatMap, List.mem_flatMap]
  exact ⟨_, member, List.mem_singleton_self _⟩

theorem convertRule_tells (s : Settings) (sheetFile : String) (parent : Option Parent) (selector : String)
    (source : Option Source) (nodes children : List Node) :
    Tells s [⟨⟨selector, nodes, source⟩, fileOf sheetFile source, parent⟩] children
      (s.convertRule sheetFile parent selector source children).2 := by
  unfold convertRule standing
  dsimp only
  by_cases excluded : fileOf sheetFile source ≠ "" ∧ s.excludes (fileOf sheetFile source) = true
  · rw [if_pos excluded]
    refine ⟨?_, ?_, fun _ none => by cases none⟩
    · simp [excluded]
    · simp [excluded, Outcome.event, Outcome.nothing]
  · rw [if_neg excluded]
    have included : ¬ fileOf sheetFile source = "" → s.excludes (fileOf sheetFile source) = false := by
      simpa using excluded
    by_cases blacklisted : s.blacklists selector = true
    · rw [if_pos blacklisted]
      refine ⟨?_, ?_, fun _ none => by cases none⟩
      · simpa [Outcome.event, Outcome.nothing] using included
      · simpa [blacklisted] using included
    · rw [if_neg blacklisted]
      have within : ∀ o, Tells s [] children o →
          Tells s [⟨⟨selector, nodes, source⟩, fileOf sheetFile source, parent⟩] children o := by
        intro o tells
        refine ⟨?_, ?_, tells.warned⟩
        · simpa [List.countP_singleton, if_neg excluded] using tells.excluded
        · simpa [included, blacklisted] using tells.blacklisted
      dsimp only
      split
      · exact within _ (convertNodesFrom_tells s _ [] false children)
      · exact within _ (tells_silent rfl rfl rfl _)

theorem walkNodes_tells {nodes : List Node} (each : ∀ n ∈ nodes,
      Tells s (metIn sheetFile parent n) (leavesIn n) (s.walkNode sheetFile parent n).2) :
    Tells s (metAmong sheetFile parent nodes) (leavesAmong nodes) (s.walkNodes sheetFile parent nodes).2 := by
  induction nodes with
  | nil => exact tells_silent rfl rfl rfl _
  | cons n rest ih =>
    exact tells_append (each n List.mem_cons_self) (ih fun m member => each m (List.mem_cons_of_mem _ member))

theorem walkNode_tells (n : Node) : ∀ parent,
    Tells s (metIn sheetFile parent n) (leavesIn n) (s.walkNode sheetFile parent n).2 := by
  induction n using Node.induct with
  | declaration | comment => exact fun _ => tells_silent rfl rfl rfl _
  | atRule name params nodes source ih => exact fun _ => walkNodes_tells fun n member => ih n member _
  | rule selector nodes source ih =>
    intro parent
    have own := convertRule_tells s sheetFile parent selector source nodes (s.walkNodes sheetFile none nodes).1
    have here : Tells s _ (leavesAmong nodes) _ := tells_within own fun m member => by
      rw [walkNodes_map, (walk_leafwise s sheetFile none).mem_comment] at member
      exact leaves_comment member
    refine tells_within (tells_append here (walkNodes_tells fun n member => ih n member none)) ?_
    intro m member
    exact (List.mem_append.mp member).elim id id

theorem copies_met {copies : List Rule} (parent : Option Parent)
    (copied : ∀ copy ∈ copies, ∃ (b : Breakpoint) (r : Rule) (file : String), b.copy? s file r = some copy) :
    (metAmong sheetFile parent (copies.map Rule.node)).length = copies.length := by
  induction copies with
  | nil => rfl
  | cons copy copies ih =>
    obtain ⟨b, r, file, found⟩ := copied copy List.mem_cons_self
    have bare : metAmong sheetFile none copy.nodes = [] := by
      rw [copy_nodes found]
      exact metAmong_declarations sheetFile none _
    have rest := ih fun r member => copied r (List.mem_cons_of_mem _ member)
    rw [List.map_cons, metAmong, Rule.node, metIn, bare, List.length_append, rest, List.length_cons, Nat.add_comm]
    rfl

theorem block_met (member : block ∈ s.blocks sources) (parent : Option Parent) :
    (metIn sheetFile parent block.node).length = block.nodes.length := by
  obtain ⟨b, _, made⟩ := List.mem_filterMap.mp member
  unfold Breakpoint.block at made
  split at made
  · cases made
  · cases made
    rw [AtRule.node, AtRule.media, metIn, copies_met, List.length_map]
    intro copy copied
    obtain ⟨source, _, found⟩ := List.mem_filterMap.mp copied
    exact ⟨b, source.1, source.2, found⟩

theorem blocks_rules {blocks : List AtRule}
    (each : ∀ b ∈ blocks, (metIn sheetFile none b.node).length = b.nodes.length) :
    (metAmong sheetFile none (blocks.map AtRule.node)).length =
      ((blocks.map EmittedBlock.ofBlock).map (·.rules)).foldr (· + ·) 0 := by
  induction blocks with
  | nil => rfl
  | cons b blocks ih =>
    have rest := ih fun b member => each b (List.mem_cons_of_mem _ member)
    rw [List.map_cons, metAmong, List.length_append, rest, each b List.mem_cons_self]
    rfl

end Settings

theorem accounts_still (accounts : Accounts s leaves leaves t) : t = 0 := by
  have converted : t.converted = 0 := by
    cases mode : s.replace with
    | true => exact (accounts.replaced mode).2.symm.trans (revalued_self _)
    | false => exact (accounts.inserted mode).2
  exact Tally.ext converted (Nat.left_eq_add.mp accounts.grown) (Nat.left_eq_add.mp accounts.removed.2)

theorem unchanged_exact (r : Report) : r.changed = false ↔ r.outcome.tally = 0 ∧ r.emitted = [] := by
  have none : r.outcome.tally = 0 ↔ r.outcome.converted + r.outcome.inserted + r.outcome.ignored = 0 := by
    rw [Tally.ext_iff, Nat.add_eq_zero_iff, Nat.add_eq_zero_iff, and_assoc]
    rfl
  rw [none, Report.changed, Bool.or_eq_false_iff, decide_eq_false_iff_not, Nat.not_lt, Nat.le_zero,
    Bool.not_eq_false', List.isEmpty_iff]

namespace Settings

-- Edits do not cancel out: the sheet is as before only where none was made.
theorem convertSheet_unchanged (s : Settings) (sheet : Sheet) :
    (s.convertSheet sheet).report.changed = false ↔ (s.convertSheet sheet).sheet = sheet := by
  have edits := run_edits s sheet
  have length := walkNodes_length s sheet.fileName none sheet.nodes
  rw [unchanged_exact]
  constructor
  · rintro ⟨silent, emitted⟩
    rw [convertSheet_emitted, List.map_eq_nil_iff] at emitted
    have nodes := convertSheet_nodes s sheet
    rw [emitted, edits_still edits silent, List.map_nil, List.append_nil] at nodes
    rw [convertSheet_sheet, ← convertSheet_nodes, nodes]
  · intro same
    have nodes := congrArg Sheet.nodes same
    rw [convertSheet_nodes] at nodes
    have bare : (s.blocks (s.sourcesAmong sheet.fileName false sheet.nodes)).map AtRule.node = [] := by
      have total := congrArg List.length nodes
      rw [List.length_append, length] at total
      exact List.eq_nil_of_length_eq_zero (Nat.add_eq_left.mp total)
    rw [bare, List.append_nil] at nodes
    rw [nodes] at edits
    refine ⟨accounts_still (edits_accounts edits), ?_⟩
    rw [convertSheet_emitted, List.map_eq_nil_iff.mp bare, List.map_nil]

-- Besides the edits: the blocks, the rules passed over, the comments warned of, and whether anything changed.
theorem convertSheet_account (s : Settings) (sheet : Sheet) :
    let run := s.convertSheet sheet
    ∃ (walked : List Node) (blocks : List AtRule),
      run.sheet.nodes = walked ++ blocks.map AtRule.node ∧ walked.length = sheet.nodes.length ∧
      Accounts s (leavesAmong sheet.nodes) (leavesAmong walked) run.report.outcome.tally ∧
      run.report.emitted = (blocks.map fun b => ⟨b.params, b.nodes.length⟩) ∧
      run.report.breakpointRules = (metAmong sheet.fileName none (blocks.map AtRule.node)).length ∧
      Tells s sheet.met (leavesAmong walked) run.report.outcome ∧
      (run.report.changed = true ↔ run.sheet ≠ sheet) := by
  intro run
  have edits := run_edits s sheet
  have accounts := edits_accounts edits
  refine ⟨_, _, convertSheet_nodes s sheet, walkNodes_length .., accounts, ?_, ?_, ?_, ?_⟩
  · rw [convertSheet_emitted]
    rfl
  · rw [Report.breakpointRules, convertSheet_emitted]
    exact (blocks_rules fun b member => block_met member none).symm
  · have tells : Tells s sheet.met (leavesAmong sheet.nodes) run.report.outcome := by
      rw [convertSheet_outcome]
      exact walkNodes_tells fun n _ => walkNode_tells n none
    refine ⟨tells.excluded, tells.blacklisted, ?_⟩
    intro w member
    obtain ⟨here, unmarked⟩ := tells.warned w member
    exact ⟨accounts.kept w.comment here unmarked, unmarked⟩
  · rw [← not_iff_not, Bool.not_eq_true, not_not]
    exact convertSheet_unchanged s sheet

end Settings
end FluidSheet
