import FluidSheet.Proofs.Conversion.Walk

-- What the breakpoints put behind a sheet, by rules that do not look at the run itself.

namespace FluidSheet

structure Met.Free (s : Settings) (m : Met) : Prop where
  outside : m.parent = none
  included : ¬ (m.file ≠ "" ∧ s.excludes m.file = true)
  listed : s.blacklists m.rule.selector = false

namespace Breakpoint

structure Changes (s : Settings) (b : Breakpoint) (file : String) (d : Declaration) (value : String) : Prop where
  candidate : s.isCandidate d = true
  measured : ∃ width, b.width.resolve file = some width ∧
    s.convert ⟨b.unit, width, s.unitPrecision, s.minPixelValue⟩ d.value = value
  other : value ≠ d.value

-- The declarations that change, in order, with their new values; no others.
inductive Keeps (s : Settings) (b : Breakpoint) (file : String) : List Declaration → List Declaration → Prop where
  | nil : Keeps s b file [] []
  | left (same : ∀ value, ¬ b.Changes s file d value) (rest : Keeps s b file ds es) : Keeps s b file (d :: ds) es
  | kept (changes : b.Changes s file d value) (rest : Keeps s b file ds es) :
      Keeps s b file (d :: ds) (⟨d.prop, value, d.important, d.source⟩ :: es)

-- One copy of each free rule that keeps anything.
inductive Copies (s : Settings) (b : Breakpoint) : List Met → List Rule → Prop where
  | nil : Copies s b [] []
  | barred (barred : ¬ m.Free s) (rest : Copies s b ms rs) : Copies s b (m :: ms) rs
  | bare (free : m.Free s) (none : b.Keeps s m.file m.rule.declarations []) (rest : Copies s b ms rs) :
      Copies s b (m :: ms) rs
  | copied (free : m.Free s) (some : b.Keeps s m.file m.rule.declarations (e :: es)) (rest : Copies s b ms rs) :
      Copies s b (m :: ms) (⟨m.rule.selector, (e :: es).map .declaration, m.rule.source⟩ :: rs)

end Breakpoint

-- One block for each breakpoint that has a copy.
inductive Emits (s : Settings) (ms : List Met) : List Breakpoint → List AtRule → Prop where
  | nil : Emits s ms [] []
  | unused (none : b.Copies s ms []) (rest : Emits s ms bs blocks) : Emits s ms (b :: bs) blocks
  | block (some : b.Copies s ms (r :: rs)) (rest : Emits s ms bs blocks) :
      Emits s ms (b :: bs) (⟨"media", b.mediaQuery, (r :: rs).map Rule.node, none⟩ :: blocks)

-- The sheet without some of its comments, wherever they stand.
mutual
def prunedIn (keep : Comment → Bool) : Node → List Node
  | .rule selector nodes source => [.rule selector (prunedAmong keep nodes) source]
  | .atRule name params nodes source => [.atRule name params (prunedAmong keep nodes) source]
  | .declaration d => [.declaration d]
  | .comment m => if keep m then [.comment m] else []

def prunedAmong (keep : Comment → Bool) : List Node → List Node
  | [] => []
  | n :: rest => prunedIn keep n ++ prunedAmong keep rest
end

def Sheet.pruned (keep : Comment → Bool) (sheet : Sheet) : Sheet := { sheet with nodes := prunedAmong keep sheet.nodes }

def Met.pruned (keep : Comment → Bool) (m : Met) : Met :=
  { m with rule := { m.rule with nodes := prunedAmong keep m.rule.nodes } }

theorem free_exact {m : Met} : m.Free s ↔ m.source? s = some (m.rule, m.file) := by
  have standing : s.standing m.file m.rule.selector = .taken ↔
      ¬ (m.file ≠ "" ∧ s.excludes m.file = true) ∧ s.blacklists m.rule.selector = false := by
    unfold Settings.standing
    split
    · rename_i excluded
      simp [excluded]
    · rename_i included
      cases s.blacklists m.rule.selector <;> simp [included]
  have found : m.source? s = some (m.rule, m.file) ↔ m.parent = none ∧ s.standing m.file m.rule.selector = .taken := by
    unfold Met.source?
    cases m.parent <;> simp
  rw [found, standing]
  exact ⟨fun free => ⟨free.outside, free.included, free.listed⟩, fun ⟨outside, included, listed⟩ => ⟨outside, included, listed⟩⟩

theorem barred_exact {m : Met} : ¬ m.Free s ↔ m.source? s = none := by
  rw [free_exact, Met.source?]
  split <;> simp

namespace Breakpoint
variable {s : Settings} {b : Breakpoint} {file : String}

theorem changes_exact : b.Changes s file d value ↔
    b.convert? s file d = some ⟨d.prop, value, d.important, d.source⟩ := by
  unfold convert? Settings.target?
  constructor
  · rintro ⟨candidate, ⟨width, measured, rfl⟩, other⟩
    simp [candidate, measured, other, Declaration.withValue]
  · intro found
    cases candidate : s.isCandidate d with
    | false => simp [candidate] at found
    | true =>
      cases measured : b.width.resolve file with
      | none => simp [candidate, measured] at found
      | some width =>
        by_cases same : s.convert ⟨b.unit, width, s.unitPrecision, s.minPixelValue⟩ d.value = d.value
        · simp [candidate, measured, same] at found
        · simp only [candidate, measured, same, Bool.not_true, Bool.false_eq_true, if_false, Option.map_some,
            Option.bind_eq_bind, Option.bind_some, Option.pure_def, Option.some.injEq] at found
          cases found
          exact ⟨candidate, ⟨width, measured, rfl⟩, same⟩

theorem convert_value (found : b.convert? s file d = some e) : e = ⟨d.prop, e.value, d.important, d.source⟩ := by
  unfold convert? at found
  split at found
  · cases found
  · obtain ⟨t, -, found⟩ := Option.bind_eq_some_iff.mp found
    dsimp only at found
    split at found
    · cases found
    · cases found
      rfl

theorem same_exact : (∀ value, ¬ b.Changes s file d value) ↔ b.convert? s file d = none := by
  rw [Option.eq_none_iff_forall_ne_some]
  constructor
  · intro same e found
    rw [convert_value found] at found
    exact same e.value (changes_exact.mpr found)
  · intro none value changes
    exact none _ (changes_exact.mp changes)

theorem keeps_exact : b.Keeps s file ds es ↔ ds.filterMap (b.convert? s file) = es := by
  constructor
  · intro keeps
    induction keeps with
    | nil => rfl
    | left same _ ih => rw [List.filterMap_cons_none (same_exact.mp same), ih]
    | kept changes _ ih => rw [List.filterMap_cons_some (changes_exact.mp changes), ih]
  · rintro rfl
    induction ds with
    | nil => exact .nil
    | cons d ds ih =>
      cases found : b.convert? s file d with
      | none =>
        rw [List.filterMap_cons_none found]
        exact .left (same_exact.mpr found) ih
      | some e =>
        rw [List.filterMap_cons_some found, convert_value found]
        rw [convert_value found] at found
        exact .kept (changes_exact.mpr found) ih

def copyOf? (s : Settings) (b : Breakpoint) (m : Met) : Option Rule :=
  (m.source? s).bind fun source => b.copy? s source.2 source.1

theorem copyOf_free {m : Met} (free : m.Free s) : b.copyOf? s m = b.copy? s m.file m.rule := by
  rw [copyOf?, free_exact.mp free]
  rfl

theorem copyOf_bare {m : Met} (free : m.Free s) (kept : m.rule.declarations.filterMap (b.convert? s m.file) = []) :
    b.copyOf? s m = none := by
  rw [copyOf_free free, copy?, kept]

theorem copyOf_copied {m : Met} (free : m.Free s)
    (kept : m.rule.declarations.filterMap (b.convert? s m.file) = e :: es) :
    b.copyOf? s m = some ⟨m.rule.selector, (e :: es).map .declaration, m.rule.source⟩ := by
  rw [copyOf_free free, copy?, kept]
  rfl

theorem copyOf_barred {m : Met} (barred : ¬ m.Free s) : b.copyOf? s m = none := by
  rw [copyOf?, barred_exact.mp barred]
  rfl

theorem copies_filterMap : b.Copies s ms rs ↔ ms.filterMap (b.copyOf? s) = rs := by
  constructor
  · intro copies
    induction copies with
    | nil => rfl
    | barred barred _ ih => rw [List.filterMap_cons_none (copyOf_barred barred), ih]
    | bare free none _ ih => rw [List.filterMap_cons_none (copyOf_bare free (keeps_exact.mp none)), ih]
    | copied free some _ ih => rw [List.filterMap_cons_some (copyOf_copied free (keeps_exact.mp some)), ih]
  · rintro rfl
    induction ms with
    | nil => exact .nil
    | cons m ms ih =>
      by_cases free : m.Free s
      · cases kept : m.rule.declarations.filterMap (b.convert? s m.file) with
        | nil =>
          rw [List.filterMap_cons_none (copyOf_bare free kept)]
          exact .bare free (keeps_exact.mpr kept) ih
        | cons e es =>
          rw [List.filterMap_cons_some (copyOf_copied free kept)]
          exact .copied free (keeps_exact.mpr kept) ih
      · rw [List.filterMap_cons_none (copyOf_barred free)]
        exact .barred free ih

end Breakpoint

variable {s : Settings}

theorem emits_filterMap : Emits s ms bs blocks ↔
    bs.filterMap (fun b => b.block (ms.filterMap (b.copyOf? s))) = blocks := by
  constructor
  · intro emits
    induction emits with
    | nil => rfl
    | unused none _ ih => rw [List.filterMap_cons_none (by rw [Breakpoint.copies_filterMap.mp none]; rfl), ih]
    | block some _ ih =>
      rw [List.filterMap_cons_some (by rw [Breakpoint.copies_filterMap.mp some]; rfl), ih]
      rfl
  · rintro rfl
    induction bs with
    | nil => exact .nil
    | cons b bs ih =>
      cases copies : ms.filterMap (b.copyOf? s) with
      | nil =>
        rw [List.filterMap_cons_none (by rw [copies]; rfl)]
        exact .unused (Breakpoint.copies_filterMap.mpr copies) ih
      | cons r rs =>
        rw [List.filterMap_cons_some (by rw [copies]; rfl)]
        exact .block (Breakpoint.copies_filterMap.mpr copies) ih

theorem prunedAmong_flatMap (keep : Comment → Bool) (nodes : List Node) :
    prunedAmong keep nodes = nodes.flatMap (prunedIn keep) := by
  induction nodes with
  | nil => rfl
  | cons n rest ih => rw [prunedAmong, ih, List.flatMap_cons]

theorem metIn_pruned (keep : Comment → Bool) (sheetFile : String) (n : Node) : ∀ parent,
    metAmong sheetFile parent (prunedIn keep n) = (metIn sheetFile parent n).map (Met.pruned keep) := by
  induction n using Node.induct with
  | declaration => exact fun _ => rfl
  | comment m =>
    intro parent
    rw [prunedIn]
    split <;> rfl
  | atRule name params nodes source ih =>
    intro parent
    rw [prunedIn, metAmong, metAmong, List.append_nil, metIn, metIn, metAmong_flatMap, metAmong_flatMap,
      prunedAmong_flatMap, List.flatMap_assoc, List.map_flatMap]
    refine List.flatMap_congr fun n member => ?_
    rw [← metAmong_flatMap]
    exact ih n member _
  | rule selector nodes source ih =>
    intro parent
    have below : metAmong sheetFile none (prunedAmong keep nodes) =
        (metAmong sheetFile none nodes).map (Met.pruned keep) := by
      rw [metAmong_flatMap, metAmong_flatMap, prunedAmong_flatMap, List.flatMap_assoc, List.map_flatMap]
      refine List.flatMap_congr fun n member => ?_
      rw [← metAmong_flatMap]
      exact ih n member none
    rw [prunedIn, metAmong, metAmong, List.append_nil, metIn, metIn, below]
    rfl

theorem pruned_met (keep : Comment → Bool) (sheet : Sheet) :
    (sheet.pruned keep).met = sheet.met.map (Met.pruned keep) := by
  change metAmong sheet.fileName none (prunedAmong keep sheet.nodes) = _
  rw [Sheet.met, metAmong_flatMap, metAmong_flatMap, prunedAmong_flatMap, List.flatMap_assoc, List.map_flatMap]
  refine List.flatMap_congr fun n _ => ?_
  rw [← metAmong_flatMap]
  exact metIn_pruned keep sheet.fileName n none

theorem pruned_declarations (keep : Comment → Bool) (nodes : List Node) :
    (prunedAmong keep nodes).filterMap Node.declaration? = nodes.filterMap Node.declaration? := by
  rw [prunedAmong_flatMap, List.filterMap_flatMap, List.filterMap_eq_flatMap_toList]
  refine List.flatMap_congr fun n _ => ?_
  cases n with
  | rule | atRule | declaration => rfl
  | comment m =>
    rw [prunedIn]
    split <;> rfl

theorem copyOf_pruned (keep : Comment → Bool) (b : Breakpoint) (m : Met) :
    b.copyOf? s (m.pruned keep) = b.copyOf? s m := by
  have source : (m.pruned keep).source? s = (m.source? s).map fun source => ((m.pruned keep).rule, source.2) := by
    unfold Met.source? Met.pruned
    dsimp only
    split <;> rfl
  have copy : ∀ file, b.copy? s file (m.pruned keep).rule = b.copy? s file m.rule := by
    intro file
    unfold Breakpoint.copy? Rule.declarations Met.pruned
    rw [pruned_declarations]
    rfl
  rw [Breakpoint.copyOf?, Breakpoint.copyOf?, source, Option.bind_map]
  by_cases free : m.Free s
  · rw [free_exact.mp free]
    exact copy m.file
  · rw [barred_exact.mp free]
    rfl

namespace Settings

theorem copies_sources (b : Breakpoint) (sheet : Sheet) :
    (s.sourcesAmong sheet.fileName false sheet.nodes).filterMap (fun (r, file) => b.copy? s file r) =
      sheet.met.filterMap (b.copyOf? s) := by
  rw [sheet_sources, List.filterMap_filterMap]
  rfl

theorem blocks_met_copies (s : Settings) (sheet : Sheet) : s.blocks (s.sourcesAmong sheet.fileName false sheet.nodes) =
    s.breakpoints.filterMap fun b => b.block (sheet.met.filterMap (b.copyOf? s)) := by
  unfold blocks
  simp only [copies_sources]

-- What the walk has collected at its end, though it has changed the sheet on its way.
theorem visitNodes_collects (s : Settings) (sheet : Sheet) :
    (s.visitNodes sheet.fileName none ⟨s.collectors, .nothing⟩ sheet.nodes).2.collectors =
      s.breakpoints.map fun b => ⟨b, sheet.met.filterMap (b.copyOf? s)⟩ := by
  rw [visitNodes_staged]
  change (s.breakpoints.map fun b => Collector.mk b []).map (Collector.fed s _) = _
  rw [List.map_map]
  refine List.map_congr_left fun b _ => ?_
  change Collector.mk b ([] ++ _) = _
  rw [List.nil_append, Option.isSome_none, copies_sources]

-- No setting of the primary pass nor any comment has a say in the blocks.
theorem convertSheet_emits (s : Settings) (sheet : Sheet) :
    let landscape : List Breakpoint :=
      if s.landscape then [⟨"(orientation: landscape)", s.landscapeUnit, s.landscapeWidth⟩] else []
    let designs : List Breakpoint :=
      if s.multiDesign then s.multiDesignWidths.map fun d => ⟨d.mediaQuery, s.multiDesignUnit, d.width⟩ else []
    let walk := s.visitNodes sheet.fileName none ⟨s.collectors, .nothing⟩ sheet.nodes
    ∃ blocks : List AtRule, (s.convertSheet sheet).sheet.nodes = walk.1 ++ blocks.map AtRule.node ∧
      walk.1.length = sheet.nodes.length ∧
      walk.2.collectors.map (·.breakpoint) = landscape ++ designs ∧
      (∀ c ∈ walk.2.collectors, ∀ rules, c.breakpoint.Copies s sheet.met rules ↔ rules = c.rules) ∧
      (∀ others, Emits s sheet.met (landscape ++ designs) others ↔ others = blocks) ∧
      ∀ replace mediaQuery viewportWidth viewportHeight viewportUnit fontViewportUnit keep,
        let s' := { s with replace, mediaQuery, viewportWidth, viewportHeight, viewportUnit, fontViewportUnit }
        (s'.convertSheet (sheet.pruned keep)).sheet.nodes.drop (sheet.pruned keep).nodes.length =
          blocks.map AtRule.node := by
  intro landscape designs walk
  have breakpoints : s.breakpoints = landscape ++ designs := by
    simp only [landscape, designs, Settings.breakpoints, landscapeBreakpoint, designBreakpoints, landscapeQuery]
    cases s.landscape <;> rfl
  have walked : walk.1 = (s.walkNodes sheet.fileName none sheet.nodes).1 := congrArg Prod.fst (visitNodes_staged ..)
  have collected : walk.2.collectors = _ := visitNodes_collects s sheet
  rw [walked, collected, ← breakpoints]
  refine ⟨_, convertSheet_nodes s sheet, walkNodes_length .., ?_, ?_, ?_, ?_⟩
  · rw [List.map_map]
    exact List.map_id _
  · rintro c member rules
    obtain ⟨b, -, rfl⟩ := List.mem_map.mp member
    rw [Breakpoint.copies_filterMap]
    exact eq_comm
  · intro others
    rw [emits_filterMap, blocks_met_copies]
    exact eq_comm
  · intro replace mediaQuery viewportWidth viewportHeight viewportUnit fontViewportUnit keep s'
    have copies : ∀ b : Breakpoint,
        (sheet.pruned keep).met.filterMap (b.copyOf? s') = sheet.met.filterMap (b.copyOf? s) := by
      intro b
      rw [pruned_met, List.filterMap_map]
      congr 1
      funext m
      exact copyOf_pruned keep b m
    rw [convertSheet_blocks, blocks_met_copies, blocks_met_copies]
    simp only [copies]
    rfl

end Settings
end FluidSheet
