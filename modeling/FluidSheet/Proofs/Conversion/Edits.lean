import FluidSheet.Proofs.Conversion.Walk

namespace FluidSheet

-- A marker that is obeyed where it stands next to a declaration, and then goes.
def Comment.Keeper (m : Comment) : Prop :=
  m.marker = "px-to-vw-ignore-next" ∨ (m.marker = "px-to-vw-ignore" ∧ m.sameLine = true)

@[ext]
structure Tally where
  converted : Nat
  inserted : Nat
  ignored : Nat
deriving DecidableEq, Repr

namespace Tally

instance : Zero Tally := ⟨⟨0, 0, 0⟩⟩

instance : Add Tally := ⟨fun t u => ⟨t.converted + u.converted, t.inserted + u.inserted, t.ignored + u.ignored⟩⟩

instance : AddCommMonoid Tally where
  zero_add _ := Tally.ext (Nat.zero_add _) (Nat.zero_add _) (Nat.zero_add _)
  add_zero _ := rfl
  add_assoc _ _ _ := Tally.ext (Nat.add_assoc ..) (Nat.add_assoc ..) (Nat.add_assoc ..)
  add_comm _ _ := Tally.ext (Nat.add_comm ..) (Nat.add_comm ..) (Nat.add_comm ..)
  nsmul := nsmulRec

def replacement : Tally := ⟨1, 0, 0⟩
def insertion : Tally := ⟨0, 1, 0⟩
def removal : Tally := ⟨0, 0, 1⟩

end Tally

def Outcome.tally (o : Outcome) : Tally := ⟨o.converted, o.inserted, o.ignored⟩

theorem tally_append (a b : Outcome) : (a ++ b).tally = a.tally + b.tally := rfl

structure Converts (s : Settings) (c : Context) (d : Declaration) (value : String) : Prop where
  candidate : s.isCandidate d = true
  measured : ∃ width, (if c.landscape then s.landscapeWidth else s.viewportWidth).resolve c.file = some width ∧
    s.convert ⟨if c.landscape then s.landscapeUnit
      else if Text.contains d.prop "font" then s.fontViewportUnit else s.viewportUnit,
      width, s.unitPrecision, s.minPixelValue⟩ d.value = value
  other : value ≠ d.value

def Met.own? (s : Settings) (m : Met) : Option Context :=
  if m.takesPart s then
    some ⟨m.rule.selector, m.file, s.landscape && m.parent.any fun p => Text.contains p.params "landscape"⟩
  else none

-- `own` is the context of the rule whose children these are, if its declarations are converted.
inductive Edits (s : Settings) (sheetFile : String) :
    (parent : Option Parent) → (own : Option Context) → List Node → List Node → Tally → Prop where
  | nil : Edits s sheetFile parent own [] [] 0
  | leaf (leaf : n.isBlock = false) (rest : Edits s sheetFile parent own before after t) :
      Edits s sheetFile parent own (n :: before) (n :: after) t
  | atRule (inside : Edits s sheetFile (some (.of ⟨name, params, [], source⟩)) none nodes nodes' t)
      (rest : Edits s sheetFile parent own before after u) :
      Edits s sheetFile parent own (.atRule name params nodes source :: before)
        (.atRule name params nodes' source :: after) (t + u)
  | rule (inside : Edits s sheetFile none
        (Met.own? s ⟨⟨selector, nodes, source⟩, Settings.fileOf sheetFile source, parent⟩) nodes nodes' t)
      (rest : Edits s sheetFile parent own before after u) :
      Edits s sheetFile parent own (.rule selector nodes source :: before) (.rule selector nodes' source :: after) (t + u)
  | removed (obeyed : m.Keeper) (rest : Edits s sheetFile parent (some c) before after t) :
      Edits s sheetFile parent (some c) (.comment m :: before) after (.removal + t)
  | replaced (mode : s.replace = true) (converts : Converts s c d value)
      (rest : Edits s sheetFile parent (some c) before after t) :
      Edits s sheetFile parent (some c) (.declaration d :: before)
        (.declaration ⟨d.prop, value, d.important, d.source⟩ :: after) (.replacement + t)
  | inserted (mode : s.replace = false) (converts : Converts s c d value)
      (rest : Edits s sheetFile parent (some c) before after t) :
      Edits s sheetFile parent (some c) (.declaration d :: before)
        (.declaration d :: .declaration ⟨d.prop, value, d.important, d.source⟩ :: after) (.insertion + t)

variable {s : Settings} {c : Context} {sheetFile : String} {parent : Option Parent} {own : Option Context}

theorem converts_exact : Converts s c d value ↔ s.wanted? c d = some value := by
  have target : s.targetIn? c d.prop =
      ((if c.landscape then s.landscapeWidth else s.viewportWidth).resolve c.file).map fun width =>
        ⟨if c.landscape then s.landscapeUnit else s.unitFor d.prop, width, s.unitPrecision, s.minPixelValue⟩ := by
    unfold Settings.targetIn?
    split <;> rfl
  rw [Settings.wanted_exact, target]
  constructor
  · rintro ⟨candidate, ⟨width, measured, value⟩, other⟩
    exact ⟨candidate, _, by rw [measured]; rfl, value, other⟩
  · rintro ⟨candidate, t, found, value, other⟩
    obtain ⟨width, measured, rfl⟩ := Option.map_eq_some_iff.mp found
    exact ⟨candidate, ⟨width, measured, value⟩, other⟩

theorem edits_append (first : Edits s sheetFile parent own before after t)
    (second : Edits s sheetFile parent own before' after' u) :
    Edits s sheetFile parent own (before ++ before') (after ++ after') (t + u) := by
  induction first with
  | nil => rwa [zero_add]
  | leaf leaf _ ih => exact .leaf leaf (ih second)
  | atRule inside _ _ ih =>
    rw [add_assoc]
    exact .atRule inside (ih second)
  | rule inside _ _ ih =>
    rw [add_assoc]
    exact .rule inside (ih second)
  | removed obeyed _ ih =>
    rw [add_assoc]
    exact .removed obeyed (ih second)
  | replaced mode converts _ ih =>
    rw [add_assoc]
    exact .replaced mode converts (ih second)
  | inserted mode converts _ ih =>
    rw [add_assoc]
    exact .inserted mode converts (ih second)

theorem edits_remove (edits : Edits s sheetFile parent (some c) before (earlier ++ .comment m :: later) t)
    (obeyed : m.Keeper) : Edits s sheetFile parent (some c) before (earlier ++ later) (.removal + t) := by
  generalize taken : some c = own, placed : earlier ++ Node.comment m :: later = after at edits
  induction edits generalizing earlier with
  | nil => simp at placed
  | leaf leaf rest ih =>
    cases taken
    cases earlier with
    | nil =>
      cases placed
      exact .removed obeyed rest
    | cons n earlier =>
      cases placed
      exact .leaf leaf (ih rfl rfl)
  | atRule inside rest _ ih =>
    cases earlier with
    | nil => cases placed
    | cons n earlier =>
      cases placed
      rw [add_left_comm]
      exact .atRule inside (ih taken rfl)
  | rule inside rest _ ih =>
    cases earlier with
    | nil => cases placed
    | cons n earlier =>
      cases placed
      rw [add_left_comm]
      exact .rule inside (ih taken rfl)
  | removed obeyed' rest ih => exact .removed obeyed' (ih taken placed)
  | replaced mode converts rest ih =>
    cases earlier with
    | nil => cases placed
    | cons n earlier =>
      cases placed
      rw [add_left_comm]
      exact .replaced mode converts (ih taken rfl)
  | inserted mode converts rest ih =>
    cases earlier with
    | nil => cases placed
    | cons n earlier =>
      cases earlier with
      | nil => cases placed
      | cons n' earlier =>
        cases placed
        rw [add_left_comm]
        exact .inserted mode converts (ih taken rfl)

namespace Settings

theorem leaf_edits (leaf : n.isBlock = false) : Edits s sheetFile parent own [n] [n] 0 := .leaf leaf .nil

theorem place_edits (siblings : List Node) (candidate : s.isCandidate d = true) :
    Edits s sheetFile parent (some c) [.declaration d] (s.place c siblings d).1 (s.place c siblings d).2.tally := by
  unfold place
  cases target : s.targetIn? c d.prop with
  | none => exact leaf_edits rfl
  | some t =>
    by_cases same : s.convert t d.value = d.value
    · simp only [same, if_true]
      exact leaf_edits rfl
    · have converts : Converts s c d (s.convert t d.value) :=
        converts_exact.mpr (wanted_exact.mpr ⟨candidate, t, target, rfl, same⟩)
      simp only [same, if_false]
      split
      · exact leaf_edits rfl
      · split
        · rename_i mode
          exact .replaced mode converts .nil
        · rename_i mode
          exact .inserted (by simpa using mode) converts .nil

end Settings

-- The nodes of which nothing is left to be seen: the next one, if it has gone already.
def gone (dropped : Bool) (rest : List Node) : List Node := if dropped then rest.take 1 else []

theorem Leafwise.gone (leafwise : Leafwise g) (leaf : ∀ n ∈ gone dropped (rest.map g), n.isBlock = false) :
    FluidSheet.gone dropped (rest.map g) = FluidSheet.gone dropped rest ∧
      ∀ n ∈ FluidSheet.gone dropped rest, n.isBlock = false := by
  cases dropped with
  | false => exact ⟨rfl, fun _ none => by cases none⟩
  | true =>
    cases rest with
    | nil => exact ⟨rfl, fun _ none => by cases none⟩
    | cons n rest =>
      have here : n.isBlock = false := by
        by_contra block
        have still := leafwise.block n (by simpa using block)
        rw [leaf (g n) List.mem_cons_self] at still
        cases still
      refine ⟨congrArg ([·]) (leafwise.leaf here), ?_⟩
      intro m member
      cases List.mem_singleton.mp member
      exact here

namespace Settings

theorem placed_edits (earlier : Edits s sheetFile parent (some c) before done.reverse t)
    (here : Edits s sheetFile parent (some c) old new u) :
    Edits s sheetFile parent (some c) (before ++ old) (new.reverse ++ done).reverse (t + u) := by
  rw [List.reverse_append, List.reverse_reverse]
  exact edits_append earlier here

-- One declaration in the loop: it is placed, and a marker on either side may go with it.
theorem declaration_edits (earlier : Edits s sheetFile parent (some c) before done.reverse t) (d : Declaration)
    (rest : List Node) :
    let step := s.step c done (.declaration d) rest
    (∀ n ∈ gone step.dropsNext rest, n.isBlock = false) ∧
    Edits s sheetFile parent (some c) (before ++ .declaration d :: gone step.dropsNext rest)
      (step.placed.reverse ++ if step.dropsPrevious then done.tail else done).reverse (t + step.outcome.tally) := by
  intro step
  have nothing : ∀ n ∈ gone false rest, n.isBlock = false := fun _ none => by cases none
  cases candidate : s.isCandidate d with
  | false =>
    have plain : step = ⟨[.declaration d], false, false, .nothing⟩ := by simp [step, Settings.step, candidate]
    rw [plain]
    exact ⟨nothing, placed_edits earlier (leaf_edits rfl)⟩
  | true =>
    cases judged : Verdict.between done.head? rest.head? with
    | keepDroppingPrevious =>
      have kept : step = ⟨[.declaration d], true, false, ignored (.ignoredByPreceding d.prop)⟩ := by
        simp [step, Settings.step, candidate, judged]
      obtain ⟨m, here, marked⟩ := between_previous judged
      obtain ⟨older, rfl⟩ := List.head?_eq_some_iff.mp here
      rw [List.reverse_cons] at earlier
      have without := edits_remove earlier (.inl marked)
      rw [List.append_nil, add_comm] at without
      have placed : Edits s sheetFile parent (some c) (before ++ [.declaration d])
          ([Node.declaration d].reverse ++ older).reverse (t + .removal + 0) := placed_edits without (leaf_edits rfl)
      rw [kept]
      exact ⟨nothing, placed⟩
    | keepDroppingNext =>
      have kept : step = ⟨[.declaration d], false, true, ignored (.ignoredByTrailing d.prop)⟩ := by
        simp [step, Settings.step, candidate, judged]
      obtain ⟨m, here, marked, behind⟩ := between_next judged
      obtain ⟨later, rfl⟩ := List.head?_eq_some_iff.mp here
      rw [kept]
      refine ⟨?_, placed_edits earlier (.leaf rfl (.removed (.inr ⟨marked, behind⟩) .nil))⟩
      intro n member
      cases List.mem_singleton.mp member
      rfl
    | convert =>
      have settled : step = ⟨(s.place c (done ++ .declaration d :: rest) d).1, false, false,
          (s.place c (done ++ .declaration d :: rest) d).2⟩ := by
        simp [step, Settings.step, candidate, judged]
      rw [settled]
      exact ⟨nothing, placed_edits earlier (place_edits _ candidate)⟩
    | misplaced m =>
      have settled : step = ⟨(s.place c (done ++ .declaration d :: rest) d).1, false, false,
          warned c m ++ (s.place c (done ++ .declaration d :: rest) d).2⟩ := by
        simp [step, Settings.step, candidate, judged]
      have silent : (warned c m ++ (s.place c (done ++ .declaration d :: rest) d).2).tally =
          (s.place c (done ++ .declaration d :: rest) d).2.tally :=
        (tally_append _ _).trans (zero_add _)
      rw [settled]
      dsimp only
      rw [silent]
      exact ⟨nothing, placed_edits earlier (place_edits _ candidate)⟩

theorem node_edits (leafwise : Leafwise g) (below : Edits s sheetFile parent (some c) [n] [g n] k)
    (silent : n.isBlock = false → k = 0) (earlier : Edits s sheetFile parent (some c) before done.reverse t)
    (rest : List Node) :
    let step := s.step c done (g n) rest
    (∀ n ∈ gone step.dropsNext rest, n.isBlock = false) ∧
    Edits s sheetFile parent (some c) (before ++ n :: gone step.dropsNext rest)
      (step.placed.reverse ++ if step.dropsPrevious then done.tail else done).reverse (t + (step.outcome.tally + k)) := by
  intro step
  by_cases leaf : ∃ d, n = .declaration d
  · obtain ⟨d, rfl⟩ := leaf
    rw [silent rfl, add_zero]
    simp only [step, leafwise.declaration]
    exact declaration_edits earlier d rest
  · have plain : step = ⟨[g n], false, false, .nothing⟩ := by
      refine step_plain fun d here => leaf ⟨d, ?_⟩
      rw [← Node.declaration_exact, ← leafwise.declaration?, here]
      rfl
    have outcome : Outcome.nothing.tally + k = k := zero_add k
    rw [plain]
    dsimp only
    rw [outcome]
    exact ⟨fun _ none => (by cases none), placed_edits earlier below⟩

theorem convertNodesFrom_edits (leafwise : Leafwise g) (nodes : List Node)
    (below : ∀ n ∈ nodes, Edits s sheetFile parent (some c) [n] [g n] (k n))
    (silent : ∀ n, n.isBlock = false → k n = 0) (leaf : ∀ n ∈ gone dropped nodes, n.isBlock = false)
    (earlier : Edits s sheetFile parent (some c) (before ++ gone dropped nodes) done.reverse t) :
    Edits s sheetFile parent (some c) (before ++ nodes) (s.convertNodesFrom c done dropped (nodes.map g)).1
      (t + ((s.convertNodesFrom c done dropped (nodes.map g)).2.tally + (nodes.map k).sum)) := by
  induction nodes generalizing before done dropped t with
  | nil =>
    have earlier : Edits s sheetFile parent (some c) (before ++ []) done.reverse t := by
      cases dropped <;> exact earlier
    exact earlier
  | cons n rest ih =>
    have below' := fun m member => below m (List.mem_cons_of_mem _ member)
    rw [List.map_cons, List.map_cons, List.sum_cons, List.append_cons]
    cases dropped with
    | true =>
      have earlier : Edits s sheetFile parent (some c) (before ++ [n] ++ gone false rest) done.reverse t := by
        rw [gone, if_neg Bool.false_ne_true, List.append_nil]
        exact earlier
      rw [silent n (leaf n List.mem_cons_self), zero_add]
      exact ih below' (fun _ none => by cases none) earlier
    | false =>
      rw [gone, if_neg Bool.false_ne_true, List.append_nil] at earlier
      obtain ⟨leaf, edits⟩ := node_edits leafwise (below n List.mem_cons_self) (silent n) earlier (rest.map g)
      obtain ⟨same, leaf⟩ := leafwise.gone leaf
      rw [same, List.append_cons] at edits
      simp only [convertNodesFrom, Bool.false_eq_true, if_false, tally_append]
      rw [add_add_add_comm, ← add_assoc]
      exact ih below' leaf edits

theorem convertNodes_edits (leafwise : Leafwise g) (nodes : List Node)
    (below : ∀ n ∈ nodes, Edits s sheetFile parent (some c) [n] [g n] (k n))
    (silent : ∀ n, n.isBlock = false → k n = 0) : Edits s sheetFile parent (some c) nodes
      (s.convertNodes c (nodes.map g)).1 ((s.convertNodes c (nodes.map g)).2.tally + (nodes.map k).sum) := by
  have start : Edits s sheetFile parent (some c) ([] ++ gone false nodes) [].reverse 0 := .nil
  have edits := convertNodesFrom_edits leafwise nodes below silent (fun _ none => by cases none) start
  rwa [zero_add] at edits

theorem walkNodes_tally (s : Settings) (sheetFile : String) (parent : Option Parent) (nodes : List Node) :
    (s.walkNodes sheetFile parent nodes).2.tally = (nodes.map fun n => (s.walkNode sheetFile parent n).2.tally).sum := by
  induction nodes with
  | nil => rfl
  | cons n rest ih => rw [walkNodes, tally_append, ih, List.map_cons, List.sum_cons]

theorem leaf_silent (parent : Option Parent) (leaf : n.isBlock = false) :
    (s.walkNode sheetFile parent n).2.tally = 0 := by
  cases n with
  | rule | atRule => cases leaf
  | declaration | comment => rfl

theorem walkNodes_edits {nodes : List Node} (each : ∀ n ∈ nodes, Edits s sheetFile parent own [n]
      [(s.walkNode sheetFile parent n).1] (s.walkNode sheetFile parent n).2.tally) :
    Edits s sheetFile parent own nodes (s.walkNodes sheetFile parent nodes).1 (s.walkNodes sheetFile parent nodes).2.tally := by
  induction nodes with
  | nil => exact .nil
  | cons n rest ih =>
    exact edits_append (each n List.mem_cons_self) (ih fun m member => each m (List.mem_cons_of_mem _ member))

theorem convertRule_part (part : Met.takesPart s ⟨⟨selector, nodes, source⟩, fileOf sheetFile source, parent⟩ = true)
    (children : List Node) : s.convertRule sheetFile parent selector source children =
      s.convertNodes ⟨selector, fileOf sheetFile source, s.landscape && parent.any Parent.isLandscape⟩ children := by
  obtain ⟨taken, allowed⟩ := Bool.and_eq_true_iff.mp part
  have taken : s.standing (fileOf sheetFile source) selector = .taken := by simpa using taken
  simp only [convertRule, taken]
  exact if_pos allowed

theorem convertRule_apart (apart : Met.takesPart s ⟨⟨selector, nodes, source⟩, fileOf sheetFile source, parent⟩ = false)
    (children : List Node) : (s.convertRule sheetFile parent selector source children).1 = children ∧
      (s.convertRule sheetFile parent selector source children).2.tally = 0 ∧
      (s.convertRule sheetFile parent selector source children).2.warnings = [] := by
  unfold convertRule
  dsimp only
  split
  · exact ⟨rfl, rfl, rfl⟩
  · exact ⟨rfl, rfl, rfl⟩
  · rename_i taken
    split
    · rename_i allowed
      simp [Met.takesPart, taken, allowed] at apart
    · exact ⟨rfl, rfl, rfl⟩

theorem convertRule_edits {nodes : List Node} (each : ∀ own, ∀ n ∈ nodes, Edits s sheetFile none own [n]
      [(s.walkNode sheetFile none n).1] (s.walkNode sheetFile none n).2.tally) :
    let converted := s.convertRule sheetFile parent selector source (s.walkNodes sheetFile none nodes).1
    Edits s sheetFile none (Met.own? s ⟨⟨selector, nodes, source⟩, fileOf sheetFile source, parent⟩) nodes converted.1
      (converted.2.tally + (s.walkNodes sheetFile none nodes).2.tally) := by
  intro converted
  cases part : Met.takesPart s ⟨⟨selector, nodes, source⟩, fileOf sheetFile source, parent⟩ with
  | true =>
    simp only [converted, convertRule_part part, Met.own?, part, walkNodes_tally, walkNodes_map]
    exact convertNodes_edits (walk_leafwise s sheetFile none) nodes (each _) (fun n => leaf_silent none)
  | false =>
    obtain ⟨same, silent, -⟩ := convertRule_apart part (s.walkNodes sheetFile none nodes).1
    simp only [converted, same, silent, Met.own?, part]
    rw [zero_add]
    exact walkNodes_edits (each none)

theorem walkNode_edits (n : Node) : ∀ parent own, Edits s sheetFile parent own [n]
    [(s.walkNode sheetFile parent n).1] (s.walkNode sheetFile parent n).2.tally := by
  induction n using Node.induct with
  | declaration | comment => exact fun _ _ => leaf_edits rfl
  | atRule name params nodes source ih =>
    intro parent own
    exact .atRule (walkNodes_edits fun n member => ih n member _ none) .nil
  | rule selector nodes source ih =>
    intro parent own
    exact .rule (convertRule_edits fun own n member => ih n member none own) .nil

theorem run_edits (s : Settings) (sheet : Sheet) : Edits s sheet.fileName none none sheet.nodes
    (s.walkNodes sheet.fileName none sheet.nodes).1 (s.convertSheet sheet).report.outcome.tally := by
  rw [convertSheet_outcome]
  exact walkNodes_edits fun n _ => walkNode_edits n none none

-- The report tells how many edits there are of each kind; the blocks follow.
theorem convertSheet_edits (s : Settings) (sheet : Sheet) : ∃ walked blocks,
    (s.convertSheet sheet).sheet = ⟨sheet.file, walked ++ blocks⟩ ∧
    blocks.length = (s.convertSheet sheet).report.emitted.length ∧
    Edits s sheet.fileName none none sheet.nodes walked (s.convertSheet sheet).report.outcome.tally := by
  refine ⟨_, _, convertSheet_sheet s sheet, ?_, ?_⟩
  · rw [convertSheet_emitted, List.length_map, List.length_map]
  · exact run_edits s sheet

end Settings
end FluidSheet
