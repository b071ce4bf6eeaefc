import FluidSheet.Proofs.Conversion.Walk

-- What a first run leaves to convert has its answer among the siblings, so that nothing moves again.

namespace FluidSheet

structure Outcome.Idle (o : Outcome) : Prop where
  converted : o.converted = 0
  inserted : o.inserted = 0
  ignored : o.ignored = 0

theorem idle_append {a b : Outcome} (first : a.Idle) (second : b.Idle) : (a ++ b).Idle := by
  obtain ⟨converted, inserted, ignored⟩ := first
  obtain ⟨converted', inserted', ignored'⟩ := second
  refine ⟨?_, ?_, ?_⟩
  · change a.converted + b.converted = 0
    rw [converted, converted']
  · change a.inserted + b.inserted = 0
    rw [inserted, inserted']
  · change a.ignored + b.ignored = 0
    rw [ignored, ignored']

namespace Settings
variable {s : Settings} {c : Context}

-- Converting the converted value once more changes nothing.
def Stable (s : Settings) (c : Context) (d : Declaration) : Prop :=
  ∀ t, s.targetIn? c d.prop = some t → s.convert t (s.convert t d.value) = s.convert t d.value

-- Every conversion still to make would only repeat a sibling.
def AtRest (s : Settings) (c : Context) (nodes : List Node) : Prop :=
  ∀ d value, .declaration d ∈ nodes → s.wanted? c d = some value → declares nodes d.prop value = true

theorem wanted_congr (prop : d.prop = e.prop) (value : d.value = e.value) : s.wanted? c d = s.wanted? c e := by
  unfold wanted? isCandidate
  rw [prop, value]

theorem stable_once (stable : s.Stable c d) (wanted : s.wanted? c d = some value) :
    s.wanted? c (d.withValue value) = none := by
  obtain ⟨_, t, target, rfl, _⟩ := wanted_exact.mp wanted
  rw [← Option.not_isSome_iff_eq_none, Option.isSome_iff_exists]
  rintro ⟨again, wanted'⟩
  obtain ⟨_, t', target', rfl, other⟩ := wanted_exact.mp wanted'
  cases Option.some.inj (target.symm.trans target')
  exact other (stable t target)

theorem stable_settled (stable : s.Stable c d) (wanted : s.wanted? c d = some value) :
    s.Stable c (d.withValue value) := by
  obtain ⟨_, t, target, rfl, _⟩ := wanted_exact.mp wanted
  intro t' target'
  cases Option.some.inj (target.symm.trans target')
  exact congrArg (s.convert t) (stable t target)

theorem place_answered (answered : ∀ value, s.wanted? c d = some value → declares siblings d.prop value = true)
    (candidate : s.isCandidate d = true) :
    (s.place c siblings d).1 = [.declaration d] ∧ (s.place c siblings d).2.Idle := by
  unfold place
  cases target : s.targetIn? c d.prop with
  | none => exact ⟨rfl, rfl, rfl, rfl⟩
  | some t =>
    by_cases same : s.convert t d.value = d.value
    · simp only [same, if_true]
      exact ⟨trivial, rfl, rfl, rfl⟩
    · have found := answered _ (wanted_exact.mpr ⟨candidate, t, target, rfl, same⟩)
      simp only [same, if_false, found, if_true]
      exact ⟨trivial, rfl, rfl, rfl⟩

theorem step_answered (unmarked : Unmarked (done ++ n :: rest))
    (answered : ∀ d value, n = .declaration d → s.wanted? c d = some value →
      declares (done ++ n :: rest) d.prop value = true) :
    ∃ outcome, s.step c done n rest = ⟨[n], false, false, outcome⟩ ∧ outcome.Idle := by
  cases n with
  | rule | atRule | comment => exact ⟨_, rfl, rfl, rfl, rfl⟩
  | declaration d =>
    cases candidate : s.isCandidate d with
    | false => exact ⟨.nothing, by simp [step, candidate], rfl, rfl, rfl⟩
    | true =>
      obtain ⟨placed, idle⟩ := place_answered (fun value => answered d value rfl) candidate
      exact ⟨_, by simp only [step, candidate, between_unmarked unmarked, placed]; rfl, idle⟩

theorem convertNodesFrom_rest (done : List Node) (unmarked : Unmarked (done ++ nodes))
    (answered : ∀ d value, .declaration d ∈ nodes → s.wanted? c d = some value →
      declares (done ++ nodes) d.prop value = true) :
    (s.convertNodesFrom c done false nodes).1 = done.reverse ++ nodes ∧ (s.convertNodesFrom c done false nodes).2.Idle := by
  induction nodes generalizing done with
  | nil => exact ⟨(List.append_nil _).symm, rfl, rfl, rfl⟩
  | cons n rest ih =>
    obtain ⟨outcome, moved, idle⟩ := step_answered (s := s) (c := c) unmarked
      (fun d value same => answered d value (by simp [same]))
    have moving : ∀ m, m ∈ n :: done ++ rest ↔ m ∈ done ++ n :: rest := by
      intro m
      simp only [List.cons_append, List.mem_append, List.mem_cons]
      exact or_left_comm
    obtain ⟨left, later⟩ := ih (n :: done) (fun m member => unmarked m ((moving m).mp member)) (by
      intro d value member wanted
      rw [declares_congr (fun e => moving _)]
      exact answered d value (List.mem_cons_of_mem _ member) wanted)
    simp only [convertNodesFrom, moved, Bool.false_eq_true, if_false, List.reverse_singleton, List.singleton_append]
    exact ⟨left.trans (by simp), idle_append idle later⟩

theorem convertNodes_rest (unmarked : Unmarked nodes) (rest : s.AtRest c nodes) :
    (s.convertNodes c nodes).1 = nodes ∧ (s.convertNodes c nodes).2.Idle :=
  convertNodesFrom_rest [] unmarked rest

-- By stability the value of the answer is one that conversion keeps.
theorem answer_kept (stable : s.Stable c e) (wanted : s.wanted? c e = some value) (prop : d.prop = e.prop)
    (here : d.value = value) : s.wanted? c d = none := by
  rw [← stable_once stable wanted]
  exact wanted_congr prop here

theorem settle_answers (stable : ∀ e, .declaration e ∈ done ++ .declaration d :: rest → s.Stable c e)
    (answered : ∀ e value, .declaration e ∈ done → s.wanted? c e = some value →
      declares (done ++ .declaration d :: rest) e.prop value = true) :
    ∀ e value, .declaration e ∈ (s.settle c (done ++ .declaration d :: rest) d).reverse ++ done →
      s.wanted? c e = some value →
      declares ((s.settle c (done ++ .declaration d :: rest) d).reverse ++ done ++ rest) e.prop value = true := by
  intro e value member wanted
  rcases settle_cases s c (done ++ .declaration d :: rest) d with ⟨settled, found⟩ | ⟨value', wanted', _, settled⟩
  · rw [settled] at member ⊢
    have same : declares ([.declaration d].reverse ++ done ++ rest) e.prop value =
        declares (done ++ .declaration d :: rest) e.prop value := declares_congr fun x => by simp [or_left_comm]
    rw [same]
    rcases List.mem_append.mp member with here | old
    · cases List.mem_singleton.mp here
      exact found value wanted
    · exact answered e value old wanted
  · rw [settled] at member ⊢
    rcases List.mem_append.mp member with here | old
    · rcases List.mem_append.mp (List.mem_reverse.mp here) with kept | new
      · split at kept
        · cases kept
        · cases List.mem_singleton.mp kept
          cases Option.some.inj (wanted'.symm.trans wanted)
          exact declares_exact.mpr ⟨d.withValue value, by simp, rfl, rfl⟩
      · cases List.mem_singleton.mp new
        rw [stable_once (stable d (by simp)) wanted'] at wanted
        cases wanted
    · obtain ⟨x, place, prop, same⟩ := declares_exact.mp (answered e value old wanted)
      have other : x ≠ d := by
        rintro rfl
        rw [answer_kept (stable e (by simp [old])) wanted prop same] at wanted'
        cases wanted'
      refine declares_exact.mpr ⟨x, ?_, prop, same⟩
      rcases List.mem_append.mp place with before | after
      · simp [before]
      · rcases List.mem_cons.mp after with here | later
        · cases here
          exact absurd rfl other
        · simp [later]

theorem advance_answers (stable : ∀ e, .declaration e ∈ done ++ n :: rest → s.Stable c e)
    (answered : ∀ e value, .declaration e ∈ done → s.wanted? c e = some value →
      declares (done ++ n :: rest) e.prop value = true) :
    ∀ e value, .declaration e ∈ (s.settleNode c (done ++ n :: rest) n).reverse ++ done →
      s.wanted? c e = some value →
      declares ((s.settleNode c (done ++ n :: rest) n).reverse ++ done ++ rest) e.prop value = true := by
  cases n with
  | declaration d => exact settle_answers stable answered
  | rule | atRule | comment =>
    intro e value member wanted
    rcases List.mem_append.mp member with here | old
    · cases List.mem_singleton.mp here
    · obtain ⟨x, place, prop, same⟩ := declares_exact.mp (answered e value old wanted)
      exact declares_exact.mpr ⟨x, by simpa [settleNode] using place, prop, same⟩

theorem convertNodes_answers (unmarked : Unmarked nodes) (stable : ∀ d, .declaration d ∈ nodes → s.Stable c d) :
    s.AtRest c (s.convertNodes c nodes).1 := by
  let I : Pass → List Node → Prop := fun p rest =>
    p.dropped = false ∧ Unmarked (p.done ++ rest) ∧ (∀ d, .declaration d ∈ p.done ++ rest → s.Stable c d) ∧
      ∀ d value, .declaration d ∈ p.done → s.wanted? c d = some value → declares (p.done ++ rest) d.prop value = true
  have kept : ∀ p n rest, I p (n :: rest) → I (s.advance c p n rest) rest := by
    rintro ⟨done, dropped⟩ n rest ⟨fresh, unmarked, stable, answered⟩
    cases fresh
    rw [advance_unmarked unmarked]
    refine ⟨rfl, unmarked_settle _ unmarked, ?_, advance_answers stable answered⟩
    intro d member
    rcases List.mem_append.mp member with early | late
    · rcases List.mem_append.mp early with new | old
      · exact settleNode_all (fun n => ∀ d, n = .declaration d → s.Stable c d)
          (fun d value wanted holds e same => by cases same; exact stable_settled (holds d rfl) wanted)
          (fun d same => stable d (by simp [same])) _ (List.mem_reverse.mp new) d rfl
      · exact stable d (by simp [old])
    · exact stable d (by simp [late])
  obtain ⟨-, -, -, answered⟩ : I (s.reach c ⟨[], false⟩ nodes []) [] :=
    reach_keeps I kept ⟨rfl, by simpa using unmarked, by simpa using stable, by simp⟩
  rw [convertNodes_reach]
  intro d value member wanted
  have same : declares (s.reach c ⟨[], false⟩ nodes []).done.reverse d.prop value =
      declares ((s.reach c ⟨[], false⟩ nodes []).done ++ []) d.prop value := declares_congr fun x => by simp
  rw [same]
  exact answered d value (List.mem_reverse.mp member) wanted

end Settings

namespace Met

-- No marker, and no value that conversion would change twice, where conversion looks.
structure Calm (s : Settings) (m : Met) : Prop where
  unmarked : Unmarked m.rule.nodes
  stable : ∀ d, .declaration d ∈ m.rule.nodes → s.Stable (m.context s) d

structure Idle (s : Settings) (m : Met) : Prop where
  unmarked : Unmarked m.rule.nodes
  rest : s.AtRest (m.context s) m.rule.nodes

end Met

namespace Settings
variable {s : Settings} {c : Context}

theorem rest_leafwise (leafwise : Leafwise g) (rest : s.AtRest c nodes) : s.AtRest c (nodes.map g) := by
  intro d value member wanted
  rw [declares_congr (fun e => leafwise.mem_declaration)]
  exact rest d value (leafwise.mem_declaration.mp member) wanted

theorem walked_idle (sheetFile : String) (part : m.takesPart s = true) (calm : Met.Calm s m) :
    Met.Idle s (m.walked s sheetFile) := by
  have leafwise := walk_leafwise s sheetFile none
  have unmarked : Unmarked (s.convertNodes (m.context s) m.rule.nodes).1 :=
    convertNodes_all (fun n => n.isMarker = false) (fun _ _ _ _ => rfl) calm.unmarked
  have nodes : (m.walked s sheetFile).rule.nodes =
      (s.convertNodes (m.context s) m.rule.nodes).1.map fun n => (s.walkNode sheetFile none n).1 := by
    rw [Met.walked, walkNodes_map, Met.converted, if_pos part]
  refine ⟨?_, ?_⟩
  · rw [nodes]
    exact leafwise.unmarked unmarked
  · rw [nodes]
    exact rest_leafwise leafwise (convertNodes_answers calm.unmarked calm.stable)

theorem convertRule_idle (idle : Met.takesPart s ⟨⟨selector, nodes, source⟩, fileOf sheetFile source, parent⟩ = true →
      Met.Idle s ⟨⟨selector, nodes, source⟩, fileOf sheetFile source, parent⟩) :
    (s.convertRule sheetFile parent selector source nodes).1 = nodes ∧
      (s.convertRule sheetFile parent selector source nodes).2.Idle := by
  unfold convertRule
  dsimp only
  split
  · exact ⟨rfl, rfl, rfl, rfl⟩
  · exact ⟨rfl, rfl, rfl, rfl⟩
  · rename_i standing
    split
    · rename_i allowed
      obtain ⟨unmarked, rest⟩ := idle (by simp [Met.takesPart, standing, allowed])
      exact convertNodes_rest unmarked rest
    · exact ⟨rfl, rfl, rfl, rfl⟩

theorem walkNodes_idle (nodes : List Node)
    (idle : ∀ n ∈ nodes, (s.walkNode sheetFile parent n).1 = n ∧ (s.walkNode sheetFile parent n).2.Idle) :
    (s.walkNodes sheetFile parent nodes).1 = nodes ∧ (s.walkNodes sheetFile parent nodes).2.Idle := by
  induction nodes with
  | nil => exact ⟨rfl, rfl, rfl, rfl⟩
  | cons n rest ih =>
    obtain ⟨here, quiet⟩ := idle n List.mem_cons_self
    obtain ⟨after, later⟩ := ih fun m member => idle m (List.mem_cons_of_mem _ member)
    simp only [walkNodes, here, after]
    exact ⟨trivial, idle_append quiet later⟩

theorem walkNode_idle (n : Node) : ∀ parent, (∀ m ∈ metIn sheetFile parent n, m.takesPart s = true → Met.Idle s m) →
    (s.walkNode sheetFile parent n).1 = n ∧ (s.walkNode sheetFile parent n).2.Idle := by
  induction n using Node.induct with
  | declaration | comment => exact fun _ _ => ⟨rfl, rfl, rfl, rfl⟩
  | atRule name params nodes source ih =>
    intro parent idle
    obtain ⟨same, quiet⟩ := walkNodes_idle nodes (fun n member => ih n member _ fun m met => idle m (by
      rw [metIn, metAmong_flatMap]
      exact List.mem_flatMap.mpr ⟨n, member, met⟩))
    exact ⟨by rw [walkNode]; simp only [same], quiet⟩
  | rule selector nodes source ih =>
    intro parent idle
    obtain ⟨same, quiet⟩ := walkNodes_idle nodes (fun n member => ih n member _ fun m met => idle m (by
      rw [metIn, metAmong_flatMap]
      exact List.mem_cons_of_mem _ (List.mem_flatMap.mpr ⟨n, member, met⟩)))
    obtain ⟨own, still⟩ := convertRule_idle (idle _ List.mem_cons_self)
    refine ⟨?_, ?_⟩
    · simp only [walkNode, same, own]
    · simp only [walkNode, same]
      exact idle_append still quiet

theorem walkNodes_again (calm : ∀ m ∈ metAmong sheetFile parent nodes, m.takesPart s = true → m.Calm s) :
    (s.walkNodes sheetFile parent (s.walkNodes sheetFile parent nodes).1).1 = (s.walkNodes sheetFile parent nodes).1 ∧
      (s.walkNodes sheetFile parent (s.walkNodes sheetFile parent nodes).1).2.Idle := by
  apply walkNodes_idle
  intro n member
  apply walkNode_idle
  intro m met part
  have below : m ∈ metAmong sheetFile parent (s.walkNodes sheetFile parent nodes).1 := by
    rw [metAmong_flatMap]
    exact List.mem_flatMap.mpr ⟨n, member, met⟩
  rw [metAmong_walk] at below
  obtain ⟨m, before, rfl⟩ := List.mem_map.mp below
  exact walked_idle sheetFile part (calm m before part)

-- Without breakpoints a second run finds everything done.
theorem convertSheet_again (s : Settings) (sheet : Sheet) (landscape : s.landscape = false)
    (designs : s.multiDesign = false) (calm : ∀ m ∈ sheet.met, m.takesPart s = true → m.Calm s) :
    let first := s.convertSheet sheet
    let second := s.convertSheet first.sheet
    second.sheet = first.sheet ∧ second.report.outcome.converted = 0 ∧ second.report.outcome.inserted = 0 ∧
      second.report.outcome.ignored = 0 ∧ second.report.emitted = [] := by
  have blockless : ∀ sources, s.blocks sources = [] := by
    intro sources
    simp [blocks, breakpoints, landscapeBreakpoint, designBreakpoints, landscape, designs]
  obtain ⟨same, ⟨converted, inserted, ignored⟩⟩ := walkNodes_again calm
  simp only [convertSheet_staged, staged, Conversion.of, blockless, List.map_nil, List.append_nil]
  exact ⟨congrArg (Sheet.mk sheet.file) same, converted, inserted, ignored, trivial⟩

theorem convertSheet_again_copies :
    let s : Settings := { standard with replace := false }
    let sheet : Sheet := ⟨none, [.rule ".a" [.declaration (.of "width" "100px")] none]⟩
    let first := s.convertSheet sheet
    let second := s.convertSheet first.sheet
    first.sheet.nodes =
        [.rule ".a" [.declaration (.of "width" "100px"), .declaration (.of "width" "31.25vw")] none] ∧
      second.sheet = first.sheet ∧ second.report.outcome.converted = 0 ∧ second.report.outcome.inserted = 0 ∧
      second.report.outcome.ignored = 0 ∧ second.report.emitted = [] := by
  intro s sheet
  refine ⟨by decide +kernel, convertSheet_again s sheet rfl rfl ?_⟩
  intro m met _
  cases List.mem_singleton.mp met
  refine ⟨by decide +kernel, ?_⟩
  intro d member t target
  cases List.mem_singleton.mp member
  have fixed : t = ⟨"vw", 320, 5, 1⟩ := Option.some.inj (target.symm.trans (by decide +kernel))
  rw [fixed]
  decide +kernel

end Settings
end FluidSheet
