import FluidSheet.Proofs.Conversion.Markers

namespace FluidSheet

def occurrences (nodes : List Node) (prop value : String) : Nat := nodes.countP (·.isDeclarationOf prop value)

-- There are as many as before, or one where there was none.
def AddsOnce (before after : List Node) (prop value : String) : Prop :=
  occurrences after prop value = occurrences before prop value ∨
    (occurrences before prop value = 0 ∧ occurrences after prop value = 1)

theorem Node.isDeclarationOf_any (n : Node) :
    n.isDeclarationOf prop value = n.declaration?.any fun d => decide (d.prop = prop) && decide (d.value = value) := by
  cases n <;> rfl

namespace Settings
variable {s : Settings} {c : Context}

theorem stable_unwanted (target : s.targetIn? c prop = some t) (stable : s.convert t value = value)
    (same : e.prop = prop) (here : e.value = value) : s.wanted? c e = none := by
  rw [← Option.not_isSome_iff_eq_none, Option.isSome_iff_exists]
  rintro ⟨value', wanted⟩
  obtain ⟨_, t', target', converted, other⟩ := wanted_exact.mp wanted
  rw [same, target] at target'
  cases target'
  rw [here, stable] at converted
  exact other (converted.symm.trans here.symm)

def Upright (p : Pass) (rest : List Node) : Prop := p.dropped = true → ∀ d, rest.head? ≠ some (.declaration d)

theorem reach_upright (s : Settings) (c : Context) (before rest : List Node) :
    Upright (s.reach c ⟨[], false⟩ before rest) rest := by
  intro dropped d here
  obtain ⟨_, _, m, _, _, _, behind, _⟩ := (reach_tracks s c before rest).dropped.mp dropped
  cases here.symm.trans behind.1

theorem moves_upright (moves : Moves s c p n rest next) : Upright next rest := by
  intro dropped d here
  cases moves with
  | gone | passed | dropPrevious | settled => cases dropped
  | dropNext => cases here

theorem moves_present (moves : Moves s c p n rest next) (upright : Upright p (n :: rest))
    (unwanted : s.wanted? c e = none) (present : .declaration e ∈ p.done ++ n :: rest) :
    .declaration e ∈ next.done ++ rest := by
  cases moves with
  | gone =>
    have other : n ≠ .declaration e := fun same => upright rfl e (congrArg some same)
    simpa [other.symm] using present
  | passed | dropNext => simpa [or_left_comm] using present
  | dropPrevious => simpa [or_left_comm] using present
  | settled =>
    rename_i d _
    rw [List.append_assoc, List.mem_append, List.mem_reverse]
    rcases List.mem_append.mp present with early | late
    · exact .inr (List.mem_append_left _ early)
    · rcases List.mem_cons.mp late with here | later
      · cases here
        left
        rw [settle, unwanted]
        exact List.mem_singleton_self _
      · exact .inr (List.mem_append_right _ later)

theorem reach_present (upright : Upright p (before ++ after)) (unwanted : s.wanted? c e = none)
    (present : .declaration e ∈ p.done ++ (before ++ after)) : .declaration e ∈ (s.reach c p before after).done ++ after := by
  induction before generalizing p with
  | nil => exact present
  | cons n before ih =>
    have moves := advance_moves s c p n (before ++ after)
    exact ih (moves_upright moves) (moves_present moves upright unwanted present)

theorem advance_settled (candidate : s.isCandidate d = true) (unasked : ¬ Asked done.head?)
    (far : ∀ m, Behind rest.head? m → ¬ m.Near) : s.advance c ⟨done, false⟩ (.declaration d) rest =
      ⟨(s.settle c (done ++ .declaration d :: rest) d).reverse ++ done, false⟩ := by
  rcases between_cases done.head? rest.head? with
    ⟨asked, _⟩ | ⟨_, m, behind, near, _⟩ | ⟨_, m, _, _, judged⟩ | ⟨_, _, judged⟩
  · exact absurd asked unasked
  · exact absurd near (far m behind)
  · simp [advance, step, candidate, judged, place_settle candidate]
  · simp [advance, step, candidate, judged, place_settle candidate]

-- In its place, behind it or, where the conversion was dropped, in a sibling.
theorem settle_present (done rest : List Node) (candidate : s.isCandidate d = true)
    (target : s.targetIn? c d.prop = some t) :
    ∃ e, .declaration e ∈ (s.settle c (done ++ .declaration d :: rest) d).reverse ++ done ++ rest ∧
      e.prop = d.prop ∧ e.value = s.convert t d.value := by
  rcases settle_cases s c (done ++ .declaration d :: rest) d with ⟨settled, found⟩ | ⟨value, wanted, _, settled⟩
  · by_cases same : s.convert t d.value = d.value
    · exact ⟨d, by simp [settled], rfl, same.symm⟩
    · obtain ⟨e, sibling, prop, value⟩ := declares_exact.mp (found _ (wanted_exact.mpr ⟨candidate, t, target, rfl, same⟩))
      exact ⟨e, by simpa [settled, or_left_comm] using sibling, prop, value⟩
  · obtain ⟨_, t', target', converted, _⟩ := wanted_exact.mp wanted
    cases Option.some.inj (target.symm.trans target')
    exact ⟨d.withValue value, by simp [settled], rfl, converted.symm⟩

theorem convertNodes_present (candidate : s.isCandidate d = true) (unasked : ¬ Asked before.getLast?)
    (far : ∀ m, Behind after.head? m → ¬ m.Near) (target : s.targetIn? c d.prop = some t)
    (stable : s.convert t (s.convert t d.value) = s.convert t d.value) :
    declares (s.convertNodes c (before ++ .declaration d :: after)).1 d.prop (s.convert t d.value) = true := by
  have tracks := reach_tracks s c before (.declaration d :: after)
  have upright := reach_upright s c before (.declaration d :: after)
  rw [convertNodes_reach, reach_append, List.append_nil, reach, List.append_nil]
  generalize s.reach c ⟨[], false⟩ before (.declaration d :: after) = p at tracks upright
  obtain ⟨done, dropped⟩ := p
  cases dropped with
  | true => exact absurd rfl (upright rfl d)
  | false =>
    have moved := advance_settled (c := c) candidate (mt tracks.asked.mp unasked) far
    obtain ⟨e, here, prop, value⟩ := settle_present done after candidate target
    have unwanted := stable_unwanted target stable prop value
    have upright' : Upright (s.advance c ⟨done, false⟩ (.declaration d) after) (after ++ []) := by
      rw [List.append_nil]
      exact moves_upright (advance_moves s c ⟨done, false⟩ (.declaration d) after)
    have present := reach_present (s := s) (c := c) upright' unwanted (by rwa [moved, List.append_nil])
    rw [List.append_nil] at present
    exact declares_exact.mpr ⟨e, List.mem_reverse.mpr present, prop, value⟩

theorem occurrences_append (as bs : List Node) (prop value : String) :
    occurrences (as ++ bs) prop value = occurrences as prop value + occurrences bs prop value := List.countP_append

theorem occurrences_reverse (as : List Node) (prop value : String) :
    occurrences as.reverse prop value = occurrences as prop value := List.countP_reverse

theorem occurrences_other (other : n.declaration? = none) (rest : List Node) (prop value : String) :
    occurrences (n :: rest) prop value = occurrences rest prop value := by
  apply List.countP_cons_of_neg
  rw [Node.isDeclarationOf_any, other]
  exact Bool.false_ne_true

theorem occurrences_move (n : Node) (as bs : List Node) (prop value : String) :
    occurrences (n :: as ++ bs) prop value = occurrences (as ++ n :: bs) prop value :=
  List.perm_middle.symm.countP_eq _

theorem undeclared_occurrences : declares nodes prop value = false ↔ occurrences nodes prop value = 0 := by
  rw [declares, occurrences, List.any_eq_false, List.countP_eq_zero]

-- A copy is put in only where there is no declaration like it.
theorem settle_adds (insert : s.replace = false) (c : Context) (done rest : List Node) (d : Declaration)
    (prop value : String) : AddsOnce (done ++ .declaration d :: rest)
      ((s.settle c (done ++ .declaration d :: rest) d).reverse ++ done ++ rest) prop value := by
  rcases settle_cases s c (done ++ .declaration d :: rest) d with ⟨settled, _⟩ | ⟨converted, wanted, free, settled⟩
  · rw [settled]
    exact .inl (occurrences_move ..)
  · rw [insert] at settled
    have placed : (s.settle c (done ++ .declaration d :: rest) d).reverse ++ done ++ rest =
        .declaration (d.withValue converted) :: (.declaration d :: done ++ rest) := by
      rw [settled]
      rfl
    rw [placed]
    by_cases same : (Node.declaration (d.withValue converted)).isDeclarationOf prop value = true
    · obtain ⟨prop', value'⟩ := Bool.and_eq_true_iff.mp same
      cases of_decide_eq_true prop'
      cases of_decide_eq_true value'
      have none := undeclared_occurrences.mp free
      refine .inr ⟨none, ?_⟩
      rw [occurrences, List.countP_cons_of_pos same]
      exact congrArg (· + 1) ((occurrences_move ..).trans none)
    · left
      rw [occurrences, List.countP_cons_of_neg same]
      exact occurrences_move ..

theorem moves_adds (moves : Moves s c p n rest next) (insert : s.replace = false) (upright : Upright p (n :: rest))
    (prop value : String) : AddsOnce (p.done ++ n :: rest) (next.done ++ rest) prop value := by
  cases moves with
  | @gone done =>
    left
    have other : n.declaration? = none := by
      rw [Option.eq_none_iff_forall_ne_some]
      intro d found
      exact upright rfl d (congrArg some (Node.declaration_exact.mp found))
    rw [← occurrences_move, List.cons_append, occurrences_other other]
  | passed | dropNext => exact .inl (occurrences_move ..)
  | @dropPrevious d m done =>
    left
    rw [occurrences_move, List.cons_append, occurrences_other rfl]
  | settled => exact settle_adds insert ..

theorem adds_trans (first : AddsOnce as bs prop value) (second : AddsOnce bs cs prop value) :
    AddsOnce as cs prop value := by
  unfold AddsOnce at *
  omega

theorem reach_adds (insert : s.replace = false) (upright : Upright p (before ++ after)) (prop value : String) :
    AddsOnce (p.done ++ (before ++ after)) ((s.reach c p before after).done ++ after) prop value := by
  induction before generalizing p with
  | nil => exact .inl rfl
  | cons n before ih =>
    have moves := advance_moves s c p n (before ++ after)
    exact adds_trans (moves_adds moves insert upright prop value) (ih (moves_upright moves))

theorem siblings_occurrences (s : Settings) (c : Context) (before rest : List Node) (prop value : String) :
    occurrences (s.siblingsAt c before rest) prop value =
      occurrences ((s.reach c ⟨[], false⟩ before rest).done ++ rest) prop value := by
  rw [siblingsAt, occurrences_append, occurrences_reverse, ← occurrences_append]

theorem node_adds (insert : s.replace = false) (c : Context) (before : List Node) (n : Node) (after : List Node)
    (prop value : String) :
    AddsOnce (s.siblingsAt c before (n :: after)) (s.siblingsAt c (before ++ [n]) after) prop value := by
  unfold AddsOnce
  rw [siblings_occurrences, siblings_occurrences, reach_append]
  exact moves_adds (advance_moves ..) insert (reach_upright s c before (n :: after)) prop value

theorem convertNodes_adds (insert : s.replace = false) (c : Context) (nodes : List Node) (prop value : String) :
    AddsOnce nodes (s.convertNodes c nodes).1 prop value := by
  have upright : Upright ⟨[], false⟩ (nodes ++ []) := fun impossible => by cases impossible
  have adds := reach_adds (c := c) insert upright prop value
  unfold AddsOnce at adds ⊢
  rw [List.nil_append, List.append_nil, List.append_nil] at adds
  rwa [convertNodes_reach, occurrences_reverse]

theorem occurrences_leafwise (leafwise : Leafwise g) (nodes : List Node) (prop value : String) :
    occurrences (nodes.map g) prop value = occurrences nodes prop value := by
  rw [occurrences, List.countP_map]
  congr 1
  funext n
  rw [Function.comp_apply, Node.isDeclarationOf_any, Node.isDeclarationOf_any, leafwise.declaration?]

-- There are as many of each copy as before, or one where there was none.
theorem convertSheet_presence (s : Settings) (sheet : Sheet) (rank : Nat) (m : Met) (met : sheet.met[rank]? = some m)
    (part : m.takesPart s = true) : ∃ nodes,
      (s.convertSheet sheet).sheet.met[rank]? = some { m with rule := { m.rule with nodes } } ∧
      (∀ before d after t, m.rule.nodes = before ++ .declaration d :: after → s.isCandidate d = true →
        ¬ Asked before.getLast? → (∀ m', Behind after.head? m' → ¬ m'.Near) →
        s.targetIn? (m.context s) d.prop = some t → s.convert t (s.convert t d.value) = s.convert t d.value →
        declares nodes d.prop (s.convert t d.value) = true) ∧
      (s.replace = false → ∀ prop value, AddsOnce m.rule.nodes nodes prop value ∧
        ∀ before n after, m.rule.nodes = before ++ n :: after →
          AddsOnce (s.siblingsAt (m.context s) before (n :: after)) (s.siblingsAt (m.context s) (before ++ [n]) after)
            prop value) := by
  have leafwise := walk_leafwise s sheet.fileName none
  have nodes : (s.walkNodes sheet.fileName none (m.converted s)).1 =
      (s.convertNodes (m.context s) m.rule.nodes).1.map fun n => (s.walkNode sheet.fileName none n).1 := by
    rw [walkNodes_map, Met.converted, if_pos part]
  refine ⟨_, convertSheet_met s sheet rank met, ?_, ?_⟩
  · intro before d after t children candidate unasked far target stable
    rw [nodes, declares_congr fun e => leafwise.mem_declaration, children]
    exact convertNodes_present candidate unasked far target stable
  · intro insert prop value
    refine ⟨?_, fun before n after _ => node_adds insert (m.context s) before n after prop value⟩
    have adds := convertNodes_adds insert (m.context s) m.rule.nodes prop value
    rw [nodes]
    unfold AddsOnce at adds ⊢
    rwa [occurrences_leafwise leafwise]

theorem convertSheet_presence_copies :
    let s : Settings := { standard with replace := false }
    let m : Met := ⟨⟨".a", [.declaration (.of "width" "100px"), .declaration (.of "width" "100px")], none⟩, "", none⟩
    ∃ nodes, (s.convertSheet ⟨none, [m.rule.node]⟩).sheet.met[0]? = some { m with rule := { m.rule with nodes } } ∧
      declares nodes "width" "31.25vw" = true ∧ AddsOnce m.rule.nodes nodes "width" "31.25vw" := by
  intro s m
  obtain ⟨nodes, met, present, adds⟩ := convertSheet_presence s ⟨none, [m.rule.node]⟩ 0 m rfl (by decide +kernel)
  have value : s.convert ⟨"vw", 320, 5, 1⟩ "100px" = "31.25vw" := by decide +kernel
  have here := present [] (.of "width" "100px") [.declaration (.of "width" "100px")] ⟨"vw", 320, 5, 1⟩ rfl
    (by decide +kernel) (by rintro ⟨_, none, _⟩; cases none) (by rintro _ ⟨next, _⟩; cases next) (by decide +kernel)
    (by decide +kernel)
  exact ⟨nodes, met, value ▸ here, (adds rfl "width" "31.25vw").1⟩

end Settings
end FluidSheet
