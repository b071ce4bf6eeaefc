import FluidSheet.Proofs.Conversion.Walk

namespace FluidSheet

def named (prop : String) (nodes : List Node) : List Declaration :=
  (nodes.filterMap Node.declaration?).filter (·.prop = prop)

-- The last important declaration of a property or, where none is important, the last of all.
def winner? (prop : String) (nodes : List Node) : Option Declaration :=
  ((named prop nodes).filter (·.important)).getLast?.or (named prop nodes).getLast?

structure Wins (before : List Node) (d : Declaration) (after : List Node) : Prop where
  ahead : d.important = false → ∀ e, .declaration e ∈ before → e.prop = d.prop → e.important = false
  behind : ∀ e, .declaration e ∈ after → e.prop = d.prop → d.important = true ∧ e.important = false

theorem last_exact (P : Declaration → Bool) (nodes : List Node) :
    ((nodes.filterMap Node.declaration?).filter P).getLast? = some d ↔
      ∃ before after, nodes = before ++ .declaration d :: after ∧ P d = true ∧
        ∀ e, .declaration e ∈ after → P e = false := by
  rw [List.filter_filterMap, List.getLast?_filterMap, List.findSome?_eq_some_iff]
  constructor
  · rintro ⟨after, n, before, children, found, none⟩
    obtain ⟨here, wanted⟩ := Option.filter_eq_some_iff.mp found
    cases Node.declaration_exact.mp here
    refine ⟨before.reverse, after.reverse, ?_, wanted, ?_⟩
    · rw [← List.reverse_reverse nodes, children]
      simp
    · intro e member
      simpa [Node.declaration?] using none _ (List.mem_reverse.mp member)
  · rintro ⟨before, after, rfl, wanted, none⟩
    refine ⟨after.reverse, .declaration d, before.reverse, by simp, by simp [Node.declaration?, wanted], ?_⟩
    intro n member
    rw [List.mem_reverse] at member
    cases n with
    | declaration e => simpa [Node.declaration?] using none e member
    | rule | atRule | comment => rfl

theorem named_important (prop : String) (nodes : List Node) : (named prop nodes).filter (·.important) =
    (nodes.filterMap Node.declaration?).filter (fun e => e.important && e.prop = prop) := by
  rw [named, List.filter_filter]

theorem mem_named : e ∈ named prop nodes ↔ .declaration e ∈ nodes ∧ e.prop = prop := by
  rw [named, List.mem_filter, Node.mem_declarations, decide_eq_true_eq]

theorem winner_place (wins : winner? prop nodes = some d) :
    ∃ before after, nodes = before ++ .declaration d :: after ∧ d.prop = prop ∧ Wins before d after := by
  unfold winner? at wins
  cases found : ((named prop nodes).filter (·.important)).getLast? with
  | some e =>
    rw [found, Option.some_or] at wins
    cases wins
    rw [named_important] at found
    obtain ⟨before, after, children, wanted, none⟩ := (last_exact _ _).mp found
    obtain ⟨weighty, same⟩ : d.important = true ∧ d.prop = prop := by simpa using wanted
    refine ⟨before, after, children, same, ⟨?_, ?_⟩⟩
    · intro light
      rw [weighty] at light
      cases light
    · intro e member alike
      refine ⟨weighty, ?_⟩
      have light := none e member
      rw [Bool.and_eq_false_iff] at light
      exact light.resolve_right (by simp [alike, same])
  | none =>
    rw [found, Option.none_or] at wins
    obtain ⟨before, after, children, wanted, none⟩ := (last_exact _ _).mp wins
    have same : d.prop = prop := by simpa using wanted
    rw [List.getLast?_eq_none_iff, List.filter_eq_nil_iff] at found
    refine ⟨before, after, children, same, ⟨?_, ?_⟩⟩
    · intro _ e member alike
      simpa using found e (mem_named.mpr ⟨by simp [children, member], alike.trans same⟩)
    · intro e member alike
      have other := none e member
      simp [alike, same] at other

theorem place_winner (wins : Wins before d after) : winner? d.prop (before ++ .declaration d :: after) = some d := by
  unfold winner?
  cases weight : d.important with
  | true =>
    rw [named_important, (last_exact _ _).mpr ⟨before, after, rfl, by simp [weight], ?_⟩, Option.some_or]
    intro e member
    by_cases alike : e.prop = d.prop
    · simp [(wins.behind e member alike).2]
    · simp [alike]
  | false =>
    have none : ∀ e, .declaration e ∈ after → e.prop ≠ d.prop := by
      intro e member alike
      have weighty := (wins.behind e member alike).1
      rw [weight] at weighty
      cases weighty
    have light : (named d.prop (before ++ .declaration d :: after)).filter (·.important) = [] := by
      rw [List.filter_eq_nil_iff]
      intro e member
      obtain ⟨member, alike⟩ := mem_named.mp member
      rcases List.mem_append.mp member with above | below
      · simp [wins.ahead weight e above alike]
      · rcases List.mem_cons.mp below with here | after
        · cases here
          simp [weight]
        · exact absurd alike (none e after)
    rw [light, List.getLast?_nil, Option.none_or]
    exact (last_exact _ _).mpr ⟨before, after, rfl, by simp, fun e member => by simpa using none e member⟩

theorem winner_exact : winner? prop nodes = some d ↔
    ∃ before after, nodes = before ++ .declaration d :: after ∧ d.prop = prop ∧ Wins before d after := by
  constructor
  · exact winner_place
  · rintro ⟨before, after, rfl, rfl, wins⟩
    exact place_winner wins

theorem winner_leafwise (leafwise : Leafwise g) : winner? prop (nodes.map g) = winner? prop nodes := by
  unfold winner? named
  rw [leafwise.declarations]

namespace Settings
variable {s : Settings} {c : Context}

-- The children as they stand when the loop comes to those of `rest`.
def siblingsAt (s : Settings) (c : Context) (before rest : List Node) : List Node :=
  (s.reach c ⟨[], false⟩ before rest).done.reverse ++ rest

-- Nothing has the value already when the loop comes to the declaration that wins.
def Vacant (s : Settings) (c : Context) (nodes : List Node) (d : Declaration) (value : String) : Prop :=
  ∀ before after, nodes = before ++ .declaration d :: after → Wins before d after →
    declares (s.siblingsAt c before (.declaration d :: after)) d.prop value = false

theorem settle_vacant (siblings : List Node) (candidate : s.isCandidate d = true) (target : s.targetIn? c d.prop = some t)
    (vacant : s.convert t d.value ≠ d.value → declares siblings d.prop (s.convert t d.value) = false) :
    ∃ kept, s.settle c siblings d = kept ++ [.declaration (d.withValue (s.convert t d.value))] ∧
      (kept = [] ∨ kept = [.declaration d]) := by
  by_cases same : s.convert t d.value = d.value
  · refine ⟨[], ?_, .inl rfl⟩
    simp [settle, wanted?, candidate, target, same, Declaration.withValue]
  · have wanted : s.wanted? c d = some (s.convert t d.value) := wanted_exact.mpr ⟨candidate, t, target, rfl, same⟩
    rcases settle_cases s c siblings d with ⟨_, found⟩ | ⟨value, wanted', _, settled⟩
    · have taken := found _ wanted
      rw [vacant same] at taken
      cases taken
    · cases Option.some.inj (wanted.symm.trans wanted')
      refine ⟨_, settled, ?_⟩
      cases s.replace
      · exact .inr rfl
      · exact .inl rfl

theorem convertNodes_winner (unmarked : Unmarked nodes) (wins : winner? prop nodes = some d)
    (candidate : s.isCandidate d = true) (target : s.targetIn? c prop = some t)
    (vacant : s.convert t d.value ≠ d.value → s.Vacant c nodes d (s.convert t d.value)) :
    winner? prop (s.convertNodes c nodes).1 = some (d.withValue (s.convert t d.value)) := by
  obtain ⟨before, after, rfl, rfl, stands⟩ := winner_exact.mp wins
  -- Conversion keeps property and weight, so what stands around the winner still loses.
  obtain ⟨earlier, early, clear, ahead⟩ := reach_extends (s := s) (c := c) [] before (.declaration d :: after)
    (fun n => d.important = false → ∀ e, n = .declaration e → e.prop = d.prop → e.important = false)
    (fun e value _ holds light e' same alike => by cases same; exact holds light e rfl alike)
    (by simpa using unmarked) (fun n member light e same alike => stands.ahead light e (same ▸ member) alike)
  rw [List.append_nil] at early clear
  let won : Node := .declaration (d.withValue (s.convert t d.value))
  obtain ⟨kept, settled, which⟩ := settle_vacant (earlier ++ .declaration d :: after) candidate target (by
    intro other
    rw [← vacant other before after rfl stands, siblingsAt, early]
    apply declares_congr
    intro e
    simp)
  have moved := advance_unmarked (s := s) (c := c) clear
  rw [settleNode, settled] at moved
  have clear' := unmarked_settle (s := s) (c := c) (earlier ++ .declaration d :: after) clear
  rw [settleNode, settled] at clear'
  obtain ⟨later, late, -, behind⟩ := reach_extends (s := s) (c := c) ((kept ++ [won]).reverse ++ earlier) after []
    (fun n => ∀ e, n = .declaration e → e.prop = d.prop → d.important = true ∧ e.important = false)
    (fun e value _ holds e' same alike => by cases same; exact holds e rfl alike)
    (by simpa using clear') (fun n member e same alike => stands.behind e (same ▸ member) alike)
  rw [convertNodes_reach, reach_append, List.append_nil, early, reach, List.append_nil, moved, late]
  refine winner_exact.mpr ⟨earlier.reverse ++ kept, later.reverse, by simp [won], rfl, ⟨?_, ?_⟩⟩
  · intro light e member alike
    rcases List.mem_append.mp member with old | own
    · exact ahead _ (List.mem_reverse.mp old) light e rfl alike
    · rcases which with rfl | rfl
      · cases own
      · cases List.mem_singleton.mp own
        exact light
  · intro e member alike
    exact behind _ (List.mem_reverse.mp member) e rfl alike

-- The declaration that wins in a rule before the run wins after it too, with its converted value.
theorem convertSheet_winner (s : Settings) (sheet : Sheet) (rank : Nat) (m : Met) (prop : String) (d : Declaration)
    (t : Target) (met : sheet.met[rank]? = some m) (part : m.takesPart s = true) (unmarked : Unmarked m.rule.nodes)
    (wins : winner? prop m.rule.nodes = some d) (candidate : s.isCandidate d = true)
    (target : s.targetIn? (m.context s) prop = some t)
    (vacant : s.convert t d.value ≠ d.value → s.Vacant (m.context s) m.rule.nodes d (s.convert t d.value)) :
    ∃ nodes, (s.convertSheet sheet).sheet.met[rank]? = some { m with rule := { m.rule with nodes } } ∧
      winner? prop nodes = some (d.withValue (s.convert t d.value)) := by
  refine ⟨_, convertSheet_met s sheet rank met, ?_⟩
  rw [walkNodes_map, winner_leafwise (walk_leafwise s sheet.fileName none), Met.converted, if_pos part]
  exact convertNodes_winner unmarked wins candidate target vacant

theorem convertSheet_winner_important :
    let heavy : Declaration := ⟨"width", "100px", true, none⟩
    let m : Met := ⟨⟨".a", [.declaration heavy, .declaration (.of "width" "50px")], none⟩, "", none⟩
    ∃ nodes, (standard.convertSheet ⟨none, [m.rule.node]⟩).sheet.met[0]? =
        some { m with rule := { m.rule with nodes } } ∧
      winner? "width" nodes = some (heavy.withValue "31.25vw") := by
  intro heavy m
  have value : standard.convert ⟨"vw", 320, 5, 1⟩ "100px" = "31.25vw" := by decide +kernel
  rw [← value]
  refine convertSheet_winner standard _ 0 m "width" heavy ⟨"vw", 320, 5, 1⟩ rfl (by decide +kernel) ?_
    (by decide +kernel) (by decide +kernel) (by decide +kernel) ?_
  · intro n member
    simp only [m, heavy, List.mem_cons, List.not_mem_nil, or_false] at member
    rcases member with rfl | rfl <;> rfl
  · intro _ before after children _
    cases before with
    | nil =>
      cases children
      rw [value]
      decide +kernel
    | cons n before => simp [m, heavy, List.cons_eq_append_iff, Declaration.of] at children

-- Where a sibling has the converted value already, the declaration that wins stays as it is.
theorem winner_spared :
    let m : Met := ⟨⟨".a", [.declaration (.of "width" "31.25vw"), .declaration (.of "width" "100px")], none⟩, "", none⟩
    let sheet : Sheet := ⟨none, [m.rule.node]⟩
    (sheet.met[0]? = some m ∧ m.takesPart standard = true ∧ Unmarked m.rule.nodes ∧
      winner? "width" m.rule.nodes = some (.of "width" "100px") ∧ standard.isCandidate (.of "width" "100px") = true ∧
      standard.targetIn? (m.context standard) "width" = some ⟨"vw", 320, 5, 1⟩) ∧
    ((standard.convertSheet sheet).sheet.met[0]?.bind fun m => winner? "width" m.rule.nodes).map (·.value) ≠
      some (standard.convert ⟨"vw", 320, 5, 1⟩ "100px") := by
  decide +kernel

end Settings
end FluidSheet
