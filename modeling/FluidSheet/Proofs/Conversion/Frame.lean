import FluidSheet.Proofs.Conversion.Pass

namespace FluidSheet

structure Leafwise (g : Node → Node) : Prop where
  declaration : ∀ d, g (.declaration d) = .declaration d
  comment : ∀ m, g (.comment m) = .comment m
  block : ∀ n, n.isBlock = true → (g n).isBlock = true

theorem Node.block_leafless {n : Node} (block : n.isBlock = true) :
    n.declaration? = none ∧ n.comment? = none := by
  cases n with
  | rule | atRule => exact ⟨rfl, rfl⟩
  | declaration | comment => cases block

namespace Leafwise
variable {g : Node → Node} {nodes : List Node}

theorem leaf (leafwise : Leafwise g) (leaf : n.isBlock = false) : g n = n := by
  cases n with
  | declaration d => exact leafwise.declaration d
  | comment m => exact leafwise.comment m
  | rule | atRule => cases leaf

theorem declaration? (leafwise : Leafwise g) (n : Node) : (g n).declaration? = n.declaration? := by
  cases n with
  | declaration d => rw [leafwise.declaration]
  | comment m => rw [leafwise.comment]
  | rule selector nodes source => exact (Node.block_leafless (leafwise.block (.rule selector nodes source) rfl)).1
  | atRule name params nodes source => exact (Node.block_leafless (leafwise.block (.atRule name params nodes source) rfl)).1

theorem comment? (leafwise : Leafwise g) (n : Node) : (g n).comment? = n.comment? := by
  cases n with
  | declaration d => rw [leafwise.declaration]
  | comment m => rw [leafwise.comment]
  | rule selector nodes source => exact (Node.block_leafless (leafwise.block (.rule selector nodes source) rfl)).2
  | atRule name params nodes source => exact (Node.block_leafless (leafwise.block (.atRule name params nodes source) rfl)).2

theorem declarations (leafwise : Leafwise g) (nodes : List Node) :
    (nodes.map g).filterMap Node.declaration? = nodes.filterMap Node.declaration? := by
  rw [List.filterMap_map]
  congr 1
  funext n
  exact leafwise.declaration? n

theorem mem_declaration (leafwise : Leafwise g) : .declaration d ∈ nodes.map g ↔ .declaration d ∈ nodes := by
  rw [← Node.mem_declarations, leafwise.declarations, Node.mem_declarations]

theorem mem_comment (leafwise : Leafwise g) : .comment m ∈ nodes.map g ↔ .comment m ∈ nodes := by
  rw [← Node.mem_comments, ← Node.mem_comments, List.filterMap_map]
  simp only [Function.comp_def, leafwise.comment?]

theorem marked (leafwise : Leafwise g) (marker : String) (n : Option Node) :
    Ignore.marked? marker (n.map g) = Ignore.marked? marker n := by
  cases n with
  | none => rfl
  | some n => simp [Ignore.marked?, leafwise.comment?]

theorem unmarked (leafwise : Leafwise g) (unmarked : Unmarked nodes) : Unmarked (nodes.map g) := by
  intro n member
  obtain ⟨n, old, rfl⟩ := List.mem_map.mp member
  unfold Node.isMarker
  rw [leafwise.comment?]
  exact unmarked n old

theorem between (leafwise : Leafwise g) (previous next : Option Node) :
    Verdict.between (previous.map g) (next.map g) = Verdict.between previous next := by
  simp only [Verdict.between, leafwise.marked]

end Leafwise

namespace Settings
variable {s : Settings} {c : Context}

theorem place_congr (same : ∀ e, .declaration e ∈ as ↔ .declaration e ∈ bs) :
    s.place c as d = s.place c bs d := by
  unfold place
  simp only [declares_congr same]

theorem place_declarations : ∀ n ∈ (s.place c siblings d).1, ∃ e, n = .declaration e := by
  intro n member
  unfold place at member
  split at member
  · exact ⟨d, by simpa using member⟩
  · dsimp only at member
    split at member
    · exact ⟨d, by simpa using member⟩
    · split at member
      · exact ⟨d, by simpa using member⟩
      · split at member
        · exact ⟨_, by simpa using member⟩
        · rcases List.mem_pair.mp member with here | here
          · exact ⟨_, here⟩
          · exact ⟨_, here⟩

theorem step_plain (other : ∀ d, n ≠ .declaration d) : s.step c done n rest = ⟨[n], false, false, .nothing⟩ := by
  cases n with
  | declaration d => exact absurd rfl (other d)
  | rule | atRule | comment => rfl

theorem step_map (leafwise : Leafwise g) (done : List Node) (n : Node) (rest : List Node) :
    s.step c (done.map g) (g n) (rest.map g) =
      { s.step c done n rest with placed := (s.step c done n rest).placed.map g } := by
  by_cases leaf : ∃ d, n = .declaration d
  · obtain ⟨d, rfl⟩ := leaf
    have placed : s.place c (done.map g ++ .declaration d :: rest.map g) d =
        s.place c (done ++ .declaration d :: rest) d := by
      apply place_congr
      intro e
      simp only [List.mem_append, List.mem_cons, leafwise.mem_declaration]
    have fixed : ∀ siblings, (s.place c siblings d).1.map g = (s.place c siblings d).1 := by
      intro siblings
      refine (List.map_congr_left ?_).trans (List.map_id _)
      intro n member
      obtain ⟨e, rfl⟩ := place_declarations n member
      exact leafwise.declaration e
    simp only [leafwise.declaration, step, List.head?_map, leafwise.between, placed]
    split
    · simp [leafwise.declaration]
    · split <;> simp [leafwise.declaration, fixed]
  · have other : ∀ d, n ≠ .declaration d := fun d here => leaf ⟨d, here⟩
    rw [step_plain other, step_plain]
    · rfl
    · intro d here
      have found := leafwise.declaration? n
      rw [here] at found
      exact other d (Node.declaration_exact.mp found.symm)

theorem convertNodesFrom_map (leafwise : Leafwise g) (done : List Node) (dropped : Bool) (nodes : List Node) :
    s.convertNodesFrom c (done.map g) dropped (nodes.map g) =
      ((s.convertNodesFrom c done dropped nodes).1.map g, (s.convertNodesFrom c done dropped nodes).2) := by
  induction nodes generalizing done dropped with
  | nil => simp [convertNodesFrom]
  | cons n rest ih =>
    cases dropped with
    | true => exact ih done false
    | false =>
      simp only [List.map_cons, convertNodesFrom, step_map leafwise, Bool.false_eq_true, if_false]
      have moved : ∀ placed : List Node, ∀ drops : Bool,
          (placed.map g).reverse ++ (if drops then (done.map g).tail else done.map g) =
            (placed.reverse ++ if drops then done.tail else done).map g := by
        intro placed drops
        cases drops <;> simp [List.map_tail]
      rw [moved, ih]

-- Converting declarations and changing what lies below rules and at-rules do not meet.
theorem convertNodes_map (leafwise : Leafwise g) (nodes : List Node) :
    s.convertNodes c (nodes.map g) = ((s.convertNodes c nodes).1.map g, (s.convertNodes c nodes).2) :=
  convertNodesFrom_map leafwise [] false nodes

theorem settle_all (P : Node → Prop)
    (closed : ∀ d value, s.wanted? c d = some value → P (.declaration d) → P (.declaration (d.withValue value)))
    (holds : P (.declaration d)) : ∀ n ∈ s.settle c siblings d, P n := by
  intro n member
  rcases settle_cases s c siblings d with ⟨settled, _⟩ | ⟨value, wanted, _, settled⟩
  · rw [settled] at member
    cases List.mem_singleton.mp member
    exact holds
  · rw [settled] at member
    rcases List.mem_append.mp member with old | new
    · split at old
      · cases old
      · cases List.mem_singleton.mp old
        exact holds
    · cases List.mem_singleton.mp new
      exact closed d value wanted holds

theorem moves_all (moves : Moves s c p n rest next) (P : Node → Prop)
    (closed : ∀ d value, s.wanted? c d = some value → P (.declaration d) → P (.declaration (d.withValue value)))
    (before : ∀ n ∈ p.done, P n) (here : P n) : ∀ m ∈ next.done, P m := by
  cases moves with
  | gone => exact before
  | passed | dropNext =>
    intro m member
    rcases List.mem_cons.mp member with rfl | old
    · exact here
    · exact before m old
  | dropPrevious =>
    intro m member
    rcases List.mem_cons.mp member with rfl | old
    · exact here
    · exact before m (List.mem_cons_of_mem _ old)
  | settled =>
    intro m member
    rcases List.mem_append.mp member with fresh | old
    · exact settle_all P closed here m (List.mem_reverse.mp fresh)
    · exact before m old

theorem reach_all (P : Node → Prop)
    (closed : ∀ d value, s.wanted? c d = some value → P (.declaration d) → P (.declaration (d.withValue value)))
    (earlier : ∀ n ∈ p.done, P n) (holds : ∀ n ∈ before, P n) :
    ∀ n ∈ (s.reach c p before after).done, P n := by
  induction before generalizing p with
  | nil => exact earlier
  | cons n before ih =>
    have kept := moves_all (advance_moves s c p n (before ++ after)) P closed earlier (holds n (by simp))
    exact ih kept (fun m member => holds m (List.mem_cons_of_mem _ member))

theorem convertNodes_all (P : Node → Prop)
    (closed : ∀ d value, s.wanted? c d = some value → P (.declaration d) → P (.declaration (d.withValue value)))
    (holds : ∀ n ∈ nodes, P n) : ∀ n ∈ (s.convertNodes c nodes).1, P n := by
  intro n member
  rw [convertNodes_reach, List.mem_reverse] at member
  exact reach_all P closed (fun _ none => by cases none) holds n member

theorem settleNode_all (P : Node → Prop)
    (closed : ∀ d value, s.wanted? c d = some value → P (.declaration d) → P (.declaration (d.withValue value)))
    (holds : P n) : ∀ m ∈ s.settleNode c siblings n, P m := by
  cases n with
  | declaration d => exact settle_all P closed holds
  | rule | atRule | comment =>
    intro m member
    cases List.mem_singleton.mp member
    exact holds

theorem marked_unmarked {neighbour : Option Node} (clear : ∀ n, neighbour = some n → n.isMarker = false)
    (known : marker = Ignore.nextMarker ∨ marker = Ignore.previousMarker) : Ignore.marked? marker neighbour = none := by
  rw [Option.eq_none_iff_forall_ne_some]
  intro m found
  obtain ⟨here, marked⟩ := marked_exact.mp found
  have plain := clear _ here
  rcases known with rfl | rfl <;> simp [Node.isMarker, Node.comment?, marked] at plain

theorem between_unmarked (unmarked : Unmarked (done ++ n :: rest)) :
    Verdict.between done.head? rest.head? = .convert := by
  have before : ∀ n, done.head? = some n → n.isMarker = false :=
    fun n first => unmarked n (List.mem_append_left _ (List.mem_of_mem_head? first))
  have after : ∀ n, rest.head? = some n → n.isMarker = false :=
    fun n first => unmarked n (List.mem_append_right _ (List.mem_cons_of_mem _ (List.mem_of_mem_head? first)))
  rw [Verdict.between, marked_unmarked before (.inl rfl), marked_unmarked after (.inr rfl)]
  rfl

theorem advance_unmarked (unmarked : Unmarked (done ++ n :: rest)) :
    s.advance c ⟨done, false⟩ n rest = ⟨(s.settleNode c (done ++ n :: rest) n).reverse ++ done, false⟩ := by
  cases n with
  | rule | atRule | comment => rfl
  | declaration d =>
    cases candidate : s.isCandidate d with
    | false => simp [advance, step, settleNode, settle, wanted?, candidate]
    | true => simp [advance, step, settleNode, candidate, between_unmarked unmarked, place_settle candidate]

theorem unmarked_settle (siblings : List Node) (unmarked : Unmarked (done ++ n :: rest)) :
    Unmarked ((s.settleNode c siblings n).reverse ++ done ++ rest) := by
  have fresh : ∀ m ∈ s.settleNode c siblings n, m.isMarker = false :=
    settleNode_all (fun m => m.isMarker = false) (fun _ _ _ _ => rfl) (unmarked n (by simp))
  intro m member
  rcases List.mem_append.mp member with early | late
  · rcases List.mem_append.mp early with new | old
    · exact fresh m (List.mem_reverse.mp new)
    · exact unmarked m (by simp [old])
  · exact unmarked m (by simp [late])

theorem reach_extends (done before after : List Node) (P : Node → Prop)
    (closed : ∀ d value, s.wanted? c d = some value → P (.declaration d) → P (.declaration (d.withValue value)))
    (unmarked : Unmarked (done ++ (before ++ after))) (holds : ∀ n ∈ before, P n) :
    ∃ placed, s.reach c ⟨done, false⟩ before after = ⟨placed ++ done, false⟩ ∧
      Unmarked (placed ++ done ++ after) ∧ ∀ n ∈ placed, P n := by
  induction before generalizing done with
  | nil => exact ⟨[], rfl, unmarked, fun _ none => by cases none⟩
  | cons n before ih =>
    let new := (s.settleNode c (done ++ n :: (before ++ after)) n).reverse
    obtain ⟨placed, reached, clear, kept⟩ := ih (new ++ done) (unmarked_settle _ unmarked)
      (fun m member => holds m (List.mem_cons_of_mem _ member))
    refine ⟨placed ++ new, ?_, by simpa using clear, ?_⟩
    · have moved : s.advance c ⟨done, false⟩ n (before ++ after) = ⟨new ++ done, false⟩ := advance_unmarked unmarked
      rw [reach, moved, reached, List.append_assoc]
    · intro m member
      rcases List.mem_append.mp member with old | fresh
      · exact kept m old
      · exact settleNode_all P closed (holds n (by simp)) m (List.mem_reverse.mp fresh)

-- Whatever is gathered from rules and at-rules alone, conversion does not touch.
theorem convertNodes_flatMap (f : Node → List α) (declaration : ∀ d, f (.declaration d) = [])
    (comment : ∀ m, f (.comment m) = []) (nodes : List Node) :
    (s.convertNodes c nodes).1.flatMap f = nodes.flatMap f := by
  have settled : ∀ siblings d, (s.settle c siblings d).reverse.reverse.flatMap f = [] := by
    intro siblings d
    rw [List.reverse_reverse, List.flatMap_eq_nil_iff]
    exact settle_all (fun n => f n = []) (fun d value _ _ => declaration _) (declaration d)
  let I : Pass → List Node → Prop := fun p rest =>
    (p.dropped = true → rest.head?.elim [] f = []) ∧
      p.done.reverse.flatMap f ++ rest.flatMap f = nodes.flatMap f
  have kept : ∀ p n rest next, Moves s c p n rest next → I p (n :: rest) → I next rest := by
    rintro p n rest next moves ⟨head, gathered⟩
    cases moves with
    | gone =>
      have none : f n = [] := head rfl
      exact ⟨by simp, by simpa [none] using gathered⟩
    | passed => exact ⟨by simp, by simpa using gathered⟩
    | dropPrevious => exact ⟨by simp, by simpa [declaration, comment] using gathered⟩
    | dropNext => exact ⟨by simp [comment], by simpa [declaration] using gathered⟩
    | settled =>
      refine ⟨by simp, ?_⟩
      rw [List.reverse_append, List.flatMap_append, settled, List.append_nil]
      simpa [declaration] using gathered
  have holds : I (s.reach c ⟨[], false⟩ nodes []) [] :=
    reach_keeps I (fun p n rest => kept p n rest _ (advance_moves s c p n rest)) ⟨by simp, by simp⟩
  rw [convertNodes_reach]
  simpa using holds.2

end Settings
end FluidSheet
