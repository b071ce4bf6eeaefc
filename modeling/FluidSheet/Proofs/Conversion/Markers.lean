import FluidSheet.Proofs.Conversion.Skipped
import FluidSheet.Proofs.Conversion.Winner

-- Every child is judged by the children as they stood at first, whatever was removed or put in since.

namespace FluidSheet

def Asked (previous : Option Node) : Prop :=
  ∃ m, previous = some (.comment m) ∧ Text.trim m.text = "px-to-vw-ignore-next"

-- What stands behind a declaration is the comment that asks to keep it, on whichever line.
def Behind (next : Option Node) (m : Comment) : Prop :=
  next = some (.comment m) ∧ Text.trim m.text = "px-to-vw-ignore"

def Comment.Near (m : Comment) : Prop := '\n' ∉ m.before.toList

-- A comment that a declaration next to it obeys; the one ahead of it is obeyed first.
def Obeyed (s : Settings) (before : List Node) (n : Node) (after : List Node) : Prop :=
  (Asked (some n) ∧ ∃ d, after.head? = some (.declaration d) ∧ s.isCandidate d = true) ∨
    ∃ earlier d m, before = earlier ++ [.declaration d] ∧ s.isCandidate d = true ∧ ¬ Asked earlier.getLast? ∧
      Behind (some n) m ∧ m.Near

inductive Fate where
  | stays
  | goes
  | kept
  -- `misplaced`: the comment that asks in vain to keep it.
  | settled (misplaced : Option Comment)
deriving DecidableEq, Repr

-- The fate of a child between the children before it and those after it.
inductive Judged (s : Settings) (before : List Node) : Node → List Node → Fate → Prop where
  | stays (plain : ∀ d, n = .declaration d → s.isCandidate d = false) (free : ¬ Obeyed s before n after) :
      Judged s before n after .stays
  | goes (obeyed : Obeyed s before n after) : Judged s before n after .goes
  | kept (candidate : s.isCandidate d = true)
      (asked : Asked before.getLast? ∨ ∃ m, Behind after.head? m ∧ m.Near) :
      Judged s before (.declaration d) after .kept
  | misplaced (candidate : s.isCandidate d = true) (unasked : ¬ Asked before.getLast?)
      (behind : Behind after.head? m) (far : ¬ m.Near) : Judged s before (.declaration d) after (.settled (some m))
  | settled (candidate : s.isCandidate d = true) (unasked : ¬ Asked before.getLast?)
      (alone : ∀ m, ¬ Behind after.head? m) : Judged s before (.declaration d) after (.settled none)

namespace Fate

def image (s : Settings) (c : Context) (before : List Node) (n : Node) (after : List Node) : Fate → List Node
  | stays | kept => [n]
  | goes => []
  | settled _ => s.settleNode c (s.siblingsAt c before (n :: after)) n

def warning? (c : Context) : Fate → Option Warning
  | settled misplaced => misplaced.map fun m => ⟨Event.misplacedMessage, m, if c.file = "" then none else some c.file⟩
  | _ => none

structure Leaves (c : Context) (fate : Fate) (o : Outcome) : Prop where
  ignored : o.ignored = [fate].count .kept
  warnings : o.warnings = (fate.warning? c).toList

end Fate

-- One child after another: its fate, and what comes of all of them.
inductive Fares (s : Settings) (c : Context) : (before nodes images : List Node) → List Fate → Prop where
  | nil : Fares s c before [] [] []
  | cons (judged : Judged s before n after fate) (rest : Fares s c (before ++ [n]) after images fates) :
      Fares s c before (n :: after) (fate.image s c before n after ++ images) (fate :: fates)

theorem asked_exact : Asked n ↔ (Ignore.marked? Ignore.nextMarker n).isSome = true := by
  rw [Option.isSome_iff_exists]
  exact exists_congr fun m => marked_exact.symm

theorem behind_exact : Behind n m ↔ Ignore.marked? Ignore.previousMarker n = some m := marked_exact.symm

theorem near_exact (m : Comment) : m.Near ↔ m.sameLine = true := by
  simp [Comment.Near, Comment.sameLine]

theorem behind_unasked (behind : Behind n m) : ¬ Asked n := by
  rintro ⟨m', here, next⟩
  obtain ⟨here', back⟩ := behind
  cases here.symm.trans here'
  rw [next] at back
  revert back
  decide

theorem declaration_unasked (d : Declaration) : ¬ Asked (some (.declaration d)) := by
  rintro ⟨m, here, _⟩
  cases here

theorem between_cases (previous next : Option Node) :
    (Asked previous ∧ Verdict.between previous next = .keepDroppingPrevious) ∨
    (¬ Asked previous ∧ ∃ m, Behind next m ∧ m.Near ∧ Verdict.between previous next = .keepDroppingNext) ∨
    (¬ Asked previous ∧ ∃ m, Behind next m ∧ ¬ m.Near ∧ Verdict.between previous next = .misplaced m) ∨
    (¬ Asked previous ∧ (∀ m, ¬ Behind next m) ∧ Verdict.between previous next = .convert) := by
  unfold Verdict.between
  by_cases asked : Asked previous
  · exact .inl ⟨asked, if_pos (asked_exact.mp asked)⟩
  · rw [if_neg fun marked => asked (asked_exact.mpr marked)]
    right
    cases found : Ignore.marked? Ignore.previousMarker next with
    | none =>
      refine .inr (.inr ⟨asked, fun m behind => ?_, rfl⟩)
      rw [behind_exact.mp behind] at found
      cases found
    | some m =>
      by_cases near : m.Near
      · exact .inl ⟨asked, m, behind_exact.mpr found, near, if_pos ((near_exact m).mp near)⟩
      · exact .inr (.inl ⟨asked, m, behind_exact.mpr found, near, if_neg fun same => near ((near_exact m).mpr same)⟩)

namespace Settings
variable {s : Settings} {c : Context}

-- How the state of the loop goes with the children as they stood at first.
structure Tracks (s : Settings) (before : List Node) (p : Pass) (rest : List Node) : Prop where
  asked : Asked p.done.head? ↔ Asked before.getLast?
  dropped : p.dropped = true ↔ ∃ earlier d m, before = earlier ++ [.declaration d] ∧ s.isCandidate d = true ∧
    ¬ Asked earlier.getLast? ∧ Behind rest.head? m ∧ m.Near

-- What is done, less a comment at its end that the next declaration obeys.
def spared (s : Settings) (done rest : List Node) : List Node :=
  if (rest.head?.bind Node.declaration?).any s.isCandidate && (Ignore.marked? Ignore.nextMarker done.head?).isSome
  then done.tail else done

theorem spared_asked (candidate : s.isCandidate d = true) (asked : Asked done.head?) (rest : List Node) :
    s.spared done (.declaration d :: rest) = done.tail := by
  apply if_pos
  rw [asked_exact.mp asked, Bool.and_true]
  exact candidate

theorem spared_unasked (done : List Node) (unasked : ¬ Asked done.head?) (rest : List Node) :
    s.spared done rest = done := by
  apply if_neg
  rw [Bool.and_eq_true, ← asked_exact]
  exact fun both => unasked both.2

theorem spared_plain (done : List Node) {rest : List Node}
    (plain : ∀ d, rest.head? = some (.declaration d) → s.isCandidate d = false) : s.spared done rest = done := by
  apply if_neg
  rw [Bool.and_eq_true, Option.any_eq_true]
  rintro ⟨⟨d, found, candidate⟩, _⟩
  obtain ⟨n, here, declared⟩ := Option.bind_eq_some_iff.mp found
  cases Node.declaration_exact.mp declared
  rw [plain d here] at candidate
  cases candidate

theorem settle_congr (same : ∀ e, .declaration e ∈ as ↔ .declaration e ∈ bs) :
    s.settle c as d = s.settle c bs d := by
  unfold settle
  simp only [declares_congr same]

theorem settle_unasked (siblings done : List Node) (d : Declaration) :
    ¬ Asked ((s.settle c siblings d).reverse ++ done).head? := by
  rcases settle_cases s c siblings d with ⟨settled, _⟩ | ⟨value, _, _, settled⟩
  · rw [settled]
    exact declaration_unasked d
  · rw [settled, List.reverse_append]
    exact declaration_unasked (d.withValue value)

def stepOutcome (s : Settings) (c : Context) (p : Pass) (n : Node) (rest : List Node) : Outcome :=
  if p.dropped then .nothing else (s.step c p.done n rest).outcome

theorem convertNodesFrom_cons (s : Settings) (c : Context) (p : Pass) (n : Node) (rest : List Node) :
    let p' := s.advance c p n rest
    (s.convertNodesFrom c p.done p.dropped (n :: rest)).1 = (s.convertNodesFrom c p'.done p'.dropped rest).1 ∧
    (s.convertNodesFrom c p.done p.dropped (n :: rest)).2.ignored =
      (s.stepOutcome c p n rest).ignored + (s.convertNodesFrom c p'.done p'.dropped rest).2.ignored ∧
    (s.convertNodesFrom c p.done p.dropped (n :: rest)).2.warnings =
      (s.stepOutcome c p n rest).warnings ++ (s.convertNodesFrom c p'.done p'.dropped rest).2.warnings := by
  obtain ⟨done, dropped⟩ := p
  cases dropped with
  | true => exact ⟨rfl, (Nat.zero_add _).symm, rfl⟩
  | false => exact ⟨rfl, rfl, rfl⟩

structure Passes (s : Settings) (c : Context) (before : List Node) (p : Pass) (n : Node) (after : List Node)
    (fate : Fate) : Prop where
  judged : Judged s before n after fate
  tracks : Tracks s (before ++ [n]) (s.advance c p n after) after
  image : (s.spared (s.advance c p n after).done after).reverse =
    (s.spared p.done (n :: after)).reverse ++ fate.image s c before n after
  leaves : fate.Leaves c (s.stepOutcome c p n after)

theorem tracks_last (head : Asked done.head? ↔ Asked (some n)) (plain : ∀ d, n = .declaration d → s.isCandidate d = false) :
    Tracks s (before ++ [n]) ⟨done, false⟩ after := by
  refine ⟨?_, ?_⟩
  · rw [List.getLast?_concat]
    exact head
  · constructor
    · intro impossible
      cases impossible
    · rintro ⟨earlier, d, m, same, candidate, _⟩
      obtain ⟨_, last⟩ := List.append_inj' same rfl
      cases last
      rw [plain d rfl] at candidate
      cases candidate

theorem dropped_passes (tracks : Tracks s before ⟨done, true⟩ (n :: after)) :
    Passes s c before ⟨done, true⟩ n after .goes := by
  obtain ⟨earlier, d, m, whole, candidate, unasked, behind, near⟩ := tracks.dropped.mp rfl
  have bare : ¬ Asked done.head? := by
    rw [tracks.asked, whole, List.getLast?_concat]
    exact declaration_unasked d
  have comment : n = .comment m := Option.some.inj behind.1
  refine ⟨.goes (.inr ⟨earlier, d, m, whole, candidate, unasked, behind, near⟩), ?_, ?_, ⟨rfl, rfl⟩⟩
  · refine tracks_last ⟨fun asked => absurd asked bare, fun asked => absurd asked (behind_unasked behind)⟩ ?_
    intro e same
    rw [comment] at same
    cases same
  · change (s.spared done after).reverse = _
    rw [spared_unasked _ bare, spared_unasked _ bare]
    exact (List.append_nil _).symm

theorem plain_passes (tracks : Tracks s before ⟨done, false⟩ (n :: after))
    (plain : ∀ d, n = .declaration d → s.isCandidate d = false) :
    ∃ fate, Passes s c before ⟨done, false⟩ n after fate := by
  have step : s.step c done n after = ⟨[n], false, false, .nothing⟩ := by
    cases n with
    | declaration d => simp [Settings.step, plain d rfl]
    | rule | atRule | comment => rfl
  have moved : s.advance c ⟨done, false⟩ n after = ⟨n :: done, false⟩ := by simp [advance, step]
  have outcome : s.stepOutcome c ⟨done, false⟩ n after = .nothing := by simp [stepOutcome, step]
  have tracks' : Tracks s (before ++ [n]) ⟨n :: done, false⟩ after := tracks_last Iff.rfl plain
  have before' : s.spared done (n :: after) = done :=
    spared_plain done fun d same => plain d (Option.some.inj same)
  by_cases obeyed : Obeyed s before n after
  · refine ⟨.goes, .goes obeyed, moved ▸ tracks', ?_, outcome ▸ ⟨rfl, rfl⟩⟩
    rcases obeyed with ⟨asked, d, here, candidate⟩ | behind
    · obtain ⟨rest, rfl⟩ := List.head?_eq_some_iff.mp here
      rw [moved, before', spared_asked candidate (show Asked (n :: done).head? from asked)]
      exact (List.append_nil _).symm
    · have impossible := tracks.dropped.mpr behind
      cases impossible
  · refine ⟨.stays, .stays plain obeyed, moved ▸ tracks', ?_, outcome ▸ ⟨rfl, rfl⟩⟩
    have kept : s.spared (n :: done) after = n :: done := by
      by_cases asked : Asked (some n)
      · refine spared_plain _ fun d here => ?_
        rw [← Bool.not_eq_true]
        exact fun candidate => obeyed (.inl ⟨asked, d, here, candidate⟩)
      · exact spared_unasked (n :: done) asked after
    rw [moved, kept, before', List.reverse_cons]
    rfl

theorem tracks_candidate (candidate : s.isCandidate d = true) (bare : ¬ Asked p.done.head?)
    (dropped : p.dropped = true ↔ ¬ Asked before.getLast? ∧ ∃ m, Behind after.head? m ∧ m.Near) :
    Tracks s (before ++ [.declaration d]) p after := by
  refine ⟨?_, ?_⟩
  · rw [List.getLast?_concat]
    exact ⟨fun asked => absurd asked bare, fun asked => absurd asked (declaration_unasked d)⟩
  · rw [dropped]
    constructor
    · rintro ⟨unasked, m, behind, near⟩
      exact ⟨before, d, m, rfl, candidate, unasked, behind, near⟩
    · rintro ⟨earlier, e, m, same, _, unasked, behind, near⟩
      obtain ⟨rfl, _⟩ := List.append_inj' same rfl
      exact ⟨unasked, m, behind, near⟩

theorem kept_passes (candidate : s.isCandidate d = true)
    (asked : Asked before.getLast? ∨ ∃ m, Behind after.head? m ∧ m.Near)
    (step : s.step c done (.declaration d) after = ⟨[.declaration d], dropsPrevious, dropsNext, ignored told⟩)
    (obeys : s.spared done (.declaration d :: after) = if dropsPrevious then done.tail else done)
    (dropped : dropsNext = true ↔ ¬ Asked before.getLast? ∧ ∃ m, Behind after.head? m ∧ m.Near) :
    Passes s c before ⟨done, false⟩ (.declaration d) after .kept := by
  have moved : s.advance c ⟨done, false⟩ (.declaration d) after =
      ⟨.declaration d :: s.spared done (.declaration d :: after), dropsNext⟩ := by
    simp [advance, step, obeys]
  have bare := declaration_unasked d
  refine ⟨.kept candidate asked, moved ▸ tracks_candidate candidate bare dropped, ?_, ?_⟩
  · rw [moved]
    dsimp only
    rw [spared_unasked (.declaration d :: _) bare, List.reverse_cons]
    rfl
  · have outcome : s.stepOutcome c ⟨done, false⟩ (.declaration d) after = ignored told := by simp [stepOutcome, step]
    rw [outcome]
    exact ⟨rfl, rfl⟩

theorem settled_passes (state : s.reach c ⟨[], false⟩ before (.declaration d :: after) = ⟨done, false⟩)
    (candidate : s.isCandidate d = true) (unasked : ¬ Asked done.head?) (far : ∀ m, Behind after.head? m → ¬ m.Near)
    (judged : Judged s before (.declaration d) after (.settled told))
    (step : s.step c done (.declaration d) after = ⟨(s.place c (done ++ .declaration d :: after) d).1, false, false, o⟩)
    (leaves : (Fate.settled told).Leaves c o) :
    Passes s c before ⟨done, false⟩ (.declaration d) after (.settled told) := by
  have moved : s.advance c ⟨done, false⟩ (.declaration d) after =
      ⟨(s.settle c (done ++ .declaration d :: after) d).reverse ++ done, false⟩ := by
    simp [advance, step, place_settle candidate]
  have bare := settle_unasked (s := s) (c := c) (done ++ .declaration d :: after) done d
  have undropped : false = true ↔ ¬ Asked before.getLast? ∧ ∃ m, Behind after.head? m ∧ m.Near := by
    constructor
    · intro impossible
      cases impossible
    · rintro ⟨_, m, behind, near⟩
      exact absurd near (far m behind)
  refine ⟨judged, moved ▸ tracks_candidate candidate bare undropped, ?_, ?_⟩
  · rw [moved, spared_unasked _ bare, spared_unasked _ unasked, List.reverse_append, List.reverse_reverse]
    have same : s.settle c (done ++ .declaration d :: after) d =
        s.settle c (s.siblingsAt c before (.declaration d :: after)) d := by
      rw [siblingsAt, state]
      exact settle_congr fun e => by simp
    rw [same]
    rfl
  · have outcome : s.stepOutcome c ⟨done, false⟩ (.declaration d) after = o := by simp [stepOutcome, step]
    rwa [outcome]

theorem place_unignored (s : Settings) (c : Context) (siblings : List Node) (d : Declaration) :
    (s.place c siblings d).2.ignored = 0 := by
  unfold place
  split
  · rfl
  · dsimp only
    split
    · rfl
    · split
      · rfl
      · split <;> rfl

theorem candidate_passes (tracks : Tracks s before ⟨done, false⟩ (.declaration d :: after))
    (state : s.reach c ⟨[], false⟩ before (.declaration d :: after) = ⟨done, false⟩) (candidate : s.isCandidate d = true) :
    ∃ fate, Passes s c before ⟨done, false⟩ (.declaration d) after fate := by
  rcases between_cases done.head? after.head? with
    ⟨asked, judged⟩ | ⟨unasked, m, behind, near, judged⟩ | ⟨unasked, m, behind, far, judged⟩ | ⟨unasked, alone, judged⟩
  · have step : s.step c done (.declaration d) after =
        ⟨[.declaration d], true, false, ignored (.ignoredByPreceding d.prop)⟩ := by
      simp [Settings.step, candidate, judged]
    refine ⟨.kept, kept_passes candidate (.inl (tracks.asked.mp asked)) step (spared_asked candidate asked after) ?_⟩
    exact ⟨fun impossible => (by cases impossible), fun both => absurd (tracks.asked.mp asked) both.1⟩
  · have step : s.step c done (.declaration d) after =
        ⟨[.declaration d], false, true, ignored (.ignoredByTrailing d.prop)⟩ := by
      simp [Settings.step, candidate, judged]
    refine ⟨.kept, kept_passes candidate (.inr ⟨m, behind, near⟩) step (spared_unasked _ unasked _) ?_⟩
    exact ⟨fun _ => ⟨mt tracks.asked.mpr unasked, m, behind, near⟩, fun _ => rfl⟩
  · have step : s.step c done (.declaration d) after =
        ⟨(s.place c (done ++ .declaration d :: after) d).1, false, false,
          warned c m ++ (s.place c (done ++ .declaration d :: after) d).2⟩ := by
      simp [Settings.step, candidate, judged]
    have other : ∀ m', Behind after.head? m' → ¬ m'.Near := by
      intro m' behind'
      cases behind.1.symm.trans behind'.1
      exact far
    refine ⟨_, settled_passes state candidate unasked other
      (.misplaced candidate (mt tracks.asked.mpr unasked) behind far) step ⟨?_, ?_⟩⟩
    · exact (Nat.zero_add _).trans (place_unignored ..)
    · change (warned c m).warnings ++ (s.place c _ d).2.warnings = _
      rw [place_silent, List.append_nil]
      rfl
  · have step : s.step c done (.declaration d) after =
        ⟨(s.place c (done ++ .declaration d :: after) d).1, false, false,
          (s.place c (done ++ .declaration d :: after) d).2⟩ := by
      simp [Settings.step, candidate, judged]
    exact ⟨_, settled_passes state candidate unasked (fun m behind => absurd behind (alone m))
      (.settled candidate (mt tracks.asked.mpr unasked) alone) step ⟨place_unignored .., place_silent ..⟩⟩

theorem node_passes (tracks : Tracks s before (s.reach c ⟨[], false⟩ before (n :: after)) (n :: after)) :
    ∃ fate, Passes s c before (s.reach c ⟨[], false⟩ before (n :: after)) n after fate := by
  cases state : s.reach c ⟨[], false⟩ before (n :: after) with
  | mk done dropped =>
    rw [state] at tracks
    cases dropped with
    | true => exact ⟨.goes, dropped_passes tracks⟩
    | false =>
      by_cases plain : ∀ d, n = .declaration d → s.isCandidate d = false
      · exact plain_passes tracks plain
      · obtain ⟨d, rfl, candidate⟩ : ∃ d, n = .declaration d ∧ s.isCandidate d = true := by simpa using plain
        exact candidate_passes tracks state candidate

theorem reach_tracks (s : Settings) (c : Context) (before rest : List Node) :
    Tracks s before (s.reach c ⟨[], false⟩ before rest) rest := by
  induction before using List.reverseRecOn generalizing rest with
  | nil =>
    refine ⟨Iff.rfl, fun impossible => (by cases impossible), ?_⟩
    rintro ⟨earlier, d, m, impossible, _⟩
    simp at impossible
  | append_singleton before n ih =>
    obtain ⟨fate, passes⟩ := node_passes (ih (n :: rest))
    rw [reach_append]
    exact passes.tracks

-- The loop from any place on: the children still to come fare as they stood at first.
theorem convertNodesFrom_fares (s : Settings) (c : Context) (before nodes : List Node) :
    let p := s.reach c ⟨[], false⟩ before nodes
    ∃ images fates, Fares s c before nodes images fates ∧
      (s.convertNodesFrom c p.done p.dropped nodes).1 = (s.spared p.done nodes).reverse ++ images ∧
      (s.convertNodesFrom c p.done p.dropped nodes).2.ignored = fates.count .kept ∧
      (s.convertNodesFrom c p.done p.dropped nodes).2.warnings = fates.filterMap (Fate.warning? c) := by
  induction nodes generalizing before with
  | nil => exact ⟨[], [], .nil, by simp [convertNodesFrom, spared], rfl, rfl⟩
  | cons n after ih =>
    intro p
    obtain ⟨fate, passes⟩ := node_passes (reach_tracks s c before (n :: after))
    have next : s.reach c ⟨[], false⟩ (before ++ [n]) after = s.advance c p n after := by
      rw [reach_append]
      rfl
    obtain ⟨images, fates, fares, nodes, ignored, warnings⟩ := ih (before ++ [n])
    obtain ⟨nodes', ignored', warnings'⟩ := convertNodesFrom_cons s c p n after
    rw [next] at nodes ignored warnings
    refine ⟨_, _, .cons passes.judged fares, ?_, ?_, ?_⟩
    · rw [nodes', nodes, passes.image, List.append_assoc]
    · rw [ignored', ignored, passes.leaves.ignored, ← List.count_append]
      rfl
    · rw [warnings', warnings, passes.leaves.warnings]
      cases told : fate.warning? c <;> simp [told]

theorem convertNodes_fares (s : Settings) (c : Context) (nodes : List Node) :
    ∃ images fates, Fares s c [] nodes images fates ∧ (s.convertNodes c nodes).1 = images ∧
      (s.convertNodes c nodes).2.ignored = fates.count .kept ∧
      (s.convertNodes c nodes).2.warnings = fates.filterMap (Fate.warning? c) := by
  have bare : ¬ Asked ([] : List Node).head? := fun ⟨_, impossible, _⟩ => by cases impossible
  obtain ⟨images, fates, fares, same, ignored, warnings⟩ := convertNodesFrom_fares s c [] nodes
  refine ⟨images, fates, fares, same.trans ?_, ignored, warnings⟩
  change (s.spared [] nodes).reverse ++ images = images
  rw [spared_unasked _ bare]
  rfl

end Settings

def Met.outcome (s : Settings) (m : Met) : Outcome :=
  if m.takesPart s then (s.convertNodes (m.context s) m.rule.nodes).2 else .nothing

structure Gathers (s : Settings) (ms : List Met) (o : Outcome) : Prop where
  ignored : o.ignored = (ms.map fun m => (m.outcome s).ignored).sum
  warnings : o.warnings = ms.flatMap fun m => (m.outcome s).warnings

theorem gathers_append (first : Gathers s ms o) (second : Gathers s ms' o') : Gathers s (ms ++ ms') (o ++ o') := by
  refine ⟨?_, ?_⟩
  · rw [List.map_append, List.sum_append, ← first.ignored, ← second.ignored]
    rfl
  · rw [List.flatMap_append, ← first.warnings, ← second.warnings]
    rfl

namespace Settings
variable {s : Settings} {sheetFile : String}

theorem convertRule_gathers (leafwise : Leafwise g) (s : Settings) (sheetFile : String) (parent : Option Parent)
    (selector : String) (source : Option Source) (nodes : List Node) :
    Gathers s [⟨⟨selector, nodes, source⟩, fileOf sheetFile source, parent⟩]
      (s.convertRule sheetFile parent selector source (nodes.map g)).2 := by
  have single : ∀ m o, o.ignored = (Met.outcome s m).ignored → o.warnings = (Met.outcome s m).warnings →
      Gathers s [m] o := fun m o ignored warnings => ⟨ignored, warnings.trans (List.append_nil _).symm⟩
  cases part : Met.takesPart s ⟨⟨selector, nodes, source⟩, fileOf sheetFile source, parent⟩ with
  | true =>
    rw [convertRule_part part, convertNodes_map leafwise]
    apply single
    · rw [Met.outcome, if_pos part]
      rfl
    · rw [Met.outcome, if_pos part]
      rfl
  | false =>
    obtain ⟨-, silent, calm⟩ := convertRule_apart part (nodes.map g)
    have none : Met.outcome s ⟨⟨selector, nodes, source⟩, fileOf sheetFile source, parent⟩ = .nothing :=
      if_neg (Bool.eq_false_iff.mp part)
    apply single
    · rw [none]
      exact congrArg Tally.ignored silent
    · rw [none, calm]
      rfl

theorem walkNodes_gathers {nodes : List Node} (each : ∀ n ∈ nodes,
      Gathers s (metIn sheetFile parent n) (s.walkNode sheetFile parent n).2) :
    Gathers s (metAmong sheetFile parent nodes) (s.walkNodes sheetFile parent nodes).2 := by
  induction nodes with
  | nil => exact ⟨rfl, rfl⟩
  | cons n rest ih =>
    exact gathers_append (each n List.mem_cons_self) (ih fun m member => each m (List.mem_cons_of_mem _ member))

theorem walkNode_gathers (n : Node) : ∀ parent, Gathers s (metIn sheetFile parent n) (s.walkNode sheetFile parent n).2 := by
  induction n using Node.induct with
  | declaration | comment => exact fun _ => ⟨rfl, rfl⟩
  | atRule name params nodes source ih => exact fun _ => walkNodes_gathers fun n member => ih n member _
  | rule selector nodes source ih =>
    intro parent
    have own := convertRule_gathers (walk_leafwise s sheetFile none) s sheetFile parent selector source nodes
    rw [← walkNodes_map] at own
    exact gathers_append own (walkNodes_gathers fun n member => ih n member none)

theorem converted_stay {m : Met} (part : m.takesPart s = true) (sheetFile : String) :
    LeavesStay (s.convertNodes (m.context s) m.rule.nodes).1 (m.walked s sheetFile).rule.nodes := by
  have converted : m.converted s = (s.convertNodes (m.context s) m.rule.nodes).1 := if_pos part
  rw [Met.walked, converted, walkNodes_map]
  exact leafwise_stay (walk_leafwise s sheetFile none) _

-- The report counts the declarations that were kept and has the comments that ask in vain.
theorem convertSheet_fares (s : Settings) (sheet : Sheet) :
    let run := s.convertSheet sheet
    ∃ own : List Outcome, own.length = sheet.met.length ∧
      run.report.outcome.ignored = (own.map (·.ignored)).sum ∧
      run.report.outcome.warnings = own.flatMap (·.warnings) ∧
      ∀ (rank : Nat) (m : Met) (o : Outcome), sheet.met[rank]? = some m → own[rank]? = some o →
        (m.takesPart s = false → o.ignored = 0 ∧ o.warnings = []) ∧
        (m.takesPart s = true → ∃ nodes images fates,
          run.sheet.met[rank]? = some { m with rule := { m.rule with nodes } } ∧
          Fares s (m.context s) [] m.rule.nodes images fates ∧ LeavesStay images nodes ∧
          o.ignored = fates.count .kept ∧ o.warnings = fates.filterMap (Fate.warning? (m.context s))) := by
  intro run
  have gathers : Gathers s sheet.met run.report.outcome := by
    rw [convertSheet_outcome]
    exact walkNodes_gathers fun n _ => walkNode_gathers n none
  refine ⟨sheet.met.map (Met.outcome s), List.length_map _, ?_, ?_, ?_⟩
  · rw [List.map_map]
    exact gathers.ignored
  · rw [List.flatMap_map]
    exact gathers.warnings
  · intro rank m o met own
    rw [List.getElem?_map, met] at own
    cases own
    refine ⟨fun apart => ?_, fun part => ?_⟩
    · have none : m.outcome s = .nothing := by simp [Met.outcome, apart]
      rw [none]
      exact ⟨rfl, rfl⟩
    · obtain ⟨images, fates, fares, same, ignored, warnings⟩ := convertNodes_fares s (m.context s) m.rule.nodes
      have whole : m.outcome s = (s.convertNodes (m.context s) m.rule.nodes).2 := if_pos part
      rw [whole]
      refine ⟨_, images, fates, convertSheet_met s sheet rank met, fares, ?_, ignored, warnings⟩
      exact same ▸ converted_stay part sheet.fileName

example :
    let sheet : Sheet := ⟨none, [.rule ".a" [.comment (.ownLine "px-to-vw-ignore-next"),
      .declaration (.of "width" "32px"), .comment (.behind "px-to-vw-ignore"),
      .declaration (.of "height" "32px")] none]⟩
    (standard.convertSheet sheet).sheet.nodes = [.rule ".a" [.declaration (.of "width" "32px"),
      .comment (.behind "px-to-vw-ignore"), .declaration (.of "height" "10vw")] none] := by
  decide +kernel

end Settings
end FluidSheet
