import FluidSheet.Proofs.Conversion.Frame

-- The loop over the children once more, by the place of the child at hand.

namespace FluidSheet

structure Cursor where
  rule : Rule
  place : Nat
deriving DecidableEq, Repr

structure Turn where
  next : Cursor
  outcome : Outcome

-- `visits`: for every declaration looked at, the children that were still to come, itself the first.
structure Ran where
  rule : Rule
  outcome : Outcome
  visits : List (List Node)

def opensWithDeclaration : List Node → Bool
  | .declaration _ :: _ => true
  | _ => false

namespace Rule

def set? (r : Rule) (place : Nat) (n : Node) : Option Rule :=
  if place < r.nodes.length then some { r with nodes := r.nodes.set place n } else none

def insertAfter? (r : Rule) (place : Nat) (n : Node) : Option Rule :=
  if place + 1 ≤ r.nodes.length then some (r.insertAfter place n) else none

end Rule

namespace Cursor

def ahead (p : Cursor) : List Node := p.rule.nodes.drop p.place

def left (p : Cursor) : Nat := p.rule.nodes.length - p.place

def visit (p : Cursor) : List (List Node) := if opensWithDeclaration p.ahead then [p.ahead] else []

-- Between the children that are done, last one first, and those to come.
def between (r : Rule) (done rest : List Node) : Cursor := ⟨{ r with nodes := done.reverse ++ rest }, done.length⟩

end Cursor

namespace Settings

def settleAt (s : Settings) (c : Context) (p : Cursor) (d : Declaration) : Option Turn :=
  match s.targetIn? c d.prop with
  | none => some ⟨⟨p.rule, p.place + 1⟩, Outcome.event (.noReferenceWidth d.prop c.file)⟩
  | some target =>
    let value := s.convert target d.value
    if value = d.value then some ⟨⟨p.rule, p.place + 1⟩, .nothing⟩
    else if declares p.rule.nodes d.prop value then
      some ⟨⟨p.rule, p.place + 1⟩, { Outcome.nothing with duplicates := 1 }⟩
    else
      let told := Outcome.event (.converted d.prop d.value value)
      if s.replace then do
        let rule ← p.rule.set? p.place (.declaration (d.withValue value))
        return ⟨⟨rule, p.place + 1⟩, { told with converted := 1 }⟩
      else do
        let rule ← p.rule.insertAfter? p.place (.declaration (d.withValue value))
        return ⟨⟨rule, p.place + 2⟩, { told with inserted := 1 }⟩

def heed (s : Settings) (c : Context) (p : Cursor) (d : Declaration) : Verdict → Option Turn
  | .keepDroppingPrevious => do
    let (_, rule) ← p.rule.remove? (← p.place.ppred)
    return ⟨⟨rule, p.place⟩, ignored (.ignoredByPreceding d.prop)⟩
  | .keepDroppingNext => do
    let (_, rule) ← p.rule.remove? (p.place + 1)
    return ⟨⟨rule, p.place + 1⟩, ignored (.ignoredByTrailing d.prop)⟩
  | .misplaced _ => do
    let behind ← p.rule.nodes[p.place + 1]?
    let turn ← s.settleAt c p d
    return { turn with outcome := (behind.comment?.map (warned c)).getD .nothing ++ turn.outcome }
  | .convert => s.settleAt c p d

def turn (s : Settings) (c : Context) (p : Cursor) : Option Turn := do
  match ← p.rule.nodes[p.place]? with
  | .declaration d =>
    if s.isCandidate d then s.heed c p d (Verdict.atPlace p.rule.nodes p.place)
    else return ⟨⟨p.rule, p.place + 1⟩, .nothing⟩
  | _ => return ⟨⟨p.rule, p.place + 1⟩, .nothing⟩

end Settings

namespace Cursor

theorem between_exact (inside : p.place ≤ p.rule.nodes.length) :
    p = between p.rule (p.rule.nodes.take p.place).reverse p.ahead := by
  simp [between, ahead, inside]

theorem between_ahead (r : Rule) (done rest : List Node) : (between r done rest).ahead = rest := by
  simp [between, ahead]

theorem between_left (r : Rule) (done rest : List Node) : (between r done rest).left = rest.length := by
  simp [between, left]

theorem between_step (r : Rule) (done rest : List Node) (n : Node) :
    between r (n :: done) rest = ⟨{ r with nodes := done.reverse ++ n :: rest }, done.length + 1⟩ := by
  simp [between]

end Cursor

theorem atPlace_between (done rest : List Node) (n : Node) :
    Verdict.atPlace (done.reverse ++ n :: rest) done.length = Verdict.between done.head? rest.head? := by
  have after : (done.reverse ++ n :: rest)[done.length + 1]? = rest.head? := by
    rw [List.getElem?_append_right (by simp), List.length_reverse, Nat.add_sub_cancel_left, List.getElem?_cons_succ,
      List.head?_eq_getElem?]
  have before : (if done.length = 0 then none else (done.reverse ++ n :: rest)[done.length - 1]?) = done.head? := by
    cases done with
    | nil => rfl
    | cons m older => simp
  rw [Verdict.atPlace, before, after]

namespace Rule

theorem set_between (r : Rule) (done rest : List Node) (n m : Node) :
    { r with nodes := done.reverse ++ n :: rest }.set? done.length m =
      some { r with nodes := done.reverse ++ m :: rest } := by
  simp [set?]

theorem insertAfter_between (r : Rule) (done rest : List Node) (n m : Node) :
    { r with nodes := done.reverse ++ n :: rest }.insertAfter? done.length m =
      some { r with nodes := done.reverse ++ n :: m :: rest } := by
  have place : done.length + 1 = (done.reverse ++ [n]).length := by simp
  have whole : done.reverse ++ n :: rest = (done.reverse ++ [n]) ++ rest := by simp
  rw [insertAfter?, if_pos (by simp), insertAfter]
  dsimp only
  rw [place, whole, List.take_left, List.drop_left]
  simp

theorem remove_between (r : Rule) (done rest : List Node) (n : Node) :
    { r with nodes := done.reverse ++ n :: rest }.remove? done.length =
      some (n, { r with nodes := done.reverse ++ rest }) := by
  have place : done.length = done.reverse.length := List.length_reverse.symm
  rw [remove?]
  dsimp only
  rw [place, List.getElem?_append_right (Nat.le_refl _), List.eraseIdx_append_of_length_le (Nat.le_refl _), Nat.sub_self]
  rfl

end Rule

namespace Settings
variable {s : Settings} {c : Context}

theorem settleAt_place (r : Rule) (done rest : List Node) (d : Declaration) :
    let placed := s.place c (done ++ .declaration d :: rest) d
    s.settleAt c (.between r done (.declaration d :: rest)) d =
      some ⟨.between r (placed.1.reverse ++ done) rest, placed.2⟩ := by
  have same : s.place c (done ++ .declaration d :: rest) d = s.place c (done.reverse ++ .declaration d :: rest) d :=
    place_congr fun e => by simp
  rw [same]
  dsimp only
  unfold settleAt place Cursor.between
  dsimp only
  cases s.targetIn? c d.prop with
  | none => simp
  | some t =>
    by_cases unchanged : s.convert t d.value = d.value
    · simp [unchanged]
    · by_cases found : declares (done.reverse ++ .declaration d :: rest) d.prop (s.convert t d.value) = true
      · simp [unchanged, found]
      · cases replaced : s.replace with
        | true => simp [unchanged, found, Rule.set_between]
        | false => simp [unchanged, found, Rule.insertAfter_between]

theorem heed_previous (r : Rule) (older rest : List Node) (n : Node) :
    s.heed c (.between r (m :: older) (n :: rest)) d .keepDroppingPrevious =
      some ⟨.between r (n :: older) rest, ignored (.ignoredByPreceding d.prop)⟩ := by
  have shifted : Cursor.between r (m :: older) (n :: rest) =
      ⟨{ r with nodes := older.reverse ++ m :: n :: rest }, older.length + 1⟩ := Cursor.between_step ..
  rw [shifted, Cursor.between_step, heed]
  dsimp only
  rw [Nat.ppred_succ, Option.bind_eq_bind, Option.bind_some, Rule.remove_between]
  rfl

theorem heed_next (r : Rule) (done rest : List Node) (n : Node) :
    s.heed c (.between r done (n :: m :: rest)) d .keepDroppingNext =
      some ⟨.between r (n :: done) rest, ignored (.ignoredByTrailing d.prop)⟩ := by
  have place : (Cursor.between r done (n :: m :: rest)).place + 1 = (n :: done).length := rfl
  have whole : (Cursor.between r done (n :: m :: rest)).rule = { r with nodes := (n :: done).reverse ++ m :: rest } := by
    simp [Cursor.between]
  rw [heed, place, whole, Rule.remove_between]
  rfl

theorem heed_misplaced (r : Rule) (done rest : List Node) (d : Declaration) :
    let placed := s.place c (done ++ .declaration d :: .comment m :: rest) d
    s.heed c (.between r done (.declaration d :: .comment m :: rest)) d (.misplaced m) =
      some ⟨.between r (placed.1.reverse ++ done) (.comment m :: rest), warned c m ++ placed.2⟩ := by
  have behind : (Cursor.between r done (.declaration d :: .comment m :: rest)).rule.nodes[
      (Cursor.between r done (.declaration d :: .comment m :: rest)).place + 1]? = some (.comment m) := by
    simp [Cursor.between]
  dsimp only
  rw [heed, behind, settleAt_place]
  rfl

-- From a state of the loop over the list, a turn leads to the state that follows there.
theorem turn_step (r : Rule) (done rest : List Node) (n : Node) :
    let t := s.step c done n rest
    s.turn c (.between r done (n :: rest)) =
      some ⟨.between r (t.placed.reverse ++ if t.dropsPrevious then done.tail else done)
        (if t.dropsNext then rest.tail else rest), t.outcome⟩ := by
  have here : (Cursor.between r done (n :: rest)).rule.nodes[(Cursor.between r done (n :: rest)).place]? = some n := by
    simp [Cursor.between]
  have still : (⟨(Cursor.between r done (n :: rest)).rule, (Cursor.between r done (n :: rest)).place + 1⟩ : Cursor) =
      .between r (n :: done) rest := (Cursor.between_step ..).symm
  cases n with
  | rule | atRule | comment => simp [turn, here, still, step]
  | declaration d =>
    cases candidate : s.isCandidate d with
    | false => simp [turn, here, still, step, candidate]
    | true =>
      have heeded : s.turn c (.between r done (.declaration d :: rest)) =
          s.heed c (.between r done (.declaration d :: rest)) d (Verdict.between done.head? rest.head?) := by
        rw [turn, here, ← atPlace_between done rest (.declaration d)]
        exact if_pos candidate
      rw [heeded]
      simp only [step, candidate, Bool.not_true, Bool.false_eq_true, if_false]
      cases verdict : Verdict.between done.head? rest.head? with
      | keepDroppingPrevious =>
        obtain ⟨m, before, -⟩ := between_previous verdict
        obtain ⟨older, rfl⟩ := List.head?_eq_some_iff.mp before
        exact heed_previous r older rest (.declaration d)
      | keepDroppingNext =>
        obtain ⟨m, behind, -⟩ := between_next verdict
        obtain ⟨later, rfl⟩ := List.head?_eq_some_iff.mp behind
        exact heed_next r done later (.declaration d)
      | misplaced m =>
        obtain ⟨later, rfl⟩ := List.head?_eq_some_iff.mp (between_misplaced verdict).1
        exact heed_misplaced r done later d
      | convert => exact settleAt_place r done rest d

-- Every place that a turn goes to is there, and fewer children are to come after it.
theorem turn_decreases (s : Settings) (c : Context) (p : Cursor) (inside : p.place < p.rule.nodes.length) :
    ∃ t, s.turn c p = some t ∧ t.next.left < p.left := by
  have here : p.ahead ≠ [] := by simpa [Cursor.ahead] using inside
  obtain ⟨n, rest, ahead⟩ := List.exists_cons_of_ne_nil here
  have split := Cursor.between_exact (Nat.le_of_lt inside)
  rw [ahead] at split
  rw [split]
  refine ⟨_, turn_step .., ?_⟩
  rw [Cursor.between_left, Cursor.between_left, List.length_cons]
  split_ifs
  · rw [List.length_tail]
    omega
  · exact Nat.lt_succ_self _

theorem turned_decreases {p : Cursor} (inside : p.place < p.rule.nodes.length) (turned : s.turn c p = some t) :
    t.next.left < p.left := by
  obtain ⟨t', same, fewer⟩ := s.turn_decreases c p inside
  cases turned.symm.trans same
  exact fewer

def loop (s : Settings) (c : Context) (p : Cursor) : Option Ran :=
  if inside : p.place < p.rule.nodes.length then
    match turned : s.turn c p with
    | none => none
    | some t =>
      have := turned_decreases inside turned
      (s.loop c t.next).map fun ran => ⟨ran.rule, t.outcome ++ ran.outcome, p.visit ++ ran.visits⟩
  else some ⟨p.rule, .nothing, []⟩
termination_by p.left

theorem loop_over (p : Cursor) (past : p.rule.nodes.length ≤ p.place) : s.loop c p = some ⟨p.rule, .nothing, []⟩ := by
  rw [loop, dif_neg (Nat.not_lt.mpr past)]

theorem loop_turn {p : Cursor} (inside : p.place < p.rule.nodes.length) (turned : s.turn c p = some t)
    (ran : s.loop c t.next = some r) : s.loop c p = some ⟨r.rule, t.outcome ++ r.outcome, p.visit ++ r.visits⟩ := by
  rw [loop, dif_pos inside]
  split
  · rename_i stopped
    cases turned.symm.trans stopped
  · rename_i t' turned'
    cases turned.symm.trans turned'
    rw [ran]
    rfl

theorem step_drops (drops : (s.step c done n rest).dropsNext = true) : ∃ m later, rest = .comment m :: later := by
  cases n with
  | rule | atRule | comment => cases drops
  | declaration d =>
    unfold step at drops
    dsimp only at drops
    split at drops
    · cases drops
    · split at drops
      · cases drops
      · rename_i verdict
        obtain ⟨m, behind, -⟩ := between_next verdict
        exact ⟨m, List.head?_eq_some_iff.mp behind⟩
      · cases drops
      · cases drops

theorem visits_cons (r : Rule) (done rest : List Node) (n : Node) :
    (Cursor.between r done (n :: rest)).visit ++ rest.tails.filter opensWithDeclaration =
      (n :: rest).tails.filter opensWithDeclaration := by
  rw [List.tails_cons, List.filter_cons, Cursor.visit, Cursor.between_ahead]
  split_ifs <;> rfl

-- Induction on the children still to come, of which a turn takes one or two.
theorem loop_between (r : Rule) (done rest : List Node) :
    s.loop c (.between r done rest) = some ⟨{ r with nodes := (s.convertNodesFrom c done false rest).1 },
      (s.convertNodesFrom c done false rest).2, rest.tails.filter opensWithDeclaration⟩ := by
  induction length : rest.length using Nat.strong_induction_on generalizing done rest with
  | _ k ih =>
    cases rest with
    | nil =>
      rw [loop_over _ (by simp [Cursor.between])]
      simp [Cursor.between, convertNodesFrom, opensWithDeclaration]
    | cons n rest =>
      have inside : (Cursor.between r done (n :: rest)).place < (Cursor.between r done (n :: rest)).rule.nodes.length := by
        simp [Cursor.between]
      have turned := turn_step (s := s) (c := c) r done rest n
      dsimp only at turned
      cases drops : (s.step c done n rest).dropsNext with
      | false =>
        rw [drops] at turned
        rw [loop_turn inside turned (ih rest.length (by simp [← length]) _ rest rfl)]
        rw [visits_cons, convertNodesFrom]
        simp [drops]
      | true =>
        obtain ⟨m, later, rfl⟩ := step_drops drops
        rw [drops] at turned
        rw [loop_turn inside turned (ih later.length (by simp [← length]) _ later rfl)]
        have visits : (Cursor.between r done (n :: .comment m :: later)).visit ++ later.tails.filter opensWithDeclaration =
            (n :: .comment m :: later).tails.filter opensWithDeclaration := visits_cons r done (.comment m :: later) n
        rw [visits, convertNodesFrom]
        simp [drops, convertNodesFrom]

-- The children that were to come when a declaration was looked at are those behind it at first: each
-- declaration has its turn once, in order, and no other has one.
theorem loop_looks_once (s : Settings) (c : Context) (r : Rule) :
    (∀ p : Cursor, p.place < p.rule.nodes.length → ∃ t, s.turn c p = some t ∧ t.next.left < p.left) ∧
    s.loop c ⟨r, 0⟩ = some ⟨{ r with nodes := (s.convertNodes c r.nodes).1 }, (s.convertNodes c r.nodes).2,
      r.nodes.tails.filter opensWithDeclaration⟩ :=
  ⟨s.turn_decreases c, loop_between r [] r.nodes⟩

theorem loop_looks_once_marked :
    let s : Settings := { standard with replace := false }
    let c : Context := ⟨".a", "", false⟩
    let r : Rule := ⟨".a", [.comment (.ownLine "px-to-vw-ignore-next"), .declaration (.of "width" "10px"),
      .declaration (.of "top" "20px"), .comment (.behind "px-to-vw-ignore"), .declaration (.of "left" "32px")], none⟩
    (1 < r.nodes.length ∧ ∃ t, s.turn c ⟨r, 1⟩ = some t ∧ t.next.left < 4) ∧
    ∃ ran, s.loop c ⟨r, 0⟩ = some ran ∧ ran.visits = [r.nodes.drop 1, r.nodes.drop 2, r.nodes.drop 4] ∧
      ran.rule.nodes = [.declaration (.of "width" "10px"), .declaration (.of "top" "20px"),
        .declaration (.of "left" "32px"), .declaration (.of "left" "10vw")] := by
  intro s c r
  obtain ⟨turns, ran⟩ := loop_looks_once s c r
  exact ⟨⟨by decide, turns ⟨r, 1⟩ (by decide)⟩, _, ran, rfl, by decide +kernel⟩

end Settings
end FluidSheet
