import Mathlib
import FluidSheet.Conversion.Sheet

namespace FluidSheet

-- `dropped`: whether the next node has gone with the declaration before it.
structure Pass where
  done : List Node
  dropped : Bool
deriving DecidableEq, Repr

namespace Node

def isMarker (n : Node) : Bool :=
  n.comment?.any fun c => c.marker = Ignore.nextMarker || c.marker = Ignore.previousMarker

def isBlock (n : Node) : Bool := n.children?.isSome

theorem declaration_exact {n : Node} : n.declaration? = some d ↔ n = .declaration d := by
  cases n <;> simp [declaration?]

theorem mem_declarations {nodes : List Node} : d ∈ nodes.filterMap declaration? ↔ .declaration d ∈ nodes := by
  rw [List.mem_filterMap]
  constructor
  · rintro ⟨n, member, found⟩
    rwa [← declaration_exact.mp found]
  · intro member
    exact ⟨_, member, rfl⟩

theorem comment_exact {n : Node} : n.comment? = some m ↔ n = .comment m := by
  cases n <;> simp [comment?]

theorem mem_comments {nodes : List Node} : m ∈ nodes.filterMap comment? ↔ .comment m ∈ nodes := by
  simp only [List.mem_filterMap, comment_exact]
  exact exists_eq_right

end Node

def Unmarked (nodes : List Node) : Prop := ∀ n ∈ nodes, n.isMarker = false

instance (nodes : List Node) : Decidable (Unmarked nodes) :=
  inferInstanceAs (Decidable (∀ n ∈ nodes, n.isMarker = false))

theorem declares_exact : declares nodes prop value = true ↔
    ∃ d, .declaration d ∈ nodes ∧ d.prop = prop ∧ d.value = value := by
  unfold declares
  rw [List.any_eq_true]
  constructor
  · rintro ⟨n, member, same⟩
    cases n with
    | declaration d => exact ⟨d, member, by simpa [Node.isDeclarationOf] using same⟩
    | rule | atRule | comment => simp [Node.isDeclarationOf] at same
  · rintro ⟨d, member, same⟩
    exact ⟨_, member, by simpa [Node.isDeclarationOf] using same⟩

theorem declares_congr (same : ∀ d, .declaration d ∈ as ↔ .declaration d ∈ bs) :
    declares as prop value = declares bs prop value := by
  rw [Bool.eq_iff_iff, declares_exact, declares_exact]
  simp only [same]

namespace Settings
variable {s : Settings} {c : Context}

def wanted? (s : Settings) (c : Context) (d : Declaration) : Option String :=
  if s.isCandidate d then
    (s.targetIn? c d.prop).bind fun t =>
      if s.convert t d.value = d.value then none else some (s.convert t d.value)
  else none

def settle (s : Settings) (c : Context) (siblings : List Node) (d : Declaration) : List Node :=
  match s.wanted? c d with
  | none => [.declaration d]
  | some value =>
    if declares siblings d.prop value then [.declaration d]
    else if s.replace then [.declaration (d.withValue value)]
    else [.declaration d, .declaration (d.withValue value)]

def settleNode (s : Settings) (c : Context) (siblings : List Node) : Node → List Node
  | .declaration d => s.settle c siblings d
  | n => [n]

theorem wanted_exact : s.wanted? c d = some value ↔ s.isCandidate d = true ∧
    ∃ t, s.targetIn? c d.prop = some t ∧ s.convert t d.value = value ∧ value ≠ d.value := by
  unfold wanted?
  by_cases candidate : s.isCandidate d = true
  · simp only [candidate, if_true, Option.bind_eq_some_iff, true_and]
    constructor
    · rintro ⟨t, target, found⟩
      split at found
      · cases found
      · rename_i other
        cases Option.some.inj found
        exact ⟨t, target, rfl, other⟩
    · rintro ⟨t, target, rfl, other⟩
      exact ⟨t, target, if_neg other⟩
  · simp [candidate]

-- The declaration stays alone, or the converted value comes last.
theorem settle_cases (s : Settings) (c : Context) (siblings : List Node) (d : Declaration) :
    (s.settle c siblings d = [.declaration d] ∧
      ∀ value, s.wanted? c d = some value → declares siblings d.prop value = true) ∨
    ∃ value, s.wanted? c d = some value ∧ declares siblings d.prop value = false ∧ s.settle c siblings d =
      (if s.replace then [] else [.declaration d]) ++ [.declaration (d.withValue value)] := by
  unfold settle
  cases wanted : s.wanted? c d with
  | none => exact .inl ⟨rfl, fun _ found => by cases found⟩
  | some value =>
    cases found : declares siblings d.prop value with
    | true =>
      refine .inl ⟨by simp [found], ?_⟩
      intro value' same
      cases same
      exact found
    | false =>
      refine .inr ⟨value, rfl, found, ?_⟩
      cases s.replace <;> simp [found]

theorem place_settle (candidate : s.isCandidate d = true) : (s.place c siblings d).1 = s.settle c siblings d := by
  unfold place settle wanted?
  cases target : s.targetIn? c d.prop with
  | none => simp
  | some t =>
    by_cases same : s.convert t d.value = d.value
    · simp [same]
    · simp only [candidate, if_true, Option.bind_some, same, if_false]
      split
      · rfl
      · split <;> rfl

def advance (s : Settings) (c : Context) (p : Pass) (n : Node) (rest : List Node) : Pass :=
  if p.dropped then ⟨p.done, false⟩
  else
    let t := s.step c p.done n rest
    ⟨t.placed.reverse ++ (if t.dropsPrevious then p.done.tail else p.done), t.dropsNext⟩

-- The state once the nodes of `before` are done and those of `after` are still to come.
def reach (s : Settings) (c : Context) (p : Pass) : (before after : List Node) → Pass
  | [], _ => p
  | n :: before, after => s.reach c (s.advance c p n (before ++ after)) before after

inductive Moves (s : Settings) (c : Context) : Pass → Node → List Node → Pass → Prop where
  | gone : Moves s c ⟨done, true⟩ n rest ⟨done, false⟩
  | passed (plain : ∀ d, n = .declaration d → s.isCandidate d = false) :
      Moves s c ⟨done, false⟩ n rest ⟨n :: done, false⟩
  | dropPrevious (candidate : s.isCandidate d = true) (marked : m.marker = Ignore.nextMarker) :
      Moves s c ⟨.comment m :: done, false⟩ (.declaration d) rest ⟨.declaration d :: done, false⟩
  | dropNext (candidate : s.isCandidate d = true) (marked : m.marker = Ignore.previousMarker)
      (behind : m.sameLine = true) :
      Moves s c ⟨done, false⟩ (.declaration d) (.comment m :: rest) ⟨.declaration d :: done, true⟩
  | settled (candidate : s.isCandidate d = true) :
      Moves s c ⟨done, false⟩ (.declaration d) rest
        ⟨(s.settle c (done ++ .declaration d :: rest) d).reverse ++ done, false⟩

end Settings

theorem marked_exact : Ignore.marked? marker n = some m ↔ n = some (.comment m) ∧ m.marker = marker := by
  unfold Ignore.marked?
  rw [Option.filter_eq_some_iff]
  constructor
  · rintro ⟨found, same⟩
    cases n with
    | none => cases found
    | some n =>
      cases n with
      | comment m' => cases found; exact ⟨rfl, by simpa using same⟩
      | rule | atRule | declaration => cases found
  · rintro ⟨rfl, same⟩
    exact ⟨rfl, by simpa using same⟩

theorem between_previous (judged : Verdict.between previous next = .keepDroppingPrevious) :
    ∃ m, previous = some (.comment m) ∧ m.marker = Ignore.nextMarker := by
  unfold Verdict.between at judged
  split at judged
  · rename_i found
    obtain ⟨m, found⟩ := Option.isSome_iff_exists.mp found
    exact ⟨m, marked_exact.mp found⟩
  · split at judged
    · split at judged <;> cases judged
    · cases judged

theorem between_next (judged : Verdict.between previous next = .keepDroppingNext) :
    ∃ m, next = some (.comment m) ∧ m.marker = Ignore.previousMarker ∧ m.sameLine = true := by
  unfold Verdict.between at judged
  split at judged
  · cases judged
  · split at judged
    · rename_i m found
      split at judged
      · rename_i behind
        obtain ⟨here, marked⟩ := marked_exact.mp found
        exact ⟨m, here, marked, behind⟩
      · cases judged
    · cases judged

theorem between_misplaced (judged : Verdict.between previous next = .misplaced m) :
    next = some (.comment m) ∧ m.marker = Ignore.previousMarker ∧ m.sameLine = false := by
  unfold Verdict.between at judged
  split at judged
  · cases judged
  · split at judged
    · rename_i found
      split at judged
      · cases judged
      · rename_i apart
        cases judged
        obtain ⟨here, marked⟩ := marked_exact.mp found
        exact ⟨here, marked, by simpa using apart⟩
    · cases judged

namespace Settings
variable {s : Settings} {c : Context}

theorem advance_moves (s : Settings) (c : Context) (p : Pass) (n : Node) (rest : List Node) :
    Moves s c p n rest (s.advance c p n rest) := by
  obtain ⟨done, dropped⟩ := p
  cases dropped with
  | true => exact .gone
  | false =>
    cases n with
    | rule | atRule | comment => exact .passed (fun d same => by cases same)
    | declaration d =>
      cases candidate : s.isCandidate d with
      | false =>
        have still : s.advance c ⟨done, false⟩ (.declaration d) rest = ⟨.declaration d :: done, false⟩ := by
          simp [advance, step, candidate]
        rw [still]
        exact .passed (fun e same => by cases same; exact candidate)
      | true =>
        cases judged : Verdict.between done.head? rest.head? with
        | keepDroppingPrevious =>
          have moved : s.advance c ⟨done, false⟩ (.declaration d) rest = ⟨.declaration d :: done.tail, false⟩ := by
            simp [advance, step, candidate, judged]
          obtain ⟨m, here, marked⟩ := between_previous judged
          obtain ⟨older, rfl⟩ := List.head?_eq_some_iff.mp here
          rw [moved]
          exact .dropPrevious candidate marked
        | keepDroppingNext =>
          have moved : s.advance c ⟨done, false⟩ (.declaration d) rest = ⟨.declaration d :: done, true⟩ := by
            simp [advance, step, candidate, judged]
          obtain ⟨m, here, marked, behind⟩ := between_next judged
          obtain ⟨later, rfl⟩ := List.head?_eq_some_iff.mp here
          rw [moved]
          exact .dropNext candidate marked behind
        | convert | misplaced =>
          have moved : s.advance c ⟨done, false⟩ (.declaration d) rest =
              ⟨(s.settle c (done ++ .declaration d :: rest) d).reverse ++ done, false⟩ := by
            simp [advance, step, candidate, judged, place_settle candidate]
          rw [moved]
          exact .settled candidate

theorem convertNodesFrom_reach (s : Settings) (c : Context) (p : Pass) (nodes : List Node) :
    (s.convertNodesFrom c p.done p.dropped nodes).1 = (s.reach c p nodes []).done.reverse := by
  induction nodes generalizing p with
  | nil => rfl
  | cons n rest ih =>
    simp only [convertNodesFrom, reach, advance, List.append_nil]
    split
    · exact ih ⟨p.done, false⟩
    · exact ih ⟨_, _⟩

theorem convertNodes_reach (s : Settings) (c : Context) (nodes : List Node) :
    (s.convertNodes c nodes).1 = (s.reach c ⟨[], false⟩ nodes []).done.reverse :=
  convertNodesFrom_reach s c ⟨[], false⟩ nodes

theorem reach_append (s : Settings) (c : Context) (p : Pass) (before between after : List Node) :
    s.reach c p (before ++ between) after = s.reach c (s.reach c p before (between ++ after)) between after := by
  induction before generalizing p with
  | nil => rfl
  | cons n before ih =>
    simp only [List.cons_append, reach, List.append_assoc]
    exact ih _

-- What every node keeps, the loop keeps.
theorem reach_keeps (I : Pass → List Node → Prop)
    (kept : ∀ p n rest, I p (n :: rest) → I (s.advance c p n rest) rest)
    (holds : I p (before ++ after)) : I (s.reach c p before after) after := by
  induction before generalizing p with
  | nil => exact holds
  | cons n before ih => exact ih (kept p n (before ++ after) holds)

end Settings
end FluidSheet
