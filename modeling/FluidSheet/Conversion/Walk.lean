import FluidSheet.Conversion.Breakpoint
import FluidSheet.Conversion.Rule

-- One walk over the rules of a sheet, each before those below it.

namespace FluidSheet

structure Parent where
  isMedia : Bool
  params : String
deriving DecidableEq, Repr

namespace Parent

def of (r : AtRule) : Parent := ⟨r.isMedia, r.params⟩

def isMediaQuery (p : Parent) : Bool := p.isMedia && Text.trim p.params != ""

def isLandscape (p : Parent) : Bool := Text.contains p.params "landscape"

end Parent

def allowsIn (mediaQuery : Bool) : Option Parent → Bool
  | none => true
  | some p => mediaQuery && p.isMediaQuery

inductive Standing where
  | excluded
  | blacklisted
  | taken
deriving DecidableEq, Repr

-- What the walk carries along.
structure Walk where
  collectors : List Collector
  outcome : Outcome

namespace Walk

def tell (w : Walk) (outcome : Outcome) : Walk := { w with outcome := w.outcome ++ outcome }

def accumulate (w : Walk) (s : Settings) (file : String) (r : Rule) : Walk :=
  { w with collectors := (Collector.accumulateAll s file r w.collectors).1 }

end Walk

namespace Settings

-- No file is never excluded.
def standing (s : Settings) (file selector : String) : Standing :=
  if file ≠ "" ∧ s.excludes file then .excluded
  else if s.blacklists selector then .blacklisted
  else .taken

def fileOf (sheetFile : String) (source : Option Source) : String := (source.bind (·.file)).getD sheetFile

-- Copies are made of the rule as it stands before its own conversion.
def visitRule (s : Settings) (sheetFile : String) (parent : Option Parent) (w : Walk) (r : Rule) : List Node × Walk :=
  let file := fileOf sheetFile r.source
  match s.standing file r.selector with
  | .excluded => (r.nodes, w.tell { Outcome.event (.fileExcluded r.selector file) with excludedRules := 1 })
  | .blacklisted => (r.nodes, w.tell { Outcome.event (.selectorBlacklisted r.selector) with blacklistedRules := 1 })
  | .taken =>
    let w := if parent.isNone && !w.collectors.isEmpty then w.accumulate s file r else w
    if allowsIn s.mediaQuery parent then
      let (nodes, outcome) := s.convertNodes ⟨r.selector, file, s.landscape && parent.any Parent.isLandscape⟩ r.nodes
      (nodes, w.tell outcome)
    else (r.nodes, w)

end Settings

-- The turns that a walk takes below a node at most. Each child of a rule may become two.
mutual
def Node.turns : Node → Nat
  | .rule _ nodes _ | .atRule _ _ nodes _ => 2 * nodes.length + turnsAmong nodes + 1
  | .declaration _ | .comment _ => 0

def turnsAmong : List Node → Nat
  | [] => 0
  | n :: rest => n.turns + turnsAmong rest
end

theorem turnsAmong_behind (placed done : List Node) :
    turnsAmong (placed.reverse ++ done) = turnsAmong placed + turnsAmong done := by
  induction placed generalizing done with
  | nil => simp [turnsAmong]
  | cons n placed ih =>
    rw [List.reverse_cons, List.append_assoc, ih, List.singleton_append, turnsAmong, turnsAmong]
    omega

theorem dropped_turns (drops : Bool) (done : List Node) : (if drops then done.tail else done).length ≤ done.length ∧
    turnsAmong (if drops then done.tail else done) ≤ turnsAmong done := by
  cases drops with
  | false => exact ⟨Nat.le_refl _, Nat.le_refl _⟩
  | true =>
    cases done with
    | nil => exact ⟨Nat.le_refl _, Nat.le_refl _⟩
    | cons n done => exact ⟨Nat.le_succ _, Nat.le_add_left ..⟩

namespace Settings
variable {s : Settings} {c : Context}

theorem place_turns : (s.place c siblings d).1.length ≤ 2 ∧ turnsAmong (s.place c siblings d).1 = 0 := by
  unfold place
  split
  · exact ⟨Nat.le_succ 1, rfl⟩
  · dsimp only
    split
    · exact ⟨Nat.le_succ 1, rfl⟩
    · split
      · exact ⟨Nat.le_succ 1, rfl⟩
      · split
        · exact ⟨Nat.le_succ 1, rfl⟩
        · exact ⟨Nat.le_refl 2, rfl⟩

theorem step_turns (done : List Node) (n : Node) (rest : List Node) :
    (s.step c done n rest).placed.length ≤ 2 ∧ turnsAmong (s.step c done n rest).placed ≤ n.turns := by
  cases n with
  | rule | atRule | comment => exact ⟨Nat.le_succ 1, Nat.le_refl _⟩
  | declaration d =>
    have same : (s.step c done (.declaration d) rest).placed = [.declaration d] ∨
        (s.step c done (.declaration d) rest).placed = (s.place c (done ++ .declaration d :: rest) d).1 := by
      simp only [step]
      split
      · exact .inl rfl
      · split
        · exact .inl rfl
        · exact .inl rfl
        · exact .inr rfl
        · exact .inr rfl
    rcases same with same | same
    · rw [same]
      exact ⟨Nat.le_succ 1, Nat.le_refl _⟩
    · rw [same]
      exact ⟨place_turns.1, Nat.le_of_eq place_turns.2⟩

theorem convertNodesFrom_turns (done : List Node) (dropped : Bool) (nodes : List Node) :
    let converted := (s.convertNodesFrom c done dropped nodes).1
    converted.length ≤ done.length + 2 * nodes.length ∧ turnsAmong converted ≤ turnsAmong done + turnsAmong nodes := by
  induction nodes generalizing done dropped with
  | nil =>
    have turned := turnsAmong_behind done []
    rw [List.append_nil] at turned
    simp [convertNodesFrom, turned, turnsAmong]
  | cons n rest ih =>
    simp only [convertNodesFrom, turnsAmong, List.length_cons]
    split
    · have behind := ih done false
      omega
    · have placed := step_turns (s := s) (c := c) done n rest
      have fewer := dropped_turns (s.step c done n rest).dropsPrevious done
      have behind := ih ((s.step c done n rest).placed.reverse ++
        if (s.step c done n rest).dropsPrevious then done.tail else done) (s.step c done n rest).dropsNext
      rw [turnsAmong_behind, List.length_append, List.length_reverse] at behind
      dsimp only at behind ⊢
      omega

theorem visitRule_turns (sheetFile : String) (parent : Option Parent) (w : Walk) (r : Rule) :
    let nodes := (s.visitRule sheetFile parent w r).1
    nodes.length ≤ 2 * r.nodes.length ∧ turnsAmong nodes ≤ turnsAmong r.nodes := by
  have kept : r.nodes.length ≤ 2 * r.nodes.length ∧ turnsAmong r.nodes ≤ turnsAmong r.nodes := by omega
  unfold visitRule
  dsimp only
  split
  · exact kept
  · exact kept
  · split
    · have converted := convertNodesFrom_turns (s := s)
        (c := ⟨r.selector, fileOf sheetFile r.source, s.landscape && parent.any Parent.isLandscape⟩) [] false r.nodes
      simpa [turnsAmong, convertNodes] using converted
    · exact kept

-- Rules below a rule count as standing outside any at-rule.
def visitNodes (s : Settings) (sheetFile : String) (parent : Option Parent) (w : Walk) (nodes : List Node) : List Node × Walk :=
  match nodes with
  | [] => ([], w)
  | .rule selector nodes source :: rest =>
    let own := s.visitRule sheetFile parent w ⟨selector, nodes, source⟩
    let below := s.visitNodes sheetFile none own.2 own.1
    let after := s.visitNodes sheetFile parent below.2 rest
    (.rule selector below.1 source :: after.1, after.2)
  | .atRule name params nodes source :: rest =>
    let below := s.visitNodes sheetFile (some (.of ⟨name, params, [], source⟩)) w nodes
    let after := s.visitNodes sheetFile parent below.2 rest
    (.atRule name params below.1 source :: after.1, after.2)
  | n :: rest =>
    let after := s.visitNodes sheetFile parent w rest
    (n :: after.1, after.2)
termination_by nodes.length + turnsAmong nodes
decreasing_by
  · have own := visitRule_turns (s := s) sheetFile parent w ⟨selector, nodes, source⟩
    simp only [turnsAmong, Node.turns, List.length_cons] at own ⊢
    omega
  all_goals
    simp only [turnsAmong, Node.turns, List.length_cons]
    omega

end Settings
end FluidSheet
