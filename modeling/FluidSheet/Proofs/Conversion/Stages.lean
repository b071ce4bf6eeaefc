import FluidSheet.Proofs.Conversion.Frame

-- Children are converted below a rule, then its own; what is copied is found in the sheet as it was.

namespace FluidSheet
namespace Settings

def convertRule (s : Settings) (sheetFile : String) (parent : Option Parent) (selector : String)
    (source : Option Source) (nodes : List Node) : List Node × Outcome :=
  let file := fileOf sheetFile source
  match s.standing file selector with
  | .excluded => (nodes, { Outcome.event (.fileExcluded selector file) with excludedRules := 1 })
  | .blacklisted => (nodes, { Outcome.event (.selectorBlacklisted selector) with blacklistedRules := 1 })
  | .taken =>
    if allowsIn s.mediaQuery parent then
      s.convertNodes ⟨selector, file, s.landscape && parent.any Parent.isLandscape⟩ nodes
    else (nodes, .nothing)

mutual
def walkNode (s : Settings) (sheetFile : String) (parent : Option Parent) : Node → Node × Outcome
  | .rule selector nodes source =>
    let (nodes, below) := walkNodes s sheetFile none nodes
    let (nodes, own) := s.convertRule sheetFile parent selector source nodes
    (.rule selector nodes source, own ++ below)
  | .atRule name params nodes source =>
    let (nodes, below) := walkNodes s sheetFile (some (.of ⟨name, params, [], source⟩)) nodes
    (.atRule name params nodes source, below)
  | n => (n, .nothing)

def walkNodes (s : Settings) (sheetFile : String) (parent : Option Parent) : List Node → List Node × Outcome
  | [] => ([], .nothing)
  | n :: rest =>
    let (n, here) := walkNode s sheetFile parent n
    let (rest, after) := walkNodes s sheetFile parent rest
    (n :: rest, here ++ after)
end

-- The rules that breakpoints are made from, with their files: those outside at-rules that are taken.
mutual
def sourcesIn (s : Settings) (sheetFile : String) (inAtRule : Bool) : Node → List (Rule × String)
  | .rule selector nodes source =>
    let file := fileOf sheetFile source
    let below := sourcesAmong s sheetFile false nodes
    if !inAtRule && s.standing file selector = .taken then (⟨selector, nodes, source⟩, file) :: below
    else below
  | .atRule _ _ nodes _ => sourcesAmong s sheetFile true nodes
  | _ => []

def sourcesAmong (s : Settings) (sheetFile : String) (inAtRule : Bool) : List Node → List (Rule × String)
  | [] => []
  | n :: rest => sourcesIn s sheetFile inAtRule n ++ sourcesAmong s sheetFile inAtRule rest
end

def blocks (s : Settings) (sources : List (Rule × String)) : List AtRule :=
  s.breakpoints.filterMap fun b => b.block (sources.filterMap fun (r, file) => b.copy? s file r)

def staged (s : Settings) (sheet : Sheet) : Conversion :=
  let (nodes, outcome) := s.walkNodes sheet.fileName none sheet.nodes
  .of sheet nodes outcome (s.blocks (s.sourcesAmong sheet.fileName false sheet.nodes))

end Settings

theorem outcome_assoc (a b c : Outcome) : a ++ b ++ c = a ++ (b ++ c) := by
  change Outcome.append (Outcome.append a b) c = Outcome.append a (Outcome.append b c)
  simp only [Outcome.append, Nat.add_assoc, List.append_assoc]

theorem nothing_outcome (a : Outcome) : Outcome.nothing ++ a = a := by
  change Outcome.append Outcome.nothing a = a
  simp only [Outcome.append, Outcome.nothing, Nat.zero_add, List.nil_append]

theorem outcome_nothing (a : Outcome) : a ++ Outcome.nothing = a := by
  change Outcome.append a Outcome.nothing = a
  simp only [Outcome.append, Outcome.nothing, Nat.add_zero, List.append_nil]

namespace Collector
variable {s : Settings}

def fed (s : Settings) (sources : List (Rule × String)) (c : Collector) : Collector :=
  { c with rules := c.rules ++ sources.filterMap fun (r, file) => c.breakpoint.copy? s file r }

theorem fed_nothing (c : Collector) : c.fed s [] = c := by
  simp [fed]

theorem fed_append (c : Collector) (xs ys : List (Rule × String)) : c.fed s (xs ++ ys) = (c.fed s xs).fed s ys := by
  simp [fed]

theorem accumulate_fed (c : Collector) (file : String) (r : Rule) : (c.accumulate s file r).1 = c.fed s [(r, file)] := by
  unfold accumulate fed
  split <;> rename_i found <;> simp [found]

end Collector

namespace Walk
variable {s : Settings}

def fed (s : Settings) (sources : List (Rule × String)) (w : Walk) : Walk :=
  { w with collectors := w.collectors.map (Collector.fed s sources) }

theorem fed_nothing (w : Walk) : w.fed s [] = w := by
  have same : Collector.fed s [] = id := funext Collector.fed_nothing
  simp [fed, same]

theorem fed_append (w : Walk) (xs ys : List (Rule × String)) : w.fed s (xs ++ ys) = (w.fed s xs).fed s ys := by
  simp [fed, Collector.fed_append]

theorem accumulate_fed (w : Walk) (file : String) (r : Rule) : w.accumulate s file r = w.fed s [(r, file)] := by
  simp [accumulate, fed, Collector.accumulateAll, Collector.accumulate_fed]

theorem tell_nothing (w : Walk) : w.tell .nothing = w := by
  simp [tell, outcome_nothing]

-- After some rules have come by and this has been told of them.
def after (s : Settings) (sources : List (Rule × String)) (told : Outcome) (w : Walk) : Walk := (w.fed s sources).tell told

theorem after_after (w : Walk) (xs ys : List (Rule × String)) (a b : Outcome) :
    (w.after s xs a).after s ys b = w.after s (xs ++ ys) (a ++ b) := by
  simp only [after, fed_append]
  simp only [tell, fed, outcome_assoc]

theorem fed_none {w : Walk} (none : w.collectors.isEmpty = true) (sources : List (Rule × String)) : w.fed s sources = w := by
  rw [List.isEmpty_iff] at none
  obtain ⟨collectors, outcome⟩ := w
  subst none
  rfl

end Walk

namespace Settings
variable {s : Settings} {sheetFile : String} {parent : Option Parent}

theorem walkNodes_map (s : Settings) (sheetFile : String) (parent : Option Parent) (nodes : List Node) :
    (s.walkNodes sheetFile parent nodes).1 = nodes.map fun n => (s.walkNode sheetFile parent n).1 := by
  induction nodes with
  | nil => rfl
  | cons n rest ih => rw [walkNodes, List.map_cons, ← ih]

theorem walk_leafwise (s : Settings) (sheetFile : String) (parent : Option Parent) :
    Leafwise fun n => (s.walkNode sheetFile parent n).1 := by
  refine ⟨fun _ => rfl, fun _ => rfl, ?_⟩
  intro n block
  cases n with
  | rule | atRule => rfl
  | declaration | comment => cases block

theorem sourcesAmong_flatMap (s : Settings) (sheetFile : String) (inAtRule : Bool) (nodes : List Node) :
    s.sourcesAmong sheetFile inAtRule nodes = nodes.flatMap (s.sourcesIn sheetFile inAtRule) := by
  induction nodes with
  | nil => rfl
  | cons n rest ih => rw [sourcesAmong, ih, List.flatMap_cons]

theorem walkNodes_told (nodes : List Node) : (s.walkNodes sheetFile parent nodes).2 =
    (nodes.flatMap fun n => if n.isBlock then [(s.walkNode sheetFile parent n).2] else []).foldr (· ++ ·) .nothing := by
  induction nodes with
  | nil => rfl
  | cons n rest ih =>
    change (s.walkNode sheetFile parent n).2 ++ (s.walkNodes sheetFile parent rest).2 = _
    rw [ih, List.flatMap_cons]
    cases n with
    | rule | atRule => rfl
    | declaration | comment => exact nothing_outcome _

theorem convertRule_map (leafwise : Leafwise g) (nodes : List Node) :
    s.convertRule sheetFile parent selector source (nodes.map g) =
      ((s.convertRule sheetFile parent selector source nodes).1.map g,
        (s.convertRule sheetFile parent selector source nodes).2) := by
  unfold convertRule
  dsimp only
  split
  · rfl
  · rfl
  · split
    · exact convertNodes_map leafwise nodes
    · rfl

theorem convertRule_flatMap (f : Node → List α) (declaration : ∀ d, f (.declaration d) = [])
    (comment : ∀ m, f (.comment m) = []) (nodes : List Node) :
    (s.convertRule sheetFile parent selector source nodes).1.flatMap f = nodes.flatMap f := by
  unfold convertRule
  dsimp only
  split
  · rfl
  · rfl
  · split
    · exact convertNodes_flatMap f declaration comment nodes
    · rfl

-- A rule is a source as it stands, before anything is done to it.
def ownSource (s : Settings) (sheetFile : String) (inAtRule : Bool) (r : Rule) : List (Rule × String) :=
  if !inAtRule && s.standing (fileOf sheetFile r.source) r.selector = .taken then [(r, fileOf sheetFile r.source)] else []

theorem sourcesIn_own (s : Settings) (sheetFile selector : String) (inAtRule : Bool) (nodes : List Node) (source : Option Source) :
    s.sourcesIn sheetFile inAtRule (.rule selector nodes source) =
      s.ownSource sheetFile inAtRule ⟨selector, nodes, source⟩ ++ s.sourcesAmong sheetFile false nodes := by
  rw [sourcesIn, ownSource]
  split <;> rfl

theorem visitRule_staged (w : Walk) (r : Rule) :
    let own := s.convertRule sheetFile parent r.selector r.source r.nodes
    s.visitRule sheetFile parent w r = (own.1, w.after s (s.ownSource sheetFile parent.isSome r) own.2) := by
  unfold visitRule convertRule ownSource Walk.after
  dsimp only
  split
  · rename_i standing
    simp [standing, Walk.fed_nothing]
  · rename_i standing
    simp [standing, Walk.fed_nothing]
  · rename_i standing
    have collected : (if parent.isNone && !w.collectors.isEmpty then w.accumulate s (fileOf sheetFile r.source) r else w) =
        w.fed s (if !parent.isSome then [(r, fileOf sheetFile r.source)] else []) := by
      cases parent with
      | some => simp [Walk.fed_nothing]
      | none =>
        cases empty : w.collectors.isEmpty with
        | true => exact (Walk.fed_none empty _).symm
        | false => simp [Walk.accumulate_fed]
    rw [collected]
    simp only [standing, decide_true, Bool.and_true]
    split
    · rfl
    · rw [Walk.tell_nothing]

-- The walk below a rule goes over the children that the rule's own conversion leaves.
theorem walk_below (nodes : List Node) :
    let own := s.convertRule sheetFile parent selector source nodes
    s.walkNodes sheetFile none own.1 =
      ((s.convertRule sheetFile parent selector source (s.walkNodes sheetFile none nodes).1).1, (s.walkNodes sheetFile none nodes).2) := by
  intro own
  have nodes' : (s.walkNodes sheetFile none own.1).1 =
      (s.convertRule sheetFile parent selector source (s.walkNodes sheetFile none nodes).1).1 := by
    rw [walkNodes_map, walkNodes_map, convertRule_map (walk_leafwise s sheetFile none)]
  have told : (s.walkNodes sheetFile none own.1).2 = (s.walkNodes sheetFile none nodes).2 := by
    rw [walkNodes_told, walkNodes_told, convertRule_flatMap _ (fun _ => rfl) (fun _ => rfl)]
  rw [← nodes', ← told]

theorem walkNode_own (s : Settings) (sheetFile : String) (parent : Option Parent) (selector : String) (nodes : List Node)
    (source : Option Source) :
    let own := s.convertRule sheetFile parent selector source nodes
    s.walkNode sheetFile parent (.rule selector nodes source) =
      (.rule selector (s.walkNodes sheetFile none own.1).1 source, own.2 ++ (s.walkNodes sheetFile none own.1).2) := by
  intro own
  have told : (s.convertRule sheetFile parent selector source (s.walkNodes sheetFile none nodes).1).2 = own.2 := by
    rw [walkNodes_map, convertRule_map (walk_leafwise s sheetFile none)]
  rw [walk_below, ← told]
  rfl

theorem walkNodes_cons (s : Settings) (sheetFile : String) (parent : Option Parent) (n : Node) (rest : List Node) :
    s.walkNodes sheetFile parent (n :: rest) = ((s.walkNode sheetFile parent n).1 :: (s.walkNodes sheetFile parent rest).1,
      (s.walkNode sheetFile parent n).2 ++ (s.walkNodes sheetFile parent rest).2) := rfl

-- Wherever a walk stands, what is ahead of it adds what the stages have for that, and nothing else.
theorem visitNodes_staged (s : Settings) (sheetFile : String) (parent : Option Parent) (w : Walk) (nodes : List Node) :
    let walked := s.walkNodes sheetFile parent nodes
    s.visitNodes sheetFile parent w nodes = (walked.1, w.after s (s.sourcesAmong sheetFile parent.isSome nodes) walked.2) := by
  fun_induction visitNodes s sheetFile parent w nodes with
  | case1 parent w => simp [walkNodes, sourcesAmong, Walk.after, Walk.fed_nothing, Walk.tell_nothing]
  | case2 parent w selector nodes source rest own below after ihbelow _ ihafter =>
    have first : own = _ := visitRule_staged w ⟨selector, nodes, source⟩
    have second : below = _ := ihbelow
    have third : after = _ := ihafter
    have sources : s.sourcesAmong sheetFile false own.1 = s.sourcesAmong sheetFile false nodes := by
      rw [first, sourcesAmong_flatMap, sourcesAmong_flatMap]
      exact convertRule_flatMap _ (fun _ => rfl) (fun _ => rfl) nodes
    simp only [third, second, Option.isSome_none, sources]
    simp only [first, walkNodes_cons, walkNode_own, sourcesAmong, sourcesIn_own, Walk.after_after]
  | case3 parent w name params nodes source rest below after ihbelow ihafter =>
    have second : below = _ := ihbelow
    have third : after = _ := ihafter
    simp only [third, second, Walk.after_after]
    rfl
  | case4 parent w n rest notRule notAtRule after ih =>
    have third : after = _ := ih
    cases n with
    | rule => exact absurd rfl (notRule _ _ _)
    | atRule => exact absurd rfl (notAtRule _ _ _ _)
    | declaration | comment =>
      simp only [third, walkNodes_cons, walkNode, nothing_outcome]
      rfl

theorem convertSheet_staged (s : Settings) (sheet : Sheet) : s.convertSheet sheet = s.staged sheet := by
  unfold convertSheet staged
  rw [visitNodes_staged]
  have emitted : ((s.collectors.map (Collector.fed s (s.sourcesAmong sheet.fileName false sheet.nodes))).filterMap Collector.block) =
      s.blocks (s.sourcesAmong sheet.fileName false sheet.nodes) := by
    rw [collectors, List.map_map, List.filterMap_map]
    rfl
  simp only [Walk.after, Walk.tell, Walk.fed, Option.isSome_none, emitted, nothing_outcome]

end Settings
end FluidSheet
