import FluidSheet.Conversion.Ignore
import FluidSheet.Conversion.Report
import FluidSheet.Options.Settings

namespace FluidSheet

structure Context where
  selector : String
  file : String
  landscape : Bool
deriving DecidableEq, Repr

def Node.isDeclarationOf (prop value : String) : Node → Bool
  | .declaration d => d.prop = prop && d.value = value
  | _ => false

def declares (nodes : List Node) (prop value : String) : Bool := nodes.any (·.isDeclarationOf prop value)

-- What comes into the place of a declaration, and which neighbours go.
structure Step where
  placed : List Node
  dropsPrevious : Bool
  dropsNext : Bool
  outcome : Outcome
deriving DecidableEq, Repr

namespace Settings

def targetIn? (s : Settings) (c : Context) (prop : String) : Option Target :=
  if c.landscape then s.target? s.landscapeUnit s.landscapeWidth c.file
  else s.target? (s.unitFor prop) s.viewportWidth c.file

def place (s : Settings) (c : Context) (siblings : List Node) (d : Declaration) : List Node × Outcome :=
  match s.targetIn? c d.prop with
  | none => ([.declaration d], Outcome.event (.noReferenceWidth d.prop c.file))
  | some target =>
    let value := s.convert target d.value
    if value = d.value then ([.declaration d], .nothing)
    else if declares siblings d.prop value then ([.declaration d], { Outcome.nothing with duplicates := 1 })
    else
      let told := Outcome.event (.converted d.prop d.value value)
      if s.replace then ([.declaration (d.withValue value)], { told with converted := 1 })
      else ([.declaration d, .declaration (d.withValue value)], { told with inserted := 1 })

def warned (c : Context) (comment : Comment) : Outcome :=
  { Outcome.event (.misplacedMarker c.selector c.file) with
    warnings := [⟨Event.misplacedMessage, comment, if c.file = "" then none else some c.file⟩] }

def ignored (e : Event) : Outcome := { Outcome.event e with ignored := 1 }

-- `done` holds the children before the node as they stand by now, last one first.
def step (s : Settings) (c : Context) (done : List Node) (n : Node) (rest : List Node) : Step :=
  match n with
  | .declaration d =>
    if !s.isCandidate d then ⟨[n], false, false, .nothing⟩
    else
      match Verdict.between done.head? rest.head? with
      | .keepDroppingPrevious => ⟨[n], true, false, ignored (.ignoredByPreceding d.prop)⟩
      | .keepDroppingNext => ⟨[n], false, true, ignored (.ignoredByTrailing d.prop)⟩
      | .misplaced comment =>
        let (placed, outcome) := s.place c (done ++ n :: rest) d
        ⟨placed, false, false, warned c comment ++ outcome⟩
      | .convert =>
        let (placed, outcome) := s.place c (done ++ n :: rest) d
        ⟨placed, false, false, outcome⟩
  | n => ⟨[n], false, false, .nothing⟩

-- `dropped`: the first of the nodes left has gone with the declaration before it.
def convertNodesFrom (s : Settings) (c : Context) (done : List Node) (dropped : Bool) : List Node → List Node × Outcome
  | [] => (done.reverse, .nothing)
  | n :: rest =>
    if dropped then convertNodesFrom s c done false rest
    else
      let t := s.step c done n rest
      let done := if t.dropsPrevious then done.tail else done
      let (nodes, outcome) := convertNodesFrom s c (t.placed.reverse ++ done) t.dropsNext rest
      (nodes, t.outcome ++ outcome)

def convertNodes (s : Settings) (c : Context) (nodes : List Node) : List Node × Outcome :=
  convertNodesFrom s c [] false nodes

end Settings
end FluidSheet
