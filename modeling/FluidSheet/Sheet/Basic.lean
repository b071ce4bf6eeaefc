import FluidSheet.Text.Occurs

namespace FluidSheet

structure Source where
  file : Option String
  line : Option UInt32
deriving DecidableEq, Repr

structure Declaration where
  prop : String
  value : String
  important : Bool
  source : Option Source
deriving DecidableEq, Repr

structure Comment where
  text : String
  -- The white space between the node before it and the comment.
  before : String
  source : Option Source
deriving DecidableEq, Repr

inductive Node where
  | rule (selector : String) (nodes : List Node) (source : Option Source)
  | atRule (name params : String) (nodes : List Node) (source : Option Source)
  | declaration (declaration : Declaration)
  | comment (comment : Comment)
deriving Repr, Inhabited

structure Rule where
  selector : String
  nodes : List Node
  source : Option Source
deriving Repr

structure AtRule where
  name : String
  params : String
  nodes : List Node
  source : Option Source
deriving Repr

structure Sheet where
  -- The file of every rule that names none of its own.
  file : Option String
  nodes : List Node
deriving Repr

namespace Source

def ofFile (file : String) (line : Option UInt32) : Source := ⟨some file, line⟩

end Source

namespace Comment

def ownLine (text : String) : Comment := ⟨text, "\n  ", none⟩

def behind (text : String) : Comment := ⟨text, " ", none⟩

def sameLine (c : Comment) : Bool := !c.before.toList.contains '\n'

def marker (c : Comment) : String := Text.trim c.text

end Comment

namespace Declaration

def of (prop value : String) : Declaration := ⟨prop, value, false, none⟩

def withValue (d : Declaration) (value : String) : Declaration := { d with value }

end Declaration

namespace Node

def rule? : Node → Option Rule
  | .rule selector nodes source => some ⟨selector, nodes, source⟩
  | _ => none

def atRule? : Node → Option AtRule
  | .atRule name params nodes source => some ⟨name, params, nodes, source⟩
  | _ => none

def declaration? : Node → Option Declaration
  | .declaration d => some d
  | _ => none

def comment? : Node → Option Comment
  | .comment c => some c
  | _ => none

def children? : Node → Option (List Node)
  | .rule _ nodes _ | .atRule _ _ nodes _ => some nodes
  | _ => none

def withChildren (children : List Node) : Node → Node
  | .rule selector _ source => .rule selector children source
  | .atRule name params _ source => .atRule name params children source
  | n => n

mutual
def decEq : (a b : Node) → Decidable (a = b)
  | .rule s ns o, .rule s' ns' o' =>
    match decEqNodes ns ns' with
    | .isTrue h =>
      if hs : s = s' then
        if ho : o = o' then .isTrue (by rw [h, hs, ho]) else .isFalse (fun e => ho (by injection e))
      else .isFalse (fun e => hs (by injection e))
    | .isFalse h => .isFalse (fun e => h (by injection e))
  | .atRule n p ns o, .atRule n' p' ns' o' =>
    match decEqNodes ns ns' with
    | .isTrue h =>
      if hn : n = n' then
        if hp : p = p' then
          if ho : o = o' then .isTrue (by rw [h, hn, hp, ho]) else .isFalse (fun e => ho (by injection e))
        else .isFalse (fun e => hp (by injection e))
      else .isFalse (fun e => hn (by injection e))
    | .isFalse h => .isFalse (fun e => h (by injection e))
  | .declaration d, .declaration d' =>
    if h : d = d' then .isTrue (by rw [h]) else .isFalse (fun e => h (by injection e))
  | .comment c, .comment c' =>
    if h : c = c' then .isTrue (by rw [h]) else .isFalse (fun e => h (by injection e))
  | .rule .., .atRule .. | .rule .., .declaration _ | .rule .., .comment _
  | .atRule .., .rule .. | .atRule .., .declaration _ | .atRule .., .comment _
  | .declaration _, .rule .. | .declaration _, .atRule .. | .declaration _, .comment _
  | .comment _, .rule .. | .comment _, .atRule .. | .comment _, .declaration _ => .isFalse nofun

def decEqNodes : (as bs : List Node) → Decidable (as = bs)
  | [], [] => .isTrue rfl
  | [], _ :: _ | _ :: _, [] => .isFalse nofun
  | a :: as, b :: bs =>
    match decEq a b, decEqNodes as bs with
    | .isTrue h, .isTrue hs => .isTrue (by rw [h, hs])
    | .isFalse h, _ => .isFalse (fun e => h (by injection e))
    | _, .isFalse h => .isFalse (fun e => h (by injection e))
end

instance : DecidableEq Node := decEq

end Node

deriving instance DecidableEq for Rule
deriving instance DecidableEq for AtRule
deriving instance DecidableEq for Sheet

namespace Rule

def node (r : Rule) : Node := .rule r.selector r.nodes r.source

def shell (r : Rule) : Rule := { r with nodes := [] }

def declarations (r : Rule) : List Declaration := r.nodes.filterMap Node.declaration?

def hasDeclarations (r : Rule) : Bool := r.nodes.any (·.declaration?.isSome)

def sourceFile (r : Rule) : Option String := r.source.bind (·.file)

def append (r : Rule) (n : Node) : Rule := { r with nodes := r.nodes ++ [n] }

-- Behind the child at a place, or at the end when there is none.
def insertAfter (r : Rule) (place : Nat) (n : Node) : Rule :=
  { r with nodes := r.nodes.take (place + 1) ++ n :: r.nodes.drop (place + 1) }

def remove? (r : Rule) (place : Nat) : Option (Node × Rule) :=
  r.nodes[place]?.map fun n => (n, { r with nodes := r.nodes.eraseIdx place })

end Rule

namespace AtRule

def node (r : AtRule) : Node := .atRule r.name r.params r.nodes r.source

def media (params : String) (nodes : List Node) : AtRule := ⟨"media", params, nodes, none⟩

def isMedia (r : AtRule) : Bool := r.name.toList.map Char.toLower = "media".toList

def rules (r : AtRule) : List Rule := r.nodes.filterMap Node.rule?

def append (r : AtRule) (n : Node) : AtRule := { r with nodes := r.nodes ++ [n] }

end AtRule

namespace Sheet

def rules (s : Sheet) : List Rule := s.nodes.filterMap Node.rule?

def atRules (s : Sheet) : List AtRule := s.nodes.filterMap Node.atRule?

def append (s : Sheet) (n : Node) : Sheet := { s with nodes := s.nodes ++ [n] }

end Sheet
end FluidSheet
