import FluidSheet.Sheet.Basic

-- A path gives the places of the children to go through, from the top level down.

namespace FluidSheet

inductive EditError where
  | noSuchNode
  | notARule
  | outOfRange
deriving DecidableEq, Repr

namespace Node

def editAt (f : Node → Except EditError (Node × α)) : List Nat → List Node → Except EditError (List Node × α)
  | [], _ => .error .noSuchNode
  | place :: path, nodes =>
    match nodes[place]? with
    | none => .error .noSuchNode
    | some n =>
      if path.isEmpty then
        (f n).map fun (n, a) => (nodes.set place n, a)
      else
        match n.children? with
        | none => .error .noSuchNode
        | some children =>
          (editAt f path children).map fun (children, a) => (nodes.set place (n.withChildren children), a)

def asRule (n : Node) : Except EditError Rule :=
  match n.rule? with
  | some r => .ok r
  | none => .error .notARule

end Node

namespace Sheet

def editAt (s : Sheet) (path : List Nat) (f : Node → Except EditError (Node × α)) : Except EditError (Sheet × α) :=
  (Node.editAt f path s.nodes).map fun (nodes, a) => ({ s with nodes }, a)

def editRuleAt (s : Sheet) (path : List Nat) (f : Rule → Except EditError (Rule × α)) :
    Except EditError (Sheet × α) :=
  s.editAt path fun n => do
    let (r, a) ← f (← n.asRule)
    return (r.node, a)

def appendAt (s : Sheet) (path : List Nat) (child : Node) : Except EditError Sheet :=
  (s.editAt path fun n =>
    match n.children? with
    | some children => .ok (n.withChildren (children ++ [child]), ())
    | none => .error .notARule).map (·.1)

def insertAfterAt (s : Sheet) (path : List Nat) (place : Nat) (child : Node) : Except EditError Sheet :=
  (s.editRuleAt path fun r => .ok (r.insertAfter place child, ())).map (·.1)

def removeAt (s : Sheet) (path : List Nat) (place : Nat) : Except EditError (Sheet × Node) :=
  s.editRuleAt path fun r =>
    match r.remove? place with
    | some (n, r) => .ok (r, n)
    | none => .error .outOfRange

def shellAt (s : Sheet) (path : List Nat) : Except EditError Rule :=
  (s.editRuleAt path fun r => .ok (r, r.shell)).map (·.2)

-- Also tells whether the node is a declaration, and so took the value.
def setValueAt (s : Sheet) (path : List Nat) (value : String) : Except EditError (Sheet × Bool) :=
  s.editAt path fun n =>
    match n with
    | .declaration d => .ok (.declaration (d.withValue value), true)
    | n => .ok (n, false)

end Sheet
end FluidSheet
