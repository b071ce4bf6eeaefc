import FluidSheet.Json.Basic

-- Faults stand in a draft where they stand in the text, so each is met after all that was wrong before it.

namespace FluidSheet.Json

inductive Fault where
  | malformed
  | unfinished
deriving DecidableEq, Repr

inductive Draft where
  | null
  | bool (value : Bool)
  | number (value : Number)
  | string (value : String)
  | array (items : List Draft)
  | object (members : List (Draft × Draft))
  -- `read` is what reading the part reports, `skipped` what passing over it does.
  | broken (read : Fault) (skipped : Option Fault)
deriving Repr, Inhabited

namespace Draft

def stop (fault : Fault) : Draft := .broken fault (some fault)

mutual
def ofJson : Json → Draft
  | .null => .null
  | .bool b => .bool b
  | .number n => .number n
  | .string s => .string s
  | .array items => .array (ofItems items)
  | .object members => .object (ofMembers members)

def ofItems : List Json → List Draft
  | [] => []
  | j :: rest => ofJson j :: ofItems rest

def ofMembers : List (String × Json) → List (Draft × Draft)
  | [] => []
  | (k, v) :: rest => (.string k, ofJson v) :: ofMembers rest
end

mutual
def toJson (depth : Nat) : Draft → Except Fault Json
  | .null => .ok .null
  | .bool b => .ok (.bool b)
  | .number n => .ok (.number n)
  | .string s => .ok (.string s)
  | .array items =>
    match depth with
    | 0 => .error .malformed
    | depth + 1 => (toItems depth items).map .array
  | .object members =>
    match depth with
    | 0 => .error .malformed
    | depth + 1 => (toMembers depth members).map .object
  | .broken fault _ => .error fault

def toItems (depth : Nat) : List Draft → Except Fault (List Json)
  | [] => .ok []
  | d :: rest => do
    let j ← toJson depth d
    let js ← toItems depth rest
    return j :: js

def toMembers (depth : Nat) : List (Draft × Draft) → Except Fault (List (String × Json))
  | [] => .ok []
  | (k, v) :: rest => do
    match k with
    | .string key =>
      let j ← toJson depth v
      let js ← toMembers depth rest
      return (key, j) :: js
    | .broken fault _ => throw fault
    | _ => throw .malformed
end

-- Passing over a part finds only what stops the text.
mutual
def skip : Draft → Except Fault Unit
  | .array items => skipItems items
  | .object members => skipMembers members
  | .broken _ (some fault) => .error fault
  | _ => .ok ()

def skipItems : List Draft → Except Fault Unit
  | [] => .ok ()
  | d :: rest => do
    skip d
    skipItems rest

def skipMembers : List (Draft × Draft) → Except Fault Unit
  | [] => .ok ()
  | (k, v) :: rest => do
    skip k
    skip v
    skipMembers rest
end

end Draft

structure Page where
  body : Draft
  trailing : Bool

def maxDepth : Nat := 127

def Page.toJson (page : Page) : Except Fault Json := do
  let j ← page.body.toJson maxDepth
  if page.trailing then throw .malformed
  return j

end FluidSheet.Json
