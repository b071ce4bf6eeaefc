import FluidSheet.Number.Decimal

-- Members keep the order in which they were given; `sorted` holds each key once, in order.

namespace FluidSheet

inductive Json.Number where
  | whole (value : Int)
  | real (value : Binary64)
deriving DecidableEq, Repr

inductive Json where
  | null
  | bool (value : Bool)
  | number (value : Json.Number)
  | string (value : String)
  | array (items : List Json)
  | object (members : List (String × Json))
deriving BEq, Repr, Inhabited

namespace Json

def Number.toBinary64 : Number → Binary64
  | .whole n => Binary64.ofInt n
  | .real x => x

def real (x : Binary64) : Json := if x.isFinite then .number (.real x) else .null

def nat (n : Nat) : Json := .number (.whole n)

-- A later value of the same key takes the earlier one's place.
def put (key : String) (value : Json) : List (String × Json) → List (String × Json)
  | [] => [(key, value)]
  | (k, v) :: rest =>
    if key < k then (key, value) :: (k, v) :: rest
    else if key = k then (key, value) :: rest
    else (k, v) :: put key value rest

def get? (key : String) : List (String × Json) → Option Json
  | [] => none
  | (k, v) :: rest => if k = key then some v else get? key rest

mutual
def sorted : Json → Json
  | .array items => .array (sortedItems items)
  | .object members => .object (sortedMembers [] members)
  | j => j

def sortedItems : List Json → List Json
  | [] => []
  | j :: rest => j.sorted :: sortedItems rest

def sortedMembers (acc : List (String × Json)) : List (String × Json) → List (String × Json)
  | [] => acc
  | (k, v) :: rest => sortedMembers (put k v.sorted acc) rest
end

end Json
end FluidSheet
