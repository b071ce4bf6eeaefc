import FluidSheet.Toml.Value

-- Which tables may be added to later depends on how they came to be.

namespace FluidSheet.Toml

inductive Item where
  | value (value : Value)
  -- `implied`: only named on the way to something. `dotted`: by a dotted key.
  | table (implied dotted : Bool) (members : List (String × Item))
  -- Tables under one name; only the last of them is still open.
  | tables (closed : List (List (String × Item))) (last : List (String × Item))

abbrev Members := List (String × Item)

namespace Members

def alter (key : String) (f : Option Item → Option Item) : Members → Option Members
  | [] => (f none).map fun item => [(key, item)]
  | (k, item) :: rest =>
    if k = key then (f (some item)).map fun item => (k, item) :: rest
    else (alter key f rest).map ((k, item) :: ·)

-- What dotted keys set must be in a table of their own, and what plain keys set must not.
-- `nested`: the key is dotted; `dotted`: the table is.
def assign (value : Value) (nested dotted : Bool) : List String → Members → Option Members
  | [], _ => none
  | key :: path, members =>
    if path.isEmpty then
      if nested != dotted then none
      else
        alter key (fun
          | none => some (.value value)
          | some _ => none) members
    else
      alter key (fun
        | none => (assign value true true path []).map (.table true true)
        | some (.table implied dotted inner) =>
          if implied then (assign value true dotted path inner).map (.table implied dotted) else none
        | some (.tables closed last) => (assign value true false path last).map (.tables closed)
        | some (.value _) => none) members

def inside (f : Members → Option Members) : List String → Members → Option Members
  | [], members => f members
  | key :: path, members =>
    alter key (fun
      | none => (inside f path []).map (.table true false)
      | some (.table implied dotted inner) => (inside f path inner).map (.table implied dotted)
      | some (.tables closed last) => (inside f path last).map (.tables closed)
      | some (.value _) => none) members

def openTable (key : String) : Members → Option Members :=
  alter key fun
    | none => some (.table false false [])
    | some (.table true false inner) => some (.table false false inner)
    | _ => none

def openNext (key : String) : Members → Option Members :=
  alter key fun
    | none => some (.tables [] [])
    | some (.tables closed last) => some (.tables (closed ++ [last]) [])
    | _ => none

end Members

mutual
def Item.whole : Item → Value
  | .value v => v
  | .table _ _ members => .table (wholeMembers members)
  | .tables closed last => .array (wholeTables closed ++ [.table (wholeMembers last)])

def wholeMembers : Members → Table
  | [] => []
  | (k, item) :: rest => (k, item.whole) :: wholeMembers rest

def wholeTables : List Members → List Value
  | [] => []
  | members :: rest => .table (wholeMembers members) :: wholeTables rest
end

end FluidSheet.Toml
