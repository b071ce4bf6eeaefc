import FluidSheet.Json.Mismatch

-- Fields are taken in document order, so the first fault in the document is the one reported.

namespace FluidSheet.Json

-- Where a field may be left out: nowhere, from an object only, or anywhere.
inductive Presence where
  | required
  | positional
  | free
deriving DecidableEq, Repr

-- Messages use the first of the names.
structure Field (α σ : Type) where
  names : List String
  presence : Presence
  take : α → σ → Except ReadError σ

namespace Field

def name (field : Field α σ) : String := field.names.headD ""

def answersTo (field : Field α σ) (key : String) : Bool := field.names.contains key

def place? (fields : List (Field α σ)) (key : String) : Option Nat :=
  fields.findIdx? (·.answersTo key)

end Field

structure Access (α : Type) where
  key : α → Except ReadError String
  skip : α → Except ReadError Unit

def Access.json : Access Json where
  key
    | .string s => .ok s
    | j => .error (.mismatch (.wrongType j.found "a string"))
  skip _ := .ok ()

def ofFault (r : Except Fault α) : Except ReadError α := r.mapError .fault

def Access.draft : Access Draft where
  key
    | .string s => .ok s
    | .broken fault _ => .error (.fault fault)
    | _ => .error (.fault .malformed)
  skip d := ofFault d.skip

-- `seen` holds the places of the fields taken so far.
def takeMembers (access : Access α) (fields : List (Field α σ)) (seen : List Nat) (state : σ) :
    List (α × α) → Except ReadError (List Nat × σ)
  | [] => .ok (seen, state)
  | (k, v) :: rest => do
    let key ← access.key k
    match Field.place? fields key with
    | none =>
      access.skip v
      takeMembers access fields seen state rest
    | some i =>
      match fields[i]? with
      | none => takeMembers access fields seen state rest
      | some field =>
        if seen.contains i then throw (.mismatch (.duplicate field.name))
        let state ← field.take v state
        takeMembers access fields (i :: seen) state rest

def checkPresent (fields : List (Field α σ)) (seen : List Nat) : Except ReadError Unit :=
  match (fields.zipIdx).find? (fun (field, i) => field.presence = .required && !seen.contains i) with
  | some (field, _) => .error (.mismatch (.missing field.name))
  | none => .ok ()

def ofMembers (access : Access α) (fields : List (Field α σ)) (init : σ) (members : List (α × α)) :
    Except ReadError σ := do
  let (seen, state) ← takeMembers access fields [] init members
  checkPresent fields seen
  return state

-- Leaves what is beyond the last field. `wanted` names the record and its length.
def takeItems (wanted : String) (count : Nat) (state : σ) :
    List (Field α σ) → List α → Except ReadError (σ × List α)
  | [], items => .ok (state, items)
  | field :: fields, [] =>
    if field.presence ≠ .free then .error (.mismatch (.wrongLength count wanted))
    else takeItems wanted (count + 1) state fields []
  | field :: fields, item :: items => do
    let state ← field.take item state
    takeItems wanted (count + 1) state fields items

def lengthPhrase (record : String) (fields : Nat) : String :=
  record ++ " with " ++ toString fields ++ (if fields = 1 then " element" else " elements")

end FluidSheet.Json
