import FluidSheet.Json.Record

namespace FluidSheet.Json.Decode

def wrong (j : Json) (wanted : String) : Except ReadError α :=
  .error (.mismatch (.wrongType j.found wanted))

def string : Json → Except ReadError String
  | .string s => .ok s
  | j => wrong j "a string"

def bool : Json → Except ReadError Bool
  | .bool b => .ok b
  | j => wrong j "a boolean"

def word32 : Json → Except ReadError UInt32
  | .number (.whole n) =>
    if 0 ≤ n ∧ n < Int.pow 2 32 then .ok (UInt32.ofNat n.toNat)
    else .error (.mismatch (.wrongValue (.whole n) "u32"))
  | j => wrong j "u32"

def number : Json → Except ReadError Binary64
  | .number n => .ok n.toBinary64
  | j => wrong j "f64"

def option (read : Json → Except ReadError α) : Json → Except ReadError (Option α)
  | .null => .ok none
  | j => (read j).map some

def list (read : Json → Except ReadError α) : Json → Except ReadError (List α)
  | .array items => items.mapM read
  | j => wrong j "a sequence"

def record (origin : Origin) (name : String) (fields : List (Field Json σ)) (init : σ) : Json → Except ReadError σ
  | .object members =>
    Json.ofMembers Access.json fields init (members.map fun (k, v) => (Json.string k, v))
  | .array items => do
    let (state, extra) ← takeItems (lengthPhrase name fields.length) 0 init fields items
    if extra.isEmpty then return state else throw (origin.tooLong items.length fields.length)
  | j => wrong j name

end FluidSheet.Json.Decode
