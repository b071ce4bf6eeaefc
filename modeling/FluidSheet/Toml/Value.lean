import FluidSheet.Json.Basic

namespace FluidSheet.Toml

inductive Value where
  | string (value : String)
  | integer (value : Int)
  | float (value : Binary64)
  | boolean (value : Bool)
  | moment (text : String)
  | array (items : List Value)
  | table (members : List (String × Value))
deriving Repr, Inhabited

namespace Value

-- A date is an object, as no plain value of JSON stands for one.
mutual
def json : Value → Json
  | .string s => .string s
  | .integer n => .number (.whole n)
  | .float x => Json.real x
  | .boolean b => .bool b
  | .moment text => .object [("datetime", .string text)]
  | .array items => .array (itemsJson items)
  | .table members => .object (membersJson members)

def itemsJson : List Value → List Json
  | [] => []
  | v :: rest => json v :: itemsJson rest

def membersJson : List (String × Value) → List (String × Json)
  | [] => []
  | (k, v) :: rest => (k, json v) :: membersJson rest
end

end Value

abbrev Table := List (String × Value)

def Table.json (table : Table) : Json := (Value.table table).json

end FluidSheet.Toml
