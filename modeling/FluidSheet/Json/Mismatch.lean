import FluidSheet.Json.Draft
import FluidSheet.Text.Quoted

namespace FluidSheet.Json

inductive Found where
  | null
  | bool (value : Bool)
  | whole (value : Int)
  | real (value : Binary64)
  | string (value : String)
  | sequence
  | map
deriving DecidableEq, Repr

inductive Mismatch where
  | wrongType (found : Found) (wanted : String)
  | wrongValue (found : Found) (wanted : String)
  | missing (field : String)
  | duplicate (field : String)
  | unknownVariant (given : String) (variants : List String)
  | noVariant (name : String)
  | wrongLength (count : Nat) (wanted : String)
deriving DecidableEq, Repr

def found : Json → Found
  | .null => .null
  | .bool b => .bool b
  | .number (.whole n) => .whole n
  | .number (.real x) => .real x
  | .string s => .string s
  | .array _ => .sequence
  | .object _ => .map

def Draft.found : Draft → Except Fault Found
  | .null => .ok .null
  | .bool b => .ok (.bool b)
  | .number (.whole n) => .ok (.whole n)
  | .number (.real x) => .ok (.real x)
  | .string s => .ok (.string s)
  | .array _ => .ok .sequence
  | .object _ => .ok .map
  | .broken fault _ => .error fault

def ticked (s : String) : String := "\x60" ++ s ++ "\x60"

def Found.phrase : Found → String
  | .null => "null"
  | .bool b => "boolean " ++ ticked (if b then "true" else "false")
  | .whole n => "integer " ++ ticked (toString n)
  | .real x => "floating point " ++ ticked (x.text .json)
  | .string s => "string " ++ Text.quoted s
  | .sequence => "sequence"
  | .map => "map"

def Mismatch.message : Mismatch → String
  | .wrongType found wanted => "invalid type: " ++ found.phrase ++ ", expected " ++ wanted
  | .wrongValue found wanted => "invalid value: " ++ found.phrase ++ ", expected " ++ wanted
  | .missing field => "missing field " ++ ticked field
  | .duplicate field => "duplicate field " ++ ticked field
  | .unknownVariant given variants =>
    "unknown variant " ++ ticked given ++ ", expected one of " ++ String.intercalate ", " (variants.map ticked)
  | .noVariant name => "data did not match any variant of untagged enum " ++ name
  | .wrongLength count wanted => "invalid length " ++ toString count ++ ", expected " ++ wanted

-- A text fails as JSON, or as the value that was wanted.
inductive ReadError where
  | fault (fault : Fault)
  | mismatch (mismatch : Mismatch)
deriving DecidableEq, Repr

def ReadError.category : ReadError → String
  | .fault .malformed => "syntax"
  | .fault .unfinished => "eof"
  | .mismatch _ => "data"

def ReadError.message : ReadError → String
  | .mismatch m => m.message
  | e => e.category

-- It decides how a sequence that is too long for its record is reported.
inductive Origin where
  | text
  | value
  | buffer
deriving DecidableEq, Repr

def Origin.tooLong (origin : Origin) (count fields : Nat) : ReadError :=
  match origin with
  | .text => .fault .malformed
  | .value => .mismatch (.wrongLength count "fewer elements in array")
  | .buffer =>
    .mismatch (.wrongLength count
      (toString fields ++ (if fields = 1 then " element in sequence" else " elements in sequence")))

end FluidSheet.Json
