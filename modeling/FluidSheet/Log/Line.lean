import FluidSheet.Json.Writer
import FluidSheet.Log.Filter

namespace FluidSheet.Log

inductive Form where
  | pretty
  | compact
  | json
deriving DecidableEq, Repr

structure Style where
  form : Form
  colored : Bool
deriving DecidableEq, Repr

def levelName : Level → String
  | .error => "ERROR"
  | .warn => "WARN"
  | .info => "INFO"
  | .debug => "DEBUG"
  | .trace => "TRACE"

def levelColor : Level → String
  | .error => "31"
  | .warn => "33"
  | .info => "32"
  | .debug => "34"
  | .trace => "35"

def paint (colored : Bool) (code text : String) : String :=
  if colored then "\x1b[" ++ code ++ "m" ++ text ++ "\x1b[0m" else text

def bold : String := "1"
def dim : String := "2"
def italic : String := "3"

-- Levels are right-aligned to five characters.
def levelText (level : Level) : String :=
  let name := levelName level
  String.ofList (List.replicate (5 - name.length) ' ') ++ name

def safeChar (c : Char) : List Char :=
  let n := c.toNat
  if n = 0x1b ∨ n = 0x07 ∨ n = 0x08 ∨ n = 0x0c ∨ n = 0x7f then
    ['\\', 'x', Json.hexDigit (n / 16), Json.hexDigit (n % 16)]
  else if 0x80 ≤ n ∧ n ≤ 0x9f then '\\' :: 'u' :: '{' :: Nat.toDigits 16 n ++ ['}']
  else [c]

def safe (s : String) : String := String.ofList (s.toList.flatMap safeChar)

def fieldText (colored : Bool) (field : String × String) : String :=
  paint colored italic field.1 ++ paint colored dim "=" ++ field.2

def fieldsText (colored : Bool) (e : Event) : String :=
  String.join (e.fields.map fun f => " " ++ fieldText colored f)

def prettySpan (colored : Bool) (s : Span) : String :=
  paint colored bold s.name ++ paint colored bold "\x7b" ++ fieldText colored s.field ++ paint colored bold "\x7d" ++
    paint colored dim ":"

def compactSpan (colored : Bool) (s : Span) : String := paint colored bold s.name ++ ":"

def spansText (text : Span → String) (spans : List Span) : String :=
  if spans.isEmpty then "" else String.join (spans.map text) ++ " "

def jsonFields (fields : List (String × String)) : List (String × Json) := fields.map fun (k, v) => (k, .string v)

def jsonSpan (s : Span) : Json := .object [(s.field.1, .string s.field.2), ("name", .string s.name)]

def jsonLine (spans : List Span) (e : Event) : Json :=
  .object ([("level", .string (levelName e.level)),
    ("fields", .object (("message", .string e.message) :: jsonFields e.fields))] ++
    (spans.getLast?.map fun s => ("span", jsonSpan s)).toList ++
    (if spans.isEmpty then [] else [("spans", .array (spans.map jsonSpan))]))

def line (style : Style) (filter : Filter) (r : Record) : Option String :=
  match filter.admit? r with
  | none => none
  | some spans =>
    let level := paint style.colored (levelColor r.event.level) (levelText r.event.level)
    let told := safe r.event.message ++ fieldsText style.colored r.event
    match style.form with
    | .pretty => some (level ++ " " ++ spansText (prettySpan style.colored) spans ++ told ++ "\n")
    | .compact =>
      let more := spans.map fun s => " " ++ paint style.colored dim (fieldText style.colored s.field)
      some (level ++ " " ++ spansText (compactSpan style.colored) spans ++ told ++ String.join more ++ "\n")
    | .json => some ((jsonLine spans r.event).compact ++ "\n")

end FluidSheet.Log
