-- What was gathered is checked at the next switch or the end, so of two faults the earlier one is told.

namespace FluidSheet

inductive ArgumentError where
  | unknownArgument
  | invalidValue
  | tooManyValues
  | conflict
  | missingArgument
  | missingSubcommand
  | invalidSubcommand
  | helpWanted
  | helpOnNothing
  | versionWanted
deriving DecidableEq, Repr

def ArgumentError.message : ArgumentError → String
  | unknownArgument => "unexpected argument"
  | invalidValue => "a value is missing or not allowed"
  | tooManyValues => "a switch that takes no value was given one"
  | conflict => "arguments that cannot be used together, or more than once"
  | missingArgument => "a required argument was not provided"
  | missingSubcommand | helpOnNothing => "a subcommand is required"
  | invalidSubcommand => "unrecognized subcommand"
  | helpWanted => "help"
  | versionWanted => "version"

inductive Role where
  | count
  | flag
  | value (accepts : String → Bool)
  | help
  | version

structure Switch where
  name : String
  short : Option Char
  role : Role

inductive Words where
  | none
  | subcommands (names : List String)
  | many (accepts : String → Bool)

structure Grammar where
  switches : List Switch
  words : Words

inductive Token where
  | escape
  | long (name : String) (attached : Option String)
  | shorts (cs : List Char)
  | word (text : String)
deriving DecidableEq, Repr

namespace Token

def ofText (s : String) : Token :=
  match s.toList with
  | ['-', '-'] => escape
  | '-' :: '-' :: cs =>
    match cs.dropWhile (· ≠ '=') with
    | [] => long (String.ofList cs) none
    | _ :: attached => long (String.ofList (cs.takeWhile (· ≠ '='))) (some (String.ofList attached))
  | '-' :: c :: cs => shorts (c :: cs)
  | _ => word s

end Token

structure Findings where
  uses : List (String × String)
  words : List String
deriving DecidableEq, Repr

namespace Findings

def nothing : Findings := ⟨[], []⟩

def isEmpty (f : Findings) : Bool := f.uses.isEmpty && f.words.isEmpty

def count (f : Findings) (name : String) : Nat := (f.uses.filter fun u => u.1 = name).length

def has (f : Findings) (name : String) : Bool := f.uses.any fun u => u.1 = name

def value? (f : Findings) (name : String) : Option String := f.uses.lookup name

def use (f : Findings) (name value : String) : Findings := { f with uses := f.uses ++ [(name, value)] }

end Findings

inductive Pending where
  | none
  | value (name : String) (accepts : String → Bool) (given : Option String)
  | words (texts : List String)

structure Reading where
  found : Findings
  pending : Pending
  -- After two dashes, all that follows are words.
  wordsOnly : Bool

namespace Grammar

def long? (g : Grammar) (name : String) : Option Switch := g.switches.find? fun s => s.name = name

def short? (g : Grammar) (c : Char) : Option Switch := g.switches.find? fun s => s.short = some c

def subcommands (g : Grammar) : List String :=
  match g.words with
  | .subcommands names => names
  | _ => []

def accepts (g : Grammar) (text : String) : Bool :=
  match g.words with
  | .many accepts => accepts text
  | _ => false

end Grammar

namespace Reading

def start : Reading := ⟨.nothing, .none, false⟩

def awaits (r : Reading) : Bool :=
  match r.pending with
  | .value _ _ none => true
  | _ => false

def settle (g : Grammar) (r : Reading) : Except ArgumentError Findings :=
  match r.pending with
  | .none => .ok r.found
  | .value _ _ none => .error .invalidValue
  | .value name accepts (some v) =>
    if r.found.has name then .error .conflict
    else if accepts v then .ok (r.found.use name v)
    else .error .invalidValue
  | .words texts =>
    if texts.all g.accepts then .ok { r.found with words := r.found.words ++ texts } else .error .invalidValue

def settled (g : Grammar) (r : Reading) : Except ArgumentError Reading := do
  return { r with found := ← r.settle g, pending := .none }

def switch (g : Grammar) (r : Reading) (s : Switch) : Except ArgumentError Reading := do
  let r ← r.settled g
  match s.role with
  | .count => return { r with found := r.found.use s.name "" }
  | .flag => if r.found.has s.name then throw .conflict else return { r with found := r.found.use s.name "" }
  | .value accepts => return { r with pending := .value s.name accepts none }
  | .help => throw .helpWanted
  | .version => throw .versionWanted

def long (g : Grammar) (r : Reading) (name : String) (attached : Option String) : Except ArgumentError Reading :=
  match g.long? name with
  | none => .error .unknownArgument
  | some s =>
    match attached, s.role with
    | none, _ => r.switch g s
    | some v, .value accepts => do
      let r ← r.settled g
      return { r with found := ← { r with pending := .value name accepts (some v) }.settle g }
    | some _, _ => .error .tooManyValues

def shorts (g : Grammar) (r : Reading) : List Char → Except ArgumentError Reading
  | [] => .ok r
  | c :: rest =>
    match g.short? c with
    | none => .error .unknownArgument
    | some s => do shorts g (← r.switch g s) rest

def word (g : Grammar) (r : Reading) (text : String) : Except ArgumentError Reading :=
  match g.words, r.pending with
  | .many _, .words texts => .ok { r with pending := .words (texts ++ [text]) }
  | .many _, _ => do return { ← r.settled g with pending := .words [text] }
  | .subcommands names, _ =>
    .error (if r.wordsOnly && names.contains text then .unknownArgument else .invalidSubcommand)
  | .none, _ => .error .unknownArgument

def plain (g : Grammar) (r : Reading) (text : String) : Except ArgumentError Reading :=
  match r.pending with
  | .value name accepts none => .ok { r with pending := .value name accepts (some text) }
  | _ => r.word g text

def token (g : Grammar) (r : Reading) (text : String) : Except ArgumentError Reading :=
  if r.wordsOnly then r.word g text
  else
    match Token.ofText text with
    | .escape => .ok { r with wordsOnly := true }
    | .long name attached => r.long g name attached
    | .shorts cs => r.shorts g cs
    | .word w => r.plain g w

def run (g : Grammar) (r : Reading) : List String → Except ArgumentError (Reading × Option (String × List String))
  | [] => .ok (r, none)
  | text :: rest =>
    if !r.wordsOnly && !r.awaits && g.subcommands.contains text then .ok (r, some (text, rest))
    else do run g (← r.token g text) rest

end Reading
end FluidSheet
