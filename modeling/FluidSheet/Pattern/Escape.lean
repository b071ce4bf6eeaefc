import FluidSheet.Json.Reader
import FluidSheet.Pattern.Basic
import FluidSheet.Pattern.Named

namespace FluidSheet.Pattern

structure Mode where
  ignoreCase : Bool
  multiLine : Bool
  dotNewline : Bool
  unicode : Bool
  carriage : Bool
  verbose : Bool
  reluctant : Bool
deriving DecidableEq, Repr

namespace Mode

def standard : Mode := ⟨false, false, false, true, false, false, false⟩

-- Verbose patterns may hold blanks, and comments up to the end of a line.
def skipVerbose : (comment : Bool) → List Char → List Char
  | _, [] => []
  | true, c :: rest => skipVerbose (c != '\n') rest
  | false, c :: rest =>
    if Text.isWhite c then skipVerbose false rest
    else if c = '#' then skipVerbose true rest
    else c :: rest

def skip (m : Mode) (cs : List Char) : List Char := if m.verbose then skipVerbose false cs else cs

def fold (m : Mode) (s : CharSet) : CharSet :=
  if !m.ignoreCase then s else if m.unicode then .folded s else .asciiFolded s

-- Without Unicode a set that reaches past ASCII could stop inside a character.
def negate? (m : Mode) (negated : Bool) (s : CharSet) : Option CharSet :=
  if !negated then some s else if m.unicode then some (.complement s) else none

end Mode

inductive Escape where
  | literal (c : Char) (byte : Bool)
  | set (set : CharSet)
  | check (check : Check)

def braced? (m : Mode) : (comment : Bool) → List Char → Option (List Char × List Char)
  | _, [] => none
  | true, c :: rest => braced? m (c != '\n') rest
  | false, c :: rest =>
    if c = '}' then some ([], rest)
    else if m.verbose && Text.isWhite c then braced? m false rest
    else if m.verbose && c = '#' then braced? m true rest
    else (braced? m false rest).map fun (body, rest) => (c :: body, rest)

def codePoint? (n : Nat) : Option Char := if n.isValidChar then some (Char.ofNat n) else none

def hexFrom? (value : Nat) : List Char → Option Nat
  | [] => some value
  | c :: rest => do hexFrom? (16 * value + (← Json.hexValue? c)) rest

def hexDigits? (m : Mode) (value : Nat) : (digits : Nat) → List Char → Option (Nat × List Char)
  | 0, cs => some (value, cs)
  | n + 1, c :: rest => do hexDigits? m (16 * value + (← Json.hexValue? c)) n (m.skip rest)
  | _, [] => none

def hex? (m : Mode) (digits : Nat) (cs : List Char) : Option (Escape × List Char) :=
  match m.skip cs with
  | '{' :: rest => do
    let (body, rest) ← braced? m false rest
    if body.isEmpty then none
    else return (.literal (← codePoint? (← hexFrom? 0 body)) false, rest)
  | cs => do
    let (n, rest) ← hexDigits? m 0 digits cs
    return (.literal (← codePoint? n) (digits = 2), rest)

def propertySet? (body : List Char) : Option (CharSet × Bool) :=
  match splitAt ['!', '='] [] body with
  | some (name, value) => (CharSet.valued? name value).map (·, true)
  | none =>
    match splitAt [':'] [] body <|> splitAt ['='] [] body with
    | some (name, value) => (CharSet.valued? name value).map (·, false)
    | none => (CharSet.named? body).map (·, false)
where
  splitAt (sign before : List Char) : List Char → Option (List Char × List Char)
    | [] => none
    | c :: rest =>
      if sign.isPrefixOf (c :: rest) then some (before.reverse, (c :: rest).drop sign.length)
      else splitAt sign (c :: before) rest

def property? (m : Mode) (negated : Bool) (cs : List Char) : Option (Escape × List Char) := do
  let (body, rest) ← match m.skip cs with
    | [] => none
    | '{' :: rest => braced? m false rest
    | '\\' :: _ => none
    | c :: rest => some ([c], rest)
  let (s, unequal) ← propertySet? body
  if !m.unicode then none
  else return (.set (← m.negate? (negated != unequal) (m.fold s)), rest)

def digits (m : Mode) : CharSet := if m.unicode then .ofCategory .decimalNumber else CharSet.asciiDigit
def blanks (m : Mode) : CharSet := if m.unicode then .runs Property.whiteSpaceRuns else CharSet.asciiSpace
def words (m : Mode) : CharSet := if m.unicode then .word else CharSet.asciiWord

def shorthand? (m : Mode) (negated : Bool) (s : CharSet) (rest : List Char) : Option (Escape × List Char) :=
  (m.negate? negated s).map fun s => (.set s, rest)

-- A brace after \b belongs to it if a letter or hyphen comes first in it.
def boundary? (m : Mode) (cs : List Char) : Option (Escape × List Char) :=
  match cs with
  | '{' :: rest =>
    match m.skip rest with
    | [] => none
    | c :: _ =>
      if c.isAlpha || c = '-' then do
        let (body, rest) ← braced? m false rest
        let check ← match String.ofList body with
          | "start" => some (Check.wordStart !m.unicode)
          | "end" => some (.wordFinish !m.unicode)
          | "start-half" => some (.wordStartHalf !m.unicode)
          | "end-half" => some (.wordFinishHalf !m.unicode)
          | _ => none
        return (.check check, rest)
      else some (.check (.boundary (!m.unicode) false), cs)
  | _ => some (.check (.boundary (!m.unicode) false), cs)

def plain (c : Char) (rest : List Char) : Option (Escape × List Char) := some (.literal c false, rest)

def escape? (m : Mode) : List Char → Option (Escape × List Char)
  | [] => none
  | c :: rest =>
    match c with
    | 'x' => hex? m 2 rest
    | 'u' => hex? m 4 rest
    | 'U' => hex? m 8 rest
    | 'p' => property? m false rest
    | 'P' => property? m true rest
    | 'd' => shorthand? m false (digits m) rest
    | 'D' => shorthand? m true (digits m) rest
    | 's' => shorthand? m false (blanks m) rest
    | 'S' => shorthand? m true (blanks m) rest
    | 'w' => shorthand? m false (words m) rest
    | 'W' => shorthand? m true (words m) rest
    | 'a' => plain '\x07' rest
    | 'f' => plain '\x0c' rest
    | 't' => plain '\t' rest
    | 'n' => plain '\n' rest
    | 'r' => plain '\r' rest
    | 'v' => plain '\x0b' rest
    | 'A' => some (.check .start, rest)
    | 'z' => some (.check .finish, rest)
    | 'b' => boundary? m rest
    | 'B' => some (.check (.boundary (!m.unicode) true), rest)
    | '<' => some (.check (.wordStart !m.unicode), rest)
    | '>' => some (.check (.wordFinish !m.unicode), rest)
    | c => if c.toNat < 0x80 && !c.isAlphanum then plain c rest else none

end FluidSheet.Pattern
