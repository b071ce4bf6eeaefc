import FluidSheet.Pattern.CharSet
import FluidSheet.Text.Occurs

-- Quoted text and url(...) are taken whole, so nothing inside them is found.

namespace FluidSheet

inductive Piece where
  | plain (c : Char)
  | sealed (text : List Char)
  | length (number : List Char)
deriving DecidableEq, Repr

namespace Length

abbrev Split := List Char × List Char

def enclosed? (close : Char) (cs : List Char) : Option Split :=
  let body := cs.takeWhile (· ≠ close)
  match body, cs.dropWhile (· ≠ close) with
  | _ :: _, _ :: rest => some (body ++ [close], rest)
  | _, _ => none

def urlOpening : List Char := ['u', 'r', 'l', '(']

def sealed? (cs : List Char) : Option Split :=
  match cs with
  | '"' :: rest => (enclosed? '"' rest).map fun (body, rest) => ('"' :: body, rest)
  | '\x27' :: rest => (enclosed? '\x27' rest).map fun (body, rest) => ('\x27' :: body, rest)
  | _ =>
    if urlOpening.isPrefixOf cs then
      (enclosed? ')' (cs.drop 4)).map fun (body, rest) => (urlOpening ++ body, rest)
    else none

-- The ways to end in a run of digits, longest first. At least one digit is taken.
def endsIn (ds rest : List Char) : List Split :=
  (List.range ds.length).map fun k => (ds.take (ds.length - k), ds.drop (ds.length - k) ++ rest)

def exponentEnds (cs : List Char) : List Split :=
  match cs with
  | e :: rest =>
    if e = 'e' ∨ e = 'E' then
      match rest with
      | s :: digits =>
        if s = '+' ∨ s = '-' then
          (endsIn (digits.takeWhile Char.isDigit) (digits.dropWhile Char.isDigit)).map
            fun (ds, rest) => (e :: s :: ds, rest)
        else
          (endsIn (rest.takeWhile Char.isDigit) (rest.dropWhile Char.isDigit)).map
            fun (ds, rest) => (e :: ds, rest)
      | [] => []
    else []
  | [] => []

-- An exponent is preferred to going without.
def withExponent (splits : List Split) : List Split :=
  splits.flatMap fun (ds, rest) =>
    (exponentEnds rest).map (fun (exponent, rest) => (ds ++ exponent, rest)) ++ [(ds, rest)]

-- Numbers that end in the fraction come before those that end in the whole part.
def unsignedEnds (cs : List Char) : List Split :=
  let whole := cs.takeWhile Char.isDigit
  let rest := cs.dropWhile Char.isDigit
  let fraction := match rest with
    | '.' :: rest =>
      (withExponent (endsIn (rest.takeWhile Char.isDigit) (rest.dropWhile Char.isDigit))).map
        fun (ds, rest) => (whole ++ '.' :: ds, rest)
    | _ => []
  fraction ++ withExponent (endsIn whole rest)

def numberEnds (cs : List Char) : List Split :=
  match cs with
  | '-' :: rest => (unsignedEnds rest).map fun (number, rest) => ('-' :: number, rest)
  | _ => unsignedEnds cs

-- A unit that ends in a letter, digit or underscore must not run on into a longer word.
def needsBoundary (unit : List Char) : Bool :=
  match unit.getLast? with
  | some c => Text.isAlphanumeric c || c = '_'
  | none => false

def startsWord (cs : List Char) : Bool := cs.head?.any CharSet.word.has

def endsWord (cs : List Char) : Bool := cs.getLast?.any CharSet.word.has

def unitEnds (unit rest : List Char) : Bool := !needsBoundary unit || endsWord unit != startsWord rest

def afterUnit? (unit cs : List Char) : Option (List Char) :=
  if unit.isPrefixOf cs && unitEnds unit (cs.drop unit.length) then some (cs.drop unit.length) else none

def length? (unit cs : List Char) : Option Split :=
  (numberEnds cs).findSome? fun (number, rest) => (afterUnit? unit rest).map fun rest => (number, rest)

def token? (unit cs : List Char) : Option (Piece × List Char) :=
  match sealed? cs with
  | some (text, rest) => some (.sealed text, rest)
  | none => (length? unit cs).map fun (number, rest) => (.length number, rest)

-- `skip` characters still belong to the piece before.
def scan (unit : List Char) : (skip : Nat) → List Char → List Piece
  | _, [] => []
  | skip + 1, _ :: rest => scan unit skip rest
  | 0, c :: rest =>
    match token? unit (c :: rest) with
    | some (piece, after) => piece :: scan unit (rest.length - after.length) rest
    | none => .plain c :: scan unit 0 rest

end Length

namespace Piece

def text (unit : List Char) : Piece → List Char
  | .plain c => [c]
  | .sealed text => text
  | .length number => number ++ unit

def number? : Piece → Option (List Char)
  | .length number => some number
  | _ => none

end Piece
end FluidSheet
