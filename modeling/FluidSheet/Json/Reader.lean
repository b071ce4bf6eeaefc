import FluidSheet.Json.Draft
import FluidSheet.Json.Numeral

-- No rest is returned when the text is of no further use.

namespace FluidSheet.Json

abbrev Reading := Draft × Option (List Char)

def halt (fault : Fault) : Reading := (.stop fault, none)

def isBlank (c : Char) : Bool := c = ' ' || c = '\n' || c = '\t' || c = '\r'

def skipBlank (cs : List Char) : List Char := cs.dropWhile isBlank

def readName (value : Draft) : List Char → List Char → Reading
  | [], rest => (value, some rest)
  | _ :: _, [] => halt .unfinished
  | e :: expected, c :: rest => if c = e then readName value expected rest else halt .malformed

-- A numeral cut short by the end of the text is unfinished to a reader, but to a
-- skipper merely malformed.
def cutNumeral : List Char → Reading
  | [] => (.broken .unfinished (some .malformed), none)
  | _ => halt .malformed

def numeralDraft (n : Numeral) : Draft :=
  match n.value? with
  | some v => .number v
  | none => .broken .malformed none

def readExponent (n : Numeral) (cs : List Char) : Reading :=
  match cs with
  | 'e' :: rest | 'E' :: rest =>
    let (below, rest) := match rest with
      | '-' :: rest => (true, rest)
      | '+' :: rest => (false, rest)
      | _ => (false, rest)
    let (ds, rest) := rest.span Char.isDigit
    if ds.isEmpty then cutNumeral rest
    else (numeralDraft { n with exponent := some (below, ds) }, some rest)
  | _ => (numeralDraft n, some cs)

def readFraction (n : Numeral) (cs : List Char) : Reading :=
  match cs with
  | '.' :: rest =>
    let (ds, rest) := rest.span Char.isDigit
    if ds.isEmpty then cutNumeral rest else readExponent { n with fraction := some ds } rest
  | _ => readExponent n cs

def readNumeral (negative : Bool) (cs : List Char) : Reading :=
  match cs with
  | '0' :: rest =>
    match rest with
    | c :: _ => if c.isDigit then halt .malformed else readFraction ⟨negative, ['0'], none, none⟩ rest
    | [] => readFraction ⟨negative, ['0'], none, none⟩ rest
  | _ =>
    let (ds, rest) := cs.span Char.isDigit
    if ds.isEmpty then cutNumeral rest else readFraction ⟨negative, ds, none, none⟩ rest

def hexValue? (c : Char) : Option Nat :=
  if '0' ≤ c ∧ c ≤ '9' then some (c.toNat - 48)
  else if 'a' ≤ c ∧ c ≤ 'f' then some (c.toNat - 87)
  else if 'A' ≤ c ∧ c ≤ 'F' then some (c.toNat - 55)
  else none

def bytesLeft : Nat → List Char → Bool
  | 0, _ => true
  | _, [] => false
  | n, c :: rest => bytesLeft (n - c.utf8Size) rest

-- The latter two may follow the first half of a surrogate pair.
inductive Inside where
  | plain
  | half (high : Nat)
  | escape (high : Option Nat)
  | unit (high : Option Nat) (left : Nat) (value : Nat)

-- `flawed`: a code unit stood alone. The string then has no value, but it has an end.
structure Quoted where
  flawed : Bool
  chars : List Char

def Quoted.cut (q : Quoted) (fault : Fault) : Reading :=
  (.broken (if q.flawed then .malformed else fault) (some fault), none)

def Quoted.close (q : Quoted) : Draft :=
  if q.flawed then .broken .malformed none else .string (String.ofList q.chars.reverse)

def Quoted.push (q : Quoted) (c : Char) : Quoted := ⟨q.flawed, c :: q.chars⟩

def Quoted.flaw (q : Quoted) : Quoted := ⟨true, q.chars⟩

def simpleEscape? : Char → Option Char
  | '"' => some '"'
  | '\\' => some '\\'
  | '/' => some '/'
  | 'b' => some (Char.ofNat 8)
  | 'f' => some (Char.ofNat 12)
  | 'n' => some '\n'
  | 'r' => some '\r'
  | 't' => some '\t'
  | _ => none

def Quoted.unit (q : Quoted) (high : Option Nat) (value : Nat) : Quoted × Inside :=
  match high with
  | some h =>
    if 0xDC00 ≤ value ∧ value ≤ 0xDFFF then
      (q.push (Char.ofNat ((h - 0xD800) * 0x400 + (value - 0xDC00) + 0x10000)), .plain)
    else (q.flaw, .plain)
  | none =>
    if 0xD800 ≤ value ∧ value ≤ 0xDBFF then (q, .half value)
    else if 0xDC00 ≤ value ∧ value ≤ 0xDFFF then (q.flaw, .plain)
    else (q.push (Char.ofNat value), .plain)

def readPlain (q : Quoted) (c : Char) (rest : List Char) (next : Quoted → Inside → Reading) : Reading :=
  if c = '"' then (q.close, some rest)
  else if c = '\\' then next q (.escape none)
  else if c.toNat < 0x20 then q.cut .malformed
  else next (q.push c) .plain

def readString (q : Quoted) (inside : Inside) : List Char → Reading
  | [] => q.cut .unfinished
  | c :: rest =>
    match inside with
    | .plain => readPlain q c rest (fun q inside => readString q inside rest)
    | .half high =>
      if c = '\\' then readString q (.escape (some high)) rest
      else readPlain q.flaw c rest (fun q inside => readString q inside rest)
    | .escape high =>
      if c = 'u' then
        if bytesLeft 4 rest then readString q (.unit high 4 0) rest else q.cut .unfinished
      else
        let q := if high.isSome then q.flaw else q
        match simpleEscape? c with
        | some e => readString (q.push e) .plain rest
        | none => q.cut .malformed
    | .unit high left value =>
      match hexValue? c with
      | none => q.cut .malformed
      | some d =>
        let value := 16 * value + d
        if left = 1 then
          let (q, inside) := q.unit high value
          readString q inside rest
        else readString q (.unit high (left - 1) value) rest

def consItem (d : Draft) : List Draft × Option (List Char) → List Draft × Option (List Char)
  | (ds, rest) => (d :: ds, rest)

def consMember (k v : Draft) :
    List (Draft × Draft) × Option (List Char) → List (Draft × Draft) × Option (List Char)
  | (ms, rest) => ((k, v) :: ms, rest)

def haltItems (fault : Fault) : List Draft × Option (List Char) := ([.stop fault], none)

def haltMembers (fault : Fault) : List (Draft × Draft) × Option (List Char) := ([(.stop fault, .null)], none)

-- Every step into a container or on to its next item takes a character of the
-- text, so its length, with one to spare, is enough fuel.
mutual
def readValue (fuel : Nat) (cs : List Char) : Reading :=
  match fuel with
  | 0 => halt .malformed
  | fuel + 1 =>
    match skipBlank cs with
    | [] => halt .unfinished
    | 'n' :: rest => readName .null ['u', 'l', 'l'] rest
    | 't' :: rest => readName (.bool true) ['r', 'u', 'e'] rest
    | 'f' :: rest => readName (.bool false) ['a', 'l', 's', 'e'] rest
    | '"' :: rest => readString ⟨false, []⟩ .plain rest
    | '-' :: rest => readNumeral true rest
    | '[' :: rest =>
      match skipBlank rest with
      | ']' :: rest => (.array [], some rest)
      | rest =>
        let (items, rest) := readItems fuel rest
        (.array items, rest)
    | '{' :: rest =>
      match skipBlank rest with
      | '}' :: rest => (.object [], some rest)
      | rest =>
        let (members, rest) := readMembers fuel rest
        (.object members, rest)
    | c :: rest => if c.isDigit then readNumeral false (c :: rest) else halt .malformed

def readItems (fuel : Nat) (cs : List Char) : List Draft × Option (List Char) :=
  match fuel with
  | 0 => haltItems .malformed
  | fuel + 1 =>
    match readValue fuel cs with
    | (d, none) => ([d], none)
    | (d, some rest) =>
      match skipBlank rest with
      | [] => consItem d (haltItems .unfinished)
      | ']' :: rest => ([d], some rest)
      | ',' :: rest =>
        match skipBlank rest with
        | [] => consItem d (haltItems .unfinished)
        | ']' :: _ => consItem d (haltItems .malformed)
        | rest => consItem d (readItems fuel rest)
      | _ => consItem d (haltItems .malformed)

def readMembers (fuel : Nat) (cs : List Char) : List (Draft × Draft) × Option (List Char) :=
  match fuel with
  | 0 => haltMembers .malformed
  | fuel + 1 =>
    match cs with
    | [] => haltMembers .unfinished
    | '"' :: rest =>
      match readString ⟨false, []⟩ .plain rest with
      | (k, none) => ([(k, .null)], none)
      | (k, some rest) =>
        match skipBlank rest with
        | [] => ([(k, .stop .unfinished)], none)
        | ':' :: rest =>
          match readValue fuel rest with
          | (v, none) => ([(k, v)], none)
          | (v, some rest) =>
            match skipBlank rest with
            | [] => consMember k v (haltMembers .unfinished)
            | '}' :: rest => ([(k, v)], some rest)
            | ',' :: rest =>
              match skipBlank rest with
              | [] => consMember k v (haltMembers .unfinished)
              | rest => consMember k v (readMembers fuel rest)
            | _ => consMember k v (haltMembers .malformed)
        | _ => ([(k, .stop .malformed)], none)
    | _ => haltMembers .malformed
end

def Page.ofText (s : String) : Page :=
  let cs := s.toList
  match readValue (cs.length + 1) cs with
  | (d, none) => ⟨d, false⟩
  | (d, some rest) => ⟨d, !(skipBlank rest).isEmpty⟩

def ofText (s : String) : Except Fault Json := (Page.ofText s).toJson

end FluidSheet.Json
