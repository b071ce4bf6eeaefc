import FluidSheet.Toml.Scalar
import FluidSheet.Toml.Table

namespace FluidSheet.Toml

def isBare (c : Char) : Bool := c.isAlphanum || c = '_' || c = '-'

def name? : List Char → Option (String × List Char)
  | '"' :: rest => basic? rest
  | '\x27' :: rest => literal? rest
  | cs =>
    let name := cs.takeWhile isBare
    if name.isEmpty then none else some (String.ofList name, cs.dropWhile isBare)

def depthLimit : Nat := 80

-- `room`: for how many more names.
def keyFrom? (room : Nat) (cs : List Char) : Option (List String × List Char) :=
  match room with
  | 0 => none
  | room + 1 => do
    let (name, rest) ← name? (skipBlank cs)
    match skipBlank rest with
    | '.' :: rest =>
      let (names, rest) ← keyFrom? room rest
      return (name :: names, rest)
    | rest => return ([name], rest)

def key? (cs : List Char) : Option (List String × List Char) := keyFrom? depthLimit cs

def skipLines? : (comment : Bool) → List Char → Option (List Char)
  | _, [] => some []
  | _, '\n' :: rest | _, '\r' :: '\n' :: rest => skipLines? false rest
  | comment, c :: rest =>
    if comment then (if isVisible c then skipLines? true rest else none)
    else if isBlank c then skipLines? false rest
    else if c = '#' then skipLines? true rest
    else some (c :: rest)

-- Nothing but a comment may follow on the line.
def lineEnd? (cs : List Char) : Option (List Char) :=
  match skipBlank cs with
  | [] => some []
  | '#' :: rest => skipLines? true rest
  | rest => if startsLine rest then skipLines? false rest else none

mutual
def value? (fuel depth : Nat) (cs : List Char) : Option (Value × List Char) :=
  match fuel with
  | 0 => none
  | fuel + 1 =>
    match cs with
    | '"' :: '"' :: '"' :: rest => (long? '"' rest).map fun (s, rest) => (.string s, rest)
    | '"' :: rest => (basic? rest).map fun (s, rest) => (.string s, rest)
    | '\x27' :: '\x27' :: '\x27' :: rest => (long? '\x27' rest).map fun (s, rest) => (.string s, rest)
    | '\x27' :: rest => (literal? rest).map fun (s, rest) => (.string s, rest)
    | '[' :: rest =>
      if depth = 0 then none else (items? fuel (depth - 1) rest).map fun (items, rest) => (.array items, rest)
    | '{' :: rest =>
      if depth = 0 then none
      else (members? fuel (depth - 1) [] rest).map fun (members, rest) => (.table (wholeMembers members), rest)
    | cs => scalar? cs

def items? (fuel depth : Nat) (cs : List Char) : Option (List Value × List Char) :=
  match fuel with
  | 0 => none
  | fuel + 1 => do
    match ← skipLines? false cs with
    | ']' :: rest => return ([], rest)
    | cs =>
      let (v, rest) ← value? fuel depth cs
      match ← skipLines? false rest with
      | ']' :: rest => return ([v], rest)
      | ',' :: rest =>
        let (vs, rest) ← items? fuel depth rest
        return (v :: vs, rest)
      | _ => none

def members? (fuel depth : Nat) (members : Members) (cs : List Char) : Option (Members × List Char) :=
  match fuel with
  | 0 => none
  | fuel + 1 => do
    match ← skipLines? false cs with
    | '}' :: rest => return (members, rest)
    | cs =>
      let (key, rest) ← key? cs
      match rest with
      | '=' :: rest =>
        let (v, rest) ← value? fuel depth (skipBlank rest)
        let members ← members.assign v false false key
        match ← skipLines? false rest with
        | '}' :: rest => return (members, rest)
        | ',' :: rest => members? fuel depth members rest
        | _ => none
      | _ => none
end

-- `table` is the path of the last header.
def document? (fuel : Nat) (table : List String) (members : Members) (cs : List Char) : Option Members :=
  match fuel with
  | 0 => none
  | fuel + 1 => do
    match ← skipLines? false cs with
    | [] => return members
    | '[' :: '[' :: rest =>
      match ← key? rest with
      | (key, ']' :: ']' :: rest) =>
        let members ← members.inside (Members.openNext (key.getLast?.getD "")) key.dropLast
        document? fuel key members (← lineEnd? rest)
      | _ => none
    | '[' :: rest =>
      match ← key? rest with
      | (key, ']' :: rest) =>
        let members ← members.inside (Members.openTable (key.getLast?.getD "")) key.dropLast
        document? fuel key members (← lineEnd? rest)
      | _ => none
    | cs =>
      match ← key? cs with
      | (key, '=' :: rest) =>
        let (v, rest) ← value? fuel depthLimit (skipBlank rest)
        let members ← members.inside (Members.assign v false false key) table
        document? fuel table members (← lineEnd? rest)
      | _ => none

def dropByteOrderMark : List Char → List Char
  | c :: rest => if c.toNat = 0xfeff then rest else c :: rest
  | [] => []

def ofText? (s : String) : Option Table :=
  (document? (2 * s.length + 2) [] [] (dropByteOrderMark s.toList)).map wholeMembers

end FluidSheet.Toml
