import FluidSheet.Pattern.Basic
import FluidSheet.Pattern.Encoding

-- The form that the size of a pattern is measured in.

namespace FluidSheet.Pattern

inductive Form where
  | empty
  | bytes (bytes : List Nat)
  | anyOf (spans : List (Nat × Nat))
  | never
  | check (check : Check)
  | group (index : Nat) (inner : Form)
  | repeated (inner : Form) (least : Nat) (most : Option Nat) (lazily : Bool)
  | inOrder (parts : List Form)
  | choice (parts : List Form)

namespace Form

mutual
def same : Form → Form → Bool
  | .empty, .empty => true
  | .bytes a, .bytes b => a = b
  | .anyOf a, .anyOf b => a = b
  | .never, .never => true
  | .check a, .check b => a = b
  | .group i a, .group j b => i = j && same a b
  | .repeated a l m z, .repeated b l' m' z' => l = l' && m = m' && z = z' && same a b
  | .inOrder a, .inOrder b => sameAll a b
  | .choice a, .choice b => sameAll a b
  | _, _ => false

def sameAll : List Form → List Form → Bool
  | [], [] => true
  | a :: as, b :: bs => same a b && sameAll as bs
  | _, _ => false
end

-- Where one part can never match nothing is said about the whole.
mutual
def least? : Form → Option Nat
  | .empty | .check _ => some 0
  | .bytes bs => some bs.length
  | .anyOf spans => spans.head?.map fun (first, _) => (Encoding.bytes first).length
  | .never => none
  | .group _ f => least? f
  | .repeated f n _ _ => (least? f).map (· * n)
  | .inOrder parts => leastSum? parts
  | .choice parts => leastOf? parts

def leastSum? : List Form → Option Nat
  | [] => some 0
  | f :: rest => do return (← least? f) + (← leastSum? rest)

def leastOf? : List Form → Option Nat
  | [] => none
  | [f] => least? f
  | f :: rest => do return min (← least? f) (← leastOf? rest)
end

mutual
def isEmptyOnly : Form → Bool
  | .empty | .check _ => true
  | .bytes _ | .anyOf _ | .never => false
  | .group _ f => isEmptyOnly f
  | .repeated f _ most _ => isEmptyOnly f && most.isSome
  | .inOrder parts | .choice parts => areEmptyOnly parts

def areEmptyOnly : List Form → Bool
  | [] => true
  | f :: rest => isEmptyOnly f && areEmptyOnly rest
end

def ofSpans (spans : List (Nat × Nat)) : Form :=
  match spans with
  | [] => .never
  | [(first, last)] => if first = last then .bytes (Encoding.bytes first) else .anyOf spans
  | _ => .anyOf spans

def ofSet (s : CharSet) : Form := ofSpans (Runs.spans (Runs.minus s.edges [0xd800, 0xe000]))

-- Repeating what takes no text does nothing that once does not.
def counts (f : Form) (least : Nat) (most : Option Nat) : Nat × Option Nat :=
  if isEmptyOnly f then (min least 1, some (min (most.getD 1) 1)) else (least, most)

def again (f : Form) (least : Nat) (most : Option Nat) (lazily : Bool) : Form :=
  match counts f least most with
  | (0, some 0) => .empty
  | (1, some 1) => f
  | (least, most) => .repeated f least most lazily

def partsInOrder : Form → List Form
  | .inOrder parts => parts
  | .empty => []
  | f => [f]

def joinBytes : List Form → List Form
  | [] => []
  | .bytes a :: rest =>
    match joinBytes rest with
    | .bytes b :: rest => .bytes (a ++ b) :: rest
    | rest => .bytes a :: rest
  | f :: rest => f :: joinBytes rest

def ofParts : List Form → Form
  | [] => .empty
  | [f] => f
  | parts => .inOrder parts

def sequence (forms : List Form) : Form := ofParts (joinBytes (forms.flatMap partsInOrder))

def partsOfChoice : Form → List Form
  | .choice parts => parts
  | f => [f]

def character? : Form → Option Nat
  | .bytes bs => Encoding.character? bs
  | _ => none

def spans? : Form → Option (List (Nat × Nat))
  | .anyOf spans => some spans
  | _ => none

def edgesOf (spans : List (Nat × Nat)) : List Nat := spans.flatMap fun (first, last) => [first, last + 1]

def sharedCount : List Form → List Form → Nat
  | a :: as, b :: bs => if same a b then sharedCount as bs + 1 else 0
  | _, _ => 0

def sequenceParts? : Form → Option (List Form)
  | .inOrder parts => some parts
  | _ => none

def sharedParts : List (List Form) → List Form
  | [] => []
  | first :: rest => first.take ((rest.map (sharedCount first)).foldl min first.length)

-- Alternatives that are one character or one set each are one set together.
def collapsed? (forms : List Form) : Option Form :=
  match forms, forms.mapM character?, forms.mapM spans? with
  | [], _, _ => some .never
  | [f], _, _ => some f
  | _, some codes, _ => some (ofSpans (Runs.spans (Runs.ofList codes)))
  | _, none, some spans => some (ofSpans (Runs.spans ((spans.map edgesOf).foldl Runs.union [])))
  | _, none, none => none

-- The rests may be choices, which open up then; they share no beginning again.
def choiceWithin : (depth : Nat) → List Form → Form
  | 0, forms => .choice forms
  | depth + 1, forms =>
    let forms := forms.flatMap partsOfChoice
    match collapsed? forms with
    | some f => f
    | none =>
      match forms.mapM sequenceParts? with
      | none => .choice forms
      | some parts =>
        match sharedParts parts with
        | [] => .choice forms
        | shared =>
          sequence (shared ++ [choiceWithin depth (parts.map fun part => sequence (part.drop shared.length))])

def choiceOf (forms : List Form) : Form := choiceWithin 3 forms

end Form
end FluidSheet.Pattern
