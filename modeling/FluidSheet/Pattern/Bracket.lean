import FluidSheet.Pattern.Escape

namespace FluidSheet.Pattern

structure Operand where
  set : CharSet
  height : Nat

inductive Operation where
  | meet
  | minus
  | differ

def Operation.apply (op : Operation) (a b : CharSet) : CharSet :=
  match op with
  | .meet => .meet a b
  | .minus => .minus a b
  | .differ => .differ a b

namespace Bracket

def union (items : List Operand) : Operand :=
  match items with
  | [] => ⟨.nothing, 0⟩
  | [item] => item
  | items => ⟨CharSet.ofList (items.reverse.map (·.set)), 1 + (items.map (·.height)).foldl max 0⟩

-- Operations are taken from left to right, each side closed under case first.
def combine (m : Mode) (left : Option (Operation × Operand)) (right : Operand) : Operand :=
  match left with
  | none => right
  | some (op, l) => ⟨op.apply (m.fold l.set) (m.fold right.set), 1 + max l.height right.height⟩

-- Nothing when this is no named class, and then it is an ordinary bracket.
def named? (m : Mode) (cs : List Char) : Option (Option CharSet × List Char) :=
  match cs with
  | ':' :: rest =>
    let (negated, rest) := match rest with
      | '^' :: rest => (true, rest)
      | _ => (false, rest)
    match rest.dropWhile (· ≠ ':') with
    | ':' :: ']' :: after =>
      (CharSet.ascii? (String.ofList (rest.takeWhile (· ≠ ':')))).map
        fun s => (m.negate? negated (m.fold s), after)
    | _ => none
  | _ => none

def allowed (m : Mode) (c : Char) : Bool := m.unicode || c.toNat < 0x80

def single? (m : Mode) : Escape → Option CharSet
  | .literal c _ => if allowed m c then some (.char c) else none
  | .set s => some s
  | .check _ => none

def range? (m : Mode) : Escape → Escape → Option CharSet
  | .literal a _, .literal b _ =>
    if allowed m a && allowed m b && a ≤ b then some (.range a.toNat b.toNat) else none
  | _, _ => none

def item? (m : Mode) : List Char → Option (Escape × List Char)
  | [] => none
  | '\\' :: rest => escape? m rest
  | c :: rest => some (.literal c false, rest)

-- A hyphen before the end or another hyphen makes no range; of a comment only the mark is passed over.
def afterHyphen (m : Mode) (cs : List Char) : Option Char :=
  if !m.verbose then cs.head?
  else
    match cs.dropWhile Text.isWhite with
    | '#' :: rest => (rest.dropWhile Text.isWhite).head?
    | rest => rest.head?

def element? (m : Mode) (cs : List Char) : Option (CharSet × List Char) := do
  let (first, rest) ← item? m cs
  match m.skip rest with
  | [] => none
  | '-' :: after =>
    if afterHyphen m after = some ']' || afterHyphen m after = some '-' then
      return (← single? m first, '-' :: after)
    else
      let (last, rest) ← item? m (m.skip after)
      return (← range? m first last, rest)
  | rest => return (← single? m first, rest)

def hyphen : Operand := ⟨.char '-', 0⟩

mutual
def read (fuel : Nat) (m : Mode) (cs : List Char) : Option (Operand × List Char) :=
  match fuel with
  | 0 => none
  | fuel + 1 =>
    match m.skip cs with
    | '^' :: rest => do
      let (body, rest) ← readItems fuel m true none [] rest
      return (⟨← m.negate? true (m.fold body.set), body.height + 1⟩, rest)
    | rest => do
      let (body, rest) ← readItems fuel m true none [] rest
      return (⟨m.fold body.set, body.height + 1⟩, rest)

-- `opening`: hyphens, and a closing bracket before anything else, stand for themselves.
def readItems (fuel : Nat) (m : Mode) (opening : Bool) (left : Option (Operation × Operand))
    (items : List Operand) (cs : List Char) : Option (Operand × List Char) :=
  match fuel with
  | 0 => none
  | fuel + 1 =>
    match opening, m.skip cs with
    | _, [] => none
    | true, '-' :: rest => readItems fuel m true left (hyphen :: items) rest
    | opening, ']' :: rest =>
      if opening && items.isEmpty then readItems fuel m false left [⟨.char ']', 0⟩] rest
      else some (combine m left (union items), rest)
    | _, '[' :: rest =>
      match named? m rest with
      | some (s, rest) => do readItems fuel m false left (⟨← s, 0⟩ :: items) rest
      | none => do
        let (inner, rest) ← read fuel m rest
        readItems fuel m false left (inner :: items) rest
    | _, '&' :: '&' :: rest => readItems fuel m false (some (.meet, combine m left (union items))) [] rest
    | _, '-' :: '-' :: rest => readItems fuel m false (some (.minus, combine m left (union items))) [] rest
    | _, '~' :: '~' :: rest => readItems fuel m false (some (.differ, combine m left (union items))) [] rest
    | _, rest => do
      let (s, rest) ← element? m rest
      readItems fuel m false left (⟨s, 0⟩ :: items) rest
end

end Bracket
end FluidSheet.Pattern
