import FluidSheet.Pattern.Bracket
import FluidSheet.Pattern.Program
import FluidSheet.Text.Occurs

-- A pattern that is nested too deeply or would be too large reads as nothing.

namespace FluidSheet.Pattern

structure Term where
  pattern : Pattern
  form : Form
  height : Nat
  repeatable : Bool

structure Scope where
  mode : Mode
  names : List (List Char)
  groups : Nat

def highest (terms : List Term) : Nat := (terms.map (·.height)).foldl max 0

def nothing : Term := ⟨.empty, .empty, 0, false⟩

def joined (join : Pattern → Pattern → Pattern) : List Term → Pattern
  | [] => .empty
  | t :: rest => rest.foldl (fun p t => join p t.pattern) t.pattern

-- The first terms are taken together: places they lead to in several ways are gone on from once.
def inSequence : List Term → Term
  | [] => nothing
  | [t] => t
  | terms =>
    let terms := terms.reverse
    ⟨joined .seq terms, Form.sequence (terms.map (·.form)), 1 + highest terms, true⟩

def inChoice : List Term → Term
  | [] => nothing
  | [t] => t
  | terms =>
    let terms := terms.reverse
    ⟨joined .either terms, Form.choiceOf (terms.map (·.form)), 1 + highest terms, true⟩

def Term.again (t : Term) (least : Nat) (most : Option Nat) (lazily : Bool) : Term :=
  let (least, most) := t.form.counts least most
  ⟨.repeated t.pattern least most lazily, t.form.again least most lazily, t.height + 1, true⟩

def again? (m : Mode) (least : Nat) (most : Option Nat) (terms : List Term) (rest : List Char) :
    Option (List Term × List Char) :=
  let (lazily, rest) := match rest with
    | '?' :: rest => (!m.reluctant, rest)
    | rest => (m.reluctant, rest)
  match terms with
  | [] => none
  | t :: terms => if t.repeatable then some (t.again least most lazily :: terms, rest) else none

def count? (cs : List Char) : Option Nat :=
  let ds := Text.trimChars cs
  if ds.isEmpty || !ds.all Char.isDigit then none
  else if Decimal.ofDigits ds < Nat.pow 2 32 then some (Decimal.ofDigits ds)
  else none

def counts? (body : List Char) : Option (Nat × Option Nat) := do
  let least ← count? (body.takeWhile (· ≠ ','))
  match body.dropWhile (· ≠ ',') with
  | [] => return (least, some least)
  | [_] => return (least, none)
  | _ :: second =>
    let most ← count? second
    if least ≤ most then return (least, some most) else none

def flagLetters : List Char := ['i', 'm', 's', 'U', 'u', 'R', 'x']

def Mode.set (m : Mode) (flag : Char) (on : Bool) : Mode :=
  match flag with
  | 'i' => { m with ignoreCase := on }
  | 'm' => { m with multiLine := on }
  | 's' => { m with dotNewline := on }
  | 'u' => { m with unicode := on }
  | 'R' => { m with carriage := on }
  | 'x' => { m with verbose := on }
  | 'U' => { m with reluctant := on }
  | _ => m

-- Flags up to a colon, which opens a group, or a parenthesis, which closes them.
def flags? (m : Mode) (seen : List Char) : List Char → Option (Mode × Bool × List Char)
  | [] => none
  | c :: rest =>
    if c = ':' ∨ c = ')' then
      if seen.head? = some '-' ∨ (c = ')' ∧ seen.isEmpty) then none
      else some (m, c = ':', rest)
    else if seen.contains c then none
    else if c = '-' then flags? m (c :: seen) rest
    else if flagLetters.contains c then flags? (m.set c (!seen.contains '-')) (c :: seen) rest
    else none

def nameStart (c : Char) : Bool := c = '_' || Text.isAlphabetic c
def nameRest (c : Char) : Bool := ['_', '.', '[', ']'].contains c || Text.isAlphanumeric c

def name? (cs : List Char) : Option (List Char × List Char) :=
  match cs.takeWhile (· ≠ '>'), cs.dropWhile (· ≠ '>') with
  | c :: name, _ :: rest => if nameStart c && name.all nameRest then some (c :: name, rest) else none
  | _, _ => none

inductive Opening where
  | group (index : Option Nat) (inner : Scope) (rest : List Char)
  | flags (mode : Mode) (rest : List Char)

def namedGroup? (scope : Scope) (cs : List Char) : Option Opening := do
  let (name, rest) ← name? cs
  if scope.names.contains name then none
  else return .group (some (scope.groups + 1)) { scope with names := name :: scope.names, groups := scope.groups + 1 } rest

-- Reads what follows an opening parenthesis. Looking around is not offered.
def opening? (scope : Scope) (cs : List Char) : Option Opening :=
  match scope.mode.skip cs with
  | '?' :: rest =>
    match rest with
    | '=' :: _ | '!' :: _ | '<' :: '=' :: _ | '<' :: '!' :: _ => none
    | '<' :: rest | 'P' :: '<' :: rest => namedGroup? scope rest
    | rest => do
      let (mode, group, rest) ← flags? scope.mode [] rest
      return if group then .group none { scope with mode } rest else .flags mode rest
  | rest => some (.group (some (scope.groups + 1)) { scope with groups := scope.groups + 1 } rest)

def lineStart (m : Mode) : Check :=
  if !m.multiLine then .start else if m.carriage then .anyLineStart else .lineStart

def lineFinish (m : Mode) : Check :=
  if !m.multiLine then .finish else if m.carriage then .anyLineFinish else .lineFinish

def dot? (m : Mode) : Option CharSet :=
  if !m.unicode then none
  else if m.dotNewline then some .any
  else if m.carriage then some (.complement (CharSet.chars ['\r', '\n']))
  else some (.complement (.char '\n'))

def ofEscape? (m : Mode) : Escape → Option Pattern
  | .literal c byte =>
    if !m.unicode && byte && 0x80 ≤ c.toNat then none
    else if m.unicode || c.toNat < 0x80 then some (.set (m.fold (.char c)))
    else some (.set (.char c))
  | .set s => some (.set s)
  | .check k => some (.check k)

def formOf : Pattern → Form
  | .set s => Form.ofSet s
  | .check k => .check k
  | _ => .empty

def single (p : Pattern) : Term := ⟨p, formOf p, 0, true⟩

def Form.grouped (f : Form) : Option Nat → Form
  | some index => .group index f
  | none => f

def primitive? (m : Mode) (c : Char) (rest : List Char) : Option (Term × List Char) :=
  match c with
  | '.' => (dot? m).map fun s => (single (.set s), rest)
  | '^' => some (single (.check (lineStart m)), rest)
  | '$' => some (single (.check (lineFinish m)), rest)
  | '\\' => do
    let (e, rest) ← escape? m rest
    return (single (← ofEscape? m e), rest)
  | c => (ofEscape? m (.literal c false)).map fun p => (single p, rest)

-- What flags set holds up to where the group closes, in later branches too.
def read (fuel : Nat) (inGroup : Bool) (scope : Scope) (branches terms : List Term) (cs : List Char) :
    Option (Term × Scope × List Char) :=
  match fuel with
  | 0 => none
  | fuel + 1 =>
    let m := scope.mode
    let next (terms : List Term) (rest : List Char) := read fuel inGroup scope branches terms rest
    let repeat? (read : Option (List Term × List Char)) := read.bind fun (terms, rest) => next terms rest
    match m.skip cs with
    | [] => if inGroup then none else some (inChoice (inSequence terms :: branches), scope, [])
    | ')' :: rest => if inGroup then some (inChoice (inSequence terms :: branches), scope, rest) else none
    | '|' :: rest => read fuel inGroup scope (inSequence terms :: branches) [] rest
    | '(' :: rest =>
      match opening? scope rest with
      | none => none
      | some (.flags mode rest) =>
        read fuel inGroup { scope with mode } branches (nothing :: terms) rest
      | some (.group index inner rest) =>
        match read fuel true inner [] [] rest with
        | none => none
        | some (t, after, rest) =>
          read fuel inGroup { after with mode := m } branches
            (⟨t.pattern, t.form.grouped index, t.height + 1, true⟩ :: terms) rest
    | '[' :: rest =>
      match Bracket.read (2 * rest.length + 2) m rest with
      | none => none
      | some (s, rest) => next (⟨.set s.set, Form.ofSet s.set, s.height, true⟩ :: terms) rest
    | '?' :: rest => repeat? (again? m 0 (some 1) terms rest)
    | '*' :: rest => repeat? (again? m 0 none terms rest)
    | '+' :: rest => repeat? (again? m 1 none terms rest)
    | '{' :: rest => do
      let (body, rest) ← braced? m false rest
      let (least, most) ← counts? body
      repeat? (again? m least most terms (m.skip rest))
    | c :: rest => do
      let (t, rest) ← primitive? m c rest
      next (t :: terms) rest

def heightLimit : Nat := 250

def ofText? (s : String) : Option Pattern := do
  let (t, _, _) ← read (s.length + 1) false ⟨.standard, [], 0⟩ [] [] s.toList
  if t.height ≤ heightLimit && Program.fits t.form then return t.pattern else none

end FluidSheet.Pattern
