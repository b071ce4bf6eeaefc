import FluidSheet.Text.Wrap

-- A column is as wide as its widest cell if that fits; wider cells are broken into more lines.

namespace FluidSheet

inductive Align where
  | left
  | right
deriving DecidableEq, Repr

structure Table where
  aligns : List Align
  header : List String
  rows : List (List String)
deriving DecidableEq, Repr

namespace Table

def fullWidth : Nat := 120

def linesOf : List Char → List (List Char)
  | [] => [[]]
  | c :: rest =>
    if c = '\n' then [] :: linesOf rest
    else
      match linesOf rest with
      | line :: lines => (c :: line) :: lines
      | [] => [[c]]

def cellLines (cell : String) : List (List Char) := Styled.restyle [] (linesOf cell.toList)

def widest (lines : List (List Char)) : Nat := (lines.map Styled.width).foldl max 0

def columnLines (t : Table) (column : Nat) : List (List Char) :=
  (t.header :: t.rows).flatMap fun row => cellLines (row[column]?.getD "")

def room (t : Table) : Nat := fullWidth - (3 * t.header.length + 1)

structure Plan where
  widths : List (Option Nat)
  room : Nat
  unsettled : Nat

namespace Plan

def average (p : Plan) : Nat := p.room / p.unsettled

def isOpen (p : Plan) (column : Nat) : Bool := p.widths[column]? == some none

def settle (p : Plan) (column width : Nat) : Plan :=
  ⟨p.widths.set column (some (max width 1)), p.room - width, p.unsettled - 1⟩

def visit (width? : Plan → Nat → Option Nat) (p : Plan) (column : Nat) : Plan :=
  if p.isOpen column then
    match width? p column with
    | some width => p.settle column width
    | none => p
  else p

def settleAll (width? : Plan → Nat → Option Nat) : (fuel : Nat) → Plan → Plan
  | 0, p => p
  | fuel + 1, p =>
    let next := (List.range p.widths.length).foldl (visit width?) p
    if next.unsettled = p.unsettled then p else settleAll width? fuel next

-- The first open columns take the rest of the division.
def share (average : Nat) : (excess : Nat) → List (Option Nat) → List Nat
  | _, [] => []
  | excess, some width :: rest => width :: share average excess rest
  | 0, none :: rest => max average 1 :: share average 0 rest
  | excess + 1, none :: rest => (average + 1) :: share average excess rest

end Plan

def fitting (needed : List Nat) (p : Plan) (column : Nat) : Option Nat :=
  let width := needed[column]?.getD 0
  if p.average ≠ 0 ∧ width ≤ p.average then some width else none

-- A column that breaks into lines so well that some of its part is left.
def spared (t : Table) (p : Plan) (column : Nat) : Option Nat :=
  let width := widest ((t.columnLines column).flatMap (Wrap.lines p.average))
  if width + 3 ≤ p.average then some width else none

def widths (t : Table) : List Nat :=
  let count := t.header.length
  let needed := (List.range count).map fun column => widest (t.columnLines column)
  let start : Plan := ⟨List.replicate count none, t.room, count⟩
  let plan := Plan.settleAll t.spared count (Plan.settleAll (fitting needed) count start)
  Plan.share plan.average (plan.room - plan.average * plan.unsettled) plan.widths

def pad (align : Align) (width : Nat) (line : List Char) : List Char :=
  let blanks := List.replicate (width - Styled.width line) ' '
  match align with
  | .left => line ++ blanks
  | .right => blanks ++ line

def border (left fill cross right : Char) (widths : List Nat) : List Char :=
  left :: (List.intercalate [cross] (widths.map fun w => List.replicate (w + 2) fill)) ++ [right]

def wrapped (widths : List Nat) (row : List String) : List (List (List Char)) :=
  widths.zipIdx.map fun (width, column) => (cellLines (row[column]?.getD "")).flatMap (Wrap.lines width)

def rowLine (t : Table) (widths : List Nat) (cells : List (List (List Char))) (line : Nat) : List Char :=
  let shown := widths.zipIdx.map fun (width, column) =>
    let content := ((cells[column]?.getD [])[line]?).getD []
    ' ' :: pad (t.aligns[column]?.getD .left) width content ++ [' ']
  '│' :: List.intercalate ['│'] shown ++ ['│']

def rowLines (t : Table) (widths : List Nat) (row : List String) : List (List Char) :=
  let cells := wrapped widths row
  let height := (cells.map List.length).foldl max 1
  (List.range height).map (t.rowLine widths cells)

def lines (t : Table) : List (List Char) :=
  let widths := t.widths
  [border '╭' '─' '┬' '╮' widths] ++ t.rowLines widths t.header ++ [border '╞' '═' '╪' '╡' widths] ++
    List.intercalate [border '├' '─' '┼' '┤' widths] (t.rows.map (t.rowLines widths)) ++
    [border '╰' '─' '┴' '╯' widths]

def text (t : Table) : String := String.ofList (List.intercalate ['\n'] t.lines)

end Table
end FluidSheet
