import FluidSheet.Number.Binary64

namespace FluidSheet

structure Decimal where
  digits : Nat
  exponent : Int
deriving DecidableEq, Repr

namespace Decimal

-- The early answers only keep the powers of ten small.
def toBinary64 (negative : Bool) (d : Decimal) : Binary64 :=
  if d.digits = 0 then .finite negative 0
  else if 400 < d.exponent then .infinite negative
  else if d.digits.log2 + 1 + d.exponent < -400 then .finite negative 0
  else if 0 ≤ d.exponent then Binary64.nearest negative (d.digits * Nat.pow 10 d.exponent.toNat * Binary64.unit) 1
  else Binary64.nearest negative (d.digits * Binary64.unit) (Nat.pow 10 (-d.exponent).toNat)

def trim (d : Decimal) : Decimal :=
  if d.digits ≠ 0 ∧ d.digits % 10 = 0 then trim ⟨d.digits / 10, d.exponent + 1⟩ else d
termination_by d.digits
decreasing_by simp_all; omega

def ofDigits (cs : List Char) : Nat := cs.foldl (fun n c => 10 * n + (c.toNat - '0'.toNat)) 0

def natural? (cs : List Char) : Option Nat := if cs.isEmpty || !cs.all Char.isDigit then none else some (ofDigits cs)

def exponent? : List Char → Option Int
  | [] => some 0
  | c :: rest =>
    if c = 'e' ∨ c = 'E' then
      match rest with
      | '-' :: digits => (natural? digits).map fun (n : Nat) => -(n : Int)
      | '+' :: digits => (natural? digits).map fun (n : Nat) => (n : Int)
      | digits => (natural? digits).map fun (n : Nat) => (n : Int)
    else none

def spanFraction : List Char → List Char × List Char
  | '.' :: rest => rest.span Char.isDigit
  | rest => ([], rest)

-- [0-9]* with at most one point among them, at least one digit, then an optional exponent.
def read? (cs : List Char) : Option Decimal :=
  let (whole, rest) := cs.span Char.isDigit
  let (part, rest) := spanFraction rest
  if whole.isEmpty && part.isEmpty then none
  else (exponent? rest).map fun exponent => ⟨ofDigits (whole ++ part), exponent - part.length⟩

end Decimal

inductive Tie where
  | up
  | even
deriving DecidableEq, Repr

namespace Shortest

def fraction (quanta : Nat) (grid : Int) : Nat × Nat :=
  if 0 ≤ grid then (quanta, Binary64.unit * Nat.pow 10 grid.toNat) else (quanta * Nat.pow 10 (-grid).toNat, Binary64.unit)

def readsBack (quanta : Nat) (d : Decimal) : Bool := d.toBinary64 false = .finite false quanta

def onGrid (tie : Tie) (quanta : Nat) (grid : Int) : Option Decimal :=
  let (num, den) := fraction quanta grid
  let below : Decimal := ⟨num / den, grid⟩
  let above : Decimal := ⟨num / den + 1, grid⟩
  let twice := 2 * (num % den)
  match readsBack quanta below, readsBack quanta above with
  | false, false => none
  | true, false => some below
  | false, true => some above
  | true, true =>
    if twice < den then some below
    else if den < twice then some above
    else match tie with
      | .up => some above
      | .even => if below.digits % 2 = 0 then some below else some above

-- Ten to this exponent is never more than the value, and at most three powers below it.
def leading (quanta : Nat) : Int := ((quanta.log2 : Int) - 1074) * 30103 / 100000 - 1

-- Coarser grids first; the exact value stands in for a search that found none.
def digits (tie : Tie) (quanta : Nat) : Decimal :=
  let top := leading quanta + 2
  match (List.range 21).findSome? (fun (i : Nat) => onGrid tie quanta (top - i)) with
  | some d => d.trim
  | none => (⟨quanta * Nat.pow 5 1074, -1074⟩ : Decimal).trim

end Shortest

-- Positional outside no window, or inside `window`, which bounds the exponent of the leading digit.
structure Layout where
  window : Option (Int × Int)
  wholePoint : Bool
  plusSign : Bool
  tie : Tie

namespace Layout

def plain : Layout := ⟨none, false, false, .up⟩
def labelled : Layout := ⟨some (-4, 16), true, false, .up⟩
def json : Layout := ⟨some (-5, 16), true, true, .even⟩

def positional (wholePoint : Bool) (ds : List Char) (exponent : Int) : List Char :=
  if 0 ≤ exponent then
    ds ++ List.replicate exponent.toNat '0' ++ (if wholePoint then ['.', '0'] else [])
  else
    let places := (-exponent).toNat
    if places < ds.length then
      ds.take (ds.length - places) ++ '.' :: ds.drop (ds.length - places)
    else
      '0' :: '.' :: List.replicate (places - ds.length) '0' ++ ds

def scientific (plusSign : Bool) (ds : List Char) (leading : Int) : List Char :=
  let mantissa := match ds with
    | d :: e :: rest => d :: '.' :: e :: rest
    | ds => ds
  let sign := if leading < 0 then ['-'] else if plusSign then ['+'] else []
  mantissa ++ 'e' :: sign ++ Nat.toDigits 10 leading.natAbs

def decimal (l : Layout) (d : Decimal) : List Char :=
  let ds := Nat.toDigits 10 d.digits
  let leading := d.exponent + ds.length - 1
  match l.window with
  | none => positional l.wholePoint ds d.exponent
  | some (low, high) =>
    if low ≤ leading ∧ leading < high then positional l.wholePoint ds d.exponent
    else scientific l.plusSign ds leading

end Layout

namespace Binary64

def chars (l : Layout) : Binary64 → List Char
  | .nan => ['N', 'a', 'N']
  | .infinite s => (if s then ['-'] else []) ++ ['i', 'n', 'f']
  | .finite s q =>
    (if s then ['-'] else []) ++
      if q = 0 then Layout.positional l.wholePoint ['0'] 0 else l.decimal (Shortest.digits l.tie q)

def text (l : Layout) (x : Binary64) : String := String.ofList (x.chars l)

def unsigned? (negative : Bool) (cs : List Char) : Option Binary64 :=
  let lower := cs.map Char.toLower
  if lower = "inf".toList ∨ lower = "infinity".toList then some (.infinite negative)
  else if lower = "nan".toList then some .nan
  else (Decimal.read? cs).map (·.toBinary64 negative)

def read? : List Char → Option Binary64
  | '-' :: rest => unsigned? true rest
  | '+' :: rest => unsigned? false rest
  | cs => unsigned? false cs

end Binary64
end FluidSheet
