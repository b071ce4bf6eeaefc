import FluidSheet.Length.Scan
import FluidSheet.Number.Decimal

namespace FluidSheet

-- Rounded to so many decimal places, halves away from zero.
def Binary64.toPlaces (x : Binary64) (places : Nat) : Binary64 :=
  let scale := Binary64.pow 10 places
  (x * scale).roundAway / scale

def Binary64.css (x : Binary64) : List Char := if x.isZero then ['0'] else x.chars .plain

structure Target where
  unit : String
  width : Binary64
  precision : Nat
  minimum : Binary64
deriving DecidableEq, Repr

namespace Target

def share (t : Target) (pixels : Binary64) : Binary64 :=
  (pixels / t.width * 100).toPlaces t.precision

-- A share that rounds to zero needs no unit.
def convert? (t : Target) (pixels : Binary64) : Option (List Char) :=
  if pixels.abs.lt t.minimum then none
  else if (t.share pixels).isZero then some ['0']
  else some ((t.share pixels).css ++ t.unit.toList)

end Target

namespace Length

def magnitude (number : List Char) : Binary64 := (Binary64.read? number).getD .nan

def magnitudes (unit value : String) : List Binary64 :=
  (scan unit.toList 0 value.toList).filterMap fun piece => piece.number?.map magnitude

-- The text of a piece, lengths being replaced where the conversion has something for them.
def replaced (unit : List Char) (convert : Binary64 → Option (List Char)) : Piece → List Char
  | .length number => (convert (magnitude number)).getD (number ++ unit)
  | piece => piece.text unit

def replace (unit value : String) (convert : Binary64 → Option (List Char)) : String :=
  String.ofList ((scan unit.toList 0 value.toList).flatMap (replaced unit.toList convert))

def convert (unit : String) (t : Target) (value : String) : String := replace unit value t.convert?

end Length
end FluidSheet
