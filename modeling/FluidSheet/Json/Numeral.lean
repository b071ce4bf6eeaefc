import FluidSheet.Json.Basic

-- Two roundings: the leading digits that fit 64 bits, then one scaling by a power of ten.

namespace FluidSheet.Json

structure Numeral where
  negative : Bool
  whole : List Char
  fraction : Option (List Char)
  exponent : Option (Bool × List Char)
deriving DecidableEq, Repr

namespace Numeral

def capacity : Nat := Nat.pow 2 64

def digit (c : Char) : Nat := c.toNat - '0'.toNat

def fitting (acc : Nat) : List Char → Nat × Nat
  | [] => (acc, 0)
  | c :: rest =>
    if 10 * acc + digit c < capacity then fitting (10 * acc + digit c) rest
    else (acc, rest.length + 1)

-- Dividing by 10^308 first takes an exponent that has no power of its own into range.
def scale (x : Binary64) (exponent : Int) : Option Binary64 :=
  if 0 ≤ exponent then
    if exponent ≤ 308 then
      let y := x * (⟨1, exponent⟩ : Decimal).toBinary64 false
      if y.isFinite then some y else none
    else if x.isZero then some x else none
  else if -308 ≤ exponent then some (x / (⟨1, -exponent⟩ : Decimal).toBinary64 false)
  else if x.isZero then some x
  else scale (x / (⟨1, 308⟩ : Decimal).toBinary64 false) (exponent + 308)
termination_by (-exponent).toNat

def signed (negative : Bool) (x : Binary64) : Binary64 := if negative then -x else x

def exponentLimit : Nat := Nat.pow 2 31

def real? (n : Numeral) : Option Binary64 :=
  let (lead, dropped) := fitting 0 n.whole
  let (lead, exponent) := match n.fraction with
    | none => (lead, (dropped : Int))
    | some ds =>
      let (lead, left) := fitting lead ds
      (lead, (dropped : Int) - (ds.length - left : Nat))
  match n.exponent with
  | none => (scale (Binary64.ofNat lead) exponent).map (signed n.negative)
  | some (below, ds) =>
    let power := Decimal.ofDigits ds
    if exponentLimit ≤ power then
      if lead ≠ 0 ∧ ¬below then none else some (signed n.negative .zero)
    else
      let exponent := if below then exponent - power else exponent + power
      (scale (Binary64.ofNat lead) exponent).map (signed n.negative)

def value? (n : Numeral) : Option Number :=
  match n.fraction, n.exponent with
  | none, none =>
    let (lead, dropped) := fitting 0 n.whole
    if dropped ≠ 0 then n.real?.map .real
    else if !n.negative then some (.whole lead)
    else if 0 < lead ∧ lead ≤ Nat.pow 2 63 then some (.whole (-lead))
    else n.real?.map .real
  | _, _ => n.real?.map .real

end Numeral
end FluidSheet.Json
