import FluidSheet.Pattern.CharSet

-- Characters as the bytes that patterns are matched by, and runs of characters as runs
-- of bytes, one for each place.

namespace FluidSheet.Pattern.Encoding

def bytes (code : Nat) : List Nat :=
  if code < 0x80 then [code]
  else if code < 0x800 then [0xc0 + code / 0x40, 0x80 + code % 0x40]
  else if code < 0x10000 then [0xe0 + code / 0x1000, 0x80 + code / 0x40 % 0x40, 0x80 + code % 0x40]
  else
    [0xf0 + code / 0x40000, 0x80 + code / 0x1000 % 0x40, 0x80 + code / 0x40 % 0x40, 0x80 + code % 0x40]

def character? : List Nat → Option Nat
  | [a] => if a < 0x80 then some a else none
  | [a, b] => if 0xc0 ≤ a && a < 0xe0 then some (0x40 * (a - 0xc0) + (b - 0x80)) else none
  | [a, b, c] =>
    if 0xe0 ≤ a && a < 0xf0 then some (0x1000 * (a - 0xe0) + 0x40 * (b - 0x80) + (c - 0x80)) else none
  | [a, b, c, d] =>
    if 0xf0 ≤ a then some (0x40000 * (a - 0xf0) + 0x1000 * (b - 0x80) + 0x40 * (c - 0x80) + (d - 0x80))
    else none
  | _ => none

-- Where the characters from here on take another number of bytes.
def lengthCut? (first last : Nat) : Option Nat :=
  [0x80, 0x800, 0x10000].find? fun edge => first < edge && edge ≤ last

-- The bytes behind one that changes must run over all their values.
def alignCut? (first last : Nat) : Option Nat :=
  [0x40, 0x1000, 0x40000].findSome? fun block =>
    if first / block = last / block then none
    else if first % block ≠ 0 then some ((first / block + 1) * block)
    else if last % block ≠ block - 1 then some (last / block * block)
    else none

def cut? (first last : Nat) : Option Nat :=
  lengthCut? first last <|> (if last < 0x80 then none else alignCut? first last)

-- Each cut leaves fewer to make: one at each change of length, and two for each place.
def products : (fuel : Nat) → (first last : Nat) → List (List (Nat × Nat))
  | 0, _, _ => []
  | fuel + 1, first, last =>
    match cut? first last with
    | some edge => products fuel first (edge - 1) ++ products fuel edge last
    | none => [(bytes first).zip (bytes last)]

def ofSpans (spans : List (Nat × Nat)) : List (List (Nat × Nat)) :=
  spans.flatMap fun (first, last) => products 32 first last

end FluidSheet.Pattern.Encoding
