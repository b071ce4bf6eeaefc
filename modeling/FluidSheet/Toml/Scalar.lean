import FluidSheet.Json.Reader
import FluidSheet.Toml.Value

namespace FluidSheet.Toml

def isBlank (c : Char) : Bool := c = ' ' || c = '\t'

def skipBlank (cs : List Char) : List Char := cs.dropWhile isBlank

def isVisible (c : Char) : Bool := c = '\t' || (0x20 ≤ c.toNat && c.toNat ≠ 0x7f)

def hexFrom? (value : Nat) : (digits : Nat) → List Char → Option (Nat × List Char)
  | 0, cs => some (value, cs)
  | _, [] => none
  | n + 1, c :: rest => do hexFrom? (16 * value + (← Json.hexValue? c)) n rest

def codePoint? (digits : Nat) (cs : List Char) : Option (Char × List Char) := do
  let (n, rest) ← hexFrom? 0 digits cs
  if n.isValidChar then return (Char.ofNat n, rest) else none

def escape? : List Char → Option (Char × List Char)
  | [] => none
  | c :: rest =>
    match c with
    | 'b' => some ('\x08', rest)
    | 't' => some ('\t', rest)
    | 'n' => some ('\n', rest)
    | 'f' => some ('\x0c', rest)
    | 'r' => some ('\r', rest)
    | 'e' => some ('\x1b', rest)
    | '"' => some ('"', rest)
    | '\\' => some ('\\', rest)
    | 'x' => codePoint? 2 rest
    | 'u' => codePoint? 4 rest
    | 'U' => codePoint? 8 rest
    | _ => none

-- `read` holds what has been read, last character first.
def basicFrom? (fuel : Nat) (read : List Char) (cs : List Char) : Option (String × List Char) :=
  match fuel with
  | 0 => none
  | fuel + 1 =>
    match cs with
    | [] => none
    | '"' :: rest => some (String.ofList read.reverse, rest)
    | '\\' :: rest => do
      let (c, rest) ← escape? rest
      basicFrom? fuel (c :: read) rest
    | c :: rest => if isVisible c then basicFrom? fuel (c :: read) rest else none

def basic? (cs : List Char) : Option (String × List Char) := basicFrom? (cs.length + 1) [] cs

def literal? (cs : List Char) : Option (String × List Char) :=
  let body := cs.takeWhile (· ≠ '\x27')
  match cs.dropWhile (· ≠ '\x27') with
  | _ :: rest => if body.all isVisible then some (String.ofList body, rest) else none
  | [] => none

-- Three quotes close, and up to two more before them belong to the text.
def closing? (quote : Char) (read cs : List Char) : Option (String × List Char) :=
  let quotes := min 5 (cs.takeWhile (· = quote)).length
  if quotes < 3 then none
  else some (String.ofList (List.replicate (quotes - 3) quote ++ read).reverse, cs.drop quotes)

def startsLine : List Char → Bool
  | '\n' :: _ | '\r' :: '\n' :: _ => true
  | _ => false

def isGap (c : Char) : Bool := isBlank c || c = '\n' || c = '\r'

def longFrom? (quote : Char) (fuel : Nat) (read : List Char) (cs : List Char) : Option (String × List Char) :=
  match fuel with
  | 0 => none
  | fuel + 1 =>
    match closing? quote read cs with
    | some result => some result
    | none =>
      match cs with
      | [] => none
      | '\r' :: '\n' :: rest => longFrom? quote fuel ('\n' :: '\r' :: read) rest
      | '\n' :: rest => longFrom? quote fuel ('\n' :: read) rest
      | c :: rest =>
        if c = '\\' ∧ quote = '"' then
          if startsLine (skipBlank rest) then longFrom? quote fuel read (rest.dropWhile isGap)
          else do
            let (c, rest) ← escape? rest
            longFrom? quote fuel (c :: read) rest
        else if isVisible c then longFrom? quote fuel (c :: read) rest
        else none

def dropFirstBreak : List Char → List Char
  | '\r' :: '\n' :: rest | '\n' :: rest => rest
  | cs => cs

def long? (quote : Char) (cs : List Char) : Option (String × List Char) :=
  longFrom? quote (cs.length + 1) [] (dropFirstBreak cs)

-- Digits, with single underscores between them.
def digits? (isDigit : Char → Bool) : (after : Bool) → List Char → Option (List Char)
  | after, [] => if after then some [] else none
  | after, c :: rest =>
    if isDigit c then (digits? isDigit true rest).map (c :: ·)
    else if c = '_' ∧ after then digits? isDigit false rest
    else none

def whole? (cs : List Char) : Option (List Char) := do
  let ds ← digits? Char.isDigit false cs
  if ds.head? = some '0' ∧ 1 < ds.length then none else return ds

def sign (cs : List Char) : Bool × List Char :=
  match cs with
  | '-' :: rest => (true, rest)
  | '+' :: rest => (false, rest)
  | _ => (false, cs)

def inRange? (n : Int) : Option Value :=
  if -Int.pow 2 63 ≤ n ∧ n < Int.pow 2 63 then some (.integer n) else none

def radix? (base : Nat) (isDigit : Char → Bool) (cs : List Char) : Option Value := do
  let ds ← digits? isDigit false cs
  let n : Nat := ds.foldl (fun n c => base * n + (Json.hexValue? c).getD 0) 0
  inRange? n

def isHex (c : Char) : Bool := (Json.hexValue? c).isSome

def integer? (cs : List Char) : Option Value :=
  match cs with
  | '0' :: 'x' :: rest => radix? 16 isHex rest
  | '0' :: 'o' :: rest => radix? 8 (fun c => '0' ≤ c && c ≤ '7') rest
  | '0' :: 'b' :: rest => radix? 2 (fun c => c = '0' || c = '1') rest
  | _ => do
    let (negative, body) := sign cs
    let n : Int := Decimal.ofDigits (← whole? body)
    inRange? (if negative then -n else n)

def isExponent (c : Char) : Bool := c = 'e' || c = 'E'

def float? (cs : List Char) : Option Value := do
  let (negative, body) := sign cs
  if body = "inf".toList then return .float (.infinite negative)
  if body = "nan".toList then return .float .nan
  let mantissa := body.takeWhile (!isExponent ·)
  -- Without a point or an exponent it is an integer, of whatever size.
  if !body.any fun c => c = '.' || isExponent c then none
  let whole ← whole? (mantissa.takeWhile (· ≠ '.'))
  let fraction ← match mantissa.dropWhile (· ≠ '.') with
    | [] => some []
    | _ :: ds => (digits? Char.isDigit false ds).map ('.' :: ·)
  let exponent ← match body.dropWhile (!isExponent ·) with
    | [] => some []
    | _ :: power =>
      let (below, ds) := sign power
      (digits? Char.isDigit false ds).map fun ds => 'e' :: (if below then '-' else '+') :: ds
  let x ← Binary64.read? ((if negative then ['-'] else []) ++ whole ++ fraction ++ exponent)
  if x.isFinite then return .float x else none

def number? (cs : List Char) : Option Nat := if cs.all Char.isDigit then some (Decimal.ofDigits cs) else none

def daysIn (year month : Nat) : Nat :=
  if month = 2 then (if year % 4 = 0 ∧ (year % 100 ≠ 0 ∨ year % 400 = 0) then 29 else 28)
  else if month = 4 ∨ month = 6 ∨ month = 9 ∨ month = 11 then 30
  else 31

def isDate (cs : List Char) : Bool :=
  match cs with
  | [a, b, c, d, '-', e, f, '-', g, h] =>
    match number? [a, b, c, d], number? [e, f], number? [g, h] with
    | some year, some month, some day => 1 ≤ month && month ≤ 12 && 1 ≤ day && day ≤ daysIn year month
    | _, _, _ => false
  | _ => false

def isHour (a b : Char) : Bool := (number? [a, b]).any (· < 24)
def isMinute (a b : Char) : Bool := (number? [a, b]).any (· < 60)
def isSecond (a b : Char) : Bool := (number? [a, b]).any (· ≤ 60)

-- Seconds may be left out.
def isTime (cs : List Char) : Bool :=
  match cs with
  | a :: b :: ':' :: c :: d :: rest =>
    isHour a b && isMinute c d &&
      match rest with
      | [] => true
      | [':', e, f] => isSecond e f
      | ':' :: e :: f :: '.' :: g :: more => isSecond e f && (g :: more).all Char.isDigit
      | _ => false
  | _ => false

def isOffset (cs : List Char) : Bool :=
  match cs with
  | ['Z'] | ['z'] => true
  | [s, a, b, ':', c, d] => (s = '+' || s = '-') && isHour a b && isMinute c d
  | _ => false

def startsOffset (c : Char) : Bool := c = 'Z' || c = 'z' || c = '+' || c = '-'

def isTimeThere (cs : List Char) : Bool :=
  let offset := cs.dropWhile (!startsOffset ·)
  isTime (cs.takeWhile (!startsOffset ·)) && (offset.isEmpty || isOffset offset)

def isMoment (cs : List Char) : Bool :=
  isDate cs || isTime cs ||
    (isDate (cs.take 10) && ((cs.drop 10).head?.any fun c => c = 'T' || c = 't' || c = ' ') && isTimeThere (cs.drop 11))

def isScalarChar (c : Char) : Bool := c.isAlphanum || ['+', '-', '.', '_', ':'].contains c

def scalarText (cs : List Char) : List Char × List Char :=
  let token := cs.takeWhile isScalarChar
  match cs.dropWhile isScalarChar with
  | ' ' :: c :: rest =>
    if isDate token ∧ c.isDigit then
      (token ++ ' ' :: (c :: rest).takeWhile isScalarChar, (c :: rest).dropWhile isScalarChar)
    else (token, ' ' :: c :: rest)
  | rest => (token, rest)

def moment? (cs : List Char) : Option Value :=
  if isMoment cs then some (.moment (String.ofList cs)) else none

def scalar? (cs : List Char) : Option (Value × List Char) := do
  let (token, rest) := scalarText cs
  let v ←
    if token = "true".toList then some (Value.boolean true)
    else if token = "false".toList then some (Value.boolean false)
    else integer? token <|> float? token <|> moment? token
  return (v, rest)

end FluidSheet.Toml
