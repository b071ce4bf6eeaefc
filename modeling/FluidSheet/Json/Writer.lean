import FluidSheet.Json.Basic

namespace FluidSheet.Json

def hexDigit (n : Nat) : Char := if n < 10 then Char.ofNat (48 + n) else Char.ofNat (87 + n)

def escape (c : Char) : List Char :=
  if c = '"' then ['\\', '"']
  else if c = '\\' then ['\\', '\\']
  else if c = '\n' then ['\\', 'n']
  else if c = '\r' then ['\\', 'r']
  else if c = '\t' then ['\\', 't']
  else if c.toNat = 8 then ['\\', 'b']
  else if c.toNat = 12 then ['\\', 'f']
  else if c.toNat < 0x20 then ['\\', 'u', '0', '0', hexDigit (c.toNat / 16), hexDigit (c.toNat % 16)]
  else [c]

def writeString (s : String) : List Char := '"' :: s.toList.flatMap escape ++ ['"']

def writeInt : Int → List Char
  | .ofNat n => Nat.toDigits 10 n
  | .negSucc n => '-' :: Nat.toDigits 10 (n + 1)

def writeNumber : Number → List Char
  | .whole n => writeInt n
  | .real x => if x.isFinite then x.chars .json else ['n', 'u', 'l', 'l']

inductive Style where
  | compact
  | pretty
deriving DecidableEq, Repr

namespace Style

def newline (style : Style) (depth : Nat) : List Char :=
  match style with
  | .compact => []
  | .pretty => '\n' :: List.replicate (2 * depth) ' '

def colon : Style → List Char
  | .compact => [':']
  | .pretty => [':', ' ']

end Style

mutual
def write (style : Style) (depth : Nat) : Json → List Char
  | .null => ['n', 'u', 'l', 'l']
  | .bool true => ['t', 'r', 'u', 'e']
  | .bool false => ['f', 'a', 'l', 's', 'e']
  | .number n => writeNumber n
  | .string s => writeString s
  | .array [] => ['[', ']']
  | .array (j :: rest) =>
    '[' :: style.newline (depth + 1) ++ j.write style (depth + 1) ++ writeItems style depth rest
  | .object [] => ['{', '}']
  | .object ((k, v) :: rest) =>
    '{' :: style.newline (depth + 1) ++ writeString k ++ style.colon ++ v.write style (depth + 1) ++
      writeMembers style depth rest

def writeItems (style : Style) (depth : Nat) : List Json → List Char
  | [] => style.newline depth ++ [']']
  | j :: rest => ',' :: style.newline (depth + 1) ++ j.write style (depth + 1) ++ writeItems style depth rest

def writeMembers (style : Style) (depth : Nat) : List (String × Json) → List Char
  | [] => style.newline depth ++ ['}']
  | (k, v) :: rest =>
    ',' :: style.newline (depth + 1) ++ writeString k ++ style.colon ++ v.write style (depth + 1) ++
      writeMembers style depth rest
end

def compact (j : Json) : String := String.ofList (j.write .compact 0)
def pretty (j : Json) : String := String.ofList (j.write .pretty 0)

end FluidSheet.Json
