import FluidSheet.Text.Classes

-- What would not be seen, or would attach to the quote, is written by its code point.

namespace FluidSheet.Text

def escapeCodePoint (c : Char) : List Char :=
  '\\' :: 'u' :: '{' :: Nat.toDigits 16 c.toNat ++ ['}']

def escapeShown : Char → List Char
  | '\x00' => ['\\', '0']
  | '\t' => ['\\', 't']
  | '\r' => ['\\', 'r']
  | '\n' => ['\\', 'n']
  | '"' => ['\\', '"']
  | '\\' => ['\\', '\\']
  | c => if isExtending c || isHidden c then escapeCodePoint c else [c]

def quoted (s : String) : String := String.ofList ('"' :: s.toList.flatMap escapeShown ++ ['"'])

end FluidSheet.Text
