import FluidSheet.Text.Classes

namespace FluidSheet.Text

def occursIn (needle : List Char) : List Char → Bool
  | [] => needle.isEmpty
  | c :: rest => needle.isPrefixOf (c :: rest) || occursIn needle rest

def contains (text needle : String) : Bool := occursIn needle.toList text.toList

def trimChars (cs : List Char) : List Char :=
  ((cs.dropWhile isWhite).reverse.dropWhile isWhite).reverse

def trim (s : String) : String := String.ofList (trimChars s.toList)

end FluidSheet.Text
