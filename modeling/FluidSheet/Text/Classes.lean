import FluidSheet.Text.Category
import FluidSheet.Text.Property
import FluidSheet.Text.Recent

-- The characters that the Unicode standard added after the version of its tables here count too.

namespace FluidSheet.Text

def isOf (categories : List Category) (c : Char) : Bool := categories.any (·.has c)

def isWhite (c : Char) : Bool := inRuns Property.whiteSpaceRuns c.toNat

def isAlphabetic (c : Char) : Bool :=
  if c.toNat < 0x80 then c.isAlpha
  else isOf (.letterNumber :: Category.letters) c || inRuns Property.otherAlphabeticRuns c.toNat ||
    inRuns Recent.alphabeticRuns c.toNat

def isNumeric (c : Char) : Bool :=
  if c.toNat < 0x80 then c.isDigit
  else isOf Category.numbers c || inRuns Recent.numericRuns c.toNat

def isAlphanumeric (c : Char) : Bool := isAlphabetic c || isNumeric c

-- The voiced sound marks of halfwidth Katakana once attached to the character before them.
def isExtending (c : Char) : Bool :=
  if c = '\uff9e' || c = '\uff9f' then false
  else isOf [.nonspacingMark, .enclosingMark] c || inRuns Property.otherGraphemeExtendRuns c.toNat ||
    inRuns Recent.extendingRuns c.toNat

def isIgnorable (c : Char) : Bool := inRuns Property.defaultIgnorableCodePointRuns c.toNat

def isHidden (c : Char) : Bool :=
  if c.toNat < 0x80 then c.toNat < 0x20 || c.toNat = 0x7f
  else isIgnorable c || (isOf (Category.separators ++ Category.others) c && !inRuns Recent.visibleRuns c.toNat)

end FluidSheet.Text
