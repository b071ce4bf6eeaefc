import FluidSheet.Text.Classes
import FluidSheet.Text.Case
import FluidSheet.Text.Script
import FluidSheet.Text.Age
import FluidSheet.Text.Break

namespace FluidSheet

inductive CharSet where
  | nothing
  | any
  | range (first last : Nat)
  | runs (edges : List Nat)
  | ofCategory (category : Category)
  | linked
  | union (a b : CharSet)
  | meet (a b : CharSet)
  | minus (a b : CharSet)
  | differ (a b : CharSet)
  | complement (a : CharSet)
  | folded (a : CharSet)
  | asciiFolded (a : CharSet)
deriving DecidableEq, Repr, Inhabited

namespace CharSet

def otherAsciiCase (c : Char) : Char := if c.isLower then c.toUpper else c.toLower

def has : CharSet → Char → Bool
  | .nothing, _ => false
  | .any, _ => true
  | .range first last, c => first ≤ c.toNat && c.toNat ≤ last
  | .runs edges, c => inRuns edges c.toNat
  | .ofCategory category, c => category.has c
  | .linked, c => Case.next c.toNat != c.toNat
  | .union a b, c => a.has c || b.has c
  | .meet a b, c => a.has c && b.has c
  | .minus a b, c => a.has c && !b.has c
  | .differ a b, c => a.has c != b.has c
  | .complement a, c => !a.has c
  | .folded a, c => (Case.ring c.toNat).any fun n => a.has (Char.ofNat n)
  | .asciiFolded a, c => a.has c || a.has (otherAsciiCase c)

def char (c : Char) : CharSet := .range c.toNat c.toNat

def ofList (sets : List CharSet) : CharSet := sets.foldl .union .nothing

def ranges (pairs : List (Char × Char)) : CharSet :=
  ofList (pairs.map fun (a, b) => .range a.toNat b.toNat)

def chars (cs : List Char) : CharSet := ofList (cs.map char)

def ofCategories (categories : List Category) : CharSet := ofList (categories.map .ofCategory)

def alphabetic : CharSet :=
  .union (ofCategories (Category.letters ++ [.letterNumber])) (.runs Property.otherAlphabeticRuns)

-- Wider than the alphanumeric characters by marks and connectors, narrower by other numbers than digits.
def word : CharSet :=
  .union alphabetic
    (.union (ofCategories (Category.marks ++ [.decimalNumber, .connectorPunctuation]))
      (.runs Property.joinControlRuns))

def everything : List Nat := [0, 0x110000]

def otherAsciiCases (edges : List Nat) : List Nat :=
  let lower := Runs.meet edges [0x61, 0x7b]
  let upper := Runs.meet edges [0x41, 0x5b]
  Runs.union (lower.map (· - 0x20)) (upper.map (· + 0x20))

-- The set in runs. Code points that are no characters may be in.
def edges : CharSet → List Nat
  | .nothing => []
  | .any => everything
  | .range first last => if first ≤ last then [first, last + 1] else []
  | .runs edges => edges
  | .ofCategory category => category.runs
  | .linked => Runs.ofSorted (Case.links.map (·.1))
  | .union a b => Runs.union a.edges b.edges
  | .meet a b => Runs.meet a.edges b.edges
  | .minus a b => Runs.minus a.edges b.edges
  | .differ a b => Runs.differ a.edges b.edges
  | .complement a => Runs.minus everything a.edges
  | .folded a => Case.close a.edges
  | .asciiFolded a => Runs.union a.edges (otherAsciiCases a.edges)

def ascii? (name : String) : Option CharSet :=
  match name with
  | "alnum" => some (ranges [('0', '9'), ('A', 'Z'), ('a', 'z')])
  | "alpha" => some (ranges [('A', 'Z'), ('a', 'z')])
  | "ascii" => some (.range 0 0x7f)
  | "blank" => some (chars ['\t', ' '])
  | "cntrl" => some (.union (.range 0 0x1f) (.range 0x7f 0x7f))
  | "digit" => some (ranges [('0', '9')])
  | "graph" => some (ranges [('!', '~')])
  | "lower" => some (ranges [('a', 'z')])
  | "print" => some (ranges [(' ', '~')])
  | "punct" => some (.union (.union (.range 0x21 0x2f) (.range 0x3a 0x40)) (.union (.range 0x5b 0x60) (.range 0x7b 0x7e)))
  | "space" => some (.union (.range 9 13) (char ' '))
  | "upper" => some (ranges [('A', 'Z')])
  | "word" => some (.union (ranges [('0', '9'), ('A', 'Z'), ('a', 'z')]) (char '_'))
  | "xdigit" => some (ranges [('0', '9'), ('A', 'F'), ('a', 'f')])
  | _ => none

def asciiWord : CharSet := .union (ranges [('0', '9'), ('A', 'Z'), ('a', 'z')]) (char '_')

def asciiSpace : CharSet := .union (.range 9 13) (char ' ')

def asciiDigit : CharSet := ranges [('0', '9')]

def isAsciiWord (c : Char) : Bool := asciiWord.has c

end CharSet
end FluidSheet
