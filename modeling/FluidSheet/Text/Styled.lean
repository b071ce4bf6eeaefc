import FluidSheet.Text.Sequence

-- A code is not seen, and stays in force until one takes it back.

namespace FluidSheet.Styled

-- `digits`: how many of a number have been read, up to four.
inductive Reading where
  | opened
  | charset
  | marks
  | digits (count : Nat)
  | fifthDigit
  | separator
  | designated
  | closed
deriving DecidableEq, Repr

namespace Reading

def isComplete : Reading → Bool
  | .opened | .charset | .marks | .separator => false
  | .digits _ | .fifthDigit | .designated | .closed => true

def isFinal (c : Char) : Bool :=
  ('A' ≤ c && c ≤ 'P') || ('f' ≤ c && c ≤ 'n') ||
    ['R', 'Z', 'c', 'q', 'r', 'y', '=', '>', '<'].contains c

def onDigit? (c : Char) : Reading → Option Reading
  | .opened | .marks | .separator => some (.digits 1)
  | .charset => some (if c ≤ '2' then .designated else .digits 1)
  | .digits count => some (if count < 4 then .digits (count + 1) else .fifthDigit)
  | _ => none

def onFinal? : Reading → Option Reading
  | .opened | .charset | .marks | .digits _ | .separator => some .closed
  | _ => none

def next? (r : Reading) (c : Char) : Option Reading :=
  if c = '(' || c = ')' then
    match r with
    | .opened => some .charset
    | .charset | .marks => some .marks
    | _ => none
  else if c = ';' then
    match r with
    | .opened | .charset | .marks => some .marks
    | .digits _ | .separator => some .separator
    | _ => none
  else if c = '[' || c = '#' || c = '?' then
    match r with
    | .opened | .charset | .marks => some .marks
    | _ => none
  else if c.isDigit then onDigit? c r
  else if isFinal c then onFinal? r
  else none

end Reading

-- The length of the longest code that a text goes on with, behind its first character.
def longest (r : Reading) (read best : Nat) : List Char → Nat
  | [] => best
  | c :: rest =>
    match r.next? c with
    | none => best
    | some r => longest r (read + 1) (if r.isComplete then read + 1 else best) rest

def isEscape (c : Char) : Bool := c = '\x1b' || c = '\u009b'

def codeLength : List Char → Nat
  | c :: rest =>
    if isEscape c then
      match longest .opened 0 0 rest with
      | 0 => 0
      | n => n + 1
    else 0
  | [] => 0

structure Segment where
  isCode : Bool
  text : List Char
deriving DecidableEq, Repr

def Segment.prepend (c : Char) : List Segment → List Segment
  | ⟨false, text⟩ :: rest => ⟨false, c :: text⟩ :: rest
  | segments => ⟨false, [c]⟩ :: segments

-- `pending`: how much of a code is still to be read into its segment.
def segmentsFrom (pending : Nat) : List Char → List Segment
  | [] => []
  | c :: rest =>
    match pending with
    | 0 =>
      match codeLength (c :: rest) with
      | 0 => Segment.prepend c (segmentsFrom 0 rest)
      | n + 1 => ⟨true, c :: rest.take n⟩ :: segmentsFrom n rest
    | pending + 1 => segmentsFrom pending rest

def segments (cs : List Char) : List Segment := segmentsFrom 0 cs

def reset : List Char := ['\x1b', '[', '0', 'm']

def isReset (code : List Char) : Bool := code == reset

def pushCode (active : List (List Char)) (s : Segment) : List (List Char) :=
  if !s.isCode then active else if isReset s.text then [] else active ++ [s.text]

def activeAfter (active : List (List Char)) (cs : List Char) : List (List Char) :=
  (segments cs).foldl pushCode active

-- Lines that stand apart each get the codes in force at their start, and end in none.
def restyle (active : List (List Char)) : List (List Char) → List (List Char)
  | [] => []
  | line :: rest =>
    let after := activeAfter active line
    (active.flatten ++ line ++ if after.isEmpty then [] else reset) :: restyle after rest

def splitWords (blank : Char) : List Segment → List (List Char)
  | [] => [[]]
  | ⟨true, code⟩ :: rest => join code (splitWords blank rest)
  | ⟨false, text⟩ :: rest => splitText text (splitWords blank rest)
where
  join (start : List Char) : List (List Char) → List (List Char)
    | [] => [start]
    | word :: words => (start ++ word) :: words
  splitText (text : List Char) (words : List (List Char)) : List (List Char) :=
    match text with
    | [] => words
    | c :: rest =>
      let words := splitText rest words
      if c = blank then [] :: words else join [c] words

def words (blank : Char) (cs : List Char) : List (List Char) := restyle [] (splitWords blank (segments cs))

inductive Hiding where
  | no
  | escape
  | intermediate
  | sequence
  | string (closing : Bool)
deriving DecidableEq, Repr

namespace Hiding

def afterEscape (c : Char) : Hiding :=
  if c = '[' then .sequence
  else if [']', 'P', 'X', '^', '_'].contains c then .string false
  else if ' ' ≤ c && c ≤ '/' then .intermediate
  else .no

def step (h : Hiding) (c : Char) : Hiding × Bool :=
  match h with
  | .no => if c = '\x1b' then (.escape, false) else (.no, true)
  | .escape => (afterEscape c, false)
  | .intermediate => (if ' ' ≤ c && c ≤ '/' then .intermediate else .no, false)
  | .sequence => (if '@' ≤ c && c ≤ '~' then .no else .sequence, false)
  | .string closing =>
    (if c = '\x07' || (closing && c = '\\') then .no else .string (c = '\x1b'), false)

end Hiding

def shownFrom (h : Hiding) : List Char → List Char
  | [] => []
  | c :: rest =>
    let (h, isShown) := h.step c
    if isShown then c :: shownFrom h rest else shownFrom h rest

def width (cs : List Char) : Nat := Cells.ofChars (shownFrom .no cs)

end FluidSheet.Styled
