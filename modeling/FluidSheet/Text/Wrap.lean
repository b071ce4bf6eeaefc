import FluidSheet.Text.Styled
import FluidSheet.Text.Cluster

namespace FluidSheet.Wrap

open Styled (Segment)

-- With less room than this a line counts as full.
def leastRoom : Nat := 2

def takeClusters (room : Nat) : List (List Char) → List (List Char) × List (List Char)
  | [] => ([], [])
  | cluster :: rest =>
    let cells := Cells.ofChars cluster
    if room < cells then ([], cluster :: rest)
    else
      let (taken, left) := takeClusters (room - cells) rest
      (cluster :: taken, left)

-- Codes wait until text follows them.
structure Head where
  text : List Char
  waiting : List Char
  active : List (List Char)
  isStyled : Bool

def Head.addText (h : Head) (text : List Char) : Head :=
  if text.isEmpty then h else ⟨h.text ++ h.waiting ++ text, [], h.active, !h.active.isEmpty⟩

def Head.addCode (h : Head) (s : Segment) : Head :=
  { h with waiting := h.waiting ++ s.text, active := Styled.pushCode h.active s }

def textOf (segments : List Segment) : List Char := segments.flatMap (·.text)

def splitSegments (room : Nat) (h : Head) : List Segment → List Char × List Char
  | [] => (h.text ++ h.waiting, [])
  | s :: rest =>
    if s.isCode then splitSegments room (h.addCode s) rest
    else
      let cells := Cells.ofChars s.text
      if cells ≤ room then splitSegments (room - cells) (h.addText s.text) rest
      else
        let (taken, left) := takeClusters room (Text.clusters s.text)
        let h := h.addText taken.flatten
        (h.text ++ if h.isStyled then Styled.reset else [], h.active.flatten ++ left.flatten ++ textOf rest)

def splitWord (room : Nat) (word : List Char) : List Char × List Char :=
  splitSegments room ⟨[], [], [], false⟩ (Styled.segments word)

-- A word of which not even a cluster fits is broken after its first character.
def forceSplit (room : Nat) (word : List Char) : List Char × List Char :=
  match splitWord room word with
  | ([], c :: rest) => ([c], rest)
  | parts => parts

structure State where
  lines : List (List Char)
  line : List Char

def State.settle (s : State) (width : Nat) : State :=
  if width - leastRoom < Styled.width s.line then ⟨s.lines ++ [s.line], []⟩ else s

def State.close (s : State) : State := ⟨s.lines ++ [s.line], []⟩

def State.onLine (s : State) (text : List Char) : State :=
  { s with line := if s.line.isEmpty then text else s.line ++ ' ' :: text }

-- Each step places a word, breaks a character off one, or ends a line that was begun.
def place (width : Nat) : (fuel : Nat) → State → List (List Char) → State
  | 0, s, _ => s
  | _, s, [] => s
  | fuel + 1, s, word :: rest =>
    let taken := Styled.width s.line
    let cells := Styled.width word
    let blank := if s.line.isEmpty then 0 else 1
    if cells + taken + blank ≤ width then place width fuel ((s.onLine word).settle width) rest
    else if !s.line.isEmpty && width - taken - blank ≤ leastRoom then place width fuel s.close (word :: rest)
    else if width < cells then
      let split := if s.line.isEmpty then forceSplit else splitWord
      let (first, left) := split (width - taken - blank) word
      place width fuel ((s.onLine first).settle width) (left :: rest)
    else place width fuel (({ s.close with line := word } : State).settle width) rest

def lines (width : Nat) (cs : List Char) : List (List Char) :=
  if Styled.width cs ≤ width then [cs]
  else
    let words := Styled.words ' ' cs
    let s := place width (3 * words.flatten.length + 3 * words.length) ⟨[], []⟩ words
    if s.line.isEmpty then s.lines else s.lines ++ [s.line]

end FluidSheet.Wrap
