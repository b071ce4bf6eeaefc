import FluidSheet.Pattern.CharSet

-- A pattern means, for each place, the places it can lead to, those it would rather take first.

namespace FluidSheet

namespace Pattern

inductive Check where
  | start
  | finish
  | lineStart
  | lineFinish
  | anyLineStart
  | anyLineFinish
  | boundary (ascii negated : Bool)
  | wordStart (ascii : Bool)
  | wordFinish (ascii : Bool)
  | wordStartHalf (ascii : Bool)
  | wordFinishHalf (ascii : Bool)
deriving DecidableEq, Repr

-- How long the text after it is tells the places of one text apart.
structure Place where
  before : Option Char
  rest : List Char
  left : Nat
deriving DecidableEq, Repr

def Place.ofText (before : Option Char) (rest : List Char) : Place := ⟨before, rest, rest.length⟩

namespace Check

def wordIn (ascii : Bool) (c : Option Char) : Bool :=
  c.any fun c => if ascii then CharSet.isAsciiWord c else CharSet.word.has c

def holds (place : Place) : Check → Bool
  | .start => place.before.isNone
  | .finish => place.rest.isEmpty
  | .lineStart => place.before.isNone || place.before = some '\n'
  | .lineFinish => place.rest.isEmpty || place.rest.head? = some '\n'
  | .anyLineStart =>
    place.before.isNone || place.before = some '\n' ||
      (place.before = some '\r' && place.rest.head? ≠ some '\n')
  | .anyLineFinish =>
    place.rest.isEmpty || place.rest.head? = some '\r' ||
      (place.rest.head? = some '\n' && place.before ≠ some '\r')
  | .boundary ascii negated => (wordIn ascii place.before != wordIn ascii place.rest.head?) != negated
  | .wordStart ascii => !wordIn ascii place.before && wordIn ascii place.rest.head?
  | .wordFinish ascii => wordIn ascii place.before && !wordIn ascii place.rest.head?
  | .wordStartHalf ascii => !wordIn ascii place.before
  | .wordFinishHalf ascii => !wordIn ascii place.rest.head?

end Check
end Pattern

inductive Pattern where
  | empty
  | set (set : CharSet)
  | check (check : Pattern.Check)
  | seq (a b : Pattern)
  | either (a b : Pattern)
  -- `lazily`: rather fewer times than more.
  | repeated (p : Pattern) (least : Nat) (most : Option Nat) (lazily : Bool)
deriving DecidableEq, Repr, Inhabited

namespace Pattern

structure Found where
  places : List Place
  marks : Nat

namespace Found

def none : Found := ⟨[], 0⟩

-- A place that was found before is rather taken as it was found then.
def add (f : Found) (p : Place) : Found :=
  if f.marks.testBit p.left then f else ⟨p :: f.places, f.marks ||| 1 <<< p.left⟩

def addAll (f : Found) (places : List Place) : Found := places.foldl add f

def inOrder (f : Found) : List Place := f.places.reverse

end Found

def step (f : Place → List Place) (places : List Place) : List Place :=
  (places.foldl (fun found p => found.addAll (f p)) Found.none).inOrder

-- So many steps; from where a step changes nothing, no further one does.
def times (f : Place → List Place) : Nat → List Place → List Place
  | 0, places => places
  | n + 1, places =>
    let next := step f places
    if next.map (·.left) = places.map (·.left) then places else times f n next

-- Each place is left again once, or once more where more steps are still allowed than before.
structure Walk where
  passed : Nat
  counted : List (Nat × Nat)
  found : Found

namespace Walk

def add (w : Walk) (p : Place) : Walk := { w with found := w.found.add p }

def hasLeft (w : Walk) (p : Place) : (allowed : Option Nat) → Bool
  | none => w.passed.testBit p.left
  | some n => (w.counted.lookup p.left).any (n ≤ ·)

def leave (w : Walk) (p : Place) : (allowed : Option Nat) → Walk
  | none => { w with passed := w.passed ||| 1 <<< p.left }
  | some n => { w with counted := (p.left, n) :: w.counted }

def fewer : Option Nat → Option Nat := Option.map (· - 1)

def onward (f : Place → List Place) (lazily : Bool) : (fuel : Nat) → Option Nat → Walk → Place → Walk
  | 0, _, w, p => w.add p
  | fuel + 1, allowed, w, p =>
    if allowed = some 0 || w.hasLeft p allowed then w.add p
    else
      let before := if lazily then w.add p else w
      let after := (f p).foldl (onward f lazily fuel (fewer allowed)) (before.leave p allowed)
      after.add p

end Walk

def ends : Pattern → Place → List Place
  | .empty, p => [p]
  | .set s, p =>
    match p.rest with
    | c :: rest => if s.has c then [⟨some c, rest, p.left - 1⟩] else []
    | [] => []
  | .check k, p => if k.holds p then [p] else []
  | .seq a b, p => step b.ends (a.ends p)
  | .either a b, p => ((Found.none.addAll (a.ends p)).addAll (b.ends p)).inOrder
  | .repeated q least most lazily, p =>
    -- A step that stays where it is leaves nothing more to do there, so no walk is
    -- longer than the text that is left, and two.
    let onward := Walk.onward q.ends lazily (p.left + 2) (most.map (· - least))
    ((times q.ends least [p]).foldl onward ⟨0, [], Found.none⟩).found.inOrder

-- Whether a check asks for words of any script, which takes more than a look at bytes.
def Check.asksForWords : Check → Bool
  | .boundary ascii _ | .wordStart ascii | .wordFinish ascii | .wordStartHalf ascii | .wordFinishHalf ascii => !ascii
  | _ => false

def asksForWords : Pattern → Bool
  | .empty | .set _ => false
  | .check k => k.asksForWords
  | .seq a b | .either a b => a.asksForWords || b.asksForWords
  | .repeated p _ _ _ => p.asksForWords

def firstEnd? (p : Pattern) (before : Option Char) : List Char → Option Place
  | [] => (p.ends (.ofText before [])).head?
  | c :: rest => (p.ends (.ofText before (c :: rest))).head? <|> firstEnd? p (some c) rest

def isMatch (p : Pattern) (text : String) : Bool := (p.firstEnd? none text.toList).isSome

def reachesEnd (p : Pattern) (text : String) : Bool :=
  (p.firstEnd? none text.toList).any (·.rest.isEmpty)

end Pattern
end FluidSheet
