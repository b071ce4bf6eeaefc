import FluidSheet.Pattern.Form
import FluidSheet.Pattern.Alternatives
import Std.Data.HashMap

-- A pattern is refused when its program, or the one that matches backwards, takes too much memory.

namespace FluidSheet.Pattern

namespace Program

def stateSize : Nat := 32
def transitionSize : Nat := 8
def alternativeSize : Nat := 4

def sizeLimit : Nat := 10 * Nat.pow 2 20

structure Size where
  states : Nat
  extra : Nat

def Size.fits (s : Size) : Bool := s.states * stateSize + s.extra ≤ sizeLimit

-- Building ends in nothing as soon as the limit is passed.
abbrev Build (α : Type) := StateT Size Option α

def grow (states extra : Nat) : Build Unit := fun size =>
  let size : Size := ⟨size.states + states, size.extra + extra⟩
  if size.fits then some ((), size) else none

def newState (extra : Nat) : Build Nat := do
  let size ← get
  grow 1 extra
  return size.states

-- A choice of ways on takes more memory with every way that is added.
inductive Exit where
  | plain
  | branching
deriving DecidableEq

def connect (exit : Exit) : Build Unit := if exit = .branching then grow 0 alternativeSize else return

def simple : Build Exit := do
  grow 1 0
  return .plain

def inOrder : List (Build Exit) → Build Exit
  | [] => simple
  | [part] => part
  | part :: rest => do
    connect (← part)
    inOrder rest

def addWay (exit : Exit) : Build Unit := do
  connect .branching
  connect exit

def addWays : List (Build Exit) → Build Unit
  | [] => return
  | part :: rest => do
    addWay (← part)
    addWays rest

-- The ends of all parts lead to one state, made when there are two to join.
def choice : List (Build Exit) → Build Exit
  | [] => simple
  | [part] => part
  | first :: second :: rest => do
    let a ← first
    let b ← second
    grow 2 0
    addWay a
    addWay b
    addWays rest
    return .plain

def copies (part : Build Exit) (n : Nat) : Build Exit :=
  match n with
  | 0 => simple
  | 1 => part
  | n + 2 => do
    connect (← part)
    copies part (n + 1)

def optionals (part : Build Exit) (exit : Exit) : Nat → Build Unit
  | 0 => connect exit
  | n + 1 => do
    grow 1 0
    connect exit
    connect .branching
    connect .branching
    optionals part (← part) n

def loopBack (part : Build Exit) : Build Exit := do
  let exit ← part
  grow 1 0
  connect exit
  connect .branching
  return .branching

def optional (part : Build Exit) : Build Exit := do
  grow 1 0
  let exit ← part
  grow 1 0
  connect .branching
  addWay exit
  return .plain

-- A loop from before a part that may match nothing could go round for ever, so it is made optional.
def anyTimes (part : Build Exit) (takesText : Bool) : Build Exit :=
  if takesText then do
    grow 1 0
    addWay (← part)
    return .branching
  else do
    connect (← loopBack part)
    grow 2 0
    connect .branching
    connect .branching
    return .plain

def repeated (part : Build Exit) (takesText : Bool) (least : Nat) (most : Option Nat) : Build Exit :=
  match least, most with
  | 0, some 1 => optional part
  | 0, none => anyTimes part takesText
  | 1, none => loopBack part
  | least + 1, none => do
    connect (← copies part least)
    loopBack part
  | least, some most =>
    if least = most then copies part least
    else do
      let exit ← copies part least
      grow 1 0
      optionals part exit (most - least)
      return .plain

-- Found again by what it leads to, if no other state has taken its slot since.
structure Seen (κ : Type) where
  slots : Std.HashMap Nat (κ × Nat)

def Seen.none (κ : Type) : Seen κ := ⟨∅⟩

def slotOf (slots : Nat) (numbers : List Nat) : Nat :=
  (numbers.foldl (fun (hash : UInt64) n => (hash ^^^ n.toUInt64) * 1099511628211) 14695981039346656037).toNat % slots

def reuse [DecidableEq κ] (seen : Seen κ) (slot : Nat) (key : κ) (make : Build Nat) : Build (Nat × Seen κ) := do
  match seen.slots[slot]? with
  | some (known, state) => if known = key then return (state, seen)
  | .none => pure ()
  let state ← make
  return (state, ⟨seen.slots.insert slot (key, state)⟩)

abbrev Transition := Nat × Nat × Nat

-- The transitions that are settled, last one first, and the bytes of one still being built.
structure Draft where
  settled : List Transition
  pending : Option (Nat × Nat)

abbrev Forward := Seen (List Transition)

def Draft.settle (d : Draft) (target : Nat) : List Transition :=
  match d.pending with
  | some (first, last) => (first, last, target) :: d.settled
  | none => d.settled

def makeState (seen : Forward) (transitions : List Transition) : Build (Nat × Forward) :=
  let transitions := transitions.reverse
  let slot := slotOf 10000 (transitions.flatMap fun (first, last, target) => [first, last, target])
  reuse seen slot transitions (newState (transitionSize * transitions.length))

def finish (seen : Forward) (target : Nat) : List Draft → Build (Nat × Forward)
  | [] => return (target, seen)
  | d :: rest => do
    let (next, seen) ← finish seen target rest
    makeState seen (d.settle next)

def fresh : List (Nat × Nat) → List Draft := List.map fun bytes => ⟨[], some bytes⟩

-- Runs come in order, so what differs from the new one in its first byte is finished.
def addRun (seen : Forward) (target : Nat) : List Draft → List (Nat × Nat) → Build (List Draft × Forward)
  | d :: rest, bytes :: more => do
    if d.pending = some bytes then
      let (rest, seen) ← addRun seen target rest more
      return (d :: rest, seen)
    else
      let (next, seen) ← finish seen target rest
      return (⟨d.settle next, some bytes⟩ :: fresh more, seen)
  | path, more => return (path ++ fresh more, seen)

def addRuns (target : Nat) (path : List Draft) (seen : Forward) : List (List (Nat × Nat)) → Build Unit
  | [] => do
    let _ ← finish seen target path
  | run :: rest => do
    let (path, seen) ← addRun seen target path run
    addRuns target path seen rest

abbrev Backward := Seen Transition

def addBack (seen : Backward) (target : Nat) : List (Nat × Nat) → Build Backward
  | [] => return seen
  | (first, last) :: rest => do
    let key := (target, first, last)
    let (state, seen) ← reuse seen (slotOf 1000 [target, first, last]) key (newState 0)
    addBack seen state rest

def addBacks (target : Nat) (seen : Backward) : List (List (Nat × Nat)) → Build Unit
  | [] => return
  | run :: rest => do
    let seen ← addBack seen target run
    connect .branching
    addBacks target seen rest

def characters (backward : Bool) (spans : List (Nat × Nat)) (runs : List (List (Nat × Nat))) : Build Exit :=
  if spans.all fun (_, last) => last < 0x80 then do
    grow 2 (transitionSize * spans.length)
    return .plain
  else if backward then do
    grow 1 0
    addBacks (← newState 0) (.none Transition) runs
    return .plain
  else do
    addRuns (← newState 0) [⟨[], none⟩] (.none (List Transition)) runs
    return .plain

def rowSize (bytes : Nat) : Size :=
  match bytes with
  | 0 => ⟨0, 0⟩
  | 1 => ⟨1, alternativeSize⟩
  | bytes => ⟨1, alternativeSize + transitionSize * bytes⟩

def alternativesSize (bytes : Nat) : Alternatives → Size
  | .done => ⟨(rowSize bytes).states + 1, (rowSize bytes).extra⟩
  | .cut others =>
    let rest := alternativesSize 0 others
    ⟨(rowSize bytes).states + rest.states, (rowSize bytes).extra + rest.extra + alternativeSize⟩
  | .byte _ behind others =>
    let rest := alternativesSize (bytes + 1) others
    if behind.hasByte then
      let inner := alternativesSize 0 behind
      ⟨inner.states + rest.states, inner.extra + rest.extra⟩
    else rest

def texts? (parts : List Form) : Option (List (List Nat)) :=
  parts.mapM fun
    | .bytes bs => some bs
    | _ => none

def texts (backward : Bool) (texts : List (List Nat)) : Build Exit := do
  let size := alternativesSize 0 (Alternatives.ofTexts (if backward then texts.map List.reverse else texts))
  grow (size.states + 1) size.extra
  return .plain

def directed (backward : Bool) (parts : List α) : List α := if backward then parts.reverse else parts

mutual
def build (backward : Bool) : Form → Build Exit
  | .empty | .check _ => simple
  | .bytes bs => do
    grow bs.length 0
    return .plain
  | .never => do
    grow 2 0
    return .plain
  | .anyOf spans =>
    let runs := Encoding.ofSpans spans
    characters backward spans runs
  | .group _ f =>
    if backward then build backward f
    else do
      grow 1 0
      let exit ← build backward f
      grow 1 0
      connect exit
      return .plain
  | .repeated f least most _ =>
    let part := build backward f
    repeated part ((Form.least? f).any (0 < ·)) least most
  | .inOrder parts => inOrder (directed backward (buildAll backward parts))
  | .choice parts =>
    match texts? parts with
    | some bytes => texts backward bytes
    | none => choice (buildAll backward parts)

def buildAll (backward : Bool) : List Form → List (Build Exit)
  | [] => []
  | f :: rest => build backward f :: buildAll backward rest
end

-- A match can only begin, or end for `backward`, where the text does.
mutual
def isAnchored (backward : Bool) : Form → Bool
  | .check k => k = if backward then .finish else .start
  | .group _ f => isAnchored backward f
  | .repeated f least _ _ => 0 < least && isAnchored backward f
  | .inOrder parts => isSequenceAnchored backward parts
  | .choice parts => areAnchored backward parts
  | _ => false

def isSequenceAnchored (backward : Bool) : List Form → Bool
  | [] => false
  | f :: rest =>
    if backward then
      isSequenceAnchored backward rest || (Form.areEmptyOnly rest && isAnchored backward f)
    else isAnchored backward f || (Form.isEmptyOnly f && isSequenceAnchored backward rest)

def areAnchored (backward : Bool) : List Form → Bool
  | [] => true
  | f :: rest => isAnchored backward f && areAnchored backward rest
end

def whole (backward : Bool) (f : Form) : Build Unit := do
  if isAnchored backward f then grow 1 0
  else grow 3 (transitionSize + 2 * alternativeSize)
  connect (← build backward (.group 0 f))
  grow 1 0

def fits (f : Form) : Bool :=
  ((whole false f).run ⟨0, 0⟩).isSome && ((whole true f).run ⟨0, 0⟩).isSome

end Program
end FluidSheet.Pattern
