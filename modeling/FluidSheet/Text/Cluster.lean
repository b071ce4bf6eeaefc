import FluidSheet.Pattern.Breaking
import FluidSheet.Text.Cells

namespace FluidSheet.Text

inductive Jamo where
  | leading
  | vowel
  | trailing
deriving DecidableEq, Repr

inductive Tail where
  | start
  | carriageReturn
  | control
  | prepend
  | jamo (last : Jamo)
  | indicator
  | emoji
  | joinedEmoji
  | other
deriving DecidableEq, Repr

namespace Tail

def isControl (c : Char) : Bool := c = '\r' || c = '\n' || CharSet.clusterControl.has c

def jamo? (c : Char) : Option (Jamo × Jamo) :=
  if inRuns Break.leadingJamoRuns c.toNat then some (.leading, .leading)
  else if inRuns Break.vowelJamoRuns c.toNat then some (.vowel, .vowel)
  else if inRuns Break.trailingJamoRuns c.toNat then some (.trailing, .trailing)
  else if CharSet.openSyllables.has c then some (.leading, .vowel)
  else if CharSet.syllables.has c then some (.leading, .trailing)
  else none

def isPrepend (c : Char) : Bool :=
  inRuns Property.prependedConcatenationMarkRuns c.toNat || inRuns Break.clusterPrependRuns c.toNat

def isSpacing (c : Char) : Bool :=
  CharSet.clusterSpacing.has c

def isPictograph (c : Char) : Bool := inRuns Property.extendedPictographicRuns c.toNat

def begun (c : Char) : Tail :=
  if c = '\r' then .carriageReturn
  else if isControl c then .control
  else if isPrepend c then .prepend
  else if Cells.isIndicator c then .indicator
  else if isPictograph c then .emoji
  else
    match jamo? c with
    | some (_, last) => .jamo last
    | none => .other

-- A vowel follows what a syllable begins with, and a last consonant what it has by then.
def joinsJamo (last : Jamo) (first : Jamo) : Bool :=
  match last, first with
  | .leading, _ => first != .trailing
  | .vowel, _ => first != .leading
  | .trailing, _ => first = .trailing

def join? (t : Tail) (c : Char) : Option Tail :=
  match t with
  | .start => some (begun c)
  | .carriageReturn => if c = '\n' then some .control else none
  | .control => none
  | t =>
    if isControl c then none
    else if c = '\u200d' then some (if t = .emoji then .joinedEmoji else .other)
    else if CharSet.clusterExtend.has c then some (if t = .emoji then .emoji else .other)
    else if isSpacing c then some .other
    else
      match t with
      | .prepend => some (begun c)
      | .indicator => if Cells.isIndicator c then some .other else none
      | .joinedEmoji => if isPictograph c then some .emoji else none
      | .jamo last =>
        match jamo? c with
        | some (first, last') => if joinsJamo last first then some (.jamo last') else none
        | none => none
      | _ => none

end Tail

def clustersFrom (t : Tail) (cluster : List Char) : List Char → List (List Char)
  | [] => if cluster.isEmpty then [] else [cluster.reverse]
  | c :: rest =>
    match t.join? c with
    | some t => clustersFrom t (c :: cluster) rest
    | none => cluster.reverse :: clustersFrom (Tail.begun c) [c] rest

def clusters (cs : List Char) : List (List Char) := clustersFrom .start [] cs

end FluidSheet.Text
