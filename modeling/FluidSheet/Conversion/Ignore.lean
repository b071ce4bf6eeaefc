import FluidSheet.Sheet.Basic

namespace FluidSheet

namespace Ignore

def nextMarker : String := "px-to-vw-ignore-next"
def previousMarker : String := "px-to-vw-ignore"

def marked? (marker : String) (n : Option Node) : Option Comment :=
  (n.bind Node.comment?).filter fun c => c.marker = marker

end Ignore

inductive Verdict where
  | convert
  | keepDroppingPrevious
  | keepDroppingNext
  -- The marker stands on another line: it is reported, and does not keep anything.
  | misplaced (comment : Comment)
deriving DecidableEq, Repr

namespace Verdict

def between (previous next : Option Node) : Verdict :=
  if (Ignore.marked? Ignore.nextMarker previous).isSome then .keepDroppingPrevious
  else
    match Ignore.marked? Ignore.previousMarker next with
    | some c => if c.sameLine then .keepDroppingNext else .misplaced c
    | none => .convert

def atPlace (nodes : List Node) (place : Nat) : Verdict :=
  between (if place = 0 then none else nodes[place - 1]?) nodes[place + 1]?

end Verdict
end FluidSheet
