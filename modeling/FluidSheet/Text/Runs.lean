-- The code points at which membership changes: out before the first, in from there to the second, and so on.

namespace FluidSheet

def inRuns : List Nat → Nat → Bool
  | [], _ => false
  | edge :: rest, c => if c < edge then false else !inRuns rest c

namespace Runs

def edgeIf (changed : Bool) (edge : Nat) (rest : List Nat) : List Nat :=
  if changed then edge :: rest else rest

-- Both are passed over together; `inA` and `inB` say where the walk stands.
def combine (op : Bool → Bool → Bool) (inA inB : Bool) (a b : List Nat) : List Nat :=
  match a, b with
  | [], [] => []
  | x :: restA, [] => edgeIf (op inA inB != op (!inA) inB) x (combine op (!inA) inB restA [])
  | [], y :: restB => edgeIf (op inA inB != op inA (!inB)) y (combine op inA (!inB) [] restB)
  | x :: restA, y :: restB =>
    if x < y then edgeIf (op inA inB != op (!inA) inB) x (combine op (!inA) inB restA (y :: restB))
    else if y < x then edgeIf (op inA inB != op inA (!inB)) y (combine op inA (!inB) (x :: restA) restB)
    else edgeIf (op inA inB != op (!inA) (!inB)) x (combine op (!inA) (!inB) restA restB)
termination_by a.length + b.length

def union (a b : List Nat) : List Nat := combine (· || ·) false false a b
def meet (a b : List Nat) : List Nat := combine (· && ·) false false a b
def minus (a b : List Nat) : List Nat := combine (fun x y => x && !y) false false a b
def differ (a b : List Nat) : List Nat := combine (· != ·) false false a b

def ofSorted : List Nat → List Nat
  | [] => []
  | c :: rest =>
    match ofSorted rest with
    | [] => [c, c + 1]
    | edge :: edges =>
      if edge = c then edge :: edges
      else if edge = c + 1 then c :: edges
      else c :: (c + 1) :: edge :: edges

def ofList (codes : List Nat) : List Nat := ofSorted codes.mergeSort

def spans : List Nat → List (Nat × Nat)
  | first :: beyond :: rest => (first, beyond - 1) :: spans rest
  | _ => []

def count (edges : List Nat) : Nat := ((spans edges).map fun (first, last) => last + 1 - first).foldr (· + ·) 0

def members (edges : List Nat) : List Nat :=
  (spans edges).flatMap fun (first, last) => List.range' first (last + 1 - first)

-- `edges` ascend, and each step halves what lies between `low` and `high`.
def reached (edges : Array Nat) (c : Nat) : (steps low high : Nat) → Nat
  | 0, low, _ => low
  | steps + 1, low, high =>
    if high ≤ low then low
    else
      let middle := (low + high) / 2
      if edges.getD middle 0 ≤ c then reached edges c steps (middle + 1) high
      else reached edges c steps low middle

def inArray (edges : Array Nat) (c : Nat) : Bool := reached edges c 32 0 edges.size % 2 = 1

end Runs
end FluidSheet
