-- Texts that begin alike share the states that read their beginning, as far as that keeps them in order.

namespace FluidSheet.Pattern

-- Where a text ends, a new row of bytes begins, as later texts come after it.
inductive Alternatives where
  | done
  | byte (byte : Nat) (behind : Alternatives) (others : Alternatives)
  | cut (others : Alternatives)

namespace Alternatives

def hasCut : Alternatives → Bool
  | .done => false
  | .byte _ _ others => hasCut others
  | .cut _ => true

def hasByte : Alternatives → Bool
  | .done => false
  | .byte _ _ _ => true
  | .cut others => hasByte others

def close : Alternatives → Alternatives
  | .done => .cut .done
  | .byte b behind others => .byte b behind (close others)
  | .cut others => .cut (close others)

def change (b : Nat) (f : Alternatives → Alternatives) : Alternatives → Alternatives
  | .done => .byte b (f .done) .done
  | .cut others => .cut (change b f others)
  | .byte c behind others =>
    if hasCut others || c < b then .byte c behind (change b f others)
    else if c = b then .byte c (f behind) others
    else .byte b (f .done) (.byte c behind others)

-- An end that is there already, with nothing behind it, is not marked again.
def add (t : Alternatives) : List Nat → Alternatives
  | [] => if hasCut t && !hasByte t then t else close t
  | b :: rest => change b (add · rest) t

def ofTexts (texts : List (List Nat)) : Alternatives := texts.foldl add .done

end Alternatives
end FluidSheet.Pattern
