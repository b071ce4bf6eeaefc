
namespace FluidSheet

inductive Level where
  | error
  | warn
  | info
  | debug
  | trace
deriving DecidableEq, Repr

inductive Event where
  | fileExcluded (selector file : String)
  | selectorBlacklisted (selector : String)
  | ignoredByPreceding (prop : String)
  | ignoredByTrailing (prop : String)
  | misplacedMarker (selector file : String)
  | noReferenceWidth (prop file : String)
  | converted (prop before after : String)
  | emitted (mediaQuery : String) (rules : Nat)
  | complete (file : String) (converted inserted ignored breakpointRules warnings : Nat)
  | failed (error input : String)
deriving DecidableEq, Repr

namespace Event

def misplacedMessage : String :=
  "Unexpected comment /* px-to-vw-ignore */ must be after declaration at same line."

def level : Event → Level
  | misplacedMarker .. | failed .. => .warn
  | complete .. => .info
  | _ => .debug

def message : Event → String
  | fileExcluded .. => "file excluded"
  | selectorBlacklisted _ => "selector blacklisted"
  | ignoredByPreceding _ => "ignored by preceding comment"
  | ignoredByTrailing _ => "ignored by trailing comment"
  | misplacedMarker .. => misplacedMessage
  | noReferenceWidth .. => "no reference width"
  | converted .. => "converted"
  | emitted .. => "emitting breakpoint block"
  | complete .. => "conversion complete"
  | failed error _ => "conversion failed: " ++ error

def fields : Event → List (String × String)
  | fileExcluded selector file => [("selector", selector), ("file", file)]
  | selectorBlacklisted selector => [("selector", selector)]
  | ignoredByPreceding prop => [("prop", prop)]
  | ignoredByTrailing prop => [("prop", prop)]
  | misplacedMarker selector file => [("selector", selector), ("file", file)]
  | noReferenceWidth prop file => [("prop", prop), ("file", file)]
  | converted prop before after => [("prop", prop), ("from", before), ("to", after)]
  | emitted mediaQuery rules => [("media_query", mediaQuery), ("rules", toString rules)]
  | complete file changed added ignored breakpointRules warnings =>
    [("file", file), ("converted", toString changed), ("inserted", toString added),
      ("ignored", toString ignored), ("breakpoint_rules", toString breakpointRules),
      ("warnings", toString warnings)]
  | failed _ input => [("input", input)]

end Event
end FluidSheet
