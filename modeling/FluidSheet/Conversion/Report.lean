import FluidSheet.Conversion.Event
import FluidSheet.Sheet.Basic

namespace FluidSheet

structure Warning where
  message : String
  comment : Comment
  file : Option String
deriving DecidableEq, Repr

structure Outcome where
  converted : Nat
  inserted : Nat
  ignored : Nat
  duplicates : Nat
  excludedRules : Nat
  blacklistedRules : Nat
  warnings : List Warning
  events : List Event
deriving DecidableEq, Repr

namespace Outcome

def nothing : Outcome := ⟨0, 0, 0, 0, 0, 0, [], []⟩

def append (a b : Outcome) : Outcome :=
  { converted := a.converted + b.converted
    inserted := a.inserted + b.inserted
    ignored := a.ignored + b.ignored
    duplicates := a.duplicates + b.duplicates
    excludedRules := a.excludedRules + b.excludedRules
    blacklistedRules := a.blacklistedRules + b.blacklistedRules
    warnings := a.warnings ++ b.warnings
    events := a.events ++ b.events }

instance : Append Outcome := ⟨append⟩

def event (e : Event) : Outcome := { nothing with events := [e] }

end Outcome

structure EmittedBlock where
  mediaQuery : String
  rules : Nat
deriving DecidableEq, Repr

structure Report where
  outcome : Outcome
  emitted : List EmittedBlock
deriving DecidableEq, Repr

namespace Report

def breakpointRules (r : Report) : Nat := (r.emitted.map (·.rules)).foldr (· + ·) 0

def changed (r : Report) : Bool :=
  0 < r.outcome.converted + r.outcome.inserted + r.outcome.ignored || !r.emitted.isEmpty

end Report
end FluidSheet
