import FluidSheet.Conversion.Report
import FluidSheet.Options.Settings

-- The rules of a sheet once more for each breakpoint, with nothing but what its width changes.

namespace FluidSheet

structure Breakpoint where
  mediaQuery : String
  unit : String
  width : WidthSource

def landscapeQuery : String := "(orientation: landscape)"

namespace Settings

def landscapeBreakpoint (s : Settings) : Option Breakpoint :=
  if s.landscape then some ⟨landscapeQuery, s.landscapeUnit, s.landscapeWidth⟩ else none

def designBreakpoints (s : Settings) : List Breakpoint :=
  if s.multiDesign then s.multiDesignWidths.map fun d => ⟨d.mediaQuery, s.multiDesignUnit, d.width⟩ else []

def breakpoints (s : Settings) : List Breakpoint := s.landscapeBreakpoint.toList ++ s.designBreakpoints

end Settings

namespace Breakpoint

def convert? (s : Settings) (b : Breakpoint) (file : String) (d : Declaration) : Option Declaration :=
  if !s.isCandidate d then none
  else do
    let target ← s.target? b.unit b.width file
    let value := s.convert target d.value
    if value = d.value then none else return d.withValue value

-- A rule of which nothing would be left has no copy.
def copy? (s : Settings) (b : Breakpoint) (file : String) (r : Rule) : Option Rule :=
  match r.declarations.filterMap (b.convert? s file) with
  | [] => none
  | ds => some { r.shell with nodes := ds.map .declaration }

def block (b : Breakpoint) (rules : List Rule) : Option AtRule :=
  if rules.isEmpty then none else some (AtRule.media b.mediaQuery (rules.map Rule.node))

end Breakpoint

-- A breakpoint with the copies collected for it so far.
structure Collector where
  breakpoint : Breakpoint
  rules : List Rule

namespace Collector

def accumulate (s : Settings) (file : String) (r : Rule) (c : Collector) : Collector × Bool :=
  match c.breakpoint.copy? s file r with
  | none => (c, false)
  | some copy => ({ c with rules := c.rules ++ [copy] }, true)

def accumulateAll (s : Settings) (file : String) (r : Rule) (cs : List Collector) : List Collector × Nat :=
  let each := cs.map (accumulate s file r)
  (each.map (·.1), each.countP (·.2))

def block (c : Collector) : Option AtRule := c.breakpoint.block c.rules

end Collector

def Settings.collectors (s : Settings) : List Collector := s.breakpoints.map fun b => ⟨b, []⟩

namespace EmittedBlock

def ofBlock (block : AtRule) : EmittedBlock := ⟨block.params, block.nodes.length⟩

def event (b : EmittedBlock) : Event := .emitted b.mediaQuery b.rules

end EmittedBlock
end FluidSheet
