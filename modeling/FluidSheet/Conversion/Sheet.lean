import FluidSheet.Conversion.Walk

namespace FluidSheet

structure Conversion where
  sheet : Sheet
  report : Report
  events : List Event

def Sheet.fileName (sheet : Sheet) : String := sheet.file.getD ""

def Report.complete (r : Report) (file : String) : Event :=
  .complete file r.outcome.converted r.outcome.inserted r.outcome.ignored r.breakpointRules r.outcome.warnings.length

def Conversion.of (sheet : Sheet) (nodes : List Node) (outcome : Outcome) (blocks : List AtRule) : Conversion :=
  let report : Report := ⟨outcome, blocks.map .ofBlock⟩
  { sheet := { sheet with nodes := nodes ++ blocks.map AtRule.node }
    report := report
    events := outcome.events ++ report.emitted.map (·.event) ++ [report.complete sheet.fileName] }

def Settings.convertSheet (s : Settings) (sheet : Sheet) : Conversion :=
  let (nodes, walk) := s.visitNodes sheet.fileName none ⟨s.collectors, .nothing⟩ sheet.nodes
  .of sheet nodes walk.outcome (walk.collectors.filterMap Collector.block)

end FluidSheet
