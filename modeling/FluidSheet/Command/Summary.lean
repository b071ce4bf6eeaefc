import FluidSheet.Conversion.Report
import FluidSheet.Text.Table

namespace FluidSheet

structure FileSummary where
  input : String
  output : Option String
  report : Report
deriving DecidableEq, Repr

namespace FileSummary

def label (f : FileSummary) : String :=
  match f.output with
  | some output => f.input ++ " -> " ++ output
  | none => f.input

def counts (f : FileSummary) : List Nat :=
  [f.report.outcome.converted, f.report.outcome.inserted, f.report.outcome.ignored, f.report.breakpointRules,
    f.report.outcome.warnings.length]

-- A warning belongs to the file of its rule, else to the input.
def warnings (f : FileSummary) : List (String × String) :=
  f.report.outcome.warnings.map fun w => (w.file.getD f.input, w.message)

end FileSummary

namespace Summary

def totals (files : List FileSummary) : List Nat :=
  files.foldl (fun sums f => List.zipWith (· + ·) sums f.counts) [0, 0, 0, 0, 0]

def row (label : String) (counts : List Nat) : List String := label :: counts.map toString

def table (files : List FileSummary) : Table where
  aligns := .left :: List.replicate 5 .right
  header := ["File", "Converted", "Inserted", "Ignored", "Breakpoint rules", "Warnings"]
  rows := files.map (fun f => row f.label f.counts) ++ [row "TOTAL" (totals files)]

def warningTable? (files : List FileSummary) : Option Table :=
  match files.flatMap FileSummary.warnings with
  | [] => none
  | warnings => some ⟨[.left, .left], ["File", "Message"], warnings.map fun (origin, message) => [origin, message]⟩

end Summary
end FluidSheet
