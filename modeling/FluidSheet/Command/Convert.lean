import FluidSheet.Command.Arguments
import FluidSheet.Command.Config
import FluidSheet.Command.Host
import FluidSheet.Command.Summary
import FluidSheet.Conversion.Sheet
import FluidSheet.Options.Merge
import FluidSheet.Sheet.Css
import FluidSheet.Sheet.Json

-- The options are checked before any input is read; an input that fails does not stop the others.

namespace FluidSheet

inductive FileFailure where
  | unread (path : String) (error : FileError)
  | malformed (path : String) (error : Json.ReadError)
  | unwritten (path : String) (error : FileError)
deriving DecidableEq, Repr

namespace FileFailure

def context : FileFailure → String
  | unread path _ => "read " ++ path
  | malformed path _ => "parse stylesheet " ++ path
  | unwritten path _ => "write " ++ path

def cause : FileFailure → String
  | unread _ e | unwritten _ e => e.message
  | malformed _ e => e.message

def message (f : FileFailure) : String := f.context ++ ": " ++ f.cause

end FileFailure

inductive FileOutcome where
  | converted (summary : FileSummary)
  | failed (input : String) (failure : FileFailure)
deriving DecidableEq, Repr

namespace FileOutcome

def summary? : FileOutcome → Option FileSummary
  | converted s => some s
  | failed .. => none

def failure? : FileOutcome → Option (String × FileFailure)
  | converted _ => none
  | failed input failure => some (input, failure)

end FileOutcome

structure Conversions where
  outcomes : List FileOutcome
deriving DecidableEq, Repr

namespace Conversions

def files (c : Conversions) : List FileSummary := c.outcomes.filterMap (·.summary?)

def failures (c : Conversions) : List (String × FileFailure) := c.outcomes.filterMap (·.failure?)

def errors (c : Conversions) : List String := c.failures.map fun (input, failure) => input ++ ": " ++ failure.message

def hasErrors (c : Conversions) : Bool := !c.failures.isEmpty

end Conversions

def Sheet.render (s : Sheet) : SheetForm → String
  | .json => s.json.pretty ++ "\n"
  | .css => s.css

-- A sheet that names no file of its own comes from the file it was read from.
def Sheet.ofFile (input text : String) : Except FileFailure Sheet := do
  let sheet ← (Sheet.ofText text).mapError (.malformed input)
  return { sheet with file := some (sheet.file.getD input) }

namespace ConvertOrder

def outputPath (directory input : String) (form : SheetForm) : String :=
  Path.join directory ((Path.stem? input).getD "stylesheet" ++ "." ++ form.extension)

variable {m : Type → Type} [Monad m]

def readSheet (host : Host m) (input : String) : m (Except FileFailure Sheet) := do
  match ← host.read input with
  | .ok text => return Sheet.ofFile input text
  | .error e => return .error (.unread input e)

-- To the file it goes to, if any; without a directory, results are printed.
def deliver (host : Host m) (order : ConvertOrder) (input text : String) :
    m (Except FileFailure (Option String)) := do
  if order.dryRun then return .ok none
  match order.outDir with
  | none =>
    host.print text
    return .ok none
  | some directory =>
    let path := outputPath directory input order.form
    match ← host.write path text with
    | .ok _ => return .ok (some path)
    | .error e => return .error (.unwritten path e)

def convertFile (host : Host m) (log : Log.Record → m Unit) (s : Settings) (order : ConvertOrder)
    (input : String) : m (Except FileFailure FileSummary) := do
  match ← readSheet host input with
  | .error e => return .error e
  | .ok sheet =>
    let c := s.convertSheet sheet
    c.events.forM fun e => log ⟨[.file input, .conversion sheet.fileName], e⟩
    match ← deliver host order input (c.sheet.render order.form) with
    | .ok output => return .ok ⟨input, output, c.report⟩
    | .error e => return .error e

def convertInput (host : Host m) (log : Log.Record → m Unit) (s : Settings) (order : ConvertOrder)
    (input : String) : m FileOutcome := do
  match ← convertFile host log s order input with
  | .ok summary => return .converted summary
  | .error e =>
    log ⟨[], .failed e.message input⟩
    return .failed input e

def loadOverrides (host : Host m) (path : String) : m (Except ConfigError Overrides) := do
  match ← host.read path with
  | .ok text => return Config.overrides path text
  | .error e => return .error (.unread path e)

def settings (host : Host m) (order : ConvertOrder) : m (Except ConfigError Settings) := do
  let loaded ← match order.config with
    | some path => loadOverrides host path
    | none => pure (.ok .none)
  return loaded.bind fun o => (Settings.ofOverrides o).mapError .rejected

def prepareDirectory (host : Host m) (order : ConvertOrder) : m (Except ConfigError Unit) := do
  match order.outDir with
  | none => return .ok ()
  | some directory =>
    if order.dryRun then return .ok ()
    return (← host.createDirectories directory).mapError (.noDirectory directory)

def run (host : Host m) (log : Log.Record → m Unit) (order : ConvertOrder) :
    m (Except ConfigError Conversions) := do
  match ← settings host order with
  | .error e => return .error e
  | .ok s =>
    match ← prepareDirectory host order with
    | .error e => return .error e
    | .ok _ => return .ok ⟨← order.inputs.mapM (convertInput host log s order)⟩

end ConvertOrder
end FluidSheet
