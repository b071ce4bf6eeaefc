import FluidSheet.Command.Switch
import FluidSheet.Log.Filter
import FluidSheet.Log.Line

namespace FluidSheet

inductive SheetForm where
  | json
  | css
deriving DecidableEq, Repr

inductive ColorChoice where
  | auto
  | always
  | never
deriving DecidableEq, Repr

structure ConvertOrder where
  inputs : List String
  config : Option String
  outDir : Option String
  form : SheetForm
  dryRun : Bool
deriving DecidableEq, Repr

inductive Command where
  | convert (order : ConvertOrder)
  | defaults
deriving DecidableEq, Repr

structure Arguments where
  command : Command
  louder : Nat
  quieter : Nat
  color : ColorChoice
  logLevel : Option Level
  logForm : Log.Form
  logFile : Option String
deriving DecidableEq, Repr

def SheetForm.extension : SheetForm → String
  | .json => "json"
  | .css => "css"

namespace Arguments

def sheetForms : List (String × SheetForm) := [("json", .json), ("css", .css)]

def colorChoices : List (String × ColorChoice) := [("auto", .auto), ("always", .always), ("never", .never)]

def logLevels : List (String × Level) :=
  [("error", .error), ("warn", .warn), ("info", .info), ("debug", .debug), ("trace", .trace)]

def logForms : List (String × Log.Form) := [("pretty", .pretty), ("compact", .compact), ("json", .json)]

def oneOf (names : List (String × α)) : Role := .value fun v => (names.lookup v).isSome

def isPath (text : String) : Bool := text ≠ ""

-- Switches that are understood before and after the subcommand.
def everywhere : List Switch :=
  [⟨"verbose", some 'v', .count⟩, ⟨"quiet", some 'q', .count⟩, ⟨"color", none, oneOf colorChoices⟩,
    ⟨"log-level", none, oneOf logLevels⟩, ⟨"log-format", none, oneOf logForms⟩, ⟨"log-file", none, .value isPath⟩,
    ⟨"help", some 'h', .help⟩]

def program : Grammar := ⟨everywhere ++ [⟨"version", some 'V', .version⟩], .subcommands ["convert", "defaults", "help"]⟩

def convertGrammar : Grammar :=
  ⟨everywhere ++ [⟨"config", none, .value isPath⟩, ⟨"out-dir", none, .value isPath⟩,
    ⟨"format", none, oneOf sheetForms⟩, ⟨"dry-run", none, .flag⟩], .many isPath⟩

def defaultsGrammar : Grammar := ⟨everywhere, .none⟩

-- More and less at once is refused, but not across a subcommand.
def agreed (f : Findings) : Except ArgumentError Findings := if f.has "verbose" && f.has "quiet" then .error .conflict else .ok f

def helpOn : List String → ArgumentError
  | [] => .helpWanted
  | [name] => if program.subcommands.contains name then .helpWanted else .invalidSubcommand
  | _ => .invalidSubcommand

def inner (outer sub : Findings) : Findings :=
  { sub with uses := sub.uses ++ outer.uses.filter fun u => !sub.has u.1 }

def chosen (f : Findings) (name : String) (names : List (String × α)) : Option α := (f.value? name).bind fun v => names.lookup v

def ofFindings (command : Command) (f : Findings) : Arguments where
  command := command
  louder := min 255 (f.count "verbose")
  quieter := min 255 (f.count "quiet")
  color := (chosen f "color" colorChoices).getD .auto
  logLevel := chosen f "log-level" logLevels
  logForm := (chosen f "log-format" logForms).getD .pretty
  logFile := f.value? "log-file"

def convertOrder (f : Findings) : ConvertOrder where
  inputs := f.words
  config := f.value? "config"
  outDir := f.value? "out-dir"
  form := (chosen f "format" sheetForms).getD .json
  dryRun := f.has "dry-run"

def readSub (g : Grammar) (words : List String) : Except ArgumentError Findings := do
  let (reading, _) ← Reading.start.run g words
  agreed (← reading.settle g)

def readCommand (name : String) (words : List String) : Except ArgumentError (Command × Findings) := do
  if name = "convert" then
    let f ← readSub convertGrammar words
    if f.words.isEmpty then throw .missingArgument
    return (.convert (convertOrder f), f)
  else if name = "defaults" then return (.defaults, ← readSub defaultsGrammar words)
  else throw (helpOn words)

-- A fault after the subcommand is told before one that was still unchecked before it.
def ofList (words : List String) : Except ArgumentError Arguments := do
  match ← Reading.start.run program words with
  | (reading, none) =>
    if (← reading.settle program).isEmpty then throw .helpOnNothing else throw .missingSubcommand
  | (reading, some (name, rest)) =>
    let (command, sub) ← readCommand name rest
    let outer ← agreed (← reading.settle program)
    return ofFindings command (inner outer sub)

def verbosity (a : Arguments) : Log.Threshold :=
  ((Log.thresholds[min 5 (2 + a.louder - a.quieter)]?).map (·.2)).getD none

def threshold (a : Arguments) : Log.Threshold :=
  match a.logLevel with
  | some level => some level
  | none => a.verbosity

end Arguments
end FluidSheet
