import FluidSheet.Command.Convert

-- Results are printed; tables, faults and the log are told, unless the log goes to a file.

namespace FluidSheet.Program

variable {m : Type → Type} [Monad m]

def name : String := "px-to-viewport"
def version : String := "0.1.0"

def usage : String :=
  "Convert pixel lengths in stylesheet trees to viewport units\n\n" ++
  "Usage: " ++ name ++ " [OPTIONS] <COMMAND>\n\n" ++
  "Commands:\n" ++
  "  convert   Convert one or more stylesheet trees\n" ++
  "  defaults  Print the default options as JSON\n" ++
  "  help      Print this message\n\n" ++
  "Options of convert:\n" ++
  "  <INPUT>...           Stylesheet trees to convert (postcss-shaped JSON)\n" ++
  "  --config <FILE>      Option overrides, as JSON or TOML (chosen by file extension)\n" ++
  "  --out-dir <DIR>      Directory for converted files. Without it, results go to stdout\n" ++
  "  --format <FORMAT>    Output format for converted stylesheets: json, css\n" ++
  "  --dry-run            Convert and report without writing anything\n\n" ++
  "Options:\n" ++
  "  -v, --verbose        Increase logging verbosity\n" ++
  "  -q, --quiet          Decrease logging verbosity\n" ++
  "  --color <WHEN>       Control ANSI color output: auto, always, never\n" ++
  "  --log-level <LEVEL>  Explicit log level: error, warn, info, debug, trace\n" ++
  "  --log-format <FORM>  Log output format: pretty, compact, json\n" ++
  "  --log-file <PATH>    Write logs to a file instead of stderr\n" ++
  "  -h, --help           Print help\n" ++
  "  -V, --version        Print version\n"

def defaultsText : String := Overrides.defaults.json.pretty

-- The filter that the surroundings ask for counts only if the arguments ask for none.
def filter (rustLog : Option String) (a : Arguments) : Log.Filter :=
  if a.louder = 0 ∧ a.quieter = 0 ∧ a.logLevel = none then
    (rustLog.bind Log.Filter.ofText?).getD (Log.Filter.standard a.threshold)
  else Log.Filter.standard a.threshold

def style (terminal : Bool) (a : Arguments) : Log.Style where
  form := a.logForm
  colored := match a.color with
    | .always => true
    | .never => false
    | .auto => terminal && a.logFile.isNone

def writeLog (host : Host m) (file : Option String) (line : String) : m Unit :=
  match file with
  | none => host.tell line
  | some path => discard (host.append path line)

def log (host : Host m) (file : Option String) (style : Log.Style) (filter : Log.Filter) (r : Log.Record) : m Unit :=
  match Log.line style filter r with
  | none => pure ()
  | some line => writeLog host file line

def openLog (host : Host m) : Option String → m (Except FileError Unit)
  | none => return .ok ()
  | some path => host.append path ""

def tellResults (host : Host m) (c : Conversions) : m Unit := do
  host.tell ((Summary.table c.files).text ++ "\n")
  match Summary.warningTable? c.files with
  | some t => host.tell ("\nWarnings:\n" ++ t.text ++ "\n")
  | none => pure ()
  if c.hasErrors then host.tell ("Errors:\n" ++ String.join (c.errors.map fun e => "- " ++ e ++ "\n"))

def execute (host : Host m) (log : Log.Record → m Unit) : Command → m UInt32
  | .defaults => do
    host.print (defaultsText ++ "\n")
    return 0
  | .convert order => do
    match ← order.run host log with
    | .error e =>
      host.tell ("error: " ++ e.message ++ "\n")
      return 1
    | .ok c =>
      tellResults host c
      return if c.hasErrors then 1 else 0

def refuse (host : Host m) (e : ArgumentError) : m UInt32 := do
  match e with
  | .helpWanted =>
    host.print usage
    return 0
  | .versionWanted =>
    host.print (name ++ " " ++ version ++ "\n")
    return 0
  | _ =>
    host.tell ("error: " ++ e.message ++ "\n\n" ++ usage)
    return 2

def run (host : Host m) (terminal : Bool) (rustLog : Option String) (words : List String) : m UInt32 := do
  match Arguments.ofList words with
  | .error e => refuse host e
  | .ok a =>
    match ← openLog host a.logFile with
    | .error e =>
      host.tell ("error: failed to initialize logging: " ++ e.message ++ "\n")
      return 1
    | .ok _ => execute host (log host a.logFile (style terminal a) (filter rustLog a)) a.command

end FluidSheet.Program
