import FluidSheet.Files.Basic
import FluidSheet.Options.Json
import FluidSheet.Toml.Reader

-- Both ways of reading lead through one document, so that both are checked alike.

namespace FluidSheet

inductive ConfigError where
  | unread (path : String) (error : FileError)
  | notJson (path : String) (fault : Json.Fault)
  | notToml (path : String)
  | invalid (path : String) (error : OptionError)
  | rejected (error : OptionError)
  | noDirectory (path : String) (error : FileError)
deriving DecidableEq, Repr

def OptionError.account : OptionError → String
  | unreadable e => (unreadable e).message ++ ": " ++ e.message
  | e => e.message

namespace ConfigError

def context : ConfigError → String
  | unread path _ => "read config " ++ path
  | notJson path _ => "parse JSON " ++ path
  | notToml path => "parse TOML " ++ path
  | invalid path _ => "invalid options in " ++ path
  | rejected _ => "invalid options"
  | noDirectory path _ => "create output directory " ++ path

def cause : ConfigError → String
  | unread _ e | noDirectory _ e => e.message
  | notJson _ fault => (Json.ReadError.fault fault).category
  | notToml _ => "syntax"
  | invalid _ e | rejected e => e.account

def message (e : ConfigError) : String := e.context ++ ": " ++ e.cause

end ConfigError

namespace Config

def isToml (path : String) : Bool := (Path.extension? path).any fun e => e.toList.map Char.toLower = "toml".toList

def document (path text : String) : Except ConfigError Json :=
  if isToml path then
    match Toml.ofText? text with
    | some table => .ok table.json
    | none => .error (.notToml path)
  else (Json.ofText text).mapError (.notJson path)

def ofDocument (path : String) (j : Json) : Except ConfigError Overrides := (Overrides.ofJson j).mapError (.invalid path)

def overrides (path text : String) : Except ConfigError Overrides := do
  ofDocument path (← document path text)

end Config
end FluidSheet
