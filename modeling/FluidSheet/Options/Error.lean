import FluidSheet.Json.Mismatch
import FluidSheet.Options.Key

namespace FluidSheet

inductive OptionError where
  | excludeShape
  | emptySourceUnit
  | precisionTooHigh
  | minimumNotFinite
  | badPattern (key : OptionKey) (pattern : String)
  | unreadable (error : Json.ReadError)
deriving DecidableEq, Repr

namespace OptionError

def invalidValue (key : OptionKey) (reason : String) : String :=
  "invalid value for " ++ key.text ++ ": " ++ reason

def message : OptionError → String
  | excludeShape => "options.exclude should be a pattern or a list of patterns"
  | emptySourceUnit => invalidValue .sourceUnit "must not be empty"
  | precisionTooHigh => invalidValue .unitPrecision "must be at most 15"
  | minimumNotFinite => invalidValue .minPixelValue "must be a finite number"
  | badPattern key pattern => "invalid pattern " ++ Text.quoted pattern ++ " in " ++ key.text
  | unreadable error => "malformed options: " ++ error.message

end OptionError
end FluidSheet
