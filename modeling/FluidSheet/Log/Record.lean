import FluidSheet.Conversion.Event

namespace FluidSheet.Log

inductive Span where
  | file (input : String)
  | conversion (file : String)
deriving DecidableEq, Repr

namespace Span

def name : Span → String
  | file _ => "file"
  | conversion _ => "px_to_viewport"

def level : Span → Level
  | file _ => .info
  | conversion _ => .debug

def field : Span → String × String
  | file path => ("input", path)
  | conversion path => ("file", path)

end Span

def commandTarget : String := "pxv_cli::commands"
def conversionTarget : String := "pxv_core::transform"
def breakpointTarget : String := "pxv_core::breakpoints"

def Span.target : Span → String
  | .file _ => commandTarget
  | .conversion _ => conversionTarget

def eventTarget : Event → String
  | .emitted .. => breakpointTarget
  | .failed .. => commandTarget
  | _ => conversionTarget

structure Record where
  spans : List Span
  event : Event
deriving DecidableEq, Repr

end FluidSheet.Log
