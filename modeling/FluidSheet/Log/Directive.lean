import FluidSheet.Log.Record
import FluidSheet.Pattern.Reader

-- Up to which level to tell what comes from a target, or what happens within a span.

namespace FluidSheet.Log

abbrev Threshold := Option Level

def rank : Level → Nat
  | .error => 1
  | .warn => 2
  | .info => 3
  | .debug => 4
  | .trace => 5

def thresholds : List (String × Threshold) :=
  [("off", none), ("error", some .error), ("warn", some .warn), ("info", some .info),
   ("debug", some .debug), ("trace", some .trace)]

def passes (t : Threshold) (level : Level) : Bool := t.any fun top => rank level ≤ rank top

def thresholdRank (t : Threshold) : Nat := (t.map rank).getD 0

def higher (a b : Threshold) : Threshold := if thresholdRank a < thresholdRank b then b else a

structure FieldTest where
  name : String
  value : Option String
deriving DecidableEq, Repr

structure Directive where
  target : String
  span : Option String
  field : Option FieldTest
  threshold : Threshold
deriving DecidableEq, Repr

namespace FieldTest

-- A value that is a truth value or a number says that the field is one, and no field of a span is.
def isTyped (cs : List Char) : Bool :=
  let bare := match cs with
    | '+' :: rest | '-' :: rest => rest
    | _ => cs
  String.ofList cs = "true" || String.ofList cs = "false" ||
    ["inf", "infinity", "nan"].contains (String.ofList (bare.map Char.toLower)) || isNumber bare
where
  isNumber (cs : List Char) : Bool :=
    let whole := cs.takeWhile Char.isDigit
    let rest := cs.dropWhile Char.isDigit
    let (fraction, rest) := match rest with
      | '.' :: rest => (rest.takeWhile Char.isDigit, rest.dropWhile Char.isDigit)
      | _ => ([], rest)
    !(whole ++ fraction).isEmpty && isExponent rest
  isExponent : List Char → Bool
    | [] => true
    | e :: rest =>
      let digits := match rest with
        | '+' :: rest | '-' :: rest => rest
        | _ => rest
      (e = 'e' || e = 'E') && !digits.isEmpty && digits.all Char.isDigit

-- Values are tested place by place, so a pattern may not ask for the boundary of a word of any script.
def isTestable (value : String) : Bool :=
  isTyped value.toList || (Pattern.ofText? value).any (!·.asksForWords)

def ofText? (cs : List Char) : Option FieldTest := do
  let name := cs.takeWhile (· ≠ '=')
  match cs.dropWhile (· ≠ '=') with
  | [] => if name.isEmpty then none else return ⟨String.ofList name, none⟩
  | _ :: rest =>
    let value := String.ofList (rest.takeWhile (· ≠ '='))
    if isTestable value then return ⟨String.ofList name, some value⟩ else none

def holds (t : FieldTest) (field : String × String) : Bool :=
  match t.value with
  | none => true
  | some value => !isTyped value.toList && (Pattern.ofText? value).any (·.reachesEnd field.2)

end FieldTest

namespace Directive

def rank? (cs : List Char) : Option Nat :=
  let ds := match cs with
    | '+' :: ds => ds
    | _ => cs
  if !ds.isEmpty && ds.all Char.isDigit then some (ds.foldl (fun n c => 10 * n + (c.toNat - '0'.toNat)) 0) else none

def threshold? (cs : List Char) : Option Threshold :=
  match rank? cs with
  | some n => (thresholds[n]?).map (·.2)
  | none => thresholds.lookup (String.ofList (cs.map Char.toLower))

def starts (c : Char) : Bool := c = '-' || c = ':' || c = '_' || Text.isAlphanumeric c

-- A directive without a level lets all through.
def everything : Threshold := some .trace

def ofLevel? (target : String) (span : Option String) (field : Option FieldTest) (cs : List Char) :
    Option Directive :=
  if cs.isEmpty then some ⟨target, span, field, everything⟩
  else (threshold? cs).map (⟨target, span, field, ·⟩)

-- Where the reading of a directive stands. What has been read is held back to front.
inductive Reading where
  | start
  | inHead (text : List Char)
  | inSpan (target : String) (name : List Char)
  | inField (target : String) (span : Option String) (text : List Char)
  | afterField (target : String) (span : Option String) (field : FieldTest)
  | afterScope (target : String) (span : Option String) (field : Option FieldTest)
  | inLevel (target : String) (span : Option String) (field : Option FieldTest) (text : List Char)

def textOf (reversed : List Char) : String := String.ofList reversed.reverse

def spanName? (reversed : List Char) : Option String :=
  let name := Text.trimChars reversed.reverse
  if name.isEmpty then none else some (String.ofList name)

def Reading.step? (r : Reading) (c kept : Char) : Option Reading :=
  match r with
  | .start =>
    if c = '[' then some (.inSpan "" []) else if starts c then some (.inHead [kept]) else none
  | .inHead text =>
    if c = '=' then some (.inLevel (textOf text) none none [])
    else if c = '[' then some (.inSpan (textOf text) [])
    else some (.inHead (kept :: text))
  | .inSpan target name =>
    if c = ']' then some (.afterScope target (some (textOf name)) none)
    else if c = '{' then some (.inField target (spanName? name) [])
    else some (.inSpan target (kept :: name))
  | .inField target span text =>
    if c = '}' then (FieldTest.ofText? text.reverse).map (.afterField target span ·)
    else some (.inField target span (kept :: text))
  | .afterField target span field => if c = ']' then some (.afterScope target span (some field)) else none
  | .afterScope target span field => if c = '=' then some (.inLevel target span field []) else none
  | .inLevel target span field text => some (.inLevel target span field (kept :: text))

-- `beyond`: what stands behind the text that was read, and belongs to its last part.
def Reading.finish? (beyond : List Char) : Reading → Option Directive
  | .inHead text =>
    let cs := text.reverse ++ beyond
    match threshold? cs with
    | some t => some ⟨"", none, none, t⟩
    | none => some ⟨String.ofList cs, none, none, everything⟩
  | .inLevel target span field text => ofLevel? target span field (text.reverse ++ beyond)
  | .afterScope target span field => some ⟨target, span, field, everything⟩
  | _ => none

def run? (r : Reading) : (trimmed text : List Char) → Option Directive
  | [], text => r.finish? text
  | c :: rest, kept :: text => do run? (← r.step? c kept) rest text
  | _ :: _, [] => none

-- Blanks around a directive do not count, but its parts are taken from where the text begins.
def ofText? (cs : List Char) : Option Directive := run? .start (Text.trimChars cs) cs

def isSameScope (a b : Directive) : Bool := a.target = b.target && a.span = b.span && a.field = b.field

def isScoped (d : Directive) : Bool := d.span.isSome || d.field.isSome

def isPlain (d : Directive) : Bool := d.span.isNone && d.field.all (·.value.isNone)

def testsValue (d : Directive) : Bool := d.field.any (·.value.isSome)

def startsTarget (d : Directive) (target : String) : Bool := d.target.toList.isPrefixOf target.toList

end Directive
end FluidSheet.Log
