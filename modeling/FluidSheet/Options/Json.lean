import FluidSheet.Json.Decode
import FluidSheet.Json.Reader
import FluidSheet.Json.Writer
import FluidSheet.Options.Error
import FluidSheet.Options.Overrides

-- In reading, the shape of "exclude" is looked at before all else.

namespace FluidSheet

open Json

namespace WidthSpec

def pathWidthJson (entry : PathWidth) : Json :=
  .object [("pattern", .string entry.pattern), ("width", Json.real entry.width)]

def json : WidthSpec → Json
  | fixed width => Json.real width
  | byPath table fallback =>
    .object (("byPath", .array (table.map pathWidthJson)) ::
      (fallback.map fun width => ("fallback", Json.real width)).toList)

end WidthSpec

def DesignSpec.json (d : DesignSpec) : Json :=
  .object [("width", d.width.json), ("mediaQuery", .string d.mediaQuery)]

def SelectorSpec.json : SelectorSpec → Json
  | text t => .string t
  | pattern p => .object [("regex", .string p)]

def strings (ss : List String) : Json := .array (ss.map .string)

def ExcludeSpec.json : ExcludeSpec → Json
  | pattern p => .string p
  | list ps => strings ps

namespace Overrides

def member (key : OptionKey) (value : Option Json) : List (String × Json) :=
  (value.map fun j => (key.text, j)).toList

def members (o : Overrides) : List (String × Json) :=
  member .sourceUnit (o.sourceUnit.map .string) ++
  member .viewportWidth (o.viewportWidth.map WidthSpec.json) ++
  member .viewportHeight (o.viewportHeight.map WidthSpec.json) ++
  member .unitPrecision (o.unitPrecision.map fun n => Json.nat n.toNat) ++
  member .viewportUnit (o.viewportUnit.map .string) ++
  member .fontViewportUnit (o.fontViewportUnit.map .string) ++
  member .selectorBlackList (o.selectorBlackList.map fun es => .array (es.map SelectorSpec.json)) ++
  member .propList (o.propList.map strings) ++
  member .minPixelValue (o.minPixelValue.map Json.real) ++
  member .mediaQuery (o.mediaQuery.map .bool) ++
  member .replace (o.replace.map .bool) ++
  member .landscape (o.landscape.map .bool) ++
  member .landscapeUnit (o.landscapeUnit.map .string) ++
  member .landscapeWidth (o.landscapeWidth.map WidthSpec.json) ++
  member .multiDesign (o.multiDesign.map .bool) ++
  member .multiDesignUnit (o.multiDesignUnit.map .string) ++
  member .multiDesignWidths (o.multiDesignWidths.map fun ds => .array (ds.map DesignSpec.json)) ++
  member .exclude (o.exclude.map ExcludeSpec.json)

def json (o : Overrides) : Json := .object o.members

end Overrides

namespace Decode

open Json.Decode

-- Of a value that may take several forms, a failure says only that none fits.
def oneOf (name : String) (r : Except ReadError α) : Except ReadError α :=
  r.mapError fun _ => .mismatch (.noVariant name)

def pathWidth : Json → Except ReadError PathWidth :=
  record .buffer "struct PathWidth"
    [⟨["pattern"], .required, fun j e => do return { e with pattern := ← string j }⟩,
     ⟨["width"], .required, fun j e => do return { e with width := ← number j }⟩]
    ⟨"", 0⟩

def pathTable : Json → Except ReadError (List PathWidth × Option Binary64) :=
  record .buffer "struct PathWidthTable"
    [⟨["byPath"], .required, fun j t => do return (← list pathWidth j, t.2)⟩,
     ⟨["fallback"], .free, fun j t => do return (t.1, ← option number j)⟩]
    ([], none)

def width (j : Json) : Except ReadError WidthSpec :=
  oneOf "WidthSpec" <|
    match j with
    | .number n => .ok (.fixed n.toBinary64)
    | j => do
      let (table, fallback) ← pathTable j
      return .byPath table fallback

def design : Json → Except ReadError DesignSpec :=
  record .value "struct DesignWidthSpec"
    [⟨["width", "value"], .required, fun j d => do return { d with width := ← width j }⟩,
     ⟨["mediaQuery"], .required, fun j d => do return { d with mediaQuery := ← string j }⟩]
    ⟨.fixed 0, ""⟩

def selector (j : Json) : Except ReadError SelectorSpec :=
  oneOf "SelectorSpec" <|
    match j with
    | .string s => .ok (.text s)
    | .object members =>
      match Json.get? "regex" members with
      | some (.string s) => .ok (.pattern s)
      | _ => wrong j "struct variant"
    | j => wrong j "struct variant"

def exclude (j : Json) : Except ReadError ExcludeSpec :=
  oneOf "ExcludeSpec" <|
    match j with
    | .string s => .ok (.pattern s)
    | j => do return .list (← list string j)

def field (key : OptionKey) (read : Json → Except ReadError α) (set : Option α → Overrides → Overrides) :
    Field Json Overrides :=
  ⟨key.spellings, .positional, fun j o => do return set (← option read j) o⟩

def overridesFields : List (Field Json Overrides) :=
  [field .sourceUnit string fun v o => { o with sourceUnit := v },
   field .viewportWidth width fun v o => { o with viewportWidth := v },
   field .viewportHeight width fun v o => { o with viewportHeight := v },
   field .unitPrecision word32 fun v o => { o with unitPrecision := v },
   field .viewportUnit string fun v o => { o with viewportUnit := v },
   field .fontViewportUnit string fun v o => { o with fontViewportUnit := v },
   field .selectorBlackList (list selector) fun v o => { o with selectorBlackList := v },
   field .propList (list string) fun v o => { o with propList := v },
   field .minPixelValue number fun v o => { o with minPixelValue := v },
   field .mediaQuery bool fun v o => { o with mediaQuery := v },
   field .replace bool fun v o => { o with replace := v },
   field .landscape bool fun v o => { o with landscape := v },
   field .landscapeUnit string fun v o => { o with landscapeUnit := v },
   field .landscapeWidth width fun v o => { o with landscapeWidth := v },
   field .multiDesign bool fun v o => { o with multiDesign := v },
   field .multiDesignUnit string fun v o => { o with multiDesignUnit := v },
   field .multiDesignWidths (list design) fun v o => { o with multiDesignWidths := v },
   field .exclude exclude fun v o => { o with exclude := v }]

def isString : Json → Bool
  | .string _ => true
  | _ => false

def excludeShape : Json → Bool
  | .null | .string _ => true
  | .array items => items.all isString
  | _ => false

end Decode

namespace Overrides

def ofJson (j : Json) : Except OptionError Overrides := do
  let j := j.sorted
  if let .object members := j then
    if let some e := Json.get? OptionKey.exclude.text members then
      if !Decode.excludeShape e then throw .excludeShape
  (Json.Decode.record .value "struct OptionOverrides" Decode.overridesFields none j).mapError .unreadable

def ofText (s : String) : Except OptionError Overrides :=
  match Json.ofText s with
  | .ok j => ofJson j
  | .error fault => .error (.unreadable (.fault fault))

end Overrides
end FluidSheet
