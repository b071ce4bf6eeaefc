import FluidSheet.Number.Binary64

namespace FluidSheet

structure PathWidth where
  pattern : String
  width : Binary64
deriving DecidableEq, Repr

inductive WidthSpec where
  | fixed (width : Binary64)
  | byPath (table : List PathWidth) (fallback : Option Binary64)
deriving DecidableEq, Repr

structure DesignSpec where
  width : WidthSpec
  mediaQuery : String
deriving DecidableEq, Repr

inductive SelectorSpec where
  | text (text : String)
  | pattern (pattern : String)
deriving DecidableEq, Repr

inductive ExcludeSpec where
  | pattern (pattern : String)
  | list (patterns : List String)
deriving DecidableEq, Repr

def ExcludeSpec.patterns : ExcludeSpec → List String
  | .pattern p => [p]
  | .list ps => ps

structure Overrides where
  sourceUnit : Option String
  viewportWidth : Option WidthSpec
  viewportHeight : Option WidthSpec
  unitPrecision : Option UInt32
  viewportUnit : Option String
  fontViewportUnit : Option String
  selectorBlackList : Option (List SelectorSpec)
  propList : Option (List String)
  minPixelValue : Option Binary64
  mediaQuery : Option Bool
  replace : Option Bool
  landscape : Option Bool
  landscapeUnit : Option String
  landscapeWidth : Option WidthSpec
  multiDesign : Option Bool
  multiDesignUnit : Option String
  multiDesignWidths : Option (List DesignSpec)
  exclude : Option ExcludeSpec
deriving DecidableEq, Repr

namespace Overrides

def none : Overrides :=
  { sourceUnit := .none, viewportWidth := .none, viewportHeight := .none, unitPrecision := .none
    viewportUnit := .none, fontViewportUnit := .none, selectorBlackList := .none, propList := .none
    minPixelValue := .none, mediaQuery := .none, replace := .none, landscape := .none
    landscapeUnit := .none, landscapeWidth := .none, multiDesign := .none, multiDesignUnit := .none
    multiDesignWidths := .none, exclude := .none }

-- Every option that has a default, at its default.
def defaults : Overrides :=
  { sourceUnit := some "px"
    viewportWidth := some (.fixed 320)
    viewportHeight := some (.fixed 568)
    unitPrecision := some 5
    viewportUnit := some "vw"
    fontViewportUnit := some "vw"
    selectorBlackList := some []
    propList := some ["*"]
    minPixelValue := some 1
    mediaQuery := some false
    replace := some true
    landscape := some false
    landscapeUnit := some "vw"
    landscapeWidth := some (.fixed 568)
    multiDesign := some false
    multiDesignUnit := some "vw"
    multiDesignWidths := some [⟨.fixed 750, "(min-width: 750px)"⟩, ⟨.fixed 1920, "(min-width: 1920px)"⟩]
    exclude := .none }

def withViewportWidth (o : Overrides) (width : Binary64) : Overrides :=
  { o with viewportWidth := some (.fixed width) }

def withPropList (o : Overrides) (entries : List String) : Overrides := { o with propList := some entries }
def withReplace (o : Overrides) (on : Bool) : Overrides := { o with replace := some on }
def withLandscape (o : Overrides) (on : Bool) : Overrides := { o with landscape := some on }
def withMultiDesign (o : Overrides) (on : Bool) : Overrides := { o with multiDesign := some on }
def withMediaQuery (o : Overrides) (on : Bool) : Overrides := { o with mediaQuery := some on }

def addDesign (o : Overrides) (width : Binary64) (mediaQuery : String) : Overrides :=
  { o with multiDesignWidths := some (o.multiDesignWidths.getD [] ++ [⟨.fixed width, mediaQuery⟩]) }

end Overrides
end FluidSheet
