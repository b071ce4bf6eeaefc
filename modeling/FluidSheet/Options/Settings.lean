import FluidSheet.Conversion.PropertyList
import FluidSheet.Length.Target
import FluidSheet.Pattern.Reader
import FluidSheet.Sheet.Basic

namespace FluidSheet

structure TextPattern where
  text : String
  pattern : Pattern
deriving Repr

def TextPattern.fits (p : TextPattern) (s : String) : Bool := p.pattern.isMatch s

inductive WidthSource where
  | fixed (width : Binary64)
  | resolver (resolve : String → Option Binary64)

namespace WidthSource

def given? (file : String) : WidthSource → Option Binary64
  | fixed width => some width
  | resolver f => f file

-- No length can be measured against nothing, or against an infinite width.
def resolve (w : WidthSource) (file : String) : Option Binary64 :=
  (w.given? file).filter fun width => width.isFinite && !width.isZero

end WidthSource

structure DesignWidth where
  width : WidthSource
  mediaQuery : String

inductive SelectorTest where
  | text (text : String)
  | pattern (pattern : TextPattern)
deriving Repr

def SelectorTest.fits (selector : String) : SelectorTest → Bool
  | text t => Text.contains selector t
  | pattern p => p.fits selector

structure Settings where
  sourceUnit : String
  viewportWidth : WidthSource
  -- Kept, though conversion goes by widths alone.
  viewportHeight : WidthSource
  unitPrecision : Nat
  viewportUnit : String
  fontViewportUnit : String
  selectorBlackList : List SelectorTest
  propList : List String
  minPixelValue : Binary64
  mediaQuery : Bool
  -- Whether values are changed where they stand, or a converted copy is put behind them.
  replace : Bool
  landscape : Bool
  landscapeUnit : String
  landscapeWidth : WidthSource
  multiDesign : Bool
  multiDesignUnit : String
  multiDesignWidths : List DesignWidth
  exclude : List TextPattern

namespace Settings

def standard : Settings :=
  { sourceUnit := "px"
    viewportWidth := .fixed 320
    viewportHeight := .fixed 568
    unitPrecision := 5
    viewportUnit := "vw"
    fontViewportUnit := "vw"
    selectorBlackList := []
    propList := ["*"]
    minPixelValue := 1
    mediaQuery := false
    replace := true
    landscape := false
    landscapeUnit := "vw"
    landscapeWidth := .fixed 568
    multiDesign := false
    multiDesignUnit := "vw"
    multiDesignWidths := [⟨.fixed 750, "(min-width: 750px)"⟩, ⟨.fixed 1920, "(min-width: 1920px)"⟩]
    exclude := [] }

def unitFor (s : Settings) (prop : String) : String :=
  if Text.contains prop "font" then s.fontViewportUnit else s.viewportUnit

def excludes (s : Settings) (file : String) : Bool := s.exclude.any (·.fits file)

def blacklists (s : Settings) (selector : String) : Bool := s.selectorBlackList.any (·.fits selector)

def isCandidate (s : Settings) (d : Declaration) : Bool :=
  Text.contains d.value s.sourceUnit && (PropertyList.ofEntries s.propList).selects d.prop

def target? (s : Settings) (unit : String) (width : WidthSource) (file : String) : Option Target :=
  (width.resolve file).map fun width => ⟨unit, width, s.unitPrecision, s.minPixelValue⟩

def convert (s : Settings) (t : Target) (value : String) : String := Length.convert s.sourceUnit t value

end Settings
end FluidSheet
