import FluidSheet.Options.Error
import FluidSheet.Options.Overrides
import FluidSheet.Options.Settings

-- What is wrong with an option is found in one fixed order, before anything is converted.

namespace FluidSheet

def TextPattern.read (key : OptionKey) (text : String) : Except OptionError TextPattern :=
  match Pattern.ofText? text with
  | some p => .ok ⟨text, p⟩
  | none => .error (.badPattern key text)

namespace WidthSource

-- The first entry whose pattern fits decides, and the fallback where none does.
def lookUp (fallback : Option Binary64) (file : String) : List (TextPattern × Binary64) → Option Binary64
  | [] => fallback
  | (p, width) :: rest => if p.fits file then some width else lookUp fallback file rest

def ofSpec (key : OptionKey) : WidthSpec → Except OptionError WidthSource
  | .fixed width => .ok (.fixed width)
  | .byPath table fallback => do
    let table ← table.mapM fun entry => do return (← TextPattern.read key entry.pattern, entry.width)
    return .resolver fun file => lookUp fallback file table

end WidthSource

def SelectorTest.ofSpec : SelectorSpec → Except OptionError SelectorTest
  | .text t => .ok (.text t)
  | .pattern p => (TextPattern.read .selectorBlackList p).map .pattern

def DesignWidth.ofSpec (d : DesignSpec) : Except OptionError DesignWidth := do
  return ⟨← WidthSource.ofSpec .multiDesignWidths d.width, d.mediaQuery⟩

namespace Settings

def precisionLimit : Nat := 15

def checkUnit (unit : Option String) : Except OptionError Unit :=
  if unit = some "" then .error .emptySourceUnit else .ok ()

def checkPrecision (precision : Option UInt32) : Except OptionError Unit :=
  if precision.any fun n => precisionLimit < n.toNat then .error .precisionTooHigh else .ok ()

def checkMinimum (minimum : Option Binary64) : Except OptionError Unit :=
  if minimum.any fun x => !x.isFinite then .error .minimumNotFinite else .ok ()

def ofOverrides (o : Overrides) : Except OptionError Settings := do
  checkUnit o.sourceUnit
  let viewportWidth ← o.viewportWidth.mapM (WidthSource.ofSpec .viewportWidth)
  let viewportHeight ← o.viewportHeight.mapM (WidthSource.ofSpec .viewportHeight)
  checkPrecision o.unitPrecision
  let selectorBlackList ← o.selectorBlackList.mapM (·.mapM SelectorTest.ofSpec)
  checkMinimum o.minPixelValue
  let landscapeWidth ← o.landscapeWidth.mapM (WidthSource.ofSpec .landscapeWidth)
  let multiDesignWidths ← o.multiDesignWidths.mapM (·.mapM DesignWidth.ofSpec)
  let exclude ← o.exclude.mapM (·.patterns.mapM (TextPattern.read .exclude))
  return {
    sourceUnit := o.sourceUnit.getD standard.sourceUnit
    viewportWidth := viewportWidth.getD standard.viewportWidth
    viewportHeight := viewportHeight.getD standard.viewportHeight
    unitPrecision := (o.unitPrecision.map UInt32.toNat).getD standard.unitPrecision
    viewportUnit := o.viewportUnit.getD standard.viewportUnit
    fontViewportUnit := o.fontViewportUnit.getD standard.fontViewportUnit
    selectorBlackList := selectorBlackList.getD standard.selectorBlackList
    propList := o.propList.getD standard.propList
    minPixelValue := o.minPixelValue.getD standard.minPixelValue
    mediaQuery := o.mediaQuery.getD standard.mediaQuery
    replace := o.replace.getD standard.replace
    landscape := o.landscape.getD standard.landscape
    landscapeUnit := o.landscapeUnit.getD standard.landscapeUnit
    landscapeWidth := landscapeWidth.getD standard.landscapeWidth
    multiDesign := o.multiDesign.getD standard.multiDesign
    multiDesignUnit := o.multiDesignUnit.getD standard.multiDesignUnit
    multiDesignWidths := multiDesignWidths.getD standard.multiDesignWidths
    exclude := exclude.getD standard.exclude }

end Settings
end FluidSheet
