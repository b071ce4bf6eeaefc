
namespace FluidSheet

inductive OptionKey where
  | sourceUnit
  | viewportWidth
  | viewportHeight
  | unitPrecision
  | viewportUnit
  | fontViewportUnit
  | selectorBlackList
  | propList
  | minPixelValue
  | mediaQuery
  | replace
  | landscape
  | landscapeUnit
  | landscapeWidth
  | multiDesign
  | multiDesignUnit
  | multiDesignWidths
  | exclude
deriving DecidableEq, Repr

namespace OptionKey

def text : OptionKey → String
  | sourceUnit => "sourceUnit"
  | viewportWidth => "viewportWidth"
  | viewportHeight => "viewportHeight"
  | unitPrecision => "unitPrecision"
  | viewportUnit => "viewportUnit"
  | fontViewportUnit => "fontViewportUnit"
  | selectorBlackList => "selectorBlackList"
  | propList => "propList"
  | minPixelValue => "minPixelValue"
  | mediaQuery => "mediaQuery"
  | replace => "replace"
  | landscape => "landscape"
  | landscapeUnit => "landscapeUnit"
  | landscapeWidth => "landscapeWidth"
  | multiDesign => "multiDesign"
  | multiDesignUnit => "multiDesignUnit"
  | multiDesignWidths => "multiDesignWidths"
  | exclude => "exclude"

-- Every accepted spelling, the current one first.
def spellings : OptionKey → List String
  | sourceUnit => [sourceUnit.text, "unitToConvert"]
  | multiDesign => [multiDesign.text, "mutiDesign"]
  | multiDesignUnit => [multiDesignUnit.text, "mutiDesignUnit"]
  | multiDesignWidths => [multiDesignWidths.text, "mutiDesignWidth", "multiDesignWidth"]
  | key => [key.text]

end OptionKey
end FluidSheet
