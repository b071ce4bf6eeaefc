import FluidSheet.Pattern.CharSet

namespace FluidSheet.CharSet

def lowercase : CharSet := .union (.ofCategory .lowercaseLetter) (.runs Property.otherLowercaseRuns)

def uppercase : CharSet := .union (.ofCategory .uppercaseLetter) (.runs Property.otherUppercaseRuns)

def cased : CharSet := .union (.union lowercase uppercase) (.ofCategory .titlecaseLetter)

def graphemeExtend : CharSet :=
  .union (ofCategories [.nonspacingMark, .enclosingMark]) (.runs Property.otherGraphemeExtendRuns)

def graphemeBase : CharSet :=
  .complement (.union graphemeExtend (ofCategories (Category.others ++ [.lineSeparator, .paragraphSeparator])))

def syntactic : CharSet := .union (.runs Property.patternSyntaxRuns) (.runs Property.patternWhiteSpaceRuns)

def identifierStart : CharSet :=
  .minus (.union (ofCategories (Category.letters ++ [.letterNumber])) (.runs Property.otherIdStartRuns)) syntactic

def identifierContinue : CharSet :=
  .minus
    (.union (.union identifierStart (.runs Property.otherIdContinueRuns))
      (ofCategories [.nonspacingMark, .spacingMark, .decimalNumber, .connectorPunctuation]))
    syntactic

def singleQuote : CharSet := .char '\x27'

def innerStop : CharSet := .runs Break.midNumberLetterRuns

def caseIgnorable : CharSet :=
  .union (.union (.runs Break.midLetterRuns) (.union innerStop singleQuote))
    (ofCategories [.nonspacingMark, .enclosingMark, .format, .modifierLetter, .modifierSymbol])

def defaultIgnorable : CharSet := .runs Property.defaultIgnorableCodePointRuns

def changesWhenLowercased : CharSet :=
  .minus (.union uppercase (.ofCategory .titlecaseLetter)) (.runs Property.keptLowercasedRuns)

def changesWhenCasefolded : CharSet := .differ changesWhenLowercased (.runs Property.differCasefoldedRuns)

def changesWhenUppercased : CharSet :=
  .differ (.minus .linked uppercase) (.runs Property.differUppercasedRuns)

def changesWhenTitlecased : CharSet :=
  .differ (.minus changesWhenUppercased (.ofCategory .titlecaseLetter)) (.runs Property.differTitlecasedRuns)

def changesWhenCasemapped : CharSet :=
  ofList [changesWhenLowercased, changesWhenUppercased, changesWhenTitlecased]

def properties : List (List String × CharSet) :=
  [(["asciihexdigit", "ahex"], .runs Property.asciiHexDigitRuns),
   (["alphabetic", "alpha"], alphabetic),
   (["bidicontrol", "bidic"], .runs Property.bidiControlRuns),
   (["bidimirrored", "bidim"], .runs Property.bidiMirroredRuns),
   (["caseignorable", "ci"], caseIgnorable),
   (["cased"], cased),
   (["changeswhencasefolded", "cwcf"], changesWhenCasefolded),
   (["changeswhencasemapped", "cwcm"], changesWhenCasemapped),
   (["changeswhenlowercased", "cwl"], changesWhenLowercased),
   (["changeswhentitlecased", "cwt"], changesWhenTitlecased),
   (["changeswhenuppercased", "cwu"], changesWhenUppercased),
   (["dash"], .runs Property.dashRuns),
   (["defaultignorablecodepoint", "di"], defaultIgnorable),
   (["deprecated", "dep"], .runs Property.deprecatedRuns),
   (["diacritic", "dia"], .runs Property.diacriticRuns),
   (["emoji"], .runs Property.emojiRuns),
   (["emojicomponent", "ecomp"], .runs Property.emojiComponentRuns),
   (["emojimodifier", "emod"], .runs Property.emojiModifierRuns),
   (["emojimodifierbase", "ebase"], .runs Property.emojiModifierBaseRuns),
   (["emojipresentation", "epres"], .runs Property.emojiPresentationRuns),
   (["extendedpictographic", "extpict"], .runs Property.extendedPictographicRuns),
   (["extender", "ext"], .runs Property.extenderRuns),
   (["graphemebase", "grbase"], graphemeBase),
   (["graphemeextend", "grext"], graphemeExtend),
   (["graphemelink", "grlink"], .runs Property.graphemeLinkRuns),
   (["hexdigit", "hex"], .runs Property.hexDigitRuns),
   (["hyphen"], .runs Property.hyphenRuns),
   (["idsbinaryoperator", "idsb"], .runs Property.idsBinaryOperatorRuns),
   (["idstrinaryoperator", "idst"], .runs Property.idsTrinaryOperatorRuns),
   (["idsunaryoperator", "idsu"], .runs Property.idsUnaryOperatorRuns),
   (["idcompatmathcontinue"], .runs Property.idCompatMathContinueRuns),
   (["idcompatmathstart"], .runs Property.idCompatMathStartRuns),
   (["idcontinue", "idc"], identifierContinue),
   (["idstart", "ids"], identifierStart),
   (["ideographic", "ideo"], .runs Property.ideographicRuns),
   (["joincontrol", "joinc"], .runs Property.joinControlRuns),
   (["logicalorderexception", "loe"], .runs Property.logicalOrderExceptionRuns),
   (["lowercase", "lower"], lowercase),
   (["math"], .union (.ofCategory .mathSymbol) (.runs Property.otherMathRuns)),
   (["modifiercombiningmark", "mcm"], .runs Property.modifierCombiningMarkRuns),
   (["noncharactercodepoint", "nchar"], .runs Property.noncharacterCodePointRuns),
   (["otheralphabetic", "oalpha"], .runs Property.otherAlphabeticRuns),
   (["otherdefaultignorablecodepoint", "odi"], .runs Property.otherDefaultIgnorableCodePointRuns),
   (["othergraphemeextend", "ogrext"], .runs Property.otherGraphemeExtendRuns),
   (["otheridcontinue", "oidc"], .runs Property.otherIdContinueRuns),
   (["otheridstart", "oids"], .runs Property.otherIdStartRuns),
   (["otherlowercase", "olower"], .runs Property.otherLowercaseRuns),
   (["othermath", "omath"], .runs Property.otherMathRuns),
   (["otheruppercase", "oupper"], .runs Property.otherUppercaseRuns),
   (["patternsyntax", "patsyn"], .runs Property.patternSyntaxRuns),
   (["patternwhitespace", "patws"], .runs Property.patternWhiteSpaceRuns),
   (["prependedconcatenationmark", "pcm"], .runs Property.prependedConcatenationMarkRuns),
   (["quotationmark", "qmark"], .runs Property.quotationMarkRuns),
   (["radical"], .runs Property.radicalRuns),
   (["regionalindicator", "ri"], .runs Property.regionalIndicatorRuns),
   (["sentenceterminal", "sterm"], .runs Property.sentenceTerminalRuns),
   (["softdotted", "sd"], .runs Property.softDottedRuns),
   (["terminalpunctuation", "term"], .runs Property.terminalPunctuationRuns),
   (["unifiedideograph", "uideo"], .runs Property.unifiedIdeographRuns),
   (["uppercase", "upper"], uppercase),
   (["variationselector", "vs"], .runs Property.variationSelectorRuns),
   (["whitespace", "wspace", "space"], .runs Property.whiteSpaceRuns),
   (["xidcontinue", "xidc"], .differ identifierContinue (.runs Property.closedContinueRuns)),
   (["xidstart", "xids"], .differ identifierStart (.runs Property.closedStartRuns))]

end FluidSheet.CharSet
