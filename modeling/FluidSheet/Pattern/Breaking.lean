import FluidSheet.Pattern.Derived

namespace FluidSheet.CharSet

def carriageReturn : CharSet := .char '\r'
def lineFeed : CharSet := .char '\n'
def joiner : CharSet := .range 0x200d 0x200d
def nonJoiner : CharSet := .range 0x200c 0x200c
def zeroSpace : CharSet := .range 0x200b 0x200b

def clusterExtend : CharSet := .union graphemeExtend (.runs Property.emojiModifierRuns)

def clusterControl : CharSet :=
  .minus
    (.union (.meet (.ofCategory .unassigned) defaultIgnorable)
      (ofCategories [.control, .format, .lineSeparator, .paragraphSeparator]))
    (ofList [carriageReturn, lineFeed, joiner, nonJoiner, .runs Break.tagRuns,
      .runs Property.prependedConcatenationMarkRuns])

def clusterSpacing : CharSet :=
  .differ (.minus (.ofCategory .spacingMark) graphemeExtend) (.runs Break.clusterSpacingRuns)

def syllables : CharSet := .range 0xac00 0xd7a3

-- Syllables without a final consonant: every twenty-eighth.
def openSyllables : CharSet :=
  .runs ((List.range 399).flatMap fun n => [0xac00 + 28 * n, 0xac00 + 28 * n + 1])

def clusterBreaks : List (List String × CharSet) :=
  [(["control", "cn"], clusterControl),
   (["cr"], carriageReturn),
   (["extend", "ex"], clusterExtend),
   (["l"], .runs Break.leadingJamoRuns),
   (["lf"], lineFeed),
   (["lv"], openSyllables),
   (["lvt"], .minus syllables openSyllables),
   (["prepend", "pp"],
    .union (.runs Property.prependedConcatenationMarkRuns) (.runs Break.clusterPrependRuns)),
   (["regionalindicator", "ri"], .runs Property.regionalIndicatorRuns),
   (["spacingmark", "sm"], clusterSpacing),
   (["t"], .runs Break.trailingJamoRuns),
   (["v"], .runs Break.vowelJamoRuns),
   (["zwj"], joiner)]

def wordExtend : CharSet :=
  .minus (.union clusterExtend (.ofCategory .spacingMark)) joiner

def wordFormat : CharSet :=
  .differ (.minus (.ofCategory .format) (ofList [zeroSpace, nonJoiner, joiner])) (.runs Break.wordFormatRuns)

def wordNumeric : CharSet := .differ (.ofCategory .decimalNumber) (.runs Break.wordNumericRuns)

def katakana : CharSet := .differ (.runs Script.katakanaRuns) (.runs Break.wordKatakanaRuns)

def hebrewLetters : CharSet := .meet (.runs Script.hebrewRuns) (.ofCategory .otherLetter)

def wordLetters : CharSet :=
  .differ (.minus alphabetic (ofList [.runs Property.ideographicRuns, katakana, hebrewLetters, wordExtend]))
    (.runs Break.wordLetterRuns)

def narrowSpace : CharSet := .range 0x202f 0x202f

def wordBreaks : List (List String × CharSet) :=
  [(["aletter", "le"], wordLetters),
   (["cr"], carriageReturn),
   (["doublequote", "dq"], .char '"'),
   (["extend"], wordExtend),
   (["extendnumlet", "ex"], .union (.ofCategory .connectorPunctuation) narrowSpace),
   (["format", "fo"], wordFormat),
   (["hebrewletter", "hl"], hebrewLetters),
   (["katakana", "ka"], katakana),
   (["lf"], lineFeed),
   (["midletter", "ml"], .runs Break.midLetterRuns),
   (["midnum", "mn"], .runs Break.midNumberRuns),
   (["midnumlet", "mb"], innerStop),
   (["newline", "nl"], .runs Break.newlineRuns),
   (["numeric", "nu"], wordNumeric),
   (["regionalindicator", "ri"], .runs Property.regionalIndicatorRuns),
   (["singlequote", "sq"], singleQuote),
   (["wsegspace"], .minus (.ofCategory .spaceSeparator) (.runs Break.gluedSpaceRuns)),
   (["zwj"], joiner)]

def sentenceExtend : CharSet := ofList [graphemeExtend, .ofCategory .spacingMark, joiner]

def sentenceLower : CharSet := .differ (.minus lowercase graphemeExtend) (.runs Break.sentenceLowerRuns)

def sentenceUpper : CharSet :=
  .differ (.union uppercase (.ofCategory .titlecaseLetter)) (.runs Break.sentenceUpperRuns)

def sentenceSeparators : CharSet := .runs Break.separatorRuns

def sentenceBreaks : List (List String × CharSet) :=
  [(["aterm", "at"], .runs Break.fullStopRuns),
   (["close", "cl"],
    .differ (.union (ofCategories [.openPunctuation, .closePunctuation]) (.runs Property.quotationMarkRuns))
      (.runs Break.sentenceCloseRuns)),
   (["cr"], carriageReturn),
   (["extend", "ex"], sentenceExtend),
   (["format", "fo"], .differ wordFormat (.runs Break.sentenceFormatRuns)),
   (["lf"], lineFeed),
   (["lower", "lo"], sentenceLower),
   (["numeric", "nu"], .differ wordNumeric (.range 0x66c 0x66c)),
   (["oletter", "le"],
    .union (.minus alphabetic (ofList [sentenceLower, sentenceUpper, sentenceExtend])) (.range 0x5f3 0x5f3)),
   (["scontinue", "sc"], .runs Break.continueRuns),
   (["sep", "se"], sentenceSeparators),
   (["sp"],
    .minus (.runs Property.whiteSpaceRuns) (ofList [carriageReturn, lineFeed, sentenceSeparators])),
   (["sterm", "st"], .minus (.runs Property.sentenceTerminalRuns) (.runs Break.fullStopRuns)),
   (["upper", "up"], sentenceUpper)]

end FluidSheet.CharSet
