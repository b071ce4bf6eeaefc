import FluidSheet.Pattern.Breaking

namespace FluidSheet.CharSet

def isNamePrefix : List Char → Bool
  | [a, b] => a.toLower = 'i' && b.toLower = 's'
  | _ => false

-- Dropping "is" must not leave the name of a category where another was meant.
def normalName (name : List Char) : String :=
  let named := isNamePrefix (name.take 2)
  let rest := if named then name.drop 2 else name
  let bare := (rest.filter fun c => c.toNat < 0x80 && c != ' ' && c != '_' && c != '-').map Char.toLower
  if named && bare = ['c'] then "isc" else String.ofList bare

def categoryNames : List (List String × List Category) :=
  [(["l", "letter"], Category.letters),
   (["lc", "casedletter"], Category.casedLetters),
   (["lu", "uppercaseletter"], [.uppercaseLetter]),
   (["ll", "lowercaseletter"], [.lowercaseLetter]),
   (["lt", "titlecaseletter"], [.titlecaseLetter]),
   (["lm", "modifierletter"], [.modifierLetter]),
   (["lo", "otherletter"], [.otherLetter]),
   (["m", "mark", "combiningmark"], Category.marks),
   (["mn", "nonspacingmark"], [.nonspacingMark]),
   (["mc", "spacingmark"], [.spacingMark]),
   (["me", "enclosingmark"], [.enclosingMark]),
   (["n", "number"], Category.numbers),
   (["nd", "decimalnumber", "digit"], [.decimalNumber]),
   (["nl", "letternumber"], [.letterNumber]),
   (["no", "othernumber"], [.otherNumber]),
   (["p", "punctuation", "punct"], Category.punctuation),
   (["pc", "connectorpunctuation"], [.connectorPunctuation]),
   (["pd", "dashpunctuation"], [.dashPunctuation]),
   (["ps", "openpunctuation"], [.openPunctuation]),
   (["pe", "closepunctuation"], [.closePunctuation]),
   (["pi", "initialpunctuation"], [.initialPunctuation]),
   (["pf", "finalpunctuation"], [.finalPunctuation]),
   (["po", "otherpunctuation"], [.otherPunctuation]),
   (["s", "symbol"], Category.symbols),
   (["sm", "mathsymbol"], [.mathSymbol]),
   (["sc", "currencysymbol"], [.currencySymbol]),
   (["sk", "modifiersymbol"], [.modifierSymbol]),
   (["so", "othersymbol"], [.otherSymbol]),
   (["z", "separator"], Category.separators),
   (["zs", "spaceseparator"], [.spaceSeparator]),
   (["zl", "lineseparator"], [.lineSeparator]),
   (["zp", "paragraphseparator"], [.paragraphSeparator]),
   (["c", "other"], Category.others),
   (["cc", "control", "cntrl"], [.control]),
   (["cf", "format"], [.format]),
   (["co", "privateuse"], [.privateUse]),
   (["cn", "unassigned"], [.unassigned])]

def lookUp? (table : List (List String × α)) (name : String) : Option α :=
  (table.find? fun (names, _) => names.contains name).map (·.2)

-- Halves of surrogate pairs are no characters, so there is no set of them.
def category? (name : String) : Option CharSet :=
  match name with
  | "any" => some .any
  | "assigned" => some (.complement (.ofCategory .unassigned))
  | "ascii" => some (.range 0 0x7f)
  | _ => (lookUp? categoryNames name).map ofCategories

def script? (extended : Bool) (name : String) : Option CharSet :=
  let name := if name = "qaac" then "coptic" else if name = "qaai" then "inherited" else name
  (Script.all.find? fun s => s.name = name || s.code = name).map fun s =>
    if extended then .differ (.runs s.runs) (.runs s.extra) else .runs s.runs

def age? (name : String) : Option CharSet :=
  (Age.all.find? (Age.isNamed name)).map fun age =>
    ofList ((Age.all.filter (Age.notAfter · age)).map fun earlier => .runs earlier.runs)

def named? (name : List Char) : Option CharSet :=
  let name := normalName name
  lookUp? properties name <|> category? name <|> script? false name

def valued? (property value : List Char) : Option CharSet :=
  let value := normalName value
  match normalName property with
  | "generalcategory" | "gc" => category? value
  | "script" | "sc" => script? false value
  | "scriptextensions" | "scx" => script? true value
  | "age" => age? value
  | "graphemeclusterbreak" | "gcb" => lookUp? clusterBreaks value
  | "wordbreak" | "wb" => lookUp? wordBreaks value
  | "sentencebreak" | "sb" => lookUp? sentenceBreaks value
  | _ => none

end FluidSheet.CharSet
