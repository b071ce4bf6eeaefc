
namespace FluidSheet.Path

def partsOf : List Char → List (List Char)
  | [] => [[]]
  | c :: rest =>
    if c = '/' then [] :: partsOf rest
    else
      match partsOf rest with
      | part :: parts => (c :: part) :: parts
      | [] => [[c]]

def parts (path : String) : List String := (partsOf path.toList).map String.ofList

def isVoid (part : String) : Bool := part = "" || part = "."

-- The last part, if it names something and does not lead upwards.
def fileName? (path : String) : Option String :=
  match (parts path).reverse.dropWhile isVoid with
  | [] => none
  | part :: _ => if part = ".." then none else some part

-- A point at the start belongs to the name.
def splitName (name : String) : String × Option String :=
  let back := name.toList.reverse
  match back.dropWhile (· ≠ '.') with
  | _ :: c :: rest =>
    (String.ofList (c :: rest).reverse, some (String.ofList (back.takeWhile (· ≠ '.')).reverse))
  | _ => (name, none)

def stem? (path : String) : Option String := (fileName? path).map fun name => (splitName name).1

def extension? (path : String) : Option String := (fileName? path).bind fun name => (splitName name).2

def join (directory name : String) : String :=
  match directory.toList.getLast? with
  | none => name
  | some c => if c = '/' then directory ++ name else directory ++ "/" ++ name

end FluidSheet.Path
