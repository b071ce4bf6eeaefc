import FluidSheet.Files.Path

namespace FluidSheet

inductive FileError where
  | notFound
  | notADirectory
  | isADirectory
  | alreadyThere
  | other (message : String)
deriving DecidableEq, Repr

def FileError.message : FileError → String
  | notFound => "No such file or directory (os error 2)"
  | alreadyThere => "File exists (os error 17)"
  | notADirectory => "Not a directory (os error 20)"
  | isADirectory => "Is a directory (os error 21)"
  | other message => message

-- The way to a file from the current directory; a way from the root starts with "/".
abbrev Way := List String

structure Files where
  texts : List (Way × String)
  directories : List Way
deriving DecidableEq, Repr

namespace Files

def empty : Files := ⟨[], []⟩

def text? (f : Files) (way : Way) : Option String := f.texts.lookup way

def holds (directory : Way) (way : Way) : Bool := directory.isPrefixOf way && directory.length < way.length

-- What lies above the current directory is there, and is not looked into.
def isDirectory (f : Files) (way : Way) : Bool :=
  way.all (· = "..") || way = ["/"] || f.directories.any (fun d => d = way || holds way d) ||
    f.texts.any fun (file, _) => holds way file

def start (path : String) : Way := if path.toList.head? = some '/' then ["/"] else []

def enter (way : Way) (part : String) : Way :=
  if Path.isVoid part then way
  else if part ≠ ".." then way ++ [part]
  else if way = ["/"] then way
  else if way.all (· = "..") then way ++ [part]
  else way.dropLast

-- Only directories can be gone through.
def go (f : Files) (way : Way) : List String → Except FileError Way
  | [] => .ok way
  | part :: rest =>
    let next := enter way part
    if rest.isEmpty || f.isDirectory next then go f next rest
    else if (f.text? next).isSome then .error .notADirectory
    else .error .notFound

def resolve (f : Files) (path : String) : Except FileError Way :=
  if path.isEmpty then .error .notFound else f.go (start path) (Path.parts path)

def read (f : Files) (path : String) : Except FileError String := do
  let way ← f.resolve path
  match f.text? way with
  | some text => return text
  | none => if f.isDirectory way then throw .isADirectory else throw .notFound

def put (way : Way) (text : String) : List (Way × String) → List (Way × String)
  | [] => [(way, text)]
  | (w, t) :: rest => if w = way then (way, text) :: rest else (w, t) :: put way text rest

def write (f : Files) (path text : String) : Except FileError Files := do
  let way ← f.resolve path
  if f.isDirectory way then throw .isADirectory
  return { f with texts := put way text f.texts }

def append (f : Files) (path text : String) : Except FileError Files := do
  let way ← f.resolve path
  if f.isDirectory way then throw .isADirectory
  return { f with texts := put way ((f.text? way).getD "" ++ text) f.texts }

def createFrom (f : Files) (way : Way) : List String → Except FileError Files
  | [] => .ok f
  | part :: rest =>
    let next := enter way part
    if f.isDirectory next then createFrom f next rest
    else if (f.text? next).isSome then
      .error (if rest.all Path.isVoid then .alreadyThere else .notADirectory)
    else createFrom { f with directories := f.directories ++ [next] } next rest

def createDirectories (f : Files) (path : String) : Except FileError Files :=
  f.createFrom (start path) (Path.parts path)

def add (f : Files) (path text : String) : Files :=
  { f with texts := put ((Path.parts path).foldl enter (start path)) text f.texts }

def ofList (files : List (String × String)) : Files := files.foldl (fun f (path, text) => f.add path text) empty

def insertNamed (entry : String × String) : List (String × String) → List (String × String)
  | [] => [entry]
  | e :: rest => if entry.1 < e.1 then entry :: e :: rest else e :: insertNamed entry rest

def listing (f : Files) (path : String) : List (String × String) :=
  let directory := (Path.parts path).foldl enter (start path)
  (f.texts.filterMap fun (way, text) =>
    if way.dropLast = directory then way.getLast?.map (·, text) else none).foldl (fun l e => insertNamed e l) []

end Files
end FluidSheet
