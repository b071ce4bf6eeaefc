import FluidSheet.Files.Basic

-- What a run needs of the machine it runs on; a workspace held in memory will do.

namespace FluidSheet

structure Host (m : Type → Type) where
  read : String → m (Except FileError String)
  write : String → String → m (Except FileError Unit)
  append : String → String → m (Except FileError Unit)
  createDirectories : String → m (Except FileError Unit)
  print : String → m Unit
  tell : String → m Unit

structure Workspace where
  files : Files
  printed : String
  told : String
deriving DecidableEq, Repr

namespace Workspace

def ofFiles (files : Files) : Workspace := ⟨files, "", ""⟩

-- A change that fails leaves the files as they were.
def change (f : Files → Except FileError Files) : StateM Workspace (Except FileError Unit) := fun w =>
  match f w.files with
  | .ok files => (.ok (), { w with files })
  | .error e => (.error e, w)

def host : Host (StateM Workspace) where
  read path := fun w => (w.files.read path, w)
  write path text := change (·.write path text)
  append path text := change (·.append path text)
  createDirectories path := change (·.createDirectories path)
  print text := fun w => ((), { w with printed := w.printed ++ text })
  tell text := fun w => ((), { w with told := w.told ++ text })

end Workspace
end FluidSheet
