import FluidSheet.Command.Run

namespace FluidSheet

def fileError (e : IO.Error) : FileError :=
  match e with
  | .noFileOrDirectory .. => .notFound
  | .alreadyExists .. => .alreadyThere
  | .inappropriateType .. => .isADirectory
  | e => .other (toString e)

def attempt (act : IO α) : IO (Except FileError α) := do
  match ← act.toBaseIO with
  | .ok a => return .ok a
  | .error e => return .error (fileError e)

def machine : Host IO where
  read path := attempt (IO.FS.readFile path)
  write path text := attempt (IO.FS.writeFile path text)
  append path text := attempt (IO.FS.withFile path .append fun h => h.putStr text)
  createDirectories path := attempt (IO.FS.createDirAll path)
  print text := do (← IO.getStdout).putStr text
  tell text := do (← IO.getStderr).putStr text

end FluidSheet

def main (words : List String) : IO UInt32 := do
  let terminal ← (← IO.getStderr).isTty
  FluidSheet.Program.run FluidSheet.machine terminal (← IO.getEnv "RUST_LOG") words
