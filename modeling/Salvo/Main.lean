import Salvo.CommandLine.Run

/-!
# The program

Runs a command on the files, variables and random bytes of the system.
-/

namespace Salvo.CommandLine

def fileError : IO.Error → FileContent
  | .noFileOrDirectory .. => .notFound
  | .inappropriateType _ code _ => if code = 20 then .notDirectory else .isDirectory
  | e => .unreadable (toString e)

def systemFile (path : String) : IO FileContent := do
  try
    return .ofBytes (← IO.FS.readBinFile path)
  catch e => return fileError e

def systemSeed : IO UInt64 := do
  let bytes ← IO.getRandomBytes 8
  return bytes.data.foldr (fun b n => n * 256 + b.toUInt64) 0

def system : Host IO where
  file := systemFile
  lookup name := IO.getEnv name
  freshSeed := systemSeed

end Salvo.CommandLine

def main (args : List String) : IO UInt32 := do
  let outcome ← Salvo.CommandLine.run Salvo.CommandLine.system args
  (← IO.getStderr).putStr outcome.err
  (← IO.getStdout).putStr outcome.out
  return outcome.exit.toUInt32
