import Salvo.CommandLine.Host

/-!
# Files in memory

A list of files by path, as a host that a command can be run on without touching anything else. The
directories of a file exist as well; others have to be listed. Around the files there is nothing.
-/

namespace Salvo

/-- A file or a directory. -/
inductive FileEntry where
  | file (bytes : ByteArray)
  | directory

abbrev Files := List (String × FileEntry)

namespace Files

def parts (path : String) : List (List Char) := path.toList.splitOnP (· == '/')

def isIdle (part : List Char) : Bool := part.isEmpty || part == ['.']

/-- The names of the directories and of the file that a listed path consists of. -/
def names (path : String) : List (List Char) := (parts path).filter fun p => !isIdle p

/-- The entry with some names: one that is listed, or a directory that a listed one lies in. -/
def entryAt? (fs : Files) (ns : List (List Char)) : Option FileEntry :=
  match fs.find? fun f => names f.1 == ns with
  | some f => some f.2
  | none => if fs.any fun f => ns.isPrefixOf (names f.1) then some .directory else none

/-- Follows the parts of a path from a directory on. Two dots lead back out of a directory. -/
def follow (fs : Files) (directory : List (List Char)) : List (List Char) → FileContent
  | [] => .isDirectory
  | part :: rest =>
    if isIdle part then follow fs directory rest
    else if part == ['.', '.'] then
      if directory.isEmpty then follow [] [] rest else follow fs directory.dropLast rest
    else
      match fs.entryAt? (directory ++ [part]) with
      | some .directory => follow fs (directory ++ [part]) rest
      | some (.file bytes) => if rest.isEmpty then .ofBytes bytes else .notDirectory
      | none => .notFound

def content (fs : Files) (path : String) : FileContent :=
  match path.toList with
  | [] => .notFound
  | c :: _ => follow (if c = '/' then [] else fs) [] (parts path)

def host (fs : Files) (env : List (String × String)) (seed : UInt64) : Host Id where
  file path := fs.content path
  lookup name := (env.find? (·.1 == name)).map (·.2)
  freshSeed := seed

end Files

end Salvo
