/-!
# Hosts

A command reaches files, variables and fresh seeds only through a `Host`. What it leads to is an
`Outcome`: the texts that it writes and its exit code.
-/

namespace Salvo

inductive FileContent where
  | text (s : String)
  /-- There is no file; the reason is that of an attempt to read it. -/
  | absent (reason : String)
  /-- There is something that cannot be read. -/
  | unreadable (reason : String)
deriving DecidableEq, Repr

namespace FileContent

def notFound : FileContent := absent "No such file or directory (os error 2)"

def notDirectory : FileContent := absent "Not a directory (os error 20)"

def isDirectory : FileContent := unreadable "Is a directory (os error 21)"

def ofBytes (bytes : ByteArray) : FileContent :=
  match String.fromUTF8? bytes with
  | some s => text s
  | none => unreadable "stream did not contain valid UTF-8"

end FileContent

/-- What surrounds a command. -/
structure Host (m : Type → Type) where
  file : String → m FileContent
  lookup : String → m (Option String)
  freshSeed : m UInt64

/-- What a command leads to. -/
structure Outcome where
  exit : Nat
  out : String := ""
  err : String := ""
deriving DecidableEq, Repr

namespace Outcome

def success (line : String) : Outcome := ⟨0, line ++ "\n", ""⟩

def failure (message : String) : Outcome := ⟨1, "", message ++ "\n"⟩

/-- A command that was broken off because a number left its type. -/
def overflow : Outcome := ⟨101, "", "attempt to compute with overflow\n"⟩

def misuse (message : String) : Outcome := ⟨2, "", message ++ "\n"⟩

/-- The outcome behind lines that were written as messages before. -/
def after (o : Outcome) (messages : List String) : Outcome :=
  { o with err := String.join (messages.map (· ++ "\n")) ++ o.err }

end Outcome

end Salvo
