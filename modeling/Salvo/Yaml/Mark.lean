/-!
# Positions in a YAML text

A `Mark` is a position in a text. The characters that end a line, separate words or cannot occur at
all are those of YAML, which differ from the blanks of other texts.
-/

namespace Salvo.Yaml

/-- A position: line and column, and the number of bytes of UTF-8 in front of it. -/
structure Mark where
  line : Nat := 0
  column : Nat := 0
  index : Nat := 0
deriving DecidableEq, Repr

namespace Mark

/-- The position behind a character of the same line. It takes up one column, however many bytes it
has. -/
def pass (m : Mark) (c : Char) : Mark := ⟨m.line, m.column + 1, m.index + c.utf8Size⟩

/-- The position behind `n` characters of the same line that have one byte each. -/
def skip (m : Mark) (n : Nat) : Mark := ⟨m.line, m.column + n, m.index + n⟩

def newLine (m : Mark) (n : Nat) : Mark := ⟨m.line + 1, 0, m.index + n⟩

end Mark

def isBlank (c : Char) : Bool := c == ' ' || c == '\t'

def isBreak (c : Char) : Bool :=
  c == '\n' || c == '\r' || c == '\u0085' || c == '\u2028' || c == '\u2029'

def keptBreak (c : Char) : Char := if c == '\u2028' || c == '\u2029' then c else '\n'

def endsWord : List Char → Bool
  | [] => true
  | c :: _ => isBlank c || isBreak c

/-- The text goes on with the three characters and a blank, a line break or its end. -/
def startsMarker (marker : Char) : List Char → Bool
  | a :: b :: c :: cs => a == marker && b == marker && c == marker && endsWord cs
  | _ => false

/-- The text goes on with the mark of the start or of the end of a document. -/
def startsDocumentMarker (cs : List Char) : Bool := startsMarker '-' cs || startsMarker '.' cs

/-- A character that may occur in a text: no control character but tabs and line breaks. -/
def isAllowed (c : Char) : Bool :=
  let n := c.toNat
  n == 0x9 || n == 0xA || n == 0xD || (0x20 ≤ n && n ≤ 0x7E) || n == 0x85 ||
    (0xA0 ≤ n && n != 0xFFFE && n != 0xFFFF)

end Salvo.Yaml
