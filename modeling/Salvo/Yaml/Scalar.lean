import Salvo.Json.Token
import Salvo.Yaml.Mark

/-!
# Scalars of a YAML text

A scalar is plain or in quotes and may go on over several lines. A single line break within it is
read as a space, and further ones are kept. `Gap` holds the blanks and line breaks behind the last
word until it is known whether the scalar goes on.
-/

namespace Salvo.Yaml

/-- Blanks and line breaks behind a word. What is collected is in reverse. -/
structure Gap where
  blanks : List Char := []
  /-- A line has ended. -/
  broken : Bool := false
  /-- The first line break, unless it was escaped. -/
  first : Option Char := none
  later : List Char := []

namespace Gap

def folded (g : Gap) : List Char :=
  if g.broken then
    match g.first with
    | some '\n' => if g.later.isEmpty then [' '] else g.later
    | some c => g.later ++ [c]
    | none => g.later
  else g.blanks

/-- A blank follows. Blanks at the beginning of a line do not count. -/
def addBlank (g : Gap) (c : Char) : Gap := if g.broken then g else { g with blanks := c :: g.blanks }

def addBreak (g : Gap) (c : Char) : Gap :=
  if g.broken then { g with later := keptBreak c :: g.later }
  else { broken := true, first := some (keptBreak c) }

def escapedBreak : Gap := { broken := true }

end Gap

/-- A scalar that has been read, and where the text goes on. -/
structure Scanned where
  text : String
  /-- The scalar ended at the end of a line. -/
  broken : Bool
  mark : Mark
  rest : List Char

/-- A plain scalar cannot go on with the character `c` in front of `cs`. -/
def endsPlain (inFlow : Bool) (c : Char) (cs : List Char) : Bool :=
  (c == ':' && endsWord cs) ||
    (inFlow && (c == ',' || c == '[' || c == ']' || c == '\x7b' || c == '\x7d'))

/-- Within brackets, a colon in front of another mark is an error. -/
def isStrayColon (inFlow : Bool) (c : Char) (cs : List Char) : Bool :=
  inFlow && c == ':' &&
    match cs with
    | d :: _ => d == ',' || d == '?' || d == '[' || d == ']' || d == '\x7b' || d == '\x7d'
    | [] => false

/-- Reads a plain scalar behind the characters `done`, which are in reverse. Outside of brackets its
lines have to be indented by `indent` columns. -/
def plain (inFlow : Bool) (indent : Int) (done : List Char) (gap : Gap) (m : Mark) :
    List Char → Option Scanned
  | [] => some ⟨String.ofList done.reverse, gap.broken, m, []⟩
  | '\r' :: '\n' :: cs => plain inFlow indent done (gap.addBreak '\n') (m.newLine 2) cs
  | c :: cs =>
    let stop : Option Scanned := some ⟨String.ofList done.reverse, gap.broken, m, c :: cs⟩
    if isBreak c then plain inFlow indent done (gap.addBreak c) (m.newLine c.utf8Size) cs
    else if isBlank c then
      if gap.broken && (m.column : Int) < indent && c == '\t' then none
      else plain inFlow indent done (gap.addBlank c) (m.pass c) cs
    else if gap.broken && !inFlow && (m.column : Int) < indent then stop
    else if m.column == 0 && startsDocumentMarker (c :: cs) then stop
    else if c == '#' && (gap.broken || !gap.blanks.isEmpty) then stop
    else if isStrayColon inFlow c cs then none
    else if endsPlain inFlow c cs then stop
    else plain inFlow indent (c :: (gap.folded ++ done)) {} (m.pass c) cs

/-- Reads a scalar in single quotes, in which a quote is written twice. -/
def singleQuoted (done : List Char) (gap : Gap) (m : Mark) : List Char → Option Scanned
  | [] => none
  | '\'' :: '\'' :: cs => singleQuoted ('\'' :: (gap.folded ++ done)) {} (m.skip 2) cs
  | '\'' :: cs => some ⟨String.ofList (gap.folded ++ done).reverse, false, m.skip 1, cs⟩
  | '\r' :: '\n' :: cs => singleQuoted done (gap.addBreak '\n') (m.newLine 2) cs
  | c :: cs =>
    if m.column == 0 && startsDocumentMarker (c :: cs) then none
    else if isBreak c then singleQuoted done (gap.addBreak c) (m.newLine c.utf8Size) cs
    else if isBlank c then singleQuoted done (gap.addBlank c) (m.pass c) cs
    else singleQuoted (c :: (gap.folded ++ done)) {} (m.pass c) cs

def escape? : Char → Option Char
  | '0' => some '\x00'
  | 'a' => some '\x07'
  | 'b' => some '\x08'
  | 't' => some '\t'
  | '\t' => some '\t'
  | 'n' => some '\n'
  | 'v' => some '\x0b'
  | 'f' => some '\x0c'
  | 'r' => some '\r'
  | 'e' => some '\x1b'
  | ' ' => some ' '
  | '"' => some '"'
  | '/' => some '/'
  | '\\' => some '\\'
  | 'N' => some '\u0085'
  | '_' => some '\u00a0'
  | 'L' => some '\u2028'
  | 'P' => some '\u2029'
  | _ => none

def character? (n : Nat) : Option Char :=
  if n < 0xD800 || (0xDFFF < n && n ≤ 0x10FFFF) then some (Char.ofNat n) else none

def hexCharacter? (digits : List Char) : Option Char := do
  let values ← digits.mapM Json.hexDigit?
  character? (values.foldl (fun n d => 16 * n + d) 0)

/-- Reads a scalar in double quotes, in which a backslash begins an escape. -/
def doubleQuoted (done : List Char) (gap : Gap) (m : Mark) : List Char → Option Scanned
  | [] => none
  | '"' :: cs => some ⟨String.ofList (gap.folded ++ done).reverse, false, m.skip 1, cs⟩
  | '\r' :: '\n' :: cs => doubleQuoted done (gap.addBreak '\n') (m.newLine 2) cs
  | '\\' :: '\r' :: '\n' :: cs =>
    doubleQuoted (gap.folded ++ done) .escapedBreak ((m.skip 1).newLine 2) cs
  | '\\' :: 'x' :: a :: b :: cs =>
    match hexCharacter? [a, b] with
    | some e => doubleQuoted (e :: (gap.folded ++ done)) {} (m.skip 4) cs
    | none => none
  | '\\' :: 'u' :: a :: b :: c :: d :: cs =>
    match hexCharacter? [a, b, c, d] with
    | some e => doubleQuoted (e :: (gap.folded ++ done)) {} (m.skip 6) cs
    | none => none
  | '\\' :: 'U' :: a :: b :: c :: d :: e :: f :: g :: h :: cs =>
    match hexCharacter? [a, b, c, d, e, f, g, h] with
    | some e => doubleQuoted (e :: (gap.folded ++ done)) {} (m.skip 10) cs
    | none => none
  | '\\' :: c :: cs =>
    if isBreak c then
      doubleQuoted (gap.folded ++ done) .escapedBreak ((m.skip 1).newLine c.utf8Size) cs
    else
      match escape? c with
      | some e => doubleQuoted (e :: (gap.folded ++ done)) {} (m.skip 2) cs
      | none => none
  | c :: cs =>
    if m.column == 0 && startsDocumentMarker (c :: cs) then none
    else if isBreak c then doubleQuoted done (gap.addBreak c) (m.newLine c.utf8Size) cs
    else if isBlank c then doubleQuoted done (gap.addBlank c) (m.pass c) cs
    else doubleQuoted (c :: (gap.folded ++ done)) {} (m.pass c) cs

end Salvo.Yaml
