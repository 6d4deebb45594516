import Salvo.Yaml.Scalar

/-!
# The tokens of a YAML text

Outside of brackets the nesting of a YAML text is given by its indentation. `Token.ofText?` turns it
into tokens: each block begins with a token of its own and ends with `blockEnd`. That a scalar is a
key only shows at the colon behind it, so the tokens in front of a key are added afterwards.
-/

namespace Salvo.Yaml

inductive Token where
  | documentStart
  | documentEnd
  | blockSequence
  | blockMapping
  | blockEnd
  | flowSequence
  | flowSequenceEnd
  | flowMapping
  | flowMappingEnd
  | blockEntry
  | flowEntry
  | key
  | value
  /-- A scalar, and whether it is plain. -/
  | scalar (text : String) (isPlain : Bool)
deriving DecidableEq, Repr

/-- The place of a token that turns out to be a key if a colon follows it. -/
structure KeyPlace where
  /-- The number of tokens in front of it. -/
  token : Nat
  mark : Mark
  /-- Where it stands there can only be a key. -/
  required : Bool

/-- The tokens so far and what decides about the next ones. -/
structure Layout where
  tokens : Array Token := #[]
  /-- The column of the innermost block; negative outside of blocks. -/
  indent : Int := -1
  /-- The columns of the blocks around it. -/
  outer : List Int := []
  /-- A key may begin here. -/
  keyAllowed : Bool := true
  /-- The possible key outside of brackets or in the innermost ones. -/
  place : Option KeyPlace := none
  /-- The possible keys outside of each pair of brackets that is open. -/
  outerPlaces : List (Option KeyPlace) := []

namespace Layout

def inFlow (l : Layout) : Bool := !l.outerPlaces.isEmpty

def push (l : Layout) (t : Token) : Layout := { l with tokens := l.tokens.push t }

/-- A key has to end on its line and within 1024 bytes. -/
def isStale (m : Mark) (p : KeyPlace) : Bool := p.mark.line < m.line || p.mark.index + 1024 < m.index

/-- Gives up a possible key that has become too long, unless there can only be a key. -/
def expirePlace (m : Mark) : Option KeyPlace → Option (Option KeyPlace)
  | some p => if isStale m p then (if p.required then none else some none) else some (some p)
  | none => some none

def expire (l : Layout) (m : Mark) : Option Layout := do
  let place ← expirePlace m l.place
  let outerPlaces ← l.outerPlaces.mapM (expirePlace m)
  return { l with place, outerPlaces }

def dropKey (l : Layout) : Option Layout :=
  match l.place with
  | some p => if p.required then none else some { l with place := none }
  | none => some l

def saveKey (l : Layout) (m : Mark) : Option Layout :=
  if l.keyAllowed then do
    let l ← l.dropKey
    return { l with place := some ⟨l.tokens.size, m, !l.inFlow && l.indent == m.column⟩ }
  else some l

/-- Begins a block at a column that is further in than the last one. -/
def indentTo (l : Layout) (column index : Nat) (block : Token) : Layout :=
  if l.inFlow || (column : Int) ≤ l.indent then l
  else
    { l with
      indent := column
      outer := l.indent :: l.outer
      tokens := l.tokens.insertIdxIfInBounds index block }

def unindentFrom (column : Int) (tokens : Array Token) (indent : Int) :
    List Int → Array Token × Int × List Int
  | [] => (tokens, indent, [])
  | i :: outer =>
    if column < indent then unindentFrom column (tokens.push .blockEnd) i outer
    else (tokens, indent, i :: outer)

/-- Ends all blocks that are further in than a column; within brackets columns do not count. -/
def unindent (l : Layout) (column : Int) : Layout :=
  if l.inFlow then l
  else
    let (tokens, indent, outer) := unindentFrom column l.tokens l.indent l.outer
    { l with tokens, indent, outer }

def finish (l : Layout) : Option (Array Token) := do
  let l ← (l.unindent (-1)).dropKey
  return l.tokens

def documentMarker (l : Layout) (t : Token) : Option Layout := do
  let l ← (l.unindent (-1)).dropKey
  return { l with keyAllowed := false }.push t

def openFlow (l : Layout) (m : Mark) (t : Token) : Option Layout := do
  let l ← l.saveKey m
  return { l with outerPlaces := l.place :: l.outerPlaces, place := none, keyAllowed := true }.push t

def closeFlow (l : Layout) (t : Token) : Option Layout := do
  let l ← l.dropKey
  let l := match l.outerPlaces with
    | [] => { l with place := none }
    | p :: ps => { l with place := p, outerPlaces := ps }
  return { l with keyAllowed := false }.push t

def flowEntry (l : Layout) : Option Layout := do
  let l ← l.dropKey
  return { l with keyAllowed := true }.push .flowEntry

def blockEntry (l : Layout) (m : Mark) : Option Layout := do
  guard (l.inFlow || l.keyAllowed)
  let l ← (l.indentTo m.column l.tokens.size .blockSequence).dropKey
  return { l with keyAllowed := true }.push .blockEntry

def explicitKey (l : Layout) (m : Mark) : Option Layout := do
  guard (l.inFlow || l.keyAllowed)
  let l ← (l.indentTo m.column l.tokens.size .blockMapping).dropKey
  return { l with keyAllowed := !l.inFlow }.push .key

/-- A colon: what stands in front of it becomes a key if it may be one. -/
def colon (l : Layout) (m : Mark) : Option Layout :=
  match l.place with
  | some p =>
    let l := { l with tokens := l.tokens.insertIdxIfInBounds p.token .key, place := none }
    let l := l.indentTo p.mark.column p.token .blockMapping
    some ({ l with keyAllowed := false }.push .value)
  | none => do
    guard (l.inFlow || l.keyAllowed)
    let l := l.indentTo m.column l.tokens.size .blockMapping
    return { l with keyAllowed := !l.inFlow }.push .value

def scalar (l : Layout) (m : Mark) (s : Scanned) (isPlain : Bool) : Option Layout := do
  let l ← l.saveKey m
  return { l with keyAllowed := s.broken }.push (.scalar s.text isPlain)

end Layout

def isIndicator (c : Char) : Bool :=
  c == '-' || c == '?' || c == ':' || c == ',' || c == '[' || c == ']' || c == '\x7b' ||
    c == '\x7d' || c == '#' || c == '&' || c == '*' || c == '!' || c == '|' || c == '>' ||
    c == '\'' || c == '"' || c == '%' || c == '@' || c == '\x60'

def beginsPlain (inFlow : Bool) (c : Char) (cs : List Char) : Bool :=
  !(isIndicator c || isBlank c) ||
    (c == '-' && !(cs.head?.any isBlank)) ||
    (!inFlow && (c == '?' || c == ':') && !endsWord cs)

def skipComment (m : Mark) : List Char → Mark × List Char
  | [] => (m, [])
  | c :: cs => if isBreak c then (m, c :: cs) else skipComment (m.pass c) cs

/-- Passes over blanks and line breaks. At the beginning of a line, where a key may begin, a tab is not
passed over. A byte order mark at the beginning of a line takes up a column. -/
def skipSpace (l : Layout) (m : Mark) : List Char → Layout × Mark × List Char
  | [] => (l, m, [])
  | '\r' :: '\n' :: cs => skipSpace { l with keyAllowed := l.keyAllowed || !l.inFlow } (m.newLine 2) cs
  | c :: cs =>
    if isBreak c then
      skipSpace { l with keyAllowed := l.keyAllowed || !l.inFlow } (m.newLine c.utf8Size) cs
    else if c == ' ' || (c == '\t' && (l.inFlow || !l.keyAllowed)) ||
        (c == '\ufeff' && m.column == 0) then skipSpace l (m.pass c) cs
    else (l, m, c :: cs)

def skipTo (l : Layout) (m : Mark) : Nat → List Char → Layout × Mark × List Char
  | 0, cs => (l, m, cs)
  | fuel + 1, cs =>
    match skipSpace l m cs with
    | (l, m, '#' :: cs) =>
      let (m, cs) := skipComment m cs
      skipTo l m fuel cs
    | r => r

def afterScalar (l : Layout) (m : Mark) (isPlain : Bool) (s : Option Scanned) :
    Option (Layout × Mark × List Char) := do
  let s ← s
  return (← l.scalar m s isPlain, s.mark, s.rest)

def readToken (l : Layout) (m : Mark) (c : Char) (cs : List Char) :
    Option (Layout × Mark × List Char) :=
  let after (l : Option Layout) := l.map fun l => (l, m.skip 1, cs)
  if m.column == 0 && startsMarker '-' (c :: cs) then
    (l.documentMarker .documentStart).map fun l => (l, m.skip 3, cs.drop 2)
  else if m.column == 0 && startsMarker '.' (c :: cs) then
    (l.documentMarker .documentEnd).map fun l => (l, m.skip 3, cs.drop 2)
  else if c == '[' then after (l.openFlow m .flowSequence)
  else if c == '\x7b' then after (l.openFlow m .flowMapping)
  else if c == ']' then after (l.closeFlow .flowSequenceEnd)
  else if c == '\x7d' then after (l.closeFlow .flowMappingEnd)
  else if c == ',' then after l.flowEntry
  else if c == '-' && endsWord cs then after (l.blockEntry m)
  else if c == '?' && (l.inFlow || endsWord cs) then after (l.explicitKey m)
  else if c == ':' && (l.inFlow || endsWord cs) then after (l.colon m)
  else if c == '\'' then afterScalar l m false (singleQuoted [] {} (m.skip 1) cs)
  else if c == '"' then afterScalar l m false (doubleQuoted [] {} (m.skip 1) cs)
  else if beginsPlain l.inFlow c cs then
    afterScalar l m true (plain l.inFlow (l.indent + 1) [] {} m (c :: cs))
  else none

/-- Reads the rest of a text; each token takes at least one character. -/
def readTokens (l : Layout) (m : Mark) : Nat → List Char → Option (Array Token)
  | 0, _ => none
  | fuel + 1, cs =>
    match skipTo l m (cs.length + 1) cs with
    | (l, m, []) => do
      let l ← l.expire m
      l.finish
    | (l, m, c :: cs) => do
      let l ← l.expire m
      let (l, m, cs) ← readToken (l.unindent m.column) m c cs
      readTokens l m fuel cs

def Token.ofText? (s : String) : Option (Array Token) :=
  let cs := s.toList
  if cs.all isAllowed then readTokens {} {} (cs.length + 1) cs else none

end Salvo.Yaml
