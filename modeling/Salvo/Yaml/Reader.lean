import Salvo.Yaml.Node
import Salvo.Yaml.Token

/-!
# Reading YAML

`Yaml.parse?` builds the value of a text with at most one document. Each reader takes the tokens that
are left and returns a value and the tokens behind it; it looks one token ahead to see whether a key,
a value or an item is there at all.
-/

namespace Salvo.Yaml

/-- A value, and the tokens behind it. -/
abbrev Reading (α : Type) := Option (α × List Token)

/-- The token ends a value of a block mapping, or stands in place of one. -/
def endsBlockValue : List Token → Bool
  | .key :: _ => true
  | .value :: _ => true
  | .blockEnd :: _ => true
  | _ => false

/-- The token ends an item of a block sequence, or stands in place of one. -/
def endsBlockItem : List Token → Bool
  | .blockEntry :: _ => true
  | .blockEnd :: _ => true
  | _ => false

/-- The token ends a value within brackets that close with `close`. -/
def endsFlowValue (close : Token) : List Token → Bool
  | .flowEntry :: _ => true
  | t :: _ => t == close
  | [] => false

/-- The token ends a key within brackets that close with `close`. -/
def endsFlowKey (close : Token) : List Token → Bool
  | .value :: _ => true
  | ts => endsFlowValue close ts

mutual

/-- Reads a value. In a block, blocks may begin; as a value of a mapping, a sequence need not be
indented. -/
def readNode (inBlock mayBeFlush : Bool) : Nat → List Token → Reading Yaml
  | 0, _ => none
  | fuel + 1, ts =>
    match ts with
    | .scalar text isPlain :: ts => some (.scalar text isPlain, ts)
    | .flowSequence :: ts => readFlowItems true [] fuel ts
    | .flowMapping :: ts => readFlowFields true [] fuel ts
    | .blockEntry :: _ => if mayBeFlush then readFlushItems [] fuel ts else none
    | .blockSequence :: ts => if inBlock then readItems [] fuel ts else none
    | .blockMapping :: ts => if inBlock then readFields [] fuel ts else none
    | _ => none

def readItems (done : List Yaml) : Nat → List Token → Reading Yaml
  | 0, _ => none
  | fuel + 1, ts =>
    match ts with
    | .blockEntry :: ts =>
      if endsBlockItem ts then readItems (nothing :: done) fuel ts
      else
        match readNode true false fuel ts with
        | some (item, ts) => readItems (item :: done) fuel ts
        | none => none
    | .blockEnd :: ts => some (.sequence done.reverse, ts)
    | _ => none

def readFlushItems (done : List Yaml) : Nat → List Token → Reading Yaml
  | 0, _ => none
  | fuel + 1, ts =>
    match ts with
    | .blockEntry :: ts =>
      if endsBlockItem ts || endsBlockValue ts then readFlushItems (nothing :: done) fuel ts
      else
        match readNode true false fuel ts with
        | some (item, ts) => readFlushItems (item :: done) fuel ts
        | none => none
    | ts => some (.sequence done.reverse, ts)

/-- Reads the key or the value of a block mapping, which may be missing. -/
def readPart : Nat → List Token → Reading Yaml
  | 0, _ => none
  | fuel + 1, ts => if endsBlockValue ts then some (nothing, ts) else readNode true true fuel ts

def readFields (done : List (Yaml × Yaml)) : Nat → List Token → Reading Yaml
  | 0, _ => none
  | fuel + 1, ts =>
    match ts with
    | .key :: ts =>
      match readPart fuel ts with
      | some (key, .value :: ts) =>
        match readPart fuel ts with
        | some (value, ts) => readFields ((key, value) :: done) fuel ts
        | none => none
      | some (key, ts) => readFields ((key, nothing) :: done) fuel ts
      | none => none
    | .blockEnd :: ts => some (.mapping done.reverse, ts)
    | _ => none

/-- Reads the key behind a question mark within brackets that close with `close`; it may be missing.
In a sequence a missing key takes up the token that stands in its place, so that `[? ,, a]` has two
items, while `[? ]` is left open. -/
def readFlowKey (close : Token) : Nat → List Token → Reading Yaml
  | 0, _ => none
  | fuel + 1, ts =>
    if endsFlowKey close ts then some (nothing, if close = .flowSequenceEnd then ts.tail else ts)
    else readNode false false fuel ts

/-- Reads a value within brackets that close with `close`; it may be missing. -/
def readFlowValue (close : Token) : Nat → List Token → Reading Yaml
  | 0, _ => none
  | fuel + 1, ts =>
    if endsFlowValue close ts then some (nothing, ts) else readNode false false fuel ts

/-- Reads a key and its value within brackets that close with `close`. -/
def readFlowPair (close : Token) : Nat → List Token → Reading (Yaml × Yaml)
  | 0, _ => none
  | fuel + 1, ts =>
    match readFlowKey close fuel ts with
    | some (key, .value :: ts) =>
      match readFlowValue close fuel ts with
      | some (value, ts) => some ((key, value), ts)
      | none => none
    | some (key, ts) => some ((key, nothing), ts)
    | none => none

/-- Reads the items of a sequence in brackets. Behind the first one, a comma comes first. -/
def readFlowItems (isFirst : Bool) (done : List Yaml) : Nat → List Token → Reading Yaml
  | 0, _ => none
  | fuel + 1, ts =>
    match ts, isFirst with
    | .flowSequenceEnd :: ts, _ => some (.sequence done.reverse, ts)
    | ts, true => readFlowItem done fuel ts
    | .flowEntry :: .flowSequenceEnd :: ts, false => some (.sequence done.reverse, ts)
    | .flowEntry :: ts, false => readFlowItem done fuel ts
    | _, false => none

/-- Reads an item of a sequence in brackets; a single key and value form a mapping. -/
def readFlowItem (done : List Yaml) : Nat → List Token → Reading Yaml
  | 0, _ => none
  | fuel + 1, ts =>
    match ts with
    | .key :: ts =>
      match readFlowPair .flowSequenceEnd fuel ts with
      | some (field, ts) => readFlowItems false (.mapping [field] :: done) fuel ts
      | none => none
    | ts =>
      match readNode false false fuel ts with
      | some (item, ts) => readFlowItems false (item :: done) fuel ts
      | none => none

/-- Reads the fields of a mapping in brackets. Behind the first one, a comma comes first. -/
def readFlowFields (isFirst : Bool) (done : List (Yaml × Yaml)) : Nat → List Token → Reading Yaml
  | 0, _ => none
  | fuel + 1, ts =>
    match ts, isFirst with
    | .flowMappingEnd :: ts, _ => some (.mapping done.reverse, ts)
    | ts, true => readFlowField done fuel ts
    | .flowEntry :: .flowMappingEnd :: ts, false => some (.mapping done.reverse, ts)
    | .flowEntry :: ts, false => readFlowField done fuel ts
    | _, false => none

/-- Reads a field of a mapping in brackets; a key may stand alone. -/
def readFlowField (done : List (Yaml × Yaml)) : Nat → List Token → Reading Yaml
  | 0, _ => none
  | fuel + 1, ts =>
    match ts with
    | .key :: ts =>
      match readFlowPair .flowMappingEnd fuel ts with
      | some (field, ts) => readFlowFields false (field :: done) fuel ts
      | none => none
    | ts =>
      match readNode false false fuel ts with
      | some (key, ts) => readFlowFields false ((key, nothing) :: done) fuel ts
      | none => none

end

/-- The tokens behind the only document of a text. -/
def endsText : List Token → Bool
  | [] => true
  | .documentEnd :: ts => endsText ts
  | _ => false

/-- Reads the value of a document, which may be missing. Each token is looked at by four readers at
most. -/
def readDocument (ts : List Token) : Reading Yaml :=
  match ts with
  | [] => some (nothing, [])
  | .documentStart :: _ => some (nothing, ts)
  | .documentEnd :: _ => some (nothing, ts)
  | ts => readNode true false (4 * ts.length + 4) ts

/-- The value of a text. A text without a document has the value of an empty one. -/
def parse? (s : String) : Option Yaml := do
  let tokens ← Token.ofText? s
  let (value, rest) ←
    match tokens.toList with
    | .documentStart :: ts => readDocument ts
    | .documentEnd :: _ => none
    | ts => readDocument ts
  guard (endsText rest)
  return value

end Salvo.Yaml
