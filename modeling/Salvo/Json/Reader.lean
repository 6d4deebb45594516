import Salvo.Json.Token

/-!
# Reading JSON

`Json.parse?` builds a value from its tokens, one token at a time. Arrays and objects that are still
open wait on a stack, so values may be nested to any depth.
-/

namespace Salvo.Json

/-- An array or object that is still open; what it holds is in reverse. -/
inductive Frame where
  | items (done : List Json)
  /-- An object, and the key whose value is being read. It is `readable` as long as its keys are. -/
  | fields (done : List (String × Json)) (key : Option String) (readable : Bool)

namespace Frame

def add (value : Json) : Frame → Frame
  | items done => items (value :: done)
  | fields done (some key) readable => fields ((key, value) :: done) none readable
  | fields done none _ => fields done none false

def close : Frame → Json
  | items done => array done.reverse
  | fields done _ readable => if readable then object done.reverse else unreadable

end Frame

inductive Expected where
  | value
  /-- The first item of an array, or its end. -/
  | item
  /-- The first key of an object, or its end. -/
  | field
  | key
  | colon
  /-- A comma, or the end of what is open. -/
  | separator
deriving DecidableEq

/-- The state of reading: the frames that are open, the last complete value and what comes next. -/
structure Progress where
  frames : List Frame
  last : Json
  expected : Expected

namespace Progress

def complete (p : Progress) (value : Json) : Progress :=
  match p.frames with
  | [] => ⟨[], value, .separator⟩
  | frame :: frames => ⟨frame.add value :: frames, value, .separator⟩

def close (frame : Frame) (frames : List Frame) : Progress :=
  complete ⟨frames, null, .separator⟩ frame.close

def setKey (p : Progress) (key : Option String) : Option Progress :=
  match p.frames with
  | .fields done _ readable :: frames =>
    some ⟨.fields done key (readable && key.isSome) :: frames, p.last, .colon⟩
  | _ => none

def takesValue (p : Progress) : Bool := p.expected = .value || p.expected = .item

def takesKey (p : Progress) : Bool := p.expected = .key || p.expected = .field

def next? (p : Progress) : Token → Option Progress
  | .openArray =>
    if p.takesValue then some ⟨.items [] :: p.frames, p.last, .item⟩ else none
  | .openObject =>
    if p.takesValue then some ⟨.fields [] none true :: p.frames, p.last, .field⟩ else none
  | .closeArray =>
    match p.frames with
    | .items done :: frames =>
      if p.expected = .item || p.expected = .separator then some (close (.items done) frames)
      else none
    | _ => none
  | .closeObject =>
    match p.frames with
    | .fields done key readable :: frames =>
      if p.expected = .field || p.expected = .separator then
        some (close (.fields done key readable) frames)
      else none
    | _ => none
  | .colon => if p.expected = .colon then some { p with expected := .value } else none
  | .comma =>
    match p.expected, p.frames with
    | .separator, .items _ :: _ => some { p with expected := .value }
    | .separator, .fields .. :: _ => some { p with expected := .key }
    | _, _ => none
  | .string s =>
    if p.takesKey then p.setKey s
    else if p.takesValue then some (p.complete (match s with | some s => text s | none => unreadable))
    else none
  | .word value => if p.takesValue then some (p.complete value) else none

def result? (p : Progress) : Option Json :=
  if p.frames.isEmpty && p.expected = .separator then some p.last else none

end Progress

def parse? (s : String) : Option Json := do
  let tokens ← Token.ofText? s
  let p ← tokens.foldlM (fun p t => Progress.next? p t) ⟨[], null, .value⟩
  p.result?

end Salvo.Json
