import Salvo.Json.Basic
import Salvo.Profile.Stat
import Salvo.Yaml.Node
import Salvo.Yaml.Plain

/-!
# Data formats

Records are read in the same way from JSON and from YAML. `DataFormat` says how the parts of a record
are told in a format; where a value does not have the wanted shape there is no result.
-/

namespace Salvo

/-- The names of a field: its own name first, then other names for it. -/
abbrev FieldNames := List String

/-- Values that records can be read from. -/
class DataFormat (ν : Type) where
  /-- The values of the fields of a record. A field may be missing but not be given twice. -/
  fields? : List FieldNames → ν → Option (List (Option ν))
  items? : ν → Option (List ν)
  bool? : ν → Option Bool
  /-- A natural number of 64 bits. -/
  nat? : ν → Option Nat
  text? : ν → Option String
  stat? : ν → Option Stat
  /-- The name of an alternative. -/
  choice? : ν → Option String
  /-- The value stands for no value. -/
  isNull : ν → Bool

def maxWord : Nat := 18446744073709551615

def pickField? {ν : Type} (fields : List (String × ν)) (names : FieldNames) :
    Option (Option ν) :=
  match fields.filter fun f => names.contains f.1 with
  | [] => some none
  | [f] => some (some f.2)
  | _ => none

def pickFields? {ν : Type} (names : List FieldNames) (fields : List (String × ν)) :
    Option (List (Option ν)) :=
  names.mapM (pickField? fields)

/-- The values of fields that are told apart by their order; the last ones may be missing. -/
def pickPositions? {ν : Type} (names : List FieldNames) (items : List ν) :
    Option (List (Option ν)) :=
  if items.length ≤ names.length then
    some (items.map some ++ List.replicate (names.length - items.length) none)
  else none

/-- In JSON a record may be an array, and an alternative an object with one field. -/
instance : DataFormat Json where
  fields? names
    | .object fields => pickFields? names fields
    | .array items => pickPositions? names items
    | _ => none
  items?
    | .array items => some items
    | _ => none
  bool?
    | .bool b => some b
    | _ => none
  nat?
    | .int n => if 0 ≤ n then some n.toNat else none
    | _ => none
  text?
    | .text s => some s
    | _ => none
  stat?
    | .int n => some (if n ≤ maxLong then .int n else .float (Float.ofInt n))
    | .float x => some (.float x)
    | .text s => some (.text s)
    | _ => none
  choice?
    | .text s => some s
    | .object [(s, .null)] => some s
    | _ => none
  isNull
    | .null => true
    | _ => false

namespace Yaml

def isMissing : Yaml → Bool
  | scalar s isPlain => isPlain && s.isEmpty
  | _ => false

def scalarText? : Yaml → Option String
  | scalar s _ => some s
  | _ => none

def plainText? : Yaml → Option String
  | scalar s true => some s
  | _ => none

end Yaml

/-- In YAML a record or a sequence may be left out. A text may be any scalar, also one that would
stand for something else. -/
instance : DataFormat Yaml where
  fields? names v :=
    match v with
    | .mapping fields => do
      let fields ← fields.mapM fun f => (f.1.scalarText?).map (·, f.2)
      pickFields? names fields
    | v => if v.isMissing then some (names.map fun _ => none) else none
  items? v :=
    match v with
    | .sequence items => some items
    | v => if v.isMissing then some [] else none
  bool? v := v.plainText?.bind Yaml.bool?
  nat? v := do
    let n ← Yaml.magnitude? (Text.dropPlus (← v.plainText?).toList)
    guard (n ≤ maxWord)
    return n
  text? v := v.scalarText?
  stat?
    | .scalar s false => some (.text s)
    | .scalar s true =>
      match Yaml.resolve s with
      | .int n => some (if n ≤ maxLong then .int n else .float (Float.ofInt n))
      | .float x => some (.float x)
      | .text => some (.text s)
      | _ => none
    | _ => none
  choice? v := v.scalarText?
  isNull v :=
    match v.plainText? with
    | some s => s.isEmpty || Yaml.isNullWord s
    | none => false

namespace DataFormat

variable {ν α : Type} [DataFormat ν]

def nullable? (read : ν → Option α) (v : ν) : Option (Option α) :=
  if isNull v then some none else (read v).map some

def optional? (read : ν → Option α) : Option ν → Option (Option α)
  | none => some none
  | some v => nullable? read v

def withDefault? (default : α) (read : ν → Option α) : Option ν → Option α
  | none => some default
  | some v => read v

def list? (read : ν → Option α) (v : ν) : Option (List α) := do
  (← items? v).mapM read

def oneOf? (alternatives : List (String × α)) (v : ν) : Option α := do
  let name ← choice? v
  (alternatives.find? fun a => a.1 == name).map (·.2)

end DataFormat

end Salvo
