/-!
# JSON values

`Json` keeps what a text says: the fields of an object stay in their order and may repeat, and a
whole number is told apart from one with a fraction or an exponent.
-/

namespace Salvo

inductive Json where
  | null
  | bool (b : Bool)
  /-- A whole number of at most 64 bits. -/
  | int (n : Int)
  | float (x : Float)
  | text (s : String)
  | array (items : List Json)
  | object (fields : List (String × Json))
  /-- A value that is well formed but stands for nothing: a number beyond the range of doubles, a
  text with half a surrogate pair, or an object with such a text as a key. -/
  | unreadable
deriving Inhabited

namespace Json

def field? (key : String) : Json → Option Json
  | object fields => (fields.reverse.find? (·.1 == key)).map (·.2)
  | _ => none

def setField (key : String) (value : Json) : List (String × Json) → List (String × Json)
  | [] => [(key, value)]
  | (k, v) :: fields =>
    if key < k then (key, value) :: (k, v) :: fields
    else if key = k then (key, value) :: fields
    else (k, v) :: setField key value fields

mutual

/-- The value with the fields of every object in the order of their keys. Of a repeated key the last
value stays. -/
def sorted : Json → Json
  | array items => array (sortedItems items)
  | object fields => object (sortedFields [] fields)
  | value => value

def sortedItems : List Json → List Json
  | [] => []
  | item :: items => item.sorted :: sortedItems items

def sortedFields (done : List (String × Json)) : List (String × Json) → List (String × Json)
  | [] => done
  | (key, value) :: fields => sortedFields (setField key value.sorted done) fields

end

end Json

end Salvo
