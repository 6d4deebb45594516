import Salvo.Decimal.Reading
import Salvo.Json.Token

/-!
# Plain scalars

What a plain scalar stands for: nothing, a truth value, a whole number in one of four bases, a number
with a fraction or an exponent, or else its own text. Digits behind a leading zero are a text.
-/

namespace Salvo.Yaml

/-- What a plain scalar stands for. -/
inductive Plain where
  | null
  | bool (b : Bool)
  | int (n : Int)
  | float (x : Float)
  | text
  /-- A whole number of more than 64 bits, but not more than 128. -/
  | tooLong

def isNullWord (s : String) : Bool := s == "~" || s == "null" || s == "Null" || s == "NULL"

def bool? (s : String) : Option Bool :=
  if s == "true" || s == "True" || s == "TRUE" then some true
  else if s == "false" || s == "False" || s == "FALSE" then some false
  else none

/-- The value of a nonempty run of digits in a base up to sixteen. -/
def digitsIn? (base : Nat) (cs : List Char) : Option Nat := do
  guard (!cs.isEmpty)
  let values ← cs.mapM Json.hexDigit?
  guard (values.all (· < base))
  return values.foldl (fun n d => base * n + d) 0

def dropSign : List Char → List Char
  | '-' :: cs => cs
  | cs => Text.dropPlus cs

def isZeroPadded (cs : List Char) : Bool :=
  match dropSign cs with
  | '0' :: c :: cs => (c :: cs).all Char.isDigit
  | _ => false

/-- The digits of a whole number without its sign, in the base that they begin with. -/
def magnitude? : List Char → Option Nat
  | '0' :: 'x' :: cs => digitsIn? 16 cs
  | '0' :: 'o' :: cs => digitsIn? 8 cs
  | '0' :: 'b' :: cs => digitsIn? 2 cs
  | cs => if isZeroPadded cs then none else digitsIn? 10 cs

def whole? : List Char → Option Int
  | '-' :: cs => (magnitude? cs).map fun n => -(n : Int)
  | cs => (magnitude? (Text.dropPlus cs)).map Int.ofNat

def exponent? : List Char → Option Int
  | [] => some 0
  | mark :: cs => if mark = 'e' || mark = 'E' then Json.exponent? cs else none

def unsignedFloat? (cs : List Char) : Option Float := do
  let whole := cs.takeWhile Char.isDigit
  let rest := cs.dropWhile Char.isDigit
  let (fraction, tail) := match rest with
    | '.' :: ds => (ds.takeWhile Char.isDigit, ds.dropWhile Char.isDigit)
    | ds => ([], ds)
  guard (!(whole ++ fraction).isEmpty)
  let exponent ← exponent? tail
  let x := Decimal.nearest (Text.digitsValue 0 (whole ++ fraction)) (exponent - fraction.length)
  guard x.isFinite
  return x

/-- A number with a fraction or an exponent, or one of the words for what is none. -/
def float? (s : String) : Option Float :=
  if s == ".nan" || s == ".NaN" || s == ".NAN" then some (0.0 / 0.0)
  else
    match s.toList with
    | '-' :: cs => (size? cs).map fun x => -x
    | cs => size? (Text.dropPlus cs)
where
  /-- A number without its sign. -/
  size? (cs : List Char) : Option Float :=
    if cs == ".inf".toList || cs == ".Inf".toList || cs == ".INF".toList then some (1.0 / 0.0)
    else unsignedFloat? cs

/-- The number is at least `-2 ^ low` and less than `2 ^ high`. -/
def fits (low high : Nat) (n : Int) : Bool :=
  -(Nat.pow 2 low : Int) ≤ n && n < (Nat.pow 2 high : Int)

def resolve (s : String) : Plain :=
  if s.isEmpty || isNullWord s then .null
  else
    match bool? s with
    | some b => .bool b
    | none =>
      match whole? s.toList with
      | some n =>
        if fits 63 64 n then .int n
        else if fits 127 128 n then .tooLong
        else
          match float? s with
          | some x => .float x
          | none => .text
      | none =>
        if isZeroPadded s.toList then .text
        else
          match float? s with
          | some x => .float x
          | none => .text

end Salvo.Yaml
