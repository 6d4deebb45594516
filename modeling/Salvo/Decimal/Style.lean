import Salvo.Decimal.Shortest
import Salvo.Text.Number

/-!
# The text of a double

A `Style` fixes how the shortest digits of a double are laid out. `fixedText` prints a given number
of places instead.
-/

namespace Salvo.Decimal

/-- How the digits of a double are written. -/
structure Style where
  /-- Which digits are taken when two shortest decimals are equally near. -/
  tie : Tie
  /-- Numbers are written with an exponent unless `lowest < point ≤ highest`; with no window they
  never are. -/
  window : Option (Int × Int)
  /-- A whole number ends in `.0`. -/
  keepsPoint : Bool
  /-- An exponent that is not negative has a plus sign. -/
  signsExponent : Bool

/-- Numbers of data formats: an exponent below `1e-5` and from `1e16` on, a fraction always. -/
def dataStyle : Style := ⟨.toEven, some (-5, 16), true, false⟩

/-- Numbers of JSON: those of data formats, with a sign for every exponent. -/
def jsonStyle : Style := { dataStyle with signsExponent := true }

/-- Numbers of messages and tables: never an exponent, no empty fraction. -/
def plainStyle : Style := ⟨.up, none, false, false⟩

def positional (d : Digits) (keepsPoint : Bool) : List Char :=
  let cs := Text.natText d.digits
  let point := d.point
  if point ≤ 0 then '0' :: '.' :: (List.replicate (-point).toNat '0' ++ cs)
  else if cs.length ≤ point then
    cs ++ List.replicate (point.toNat - cs.length) '0' ++ (if keepsPoint then ['.', '0'] else [])
  else cs.take point.toNat ++ '.' :: cs.drop point.toNat

def scientific (d : Digits) (signsExponent : Bool) : List Char :=
  let exponent := d.point - 1
  let power :=
    'e' :: ((if signsExponent && 0 ≤ exponent then ['+'] else []) ++ Text.intText exponent)
  match Text.natText d.digits with
  | [] => power
  | [c] => c :: power
  | c :: cs => c :: '.' :: cs ++ power

namespace Style

def digitsText (s : Style) (d : Digits) : List Char :=
  if d.digits = 0 then (if s.keepsPoint then ['0', '.', '0'] else ['0'])
  else
    match s.window with
    | none => positional d s.keepsPoint
    | some (lowest, highest) =>
      if lowest < d.point && d.point ≤ highest then positional d s.keepsPoint
      else scientific d s.signsExponent

def text (s : Style) (x : Float) : String :=
  match Binary.ofFloat? x with
  | some b =>
    let body := s.digitsText (shortest b s.tie)
    String.ofList (if signBit x then '-' :: body else body)
  | none => if x.isNaN then "NaN" else if signBit x then "-inf" else "inf"

end Style

/-- The text of a double rounded to a number of places; ties go to the even digit. -/
def fixedText (places : Nat) (x : Float) : String :=
  match Binary.ofFloat? x with
  | some b =>
    let n := roundDiv (b.num * Nat.pow 10 places) b.den .toEven
    let cs := Text.natText n
    let cs := List.replicate (places + 1 - cs.length) '0' ++ cs
    let whole := cs.length - places
    let body := cs.take whole ++ '.' :: cs.drop whole
    String.ofList (if signBit x then '-' :: body else body)
  | none => if x.isNaN then "NaN" else if signBit x then "-inf" else "inf"

end Salvo.Decimal
