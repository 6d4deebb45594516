import Salvo.Decimal.Binary
import Salvo.Decimal.Rounding

/-!
# Shortest decimals

Each double is the nearest one to a whole interval of reals. `shortest` finds the decimal with the
fewest digits in that interval, and of several the one nearest to the double itself. It tries one
digit, two digits and so on: on the grid of decimals with that many digits only the two neighbours
of the double can be its nearest member.
-/

namespace Salvo.Decimal

structure Digits where
  digits : Nat
  exponent : Int
deriving Repr, DecidableEq

def digitCount (n : Nat) : Nat :=
  if _h : n < 10 then 1 else digitCount (n / 10) + 1
termination_by n
decreasing_by omega

namespace Digits

/-- The same number without trailing zeros; at most `fuel` of them are taken away. -/
def strip : Nat → Digits → Digits
  | 0, d => d
  | fuel + 1, d =>
    if d.digits % 10 = 0 && d.digits ≠ 0 then strip fuel ⟨d.digits / 10, d.exponent + 1⟩ else d

/-- The number of digits before the decimal point; not positive for small fractions. -/
def point (d : Digits) : Int := digitCount d.digits + d.exponent

end Digits

def pointOf (num den : Nat) : Int :=
  if den ≤ num then digitCount (num / den)
  else 1 - (digitCount ((den + num - 1) / num - 1) : Int)

/-- The reals that round to a double, as a quotient with a common denominator. -/
structure Neighbourhood where
  low : Nat
  centre : Nat
  high : Nat
  den : Nat
  /-- The two ends belong to it. -/
  closed : Bool

namespace Neighbourhood

/-- The interval around the size of a double: half the way to each neighbour. -/
def ofBinary (b : Binary) : Neighbourhood :=
  let unit := Nat.pow 2 b.exponent.toNat
  { low := 4 * b.num - (if b.narrow then 1 else 2) * unit
    centre := 4 * b.num
    high := 4 * b.num + 2 * unit
    den := 4 * b.den
    closed := b.significand % 2 == 0 }

def inSteps (n : Neighbourhood) (exponent : Int) : Neighbourhood :=
  let up := Nat.pow 10 (-exponent).toNat
  { n with
    low := n.low * up
    centre := n.centre * up
    high := n.high * up
    den := n.den * Nat.pow 10 exponent.toNat }

def holds (n : Neighbourhood) (c : Nat) : Bool :=
  let v := c * n.den
  if n.closed then n.low ≤ v && v ≤ n.high else n.low < v && v < n.high

def nearest? (n : Neighbourhood) (tie : Tie) : Option Nat :=
  let lower := n.centre / n.den
  match n.holds lower, n.holds (lower + 1) with
  | true, true => some (roundDiv n.centre n.den tie)
  | true, false => some lower
  | false, true => some (lower + 1)
  | false, false => none

end Neighbourhood

/-- Tries grids of `count` digits and more; `fuel` bounds the attempts. -/
def shortestFrom (n : Neighbourhood) (tie : Tie) (point : Int) : Nat → Nat → Digits
  | 0, count => ⟨n.centre / n.den, point - count⟩
  | fuel + 1, count =>
    match (n.inSteps (point - count)).nearest? tie with
    | some d => Digits.strip 20 ⟨d, point - count⟩
    | none => shortestFrom n tie point fuel (count + 1)

/-- The shortest decimal that reads back as a size; seventeen digits always do. -/
def shortest (b : Binary) (tie : Tie) : Digits :=
  if b.significand = 0 then ⟨0, 0⟩
  else shortestFrom (Neighbourhood.ofBinary b) tie (pointOf b.num b.den) 17 1

end Salvo.Decimal
