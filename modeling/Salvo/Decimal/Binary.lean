/-!
# Doubles as exact fractions

A finite double is a sign and a significand times a power of two. `Binary.ofFloat?` takes a double
apart; everything that prints a double works on the parts in exact arithmetic.
-/

namespace Salvo.Decimal

/-- The size of a finite double, `significand · 2 ^ exponent`. A size is `narrow` if the next
smaller double is nearer than the next larger one. -/
structure Binary where
  significand : Nat
  exponent : Int
  narrow : Bool
deriving Repr, DecidableEq

def signBit (x : Float) : Bool := x.toBits ≥ 0x8000000000000000

namespace Binary

/-- The leading bit of a significand; a double does not store it. -/
def hiddenBit : Nat := 4503599627370496

def ofFloat? (x : Float) : Option Binary :=
  let bits := x.toBits.toNat
  let fraction : Nat := bits % hiddenBit
  let power : Nat := bits / hiddenBit % 2048
  if power = 2047 then none
  else if power = 0 then some ⟨fraction, -1074, false⟩
  else some ⟨hiddenBit + fraction, power - 1075, fraction == 0 && power != 1⟩

def num (b : Binary) : Nat := b.significand * Nat.pow 2 b.exponent.toNat

def den (b : Binary) : Nat := Nat.pow 2 (-b.exponent).toNat

end Binary

def wholeValue? (x : Float) : Option Int := do
  let b ← Binary.ofFloat? x
  guard (b.num % b.den == 0)
  let n := Int.ofNat (b.num / b.den)
  return if signBit x then -n else n

end Salvo.Decimal
