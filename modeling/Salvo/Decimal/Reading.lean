/-!
# Doubles from decimals

Two ways from a decimal to a double. `nearest` rounds the exact value once. `scaled` first rounds the
significand and then scales it by a power of ten, which is quicker and may differ in the last bit.
-/

namespace Salvo.Decimal

/-- The double nearest to `significand · 10 ^ exponent`. Decimals far beyond the range of doubles are
not written out: they are infinite or zero at once. -/
def nearest (significand : Nat) (exponent : Int) : Float :=
  let magnitude : Int := (significand.log2 : Int) / 4 + exponent
  if significand = 0 then 0.0
  else if 400 < magnitude then 1.0 / 0.0
  else if magnitude + (significand.log2 : Int) < -800 then 0.0
  else Float.ofScientific significand (exponent < 0) exponent.natAbs

/-- The power of ten, for exponents up to 308. -/
def powerOfTen (exponent : Nat) : Float := Float.ofScientific 1 false exponent

/-- Scales by `10 ^ exponent` in one step, after steps of `10 ^ -308` as long as the exponent is
below that; `none` if the result is too large. -/
def scale : Nat → Float → Int → Option Float
  | 0, x, _ => some x
  | fuel + 1, x, exponent =>
    if x == 0.0 then some x
    else if exponent < -308 then scale fuel (x / powerOfTen 308) (exponent + 308)
    else if exponent < 0 then some (x / powerOfTen exponent.natAbs)
    else if 308 < exponent then none
    else
      let y := x * powerOfTen exponent.natAbs
      if y.isInf then none else some y

/-- The rounded significand times `10 ^ exponent`, rounded again; `none` if it is too large. Three
long steps take any significand of 64 bits to zero. -/
def scaled (significand : Nat) (exponent : Int) : Option Float :=
  scale 8 (Float.ofNat significand) exponent

end Salvo.Decimal
