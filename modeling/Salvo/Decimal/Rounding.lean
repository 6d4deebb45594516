/-!
# Rounding a quotient

`roundDiv` is the integer nearest to a quotient; a `Tie` decides which neighbour wins halfway.
-/

namespace Salvo.Decimal

/-- Which neighbour wins when both are equally near. -/
inductive Tie where
  | toEven
  | up
deriving Repr, DecidableEq

def Tie.keepsLower (tie : Tie) (lower : Nat) : Bool :=
  match tie with
  | .toEven => lower % 2 == 0
  | .up => false

def roundDiv (num den : Nat) (tie : Tie) : Nat :=
  let lower := num / den
  let twice := 2 * (num % den)
  if twice < den || (twice == den && tie.keepsLower lower) then lower else lower + 1

end Salvo.Decimal
