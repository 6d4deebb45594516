import Salvo.Dice.Source

/-!
# The seeded generator

A generator walks through all 64-bit words in steps of an odd constant and scrambles each one. Equal
seeds give equal faces. A word is scaled down to a face: the words are divided among the faces in
order, in parts that differ by at most one word.
-/

namespace Salvo

structure Generator where
  state : UInt64
deriving DecidableEq, Repr

namespace Generator

def increment : UInt64 := 0x9e3779b97f4a7c15

def ofSeed (seed : UInt64) : Generator := ⟨seed⟩

def scramble (x : UInt64) : UInt64 :=
  let y := (x ^^^ (x >>> 30)) * 0xbf58476d1ce4e5b9
  let z := (y ^^^ (y >>> 27)) * 0x94d049bb133111eb
  z ^^^ (z >>> 31)

def advance (g : Generator) : Generator := ⟨g.state + increment⟩

def next (g : Generator) : UInt64 := scramble g.advance.state

def wordCount : Nat := 18446744073709551616

def face (sides : Nat) (word : UInt64) : Nat := word.toNat * sides / wordCount + 1

/-- A die without sides shows nothing and takes no word. -/
instance : DiceSource Generator where
  roll sides := fun g => if sides = 0 then (0, g) else (face sides g.next, g.advance)

theorem roll_of_pos {sides : Nat} (h : 1 ≤ sides) (g : Generator) :
    (DiceSource.roll sides).run g = (face sides g.next, g.advance) := by
  have : sides ≠ 0 := by omega
  simp [DiceSource.roll, StateT.run, this]

end Generator

end Salvo
