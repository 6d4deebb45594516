import Salvo.Dice.Source

/-!
# Scripted faces

A script shows given faces in order and starts again when they run out. A face that the die at hand
does not have is reduced to one that it has.
-/

namespace Salvo

/-- Faces to show, and how many of them have been shown. -/
structure Script where
  faces : Array Nat
  shown : Nat
deriving DecidableEq, Repr

namespace Script

def ofFaces (faces : List Nat) : Script := ⟨faces.toArray, 0⟩

/-- The face that a die shows for a scripted face. -/
def fit (sides face : Nat) : Nat := if face = 0 then 1 else (face - 1) % sides + 1

def current (s : Script) : Nat := s.faces.getD (s.shown % s.faces.size) 0

/-- A die without sides and an empty script show nothing. -/
instance : DiceSource Script where
  roll sides := fun s =>
    if sides = 0 || s.faces.isEmpty then (0, s)
    else (fit sides s.current, { s with shown := s.shown + 1 })

theorem fit_pos (sides face : Nat) : 1 ≤ fit sides face := by
  rw [fit]; split <;> omega

theorem fit_le {sides : Nat} (h : 1 ≤ sides) (face : Nat) : fit sides face ≤ sides := by
  rw [fit]
  split
  · exact h
  · have := Nat.mod_lt (face - 1) h
    omega

end Script

end Salvo
