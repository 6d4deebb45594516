import Salvo.Decimal.Style
import Salvo.Dice.Parse

/-!
# Stats

A stat of a record is a number or a text. Reading it as a number or as a dice expression either
succeeds or says which field of which profile is at fault.
-/

namespace Salvo

inductive Stat where
  | int (n : Int)
  | float (x : Float)
  | text (s : String)

inductive ProfileError where
  | missingField (profile field : String)
  | invalidField (profile field value : String)
  | outOfRange (profile field : String) (lowest highest value : Int)
  | dice (profile field : String) (source : DiceError)
deriving DecidableEq, Repr

namespace ProfileError

def message : ProfileError → String
  | missingField profile field => profile ++ ": missing required field '" ++ field ++ "'"
  | invalidField profile field value =>
    profile ++ ": field '" ++ field ++ "' has non-numeric value '" ++ value ++ "'"
  | outOfRange profile field lowest highest value =>
    profile ++ ": field '" ++ field ++ "' must be within " ++ toString lowest ++ "..=" ++
      toString highest ++ ", got " ++ toString value
  | dice profile field source => profile ++ ": field '" ++ field ++ "': " ++ source.message

end ProfileError

structure Field where
  profile : String
  name : String

namespace Field

def missing (f : Field) : ProfileError := .missingField f.profile f.name

def invalid (f : Field) (value : String) : ProfileError := .invalidField f.profile f.name value

def inRange (f : Field) (lowest highest value : Int) : Except ProfileError Int :=
  if lowest ≤ value ∧ value ≤ highest then .ok value
  else .error (.outOfRange f.profile f.name lowest highest value)

theorem inRange_eq_ok_iff {f : Field} {lowest highest value n : Int} :
    f.inRange lowest highest value = .ok n ↔ n = value ∧ lowest ≤ value ∧ value ≤ highest := by
  unfold inRange
  split
  · simp [*, eq_comm]
  · simp; omega

end Field

/-- The largest skill, strength, toughness, save and armour penetration. -/
def maxCharacteristic : Int := 1000

/-- The largest number of wounds, models and weapons, and the largest constant of a stat that is
otherwise rolled. -/
def maxAmount : Int := 10000

def maxLong : Int := 9223372036854775807

def minLong : Int := -9223372036854775808

namespace Stat

/-- A number in a text: blanks around it, a plus sign on either side and a sign are allowed. -/
def number? (cs : List Char) : Option Int :=
  Text.readInt? minLong maxLong
    (Text.dropPlus (Text.trimEnd (Text.dropLastPlus (Text.trim cs))))

/-- The number that a stat stands for. Doubles stand for the nearest integer of 64 bits if they are
whole. -/
def toInt (f : Field) : Option Stat → Except ProfileError Int
  | none => .error f.missing
  | some (int n) => .ok n
  | some (float x) =>
    match Decimal.wholeValue? x with
    | some n => .ok (max minLong (min n maxLong))
    | none => .error (f.invalid (Decimal.plainStyle.text x))
  | some (text s) =>
    match number? s.toList with
    | some n => .ok n
    | none => .error (f.invalid s)

def toIntIn (f : Field) (lowest highest : Int) (stat : Option Stat) : Except ProfileError Int := do
  f.inRange lowest highest (← toInt f stat)

/-- The number that a stat stands for, between two bounds; `default` if there is no stat. -/
def toIntOr (f : Field) (default lowest highest : Int) : Option Stat → Except ProfileError Int
  | none => .ok default
  | some stat => toIntIn f lowest highest (some stat)

def toDice (f : Field) : Option Stat → Except ProfileError DiceExpr
  | some (text s) =>
    match DiceExpr.parse s with
    | .ok e => .ok e
    | .error e => .error (.dice f.profile f.name e)
  | stat => do return .constant (← toIntIn f 0 maxAmount stat)

def saysNone (cs : List Char) : Bool :=
  let word := (Text.trim cs).map Char.toLower
  word.isEmpty || word == "-".toList || word == "none".toList || word == "n/a".toList

/-- An invulnerable save. Numbers that a six-sided die cannot show stand for no such save. -/
def toInvulnerable (f : Field) : Option Stat → Except ProfileError (Option Int)
  | none => .ok none
  | some stat =>
    if isNone stat then .ok none
    else do
      let n ← toInt f (some stat)
      return if 1 ≤ n ∧ n ≤ 6 then some n else none
where
  /-- The stat says that there is no value. -/
  isNone : Stat → Bool
    | text s => saysNone s.toList
    | _ => false

end Stat

end Salvo
