import Salvo.Dice.Expr

/-!
# Reading dice expressions

A dice expression may be written with blanks anywhere and in either letter case. What is refused is
either empty, or beyond one kind of dice, or malformed; the last two name the text.
-/

namespace Salvo

inductive DiceError where
  | empty
  | malformed (text : String)
  /-- More than one kind of dice. -/
  | unsupported (text : String)
deriving DecidableEq, Repr

def DiceError.message : DiceError → String
  | empty => "empty dice expression"
  | malformed text => "malformed dice expression '" ++ text ++ "'"
  | unsupported text => "unsupported dice expression '" ++ text ++ "'"

namespace DiceExpr

/-- The text without blanks, in capitals. Only ASCII letters are changed, because no other letter has
a capital that a dice expression may hold. -/
def compact (cs : List Char) : List Char := (Text.withoutBlanks cs).map Char.toUpper

/-- A number on its own: an optional plus sign, then a number with an optional sign. -/
def number? (cs : List Char) : Option Int := Text.readInt? minStat maxStat (Text.dropPlus cs)

def positive? (cs : List Char) : Option Nat := (Text.readNat? maxCount cs).filter (· ≠ 0)

def isSign (c : Char) : Bool := c == '+' || c == '-'

/-- The number of dice in front of the `D`; without digits it is one. -/
def count? : List Char → Option Nat
  | [] => some 1
  | cs => positive? cs

/-- The modifier behind the sides; without a sign it is zero. -/
def modifier? : List Char → Option Int
  | [] => some 0
  | cs => number? cs

def dice? (before after : List Char) : Option DiceExpr := do
  let count ← count? before
  let sides ← positive? (after.takeWhile fun c => !isSign c)
  let modifier ← modifier? (after.dropWhile fun c => !isSign c)
  return ⟨count, sides, modifier⟩

def compact? (cs : List Char) : Option DiceExpr :=
  match cs.dropWhile (· != 'D') with
  | [] => (number? cs).map constant
  | _ :: after => dice? (cs.takeWhile (· != 'D')) after

def parse (s : String) : Except DiceError DiceExpr :=
  let cs := compact s.toList
  let trimmed := String.ofList (Text.trim s.toList)
  if cs = [] then .error .empty
  else if 1 < cs.count 'D' then .error (.unsupported trimmed)
  else
    match compact? cs with
    | some e => .ok e
    | none => .error (.malformed trimmed)

end DiceExpr

end Salvo
