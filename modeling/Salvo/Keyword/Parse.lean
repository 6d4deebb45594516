import Salvo.Keyword.Basic
import Salvo.Keyword.Tag
import Salvo.Dice.Parse
import Salvo.Text.Alphanumeric
import Salvo.Text.Search

/-!
# Recognising keywords

`Keyword.parse?` reads a tag in its normal form. Some rules are a fixed phrase; others take a dice
expression, a threshold, a category, or words that name a stage. A tag that is none of these is no
keyword, which is not an error.
-/

namespace Salvo.Keyword

/-- A parameter in digits, with blanks anywhere and one plus sign behind it at most. -/
def threshold? (cs : List Char) : Option Nat :=
  (Text.digits? (Text.dropLastPlus (Text.withoutBlanks cs))).filter (· ≤ maxCount)

def phrase? : String → Option Keyword
  | "lethal hits" => some lethalHits
  | "devastating wounds" => some devastatingWounds
  | "twin-linked" => some twinLinked
  | "twin linked" => some twinLinked
  | "blast" => some blast
  | "hazardous" => some hazardous
  | "precision" => some precision
  | "torrent" => some torrent
  | "ignores cover" => some ignoresCover
  | "heavy" => some heavy
  | "lance" => some lance
  | "cover" => some cover
  | "in cover" => some cover
  | "benefit of cover" => some cover
  | "stealth" => some stealth
  | "half damage" => some halfDamage
  | "halve damage" => some halfDamage
  | "halves damage" => some halfDamage
  | "damage halved" => some halfDamage
  | _ => none

/-- Extra hits: a dice expression, with one plus sign behind it at most. -/
def sustained? (cs : List Char) : Option Keyword :=
  match DiceExpr.parse (String.ofList (Text.dropLastPlus (Text.trim cs))) with
  | .ok e => some (sustainedHits e)
  | .error _ => none

def isCategory (cs : List Char) : Bool :=
  !cs.isEmpty && cs.all fun c => Text.isAlphanumeric c || c == '_'

def anti? (cs : List Char) : Option Keyword := do
  let (category, rest) ← Text.cutAt? ' ' cs
  guard (isCategory category)
  return anti (String.ofList category) (← threshold? rest)

def rerollStage? (cs : List Char) : Option Stage :=
  if Text.contains "hit".toList cs then some .hit
  else if Text.contains "wound".toList cs then some .wound
  else none

def isOneWord (w : List Char) : Bool :=
  w == "1".toList || w == "1s".toList || w == "ones".toList

def rerollPolicy (cs : List Char) : RerollPolicy :=
  if Text.contains "critical".toList cs then .nonCritical
  else if (Text.words cs).any isOneWord then .ones
  else .misses

/-- A reroll: its stage and policy are found among the words. -/
def reroll? (cs : List Char) : Option Keyword :=
  (rerollStage? cs).map fun stage => reroll stage (rerollPolicy cs)

def stage? (word : String) : Option Stage :=
  match word with
  | "hit" => some .hit
  | "hits" => some .hit
  | "wound" => some .wound
  | "wounds" => some .wound
  | "save" => some .save
  | "saves" => some .save
  | "damage" => some .damage
  | _ => none

def delta? (word : String) : Option Int :=
  match word with
  | "+1" => some 1
  | "-1" => some (-1)
  | _ => none

/-- A modifier: plus or minus one, `to` or nothing, and a stage. -/
def modifier? (cs : List Char) : Option Keyword :=
  match (Text.words cs).map String.ofList with
  | [delta, stage] => build delta stage
  | [delta, "to", stage] => build delta stage
  | _ => none
where
  /-- A modifier from its two words. -/
  build (delta stage : String) : Option Keyword := do
    return modifier (← stage? stage) (← delta? delta)

/-- A rule with a parameter. The first phrase that the text starts with decides what is read. -/
def parametrised? (cs : List Char) : Option Keyword :=
  if let some rest := Text.after? "sustained hits" cs then sustained? rest
  else if let some rest := Text.after? "rapid fire" cs then (threshold? rest).map rapidFire
  else if let some rest := Text.after? "melta" cs then (threshold? rest).map melta
  else if let some rest := Text.after? "feel no pain" cs then (threshold? rest).map feelNoPain
  else if let some rest := Text.after? "fnp" cs then (threshold? rest).map feelNoPain
  else if let some rest := Text.after? "anti-" cs then anti? rest
  else if let some rest := Text.after? "anti " cs then anti? rest
  else if let some rest := Text.after? "reroll " cs then reroll? rest
  else modifier? cs

def parseNormal? (tag : String) : Option Keyword :=
  match phrase? tag with
  | some k => some k
  | none => parametrised? tag.toList

def parse? (tag : String) : Option Keyword := parseNormal? (Tag.normal tag)

def unrecognized (tags : List String) : List String := tags.filter fun t => (parse? t).isNone

def recognized (tags : List String) : List Keyword := tags.filterMap parse?

end Salvo.Keyword
