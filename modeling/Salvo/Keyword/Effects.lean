import Salvo.Keyword.Parse
import Salvo.NameMap

/-!
# Effects of keywords

A list of keywords has an effect on weapons and one on defenders. Flags are set by any occurrence,
values are taken from the first one, of equal modifiers only one counts, and reroll policies are
merged. So repeating a keyword changes nothing.
-/

namespace Salvo

namespace Keyword

def sustainedHits? : Keyword → Option DiceExpr
  | sustainedHits e => some e
  | _ => none

def rapidFire? : Keyword → Option Nat
  | rapidFire n => some n
  | _ => none

def melta? : Keyword → Option Nat
  | melta n => some n
  | _ => none

def feelNoPain? : Keyword → Option Nat
  | feelNoPain n => some n
  | _ => none

def antiPair? : Keyword → Option (String × Nat)
  | anti category threshold => some (category, threshold)
  | _ => none

def deltaAt? (stage : Stage) : Keyword → Option Int
  | modifier s d => if s = stage then some d else none
  | _ => none

/-- The reroll that a keyword grants at a stage; twin-linked weapons reroll failed wounds. -/
def rerollAt? (stage : Stage) : Keyword → Option RerollPolicy
  | reroll s p => if s = stage then some p else none
  | twinLinked => if stage = .wound then some .misses else none
  | _ => none

/-- The net modifier at a stage; a change that is listed twice counts once. -/
def net (stage : Stage) (ks : List Keyword) : Int :=
  (ks.filterMap (deltaAt? stage)).eraseDups.foldl (· + ·) 0

def rerollOf (stage : Stage) (ks : List Keyword) : RerollPolicy :=
  (ks.filterMap (rerollAt? stage)).foldl RerollPolicy.merge .none

/-- The first threshold of each category. -/
def antiOf (ks : List Keyword) : NameMap Nat :=
  (ks.filterMap antiPair?).foldl (fun m e => m.insertNew e.1 e.2) ∅

end Keyword

/-- What a weapon's keywords do. Modifiers are added to rolls, `damageModifier` to each instance of
damage. -/
structure WeaponEffects where
  lethalHits : Bool := false
  devastatingWounds : Bool := false
  twinLinked : Bool := false
  blast : Bool := false
  hazardous : Bool := false
  precision : Bool := false
  torrent : Bool := false
  ignoresCover : Bool := false
  heavy : Bool := false
  lance : Bool := false
  sustainedHits : Option DiceExpr := none
  rapidFire : Option Nat := none
  melta : Option Nat := none
  anti : NameMap Nat := ∅
  hitModifier : Int := 0
  woundModifier : Int := 0
  saveModifier : Int := 0
  damageModifier : Int := 0
  hitReroll : RerollPolicy := .none
  woundReroll : RerollPolicy := .none
deriving DecidableEq

namespace WeaponEffects

def ofKeywords (ks : List Keyword) : WeaponEffects where
  lethalHits := ks.contains .lethalHits
  devastatingWounds := ks.contains .devastatingWounds
  twinLinked := ks.contains .twinLinked
  blast := ks.contains .blast
  hazardous := ks.contains .hazardous
  precision := ks.contains .precision
  torrent := ks.contains .torrent
  ignoresCover := ks.contains .ignoresCover
  heavy := ks.contains .heavy
  lance := ks.contains .lance
  sustainedHits := ks.findSome? Keyword.sustainedHits?
  rapidFire := ks.findSome? Keyword.rapidFire?
  melta := ks.findSome? Keyword.melta?
  anti := Keyword.antiOf ks
  hitModifier := Keyword.net .hit ks
  woundModifier := Keyword.net .wound ks
  saveModifier := Keyword.net .save ks
  damageModifier := Keyword.net .damage ks
  hitReroll := Keyword.rerollOf .hit ks
  woundReroll := Keyword.rerollOf .wound ks

def ofTags (tags : List String) : WeaponEffects := ofKeywords (Keyword.recognized tags)

def antiThreshold? (e : WeaponEffects) (isMatch : String → Bool) : Option Nat :=
  ((e.anti.entries.filter fun c => isMatch c.1).map (·.2)).min?

end WeaponEffects

/-- What a defender's keywords do. Tags that are no rules are kept as its categories. -/
structure DefenderEffects where
  feelNoPain : Option Nat := none
  halveDamage : Bool := false
  damageReduction : Nat := 0
  hitModifier : Int := 0
  woundModifier : Int := 0
  saveModifier : Int := 0
  cover : Bool := false
  stealth : Bool := false
  categories : List String := []
deriving DecidableEq

namespace DefenderEffects

def ofKeywords (ks : List Keyword) (categories : List String) : DefenderEffects where
  feelNoPain := ks.findSome? Keyword.feelNoPain?
  halveDamage := ks.contains .halfDamage
  damageReduction := if (ks.filterMap (Keyword.deltaAt? .damage)).any (· < 0) then 1 else 0
  hitModifier := Keyword.net .hit ks
  woundModifier := Keyword.net .wound ks
  saveModifier := Keyword.net .save ks
  cover := ks.contains .cover
  stealth := ks.contains .stealth
  categories := categories

/-- The normal forms of the tags that are no rules, each once. -/
def categoriesOf (tags : List String) : List String :=
  (((Keyword.unrecognized tags).map Tag.normal).filter fun t => !t.isEmpty).eraseDups

def ofTags (tags : List String) : DefenderEffects :=
  ofKeywords (Keyword.recognized tags) (categoriesOf tags)

end DefenderEffects

end Salvo
