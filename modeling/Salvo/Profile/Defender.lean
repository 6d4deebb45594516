import Salvo.Profile.Weapon

/-!
# Defenders

A `DefenderRecord` is what a scenario file says about a unit under attack; `DefenderProfile.ofRecord`
checks it. A unit matches a category if the category occurs in its declared type or in a keyword.
-/

namespace Salvo

structure DefenderRecord where
  name : Option String := none
  toughness : Option Stat := none
  wounds : Option Stat := none
  models : Option Stat := none
  save : Option Stat := none
  invulnerable : Option Stat := none
  unitType : Option String := none
  keywords : List String := []

structure DefenderProfile where
  name : String
  toughness : Int
  /-- The wounds of each model. -/
  wounds : Nat
  models : Nat
  save : Int
  invulnerable : Option Int
  unitType : Option String
  keywords : List String
  effects : DefenderEffects
deriving DecidableEq

namespace DefenderProfile

def ofStats (name : String) (toughness : Int) (wounds models : Nat) (save : Int) :
    DefenderProfile where
  name := name
  toughness := toughness
  wounds := wounds
  models := models
  save := save
  invulnerable := none
  unitType := none
  keywords := []
  effects := {}

def withKeywords (d : DefenderProfile) (tags : List String) : DefenderProfile :=
  { d with keywords := tags, effects := DefenderEffects.ofTags tags }

/-- Checks a record: first that the fields are numbers, then that they are in range. -/
def ofRecord (r : DefenderRecord) (fallback : String) : Except ProfileError DefenderProfile := do
  let name := nameOr fallback r.name
  let toughness ← Stat.toInt ⟨name, "toughness"⟩ r.toughness
  let wounds ← Stat.toInt ⟨name, "wounds"⟩ r.wounds
  let models ← Stat.toInt ⟨name, "models"⟩ r.models
  let save ← Stat.toInt ⟨name, "save"⟩ r.save
  let toughness ← Field.inRange ⟨name, "toughness"⟩ 1 maxCharacteristic toughness
  let wounds ← Field.inRange ⟨name, "wounds"⟩ 1 maxAmount wounds
  let models ← Field.inRange ⟨name, "models"⟩ 1 maxAmount models
  let save ← Field.inRange ⟨name, "save"⟩ 1 maxCharacteristic save
  let invulnerable ← Stat.toInvulnerable ⟨name, "invulnerable"⟩ r.invulnerable
  return {
    name, toughness, wounds := wounds.toNat, models := models.toNat, save, invulnerable,
    unitType := r.unitType, keywords := r.keywords,
    effects := DefenderEffects.ofTags r.keywords }

def declared (d : DefenderProfile) : List String := d.unitType.toList ++ d.keywords

def matchesCategory (d : DefenderProfile) (category : String) : Bool :=
  let part := Tag.normalChars category.toList
  !part.isEmpty && d.declared.any fun t => Text.contains part (Tag.normalChars t.toList)

def totalWounds (d : DefenderProfile) : Nat := d.wounds * d.models

end DefenderProfile

end Salvo
