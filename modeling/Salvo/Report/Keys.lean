import Salvo.Report.Json

/-!
# Keys of weapons

An attacker's weapons are told apart by their keys. A weapon's key is its name if that is free, else
the name with the first free number behind it. The key of the estimate is never free.
-/

namespace Salvo

def numberedKey (name : String) (n : Nat) : String := name ++ "#" ++ toString n

/-- The first free key with a number from `n` on. Of more numbers than there are keys in use, one is
free; so `fuel` need not be larger than that. -/
def freeKey (used : List String) (name : String) : Nat → Nat → String
  | 0, n => numberedKey name n
  | fuel + 1, n =>
    if used.contains (numberedKey name n) then freeKey used name fuel (n + 1)
    else numberedKey name n

def keyFor (used : List String) (name : String) : String :=
  if used.contains name then freeKey used name used.length 2 else name

def keysBeside (used : List String) : List String → List String
  | [] => []
  | name :: names =>
    let key := keyFor used name
    key :: keysBeside (key :: used) names

def weaponKeys (names : List String) : List String := keysBeside [killsKey] names

@[simp] theorem length_keysBeside (used names : List String) :
    (keysBeside used names).length = names.length := by
  induction names generalizing used with
  | nil => rfl
  | cons name names ih => simp [keysBeside, ih]

@[simp] theorem length_weaponKeys (names : List String) :
    (weaponKeys names).length = names.length :=
  length_keysBeside _ names

end Salvo
