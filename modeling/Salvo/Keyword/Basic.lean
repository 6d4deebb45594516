import Salvo.Dice.Expr

/-!
# Keywords

The rules that a tag can stand for, and the reroll policies with their precedence: of two policies
that apply to one stage, rerolling misses wins over rerolling ones, and that over rerolling
everything short of a critical.
-/

namespace Salvo

inductive Stage where
  | hit
  | wound
  | save
  | damage
deriving DecidableEq, Repr

namespace Stage

def name : Stage → String
  | hit => "hit"
  | wound => "wound"
  | save => "save"
  | damage => "damage"

end Stage

inductive RerollPolicy where
  | none
  /-- Rolls that neither meet the target nor are critical. -/
  | misses
  /-- Ones that fail. -/
  | ones
  /-- All rolls that are not critical, successful ones too. -/
  | nonCritical
deriving DecidableEq, Repr

namespace RerollPolicy

def name : RerollPolicy → String
  | none => "none"
  | misses => "reroll_misses"
  | ones => "reroll1s"
  | nonCritical => "reroll_non_critical"

def precedence : RerollPolicy → Nat
  | none => 0
  | nonCritical => 1
  | ones => 2
  | misses => 3

def merge (p q : RerollPolicy) : RerollPolicy := if p.precedence < q.precedence then q else p

def isMiss (roll : Nat) (target : Int) (criticalAt : Nat) : Bool :=
  wrapStat roll < target && roll < criticalAt

def rerolls (p : RerollPolicy) (roll : Nat) (target : Int) (criticalAt : Nat) : Bool :=
  match p with
  | none => false
  | misses => isMiss roll target criticalAt
  | ones => roll == 1 && isMiss roll target criticalAt
  | nonCritical => roll < criticalAt

theorem precedence_injective {p q : RerollPolicy} (h : p.precedence = q.precedence) : p = q := by
  cases p <;> cases q <;> simp [precedence] at h <;> rfl

theorem precedence_merge (p q : RerollPolicy) :
    (p.merge q).precedence = max p.precedence q.precedence := by
  cases p <;> cases q <;> rfl

theorem merge_comm (p q : RerollPolicy) : p.merge q = q.merge p := by
  cases p <;> cases q <;> rfl

theorem merge_assoc (p q r : RerollPolicy) : (p.merge q).merge r = p.merge (q.merge r) :=
  precedence_injective (by simp [precedence_merge, Nat.max_assoc])

@[simp] theorem merge_self (p : RerollPolicy) : p.merge p = p := by cases p <;> rfl

@[simp] theorem none_merge (p : RerollPolicy) : none.merge p = p := by cases p <;> rfl

@[simp] theorem rerolls_none (roll : Nat) (target : Int) (criticalAt : Nat) :
    none.rerolls roll target criticalAt = false := rfl

end RerollPolicy

inductive Keyword where
  | lethalHits
  | devastatingWounds
  | twinLinked
  | blast
  | hazardous
  | precision
  | torrent
  | ignoresCover
  | heavy
  | lance
  | cover
  | stealth
  | halfDamage
  | sustainedHits (value : DiceExpr)
  | rapidFire (value : Nat)
  | melta (value : Nat)
  | anti (category : String) (threshold : Nat)
  | feelNoPain (value : Nat)
  | modifier (stage : Stage) (delta : Int)
  | reroll (stage : Stage) (policy : RerollPolicy)
deriving DecidableEq, Repr

end Salvo
