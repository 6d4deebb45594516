import Salvo.Proofs.Profile.Bounds
import Salvo.Proofs.Text.Number

/-!
# Stats as numbers and as texts

A number in a record can be given as it is or spelled out. Most stats are read alike either way, down
to the error. The attacks and the damage of a weapon are not: they may be dice, and a text that says
what they are is only held to the bounds of dice expressions, which are wider than those of a number.
`number_alike_spelled_iff` says for which numbers that shows.
-/

namespace Salvo

def Stat.spelled (n : Int) : Stat := .text (String.ofList (Text.intText n))

section Readers

variable {n : Int} {f : Field}

theorem Stat.number?_intText (h : minLong ≤ n ∧ n ≤ maxLong) :
    Stat.number? (Text.intText n) = some n := by
  have hblanks := Text.isBlank_of_mem_intText (n := n)
  have hplus := Text.plus_notMem_intText n
  rw [Stat.number?, Text.trim_of_forall hblanks, Text.dropLastPlus_of_notMem hplus,
    Text.trimEnd_of_forall hblanks, Text.dropPlus_of_notMem hplus, Text.readInt?_intText, if_pos h]

theorem Stat.toInt_spelled (h : minLong ≤ n ∧ n ≤ maxLong) :
    Stat.toInt f (some (.spelled n)) = Stat.toInt f (some (.int n)) := by
  simp [Stat.spelled, Stat.toInt, Stat.number?_intText h]

theorem Stat.toIntIn_spelled (h : minLong ≤ n ∧ n ≤ maxLong) (lowest highest : Int) :
    Stat.toIntIn f lowest highest (some (.spelled n)) =
      Stat.toIntIn f lowest highest (some (.int n)) := by
  rw [Stat.toIntIn, Stat.toIntIn, Stat.toInt_spelled h]

theorem Stat.toIntOr_spelled (h : minLong ≤ n ∧ n ≤ maxLong) (default lowest highest : Int) :
    Stat.toIntOr f default lowest highest (some (.spelled n)) =
      Stat.toIntOr f default lowest highest (some (.int n)) :=
  Stat.toIntIn_spelled h lowest highest

theorem WeaponProfile.skill_spelled (h : minLong ≤ n ∧ n ≤ maxLong) (torrent : Bool) :
    WeaponProfile.skill f torrent (some (.spelled n)) =
      WeaponProfile.skill f torrent (some (.int n)) := by
  rw [WeaponProfile.skill, WeaponProfile.skill, Stat.toInt_spelled h]

/-- None of the words for the absence of a number has a digit. -/
theorem Stat.saysNone_intText (n : Int) : Stat.saysNone (Text.intText n) = false := by
  obtain ⟨c, hmem, hdigit⟩ := Text.exists_mem_intText_isDigit n
  have hword (word : String) (hletters : word.toList.all (!·.isDigit) = true) :
      (Text.intText n == word.toList) = false := by
    refine beq_eq_false_iff_ne.2 fun heq => ?_
    have hno := List.all_eq_true.1 hletters c (heq ▸ hmem)
    rw [hdigit] at hno
    cases hno
  rw [Stat.saysNone, Text.trim_of_forall Text.isBlank_of_mem_intText, Text.map_toLower_intText]
  simp only [List.isEmpty_eq_false_iff.2 (Text.intText_ne_nil n), hword "-" (by decide),
    hword "none" (by decide), hword "n/a" (by decide), Bool.or_self]

theorem Stat.toInvulnerable_spelled (h : minLong ≤ n ∧ n ≤ maxLong) :
    Stat.toInvulnerable f (some (.spelled n)) = Stat.toInvulnerable f (some (.int n)) := by
  have hnumber := Stat.toInt_spelled (f := f) h
  simp only [Stat.toInvulnerable, hnumber]
  simp [Stat.spelled, Stat.toInvulnerable.isNone, Stat.saysNone_intText]

theorem Stat.toDice_int :
    Stat.toDice f (some (.int n)) =
      if 0 ≤ n ∧ n ≤ maxAmount then .ok (.constant n)
      else .error (.outOfRange f.profile f.name 0 maxAmount n) := by
  change (f.inRange 0 maxAmount n >>= fun m => pure (DiceExpr.constant m)) = _
  rw [Field.inRange]
  split <;> rfl

/-- A text is held to the bounds of a modifier, not to those of a number in its place. -/
theorem Stat.toDice_spelled :
    Stat.toDice f (some (.spelled n)) =
      if minStat ≤ n ∧ n ≤ maxStat then .ok (.constant n)
      else .error (.dice f.profile f.name (.malformed (String.ofList (Text.intText n)))) := by
  simp only [Stat.spelled, Stat.toDice, DiceExpr.parse_intText]
  by_cases hn : minStat ≤ n ∧ n ≤ maxStat
  · rw [if_pos hn, if_pos hn]
  · rw [if_neg hn, if_neg hn]

theorem Stat.constant_of_toDice {stat : Option Stat} {e : DiceExpr}
    (h : Stat.toDice f stat = .ok e) (hconstant : e.isConstant = true) :
    (0 ≤ e.modifier ∧ e.modifier ≤ maxAmount) ∨
      (∃ s, stat = some (.text s)) ∧ minStat ≤ e.modifier ∧ e.modifier ≤ maxStat := by
  have hbounds := (writable_of_toDice h).2
  unfold Stat.toDice at h
  split at h
  · exact .inr ⟨⟨_, rfl⟩, hbounds⟩
  · obtain ⟨m, hm, h⟩ := bind_eq_ok_iff.1 h
    obtain ⟨-, hrange⟩ := Stat.toIntIn_eq_ok_iff.1 hm
    cases h
    exact .inl hrange

end Readers

section Records

inductive DefenderStat where
  | toughness
  | wounds
  | models
  | save
  | invulnerable

inductive WeaponNumber where
  | toHit
  | strength
  | ap
  | amount

inductive WeaponRoll where
  | attacks
  | damage

def DefenderRecord.put (r : DefenderRecord) (stat : Stat) : DefenderStat → DefenderRecord
  | .toughness => { r with toughness := some stat }
  | .wounds => { r with wounds := some stat }
  | .models => { r with models := some stat }
  | .save => { r with save := some stat }
  | .invulnerable => { r with invulnerable := some stat }

namespace WeaponRecord

def putNumber (r : WeaponRecord) (stat : Stat) : WeaponNumber → WeaponRecord
  | .toHit => { r with toHit := some stat }
  | .strength => { r with strength := some stat }
  | .ap => { r with ap := some stat }
  | .amount => { r with amount := some stat }

def putRoll (r : WeaponRecord) (stat : Stat) : WeaponRoll → WeaponRecord
  | .attacks => { r with attacks := some stat }
  | .damage => { r with damage := some stat }

def roll (r : WeaponRecord) : WeaponRoll → Option Stat
  | .attacks => r.attacks
  | .damage => r.damage

end WeaponRecord

namespace WeaponProfile

def roll (w : WeaponProfile) : WeaponRoll → DiceExpr
  | .attacks => w.attacks
  | .damage => w.damage

def withRoll (w : WeaponProfile) (e : DiceExpr) : WeaponRoll → WeaponProfile
  | .attacks => { w with attacks := e }
  | .damage => { w with damage := e }

/-- The weapon is what a record says, field by field. -/
structure Fulfils (w : WeaponProfile) (r : WeaponRecord) (fallback : String) : Prop where
  name : w.name = nameOr fallback r.name
  kind : w.kind = r.kind
  attacks : Stat.toDice ⟨w.name, "attacks"⟩ r.attacks = .ok w.attacks
  toHit : skill ⟨w.name, "to_hit"⟩ w.effects.torrent r.toHit = .ok w.toHit
  strength : Stat.toIntIn ⟨w.name, "strength"⟩ 1 maxCharacteristic r.strength = .ok w.strength
  ap : ∃ n, Stat.toIntOr ⟨w.name, "ap"⟩ 0 (-maxCharacteristic) maxCharacteristic r.ap = .ok n ∧
    w.ap = -(n.natAbs : Int)
  damage : Stat.toDice ⟨w.name, "damage"⟩ r.damage = .ok w.damage
  amount : ∃ n, Stat.toIntOr ⟨w.name, "amount"⟩ 1 0 maxAmount r.amount = .ok n ∧
    w.amount = n.toNat
  keywords : w.keywords = r.keywords
  effects : w.effects = WeaponEffects.ofTags r.keywords

variable {w : WeaponProfile} {r : WeaponRecord} {fallback : String} {stat : Stat}
  {which : WeaponRoll}

theorem ofRecord_eq_ok_iff : ofRecord r fallback = .ok w ↔ w.Fulfils r fallback := by
  simp only [ofRecord, bind_eq_ok_iff]
  constructor
  · rintro ⟨attacks, hattacks, toHit, htoHit, strength, hstrength, ap, hap, damage, hdamage, amount,
      hamount, h⟩
    cases h
    exact ⟨rfl, rfl, hattacks, htoHit, hstrength, ⟨ap, hap, rfl⟩, hdamage, ⟨amount, hamount, rfl⟩,
      rfl, rfl⟩
  · rintro ⟨hname, hkind, hattacks, htoHit, hstrength, ⟨ap, hap, hap'⟩, hdamage,
      ⟨amount, hamount, hamount'⟩, hkeywords, heffects⟩
    rw [hname] at hattacks htoHit hstrength hap hdamage hamount
    rw [heffects] at htoHit
    refine ⟨_, hattacks, _, htoHit, _, hstrength, _, hap, _, hdamage, _, hamount, ?_⟩
    rw [← hname, ← hkind, ← hap', ← hamount', ← heffects, ← hkeywords]
    rfl

theorem toOption_ofRecord_eq_none_iff :
    (ofRecord r fallback).toOption = none ↔ ∀ w : WeaponProfile, ¬ w.Fulfils r fallback := by
  simp only [← ofRecord_eq_ok_iff]
  cases ofRecord r fallback <;> simp [Except.toOption]

def rollField (name : String) : WeaponRoll → Field
  | .attacks => ⟨name, "attacks"⟩
  | .damage => ⟨name, "damage"⟩

theorem Fulfils.toDice (h : w.Fulfils r fallback) (which : WeaponRoll) :
    Stat.toDice (rollField w.name which) (r.roll which) = .ok (w.roll which) := by
  cases which with
  | attacks => exact h.attacks
  | damage => exact h.damage

theorem Fulfils.putRoll (h : w.Fulfils (r.putRoll stat which) fallback) {other : Stat}
    {e : DiceExpr} (he : Stat.toDice (rollField w.name which) (some other) = .ok e) :
    (w.withRoll e which).Fulfils (r.putRoll other which) fallback := by
  cases which with
  | attacks => exact { h with attacks := he }
  | damage => exact { h with damage := he }

end WeaponProfile

end Records

section Spelled

variable {n : Int}

theorem DefenderProfile.ofRecord_put_spelled (h : minLong ≤ n ∧ n ≤ maxLong) (r : DefenderRecord)
    (which : DefenderStat) (fallback : String) :
    DefenderProfile.ofRecord (r.put (.spelled n) which) fallback =
      DefenderProfile.ofRecord (r.put (.int n) which) fallback := by
  cases which <;>
    simp only [DefenderProfile.ofRecord, DefenderRecord.put, Stat.toInt_spelled h,
      Stat.toInvulnerable_spelled h]

theorem WeaponProfile.ofRecord_putNumber_spelled (h : minLong ≤ n ∧ n ≤ maxLong)
    (r : WeaponRecord) (which : WeaponNumber) (fallback : String) :
    WeaponProfile.ofRecord (r.putNumber (.spelled n) which) fallback =
      WeaponProfile.ofRecord (r.putNumber (.int n) which) fallback := by
  cases which <;>
    simp only [WeaponProfile.ofRecord, WeaponRecord.putNumber, Stat.toIntIn_spelled h,
      Stat.toIntOr_spelled h, WeaponProfile.skill_spelled h]

/-- What a text says about a roll matters where the number is refused and the text is not: between the
bounds of the one and those of the other. -/
theorem WeaponProfile.ofRecord_putRoll_alike_iff (r : WeaponRecord) (which : WeaponRoll)
    (fallback : String) :
    (ofRecord (r.putRoll (.int n) which) fallback).toOption =
        (ofRecord (r.putRoll (.spelled n) which) fallback).toOption ↔
      (0 ≤ n ∧ n ≤ maxAmount) ∨ ¬ (minStat ≤ n ∧ n ≤ maxStat) ∨
        ∀ stat, (ofRecord (r.putRoll stat which) fallback).toOption = none := by
  have hroll (stat : Stat) : (r.putRoll stat which).roll which = some stat := by
    cases which <;> rfl
  by_cases hamount : 0 ≤ n ∧ n ≤ maxAmount
  · -- Both stand for the same constant.
    have hstat : minStat ≤ n ∧ n ≤ maxStat := by
      simp only [minStat, maxStat, maxAmount] at hamount ⊢
      omega
    refine iff_of_true ?_ (.inl hamount)
    cases which <;>
      simp only [ofRecord, WeaponRecord.putRoll, Stat.toDice_int, Stat.toDice_spelled,
        if_pos hamount, if_pos hstat]
  · have hnumber : (ofRecord (r.putRoll (.int n) which) fallback).toOption = none := by
      refine toOption_ofRecord_eq_none_iff.2 fun w hw => ?_
      have hdice := hw.toDice which
      rw [hroll, Stat.toDice_int, if_neg hamount] at hdice
      cases hdice
    rw [hnumber, eq_comm]
    by_cases hstat : minStat ≤ n ∧ n ≤ maxStat
    · simp only [hamount, hstat, and_self, not_true_eq_false, false_or]
      constructor
      · intro hnone stat
        refine toOption_ofRecord_eq_none_iff.2 fun w hw => ?_
        refine toOption_ofRecord_eq_none_iff.1 hnone _ (hw.putRoll (e := .constant n) ?_)
        rw [Stat.toDice_spelled, if_pos hstat]
      · intro hnone
        exact hnone _
    · refine iff_of_true ?_ (.inr (.inl hstat))
      refine toOption_ofRecord_eq_none_iff.2 fun w hw => ?_
      have hdice := hw.toDice which
      rw [hroll, Stat.toDice_spelled, if_neg hstat] at hdice
      cases hdice

end Spelled

/-- A number means the same as its text in every stat of a unit and in those of a weapon that are
numbers. In those that may be rolled it does, unless it is out of the bounds of a number, within those
of a text, and all else in the record is in order. So a constant roll is within the bounds of a number
or was given as a text. -/
theorem number_alike_spelled_iff (n : Int64) (fallback : String) :
    (∀ (r : DefenderRecord) which,
        DefenderProfile.ofRecord (r.put (.spelled n.toInt) which) fallback =
          DefenderProfile.ofRecord (r.put (.int n.toInt) which) fallback) ∧
      (∀ (r : WeaponRecord) which,
        WeaponProfile.ofRecord (r.putNumber (.spelled n.toInt) which) fallback =
          WeaponProfile.ofRecord (r.putNumber (.int n.toInt) which) fallback) ∧
      (∀ (r : WeaponRecord) which,
        (WeaponProfile.ofRecord (r.putRoll (.int n.toInt) which) fallback).toOption =
            (WeaponProfile.ofRecord (r.putRoll (.spelled n.toInt) which) fallback).toOption ↔
          (0 ≤ n.toInt ∧ n.toInt ≤ maxAmount) ∨ ¬ (minStat ≤ n.toInt ∧ n.toInt ≤ maxStat) ∨
            ∀ stat, (WeaponProfile.ofRecord (r.putRoll stat which) fallback).toOption = none) ∧
      ∀ (r : WeaponRecord) w, WeaponProfile.ofRecord r fallback = .ok w → ∀ which,
        (w.roll which).isConstant = true →
          (0 ≤ (w.roll which).modifier ∧ (w.roll which).modifier ≤ maxAmount) ∨
            (∃ s, r.roll which = some (.text s)) ∧
              minStat ≤ (w.roll which).modifier ∧ (w.roll which).modifier ≤ maxStat := by
  have hn : minLong ≤ n.toInt ∧ n.toInt ≤ maxLong := by
    have hlo := n.le_toInt
    have hhi := n.toInt_lt
    simp only [minLong, maxLong]
    omega
  refine ⟨?_, ?_, ?_, ?_⟩
  · intro r which
    exact DefenderProfile.ofRecord_put_spelled hn r which fallback
  · intro r which
    exact WeaponProfile.ofRecord_putNumber_spelled hn r which fallback
  · intro r which
    exact WeaponProfile.ofRecord_putRoll_alike_iff r which fallback
  · intro r w hw which hconstant
    exact Stat.constant_of_toDice ((WeaponProfile.ofRecord_eq_ok_iff.1 hw).toDice which) hconstant

def gunRecord (attacks : Stat) : WeaponRecord where
  name := some "Gun"
  attacks := some attacks
  toHit := some (.int 3)
  strength := some (.int 4)
  damage := some (.int 1)

/-- Twenty thousand attacks are too many for a number but not for its text. -/
theorem not_number_alike_spelled :
    WeaponProfile.ofRecord (gunRecord (.int 20000)) "weapon" =
        .error (.outOfRange "Gun" "attacks" 0 maxAmount 20000) ∧
      Stat.spelled 20000 = .text "20000" ∧
      (WeaponProfile.ofRecord (gunRecord (.spelled 20000)) "weapon").toOption.map (·.attacks) =
        some (.constant 20000) := by
  have htext : String.ofList (Text.intText 20000) = "20000" := by decide +kernel
  exact ⟨by decide, congrArg Stat.text htext, by decide +kernel⟩

end Salvo
