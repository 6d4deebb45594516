import Salvo.Profile.Defender
import Salvo.Proofs.Keyword.Bounds

/-!
# Bounds of checked profiles

A record is checked field by field, so a profile that comes out of the check has every field within
its bounds. Its keywords and dice expressions are within theirs, because they are read from texts.
-/

namespace Salvo

/-- A chain of checks succeeds if its first one does and so does the rest on what that one returns. -/
theorem bind_eq_ok_iff {ε α β : Type} {x : Except ε α} {f : α → Except ε β} {b : β} :
    x >>= f = .ok b ↔ ∃ a, x = .ok a ∧ f a = .ok b := by
  cases x with
  | error e =>
      constructor
      · intro h
        cases h
      · rintro ⟨_, h, _⟩
        cases h
  | ok a =>
      constructor
      · intro h
        exact ⟨a, rfl, h⟩
      · rintro ⟨_, h, hf⟩
        cases h
        exact hf

theorem mem_bounds_of_toInvulnerable {f : Field} {stat : Option Stat} {inv : Option Int}
    (h : Stat.toInvulnerable f stat = .ok inv) : ∀ n ∈ inv, 1 ≤ n ∧ n ≤ 6 := by
  cases stat with
  | none =>
      cases h
      simp
  | some stat =>
      simp only [Stat.toInvulnerable] at h
      split at h
      · cases h
        simp
      · obtain ⟨n, -, h⟩ := bind_eq_ok_iff.1 h
        cases h
        intro m hm
        split at hm
        · cases hm
          assumption
        · cases hm

/-- What the check of a unit's record makes sure of. -/
structure DefenderProfile.InBounds (d : DefenderProfile) : Prop where
  toughness : 1 ≤ d.toughness ∧ d.toughness ≤ maxCharacteristic
  wounds : 1 ≤ d.wounds ∧ (d.wounds : Int) ≤ maxAmount
  models : 1 ≤ d.models ∧ (d.models : Int) ≤ maxAmount
  save : 1 ≤ d.save ∧ d.save ≤ maxCharacteristic
  invulnerable : ∀ n ∈ d.invulnerable, 1 ≤ n ∧ n ≤ 6

theorem DefenderProfile.inBounds_of_ofRecord {r : DefenderRecord} {fallback : String}
    {d : DefenderProfile} (h : DefenderProfile.ofRecord r fallback = .ok d) : d.InBounds := by
  simp only [DefenderProfile.ofRecord, bind_eq_ok_iff, Field.inRange_eq_ok_iff] at h
  obtain ⟨toughness, -, wounds, -, models, -, save, -, t, ⟨rfl, ht⟩, w, ⟨rfl, hw⟩, m, ⟨rfl, hm⟩, s,
    ⟨rfl, hs⟩, inv, hinv, h⟩ := h
  cases h
  exact {
    toughness := ht
    wounds := by dsimp only; omega
    models := by dsimp only; omega
    save := hs
    invulnerable := mem_bounds_of_toInvulnerable hinv }

namespace DefenderProfile.InBounds

theorem models_mul_wounds_le {d : DefenderProfile} (h : d.InBounds) :
    d.models * d.wounds ≤ maxCount := by
  have hmodels : d.models ≤ 10000 := by
    have := h.models.2
    simp only [maxAmount] at this
    omega
  have hwounds : d.wounds ≤ 10000 := by
    have := h.wounds.2
    simp only [maxAmount] at this
    omega
  calc d.models * d.wounds ≤ 10000 * 10000 := Nat.mul_le_mul hmodels hwounds
    _ ≤ maxCount := by decide

end DefenderProfile.InBounds

theorem DefenderProfile.name_of_ofRecord {r : DefenderRecord} {fallback : String}
    {d : DefenderProfile} (h : DefenderProfile.ofRecord r fallback = .ok d) :
    d.name = nameOr fallback r.name := by
  simp only [DefenderProfile.ofRecord, bind_eq_ok_iff] at h
  obtain ⟨_, -, _, -, _, -, _, -, _, -, _, -, _, -, _, -, _, -, h⟩ := h
  cases h
  rfl

theorem DefenderProfile.effects_of_ofRecord {r : DefenderRecord} {fallback : String}
    {d : DefenderProfile} (h : DefenderProfile.ofRecord r fallback = .ok d) :
    d.effects = DefenderEffects.ofTags d.keywords := by
  simp only [DefenderProfile.ofRecord, bind_eq_ok_iff] at h
  obtain ⟨_, -, _, -, _, -, _, -, _, -, _, -, _, -, _, -, _, -, h⟩ := h
  cases h
  rfl

theorem DefenderProfile.effects_inBounds_of_ofRecord {r : DefenderRecord} {fallback : String}
    {d : DefenderProfile} (h : DefenderProfile.ofRecord r fallback = .ok d) : d.effects.InBounds := by
  rw [effects_of_ofRecord h]
  exact DefenderEffects.inBounds_ofTags d.keywords

theorem Stat.toIntIn_eq_ok_iff {f : Field} {stat : Option Stat} {lowest highest n : Int} :
    Stat.toIntIn f lowest highest stat = .ok n ↔
      Stat.toInt f stat = .ok n ∧ lowest ≤ n ∧ n ≤ highest := by
  simp only [Stat.toIntIn, bind_eq_ok_iff, Field.inRange_eq_ok_iff]
  constructor
  · rintro ⟨m, hm, rfl, hrange⟩
    exact ⟨hm, hrange⟩
  · rintro ⟨hread, hrange⟩
    exact ⟨n, hread, rfl, hrange⟩

theorem writable_of_toDice {f : Field} {stat : Option Stat} {e : DiceExpr}
    (h : Stat.toDice f stat = .ok e) : e.Writable := by
  unfold Stat.toDice at h
  split at h
  · split at h
    · rename_i hparse
      cases h
      exact DiceExpr.parse_writable hparse
    · cases h
  · obtain ⟨n, hn, h⟩ := bind_eq_ok_iff.1 h
    obtain ⟨-, hlo, hhi⟩ := Stat.toIntIn_eq_ok_iff.1 hn
    cases h
    simp only [maxAmount] at hhi
    exact DiceExpr.writable_constant (by simp only [minStat, maxStat]; omega)

/-- What the check of a weapon's record makes sure of, as far as rolls go. -/
structure WeaponProfile.RollsInBounds (w : WeaponProfile) : Prop where
  attacks : w.attacks.Writable
  damage : w.damage.Writable
  effects : w.effects.InBounds

theorem WeaponProfile.rollsInBounds_of_ofRecord {r : WeaponRecord} {fallback : String}
    {w : WeaponProfile} (h : WeaponProfile.ofRecord r fallback = .ok w) : w.RollsInBounds := by
  simp only [WeaponProfile.ofRecord, bind_eq_ok_iff] at h
  obtain ⟨attacks, hattacks, _, -, _, -, _, -, damage, hdamage, _, -, h⟩ := h
  cases h
  exact {
    attacks := writable_of_toDice hattacks
    damage := writable_of_toDice hdamage
    effects := WeaponEffects.inBounds_ofTags r.keywords }

end Salvo
