import Salvo.Proofs.Profile.Spelling

/-!
# Numbers of checked weapons

What the check of a record makes sure of about a weapon: every number is within its bounds, armour
penetration is never positive, and the effects are those of the keywords. The sign that armour
penetration is given with does not show.
-/

namespace Salvo

section Readers

variable {f : Field} {stat : Option Stat} {n : Int}

theorem Stat.toInt_eq_ok_congr (h : Stat.toInt f stat = .ok n) (f' : Field) :
    Stat.toInt f' stat = .ok n := by
  match stat with
  | none => cases h
  | some (.int m) => exact h
  | some (.float x) =>
      simp only [Stat.toInt] at h ⊢
      split at h
      · exact h
      · cases h
  | some (.text s) =>
      simp only [Stat.toInt] at h ⊢
      split at h
      · exact h
      · cases h

theorem Stat.mem_of_toIntOr {default lowest highest : Int}
    (hdefault : lowest ≤ default ∧ default ≤ highest)
    (h : Stat.toIntOr f default lowest highest stat = .ok n) : lowest ≤ n ∧ n ≤ highest := by
  cases stat with
  | none =>
      cases h
      exact hdefault
  | some stat => exact (Stat.toIntIn_eq_ok_iff.1 h).2

/-- A weapon that hits automatically may go without a skill, which then counts as zero. -/
theorem WeaponProfile.of_skill {torrent : Bool} (h : skill f torrent stat = .ok n) :
    (1 ≤ n ∧ n ≤ maxCharacteristic) ∨ n = 0 ∧ torrent = true := by
  unfold skill at h
  split at h
  · obtain ⟨rfl, hrange⟩ := Field.inRange_eq_ok_iff.1 h
    exact .inl hrange
  · split at h
    · rename_i htorrent
      cases h
      exact .inr ⟨rfl, htorrent⟩
    · cases h

end Readers

namespace WeaponProfile

/-- What the check of a weapon's record makes sure of. -/
structure InBounds (w : WeaponProfile) : Prop where
  toHit : (1 ≤ w.toHit ∧ w.toHit ≤ maxCharacteristic) ∨ w.toHit = 0 ∧ w.effects.torrent = true
  strength : 1 ≤ w.strength ∧ w.strength ≤ maxCharacteristic
  ap : -maxCharacteristic ≤ w.ap ∧ w.ap ≤ 0
  amount : (w.amount : Int) ≤ maxAmount
  effects : w.effects = WeaponEffects.ofTags w.keywords

variable {w : WeaponProfile} {r : WeaponRecord} {fallback : String}

theorem Fulfils.inBounds (h : w.Fulfils r fallback) : w.InBounds where
  toHit := of_skill h.toHit
  strength := (Stat.toIntIn_eq_ok_iff.1 h.strength).2
  ap := by
    obtain ⟨n, hn, hap⟩ := h.ap
    have hrange := Stat.mem_of_toIntOr (by decide) hn
    omega
  amount := by
    obtain ⟨n, hn, hamount⟩ := h.amount
    have hrange := Stat.mem_of_toIntOr (by decide) hn
    omega
  effects := by rw [h.effects, h.keywords]

theorem Fulfils.putNumber_ap (h : w.Fulfils r fallback) {f : Field} {n : Int} {stat : Stat}
    (hn : Stat.toInt f r.ap = .ok n) (hneg : Stat.toInt f (some stat) = .ok (-n)) :
    w.Fulfils (r.putNumber stat .ap) fallback := by
  obtain ⟨m, hm, hap⟩ := h.ap
  obtain ⟨given, hgiven⟩ : ∃ given, r.ap = some given := by
    cases hr : r.ap with
    | none =>
        rw [hr] at hn
        cases hn
    | some given => exact ⟨given, rfl⟩
  rw [hgiven] at hn hm
  obtain ⟨hread, hrange⟩ := Stat.toIntIn_eq_ok_iff.1 hm
  -- The record was read as the one number that its stat stands for.
  obtain rfl : m = n := by
    rw [Stat.toInt_eq_ok_congr hn] at hread
    cases hread
    rfl
  refine { h with ap := ⟨-m, ?_, by rw [Int.natAbs_neg, hap]⟩ }
  exact Stat.toIntIn_eq_ok_iff.2 ⟨Stat.toInt_eq_ok_congr hneg _, by omega, by omega⟩

end WeaponProfile

end Salvo
