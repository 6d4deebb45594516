import Mathlib.Data.List.Forall2
import Salvo.Proofs.Profile.Bounds
import Salvo.Scenario.Resolve

/-!
# What resolving a scenario leads to

A scenario that resolves keeps its records in their places: each profile is that of the record at its
position. There is then someone to attack, and some attacker has a weapon.
-/

namespace Salvo

theorem mapM_eq_ok_iff {ε α β : Type} {f : α → Except ε β} {l : List α} {r : List β} :
    l.mapM f = .ok r ↔ List.Forall₂ (fun a b => f a = .ok b) l r := by
  induction l generalizing r with
  | nil =>
      rw [List.mapM_nil, List.forall₂_nil_left_iff]
      constructor
      · intro h
        cases h
        rfl
      · rintro rfl
        rfl
  | cons a l ih =>
      rw [List.mapM_cons, bind_eq_ok_iff, List.forall₂_cons_left_iff]
      constructor
      · rintro ⟨b, hb, h⟩
        obtain ⟨r', hr', h⟩ := bind_eq_ok_iff.1 h
        cases h
        exact ⟨b, r', hb, ih.1 hr', rfl⟩
      · rintro ⟨b, r', hb, hr', rfl⟩
        exact ⟨b, hb, bind_eq_ok_iff.2 ⟨r', ih.2 hr', rfl⟩⟩

section Positions

variable {α β : Type} {P : α → Prop} {Q : β → Prop} {l : List α} {r : List β}

theorem forall_mem_iff_of_forall₂ (h : List.Forall₂ (fun a b => P a ↔ Q b) l r) :
    (∀ a ∈ l, P a) ↔ ∀ b ∈ r, Q b := by
  induction h with
  | nil => exact iff_of_true nofun nofun
  | cons hab _ ih => rw [List.forall_mem_cons, List.forall_mem_cons, hab, ih]

theorem forall_mem_iff_of_zipIdx (h : List.Forall₂ (fun x b => P x.1 ↔ Q b) l.zipIdx r) :
    (∀ a ∈ l, P a) ↔ ∀ b ∈ r, Q b := by
  rw [← forall_mem_iff_of_forall₂ h, ← List.forall_mem_map (f := Prod.fst), List.zipIdx_map_fst]

theorem exists_of_forall₂ {R : α → β → Prop} (h : List.Forall₂ R l r) : ∀ b ∈ r, ∃ a, R a b := by
  have hboth := h.flip.imp fun b a hab => (⟨⟨a, hab⟩, hab⟩ : (∃ a, R a b) ∧ R a b)
  exact ((List.forall₂_and_left r l).1 hboth).1

end Positions

theorem AttackerRecord.resolveAt_eq_ok_iff {r : AttackerRecord} {index : Nat} {a : Attacker} :
    r.resolveAt index = .ok a ↔ a.name = r.nameAt index ∧
      List.Forall₂ (fun x w => x.1.resolveAt x.2 = .ok w) r.weapons.zipIdx a.weapons := by
  rw [AttackerRecord.resolveAt, bind_eq_ok_iff]
  constructor
  · rintro ⟨weapons, hweapons, h⟩
    cases h
    exact ⟨rfl, mapM_eq_ok_iff.1 hweapons⟩
  · rintro ⟨hname, hweapons⟩
    refine ⟨a.weapons, mapM_eq_ok_iff.2 hweapons, ?_⟩
    rw [← hname]
    rfl

theorem AttackerRecord.weapons_eq_nil_iff {r : AttackerRecord} {index : Nat} {a : Attacker}
    (h : r.resolveAt index = .ok a) : r.weapons = [] ↔ a.weapons = [] := by
  have hlength := (resolveAt_eq_ok_iff.1 h).2.length_eq
  rw [List.length_zipIdx] at hlength
  rw [← List.length_eq_zero_iff, hlength, List.length_eq_zero_iff]

namespace Scenario

theorem missingPart?_eq_none_iff {s : Scenario} :
    s.missingPart? = none ↔
      s.attackers ≠ [] ∧ s.defenders ≠ [] ∧ ∃ a ∈ s.attackers, a.weapons ≠ [] := by
  have hweapons : s.attackers.all (·.weapons.isEmpty) = true ↔
      ¬ ∃ a ∈ s.attackers, a.weapons ≠ [] := by simp
  simp only [missingPart?, List.isEmpty_iff, hweapons]
  split
  · simp [*]
  · split
    · simp [*]
    · split <;> simp_all

/-- How the parts of a resolved scenario come from the records at their positions. -/
structure Resolves (s : Scenario) (r : ResolvedScenario) : Prop where
  complete : s.missingPart? = none
  engagement : r.engagement = s.engagement
  attackers :
    List.Forall₂ (fun x a => x.1.resolveAt x.2 = .ok a) s.attackers.zipIdx r.attackers
  defenders :
    List.Forall₂ (fun x d => x.1.resolveAt x.2 = .ok d) s.defenders.zipIdx r.defenders

theorem profiles_eq_ok_iff {s : Scenario} {attackers : List Attacker}
    {defenders : List DefenderProfile} :
    s.profiles = .ok (attackers, defenders) ↔
      List.Forall₂ (fun x a => x.1.resolveAt x.2 = .ok a) s.attackers.zipIdx attackers ∧
        List.Forall₂ (fun x d => x.1.resolveAt x.2 = .ok d) s.defenders.zipIdx defenders := by
  rw [profiles, bind_eq_ok_iff]
  constructor
  · rintro ⟨attackers', ha, h⟩
    obtain ⟨defenders', hd, h⟩ := bind_eq_ok_iff.1 h
    cases h
    exact ⟨mapM_eq_ok_iff.1 ha, mapM_eq_ok_iff.1 hd⟩
  · rintro ⟨ha, hd⟩
    exact ⟨attackers, mapM_eq_ok_iff.2 ha, bind_eq_ok_iff.2 ⟨defenders, mapM_eq_ok_iff.2 hd, rfl⟩⟩

theorem resolve_eq_ok_iff {s : Scenario} {r : ResolvedScenario} :
    s.resolve = .ok r ↔ s.Resolves r := by
  constructor
  · intro h
    rw [resolve] at h
    split at h
    · cases h
    · rename_i hcomplete
      split at h
      · rename_i hprofiles
        cases h
        obtain ⟨ha, hd⟩ := profiles_eq_ok_iff.1 hprofiles
        exact ⟨hcomplete, rfl, ha, hd⟩
      · cases h
  · rintro ⟨hcomplete, hengagement, ha, hd⟩
    rw [resolve, hcomplete, profiles_eq_ok_iff.2 ⟨ha, hd⟩, ← hengagement]

end Scenario

namespace Scenario.Resolves

variable {s : Scenario} {r : ResolvedScenario}

theorem defenders_ne_nil (h : s.Resolves r) : r.defenders ≠ [] := by
  intro hnil
  have hlength := h.defenders.length_eq
  rw [hnil, List.length_zipIdx, List.length_nil] at hlength
  exact (missingPart?_eq_none_iff.1 h.complete).2.1 (List.eq_nil_of_length_eq_zero hlength)

theorem exists_weapons_ne_nil (h : s.Resolves r) : ∃ a ∈ r.attackers, a.weapons ≠ [] := by
  obtain ⟨-, -, record, hrecord, hweapons⟩ := missingPart?_eq_none_iff.1 h.complete
  have hunarmed : (∀ a ∈ s.attackers, a.weapons = []) ↔ ∀ a ∈ r.attackers, a.weapons = [] :=
    forall_mem_iff_of_zipIdx (h.attackers.imp fun _ _ ha => AttackerRecord.weapons_eq_nil_iff ha)
  by_contra hnone
  refine hweapons (hunarmed.2 (fun a ha => ?_) record hrecord)
  by_contra harmed
  exact hnone ⟨a, ha, harmed⟩

theorem exists_weaponRecord (h : s.Resolves r) {a : Attacker} (ha : a ∈ r.attackers)
    {w : WeaponProfile} (hw : w ∈ a.weapons) :
    ∃ (record : WeaponRecord) (index : Nat), record.resolveAt index = .ok w := by
  obtain ⟨x, hx⟩ := exists_of_forall₂ h.attackers a ha
  obtain ⟨y, hy⟩ := exists_of_forall₂ (AttackerRecord.resolveAt_eq_ok_iff.1 hx).2 w hw
  exact ⟨y.1, y.2, hy⟩

theorem exists_defenderRecord (h : s.Resolves r) {d : DefenderProfile} (hd : d ∈ r.defenders) :
    ∃ (record : DefenderRecord) (index : Nat), record.resolveAt index = .ok d := by
  obtain ⟨x, hx⟩ := exists_of_forall₂ h.defenders d hd
  exact ⟨x.1, x.2, hx⟩

end Scenario.Resolves

end Salvo
