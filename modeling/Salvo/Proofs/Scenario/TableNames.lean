import Salvo.Proofs.Profile.Spelling
import Salvo.Proofs.Report.Columns
import Salvo.Proofs.Scenario.Cancellation
import Salvo.Proofs.Scenario.Resolved

/-!
# Names in the table of a run

The names of a scenario reach the table of a run as they are, apart from outer blanks of attackers and the
numbers of keys. Names for positions and numbers fit into cells, so the given names decide whether the
table of a run has a line for each row and a cell for each column (`Scenario.tabular_run_iff`).
-/

namespace Salvo

section Names

variable {s t : String}

theorem fitsCell_empty : FitsCell "" := by decide

theorem fitsCell_append_iff : FitsCell (s ++ t) ↔ FitsCell s ∧ FitsCell t := by
  simp only [fitsCell_iff, String.toList_append, List.mem_append, not_or]
  exact and_and_and_comm

/-- A number behind a name is no reason not to fit. -/
theorem fitsCell_numberedKey_iff {name : String} {n : Nat} :
    FitsCell (numberedKey name n) ↔ FitsCell name := by
  rw [numberedKey, fitsCell_append_iff, fitsCell_append_iff, and_assoc]
  exact and_iff_left ⟨by decide, fitsCell_toString n⟩

theorem fitsCell_keyFor_iff {used : List String} {name : String} :
    FitsCell (keyFor used name) ↔ FitsCell name := by
  by_cases h : name ∈ used
  · obtain ⟨n, -, heq, -⟩ := exists_keyFor_eq_of_mem h
    rw [heq, fitsCell_numberedKey_iff]
  · rw [keyFor_of_notMem h]

theorem FitsCell.position {kind : String} (h : FitsCell kind) (index : Nat) :
    FitsCell (kind ++ "[" ++ toString index ++ "]") := by
  simp only [fitsCell_append_iff]
  exact ⟨⟨⟨h, by decide⟩, fitsCell_toString index⟩, by decide⟩

theorem Attacker.fitsCell_key_iff {a : Attacker} {w : WeaponProfile} {key : String}
    (h : (w, key) ∈ a.keyed) : FitsCell key ↔ FitsCell w.name := by
  obtain ⟨i, hi⟩ := List.mem_iff_getElem?.1 h
  obtain ⟨hw, hkey⟩ := List.getElem?_zip_eq_some.1 hi
  have hname : (a.weapons.map (·.name))[i]? = some w.name := by rw [List.getElem?_map, hw]; rfl
  rw [weaponKeys, keysBeside_getElem? _ hname] at hkey
  cases hkey
  exact fitsCell_keyFor_iff

/-- A name for a position is taken where the given one is blank, and then both fit. -/
theorem fitsCell_positionName_iff {kind : String} (hkind : FitsCell kind) {index : Nat}
    {name : Option String} :
    FitsCell (positionName kind index name) ↔
      FitsCell (String.ofList (Text.trim (name.getD "").toList)) := by
  rw [positionName]
  cases hempty : (Text.trim (name.getD "").toList).isEmpty with
  | true =>
      rw [List.isEmpty_iff.1 hempty]
      exact iff_of_true (hkind.position index) fitsCell_empty
  | false => exact Iff.rfl

theorem fitsCell_nameOr_positionName_iff {kind : String} (hkind : FitsCell kind) {index : Nat}
    {name : Option String} :
    FitsCell (nameOr (positionName kind index name) name) ↔ FitsCell (nameOr "" name) := by
  cases name with
  | none => exact iff_of_true (hkind.position index) fitsCell_empty
  | some name =>
      rw [nameOr, nameOr, positionName, Option.getD_some]
      cases hempty : (Text.trim name.toList).isEmpty with
      | true => exact iff_of_true (hkind.position index) fitsCell_empty
      | false => rw [if_neg Bool.false_ne_true, if_neg Bool.false_ne_true]

end Names

section Fitting

/-- The names of the combination fit into the cells of a line. -/
structure Combination.FitsLine (c : Combination) : Prop where
  attacker : FitsCell c.attacker
  defender : FitsCell c.defender.name
  weapon : FitsCell c.weapon.name

/-- The names of the weapons fit into cells, and if there are weapons, so does the attacker's. -/
@[mk_iff]
structure Attacker.NamesFit (a : Attacker) : Prop where
  name : a.weapons ≠ [] → FitsCell a.name
  weapons : ∀ w ∈ a.weapons, FitsCell w.name

/-- The same for the names that are given. That of an attacker is trimmed, and for a weapon a blank name
is as good as none. -/
@[mk_iff]
structure AttackerRecord.NamesFit (r : AttackerRecord) : Prop where
  name : r.weapons ≠ [] → FitsCell (String.ofList (Text.trim (r.name.getD "").toList))
  weapons : ∀ w ∈ r.weapons, FitsCell (nameOr "" w.name)

/-- The names that are given in a scenario fit into cells. -/
@[mk_iff]
structure Scenario.NamesFit (s : Scenario) : Prop where
  attackers : ∀ a ∈ s.attackers, a.NamesFit
  defenders : ∀ d ∈ s.defenders, FitsCell (nameOr "" d.name)

theorem WeaponRecord.fitsCell_iff {r : WeaponRecord} {index : Nat} {w : WeaponProfile}
    (h : r.resolveAt index = .ok w) : FitsCell (nameOr "" r.name) ↔ FitsCell w.name := by
  rw [(WeaponProfile.ofRecord_eq_ok_iff.1 h).name]
  exact (fitsCell_nameOr_positionName_iff (by decide)).symm

theorem DefenderRecord.fitsCell_iff {r : DefenderRecord} {index : Nat} {d : DefenderProfile}
    (h : r.resolveAt index = .ok d) : FitsCell (nameOr "" r.name) ↔ FitsCell d.name := by
  rw [DefenderProfile.name_of_ofRecord h]
  exact (fitsCell_nameOr_positionName_iff (by decide)).symm

theorem AttackerRecord.namesFit_iff_of_resolveAt {r : AttackerRecord} {index : Nat} {a : Attacker}
    (h : r.resolveAt index = .ok a) : r.NamesFit ↔ a.NamesFit := by
  obtain ⟨hname, hweapons⟩ := resolveAt_eq_ok_iff.1 h
  have harmed : r.weapons ≠ [] ↔ a.weapons ≠ [] := not_congr (weapons_eq_nil_iff h)
  have hattacker : FitsCell (String.ofList (Text.trim (r.name.getD "").toList)) ↔ FitsCell a.name := by
    rw [hname]
    exact (fitsCell_positionName_iff (by decide)).symm
  have hguns : (∀ w ∈ r.weapons, FitsCell (nameOr "" w.name)) ↔ ∀ w ∈ a.weapons, FitsCell w.name :=
    forall_mem_iff_of_zipIdx (hweapons.imp fun _ _ hw => WeaponRecord.fitsCell_iff hw)
  rw [AttackerRecord.namesFit_iff, harmed, hattacker, hguns, Attacker.namesFit_iff]

theorem Scenario.Resolves.namesFit_iff {s : Scenario} {r : ResolvedScenario} (h : s.Resolves r) :
    s.NamesFit ↔ (∀ a ∈ r.attackers, a.NamesFit) ∧ ∀ d ∈ r.defenders, FitsCell d.name := by
  have hattackers : (∀ a ∈ s.attackers, a.NamesFit) ↔ ∀ a ∈ r.attackers, a.NamesFit :=
    forall_mem_iff_of_zipIdx
      (h.attackers.imp fun _ _ ha => AttackerRecord.namesFit_iff_of_resolveAt ha)
  have hdefenders : (∀ d ∈ s.defenders, FitsCell (nameOr "" d.name)) ↔
      ∀ d ∈ r.defenders, FitsCell d.name :=
    forall_mem_iff_of_zipIdx (h.defenders.imp fun _ _ hd => DefenderRecord.fitsCell_iff hd)
  rw [Scenario.namesFit_iff, hattackers, hdefenders]

end Fitting

namespace ResolvedScenario

variable {s : ResolvedScenario}

theorem fitCells_names_iff {c : Combination} (h : c ∈ s.combinations) :
    c.names.FitCells ↔ c.FitsLine := by
  obtain ⟨a, -, d, -, w, key, hkeyed, rfl⟩ := mem_combinations_iff.1 h
  have hkey := Attacker.fitsCell_key_iff hkeyed
  exact ⟨fun hc => ⟨hc.attacker, hc.defender, hkey.1 hc.weapon⟩,
    fun hc => ⟨hc.attacker, hc.defender, hkey.2 hc.weapon⟩⟩

/-- The table of a run shows the names of the combinations before the first one that is cut short. -/
theorem tabular_report_run_iff (s : ResolvedScenario) (settings : Settings) (base : UInt64)
    (schedules : Nat → Schedule) (progress : Progress) :
    (s.run Float settings base schedules progress).report.Tabular ↔
      ∀ c ∈ s.combinations.take (wholeBatches settings schedules s.combinations.length),
        c.FitsLine := by
  have hrows (names : ResultNames) :
      names ∈ (s.run Float settings base schedules progress).report.rows.map ReportRow.names ↔
        names ∈ (s.combinations.take
          (wholeBatches settings schedules s.combinations.length)).map Combination.names := by
    rw [Report.mem_map_names_rows, result?_run_take, Option.isSome_map, isSome_lastNamed]
  rw [Report.tabular_iff, ← List.forall_mem_map (f := ReportRow.names)]
  simp only [hrows, List.forall_mem_map]
  exact forall₂_congr fun c hc => fitCells_names_iff (List.mem_of_mem_take hc)

/-- If there is someone to attack and someone has a weapon, the names of all defenders and of all attackers
with weapons are shown. -/
theorem forall_fitsLine_iff (hdefenders : s.defenders ≠ [])
    (hweapons : ∃ a ∈ s.attackers, a.weapons ≠ []) :
    (∀ c ∈ s.combinations, c.FitsLine) ↔
      (∀ a ∈ s.attackers, a.NamesFit) ∧ ∀ d ∈ s.defenders, FitsCell d.name := by
  constructor
  · intro h
    have hshown {a : Attacker} (ha : a ∈ s.attackers) {d : DefenderProfile} (hd : d ∈ s.defenders)
        {w : WeaponProfile} (hw : w ∈ a.weapons) :
        FitsCell a.name ∧ FitsCell d.name ∧ FitsCell w.name := by
      obtain ⟨key, hkeyed⟩ := Attacker.exists_mem_keyed hw
      have hc := h _ (mem_combinations_iff.2 ⟨a, ha, d, hd, w, key, hkeyed, rfl⟩)
      exact ⟨hc.attacker, hc.defender, hc.weapon⟩
    obtain ⟨d, hd⟩ := List.exists_mem_of_ne_nil _ hdefenders
    refine ⟨fun a ha => ⟨fun harmed => ?_, fun w hw => (hshown ha hd hw).2.2⟩, fun d hd => ?_⟩
    · obtain ⟨w, hw⟩ := List.exists_mem_of_ne_nil _ harmed
      exact (hshown ha hd hw).1
    · obtain ⟨a, ha, harmed⟩ := hweapons
      obtain ⟨w, hw⟩ := List.exists_mem_of_ne_nil _ harmed
      exact (hshown ha hd hw).2.1
  · rintro ⟨hattackers, hfit⟩ c hc
    obtain ⟨a, ha, d, hd, w, key, hkeyed, rfl⟩ := mem_combinations_iff.1 hc
    have hw : w ∈ a.weapons := (List.of_mem_zip hkeyed).1
    exact ⟨(hattackers a ha).name (List.ne_nil_of_mem hw), hfit d hd, (hattackers a ha).weapons w hw⟩

end ResolvedScenario

namespace Scenario

/-- The table of a run has a line for each row and a cell for each column exactly if the names of the
combinations that are reported fit into cells. That the names given in the scenario do is enough for every
run, and for a run that is not cancelled there is no other way. -/
theorem tabular_run_iff {s : Scenario} {r : ResolvedScenario} (h : s.resolve = .ok r)
    (settings : Settings) (base : UInt64) (schedules : Nat → Schedule) (progress : Progress) :
    ((r.run Float settings base schedules progress).report.Tabular ↔
      ∀ c ∈ r.combinations.take (wholeBatches settings schedules r.combinations.length),
        c.FitsLine) ∧
      (s.NamesFit → (r.run Float settings base schedules progress).report.Tabular) ∧
      ((r.run Float settings base schedules progress).cancelled = false →
        (r.run Float settings base schedules progress).report.Tabular → s.NamesFit) := by
  have hresolves := resolve_eq_ok_iff.1 h
  have hall : (∀ c ∈ r.combinations, c.FitsLine) ↔ s.NamesFit := by
    rw [hresolves.namesFit_iff]
    exact ResolvedScenario.forall_fitsLine_iff hresolves.defenders_ne_nil
      hresolves.exists_weapons_ne_nil
  have hiff := r.tabular_report_run_iff settings base schedules progress
  refine ⟨hiff, fun hfit => ?_, fun hwhole htabular => ?_⟩
  · exact hiff.2 fun c hc => hall.2 hfit c (List.mem_of_mem_take hc)
  · have hshown := hiff.1 htabular
    rw [ResolvedScenario.wholeBatches_of_uncancelled hwhole, List.take_length] at hshown
    exact hall.1 hshown

/-- Blanks within names are fine as long as they are spaces. -/
theorem tabular_run_red_squad :
    (squadsRecord [("Red squad", ["gun", "gun"])]).resolve =
        .ok (squads [("Red squad", ["gun", "gun"])]) ∧
      ∀ settings base schedules progress, ((squads [("Red squad", ["gun", "gun"])]).run Float settings
        base schedules progress).report.Tabular := by
  have hresolve : (squadsRecord [("Red squad", ["gun", "gun"])]).resolve =
      .ok (squads [("Red squad", ["gun", "gun"])]) := by decide +kernel
  have hred : FitsCell (String.ofList (Text.trim "Red squad".toList)) := by decide
  have hgun : FitsCell (nameOr "" (some "gun")) := by decide
  have hfit : (squadsRecord [("Red squad", ["gun", "gun"])]).NamesFit := by
    refine ⟨fun a ha => ?_, fun d hd => ?_⟩
    · obtain rfl := List.mem_singleton.1 ha
      refine ⟨fun _ => hred, fun w hw => ?_⟩
      obtain ⟨gun, hmem, rfl⟩ := List.mem_map.1 hw
      obtain rfl : gun = "gun" := by simpa using hmem
      exact hgun
    · obtain rfl := List.mem_singleton.1 hd
      exact show FitsCell (nameOr "" (some "Boyz")) by decide
  exact ⟨hresolve, fun settings base schedules progress =>
    (tabular_run_iff hresolve settings base schedules progress).2.1 hfit⟩

/-- A tab in the name of an attacker makes a cell too many. -/
theorem not_tabular_run_tabbed_squad :
    ¬ ∀ (s : Scenario) (r : ResolvedScenario), s.resolve = .ok r →
      ∀ settings base schedules progress,
        (r.run Float settings base schedules progress).report.Tabular := by
  intro h
  have hresolve : (squadsRecord [("Red\tSquad", ["gun"])]).resolve =
      .ok (squads [("Red\tSquad", ["gun"])]) := by decide +kernel
  have hwhole := (squads [("Red\tSquad", ["gun"])]).cancelled_run_whole (α := Float) {} 1 {}
  have htabular := h _ _ hresolve {} 1 (fun _ => .whole) {}
  have hshown := (ResolvedScenario.tabular_report_run_iff _ _ _ _ _).1 htabular
  rw [ResolvedScenario.wholeBatches_of_uncancelled hwhole, List.take_length] at hshown
  have hfit := hshown _ List.mem_cons_self
  exact hfit.attacker.tab_notMem (by decide)

end Scenario

end Salvo
