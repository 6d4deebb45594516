import Salvo.Proofs.Scenario.Combinations
import Salvo.Proofs.Scenario.Resolved
import Salvo.Proofs.Sorting
import Salvo.Scenario.Validate

/-!
# Faults of a scenario

Resolving a scenario stops at the first record that is no profile, and validating it goes through all of
them. The faults of a scenario are what is wrong with its records, in their order (`Scenario.faults`):
resolving fails with the first one (`fault?_profiles`), and the errors that validation finds are these faults,
besides missing attackers and defenders (`errorMessages_validate`). So both report the same first fault, and
sorting the findings keeps it in front (`resolve_agrees_with_validate`).
-/

namespace Salvo

section Checks

variable {ε α β γ : Type}

/-- Why a check fails, if it does. -/
def fault? : Except ε α → Option ε
  | .ok _ => none
  | .error e => some e

theorem fault?_eq_some_iff {x : Except ε α} {e : ε} : fault? x = some e ↔ x = .error e := by
  cases x <;> simp [fault?]

theorem fault?_eq_none_iff {x : Except ε α} : fault? x = none ↔ ∃ a, x = .ok a := by
  cases x <;> simp [fault?]

theorem fault?_bind_pure (x : Except ε α) (f : α → β) :
    fault? (x >>= fun a => pure (f a)) = fault? x := by
  cases x <;> rfl

theorem fault?_bind_bind_pure (x : Except ε α) (y : Except ε β) (f : α → β → γ) :
    fault? (x >>= fun a => y >>= fun b => pure (f a b)) = (fault? x).or (fault? y) := by
  cases x with
  | ok a => exact fault?_bind_pure y (f a)
  | error e => rfl

theorem fault?_mapM (f : α → Except ε β) (l : List α) :
    fault? (l.mapM f) = l.findSome? fun a => fault? (f a) := by
  induction l with
  | nil => rfl
  | cons a l ih =>
      rw [List.mapM_cons, List.findSome?_cons, ← ih]
      cases f a with
      | error e => rfl
      | ok b => exact fault?_bind_pure _ _

end Checks

def AttackerRecord.faults (r : AttackerRecord) : List ProfileError :=
  r.weapons.zipIdx.filterMap fun x => fault? (x.1.resolveAt x.2)

/-- What is wrong with the records of a scenario, in their order. -/
def Scenario.faults (s : Scenario) : List ProfileError :=
  s.attackers.flatMap AttackerRecord.faults ++
    s.defenders.zipIdx.filterMap fun x => fault? (x.1.resolveAt x.2)

section Resolving

theorem AttackerRecord.fault?_resolveAt (r : AttackerRecord) (index : Nat) :
    fault? (r.resolveAt index) = r.faults.head? := by
  rw [resolveAt, fault?_bind_pure, fault?_mapM, faults, List.head?_filterMap]

theorem Scenario.fault?_profiles (s : Scenario) : fault? s.profiles = s.faults.head? := by
  have hattackers : (s.attackers.zipIdx.findSome? fun x => fault? (x.1.resolveAt x.2)) =
      (s.attackers.flatMap AttackerRecord.faults).head? := by
    simp only [AttackerRecord.fault?_resolveAt]
    rw [List.head?_flatMap, ← List.zipIdx_map_fst 0 s.attackers, List.findSome?_map,
      List.zipIdx_map_fst]
    rfl
  rw [profiles, fault?_bind_bind_pure, fault?_mapM, fault?_mapM, faults, List.head?_append,
    List.head?_filterMap, hattackers]

theorem Scenario.resolve_eq_error_profile_iff {s : Scenario} {e : ProfileError} :
    s.resolve = .error (.profile e) ↔ s.missingPart? = none ∧ s.faults.head? = some e := by
  rw [resolve, ← fault?_profiles, fault?_eq_some_iff]
  cases s.missingPart? with
  | some part => simp
  | none => cases s.profiles <;> simp

end Resolving

section Findings

def errorMessages (ds : List Diagnostic) : List String :=
  (ds.filter fun d => d.severity == .error).map Diagnostic.message

@[simp] theorem errorMessages_nil : errorMessages [] = [] := rfl

@[simp] theorem errorMessages_append (ds es : List Diagnostic) :
    errorMessages (ds ++ es) = errorMessages ds ++ errorMessages es := by
  rw [errorMessages, List.filter_append, List.map_append]
  rfl

theorem errorMessages_flatMap {α : Type} (f : α → List Diagnostic) (l : List α) :
    errorMessages (l.flatMap f) = l.flatMap fun a => errorMessages (f a) := by
  rw [errorMessages, List.filter_flatMap, List.map_flatMap]
  rfl

@[simp] theorem errorMessages_diagnoseIf (holds : Bool) (severity : Severity) (context message : String) :
    errorMessages (diagnoseIf holds severity context message) =
      if holds && severity == .error then [message] else [] := by
  cases holds <;> cases severity <;> rfl

theorem errorMessages_checkWeapon (context : String) (w : WeaponProfile) :
    errorMessages (checkWeapon context w) = [] := by
  simp [checkWeapon]

theorem errorMessages_checkDefender (context : String) (d : DefenderProfile) :
    errorMessages (checkDefender context d) = [] := by
  rw [checkDefender, errorMessages_append]
  cases d.invulnerable <;> simp

/-- What is odd about a profile is no error, so a profile that can be made has none. -/
theorem errorMessages_checkProfile {α : Type} {check : String → α → List Diagnostic}
    (h : ∀ context a, errorMessages (check context a) = []) (context : String)
    (x : Except ProfileError α) :
    errorMessages (checkProfile context check x) = (fault? x).toList.map ProfileError.message := by
  cases x with
  | ok a => exact h context a
  | error e => rfl

theorem errorMessages_validateWeapon (attacker : String) (seen : List (List Char)) (r : WeaponRecord)
    (index : Nat) :
    errorMessages (validateWeapon attacker seen r index) =
      (fault? (r.resolveAt index)).toList.map ProfileError.message := by
  have htags : errorMessages ((Keyword.unrecognized r.keywords).map fun tag =>
      ⟨.info, attacker ++ " / " ++ r.nameAt index, "keyword '" ++ tag ++ "' has no effect"⟩) = [] := by
    simp [errorMessages]
  rw [validateWeapon]
  simp only [errorMessages_append, errorMessages_diagnoseIf, htags,
    errorMessages_checkProfile errorMessages_checkWeapon]
  simp [WeaponRecord.resolveAt]

/-- The names that were seen before decide about warnings only. -/
theorem errorMessages_validateWeapons (attacker : String) (seen : List (List Char))
    (rs : List WeaponRecord) (index : Nat) :
    errorMessages (validateWeapons attacker seen rs index) =
      ((rs.zipIdx index).filterMap fun x => fault? (x.1.resolveAt x.2)).map ProfileError.message := by
  induction rs generalizing seen index with
  | nil => rfl
  | cons r rs ih =>
      rw [validateWeapons, errorMessages_append, errorMessages_validateWeapon, ih, List.zipIdx_cons,
        List.filterMap_cons]
      cases fault? (r.resolveAt index) <;> rfl

theorem errorMessages_validateAttacker (r : AttackerRecord) (index : Nat) :
    errorMessages (validateAttacker r index) = r.faults.map ProfileError.message := by
  rw [validateAttacker, errorMessages_append, errorMessages_diagnoseIf, errorMessages_validateWeapons]
  simp [AttackerRecord.faults]

theorem errorMessages_validateDefender (r : DefenderRecord) (index : Nat) :
    errorMessages (validateDefender r index) =
      (fault? (r.resolveAt index)).toList.map ProfileError.message :=
  errorMessages_checkProfile errorMessages_checkDefender _ _

theorem Scenario.errorMessages_validate (s : Scenario) :
    errorMessages s.validate.diagnostics =
      (if s.attackers.isEmpty then ["no attackers"] else []) ++
        (if s.defenders.isEmpty then ["no defenders"] else []) ++
        s.faults.map ProfileError.message := by
  have hattackers : (s.attackers.zipIdx.flatMap fun x => x.1.faults.map ProfileError.message) =
      (s.attackers.flatMap AttackerRecord.faults).map ProfileError.message := by
    have hmessages := List.flatMap_map Prod.fst
      (fun r : AttackerRecord => r.faults.map ProfileError.message) s.attackers.zipIdx
    rw [List.map_flatMap, ← hmessages, List.zipIdx_map_fst]
  have hdefenders : (s.defenders.zipIdx.flatMap fun x =>
        (fault? (x.1.resolveAt x.2)).toList.map ProfileError.message) =
      (s.defenders.zipIdx.filterMap fun x => fault? (x.1.resolveAt x.2)).map ProfileError.message := by
    rw [List.filterMap_eq_flatMap_toList, List.map_flatMap]
  rw [validate, faults, List.map_append, ← hattackers, ← hdefenders]
  simp only [errorMessages_append, errorMessages_diagnoseIf, errorMessages_flatMap,
    errorMessages_validateAttacker, errorMessages_validateDefender, beq_self_eq_true, Bool.and_true,
    List.append_assoc]

end Findings

namespace ValidationReport

def mayPrecede (a b : Diagnostic) : Bool := decide (a.severity.rank ≤ b.severity.rank)

theorem mayPrecede_trans (a b c : Diagnostic) (hab : mayPrecede a b = true) (hbc : mayPrecede b c = true) :
    mayPrecede a c = true :=
  decide_eq_true (Nat.le_trans (of_decide_eq_true hab) (of_decide_eq_true hbc))

theorem mayPrecede_total (a b : Diagnostic) : (mayPrecede a b || mayPrecede b a) = true := by
  simpa [mayPrecede] using Nat.le_total a.severity.rank b.severity.rank

theorem sorted_perm (r : ValidationReport) : r.sorted.Perm r.diagnostics :=
  List.mergeSort_perm r.diagnostics mayPrecede

theorem filter_sorted (r : ValidationReport) (s : Severity) :
    r.sorted.filter (fun d => d.severity == s) = r.diagnostics.filter fun d => d.severity == s := by
  refine filter_mergeSort mayPrecede_trans mayPrecede_total fun a ha b hb => ?_
  refine decide_eq_true (Nat.le_of_eq ?_)
  rw [eq_of_beq (List.mem_filter.1 ha).2, eq_of_beq (List.mem_filter.1 hb).2]

theorem head?_sorted {r : ValidationReport} {d : Diagnostic}
    (h : r.diagnostics.find? (fun d => d.severity == .error) = some d) : r.sorted.head? = some d := by
  have hmem : d ∈ r.sorted := r.sorted_perm.mem_iff.2 (List.mem_of_find?_eq_some h)
  have hd : d.severity = .error :=
    eq_of_beq (List.find?_some (p := fun d : Diagnostic => d.severity == .error) h)
  rw [← List.head?_filter, ← filter_sorted] at h
  have hsorted : r.sorted.Pairwise fun a b => mayPrecede a b = true :=
    List.pairwise_mergeSort mayPrecede_trans mayPrecede_total r.diagnostics
  cases heq : r.sorted with
  | nil =>
      rw [heq] at hmem
      cases hmem
  | cons a rest =>
      rw [heq] at h hmem hsorted
      have ha : (a.severity == .error) = true := by
        rcases List.mem_cons.1 hmem with rfl | hrest
        · rw [hd]
          rfl
        · have hle := of_decide_eq_true (List.rel_of_pairwise_cons hsorted hrest)
          rw [hd] at hle
          cases hseverity : a.severity <;> simp [hseverity, Severity.rank] at hle ⊢
      rw [List.filter_cons, if_pos ha] at h
      exact h

theorem count_error (r : ValidationReport) : r.count .error = (errorMessages r.diagnostics).length := by
  rw [count, errorMessages, List.length_map, List.countP_eq_length_filter]

end ValidationReport

namespace Scenario

variable {s : Scenario}

/-- How many records of weapons and defenders are no profiles. -/
def faultyRecords (s : Scenario) : Nat :=
  (s.attackers.map fun a => a.weapons.zipIdx.countP fun x => (fault? (x.1.resolveAt x.2)).isSome).sum +
    s.defenders.zipIdx.countP fun x => (fault? (x.1.resolveAt x.2)).isSome

theorem length_faults (s : Scenario) : s.faults.length = s.faultyRecords := by
  simp only [faults, AttackerRecord.faults, faultyRecords, List.length_append, List.length_flatMap,
    List.length_filterMap_eq_countP]

/-- In a scenario of which no part is missing, the errors are its faults. -/
theorem errorMessages_validate_of_complete (h : s.missingPart? = none) :
    errorMessages s.validate.diagnostics = s.faults.map ProfileError.message := by
  obtain ⟨ha, hd, -⟩ := missingPart?_eq_none_iff.1 h
  rw [errorMessages_validate, if_neg (mt List.isEmpty_iff.1 ha), if_neg (mt List.isEmpty_iff.1 hd)]
  rfl

/-- The error that resolving stops at is the first one that validation finds. -/
theorem exists_find?_error_of_resolve {e : ProfileError} (h : s.resolve = .error (.profile e)) :
    ∃ d, s.validate.diagnostics.find? (fun d => d.severity == .error) = some d ∧ d.message = e.message := by
  obtain ⟨hcomplete, hhead⟩ := resolve_eq_error_profile_iff.1 h
  have hmessages := congrArg List.head? (errorMessages_validate_of_complete hcomplete)
  rw [errorMessages, List.head?_map, List.head?_map, hhead, List.head?_filter] at hmessages
  exact Option.map_eq_some_iff.1 hmessages

/-- How a resolved scenario corresponds to the records, part by part. -/
structure Corresponds (s : Scenario) (r : ResolvedScenario) : Prop where
  attackers : List.Forall₂
    (fun x a => a.name = x.1.nameAt x.2 ∧
      List.Forall₂ (fun y w => WeaponProfile.ofRecord y.1 (y.1.nameAt y.2) = .ok w)
        x.1.weapons.zipIdx a.weapons)
    s.attackers.zipIdx r.attackers
  defenders : List.Forall₂ (fun x d => DefenderProfile.ofRecord x.1 (x.1.nameAt x.2) = .ok d)
    s.defenders.zipIdx r.defenders

theorem Resolves.corresponds {r : ResolvedScenario} (h : s.Resolves r) : s.Corresponds r where
  attackers := h.attackers.imp fun _ _ ha => AttackerRecord.resolveAt_eq_ok_iff.1 ha
  defenders := h.defenders

/-- Resolving and validating agree. If resolving stops at a record, the first error that validation finds
says the same, and sorting puts it in front; there are as many errors as records that are no profiles. If a
scenario resolves, its attackers, their weapons and its defenders stand where their records do, and each
profile is that of its record. -/
theorem resolve_agrees_with_validate (s : Scenario) :
    (∀ e, s.resolve = .error (.profile e) →
      (∃ d, s.validate.diagnostics.find? (fun d => d.severity == .error) = some d ∧
        s.validate.sorted.head? = some d ∧ d.message = (ScenarioError.profile e).message) ∧
      s.validate.count .error = s.faultyRecords) ∧
    ∀ r, s.resolve = .ok r → s.Corresponds r := by
  refine ⟨fun e h => ⟨?_, ?_⟩, fun r h => (resolve_eq_ok_iff.1 h).corresponds⟩
  · obtain ⟨d, hfind, hmessage⟩ := exists_find?_error_of_resolve h
    exact ⟨d, hfind, ValidationReport.head?_sorted hfind, hmessage⟩
  · have hcomplete := (resolve_eq_error_profile_iff.1 h).1
    rw [ValidationReport.count_error, errorMessages_validate_of_complete hcomplete, List.length_map,
      length_faults]

/-- Two guns of almost the same name, then one without attacks, then boyz whose toughness is no number. -/
def faultySquads : Scenario where
  attackers := (squadsRecord [("Red", ["gun", "Gun"])]).attackers ++
    [⟨some "Blue", [{ name := some "gun", keywords := ["pistol"] }]⟩]
  defenders := [{ name := some "Boyz", toughness := some (.text "n/a") }]

theorem resolve_agrees_with_validate_squads :
    (∃ d, faultySquads.validate.sorted.head? = some d ∧
      d.message = "gun: missing required field 'attacks'") ∧
    faultySquads.validate.count .error = 2 ∧
    (squadsRecord [("Red", ["gun", "Gun"])]).Corresponds (squads [("Red", ["gun", "Gun"])]) := by
  have hfault : faultySquads.resolve = .error (.profile (.missingField "gun" "attacks")) := by
    decide +kernel
  have hsquads : (squadsRecord [("Red", ["gun", "Gun"])]).resolve =
      .ok (squads [("Red", ["gun", "Gun"])]) := by decide +kernel
  obtain ⟨⟨d, -, hhead, hmessage⟩, hcount⟩ := (resolve_agrees_with_validate faultySquads).1 _ hfault
  refine ⟨⟨d, hhead, hmessage⟩, hcount, ?_⟩
  exact (resolve_agrees_with_validate _).2 _ hsquads

end Scenario

end Salvo
