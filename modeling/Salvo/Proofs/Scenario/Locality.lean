import Mathlib.Data.List.Induction
import Salvo.Proofs.Scenario.Entries

/-!
# Locality of report entries

A run goes through its pairs of an attacker and a defender one after the other. The batches of a pair
write under the names of the pair only, and what they write depends on nothing but the pair, the
engagement, the settings and the base seed. So if no two attackers and no two defenders share a name,
the entry of a pair is the same in every scenario that has the pair (`get?_run_exact_and_local`).
-/

namespace Salvo

section Entry

variable (α : Type) [Scalar α] (config : AttackConfig) (settings : Settings) (base : UInt64)

def keyedSummaries (cs : List Combination) : NameMap (WeaponResult α) :=
  cs.foldl (fun m c => m.insert c.key (c.summary α config settings base)) ∅

def totalDamage (cs : List Combination) : α :=
  Scalar.sum (cs.map fun c => (c.summary α config settings base).damage)

/-- What the batches of an attacker against a defender lead to if nothing else is in the report. -/
def Attacker.entry (a : Attacker) (d : DefenderProfile) : Option (DefenderReport α) :=
  if (a.against d).isEmpty then none
  else some ⟨keyedSummaries α config settings base (a.against d),
    approximateKills (totalDamage α config settings base (a.against d)) d⟩

variable {α config settings base} {cs : List Combination}

theorem keyedSummaries_append_singleton (cs : List Combination) (c : Combination) :
    keyedSummaries α config settings base (cs ++ [c]) =
      (keyedSummaries α config settings base cs).insert c.key (c.summary α config settings base) := by
  simp [keyedSummaries]

theorem totalDamage_append_singleton (cs : List Combination) (c : Combination) :
    totalDamage α config settings base (cs ++ [c]) =
      totalDamage α config settings base cs + (c.summary α config settings base).damage := by
  simp [totalDamage, Scalar.sum]

theorem get?_keyedSummaries_of_notMem {key : String} (h : key ∉ cs.map Combination.key) :
    (keyedSummaries α config settings base cs).get? key = none := by
  induction cs using List.reverseRecOn with
  | nil => rfl
  | append_singleton cs c ih =>
      rw [List.map_append, List.mem_append, not_or] at h
      have hne : key ≠ c.key := by simpa using h.2
      rw [keyedSummaries_append_singleton, NameMap.get?_insert_of_ne _ hne, ih h.1]

theorem get?_keyedSummaries (h : (cs.map Combination.key).Nodup) {c : Combination} (hc : c ∈ cs) :
    (keyedSummaries α config settings base cs).get? c.key =
      some (c.summary α config settings base) := by
  induction cs using List.reverseRecOn with
  | nil => cases hc
  | append_singleton cs last ih =>
      rw [List.map_append, List.map_singleton, List.nodup_append] at h
      obtain ⟨hcs, -, hlast⟩ := h
      rw [keyedSummaries_append_singleton]
      rcases List.mem_append.1 hc with hmem | hmem
      · have hne : c.key ≠ last.key := hlast _ (List.mem_map_of_mem hmem) _ List.mem_cons_self
        rw [NameMap.get?_insert_of_ne _ hne, ih hcs hmem]
      · obtain rfl := List.mem_singleton.1 hmem
        rw [NameMap.get?_insert_self]

theorem Attacker.map_key_against (a : Attacker) (d : DefenderProfile) :
    (a.against d).map Combination.key = a.keys := by
  rw [← a.map_snd_keyed, Attacker.against, List.map_map]
  rfl

theorem Attacker.against_eq_nil_iff {a : Attacker} {d : DefenderProfile} :
    a.against d = [] ↔ a.weapons = [] := by
  rw [← List.length_eq_zero_iff, a.length_against, List.length_eq_zero_iff]

theorem Attacker.of_mem_against {a : Attacker} {d : DefenderProfile} {c : Combination}
    (h : c ∈ a.against d) : c.attacker = a.name ∧ c.defender = d := by
  obtain ⟨⟨w, key⟩, -, rfl⟩ := List.mem_map.1 h
  exact ⟨rfl, rfl⟩

end Entry

namespace Report

variable {α : Type}

theorem get?_setKills_self (r : Report α) (attacker defender : String) (kills : Nat) :
    (r.setKills attacker defender kills).get? attacker defender =
      (r.get? attacker defender).map fun e => { e with kills } := by
  rw [setKills]
  cases he : r.get? attacker defender with
  | none => exact he
  | some e => exact get?_update_self ..

theorem get?_setKills_of_ne (r : Report α) {attacker defender a d : String}
    (h : a ≠ attacker ∨ d ≠ defender) (kills : Nat) :
    (r.setKills attacker defender kills).get? a d = r.get? a d := by
  rw [setKills]
  split
  · exact get?_update_of_ne r h _
  · rfl

end Report

namespace ScenarioRun

variable {α : Type} [Scalar α] {config : AttackConfig} {settings : Settings} {base : UInt64}
  {schedules : Nat → Schedule} {run : ScenarioRun α} {state : ScenarioRun α × α}
  {a : Attacker} {d : DefenderProfile} {attacker defender : String}

section Uncancelled

/-- A step after which the run is not cancelled has made the whole batch and added its summary. -/
theorem addCombination_of_uncancelled {c : Combination}
    (h : (addCombination config settings base schedules state c).1.cancelled = false) :
    state.1.cancelled = false ∧
      (addCombination config settings base schedules state c).1.report =
        state.1.report.insert c.attacker c.defender.name c.key
          (c.summary α config settings base) ∧
      (addCombination config settings base schedules state c).2 =
        state.2 + (c.summary α config settings base).damage := by
  obtain ⟨run, total⟩ := state
  cases hrun : run.cancelled with
  | true =>
      rw [addCombination_of_cancelled schedules hrun, hrun] at h
      cases h
  | false =>
      cases hbatch : (c.batch config settings base (schedules run.begun)).cancelled with
      | true =>
          rw [addCombination_of_skipped schedules hrun hbatch] at h
          cases h
      | false =>
          rw [addCombination_of_whole schedules hrun hbatch]
          exact ⟨rfl, rfl, rfl⟩

theorem uncancelled_of_foldl_addCombination {cs : List Combination}
    (h : (cs.foldl (addCombination config settings base schedules) state).1.cancelled = false) :
    state.1.cancelled = false := by
  induction cs generalizing state with
  | nil => exact h
  | cons c cs ih => exact (addCombination_of_uncancelled (ih h)).1

/-- A pair after which the run is not cancelled has made its batches and then set its estimate. -/
theorem addPair_of_uncancelled
    (h : (addPair config settings base schedules run (a, d)).cancelled = false) :
    ((a.against d).foldl (addCombination config settings base schedules)
        (run, Scalar.ofCount 0)).1.cancelled = false ∧
      (addPair config settings base schedules run (a, d)).report =
        ((a.against d).foldl (addCombination config settings base schedules)
          (run, Scalar.ofCount 0)).1.report.setKills a.name d.name
          (approximateKills ((a.against d).foldl (addCombination config settings base schedules)
            (run, Scalar.ofCount 0)).2 d) := by
  rw [addPair, closePair] at h ⊢
  dsimp only at h ⊢
  split at h
  · rename_i hcancelled
    rw [hcancelled] at h
    cases h
  · rename_i hcancelled
    rw [if_neg hcancelled]
    exact ⟨h, rfl⟩

theorem uncancelled_of_foldl_addPair {pairs : List (Attacker × DefenderProfile)}
    (h : (pairs.foldl (addPair config settings base schedules) run).cancelled = false) :
    run.cancelled = false := by
  induction pairs generalizing run with
  | nil => exact h
  | cons pair pairs ih =>
      exact uncancelled_of_foldl_addCombination (addPair_of_uncancelled (ih h)).1

end Uncancelled

section Frame

theorem get?_foldl_addCombination_of_ne {cs : List Combination}
    (hne : ∀ c ∈ cs, attacker ≠ c.attacker ∨ defender ≠ c.defender.name)
    (h : (cs.foldl (addCombination config settings base schedules) state).1.cancelled = false) :
    (cs.foldl (addCombination config settings base schedules) state).1.report.get? attacker
      defender = state.1.report.get? attacker defender := by
  induction cs generalizing state with
  | nil => rfl
  | cons c cs ih =>
      obtain ⟨hc, hcs⟩ := List.forall_mem_cons.1 hne
      have hstep := addCombination_of_uncancelled (uncancelled_of_foldl_addCombination h)
      rw [List.foldl_cons, ih hcs h, hstep.2.1, Report.insert, Report.get?_update_of_ne _ hc]

theorem get?_addPair_of_ne (hne : attacker ≠ a.name ∨ defender ≠ d.name)
    (h : (addPair config settings base schedules run (a, d)).cancelled = false) :
    (addPair config settings base schedules run (a, d)).report.get? attacker defender =
      run.report.get? attacker defender := by
  obtain ⟨hbatches, hreport⟩ := addPair_of_uncancelled h
  have hothers : ∀ c ∈ a.against d, attacker ≠ c.attacker ∨ defender ≠ c.defender.name := by
    intro c hc
    obtain ⟨ha, hd⟩ := Attacker.of_mem_against hc
    rwa [ha, hd]
  rw [hreport, Report.get?_setKills_of_ne _ hne, get?_foldl_addCombination_of_ne hothers hbatches]

theorem get?_foldl_addPair_of_ne {pairs : List (Attacker × DefenderProfile)}
    (hne : ∀ pair ∈ pairs, attacker ≠ pair.1.name ∨ defender ≠ pair.2.name)
    (h : (pairs.foldl (addPair config settings base schedules) run).cancelled = false) :
    (pairs.foldl (addPair config settings base schedules) run).report.get? attacker defender =
      run.report.get? attacker defender := by
  induction pairs generalizing run with
  | nil => rfl
  | cons pair pairs ih =>
      obtain ⟨hpair, hpairs⟩ := List.forall_mem_cons.1 hne
      rw [List.foldl_cons, ih hpairs h,
        get?_addPair_of_ne hpair (uncancelled_of_foldl_addPair h)]

end Frame

section Entry

variable (config settings base attacker defender) in
/-- The batches of `done`, and nothing else, are in the entry under the names; their damages add up to
the running total. -/
structure Filled (done : List Combination) (state : ScenarioRun α × α) : Prop where
  entry : state.1.report.get? attacker defender =
    if done = [] then none else some ⟨keyedSummaries α config settings base done, 0⟩
  total : state.2 = totalDamage α config settings base done

variable {done : List Combination}

theorem Filled.addCombination {c : Combination}
    (hfilled : Filled config settings base c.attacker c.defender.name done state)
    (h : (addCombination config settings base schedules state c).1.cancelled = false) :
    Filled config settings base c.attacker c.defender.name (done ++ [c])
      (addCombination config settings base schedules state c) := by
  obtain ⟨-, hreport, htotal⟩ := addCombination_of_uncancelled h
  constructor
  · -- A missing entry counts as one without weapons.
    have hold : (state.1.report.get? c.attacker c.defender.name).getD .empty =
        ⟨keyedSummaries α config settings base done, 0⟩ := by
      rw [hfilled.entry]
      split
      · rename_i hnil
        rw [hnil]
        rfl
      · rfl
    rw [hreport, Report.insert, Report.get?_update_self, hold, keyedSummaries_append_singleton,
      if_neg (List.append_ne_nil_of_right_ne_nil _ (List.cons_ne_nil _ _))]
    rfl
  · rw [htotal, hfilled.total, totalDamage_append_singleton]

theorem Filled.foldl_addCombination {cs : List Combination}
    (hfilled : Filled config settings base attacker defender done state)
    (hnames : ∀ c ∈ cs, c.attacker = attacker ∧ c.defender.name = defender)
    (h : (cs.foldl (ScenarioRun.addCombination config settings base schedules) state).1.cancelled =
      false) :
    Filled config settings base attacker defender (done ++ cs)
      (cs.foldl (ScenarioRun.addCombination config settings base schedules) state) := by
  induction cs generalizing done state with
  | nil => rwa [List.append_nil]
  | cons c cs ih =>
      obtain ⟨⟨rfl, rfl⟩, hcs⟩ := List.forall_mem_cons.1 hnames
      have hrest := ih (hfilled.addCombination (uncancelled_of_foldl_addCombination h)) hcs h
      rwa [List.append_assoc, List.singleton_append] at hrest

theorem get?_addPair_self (hnew : run.report.get? a.name d.name = none)
    (h : (addPair config settings base schedules run (a, d)).cancelled = false) :
    (addPair config settings base schedules run (a, d)).report.get? a.name d.name =
      a.entry α config settings base d := by
  obtain ⟨hbatches, hreport⟩ := addPair_of_uncancelled h
  have hstart : Filled config settings base a.name d.name [] (run, (Scalar.ofCount 0 : α)) :=
    ⟨hnew, rfl⟩
  have hnames : ∀ c ∈ a.against d, c.attacker = a.name ∧ c.defender.name = d.name := by
    intro c hc
    obtain ⟨ha, hd⟩ := Attacker.of_mem_against hc
    exact ⟨ha, congrArg DefenderProfile.name hd⟩
  have hend := hstart.foldl_addCombination hnames hbatches
  rw [List.nil_append] at hend
  rw [hreport, Report.get?_setKills_self, hend.entry, hend.total, Attacker.entry]
  cases a.against d <;> rfl

/-- The entry of a pair is made by the pair alone, if the names tell the pairs apart. -/
theorem get?_foldl_addPair_of_mem {pairs : List (Attacker × DefenderProfile)}
    (hnames : pairs.Pairwise fun p q => p.1.name ≠ q.1.name ∨ p.2.name ≠ q.2.name)
    (hmem : (a, d) ∈ pairs) (hnew : run.report.get? a.name d.name = none)
    (h : (pairs.foldl (addPair config settings base schedules) run).cancelled = false) :
    (pairs.foldl (addPair config settings base schedules) run).report.get? a.name d.name =
      a.entry α config settings base d := by
  induction pairs generalizing run with
  | nil => cases hmem
  | cons pair pairs ih =>
      obtain ⟨hfirst, hrest⟩ := List.pairwise_cons.1 hnames
      have hpair : (addPair config settings base schedules run pair).cancelled = false :=
        uncancelled_of_foldl_addPair h
      rw [List.foldl_cons]
      rcases List.mem_cons.1 hmem with rfl | hmem
      · rw [get?_foldl_addPair_of_ne hfirst h, get?_addPair_self hnew hpair]
      · have hne := (hfirst (a, d) hmem).imp Ne.symm Ne.symm
        exact ih hrest hmem ((get?_addPair_of_ne hne hpair).trans hnew) h

end Entry

end ScenarioRun

namespace ResolvedScenario

variable {s : ResolvedScenario} {settings : Settings} {base : UInt64}

/-- No two attackers have the same name, and no two defenders. -/
structure NamesApart (s : ResolvedScenario) : Prop where
  attackers : (s.attackers.map Attacker.name).Nodup
  defenders : (s.defenders.map DefenderProfile.name).Nodup

theorem NamesApart.pairwise_pairs (h : s.NamesApart) :
    s.pairs.Pairwise fun p q => p.1.name ≠ q.1.name ∨ p.2.name ≠ q.2.name := by
  rw [pairs, List.pairwise_flatMap]
  constructor
  · intro a _
    exact List.pairwise_map.2 ((List.pairwise_map.1 h.defenders).imp .inr)
  · refine (List.pairwise_map.1 h.attackers).imp fun hne p hp q hq => .inl ?_
    obtain ⟨_, _, rfl⟩ := List.mem_map.1 hp
    obtain ⟨_, _, rfl⟩ := List.mem_map.1 hq
    exact hne

variable {α : Type} [Scalar α] {schedules : Nat → Schedule} {progress : Progress}
  {a : Attacker} {d : DefenderProfile}

theorem get?_run (hnames : s.NamesApart) (ha : a ∈ s.attackers) (hd : d ∈ s.defenders)
    (h : (s.run α settings base schedules progress).cancelled = false) :
    (s.run α settings base schedules progress).report.get? a.name d.name =
      a.entry α (s.config settings) settings base d := by
  have hmem : (a, d) ∈ s.pairs :=
    List.mem_flatMap.2 ⟨a, ha, List.mem_map_of_mem hd⟩
  exact ScenarioRun.get?_foldl_addPair_of_mem hnames.pairwise_pairs hmem rfl h

/-- The summary of a weapon's batch on its own, on the seed of its names. -/
def ownSummary (α : Type) [Scalar α] (a : Attacker) (d : DefenderProfile) (config : AttackConfig)
    (settings : Settings) (base : UInt64) (w : WeaponProfile) (key : String) : WeaponResult α :=
  summarize (runBatchChunked w d config settings.clampedTrials
    (stableSeed base [a.name, d.name, key]) (max settings.progressReports 1) .whole).items
    (some d.models)

/-- What is reported about an attacker and a defender is exact: nothing if the attacker has no weapons,
else the summary of each weapon under its key and nothing under other keys, and the estimate for the
sum of the mean damages. -/
structure ExactEntry (a : Attacker) (d : DefenderProfile) (config : AttackConfig)
    (settings : Settings) (base : UInt64) (e : Option (DefenderReport α)) : Prop where
  unarmed : a.weapons = [] → e = none
  armed : a.weapons ≠ [] → ∃ r, e = some r ∧
    (∀ w key, (w, key) ∈ a.keyed →
      r.weapons.get? key = some (ownSummary α a d config settings base w key)) ∧
    (∀ key, key ∉ a.keys → r.weapons.get? key = none) ∧
    r.kills = approximateKills (Scalar.sum (a.keyed.map fun (w, key) =>
      (ownSummary α a d config settings base w key).damage)) d

theorem exactEntry_entry (a : Attacker) (d : DefenderProfile) (config : AttackConfig)
    (settings : Settings) (base : UInt64) :
    ExactEntry a d config settings base (a.entry α config settings base d) := by
  constructor
  · intro hunarmed
    rw [Attacker.entry, Attacker.against_eq_nil_iff.2 hunarmed]
    rfl
  · intro harmed
    have hne : ¬ (a.against d).isEmpty = true := by
      rw [List.isEmpty_iff, Attacker.against_eq_nil_iff]
      exact harmed
    have hkeys : ((a.against d).map Combination.key).Nodup := by
      rw [a.map_key_against]
      exact a.keys_nodup
    refine ⟨_, if_neg hne, ?_, ?_, ?_⟩
    · intro w key hmem
      exact get?_keyedSummaries hkeys (c := ⟨a.name, d, w, key⟩)
        (List.mem_map.2 ⟨(w, key), hmem, rfl⟩)
    · intro key hkey
      rw [← a.map_key_against d] at hkey
      exact get?_keyedSummaries_of_notMem hkey
    · dsimp only
      rw [totalDamage, Attacker.against, List.map_map]
      rfl

end ResolvedScenario

end Salvo
