import Salvo.Proofs.Batch.Means
import Salvo.Proofs.Scenario.Cancellation

/-!
# Estimates of the models that fall

The estimate of an entry is set when the last batch of a pair of an attacker and a defender is made. So
it is that of the last pair with the entry's names that a run completes, and zero before any
(`kills_run`). It goes with the weapons in the entry if the pair is the only one with its names and is
completed, and not otherwise (`not_consistent_squads`).
-/

namespace Salvo

section Sums

/-- The mean damages of the weapons in an entry, added up. -/
def DefenderReport.damage {α : Type} [Scalar α] (e : DefenderReport α) : α :=
  Scalar.sum (e.weapons.entries.map fun x => x.2.damage)

/-- The estimate of an entry is that of the weapons in it. -/
def DefenderReport.Consistent (e : DefenderReport Rat) (d : DefenderProfile) : Prop :=
  e.kills = approximateKills e.damage d

instance (e : DefenderReport Rat) (d : DefenderProfile) : Decidable (e.Consistent d) :=
  inferInstanceAs (Decidable (_ = _))

variable (config : AttackConfig) (settings : Settings) (base : UInt64)

theorem entries_keyedSummaries_perm (α : Type) [Scalar α] {cs : List Combination}
    (h : (cs.map Combination.key).Nodup) :
    (keyedSummaries α config settings base cs).entries.Perm
      (cs.map fun c => (c.key, c.summary α config settings base)) := by
  induction cs using List.reverseRecOn with
  | nil => exact .refl _
  | append_singleton cs c ih =>
      rw [List.map_append, List.map_singleton, List.nodup_append] at h
      obtain ⟨hcs, -, hlast⟩ := h
      have hnew : c.key ∉ cs.map Combination.key :=
        fun hmem => hlast _ hmem _ List.mem_cons_self rfl
      rw [keyedSummaries_append_singleton, List.map_append, List.map_singleton]
      refine (NameMap.entries_insert_perm (get?_keyedSummaries_of_notMem hnew) _).trans ?_
      exact ((ih hcs).cons _).trans (List.perm_append_singleton _ _).symm

theorem damage_keyedSummaries {cs : List Combination} (h : (cs.map Combination.key).Nodup)
    (kills : Nat) :
    (⟨keyedSummaries Rat config settings base cs, kills⟩ : DefenderReport Rat).damage =
      totalDamage Rat config settings base cs := by
  have hperm := (entries_keyedSummaries_perm config settings base Rat h).map fun x => x.2.damage
  rw [List.map_map] at hperm
  rw [DefenderReport.damage, totalDamage, sum_rat_eq, sum_rat_eq]
  exact hperm.sum_eq

end Sums

section Pairs

/-- The pairs all of whose batches are among the first `n`. -/
def pairsWithin : Nat → List (Attacker × DefenderProfile) → List (Attacker × DefenderProfile)
  | _, [] => []
  | n, (a, d) :: pairs =>
    if a.weapons.length ≤ n then (a, d) :: pairsWithin (n - a.weapons.length) pairs else []

def lastPair (attacker defender : String) (pairs : List (Attacker × DefenderProfile)) :
    Option (Attacker × DefenderProfile) :=
  pairs.reverse.find? fun pair => pair.1.name = attacker ∧ pair.2.name = defender

variable {pairs done : List (Attacker × DefenderProfile)} {a : Attacker} {d : DefenderProfile}

theorem pairsWithin_append {n : Nat} (h : n < a.weapons.length)
    (rest : List (Attacker × DefenderProfile)) :
    pairsWithin ((done.flatMap fun pair => pair.1.against pair.2).length + n)
      (done ++ (a, d) :: rest) = done := by
  induction done with
  | nil =>
      rw [List.nil_append, pairsWithin, if_neg]
      simpa using h
  | cons pair done ih =>
      obtain ⟨b, e⟩ := pair
      rw [List.flatMap_cons, List.length_append, b.length_against, List.cons_append, pairsWithin,
        if_pos (by omega), Nat.add_assoc, Nat.add_sub_cancel_left, ih]

theorem pairsWithin_length (pairs : List (Attacker × DefenderProfile)) :
    pairsWithin (pairs.flatMap fun pair => pair.1.against pair.2).length pairs = pairs := by
  induction pairs with
  | nil => rfl
  | cons pair pairs ih =>
      obtain ⟨a, d⟩ := pair
      rw [List.flatMap_cons, List.length_append, a.length_against, pairsWithin,
        if_pos (Nat.le_add_right _ _), Nat.add_sub_cancel_left, ih]

theorem mem_of_mem_pairsWithin {n : Nat} {pair : Attacker × DefenderProfile}
    (h : pair ∈ pairsWithin n pairs) : pair ∈ pairs := by
  induction pairs generalizing n with
  | nil => exact h
  | cons hd pairs ih =>
      rw [pairsWithin] at h
      split at h
      · exact (List.mem_cons.1 h).elim (fun heq => heq ▸ List.mem_cons_self)
          fun hmem => List.mem_cons_of_mem _ (ih hmem)
      · cases h

theorem lastPair_append_singleton (attacker defender : String)
    (pairs : List (Attacker × DefenderProfile)) (pair : Attacker × DefenderProfile) :
    lastPair attacker defender (pairs ++ [pair]) =
      if pair.1.name = attacker ∧ pair.2.name = defender then some pair
      else lastPair attacker defender pairs := by
  rw [lastPair, List.reverse_append, List.reverse_singleton, List.singleton_append, List.find?_cons]
  split
  · rename_i h
    rw [if_pos (of_decide_eq_true h)]
  · rename_i h
    rw [if_neg (of_decide_eq_false h), lastPair]

theorem of_lastPair_eq_some {attacker defender : String} {pair : Attacker × DefenderProfile}
    (h : lastPair attacker defender pairs = some pair) :
    pair ∈ pairs ∧ pair.1.name = attacker ∧ pair.2.name = defender := by
  have hnames := List.find?_some h
  exact ⟨List.mem_reverse.1 (List.mem_of_find?_eq_some h), of_decide_eq_true hnames⟩

theorem isSome_lastPair {pair : Attacker × DefenderProfile} (h : pair ∈ pairs) :
    (lastPair pair.1.name pair.2.name pairs).isSome = true := by
  rw [lastPair, List.find?_isSome]
  exact ⟨pair, List.mem_reverse.2 h, decide_eq_true ⟨rfl, rfl⟩⟩

end Pairs

namespace Report

variable {α : Type}

theorem killsOf_setKills_self (r : Report α) {attacker defender : String} {kills : Nat}
    (h : r.get? attacker defender = none → kills = 0) :
    (r.setKills attacker defender kills).killsOf attacker defender = kills := by
  rw [killsOf, get?_setKills_self]
  cases he : r.get? attacker defender with
  | none => exact (h he).symm
  | some e => rfl

theorem killsOf_setKills_of_ne (r : Report α) {attacker defender a d : String}
    (h : a ≠ attacker ∨ d ≠ defender) (kills : Nat) :
    (r.setKills attacker defender kills).killsOf a d = r.killsOf a d := by
  rw [killsOf, get?_setKills_of_ne r h, killsOf]

end Report

namespace ScenarioRun

variable {config : AttackConfig} {settings : Settings} {base : UInt64}
  {schedules : Nat → Schedule} {run : ScenarioRun Rat} {state : ScenarioRun Rat × Rat}
  {a : Attacker} {d : DefenderProfile} {cs done : List Combination}

theorem killsOf_foldl_addCombination
    (h : (cs.foldl (addCombination config settings base schedules) state).1.cancelled = false)
    (attacker defender : String) :
    (cs.foldl (addCombination config settings base schedules) state).1.report.killsOf attacker
      defender = state.1.report.killsOf attacker defender := by
  induction cs generalizing state with
  | nil => rfl
  | cons c cs ih =>
      have hstep := addCombination_of_uncancelled (uncancelled_of_foldl_addCombination h)
      rw [List.foldl_cons, ih h, hstep.2.1, Report.killsOf_insert]

theorem total_foldl_addCombination (htotal : state.2 = totalDamage Rat config settings base done)
    (h : (cs.foldl (addCombination config settings base schedules) state).1.cancelled = false) :
    (cs.foldl (addCombination config settings base schedules) state).2 =
      totalDamage Rat config settings base (done ++ cs) := by
  induction cs generalizing done state with
  | nil => rwa [List.append_nil]
  | cons c cs ih =>
      have hstep := addCombination_of_uncancelled (uncancelled_of_foldl_addCombination h)
      have hnext : (addCombination config settings base schedules state c).2 =
          totalDamage Rat config settings base (done ++ [c]) := by
        rw [hstep.2.2, htotal, totalDamage_append_singleton]
      have hrest := ih hnext h
      rwa [List.append_assoc, List.singleton_append] at hrest

/-- A pair that is made has an entry if it has a batch at all. -/
theorem get?_foldl_addCombination_ne_none (hne : cs ≠ [])
    (hnames : ∀ c ∈ cs, c.attacker = a.name ∧ c.defender.name = d.name)
    (h : (cs.foldl (addCombination config settings base schedules) state).1.cancelled = false) :
    (cs.foldl (addCombination config settings base schedules) state).1.report.get? a.name d.name ≠
      none := by
  obtain ⟨init, c, rfl⟩ := (List.eq_nil_or_concat' cs).resolve_left hne
  obtain ⟨ha, hd⟩ := hnames c (List.mem_append_right _ (List.mem_singleton_self c))
  rw [List.foldl_append, List.foldl_cons, List.foldl_nil] at h ⊢
  rw [(addCombination_of_uncancelled h).2.1, ← ha, ← hd, Report.insert, Report.get?_update_self]
  exact Option.some_ne_none _

variable (config settings base) in
def estimate (pair : Attacker × DefenderProfile) : Nat :=
  approximateKills (totalDamage Rat config settings base (pair.1.against pair.2)) pair.2

theorem killsOf_addPair
    (h : (addPair config settings base schedules run (a, d)).cancelled = false)
    (attacker defender : String) :
    (addPair config settings base schedules run (a, d)).report.killsOf attacker defender =
      if a.name = attacker ∧ d.name = defender then estimate config settings base (a, d)
      else run.report.killsOf attacker defender := by
  obtain ⟨hbatches, hreport⟩ := addPair_of_uncancelled h
  have hstart : ((run, Scalar.ofCount 0) : ScenarioRun Rat × Rat).2 =
      totalDamage Rat config settings base [] := rfl
  rw [hreport, total_foldl_addCombination hstart hbatches, List.nil_append]
  split
  · rename_i hnames
    obtain ⟨rfl, rfl⟩ := hnames
    rw [Report.killsOf_setKills_self]
    · rfl
    · -- Only a pair without batches can be without an entry, and the estimate of nothing is zero.
      intro hnone
      by_cases hunarmed : a.against d = []
      · rw [hunarmed]
        rfl
      · refine absurd hnone (get?_foldl_addCombination_ne_none hunarmed ?_ hbatches)
        intro c hc
        obtain ⟨ha, hd⟩ := Attacker.of_mem_against hc
        exact ⟨ha, congrArg DefenderProfile.name hd⟩
  · rename_i hnames
    have hne : attacker ≠ a.name ∨ defender ≠ d.name :=
      (not_and_or.1 hnames).imp Ne.symm Ne.symm
    rw [Report.killsOf_setKills_of_ne _ hne, killsOf_foldl_addCombination hbatches]

theorem killsOf_foldl_addPair {pairs : List (Attacker × DefenderProfile)}
    (h : (pairs.foldl (addPair config settings base schedules) run).cancelled = false)
    (attacker defender : String) :
    (pairs.foldl (addPair config settings base schedules) run).report.killsOf attacker defender =
      (lastPair attacker defender pairs).elim (run.report.killsOf attacker defender)
        (estimate config settings base) := by
  induction pairs using List.reverseRecOn with
  | nil => rfl
  | append_singleton pairs pair ih =>
      obtain ⟨a, d⟩ := pair
      rw [List.foldl_append, List.foldl_cons, List.foldl_nil] at h ⊢
      have hbefore := uncancelled_of_foldl_addCombination (addPair_of_uncancelled h).1
      rw [killsOf_addPair h, ih hbefore, lastPair_append_singleton]
      split <;> rfl

end ScenarioRun

namespace ResolvedScenario

variable {s : ResolvedScenario} {settings : Settings} {base : UInt64}
  {schedules : Nat → Schedule} {progress : Progress}

/-- The pairs all of whose batches come before the first one that is cut short. -/
def completedPairs (s : ResolvedScenario) (settings : Settings) (schedules : Nat → Schedule) :
    List (Attacker × DefenderProfile) :=
  pairsWithin (wholeBatches settings schedules s.combinations.length) s.pairs

theorem completedPairs_of_uncancelled
    (h : (s.run Rat settings base schedules progress).cancelled = false) :
    s.completedPairs settings schedules = s.pairs := by
  rw [completedPairs, wholeBatches_of_uncancelled h]
  exact pairsWithin_length s.pairs

theorem completedPairs_of_cutShortAt {done : List (Attacker × DefenderProfile)} {a : Attacker}
    {d : DefenderProfile} {made : List Combination} {c : Combination}
    (h : ScenarioRun.CutShortAt (s.config settings) settings base schedules
      (⟨.empty, false, progress, 0⟩ : ScenarioRun Rat) s.pairs done a d made c) :
    s.completedPairs settings schedules = done := by
  obtain ⟨rest, hpairs⟩ := h.split
  obtain ⟨after, hagainst⟩ := h.pair.split
  obtain ⟨hlt, htake⟩ := take_combinations_of_cutShortAt h
  have hbatches : wholeBatches settings schedules s.combinations.length =
      (done.flatMap fun pair => pair.1.against pair.2).length + made.length := by
    rw [← List.length_append, ← htake, List.length_take, Nat.min_eq_left (Nat.le_of_lt hlt)]
  have hmade : made.length < a.weapons.length := by
    rw [← a.length_against d, hagainst, List.length_append, List.length_cons]
    omega
  rw [completedPairs, hbatches, hpairs, pairsWithin_append hmade]

/-- The estimate under the names of an attacker and a defender is that of the last pair with these
names that a run completes. -/
theorem killsOf_run (s : ResolvedScenario) (settings : Settings) (base : UInt64)
    (schedules : Nat → Schedule) (progress : Progress) (attacker defender : String) :
    (s.run Rat settings base schedules progress).report.killsOf attacker defender =
      (lastPair attacker defender (s.completedPairs settings schedules)).elim 0
        (ScenarioRun.estimate (s.config settings) settings base) := by
  rcases run_cases Rat s settings base schedules progress with
    hwhole | ⟨done, a, d, made, c, hcut⟩
  · rw [completedPairs_of_uncancelled hwhole]
    exact ScenarioRun.killsOf_foldl_addPair hwhole attacker defender
  · rw [completedPairs_of_cutShortAt hcut, run, hcut.report_eq,
      ScenarioRun.killsOf_foldl_addCombination hcut.pair.uncancelled]
    exact ScenarioRun.killsOf_foldl_addPair hcut.uncancelled attacker defender

theorem NamesApart.eq_of_names (h : s.NamesApart) {pair other : Attacker × DefenderProfile}
    (hpair : pair ∈ s.pairs) (hother : other ∈ s.pairs)
    (hnames : pair.1.name = other.1.name ∧ pair.2.name = other.2.name) : pair = other := by
  have hnodup : (s.pairs.map fun p => (p.1.name, p.2.name)).Nodup := by
    refine List.pairwise_map.2 (h.pairwise_pairs.imp fun hne heq => ?_)
    exact hne.elim (fun hname => hname (congrArg Prod.fst heq))
      fun hname => hname (congrArg Prod.snd heq)
  exact List.inj_on_of_nodup_map hnodup hpair hother (Prod.ext hnames.1 hnames.2)

/-- If names tell pairs apart, only the pair itself can have been completed under its names. -/
theorem lastPair_completedPairs (hnames : s.NamesApart) {a : Attacker} {d : DefenderProfile}
    (hmem : (a, d) ∈ s.pairs) :
    lastPair a.name d.name (s.completedPairs settings schedules) =
      if (a, d) ∈ s.completedPairs settings schedules then some (a, d) else none := by
  have hfound (pair : Attacker × DefenderProfile)
      (h : lastPair a.name d.name (s.completedPairs settings schedules) = some pair) :
      pair = (a, d) ∧ (a, d) ∈ s.completedPairs settings schedules := by
    obtain ⟨hpair, hsame⟩ := of_lastPair_eq_some h
    obtain rfl := hnames.eq_of_names (mem_of_mem_pairsWithin hpair) hmem hsame
    exact ⟨rfl, hpair⟩
  split
  · rename_i hdone
    obtain ⟨pair, hpair⟩ := Option.isSome_iff_exists.1 (isSome_lastPair hdone)
    rw [hpair, (hfound pair hpair).1]
  · rename_i hdone
    rw [Option.eq_none_iff_forall_ne_some]
    intro pair hpair
    exact hdone (hfound pair hpair).2

/-- Nothing that comes after it changes the entry of a pair that a run completes. -/
theorem get?_run_of_completed (hnames : s.NamesApart) {a : Attacker} {d : DefenderProfile}
    (h : (a, d) ∈ s.completedPairs settings schedules) :
    (s.run Rat settings base schedules progress).report.get? a.name d.name =
      a.entry Rat (s.config settings) settings base d := by
  rcases run_cases Rat s settings base schedules progress with
    hwhole | ⟨done, b, e, made, c, hcut⟩
  · rw [completedPairs_of_uncancelled hwhole] at h
    exact ScenarioRun.get?_foldl_addPair_of_mem hnames.pairwise_pairs h rfl hwhole
  · rw [completedPairs_of_cutShortAt hcut] at h
    obtain ⟨rest, hpairs⟩ := hcut.split
    obtain ⟨after, hagainst⟩ := hcut.pair.split
    have hapart := hnames.pairwise_pairs
    rw [hpairs, List.pairwise_append] at hapart
    obtain ⟨hdone, -, hothers⟩ := hapart
    have hne : ∀ m ∈ made, a.name ≠ m.attacker ∨ d.name ≠ m.defender.name := by
      intro m hm
      have hmem : m ∈ b.against e := hagainst ▸ List.mem_append_left _ hm
      obtain ⟨hb, he⟩ := Attacker.of_mem_against hmem
      rw [hb, he]
      exact hothers _ h _ List.mem_cons_self
    rw [run, hcut.report_eq, ScenarioRun.get?_foldl_addCombination_of_ne hne hcut.pair.uncancelled]
    exact ScenarioRun.get?_foldl_addPair_of_mem hdone h rfl hcut.uncancelled

/-- The estimate of an entry is that of the last pair with its names that the run completes, and zero if
it completes none. So if names tell attackers and defenders apart, the estimate of a completed pair is
that of the weapons in its entry, while the entry of a pair that is cut short has zero. A run that is not
cancelled completes all pairs. -/
theorem kills_run (s : ResolvedScenario) (settings : Settings) (base : UInt64)
    (schedules : Nat → Schedule) (progress : Progress) :
    (∀ attacker defender e,
        (s.run Rat settings base schedules progress).report.get? attacker defender = some e →
        e.kills = (lastPair attacker defender (s.completedPairs settings schedules)).elim 0
          fun pair => approximateKills
            (totalDamage Rat (s.config settings) settings base (pair.1.against pair.2)) pair.2) ∧
      (s.NamesApart → ∀ a ∈ s.attackers, ∀ d ∈ s.defenders, ∀ e,
        (s.run Rat settings base schedules progress).report.get? a.name d.name = some e →
        e.kills = if (a, d) ∈ s.completedPairs settings schedules then approximateKills e.damage d
          else 0) ∧
      ((s.run Rat settings base schedules progress).cancelled = false →
        s.completedPairs settings schedules = s.pairs) := by
  have hkills (attacker defender : String) (e : DefenderReport Rat)
      (he : (s.run Rat settings base schedules progress).report.get? attacker defender = some e) :
      e.kills = (lastPair attacker defender (s.completedPairs settings schedules)).elim 0
        (ScenarioRun.estimate (s.config settings) settings base) := by
    rw [← killsOf_run s settings base schedules progress, Report.killsOf, he, Option.elim_some]
  refine ⟨hkills, fun hnames a ha d hd e he => ?_, completedPairs_of_uncancelled⟩
  have hmem : (a, d) ∈ s.pairs := List.mem_flatMap.2 ⟨a, ha, List.mem_map_of_mem hd⟩
  rw [hkills a.name d.name e he, lastPair_completedPairs hnames hmem]
  split
  · rename_i hdone
    rw [get?_run_of_completed hnames hdone, Attacker.entry] at he
    split at he
    · cases he
    · cases he
      have hkeys : ((a.against d).map Combination.key).Nodup := by
        rw [a.map_key_against]
        exact a.keys_nodup
      rw [damage_keyedSummaries _ _ _ hkeys]
      rfl
  · rfl

/-- The red squad is done when the blue one is cancelled between two weapons. -/
theorem kills_run_red_squad :
    (squads [("Red", ["gun"]), ("Blue", ["gun", "rifle"])]).NamesApart ∧
      (∃ e, ((squads [("Red", ["gun"]), ("Blue", ["gun", "rifle"])]).run Rat { trials := 1 } 1
          (fun i _ => 2 ≤ i) {}).report.get? "Red" "Boyz" = some e ∧
        e.Consistent (.ofStats "Boyz" 5 1 10 5)) ∧
      ∃ e, ((squads [("Red", ["gun"]), ("Blue", ["gun", "rifle"])]).run Rat { trials := 1 } 1
          (fun i _ => 2 ≤ i) {}).report.get? "Blue" "Boyz" = some e ∧ e.kills = 0 := by
  have hnames : (squads [("Red", ["gun"]), ("Blue", ["gun", "rifle"])]).NamesApart :=
    ⟨by decide, by decide⟩
  have hred : (((squads [("Red", ["gun"]), ("Blue", ["gun", "rifle"])]).run Rat { trials := 1 } 1
      (fun i _ => 2 ≤ i) {}).report.get? "Red" "Boyz").isSome = true := by decide +kernel
  have hblue : (((squads [("Red", ["gun"]), ("Blue", ["gun", "rifle"])]).run Rat { trials := 1 } 1
      (fun i _ => 2 ≤ i) {}).report.get? "Blue" "Boyz").isSome = true := by decide +kernel
  obtain ⟨-, hkills, -⟩ := kills_run (squads [("Red", ["gun"]), ("Blue", ["gun", "rifle"])])
    { trials := 1 } 1 (fun i _ => 2 ≤ i) {}
  obtain ⟨e, he⟩ := Option.isSome_iff_exists.1 hred
  obtain ⟨e', he'⟩ := Option.isSome_iff_exists.1 hblue
  refine ⟨hnames, ⟨e, he, ?_⟩, e', he', ?_⟩
  · have hred' := hkills hnames _ List.mem_cons_self _ List.mem_cons_self e he
    rwa [if_pos (by decide)] at hred'
  · have hblue' := hkills hnames _ (List.mem_cons_of_mem _ List.mem_cons_self) _
      List.mem_cons_self e' he'
    rwa [if_neg (by decide)] at hblue'

/-- The second of two squads of one name has the last word on the estimate, while the weapons of both
are in the entry; and a squad that is cancelled between two weapons has an entry without an estimate. -/
theorem not_consistent_squads :
    (squadsRecord [("Squad", ["gun"]), ("Squad", ["rifle"])]).resolve =
        .ok (squads [("Squad", ["gun"]), ("Squad", ["rifle"])]) ∧
      (∃ e, ((squads [("Squad", ["gun"]), ("Squad", ["rifle"])]).run Rat { trials := 1 } 1
          (fun _ => .whole) {}).report.get? "Squad" "Boyz" = some e ∧
        e.kills = 0 ∧ e.damage = 1 ∧ ¬ e.Consistent (.ofStats "Boyz" 5 1 10 5)) ∧
      ∃ e, ((squads [("Squad", ["gun", "rifle"])]).run Rat { trials := 1 } 1
          (fun i _ => 1 ≤ i) {}).report.get? "Squad" "Boyz" = some e ∧
        e.kills = 0 ∧ e.damage = 1 ∧ ¬ e.Consistent (.ofStats "Boyz" 5 1 10 5) := by
  have hnamesakes : (((squads [("Squad", ["gun"]), ("Squad", ["rifle"])]).run Rat { trials := 1 } 1
      (fun _ => .whole) {}).report.get? "Squad" "Boyz").any (fun e =>
        e.kills = 0 ∧ e.damage = 1 ∧ ¬ e.Consistent (.ofStats "Boyz" 5 1 10 5)) = true := by
    decide +kernel
  have hcancelled : (((squads [("Squad", ["gun", "rifle"])]).run Rat { trials := 1 } 1
      (fun i _ => 1 ≤ i) {}).report.get? "Squad" "Boyz").any (fun e =>
        e.kills = 0 ∧ e.damage = 1 ∧ ¬ e.Consistent (.ofStats "Boyz" 5 1 10 5)) = true := by
    decide +kernel
  refine ⟨rfl, ?_, ?_⟩
  · obtain ⟨e, he, hkills⟩ := (Option.any_eq_true ..).1 hnamesakes
    exact ⟨e, he, of_decide_eq_true hkills⟩
  · obtain ⟨e, he, hkills⟩ := (Option.any_eq_true ..).1 hcancelled
    exact ⟨e, he, of_decide_eq_true hkills⟩

end ResolvedScenario

end Salvo
