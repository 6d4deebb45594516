import Salvo.Proofs.Scenario.Locality
import Salvo.Proofs.Scenario.Seeds

/-!
# Runs that are cancelled

A batch of which a chunk is skipped ends the run, and nothing of it is reported. So a run reports the
combinations before the first batch that is cut short, each by the summary of its whole batch, and
nothing else (`result?_run_of_schedules`).
-/

namespace Salvo

section Cut

/-- Some chunk of a batch is skipped. -/
def Settings.cutsShort (settings : Settings) (schedule : Schedule) : Bool :=
  (List.range settings.chunkCount).any schedule

theorem cancelled_runChunks {α : Type} (total count : Nat) (schedule : Schedule)
    (run : Nat → Range → List α) :
    (runChunks total count schedule run).cancelled =
      (List.range (ranges total count).length).any schedule := by
  rw [Bool.eq_iff_iff, ChunkedRun.cancelled, decide_eq_true_iff, List.any_eq_true]
  simp only [runChunks, ChunkedRun.ofChunks, chunkResults, List.countP_pos_iff, List.mem_mapIdx,
    List.mem_range]
  constructor
  · rintro ⟨_, ⟨j, hj, rfl⟩, hnone⟩
    refine ⟨j, hj, ?_⟩
    by_cases hskip : schedule j = true
    · exact hskip
    · simp [hskip] at hnone
  · rintro ⟨j, hj, hskip⟩
    exact ⟨_, ⟨j, hj, rfl⟩, by simp [hskip]⟩

theorem Combination.cancelled_batch (c : Combination) (config : AttackConfig) (settings : Settings)
    (base : UInt64) (schedule : Schedule) :
    (c.batch config settings base schedule).cancelled = settings.cutsShort schedule := by
  rw [batch, runBatchChunked, cancelled_runChunks, settings.max_progressReports]
  rfl

/-- The number of batches, out of `n`, before the first one that is cut short. -/
def wholeBatches (settings : Settings) (schedules : Nat → Schedule) (n : Nat) : Nat :=
  (List.range n).findIdx fun i => settings.cutsShort (schedules i)

variable {settings : Settings} {schedules : Nat → Schedule} {k n : Nat}

theorem wholeBatches_eq_self (h : ∀ i < n, settings.cutsShort (schedules i) = false) :
    wholeBatches settings schedules n = n := by
  refine (List.findIdx_eq_length_of_false fun i hi => ?_).trans List.length_range
  exact h i (List.mem_range.1 hi)

theorem wholeBatches_eq (hk : k < n) (hcut : settings.cutsShort (schedules k) = true)
    (h : ∀ i < k, settings.cutsShort (schedules i) = false) :
    wholeBatches settings schedules n = k := by
  rw [wholeBatches, List.findIdx_eq (by rwa [List.length_range])]
  simpa using ⟨hcut, h⟩

end Cut

namespace ScenarioRun

variable {α : Type} [Scalar α] {config : AttackConfig} {settings : Settings} {base : UInt64}
  {schedules : Nat → Schedule} {run : ScenarioRun α} {state : ScenarioRun α × α}
  {a : Attacker} {d : DefenderProfile}

section Numbers

variable (settings schedules) in
/-- The batches with these numbers, from the first up to the second, are not cut short. -/
def WholeFrom (first last : Nat) : Prop :=
  ∀ i, first ≤ i → i < last → settings.cutsShort (schedules i) = false

theorem WholeFrom.trans {i j k : Nat} (h : WholeFrom settings schedules i j)
    (h' : WholeFrom settings schedules j k) : WholeFrom settings schedules i k := by
  intro n hfirst hlast
  rcases Nat.lt_or_ge n j with hlt | hge
  · exact h n hfirst hlt
  · exact h' n hge hlast

theorem begun_addCombination {c : Combination}
    (h : (addCombination config settings base schedules state c).1.cancelled = false) :
    (addCombination config settings base schedules state c).1.begun = state.1.begun + 1 ∧
      WholeFrom settings schedules state.1.begun (state.1.begun + 1) := by
  obtain ⟨run, total⟩ := state
  have hrun : run.cancelled = false := (addCombination_of_uncancelled h).1
  cases hbatch : (c.batch config settings base (schedules run.begun)).cancelled with
  | true =>
      rw [addCombination_of_skipped schedules hrun hbatch] at h
      cases h
  | false =>
      rw [addCombination_of_whole schedules hrun hbatch]
      refine ⟨rfl, fun i hfirst hlast => ?_⟩
      obtain rfl : i = run.begun := Nat.le_antisymm (Nat.le_of_lt_succ hlast) hfirst
      rwa [c.cancelled_batch] at hbatch

theorem begun_foldl_addCombination {cs : List Combination}
    (h : (cs.foldl (addCombination config settings base schedules) state).1.cancelled = false) :
    (cs.foldl (addCombination config settings base schedules) state).1.begun =
        state.1.begun + cs.length ∧
      WholeFrom settings schedules state.1.begun (state.1.begun + cs.length) := by
  induction cs generalizing state with
  | nil => exact ⟨rfl, fun i hfirst hlast => absurd hlast (Nat.not_lt.2 hfirst)⟩
  | cons c cs ih =>
      obtain ⟨hone, hwhole⟩ := begun_addCombination (uncancelled_of_foldl_addCombination h)
      obtain ⟨hrest, hrests⟩ := ih h
      rw [hone] at hrest hrests
      rw [List.length_cons, Nat.add_comm cs.length, ← Nat.add_assoc]
      exact ⟨hrest, hwhole.trans hrests⟩

theorem begun_addPair (run : ScenarioRun α) (a : Attacker) (d : DefenderProfile) :
    (addPair config settings base schedules run (a, d)).begun =
      ((a.against d).foldl (addCombination config settings base schedules)
        (run, Scalar.ofCount 0)).1.begun := by
  rw [addPair, closePair]
  dsimp only
  split <;> rfl

theorem begun_foldl_addPair {pairs : List (Attacker × DefenderProfile)}
    (h : (pairs.foldl (addPair config settings base schedules) run).cancelled = false) :
    (pairs.foldl (addPair config settings base schedules) run).begun =
        run.begun + (pairs.flatMap fun pair => pair.1.against pair.2).length ∧
      WholeFrom settings schedules run.begun
        (run.begun + (pairs.flatMap fun pair => pair.1.against pair.2).length) := by
  induction pairs generalizing run with
  | nil => exact ⟨rfl, fun i hfirst hlast => absurd hlast (Nat.not_lt.2 hfirst)⟩
  | cons pair pairs ih =>
      obtain ⟨a, d⟩ := pair
      have hpair : (addPair config settings base schedules run (a, d)).cancelled = false :=
        uncancelled_of_foldl_addPair h
      obtain ⟨hone, hwhole⟩ := begun_foldl_addCombination (addPair_of_uncancelled hpair).1
      obtain ⟨hrest, hrests⟩ := ih h
      rw [begun_addPair, hone] at hrest hrests
      rw [List.flatMap_cons, List.length_append, ← Nat.add_assoc]
      exact ⟨hrest, hwhole.trans hrests⟩

end Numbers

section CutShort

theorem addCombination_of_ended (h : state.1.cancelled = true) (c : Combination) :
    addCombination config settings base schedules state c = state :=
  addCombination_of_cancelled schedules h state.2 c

theorem foldl_addCombination_of_ended (h : state.1.cancelled = true) (cs : List Combination) :
    cs.foldl (addCombination config settings base schedules) state = state := by
  induction cs with
  | nil => rfl
  | cons c cs ih => rw [List.foldl_cons, addCombination_of_ended h, ih]

theorem addPair_of_cancelled
    (h : ((a.against d).foldl (addCombination config settings base schedules)
        (run, Scalar.ofCount 0)).1.cancelled = true) :
    addPair config settings base schedules run (a, d) =
      ((a.against d).foldl (addCombination config settings base schedules)
        (run, Scalar.ofCount 0)).1 := by
  rw [addPair, closePair]
  dsimp only
  rw [if_pos h]

theorem addPair_of_ended (h : run.cancelled = true) (a : Attacker) (d : DefenderProfile) :
    addPair config settings base schedules run (a, d) = run := by
  have hstay : (a.against d).foldl (addCombination config settings base schedules)
      (run, Scalar.ofCount 0) = (run, Scalar.ofCount 0) :=
    foldl_addCombination_of_ended h _
  rw [addPair, closePair, hstay]
  exact if_pos h

variable (config settings base schedules) in
/-- A run over combinations is cut short in the batch of `c`, after the batches of `made`, and reports
nothing more. -/
structure CutShort (state : ScenarioRun α × α) (cs made : List Combination) (c : Combination) :
    Prop where
  split : ∃ rest, cs = made ++ c :: rest
  uncancelled :
    (made.foldl (addCombination config settings base schedules) state).1.cancelled = false
  cut : settings.cutsShort (schedules
    (made.foldl (addCombination config settings base schedules) state).1.begun) = true
  cancelled : (cs.foldl (addCombination config settings base schedules) state).1.cancelled = true
  report_eq : (cs.foldl (addCombination config settings base schedules) state).1.report =
    (made.foldl (addCombination config settings base schedules) state).1.report

/-- The batch of the next combination is made in full, or the run is cut short there. -/
theorem addCombination_cases (h : state.1.cancelled = false) (c : Combination) :
    (addCombination config settings base schedules state c).1.cancelled = false ∨
      settings.cutsShort (schedules state.1.begun) = true ∧
        (addCombination config settings base schedules state c).1.cancelled = true ∧
        (addCombination config settings base schedules state c).1.report = state.1.report := by
  obtain ⟨run, total⟩ := state
  cases hbatch : (c.batch config settings base (schedules run.begun)).cancelled with
  | true =>
      rw [addCombination_of_skipped schedules h hbatch]
      rw [c.cancelled_batch] at hbatch
      exact .inr ⟨hbatch, rfl, rfl⟩
  | false =>
      rw [addCombination_of_whole schedules h hbatch]
      exact .inl rfl

theorem foldl_addCombination_cases (h : state.1.cancelled = false) (cs : List Combination) :
    (cs.foldl (addCombination config settings base schedules) state).1.cancelled = false ∨
      ∃ made c, CutShort config settings base schedules state cs made c := by
  -- From the right, so that what has been made is a prefix of what is still to be made.
  induction cs using List.reverseRecOn with
  | nil => exact .inl h
  | append_singleton cs last ih =>
      rcases ih with hmade | ⟨made, c, hcut⟩
      · rcases addCombination_cases hmade last with hlast | ⟨hlast, hcancelled, hreport⟩
        · refine .inl ?_
          rwa [List.foldl_append]
        · refine .inr ⟨cs, last, ⟨[], rfl⟩, hmade, hlast, ?_, ?_⟩
          · rwa [List.foldl_append]
          · rwa [List.foldl_append]
      · obtain ⟨rest, hrest⟩ := hcut.split
        have hstay : (cs ++ [last]).foldl (addCombination config settings base schedules) state =
            cs.foldl (addCombination config settings base schedules) state := by
          rw [List.foldl_append]
          exact addCombination_of_ended hcut.cancelled last
        refine .inr ⟨made, c, ⟨rest ++ [last], by simp [hrest]⟩, hcut.uncancelled, hcut.cut, ?_, ?_⟩
        · rw [hstay]
          exact hcut.cancelled
        · rw [hstay]
          exact hcut.report_eq

variable (config settings base schedules) in
/-- A run over pairs is cut short in the batch of `c`, after the pairs of `done` and the batches of
`made` for the next pair. -/
structure CutShortAt (run : ScenarioRun α) (pairs done : List (Attacker × DefenderProfile))
    (a : Attacker) (d : DefenderProfile) (made : List Combination) (c : Combination) : Prop where
  split : ∃ rest, pairs = done ++ (a, d) :: rest
  uncancelled : (done.foldl (addPair config settings base schedules) run).cancelled = false
  pair : CutShort config settings base schedules
    (done.foldl (addPair config settings base schedules) run, (Scalar.ofCount 0 : α)) (a.against d)
    made c
  cancelled : (pairs.foldl (addPair config settings base schedules) run).cancelled = true
  report_eq : (pairs.foldl (addPair config settings base schedules) run).report =
    (made.foldl (addCombination config settings base schedules)
      (done.foldl (addPair config settings base schedules) run, Scalar.ofCount 0)).1.report

theorem foldl_addPair_cases (h : run.cancelled = false)
    (pairs : List (Attacker × DefenderProfile)) :
    (pairs.foldl (addPair config settings base schedules) run).cancelled = false ∨
      ∃ done a d made c, CutShortAt config settings base schedules run pairs done a d made c := by
  induction pairs using List.reverseRecOn with
  | nil => exact .inl h
  | append_singleton pairs last ih =>
      rcases ih with hdone | ⟨done, a, d, made, c, hcut⟩
      · obtain ⟨a, d⟩ := last
        have hstart : (pairs.foldl (addPair config settings base schedules) run,
            (Scalar.ofCount 0 : α)).1.cancelled = false := hdone
        rcases foldl_addCombination_cases hstart (a.against d) with hlast | ⟨made, c, hcut⟩
        · refine .inl ?_
          rw [List.foldl_append, List.foldl_cons, List.foldl_nil, addPair, closePair]
          dsimp only
          rw [if_neg (Bool.eq_false_iff.1 hlast)]
          exact hlast
        · have hlast := addPair_of_cancelled hcut.cancelled
          refine .inr ⟨pairs, a, d, made, c, ⟨[], rfl⟩, hdone, hcut, ?_, ?_⟩
          · rw [List.foldl_append, List.foldl_cons, List.foldl_nil, hlast]
            exact hcut.cancelled
          · rw [List.foldl_append, List.foldl_cons, List.foldl_nil, hlast]
            exact hcut.report_eq
      · obtain ⟨rest, hrest⟩ := hcut.split
        have hstay : (pairs ++ [last]).foldl (addPair config settings base schedules) run =
            pairs.foldl (addPair config settings base schedules) run := by
          rw [List.foldl_append]
          exact addPair_of_ended hcut.cancelled last.1 last.2
        refine .inr ⟨done, a, d, made, c, ⟨rest ++ [last], by simp [hrest]⟩, hcut.uncancelled,
          hcut.pair, ?_, ?_⟩
        · rw [hstay]
          exact hcut.cancelled
        · rw [hstay]
          exact hcut.report_eq

end CutShort

end ScenarioRun

namespace ResolvedScenario

variable {α : Type} [Scalar α] {s : ResolvedScenario} {settings : Settings} {base : UInt64}
  {schedules : Nat → Schedule} {progress : Progress} {done : List (Attacker × DefenderProfile)}
  {a : Attacker} {d : DefenderProfile} {made : List Combination} {c : Combination}

theorem wholeBatches_of_uncancelled
    (h : (s.run α settings base schedules progress).cancelled = false) :
    wholeBatches settings schedules s.combinations.length = s.combinations.length := by
  obtain ⟨-, hwhole⟩ := ScenarioRun.begun_foldl_addPair h
  refine wholeBatches_eq_self fun i hi => hwhole i (Nat.zero_le i) ?_
  rwa [Nat.zero_add]

/-- A run that is cut short has made the batches before the first one that is cut short. -/
theorem take_combinations_of_cutShortAt
    (h : ScenarioRun.CutShortAt (s.config settings) settings base schedules
      (⟨.empty, false, progress, 0⟩ : ScenarioRun α) s.pairs done a d made c) :
    wholeBatches settings schedules s.combinations.length < s.combinations.length ∧
      s.combinations.take (wholeBatches settings schedules s.combinations.length) =
        (done.flatMap fun pair => pair.1.against pair.2) ++ made := by
  obtain ⟨rest, hpairs⟩ := h.split
  obtain ⟨after, hagainst⟩ := h.pair.split
  obtain ⟨hdone, hdones⟩ := ScenarioRun.begun_foldl_addPair h.uncancelled
  obtain ⟨hmade, hmades⟩ := ScenarioRun.begun_foldl_addCombination h.pair.uncancelled
  have hcombinations : s.combinations = (done.flatMap fun pair => pair.1.against pair.2) ++ made ++
      (c :: after ++ rest.flatMap fun pair => pair.1.against pair.2) := by
    simp [combinations, hpairs, hagainst]
  have hbatches : wholeBatches settings schedules s.combinations.length =
      ((done.flatMap fun pair => pair.1.against pair.2) ++ made).length := by
    have hcut := h.pair.cut
    have hwhole := hdones.trans (hdone ▸ hmades)
    simp only [hmade, hdone, Nat.zero_add, ← List.length_append] at hcut hwhole
    refine wholeBatches_eq ?_ hcut fun i => hwhole i (Nat.zero_le i)
    simp [hcombinations]
  rw [hbatches]
  constructor
  · simp [hcombinations]
  · rw [hcombinations, List.take_left]

variable (α) in
theorem run_cases (s : ResolvedScenario) (settings : Settings) (base : UInt64)
    (schedules : Nat → Schedule) (progress : Progress) :
    (s.run α settings base schedules progress).cancelled = false ∨ ∃ done a d made c,
      ScenarioRun.CutShortAt (s.config settings) settings base schedules
        (⟨.empty, false, progress, 0⟩ : ScenarioRun α) s.pairs done a d made c :=
  ScenarioRun.foldl_addPair_cases rfl s.pairs

/-- A run reports the combinations before the first batch that is cut short. -/
theorem result?_run_take (s : ResolvedScenario) (settings : Settings) (base : UInt64)
    (schedules : Nat → Schedule) (progress : Progress) (names : ResultNames) :
    (s.run α settings base schedules progress).report.result? names =
      (lastNamed names (s.combinations.take
        (wholeBatches settings schedules s.combinations.length))).map fun c =>
          c.summary α (s.config settings) settings base := by
  rcases run_cases α s settings base schedules progress with
    hwhole | ⟨done, a, d, made, c, hcut⟩
  · rw [result?_run hwhole, wholeBatches_of_uncancelled hwhole, List.take_length]
  · have hstart : (⟨.empty, false, progress, 0⟩ : ScenarioRun α).Reported (s.config settings)
        settings base [] := fun _ _ => rfl
    have hmade := (hstart.foldl_addPair schedules done).foldl_addCombination schedules
      (Scalar.ofCount 0) made hcut.pair.uncancelled names
    rw [(take_combinations_of_cutShortAt hcut).2, run, hcut.report_eq]
    exact hmade

end ResolvedScenario

end Salvo
