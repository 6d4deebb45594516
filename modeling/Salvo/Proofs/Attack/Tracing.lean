import Salvo.Dice.Script
import Salvo.Proofs.Attack.Checked

/-!
# Traced trials

A traced trial records each stage as soon as it is resolved. It fails its checks where a trial without a
trace does, and otherwise rolls the same dice and has the same summary, whatever the trace holds. Its four
events tell all that the summary says, so `Trial.ofEvents?` finds the summary from them
(`tracedTrial_observes`).
-/

namespace Salvo

def CombatEvent.count? (e : CombatEvent) (name : String) : Option Nat :=
  match e.values.lookup name with
  | some (.int n) => n.toNat?
  | _ => none

/-- The summary of an attack that four events tell, one for each stage. The wounds are those rolled
for, those that allow no save and those that needed no roll. -/
def Trial.ofEvents? : List CombatEvent → Option Trial
  | [hit, wound, save, damage] => do
    let rolled ← wound.count? "wounds"
    let mortal ← wound.count? "mortal_wounds"
    let unrolled ← hit.count? "auto_wounds"
    return {
      attacks := ← hit.count? "attacks"
      hits := ← hit.count? "hits"
      wounds := rolled + mortal + unrolled
      mortalWounds := mortal
      failedSaves := ← save.count? "failed"
      damage := ← damage.count? "damage"
      modelsDestroyed := ← damage.count? "models_destroyed" }
  | _ => none

theorem Trace.recordAll_eq (t : Trace) (es : List CombatEvent) :
    t.recordAll es = if t.enabled then { t with events := t.events ++ es } else t := by
  split
  · rename_i henabled
    exact t.recordAll_enabled henabled es
  · rename_i hdisabled
    exact t.recordAll_disabled (Bool.eq_false_iff.2 hdisabled) es

theorem Outcomes.ofEvents?_events (o : Outcomes) : Trial.ofEvents? o.events = some o.trial := rfl

section Traced

variable {σ : Type} [DiceSource σ] (w : WeaponProfile) (d : DefenderProfile) (config : AttackConfig)

namespace Checked

def attack : Checked σ Outcomes := do
  let hit ← resolveHits w d config.engagement
  let wound ← resolveWounds hit.hits w d
  let toSave ← count (wound.wounds + hit.autoWounds)
  let save ← resolveSaves toSave w d
  let damage ← resolveDamage save.failed wound.mortalWounds w d config
  return ⟨hit, wound, save, damage⟩

theorem trial_eq_attack :
    (trial w d config : Checked σ Trial) = (do
      let o ← attack w d config
      summary o) := by
  simp only [trial, attack, bind_assoc, pure_bind]

theorem tracedTrial_eq_attack (t : Trace) :
    (tracedTrial w d config t : Checked σ (Trial × Trace)) = (do
      let o ← attack w d config
      let result ← summary o
      return (result, t.recordAll o.events)) := by
  simp only [tracedTrial, attack, bind_assoc, pure_bind]
  rfl

variable {w d config} {s : σ}

theorem run_trial_eq_some_iff {r : Trial × σ} :
    (trial w d config).run s = some r ↔
      ∃ o, (attack w d config).run s = some (o, r.2) ∧ Succeeds (summary o) r.2 ∧ o.trial = r.1 := by
  rw [trial_eq_attack, run_bind, Option.bind_eq_some_iff]
  constructor
  · rintro ⟨x, hx, hsummary⟩
    have hresult := refines_summary x.1 x.2 r hsummary
    obtain rfl : (x.1.trial, x.2) = r := hresult
    exact ⟨x.1, hx, ⟨_, hsummary⟩, rfl⟩
  · rintro ⟨o, ho, hsummary, htrial⟩
    refine ⟨_, ho, ((refines_summary o).run_eq hsummary).trans ?_⟩
    exact congrArg some (Prod.ext htrial rfl)

theorem run_tracedTrial_eq_some_iff {t : Trace} {r : (Trial × Trace) × σ} :
    (tracedTrial w d config t).run s = some r ↔
      ∃ o, (attack w d config).run s = some (o, r.2) ∧ Succeeds (summary o) r.2 ∧
        (o.trial, t.recordAll o.events) = r.1 := by
  rw [tracedTrial_eq_attack, run_bind, Option.bind_eq_some_iff]
  have hrecorded (o : Outcomes) : Refines
      (do let result ← summary o; return (result, t.recordAll o.events) : Checked σ (Trial × Trace))
      (pure (o.trial, t.recordAll o.events)) := .pure_bind (refines_summary o) (.pure rfl)
  constructor
  · rintro ⟨x, hx, hsummary⟩
    have hresult := hrecorded x.1 x.2 r hsummary
    obtain rfl : ((x.1.trial, t.recordAll x.1.events), x.2) = r := hresult
    exact ⟨x.1, hx, ((refines_summary x.1).succeeds_bind_iff.1 ⟨_, hsummary⟩).1, rfl⟩
  · rintro ⟨o, ho, hsummary, htrial⟩
    refine ⟨_, ho, ((hrecorded o).run_eq ?_).trans ?_⟩
    · exact (refines_summary o).succeeds_bind_iff.2 ⟨hsummary, succeeds_pure _ _⟩
    · exact congrArg some (Prod.ext htrial rfl)

theorem succeeds_tracedTrial_iff {t : Trace} :
    Succeeds (tracedTrial w d config t) s ↔ Succeeds (trial w d config) s := by
  constructor
  · rintro ⟨r, hr⟩
    obtain ⟨o, ho, hsummary, -⟩ := run_tracedTrial_eq_some_iff.1 hr
    exact ⟨(o.trial, r.2), run_trial_eq_some_iff.2 ⟨o, ho, hsummary, rfl⟩⟩
  · rintro ⟨r, hr⟩
    obtain ⟨o, ho, hsummary, -⟩ := run_trial_eq_some_iff.1 hr
    exact ⟨((o.trial, t.recordAll o.events), r.2),
      run_tracedTrial_eq_some_iff.2 ⟨o, ho, hsummary, rfl⟩⟩

end Checked

/-- Tracing observes a trial without a hand in it, on any dice. If a check of the trial fails, one of the
traced trial does, whatever the trace. Otherwise there are four events, one for each stage in order, from
which the summary can be found; every trace gives the same summary and leaves the same dice as no trace,
gains these four behind what it holds if it is enabled, and stays as it is if not. -/
theorem tracedTrial_observes (s : σ) :
    ((Checked.trial w d config).run s = none →
        ∀ t : Trace, (Checked.tracedTrial w d config t).run s = none) ∧
      ∀ result rest, (Checked.trial w d config).run s = some (result, rest) →
        ∃ events : List CombatEvent,
          events.map CombatEvent.phase = ["hit", "wound", "save", "damage"] ∧
          Trial.ofEvents? events = some result ∧
          ∀ t : Trace, (Checked.tracedTrial w d config t).run s =
            some ((result, if t.enabled then { t with events := t.events ++ events } else t), rest) := by
  constructor
  · intro hfail t
    rw [Option.eq_none_iff_forall_ne_some]
    intro r hr
    obtain ⟨r', hr'⟩ := Checked.succeeds_tracedTrial_iff.1 ⟨r, hr⟩
    rw [hfail] at hr'
    cases hr'
  · intro result rest hrun
    obtain ⟨o, ho, hsummary, rfl⟩ := Checked.run_trial_eq_some_iff.1 hrun
    refine ⟨o.events, rfl, o.ofEvents?_events, fun t => ?_⟩
    rw [Checked.run_tracedTrial_eq_some_iff]
    exact ⟨o, ho, hsummary, by rw [Trace.recordAll_eq]⟩

def axe (lethal : Bool) (extra : Int) : WeaponProfile :=
  { WeaponProfile.ofStats "axe" (.constant 3) 3 4 0 (.constant 1) with
    effects := { lethalHits := lethal, sustainedHits := some (.constant extra) } }

/-- A critical hit, a hit and a miss behind an event that was recorded before; and three critical hits of
which the last one cannot be counted. -/
theorem tracedTrial_observes_axe :
    (∃ events, Trial.ofEvents? events = some ⟨3, 2, 2, 0, 1, 1, 0⟩ ∧
      (Checked.tracedTrial (axe true 1) (.ofStats "marines" 4 2 5 3) {}
          ⟨true, [⟨"note", "start", []⟩]⟩).run (Script.ofFaces [6, 4, 1, 5, 3, 2, 4]) =
        some ((⟨3, 2, 2, 0, 1, 1, 0⟩, ⟨true, ⟨"note", "start", []⟩ :: events⟩),
          ⟨#[6, 4, 1, 5, 3, 2, 4], 7⟩)) ∧
      (Checked.tracedTrial (axe false 2147483647) (.ofStats "marines" 4 2 5 3) {} ⟨true, []⟩).run
        (Script.ofFaces [6]) = none := by
  obtain ⟨-, hresult⟩ := tracedTrial_observes (axe true 1) (.ofStats "marines" 4 2 5 3) {}
    (Script.ofFaces [6, 4, 1, 5, 3, 2, 4])
  obtain ⟨hfail, -⟩ := tracedTrial_observes (axe false 2147483647) (.ofStats "marines" 4 2 5 3) {}
    (Script.ofFaces [6])
  obtain ⟨events, -, hevents, htraced⟩ := hresult ⟨3, 2, 2, 0, 1, 1, 0⟩
    ⟨#[6, 4, 1, 5, 3, 2, 4], 7⟩ rfl
  exact ⟨⟨events, hevents, htraced _⟩, hfail rfl _⟩

end Traced

end Salvo
