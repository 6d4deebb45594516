import Mathlib.Data.List.Induction
import Mathlib.Data.List.TakeWhile
import Salvo.Proofs.Batch.Pool

/-!
# Interleavings of workers

The steps of workers on a batch as a list of events, in the order in which they happen. `Pool.replay`
makes the steps one after the other, so an interleaving is a list of events that it does not refuse,
and what can be replayed is what the steps of `Pool.Step` lead to.

The events alone tell which chunks are skipped, namely those that are taken up after the batch is
cancelled, and in which order the others are added to the counter.
-/

namespace Salvo

/-- What happens in a step of a pool, and to which chunk. -/
inductive PoolEvent where
  /-- A worker takes the chunk up and looks whether the batch is cancelled. -/
  | begin (chunk : Nat)
  | run (chunk : Nat)
  /-- The size of the chunk is added to the counter. -/
  | count (chunk : Nat)
  /-- The count that the chunk led to is sent. -/
  | send (chunk : Nat)
  | cancel
deriving DecidableEq, Repr

namespace PoolEvent

def begun? : PoolEvent → Option Nat
  | begin i => some i
  | _ => none

def added? : PoolEvent → Option Nat
  | count i => some i
  | _ => none

/-- The chunks that are added to the counter, in that order. -/
def added (events : List PoolEvent) : List Nat := events.filterMap added?

/-- The chunks that are taken up after the batch is cancelled, in that order. -/
def late (events : List PoolEvent) : List Nat :=
  (events.dropWhile (· ≠ cancel)).filterMap begun?

theorem added_append_singleton (events : List PoolEvent) (e : PoolEvent) :
    added (events ++ [e]) = added events ++ e.added?.toList := by
  cases e <;> simp [added, added?]

theorem added_append_of_none (events : List PoolEvent) {e : PoolEvent} (h : e.added? = none) :
    added (events ++ [e]) = added events := by
  rw [added_append_singleton, h, Option.toList_none, List.append_nil]

theorem late_append_singleton (events : List PoolEvent) (e : PoolEvent) :
    late (events ++ [e]) =
      if .cancel ∈ events then late events ++ e.begun?.toList else late events := by
  rw [late, late, List.dropWhile_append]
  by_cases hcancel : .cancel ∈ events
  · have hrest : (events.dropWhile (· ≠ cancel)).isEmpty = false := by
      rw [List.isEmpty_eq_false_iff, Ne, List.dropWhile_eq_nil_iff]
      intro hall
      simpa using hall _ hcancel
    rw [if_pos hcancel, hrest, if_neg Bool.false_ne_true, List.filterMap_append]
    cases e <;> rfl
  · have hrest : events.dropWhile (· ≠ cancel) = [] := by
      rw [List.dropWhile_eq_nil_iff]
      intro e he
      have hne : e ≠ .cancel := fun heq => hcancel (heq ▸ he)
      simpa using hne
    rw [if_neg hcancel, hrest]
    cases e <;> rfl

theorem late_append_of_none (events : List PoolEvent) {e : PoolEvent} (h : e.begun? = none) :
    late (events ++ [e]) = late events := by
  rw [late_append_singleton, h, Option.toList_none, List.append_nil, ite_self]

end PoolEvent

namespace Pool

variable {α : Type} {job : PoolJob α} {p q : Pool α} {events : List PoolEvent}

section Replay

instance (job : PoolJob α) (p : Pool α) : Decidable (p.HasRoom job) :=
  inferInstanceAs (Decidable (∀ t ∈ job.threads, p.busy < t))

/-- What a pool comes to by an event, if it can happen. -/
def after? (job : PoolJob α) (p : Pool α) : PoolEvent → Option (Pool α)
  | .begin i =>
    match p.chunks[i]? with
    | some .waiting =>
      if p.HasRoom job then
        some { p with chunks := p.chunks.set i (if p.cancelled then .skipped else .running) }
      else none
    | _ => none
  | .run i =>
    match p.chunks[i]?, job.ranges[i]? with
    | some .running, some r => some { p with chunks := p.chunks.set i (.finished (job.run i r)) }
    | _, _ => none
  | .count i =>
    match p.chunks[i]?, job.ranges[i]? with
    | some (.finished items), some r =>
      some { p with
        chunks := p.chunks.set i (.counted items (p.completed + r.size))
        completed := p.completed + r.size }
    | _, _ => none
  | .send i =>
    match p.chunks[i]? with
    | some (.counted items completed) =>
      some { p with
        chunks := p.chunks.set i (.done items)
        sent := p.sent ++ [⟨completed, job.total⟩] }
    | _ => none
  | .cancel => some { p with cancelled := true }

/-- What a pool comes to by events that happen one after the other from its beginning. -/
def replay (job : PoolJob α) (events : List PoolEvent) : Option (Pool α) :=
  events.foldlM (after? job) (start job)

theorem replay_append_singleton (events : List PoolEvent) (e : PoolEvent) :
    replay job (events ++ [e]) = (replay job events).bind fun p => p.after? job e := by
  simp [replay, List.foldlM_append]

theorem after?_begin_iff {i : Nat} :
    p.after? job (.begin i) = some q ↔ p.chunks[i]? = some .waiting ∧ p.HasRoom job ∧
      q = { p with chunks := p.chunks.set i (if p.cancelled then .skipped else .running) } := by
  simp only [after?]
  split
  · rename_i hc
    rw [hc]
    by_cases hroom : p.HasRoom job
    · rw [if_pos hroom, Option.some.injEq]
      constructor
      · rintro rfl
        exact ⟨rfl, hroom, rfl⟩
      · rintro ⟨-, -, rfl⟩
        rfl
    · simp [hroom]
  · simp_all

theorem after?_run_iff {i : Nat} :
    p.after? job (.run i) = some q ↔ ∃ r, p.chunks[i]? = some .running ∧ job.ranges[i]? = some r ∧
      q = { p with chunks := p.chunks.set i (.finished (job.run i r)) } := by
  simp only [after?]
  split
  · rename_i r hc hr
    rw [hc, hr]
    simp [eq_comm]
  · simp_all

theorem after?_count_iff {i : Nat} :
    p.after? job (.count i) = some q ↔ ∃ r items, p.chunks[i]? = some (.finished items) ∧
      job.ranges[i]? = some r ∧
      q = { p with
        chunks := p.chunks.set i (.counted items (p.completed + r.size))
        completed := p.completed + r.size } := by
  simp only [after?]
  split
  · rename_i items r hc hr
    rw [hc, hr]
    simp [eq_comm]
  · simp_all

theorem after?_send_iff {i : Nat} :
    p.after? job (.send i) = some q ↔ ∃ items completed,
      p.chunks[i]? = some (.counted items completed) ∧
      q = { p with
        chunks := p.chunks.set i (.done items)
        sent := p.sent ++ [⟨completed, job.total⟩] } := by
  simp only [after?]
  split
  · rename_i items completed hc
    rw [hc]
    simp [eq_comm]
  · simp_all

theorem work_iff_exists_after? :
    Work job p q ↔ ∃ e, e ≠ .cancel ∧ p.after? job e = some q := by
  constructor
  · rintro (⟨hc, hroom⟩ | ⟨hc, hr⟩ | ⟨hc, hr⟩ | hc)
    · exact ⟨.begin _, nofun, after?_begin_iff.2 ⟨hc, hroom, rfl⟩⟩
    · exact ⟨.run _, nofun, after?_run_iff.2 ⟨_, hc, hr, rfl⟩⟩
    · exact ⟨.count _, nofun, after?_count_iff.2 ⟨_, _, hc, hr, rfl⟩⟩
    · exact ⟨.send _, nofun, after?_send_iff.2 ⟨_, _, hc, rfl⟩⟩
  · rintro ⟨e, hne, he⟩
    cases e with
    | begin i =>
        obtain ⟨hc, hroom, rfl⟩ := after?_begin_iff.1 he
        exact .begin hc hroom
    | run i =>
        obtain ⟨r, hc, hr, rfl⟩ := after?_run_iff.1 he
        exact .run hc hr
    | count i =>
        obtain ⟨r, items, hc, hr, rfl⟩ := after?_count_iff.1 he
        exact .count hc hr
    | send i =>
        obtain ⟨items, completed, hc, rfl⟩ := after?_send_iff.1 he
        exact .send hc
    | cancel => exact absurd rfl hne

theorem step_iff_exists_after? : Step job p q ↔ ∃ e, p.after? job e = some q := by
  constructor
  · rintro (hwork | _)
    · obtain ⟨e, -, he⟩ := work_iff_exists_after?.1 hwork
      exact ⟨e, he⟩
    · exact ⟨.cancel, rfl⟩
  · rintro ⟨e, he⟩
    by_cases hcancel : e = .cancel
    · subst hcancel
      cases he
      exact .cancel p
    · exact .work (work_iff_exists_after?.2 ⟨e, hcancel, he⟩)

theorem reachable_iff_exists_replay : Reachable job p ↔ ∃ events, replay job events = some p := by
  constructor
  · intro h
    induction h with
    | refl => exact ⟨[], rfl⟩
    | tail _ hstep ih =>
        obtain ⟨events, hevents⟩ := ih
        obtain ⟨e, he⟩ := step_iff_exists_after?.1 hstep
        refine ⟨events ++ [e], ?_⟩
        rw [replay_append_singleton, hevents]
        exact he
  · rintro ⟨events, h⟩
    induction events using List.reverseRecOn generalizing p with
    | nil =>
        cases h
        exact .refl
    | append_singleton events e ih =>
        rw [replay_append_singleton, Option.bind_eq_some_iff] at h
        obtain ⟨before, hbefore, he⟩ := h
        exact (ih hbefore).tail (step_iff_exists_after?.2 ⟨e, he⟩)

theorem exists_replay_append (h : replay job events = some p)
    (hwork : Relation.ReflTransGen (Work job) p q) :
    ∃ more, .cancel ∉ more ∧ replay job (events ++ more) = some q := by
  induction hwork with
  | refl => exact ⟨[], List.not_mem_nil, by rwa [List.append_nil]⟩
  | tail _ hstep ih =>
      obtain ⟨more, hworkers, hmore⟩ := ih
      obtain ⟨e, hne, he⟩ := work_iff_exists_after?.1 hstep
      refine ⟨more ++ [e], ?_, ?_⟩
      · rw [List.mem_append, List.mem_singleton]
        exact not_or.2 ⟨hworkers, hne.symm⟩
      · rw [← List.append_assoc, replay_append_singleton, hmore]
        exact he

end Replay

end Pool

end Salvo
