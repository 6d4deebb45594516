import Mathlib.Algebra.GroupWithZero.Nat
import Mathlib.Logic.Relation
import Salvo.Batch.Chunks

/-!
# Workers on a batch

The chunks of a batch are shared among workers. What a worker does with a chunk is a sequence of
steps: it looks whether the batch is cancelled, runs the chunk, counts its items and sends an update.
`Pool.Step` lets the steps of different chunks come in any order, with no more chunks under way than
there are threads, and lets the batch be cancelled at any time.

A pool that has finished has the results of `chunkResults`, whatever the order (`Pool.result_eq`), and
every pool can be brought to its end (`Pool.exists_finished`).
-/

namespace Salvo

/-- Where a chunk stands. -/
inductive ChunkPhase (α : Type) where
  /-- No worker has taken it up. -/
  | waiting
  /-- A worker has found the batch uncancelled and is about to run it. -/
  | running
  /-- It has been run and is not counted yet. -/
  | finished (items : List α)
  /-- It has been counted, and the count it led to is not sent yet. -/
  | counted (items : List α) (completed : Nat)
  | done (items : List α)
  /-- A worker has found the batch cancelled. -/
  | skipped

namespace ChunkPhase

variable {α : Type}

def items? : ChunkPhase α → Option (List α)
  | finished items => some items
  | counted items _ => some items
  | done items => some items
  | _ => none

def isBusy : ChunkPhase α → Bool
  | running => true
  | finished _ => true
  | counted _ _ => true
  | _ => false

def isOver : ChunkPhase α → Bool
  | done _ => true
  | skipped => true
  | _ => false

def isSkipped : ChunkPhase α → Bool
  | skipped => true
  | _ => false

def left : ChunkPhase α → Nat
  | waiting => 4
  | running => 3
  | finished _ => 2
  | counted _ _ => 1
  | done _ => 0
  | skipped => 0

end ChunkPhase

/-- A batch for workers to share. -/
structure PoolJob (α : Type) where
  total : Nat
  ranges : List Range
  run : Nat → Range → List α
  /-- The number of threads, if it is limited. -/
  threads : Option Nat

/-- A batch in chunks, with the threads that a number of workers stands for. -/
def PoolJob.ofBatch {α : Type} (total count workers : Nat) (run : Nat → Range → List α) :
    PoolJob α where
  total := total
  ranges := Salvo.ranges total count
  run := run
  threads := threadsFor workers (Salvo.ranges total count).length

theorem chunkResults_eq_whole {α : Type} {rs : List Range} {schedule : Schedule}
    {run : Nat → Range → List α}
    (h : (ChunkedRun.ofChunks (chunkResults rs schedule run)).cancelled = false) :
    chunkResults rs schedule run = chunkResults rs .whole run := by
  have hnone : none ∉ chunkResults rs schedule run := by
    intro hmem
    have hskipped : ¬ 0 < (chunkResults rs schedule run).countP (·.isNone) := of_decide_eq_false h
    exact hskipped (List.countP_pos_iff.2 ⟨none, hmem, rfl⟩)
  refine List.ext_getElem? fun i => ?_
  rw [chunkResults, chunkResults, List.getElem?_mapIdx, List.getElem?_mapIdx]
  cases hr : rs[i]? with
  | none => rfl
  | some r =>
      have hran : schedule i = false := by
        refine Bool.eq_false_iff.2 fun hskip => hnone ?_
        refine List.mem_of_getElem? (i := i) ?_
        rw [chunkResults, List.getElem?_mapIdx, hr, Option.map_some, if_pos hskip]
      rw [hran]
      rfl

/-- Workers at a batch: where each chunk stands, and what all of them share. -/
structure Pool (α : Type) where
  chunks : List (ChunkPhase α)
  cancelled : Bool
  completed : Nat
  /-- The updates that were sent, in order. -/
  sent : List ProgressUpdate

namespace Pool

variable {α : Type} {job : PoolJob α} {p q : Pool α}

def start (job : PoolJob α) : Pool α :=
  ⟨List.replicate job.ranges.length .waiting, false, 0, [⟨0, job.total⟩]⟩

def busy (p : Pool α) : Nat := p.chunks.countP ChunkPhase.isBusy

def HasRoom (job : PoolJob α) (p : Pool α) : Prop := ∀ t ∈ job.threads, p.busy < t

def Finished (p : Pool α) : Prop := ∀ c ∈ p.chunks, c.isOver = true

def result (p : Pool α) : ChunkedRun α := .ofChunks (p.chunks.map ChunkPhase.items?)

def schedule (p : Pool α) : Schedule := fun i => (p.chunks[i]?).any ChunkPhase.isSkipped

/-- A step of a worker. -/
inductive Work (job : PoolJob α) : Pool α → Pool α → Prop where
  | begin {p : Pool α} {i : Nat} (h : p.chunks[i]? = some .waiting) (room : p.HasRoom job) :
      Work job p { p with chunks := p.chunks.set i (if p.cancelled then .skipped else .running) }
  | run {p : Pool α} {i : Nat} {r : Range} (h : p.chunks[i]? = some .running)
      (range : job.ranges[i]? = some r) :
      Work job p { p with chunks := p.chunks.set i (.finished (job.run i r)) }
  | count {p : Pool α} {i : Nat} {r : Range} {items : List α}
      (h : p.chunks[i]? = some (.finished items)) (range : job.ranges[i]? = some r) :
      Work job p { p with
        chunks := p.chunks.set i (.counted items (p.completed + r.size))
        completed := p.completed + r.size }
  | send {p : Pool α} {i completed : Nat} {items : List α}
      (h : p.chunks[i]? = some (.counted items completed)) :
      Work job p { p with
        chunks := p.chunks.set i (.done items)
        sent := p.sent ++ [⟨completed, job.total⟩] }

/-- A step of a worker, or the batch is cancelled. -/
inductive Step (job : PoolJob α) : Pool α → Pool α → Prop where
  | work {p q : Pool α} (h : Work job p q) : Step job p q
  | cancel (p : Pool α) : Step job p { p with cancelled := true }

/-- The pool can come about. -/
def Reachable (job : PoolJob α) (p : Pool α) : Prop :=
  Relation.ReflTransGen (Step job) (start job) p

section Results

/-- A chunk has no other results than those of its range, and unless the batch is cancelled no chunk
is skipped. -/
structure Sound (job : PoolJob α) (p : Pool α) : Prop where
  length_eq : p.chunks.length = job.ranges.length
  items_eq : ∀ i c r items, p.chunks[i]? = some c → job.ranges[i]? = some r →
    c.items? = some items → items = job.run i r
  skipped_imp : .skipped ∈ p.chunks → p.cancelled = true

theorem sound_start : (start job).Sound job where
  length_eq := List.length_replicate
  items_eq := by
    intro i c r items hc _ hitems
    cases List.eq_of_mem_replicate (List.mem_of_getElem? hc)
    cases hitems
  skipped_imp := by
    intro h
    cases (List.mem_replicate.1 h).2

/-- Replacing the phase of one chunk keeps a pool sound if the new phase is sound. -/
theorem Sound.set (h : p.Sound job) {i : Nat} {c : ChunkPhase α} (completed : Nat)
    (sent : List ProgressUpdate)
    (hitems : ∀ r items, job.ranges[i]? = some r → c.items? = some items → items = job.run i r)
    (hskipped : c = .skipped → p.cancelled = true) :
    (⟨p.chunks.set i c, p.cancelled, completed, sent⟩ : Pool α).Sound job where
  length_eq := by
    rw [List.length_set, h.length_eq]
  items_eq := by
    intro j c' r items hc hr hitems'
    rw [List.getElem?_set] at hc
    split at hc
    · rename_i hij
      subst hij
      split at hc
      · cases hc
        exact hitems r items hr hitems'
      · cases hc
    · exact h.items_eq j c' r items hc hr hitems'
  skipped_imp := by
    intro hmem
    rcases List.mem_or_eq_of_mem_set hmem with hmem | heq
    · exact h.skipped_imp hmem
    · exact hskipped heq.symm

theorem Sound.work (h : p.Sound job) (hwork : Work job p q) : q.Sound job := by
  cases hwork with
  | begin hc _ =>
      refine h.set _ _ ?_ ?_
      · intro r items _ hitems
        split at hitems <;> cases hitems
      · intro heq
        split at heq
        · assumption
        · cases heq
  | run hc hr =>
      refine h.set _ _ ?_ (fun heq => nomatch heq)
      intro r items hr' hitems
      rw [hr] at hr'
      cases hr'
      cases hitems
      rfl
  | count hc hr =>
      refine h.set _ _ ?_ (fun heq => nomatch heq)
      intro r items hr' hitems
      cases hitems
      exact h.items_eq _ _ r _ hc hr' rfl
  | send hc =>
      refine h.set _ _ ?_ (fun heq => nomatch heq)
      intro r items hr hitems
      cases hitems
      exact h.items_eq _ _ r _ hc hr rfl

theorem Sound.step (h : p.Sound job) (hstep : Step job p q) : q.Sound job := by
  cases hstep with
  | work hwork => exact h.work hwork
  | cancel =>
      exact ⟨h.length_eq, h.items_eq, fun _ => rfl⟩

theorem Reachable.sound (h : Reachable job p) : p.Sound job := by
  induction h with
  | refl => exact sound_start
  | tail _ hstep ih => exact ih.step hstep

/-- Once everything is over, the results are those of running each chunk that was not skipped, in the
order of the chunks. -/
theorem result_eq (h : Reachable job p) (hfinished : p.Finished) :
    p.result = .ofChunks (chunkResults job.ranges p.schedule job.run) := by
  have hsound := h.sound
  refine congrArg ChunkedRun.ofChunks (List.ext_getElem? fun i => ?_)
  rw [chunkResults, List.getElem?_map, List.getElem?_mapIdx]
  by_cases hi : i < p.chunks.length
  · have hr : i < job.ranges.length := hsound.length_eq ▸ hi
    have hover := hfinished _ (List.getElem_mem hi)
    rw [List.getElem?_eq_getElem hi, List.getElem?_eq_getElem hr]
    simp only [Option.map_some, Option.some.injEq, schedule, List.getElem?_eq_getElem hi,
      Option.any_some]
    cases hc : p.chunks[i] with
    | done items =>
        have hitems := hsound.items_eq i _ _ items (List.getElem?_eq_getElem hi)
          (List.getElem?_eq_getElem hr) (by rw [hc]; rfl)
        rw [hitems]
        rfl
    | skipped => rfl
    | waiting | running | finished _ | counted _ _ =>
        rw [hc] at hover
        cases hover
  · have hr : ¬ i < job.ranges.length := hsound.length_eq ▸ hi
    rw [List.getElem?_eq_none (Nat.le_of_not_lt hi), List.getElem?_eq_none (Nat.le_of_not_lt hr)]
    rfl

theorem Reachable.work (h : Reachable job p) (hwork : Relation.ReflTransGen (Work job) p q) :
    Reachable job q :=
  h.trans (Relation.ReflTransGen.mono (fun _ _ hstep => .work hstep) _ _ hwork)

end Results

section Progress

def remaining (p : Pool α) : Nat := (p.chunks.map ChunkPhase.left).sum

theorem sum_map_set {β : Type} (f : β → Nat) {l : List β} {i : Nat} {a : β} (b : β)
    (h : l[i]? = some a) : ((l.set i b).map f).sum + f a = (l.map f).sum + f b := by
  induction l generalizing i with
  | nil => cases h
  | cons x l ih =>
      cases i with
      | zero =>
          cases h
          simp only [List.set_cons_zero, List.map_cons, List.sum_cons]
          omega
      | succ i =>
          have hrest := ih (i := i) h
          simp only [List.set_cons_succ, List.map_cons, List.sum_cons]
          omega

theorem sum_left_set_lt {i : Nat} {c c' : ChunkPhase α} (h : p.chunks[i]? = some c)
    (hlt : c'.left < c.left) : ((p.chunks.set i c').map ChunkPhase.left).sum < p.remaining := by
  have hsum := sum_map_set ChunkPhase.left c' h
  rw [remaining]
  omega

/-- Every step of a worker is one step less to go, and skipping a chunk saves the rest of its
steps. -/
theorem remaining_lt_of_work (h : Work job p q) : q.remaining < p.remaining := by
  cases h with
  | begin h _ =>
      refine sum_left_set_lt h ?_
      split <;> simp [ChunkPhase.left]
  | run h _ => exact sum_left_set_lt h (Nat.lt_succ_self 2)
  | count h _ => exact sum_left_set_lt h (Nat.lt_succ_self 1)
  | send h => exact sum_left_set_lt h (Nat.lt_succ_self 0)

/-- A pool that has not finished can go on: a chunk that a worker is at has a next step, and if there
is none, a free thread can begin one that waits. -/
theorem exists_work (hsound : p.Sound job) (hthreads : ∀ t ∈ job.threads, 0 < t)
    (hfinished : ¬ p.Finished) : ∃ q, Work job p q := by
  by_cases hbusy : ∃ c ∈ p.chunks, c.isBusy = true
  · obtain ⟨c, hmem, hc⟩ := hbusy
    obtain ⟨i, hi, rfl⟩ := List.mem_iff_getElem.1 hmem
    have hr : i < job.ranges.length := hsound.length_eq ▸ hi
    have hget := List.getElem?_eq_getElem hi
    have hrange := List.getElem?_eq_getElem hr
    cases hphase : p.chunks[i] with
    | running => exact ⟨_, .run (hget.trans (congrArg some hphase)) hrange⟩
    | finished items => exact ⟨_, .count (hget.trans (congrArg some hphase)) hrange⟩
    | counted items completed => exact ⟨_, .send (hget.trans (congrArg some hphase))⟩
    | waiting | done _ | skipped =>
        rw [hphase] at hc
        cases hc
  · have hidle : p.busy = 0 := by
      rw [busy, List.countP_eq_zero]
      intro c hc hbusy'
      exact hbusy ⟨c, hc, hbusy'⟩
    obtain ⟨c, hc, hover⟩ : ∃ c ∈ p.chunks, ¬ c.isOver = true := by
      simpa [Finished] using hfinished
    obtain ⟨i, hget⟩ := List.mem_iff_getElem?.1 hc
    cases c with
    | waiting => exact ⟨_, .begin hget fun t ht => hidle ▸ hthreads t ht⟩
    | running | finished _ | counted _ _ => exact absurd ⟨_, hc, rfl⟩ hbusy
    | done _ | skipped => exact absurd rfl hover

theorem exists_finished (hsound : p.Sound job) (hthreads : ∀ t ∈ job.threads, 0 < t) :
    ∃ q, Relation.ReflTransGen (Work job) p q ∧ q.Finished := by
  induction hn : p.remaining using Nat.strongRecOn generalizing p with
  | _ n ih =>
      by_cases hfinished : p.Finished
      · exact ⟨p, .refl, hfinished⟩
      · obtain ⟨next, hwork⟩ := exists_work hsound hthreads hfinished
        obtain ⟨q, hrest, hq⟩ :=
          ih next.remaining (hn ▸ remaining_lt_of_work hwork) (hsound.work hwork) rfl
        exact ⟨q, .head hwork hrest, hq⟩

end Progress

end Pool

end Salvo
