import Mathlib.Data.List.Perm.Basic
import Salvo.Proofs.Batch.Interleaving
import Salvo.Proofs.Batch.Sizes

/-!
# Workers lose nothing

What a pool comes to, in terms of the events that led to it (`Pool.replay_lossless`). The results are
those of the chunks that were not skipped. The counter never exceeds the total and ends at the number
of results. The updates may be sent in another order than the counts were made, but they are the
updates of a counter that is advanced in the order of the counts.
-/

namespace Salvo

namespace ChunkPhase

variable {α : Type}

/-- The chunk has been added to the counter. -/
def isAdded : ChunkPhase α → Bool
  | counted _ _ => true
  | done _ => true
  | _ => false

def unsent? : ChunkPhase α → Option Nat
  | counted _ completed => some completed
  | _ => none

/-- The counts that are still to be sent, in the order of the chunks. -/
def unsent (chunks : List (ChunkPhase α)) : List Nat := chunks.filterMap unsent?

end ChunkPhase

section Enumerates

variable {α : Type} {chunks : List (ChunkPhase α)} {f : ChunkPhase α → Bool} {indices : List Nat}
  {i : Nat} {c c' : ChunkPhase α}

/-- The indices are those of the chunks of a kind, each once, in some order. -/
structure Enumerates (f : ChunkPhase α → Bool) (chunks : List (ChunkPhase α)) (indices : List Nat) :
    Prop where
  nodup : indices.Nodup
  mem_iff : ∀ i, i ∈ indices ↔ (chunks[i]?).any f = true

theorem any_getElem?_set (hc : chunks[i]? = some c) (c' : ChunkPhase α) (f : ChunkPhase α → Bool)
    (j : Nat) : ((chunks.set i c')[j]?).any f = if j = i then f c' else (chunks[j]?).any f := by
  have hi : i < chunks.length := (List.getElem?_eq_some_iff.1 hc).1
  rw [List.getElem?_set]
  by_cases hij : j = i
  · subst hij
    simp [hi]
  · rw [if_neg (Ne.symm hij), if_neg hij]

theorem enumerates_replicate_waiting (n : Nat) (hf : f .waiting = false) :
    Enumerates f (List.replicate n .waiting) [] where
  nodup := List.nodup_nil
  mem_iff := by
    intro i
    rw [List.getElem?_replicate]
    by_cases hi : i < n <;> simp [hi, hf]

theorem Enumerates.set_of_eq (h : Enumerates f chunks indices) (hc : chunks[i]? = some c)
    (hf : f c' = f c) : Enumerates f (chunks.set i c') indices where
  nodup := h.nodup
  mem_iff := by
    intro j
    rw [h.mem_iff j, any_getElem?_set hc]
    by_cases hij : j = i
    · rw [if_pos hij, hij, hc, Option.any_some, hf]
    · rw [if_neg hij]

theorem Enumerates.set (h : Enumerates f chunks indices) (hc : chunks[i]? = some c)
    (hold : f c = false) (hnew : f c' = true) :
    Enumerates f (chunks.set i c') (indices ++ [i]) where
  nodup := by
    have hnotMem : i ∉ indices := by simp [h.mem_iff, hc, hold]
    exact (List.perm_append_singleton i indices).nodup_iff.2 (List.nodup_cons.2 ⟨hnotMem, h.nodup⟩)
  mem_iff := by
    intro j
    rw [List.mem_append, List.mem_singleton, h.mem_iff j, any_getElem?_set hc]
    by_cases hij : j = i
    · simp [hij, hnew]
    · simp [hij]

theorem Enumerates.perm (h : Enumerates f chunks indices) :
    indices.Perm ((List.range chunks.length).filter fun i => (chunks[i]?).any f) := by
  rw [List.perm_ext_iff_of_nodup h.nodup (List.nodup_range.filter _)]
  intro i
  rw [h.mem_iff, List.mem_filter, List.mem_range]
  constructor
  · intro hany
    obtain ⟨c, hc, -⟩ := (Option.any_eq_true ..).1 hany
    exact ⟨(List.getElem?_eq_some_iff.1 hc).1, hany⟩
  · exact And.right

theorem Enumerates.length_eq (h : Enumerates f chunks indices) : indices.length = chunks.countP f := by
  rw [h.perm.length_eq, ← List.countP_eq_length_filter, ← countP_eq_countP_range]

end Enumerates

section Unsent

variable {α : Type} {chunks : List (ChunkPhase α)} {i : Nat} {c c' : ChunkPhase α}

/-- What the old phase of a chunk had to send goes, and what the new one has comes. -/
theorem unsent_set_perm (hc : chunks[i]? = some c) (c' : ChunkPhase α) :
    (ChunkPhase.unsent (chunks.set i c') ++ c.unsent?.toList).Perm
      (ChunkPhase.unsent chunks ++ c'.unsent?.toList) := by
  obtain ⟨hi, rfl⟩ := List.getElem?_eq_some_iff.1 hc
  -- Both lists are what the other chunks have to send, with what this one has.
  let others := ChunkPhase.unsent (chunks.eraseIdx i)
  have hcons (x : ChunkPhase α) :
      (ChunkPhase.unsent (x :: chunks.eraseIdx i)).Perm (others ++ x.unsent?.toList) := by
    rw [ChunkPhase.unsent, List.filterMap_cons]
    cases x.unsent? with
    | none => simp [others, ChunkPhase.unsent]
    | some n => exact (List.perm_append_singleton n _).symm
  have hnew : (ChunkPhase.unsent (chunks.set i c')).Perm (others ++ c'.unsent?.toList) :=
    ((List.set_perm_cons_eraseIdx hi c').filterMap _).trans (hcons c')
  have hold : (ChunkPhase.unsent chunks).Perm (others ++ (chunks[i]).unsent?.toList) :=
    ((List.getElem_cons_eraseIdx_perm hi).symm.filterMap _).trans (hcons chunks[i])
  calc (ChunkPhase.unsent (chunks.set i c') ++ (chunks[i]).unsent?.toList)
      |>.Perm (others ++ c'.unsent?.toList ++ (chunks[i]).unsent?.toList) := hnew.append_right _
    _ |>.Perm (others ++ (chunks[i]).unsent?.toList ++ c'.unsent?.toList) := by
        rw [List.append_assoc, List.append_assoc]
        exact List.perm_append_comm.append_left _
    _ |>.Perm (ChunkPhase.unsent chunks ++ c'.unsent?.toList) := hold.symm.append_right _

theorem unsent_set_perm_of_none (hc : chunks[i]? = some c) (hold : c.unsent? = none)
    (hnew : c'.unsent? = none) :
    (ChunkPhase.unsent (chunks.set i c')).Perm (ChunkPhase.unsent chunks) := by
  simpa [hold, hnew] using unsent_set_perm hc c'

end Unsent

namespace PoolJob

variable {α : Type}

def chunkSize (job : PoolJob α) (i : Nat) : Nat := (job.ranges[i]?).elim 0 Range.size

def addedSizes (job : PoolJob α) (events : List PoolEvent) : List Nat :=
  (PoolEvent.added events).map job.chunkSize

theorem chunkSize_of_getElem? {job : PoolJob α} {i : Nat} {r : Range} (h : job.ranges[i]? = some r) :
    job.chunkSize i = r.size := by
  simp [chunkSize, h]

theorem addedSizes_append_of_none (job : PoolJob α) (events : List PoolEvent) {e : PoolEvent}
    (h : e.added? = none) : job.addedSizes (events ++ [e]) = job.addedSizes events := by
  rw [addedSizes, PoolEvent.added_append_of_none events h, addedSizes]

theorem addedSizes_append_count (job : PoolJob α) (events : List PoolEvent) {i : Nat} {r : Range}
    (hr : job.ranges[i]? = some r) :
    job.addedSizes (events ++ [.count i]) = job.addedSizes events ++ [r.size] := by
  rw [addedSizes, PoolEvent.added_append_singleton, List.map_append, addedSizes]
  exact congrArg (fun n => _ ++ [n]) (chunkSize_of_getElem? hr)

end PoolJob

namespace Pool

variable {α : Type} {job : PoolJob α} {p q : Pool α} {events : List PoolEvent}

section Follows

/-- The events that add chunks tell of the counter. The counts that were sent and those that are still
to be sent are together the sums that it went through. -/
structure Counted (job : PoolJob α) (events : List PoolEvent) (p : Pool α) : Prop where
  added : Enumerates ChunkPhase.isAdded p.chunks (PoolEvent.added events)
  completed_eq : p.completed = (job.addedSizes events).sum
  sent_perm : (p.sent.map ProgressUpdate.completed ++ ChunkPhase.unsent p.chunks).Perm
    (job.addedSizes events).partialSums
  head?_sent : p.sent.head? = some ⟨0, job.total⟩
  total_eq : ∀ u ∈ p.sent, u.total = job.total

/-- What the events alone tell of a pool that they led to. -/
structure Follows (job : PoolJob α) (events : List PoolEvent) (p : Pool α) : Prop
    extends Counted job events p where
  cancelled_iff : p.cancelled = true ↔ .cancel ∈ events
  late : Enumerates ChunkPhase.isSkipped p.chunks (PoolEvent.late events)

theorem follows_start : Follows job [] (start job) where
  added := enumerates_replicate_waiting _ rfl
  completed_eq := rfl
  sent_perm := by
    have hunsent : ChunkPhase.unsent (start job).chunks = [] := by
      simp [ChunkPhase.unsent, start, List.filterMap_replicate, ChunkPhase.unsent?]
    rw [hunsent]
    exact .refl _
  head?_sent := rfl
  total_eq := by simp [start]
  cancelled_iff := by simp [start]
  late := enumerates_replicate_waiting _ rfl

theorem Counted.of_none (h : Counted job events p) {e : PoolEvent} (he : e.added? = none)
    {chunks : List (ChunkPhase α)} {cancelled : Bool}
    (hadded : Enumerates ChunkPhase.isAdded chunks (PoolEvent.added events))
    (hunsent : (ChunkPhase.unsent chunks).Perm (ChunkPhase.unsent p.chunks)) :
    Counted job (events ++ [e]) { p with chunks, cancelled } where
  added := by rwa [PoolEvent.added_append_of_none events he]
  completed_eq := by
    rw [job.addedSizes_append_of_none events he]
    exact h.completed_eq
  sent_perm := by
    rw [job.addedSizes_append_of_none events he]
    exact (hunsent.append_left _).trans h.sent_perm
  head?_sent := h.head?_sent
  total_eq := h.total_eq

theorem Counted.count (h : Counted job events p) {i : Nat} {r : Range} {items : List α}
    (hc : p.chunks[i]? = some (.finished items)) (hr : job.ranges[i]? = some r) :
    Counted job (events ++ [.count i])
      { p with
        chunks := p.chunks.set i (.counted items (p.completed + r.size))
        completed := p.completed + r.size } where
  added := by
    rw [PoolEvent.added_append_singleton]
    exact h.added.set hc rfl rfl
  completed_eq := by
    rw [job.addedSizes_append_count _ hr, List.sum_append, List.sum_singleton, h.completed_eq]
  sent_perm := by
    have hunsent := unsent_set_perm hc (.counted items (p.completed + r.size))
    simp only [ChunkPhase.unsent?, Option.toList_none, Option.toList_some, List.append_nil] at hunsent
    rw [job.addedSizes_append_count _ hr, partialSums_append_singleton, ← h.completed_eq]
    refine (hunsent.append_left _).trans ?_
    rw [← List.append_assoc]
    exact h.sent_perm.append_right _
  head?_sent := h.head?_sent
  total_eq := h.total_eq

theorem Counted.send (h : Counted job events p) {i completed : Nat} {items : List α}
    (hc : p.chunks[i]? = some (.counted items completed)) :
    Counted job (events ++ [.send i])
      { p with
        chunks := p.chunks.set i (.done items)
        sent := p.sent ++ [⟨completed, job.total⟩] } where
  added := by
    rw [PoolEvent.added_append_of_none _ rfl]
    exact h.added.set_of_eq hc rfl
  completed_eq := by
    rw [job.addedSizes_append_of_none _ rfl]
    exact h.completed_eq
  sent_perm := by
    have hunsent := unsent_set_perm hc (.done items)
    simp only [ChunkPhase.unsent?, Option.toList_none, Option.toList_some, List.append_nil] at hunsent
    rw [job.addedSizes_append_of_none _ rfl, List.map_append, List.append_assoc]
    -- The count moves from what is to be sent to what was sent.
    exact ((List.perm_append_comm.trans hunsent).append_left _).trans h.sent_perm
  head?_sent := by
    rw [List.head?_append, h.head?_sent]
    rfl
  total_eq := by
    intro u hu
    rcases List.mem_append.1 hu with hmem | hmem
    · exact h.total_eq u hmem
    · rw [List.mem_singleton.1 hmem]

/-- A chunk that is taken up is late if the batch is cancelled. -/
theorem Follows.late_begin (h : Follows job events p) {i : Nat} (hc : p.chunks[i]? = some .waiting) :
    Enumerates ChunkPhase.isSkipped (p.chunks.set i (if p.cancelled then .skipped else .running))
      (PoolEvent.late (events ++ [.begin i])) := by
  rw [PoolEvent.late_append_singleton]
  by_cases hcancel : p.cancelled = true
  · rw [if_pos hcancel, if_pos (h.cancelled_iff.1 hcancel)]
    exact h.late.set hc rfl rfl
  · rw [if_neg hcancel, if_neg fun hmem => hcancel (h.cancelled_iff.2 hmem)]
    exact h.late.set_of_eq hc rfl

theorem Follows.late_of_none (h : Follows job events p) {e : PoolEvent} (he : e.begun? = none)
    {i : Nat} {c c' : ChunkPhase α} (hc : p.chunks[i]? = some c) (hf : c'.isSkipped = c.isSkipped) :
    Enumerates ChunkPhase.isSkipped (p.chunks.set i c') (PoolEvent.late (events ++ [e])) := by
  rw [PoolEvent.late_append_of_none events he]
  exact h.late.set_of_eq hc hf

theorem Follows.after? (h : Follows job events p) {e : PoolEvent} (he : p.after? job e = some q) :
    Follows job (events ++ [e]) q := by
  cases e with
  | begin i =>
      obtain ⟨hc, -, rfl⟩ := after?_begin_iff.1 he
      refine ⟨h.of_none rfl ?_ ?_, by simpa using h.cancelled_iff, h.late_begin hc⟩
      · exact h.added.set_of_eq hc (by split <;> rfl)
      · exact unsent_set_perm_of_none hc rfl (by split <;> rfl)
  | run i =>
      obtain ⟨r, hc, -, rfl⟩ := after?_run_iff.1 he
      refine ⟨h.of_none rfl ?_ ?_, by simpa using h.cancelled_iff, h.late_of_none rfl hc rfl⟩
      · exact h.added.set_of_eq hc rfl
      · exact unsent_set_perm_of_none hc rfl rfl
  | count i =>
      obtain ⟨r, items, hc, hr, rfl⟩ := after?_count_iff.1 he
      exact ⟨h.count hc hr, by simpa using h.cancelled_iff, h.late_of_none rfl hc rfl⟩
  | send i =>
      obtain ⟨items, completed, hc, rfl⟩ := after?_send_iff.1 he
      exact ⟨h.send hc, by simpa using h.cancelled_iff, h.late_of_none rfl hc rfl⟩
  | cancel =>
      cases he
      refine ⟨h.of_none rfl h.added (.refl _), by simp, ?_⟩
      rw [PoolEvent.late_append_of_none _ rfl]
      exact h.late

theorem follows_of_replay (h : replay job events = some p) : Follows job events p := by
  induction events using List.reverseRecOn generalizing p with
  | nil =>
      cases h
      exact follows_start
  | append_singleton events e ih =>
      rw [replay_append_singleton, Option.bind_eq_some_iff] at h
      obtain ⟨before, hbefore, he⟩ := h
      exact (ih hbefore).after? he

/-- The sizes that were added are those of the chunks that are added, in some order. -/
theorem Follows.addedSizes_perm (h : Follows job events p)
    (hlength : p.chunks.length = job.ranges.length) :
    (job.addedSizes events).Perm
      (executedSizes job.ranges fun i => !(p.chunks[i]?).any ChunkPhase.isAdded) := by
  have hperm := h.added.perm.map job.chunkSize
  rw [hlength] at hperm
  rw [executedSizes_eq]
  simp only [Bool.not_not]
  exact hperm

end Follows

section Finished

theorem Finished.unsent_eq_nil (h : p.Finished) : ChunkPhase.unsent p.chunks = [] := by
  rw [ChunkPhase.unsent, List.filterMap_eq_nil_iff]
  intro c hc
  have hover := h c hc
  cases c with
  | done _ | skipped => rfl
  | waiting | running | finished _ | counted _ _ => cases hover

theorem Finished.isAdded_eq (h : p.Finished) {i : Nat} (hi : i < p.chunks.length) :
    (p.chunks[i]?).any ChunkPhase.isAdded = !p.schedule i := by
  have hover := h _ (List.getElem_mem hi)
  rw [schedule, List.getElem?_eq_getElem hi, Option.any_some, Option.any_some]
  cases hc : p.chunks[i] with
  | done _ | skipped => rfl
  | waiting | running | finished _ | counted _ _ =>
      rw [hc] at hover
      cases hover

theorem Follows.schedule_eq (h : Follows job events p) :
    p.schedule = fun i => decide (i ∈ PoolEvent.late events) := by
  funext i
  rw [Bool.eq_iff_iff, decide_eq_true_iff, h.late.mem_iff, schedule]

theorem Follows.added_perm (h : Follows job events p) (hfinished : p.Finished) :
    (PoolEvent.added events).Perm
      ((List.range p.chunks.length).filter (· ∉ PoolEvent.late events)) := by
  refine h.added.perm.trans (List.Perm.of_eq (List.filter_congr fun i hi => ?_))
  rw [hfinished.isAdded_eq (List.mem_range.1 hi), h.schedule_eq]
  exact (decide_not ..).symm

theorem Follows.completed_le (h : Follows job events p)
    (hlength : p.chunks.length = job.ranges.length) :
    p.completed ≤ (job.ranges.map Range.size).sum := by
  rw [h.completed_eq, (h.addedSizes_perm hlength).sum_nat]
  exact sum_executedSizes_le _ _

theorem Follows.completed_le_of_mem_sent (h : Follows job events p) {u : ProgressUpdate}
    (hu : u ∈ p.sent) : u.completed ≤ p.completed := by
  rw [h.completed_eq]
  apply le_sum_of_mem_partialSums
  rw [← h.sent_perm.mem_iff]
  exact List.mem_append_left _ (List.mem_map_of_mem hu)

theorem Follows.completed_sent_perm (h : Follows job events p) (hfinished : p.Finished) :
    (p.sent.map ProgressUpdate.completed).Perm (job.addedSizes events).partialSums := by
  simpa [hfinished.unsent_eq_nil] using h.sent_perm

theorem Follows.length_sent (h : Follows job events p) (hfinished : p.Finished) :
    p.sent.length = (PoolEvent.added events).length + 1 := by
  have hlength : (job.addedSizes events).partialSums.length = (job.addedSizes events).length + 1 :=
    List.length_scanl
  rw [← List.length_map (f := ProgressUpdate.completed), (h.completed_sent_perm hfinished).length_eq,
    hlength, PoolJob.addedSizes, List.length_map]

/-- The updates that workers send are those of a counter that is advanced in the order in which they
counted, though not always in this order. -/
theorem Follows.sent_perm_updates (h : Follows job events p) (hfinished : p.Finished) :
    p.sent.Perm
      ((job.addedSizes events).foldl Progress.advance (Progress.channel.start job.total)).updates := by
  have hsent : p.sent = (p.sent.map ProgressUpdate.completed).map fun n => ⟨n, job.total⟩ := by
    rw [List.map_map]
    refine (List.map_id _).symm.trans (List.map_congr_left fun u hu => ?_)
    rw [Function.comp_apply, ← h.total_eq u hu]
    rfl
  rw [hsent, Progress.foldl_advance, Progress.updates, List.reverse_reverse]
  exact (h.completed_sent_perm hfinished).map _

theorem Follows.mem_sent (h : Follows job events p) (hfinished : p.Finished) :
    ⟨p.completed, job.total⟩ ∈ p.sent := by
  have hmem : p.completed ∈ p.sent.map ProgressUpdate.completed := by
    rw [(h.completed_sent_perm hfinished).mem_iff, h.completed_eq]
    exact sum_mem_partialSums _
  obtain ⟨u, hu, heq⟩ := List.mem_map.1 hmem
  rw [← heq, ← h.total_eq u hu]
  exact hu

theorem Follows.skipped_eq (h : Follows job events p) (hfinished : p.Finished) :
    p.result.skipped = (PoolEvent.late events).length := by
  rw [h.late.length_eq, result, ChunkedRun.ofChunks, List.countP_map]
  refine List.countP_congr fun c hc => ?_
  have hover := hfinished c hc
  cases c with
  | done _ | skipped => rfl
  | waiting | running | finished _ | counted _ _ => cases hover

theorem Follows.completed_eq_length (h : Follows job events p) (hreach : Reachable job p)
    (hfinished : p.Finished) (hrun : ∀ i r, (job.run i r).length = r.size) :
    p.completed = p.result.items.length := by
  have hlength := hreach.sound.length_eq
  have hsizes : executedSizes job.ranges (fun i => !(p.chunks[i]?).any ChunkPhase.isAdded) =
      executedSizes job.ranges p.schedule := by
    refine executedSizes_congr fun i hi => ?_
    rw [hfinished.isAdded_eq (hlength ▸ hi), Bool.not_not]
  rw [h.completed_eq, (h.addedSizes_perm hlength).sum_nat, hsizes, result_eq hreach hfinished,
    length_items_chunkResults hrun]

end Finished

/-- Workers cannot go on for ever. -/
theorem length_le_of_replay (h : replay job events = some p) :
    (events.filter (· ≠ .cancel)).length + p.remaining ≤ 4 * job.ranges.length := by
  induction events using List.reverseRecOn generalizing p with
  | nil =>
      cases h
      simp [remaining, start, ChunkPhase.left, Nat.mul_comm]
  | append_singleton events e ih =>
      rw [replay_append_singleton, Option.bind_eq_some_iff] at h
      obtain ⟨before, hbefore, he⟩ := h
      have hlength := ih hbefore
      rw [List.filter_append, List.length_append]
      by_cases hcancel : e = .cancel
      · subst hcancel
        cases he
        exact hlength
      · have hlt := remaining_lt_of_work (work_iff_exists_after?.2 ⟨e, hcancel, he⟩)
        have hone : ([e].filter (· ≠ .cancel)).length = 1 := by simp [hcancel]
        omega

section Batch

variable {total count workers : Nat} {run : Nat → Range → List α}

/-- Nothing is lost under any interleaving of workers. At every moment the counter is at most the total
and at least what was announced, and the workers can finish from there, in a number of steps that does
not depend on how they share the chunks. Once they have, the results are those of the chunks that were
not taken up after the batch was cancelled; the counter is the number of results; and next to the first
one there is one update for each chunk that was run, of the sums that the counter went through. -/
theorem replay_lossless (hrun : ∀ i r, (run i r).length = r.size)
    (h : replay (.ofBatch total count workers run) events = some p) :
    (p.completed ≤ total ∧ ∀ u ∈ p.sent, u.total = total ∧ u.completed ≤ p.completed) ∧
      (events.filter (· ≠ .cancel)).length ≤ 4 * (ranges total count).length ∧
      (∃ more q, .cancel ∉ more ∧
        replay (.ofBatch total count workers run) (events ++ more) = some q ∧ q.Finished) ∧
      (p.Finished →
        p.result = runChunks total count (fun i => i ∈ PoolEvent.late events) run ∧
        p.result.skipped = (PoolEvent.late events).length ∧
        (PoolEvent.added events).Perm
          ((List.range (ranges total count).length).filter (· ∉ PoolEvent.late events)) ∧
        p.completed = p.result.items.length ∧
        p.sent.head? = some ⟨0, total⟩ ∧
        p.sent.length = (PoolEvent.added events).length + 1 ∧
        (p.sent.map ProgressUpdate.completed).Perm
          ((PoolJob.ofBatch total count workers run).addedSizes events).partialSums ∧
        p.sent.Perm (((PoolJob.ofBatch total count workers run).addedSizes events).foldl
          Progress.advance (Progress.channel.start total)).updates ∧
        ⟨p.completed, total⟩ ∈ p.sent) := by
  have hfollows := follows_of_replay h
  have hreach := reachable_iff_exists_replay.2 ⟨events, h⟩
  have hlength := hreach.sound.length_eq
  refine ⟨⟨?_, ?_⟩, ?_, ?_, ?_⟩
  · exact (hfollows.completed_le hlength).trans (sum_size_ranges_le total count)
  · exact fun u hu => ⟨hfollows.total_eq u hu, hfollows.completed_le_of_mem_sent hu⟩
  · exact (Nat.le_add_right _ _).trans (length_le_of_replay h)
  · obtain ⟨q, hwork, hq⟩ := exists_finished hreach.sound PoolJob.threads_ofBatch_pos
    obtain ⟨more, hworkers, hmore⟩ := exists_replay_append h hwork
    exact ⟨more, q, hworkers, hmore, hq⟩
  · intro hfinished
    refine ⟨?_, hfollows.skipped_eq hfinished, ?_, ?_, hfollows.head?_sent, ?_, ?_, ?_, ?_⟩
    · rw [result_eq hreach hfinished, hfollows.schedule_eq]
      rfl
    · have hadded := hfollows.added_perm hfinished
      rwa [hlength] at hadded
    · exact hfollows.completed_eq_length hreach hfinished hrun
    · exact hfollows.length_sent hfinished
    · exact hfollows.completed_sent_perm hfinished
    · exact hfollows.sent_perm_updates hfinished
    · exact hfollows.mem_sent hfinished

/-- Two chunks are counted in one order and announced in the other, and the third is taken up late. -/
def crossed : List PoolEvent :=
  [.begin 1, .run 1, .begin 0, .run 0, .count 1, .count 0, .send 0, .cancel, .begin 2, .send 1]

theorem replay_crossed :
    ∃ p, replay (.ofBatch 5 3 0 fun i r => List.replicate r.size i) crossed = some p ∧ p.Finished ∧
      p.result = ⟨[0, 0, 1, 1], 1⟩ ∧ p.completed = 4 ∧ p.sent = [⟨0, 5⟩, ⟨4, 5⟩, ⟨2, 5⟩] ∧
      p.sent.Perm (([2, 2].foldl Progress.advance (Progress.channel.start 5)).updates) := by
  let p : Pool Nat :=
    ⟨[.done [0, 0], .done [1, 1], .skipped], true, 4, [⟨0, 5⟩, ⟨4, 5⟩, ⟨2, 5⟩]⟩
  have hreplay : replay (.ofBatch 5 3 0 fun i r => List.replicate r.size i) crossed = some p := rfl
  have hfinished : ∀ c ∈ p.chunks, c.isOver = true := by decide
  obtain ⟨-, -, -, hend⟩ := replay_lossless (fun i r => List.length_replicate) hreplay
  obtain ⟨hresult, -, -, -, -, -, -, hsent, -⟩ := hend hfinished
  exact ⟨p, hreplay, hfinished, hresult, rfl, rfl, hsent⟩

end Batch

end Pool

end Salvo
