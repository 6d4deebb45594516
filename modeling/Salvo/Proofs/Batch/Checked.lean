import Salvo.Batch.Run
import Salvo.Proofs.Attack.Checked

/-!
# Checked batches

What is checked has a result only if none of its checks fails. `ComesTo x a` says that `x` has the result
`a` if it has one. Batches of checked trials come to the batches in exact numbers, and they have a result
if all their trials do; conversely a batch with a result has one for its first trial.
-/

namespace Salvo

/-- The value is this one, if there is one. -/
def ComesTo {α : Type} (x : Option α) (a : α) : Prop := ∀ b, x = some b → b = a

namespace ComesTo

variable {α β : Type}

theorem of_eq {a b : α} (h : a = b) : ComesTo (some a) b := by
  rintro c hc
  cases hc
  exact h

theorem bind {x : Option α} {a : α} {f : α → Option β} {b : β} (hx : ComesTo x a)
    (hf : ComesTo (f a) b) : ComesTo (x >>= f) b := by
  intro c hc
  obtain ⟨a', ha', hrest⟩ := Option.bind_eq_some_iff.1 hc
  rw [hx a' ha'] at hrest
  exact hf c hrest

theorem map {x : Option α} {a : α} (hx : ComesTo x a) (f : α → β) : ComesTo (x.map f) (f a) := by
  intro c hc
  obtain ⟨a', ha', rfl⟩ := Option.map_eq_some_iff.1 hc
  rw [hx a' ha']

theorem eq_some {x : Option α} {a : α} (hx : ComesTo x a) (h : x.isSome = true) :
    x = some a := by
  obtain ⟨b, hb⟩ := Option.isSome_iff_exists.1 h
  rw [hb, hx b hb]

theorem mapM {f : α → Option β} {g : α → β} (h : ∀ a, ComesTo (f a) (g a)) (l : List α) :
    ComesTo (l.mapM f) (l.map g) := by
  induction l with
  | nil => exact .of_eq rfl
  | cons a l ih =>
      rw [List.mapM_cons]
      exact (h a).bind (ih.bind (.of_eq rfl))

theorem foldlM {f : β → α → Option β} {g : β → α → β} (h : ∀ b a, ComesTo (f b a) (g b a))
    (l : List α) (b : β) : ComesTo (l.foldlM f b) (l.foldl g b) := by
  induction l generalizing b with
  | nil => exact .of_eq rfl
  | cons a l ih =>
      rw [List.foldlM_cons]
      exact (h b a).bind (ih (g b a))

end ComesTo

section Success

variable {α β : Type}

theorem isSome_bind_iff {x : Option α} {f : α → Option β} :
    (x >>= f).isSome = true ↔ ∃ a, x = some a ∧ (f a).isSome = true := by
  cases x with
  | none => exact ⟨fun h => (nomatch h), fun ⟨_, h, _⟩ => (nomatch h)⟩
  | some a => exact ⟨fun h => ⟨a, rfl, h⟩, fun ⟨_, rfl, h⟩ => h⟩

theorem isSome_mapM_iff {f : α → Option β} {l : List α} :
    (l.mapM f).isSome = true ↔ ∀ a ∈ l, (f a).isSome = true := by
  induction l with
  | nil => exact iff_of_true rfl nofun
  | cons a l ih =>
      rw [List.mapM_cons, List.forall_mem_cons, ← ih, isSome_bind_iff]
      constructor
      · rintro ⟨b, hb, hrest⟩
        obtain ⟨bs, hbs, -⟩ := isSome_bind_iff.1 hrest
        exact ⟨hb ▸ rfl, hbs ▸ rfl⟩
      · rintro ⟨hfirst, hrest⟩
        obtain ⟨b, hb⟩ := Option.isSome_iff_exists.1 hfirst
        obtain ⟨bs, hbs⟩ := Option.isSome_iff_exists.1 hrest
        exact ⟨b, hb, isSome_bind_iff.2 ⟨bs, hbs, rfl⟩⟩

theorem isSome_foldlM {f : β → α → Option β} {l : List α} (h : ∀ a ∈ l, ∀ b, (f b a).isSome = true)
    (b : β) : (l.foldlM f b).isSome = true := by
  induction l generalizing b with
  | nil => rfl
  | cons a l ih =>
      rw [List.forall_mem_cons] at h
      obtain ⟨b', hb'⟩ := Option.isSome_iff_exists.1 (h.1 b)
      rw [List.foldlM_cons, isSome_bind_iff]
      exact ⟨b', hb', ih h.2 b'⟩

end Success

section Chunks

variable {α : Type} {total count : Nat} {schedule : Schedule} {run? : Nat → Range → Option (List α)}
  {run : Nat → Range → List α}

theorem map_zipIdx_eq_chunkResults (rs : List Range) (schedule : Schedule)
    (run : Nat → Range → List α) :
    (rs.zipIdx.map fun x => if schedule x.2 then none else some (run x.2 x.1)) =
      chunkResults rs schedule run := by
  rw [chunkResults, List.mapIdx_eq_zipIdx_map]

theorem comesTo_runChunks? (h : ∀ i r, ComesTo (run? i r) (run i r)) (total count : Nat)
    (schedule : Schedule) :
    ComesTo (runChunks? total count schedule run?) (runChunks total count schedule run) := by
  rw [runChunks, ← map_zipIdx_eq_chunkResults]
  refine (ComesTo.mapM (fun x => ?_) _).bind (.of_eq rfl)
  obtain ⟨r, i⟩ := x
  dsimp only
  cases schedule i with
  | true => exact .of_eq rfl
  | false => exact (h i r).map some

theorem isSome_runChunks?_iff :
    (runChunks? total count schedule run?).isSome = true ↔
      ∀ r i, (r, i) ∈ (ranges total count).zipIdx → schedule i = false → (run? i r).isSome = true := by
  have hchunks : (runChunks? total count schedule run?).isSome = true ↔ (List.mapM (fun x =>
      if schedule x.2 then some none else (run? x.2 x.1).map some)
        (ranges total count).zipIdx).isSome = true := by
    rw [runChunks?, isSome_bind_iff, Option.isSome_iff_exists]
    exact exists_congr fun _ => and_iff_left rfl
  rw [hchunks, isSome_mapM_iff, Prod.forall]
  refine forall_congr' fun r => forall_congr' fun i => imp_congr_right fun _ => ?_
  cases schedule i <;> simp

end Chunks

section Batch

variable {w : WeaponProfile} {d : DefenderProfile} {config : AttackConfig}

variable (w d config) in
theorem comesTo_runBatch? (n : Nat) (seed : UInt64) :
    ComesTo (runBatch? w d config n seed) (runBatch w d config n seed) :=
  ComesTo.map (fun r hr => (Checked.refines_trials w d config n _ r hr).symm) (·.1)

variable (w d config) in
theorem comesTo_runBatchChunked? (n : Nat) (seed : UInt64) (chunks : Nat) (schedule : Schedule) :
    ComesTo (runBatchChunked? w d config n seed chunks schedule)
      (runBatchChunked w d config n seed chunks schedule) :=
  comesTo_runChunks? (fun _ _ => comesTo_runBatch? w d config _ _) n _ schedule

theorem Checked.succeeds_trials {σ : Type} [DiceSource σ]
    (h : ∀ s : σ, Succeeds (Checked.trial w d config) s) (n : Nat) (s : σ) :
    Succeeds (Checked.trials w d config n) s := by
  refine (refines_addTrials w d config n []).succeeds_bind_iff.2 ⟨?_, succeeds_pure _ _⟩
  generalize ([] : List Trial) = done
  induction n generalizing done s with
  | zero => exact succeeds_pure done s
  | succ n ih => exact (refines_trial w d config).succeeds_bind_iff.2 ⟨h s, ih _ _⟩

theorem isSome_runBatch?_iff {n : Nat} {seed : UInt64} :
    (runBatch? w d config n seed).isSome = true ↔
      Checked.Succeeds (Checked.trials w d config n) (Generator.ofSeed seed) := by
  rw [runBatch?, Option.isSome_map, Option.isSome_iff_exists]
  rfl

theorem isSome_runBatchChunked? (h : ∀ g : Generator, Checked.Succeeds (Checked.trial w d config) g)
    (n : Nat) (seed : UInt64) (chunks : Nat) (schedule : Schedule) :
    (runBatchChunked? w d config n seed chunks schedule).isSome = true :=
  isSome_runChunks?_iff.2 fun _ _ _ _ => isSome_runBatch?_iff.2 (Checked.succeeds_trials h _ _)

end Batch

end Salvo
