import Salvo.Batch.Run
import Salvo.Proofs.Attack.Stages

/-!
# Streams of trials

`trialStream` lists the trials that a source of dice leads to, each on the dice that the one before
has left. A batch is the beginning of the stream of its seed, so of two batches with one seed the
smaller one is the beginning of the larger one.
-/

namespace Salvo

section Stream

variable {σ : Type} [DiceSource σ] (w : WeaponProfile) (d : DefenderProfile) (config : AttackConfig)

def trialStream : Nat → σ → List Trial
  | 0, _ => []
  | n + 1, s => ((trial w d config).run s).1 :: trialStream n ((trial w d config).run s).2

@[simp] theorem trialStream_zero (s : σ) : trialStream w d config 0 s = [] := rfl

theorem trialStream_succ (n : Nat) (s : σ) :
    trialStream w d config (n + 1) s =
      ((trial w d config).run s).1 :: trialStream w d config n ((trial w d config).run s).2 := rfl

@[simp] theorem length_trialStream (n : Nat) (s : σ) :
    (trialStream w d config n s).length = n := by
  induction n generalizing s with
  | zero => rfl
  | succ n ih => rw [trialStream_succ, List.length_cons, ih]

theorem forall_mem_trialStream {P : Trial → Prop} (h : ∀ s : σ, P ((trial w d config).run s).1)
    (n : Nat) (s : σ) : ∀ t ∈ trialStream w d config n s, P t := by
  induction n generalizing s with
  | zero => exact fun t ht => nomatch ht
  | succ n ih =>
      rw [trialStream_succ, List.forall_mem_cons]
      exact ⟨h s, ih _⟩

/-- Trials that are gathered in front of others come out in the opposite order. -/
theorem run_addTrials (n : Nat) (done : List Trial) (s : σ) :
    ((addTrials (.of w d config.engagement) w d config n done).run s).1 =
      (trialStream w d config n s).reverse ++ done := by
  induction n generalizing done s with
  | zero => rfl
  | succ n ih =>
      rw [addTrials, run_bind, ih, trialStream_succ, List.reverse_cons, List.append_assoc]
      rfl

theorem run_trials (n : Nat) (s : σ) :
    ((trials w d config n).run s).1 = trialStream w d config n s := by
  rw [trials, run_bind, run_pure, run_addTrials, List.append_nil, List.reverse_reverse]

end Stream

section Batch

variable (w : WeaponProfile) (d : DefenderProfile) (config : AttackConfig)

theorem runBatch_eq_trialStream (n : Nat) (seed : UInt64) :
    runBatch w d config n seed = trialStream w d config n (Generator.ofSeed seed) :=
  run_trials w d config n _

@[simp] theorem length_runBatch (n : Nat) (seed : UInt64) :
    (runBatch w d config n seed).length = n := by
  rw [runBatch_eq_trialStream, length_trialStream]

end Batch

end Salvo
