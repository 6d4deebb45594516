import Mathlib.Algebra.BigOperators.Ring.List
import Mathlib.Algebra.Order.Ring.Cast
import Mathlib.Data.List.Nodup
import Mathlib.Tactic.LinearCombination
import Mathlib.Tactic.Ring
import Salvo.Proofs.Batch.Means
import Salvo.Proofs.Dice.Sources
import Salvo.Proofs.Dice.Throws

/-!
# Means of rolls

The dice of an expression show each sequence of faces equally often. Over all of them the modifier and
the faces come to `DiceExpr.expected` in the mean. A roll is the same but for sums below zero, which
count as zero, so its mean is higher exactly if there are such sums (`rolls_averaged`).
-/

namespace Salvo

section Faces

/-- All sequences of `n` faces of dice with this many sides. -/
def faceLists (sides : Nat) : Nat → List (List Nat)
  | 0 => [[]]
  | n + 1 => (List.range' 1 sides).flatMap fun face => (faceLists sides n).map (face :: ·)

variable {sides n : Nat} {faces : List Nat}

theorem mem_faceLists_iff :
    faces ∈ faceLists sides n ↔ faces.length = n ∧ ∀ face ∈ faces, 1 ≤ face ∧ face ≤ sides := by
  induction n generalizing faces with
  | zero =>
      rw [faceLists, List.mem_singleton, List.length_eq_zero_iff]
      constructor
      · rintro rfl
        exact ⟨rfl, fun face hface => nomatch hface⟩
      · exact And.left
  | succ n ih =>
      have hface : ∀ {face}, face ∈ List.range' 1 sides ↔ 1 ≤ face ∧ face ≤ sides := by
        intro face
        rw [List.mem_range'_1]
        omega
      simp only [faceLists, List.mem_flatMap, List.mem_map, hface, ih]
      constructor
      · rintro ⟨face, hrange, rest, ⟨rfl, hrest⟩, rfl⟩
        exact ⟨rfl, List.forall_mem_cons.2 ⟨hrange, hrest⟩⟩
      · rintro ⟨hlength, hall⟩
        cases faces with
        | nil => cases hlength
        | cons face rest =>
            obtain ⟨hrange, hrest⟩ := List.forall_mem_cons.1 hall
            exact ⟨face, hrange, rest, ⟨Nat.succ.inj hlength, hrest⟩, rfl⟩

theorem nodup_faceLists (sides n : Nat) : (faceLists sides n).Nodup := by
  induction n with
  | zero => exact List.nodup_singleton []
  | succ n ih =>
      rw [faceLists, List.nodup_flatMap]
      refine ⟨fun face _ => ih.map List.cons_injective, ?_⟩
      refine List.Pairwise.imp (fun hne => ?_) List.nodup_range'
      intro faces hfaces hother
      obtain ⟨_, _, rfl⟩ := List.mem_map.1 hfaces
      obtain ⟨_, _, heq⟩ := List.mem_map.1 hother
      exact hne (List.cons.inj heq).1.symm

theorem sum_map_faceLists_succ (f : List Nat → Nat) (sides n : Nat) :
    ((faceLists sides (n + 1)).map f).sum =
      ((List.range' 1 sides).map fun face =>
        ((faceLists sides n).map fun faces => f (face :: faces)).sum).sum := by
  rw [faceLists, List.map_flatMap, List.flatMap, List.sum_flatten, List.map_map]
  simp only [Function.comp_def, List.map_map]

theorem length_faceLists (sides n : Nat) : (faceLists sides n).length = sides ^ n := by
  induction n with
  | zero => rfl
  | succ n ih =>
      rw [faceLists, List.length_flatMap]
      simp only [List.length_map, ih, List.map_const', List.sum_replicate_nat, List.length_range']
      rw [pow_succ']

theorem two_mul_sum_range' (sides : Nat) : 2 * (List.range' 1 sides).sum = sides * (sides + 1) := by
  induction sides with
  | zero => rfl
  | succ sides ih =>
      rw [List.range'_concat, List.sum_append, Nat.mul_add, ih, List.sum_singleton]
      ring

/-- Each of the `n` dice contributes half of `sides + 1` on average. -/
theorem two_mul_sum_faceLists (sides n : Nat) :
    2 * ((faceLists sides n).map List.sum).sum = n * (sides + 1) * sides ^ n := by
  induction n with
  | zero => simp [faceLists]
  | succ n ih =>
      have hsplit : ((faceLists sides (n + 1)).map List.sum).sum =
          sides ^ n * (List.range' 1 sides).sum +
            sides * ((faceLists sides n).map List.sum).sum := by
        have hfirst : ((List.range' 1 sides).map (sides ^ n * ·)).sum =
            sides ^ n * (List.range' 1 sides).sum :=
          (List.sum_map_mul_left _ id _).trans (by rw [List.map_id])
        rw [sum_map_faceLists_succ]
        simp only [List.sum_cons, List.sum_map_add, List.map_const', List.sum_replicate_nat,
          length_faceLists, List.length_range', hfirst]
      calc 2 * ((faceLists sides (n + 1)).map List.sum).sum
          = sides ^ n * (2 * (List.range' 1 sides).sum) +
              sides * (2 * ((faceLists sides n).map List.sum).sum) := by
            rw [hsplit]
            ring
        _ = (n + 1) * (sides + 1) * sides ^ (n + 1) := by
            rw [two_mul_sum_range', ih]
            ring

end Faces

section Mean

def mean (xs : List Int) : Rat := (xs.sum : Int) / (xs.length : Nat)

variable {ι : Type} {l : List ι} {f g : ι → Int}

theorem mean_map_le (h : ∀ i ∈ l, f i ≤ g i) : mean (l.map f) ≤ mean (l.map g) := by
  rw [mean, mean, List.length_map, List.length_map]
  refine div_le_div_of_nonneg_right ?_ (Nat.cast_nonneg _)
  exact Int.cast_le.2 (List.sum_le_sum h)

theorem mean_map_lt (h : ∀ i ∈ l, f i ≤ g i) (hlt : ∃ i ∈ l, f i < g i) :
    mean (l.map f) < mean (l.map g) := by
  obtain ⟨i, hi, hi_lt⟩ := hlt
  have hpos : (0 : Rat) < (l.length : Nat) := Nat.cast_pos.2 (List.length_pos_of_mem hi)
  rw [mean, mean, List.length_map, List.length_map]
  refine div_lt_div_of_pos_right ?_ hpos
  exact Int.cast_lt.2 (List.sum_lt_sum f g h ⟨i, hi, hi_lt⟩)

end Mean

namespace DiceExpr

/-- The sequences of faces that the dice of an expression can show. -/
def faceLists (e : DiceExpr) : List (List Nat) := Salvo.faceLists e.sides e.count

def sumWith (e : DiceExpr) (faces : List Nat) : Int := e.modifier + (faces.sum : Nat)

def lowest (e : DiceExpr) : Int := e.modifier + e.count

def rollOn (e : DiceExpr) (faces : List Nat) : Nat := (e.roll.run (Script.ofFaces faces)).1

variable {e : DiceExpr} {faces : List Nat}

theorem expected_rat_eq (e : DiceExpr) :
    e.expected Rat = (e.count : Rat) * ((e.sides : Rat) + 1) / 2 + e.modifier := by
  have hone : (Scalar.ofCount 1 : Rat) = 1 := ofCount_rat 1
  have htwo : (Scalar.ofCount 2 : Rat) = 2 := ofCount_rat 2
  rw [expected, ofCount_rat, ofCount_rat, hone, htwo]
  rfl

theorem sum_map_sumWith (e : DiceExpr) (l : List (List Nat)) :
    (l.map e.sumWith).sum = l.length * e.modifier + ((l.map List.sum).sum : Nat) := by
  induction l with
  | nil => simp
  | cons faces l ih =>
      simp only [List.map_cons, List.sum_cons, List.length_cons, ih, sumWith, Int.natCast_add,
        Int.natCast_one]
      ring

theorem length_faceLists_pos (h : e.count = 0 ∨ 1 ≤ e.sides) : 0 < e.faceLists.length := by
  rw [faceLists, length_faceLists]
  rcases h with hcount | hsides
  · rw [hcount, pow_zero]
    exact Nat.one_pos
  · exact Nat.pow_pos hsides

theorem mean_sumWith (h : e.count = 0 ∨ 1 ≤ e.sides) :
    mean (e.faceLists.map e.sumWith) = e.expected Rat := by
  have hpos : ((e.faceLists.length : Nat) : Rat) ≠ 0 :=
    Nat.cast_ne_zero.2 (Nat.ne_of_gt (length_faceLists_pos h))
  have hfaces : (2 : Rat) * ((e.faceLists.map List.sum).sum : Nat) =
      e.count * (e.sides + 1) * (e.faceLists.length : Nat) := by
    have hnat := two_mul_sum_faceLists e.sides e.count
    rw [← length_faceLists] at hnat
    exact_mod_cast hnat
  rw [mean, sum_map_sumWith, List.length_map, expected_rat_eq, div_eq_iff hpos]
  -- Casting further would go into the sum over the faces.
  simp only [Int.cast_add, Int.cast_mul, Int.cast_natCast]
  linear_combination hfaces / 2

theorem value_eq (e : DiceExpr) (faces : List Nat) :
    (e.value faces : Int) = max (e.sumWith faces) 0 := Int.toNat_eq_max _

theorem sumWith_mem (h : faces ∈ e.faceLists) :
    e.lowest ≤ e.sumWith faces ∧ e.sumWith faces ≤ e.highest := by
  obtain ⟨hlength, hall⟩ := mem_faceLists_iff.1 h
  have hlo : faces.length * 1 ≤ faces.sum := List.card_nsmul_le_sum faces 1 fun f hf => (hall f hf).1
  have hhi : faces.sum ≤ faces.length * e.sides :=
    List.sum_le_card_nsmul faces e.sides fun f hf => (hall f hf).2
  rw [hlength] at hlo hhi
  rw [lowest, sumWith, highest, ← Int.natCast_mul]
  omega

def rolls (e : DiceExpr) : List Int := e.faceLists.map fun faces => (e.rollOn faces : Int)

theorem run_roll_of_shows {σ : Type} [DiceSource σ] {s s' : σ} (hlength : faces.length = e.count)
    (h : DiceSource.Shows s (e.throws faces) s') :
    e.roll.run s = (min (e.value faces) maxCount, s') := by
  rw [run_roll, ← hlength, run_rollFaces_of_shows h]

theorem rollOn_eq (h : faces ∈ e.faceLists) : e.rollOn faces = min (e.value faces) maxCount := by
  obtain ⟨hlength, hall⟩ := mem_faceLists_iff.1 h
  rw [rollOn, run_roll_of_shows hlength (Script.shows_ofFaces hall)]

/-- The largest count is out of reach, so that a roll stops at nothing but zero. -/
theorem rollOn_eq_max (hmax : e.highest ≤ maxCount) (h : faces ∈ e.faceLists) :
    (e.rollOn faces : Int) = max (e.sumWith faces) 0 := by
  have hvalue := e.value_eq faces
  have hhi := (sumWith_mem h).2
  rw [rollOn_eq h]
  omega

theorem lowest_faces_mem (h : e.count = 0 ∨ 1 ≤ e.sides) : List.replicate e.count 1 ∈ e.faceLists := by
  refine mem_faceLists_iff.2 ⟨List.length_replicate, fun face hface => ?_⟩
  obtain ⟨hcount, rfl⟩ := List.mem_replicate.1 hface
  exact ⟨Nat.le_refl 1, h.resolve_left hcount⟩

theorem expected_le_mean_rolls (h : e.count = 0 ∨ 1 ≤ e.sides) (hmax : e.highest ≤ maxCount) :
    e.expected Rat ≤ mean e.rolls := by
  rw [← mean_sumWith h]
  refine mean_map_le fun faces hfaces => ?_
  rw [rollOn_eq_max hmax hfaces]
  exact Int.le_max_left ..

/-- The means are the same if no sum is below zero. Otherwise that of the lowest faces is. -/
theorem mean_rolls_eq_iff (h : e.count = 0 ∨ 1 ≤ e.sides) (hmax : e.highest ≤ maxCount) :
    mean e.rolls = e.expected Rat ↔ 0 ≤ e.lowest := by
  rw [← mean_sumWith h]
  constructor
  · intro heq
    by_contra hneg
    have hones := lowest_faces_mem h
    have hsum : e.sumWith (List.replicate e.count 1) = e.lowest := by
      rw [sumWith, lowest, List.sum_replicate_nat, Nat.mul_one]
    have hlt : mean (e.faceLists.map e.sumWith) < mean e.rolls := by
      refine mean_map_lt (fun faces hfaces => ?_) ⟨_, hones, ?_⟩
      · rw [rollOn_eq_max hmax hfaces]
        exact Int.le_max_left ..
      · rw [rollOn_eq_max hmax hones]
        omega
    exact ne_of_gt hlt heq
  · intro hlowest
    refine congrArg mean (List.map_congr_left fun faces hfaces => ?_)
    have hlo := (sumWith_mem hfaces).1
    rw [rollOn_eq_max hmax hfaces]
    omega

/-- A source that keeps to the faces of its dice shows one of the sequences, and no more. -/
theorem exists_faces_of_roll {σ : Type} [DiceSource σ] {s : σ} (hs : DiceSource.InRangeFrom s)
    (h : e.count = 0 ∨ 1 ≤ e.sides) :
    ∃ faces ∈ e.faceLists, DiceSource.Shows s (e.throws faces) (e.roll.run s).2 ∧
      (e.roll.run s).1 = e.rollOn faces := by
  have hshows := e.shows_rollFaces e.count s
  have hlength : ((rollFaces e.sides e.count).run s).1.length = e.count := length_collect _ _ _
  have hmem : ((rollFaces e.sides e.count).run s).1 ∈ e.faceLists := by
    refine mem_faceLists_iff.2 ⟨hlength, fun face hface => ?_⟩
    have hcount : e.count ≠ 0 := by
      rw [← hlength]
      exact Nat.ne_of_gt (List.length_pos_of_mem hface)
    exact hs _ _ hshows ⟨e.sides, face⟩ (List.mem_map_of_mem hface) (h.resolve_left hcount)
  refine ⟨_, hmem, ?_, ?_⟩
  · rw [run_roll]
    exact hshows
  · rw [run_roll, rollOn_eq hmem]

/-- Dice come to their expected value. Over all sequences of faces, of which there are as many as
`count` dice have, the modifier and the faces have the mean that is expected, and rolls have a higher one
exactly if a sum can be below zero. Whatever source it is made on, a roll throws the dice of one of these
sequences and is the roll on it, and it is not below what the lowest faces come to nor above what the
highest do. -/
theorem rolls_averaged (hdice : e.count = 0 ∨ 1 ≤ e.sides) (hmax : e.highest ≤ maxCount) :
    (e.faceLists.length = e.sides ^ e.count ∧ e.faceLists.Nodup ∧
        ∀ faces, faces ∈ e.faceLists ↔
          faces.length = e.count ∧ ∀ face ∈ faces, 1 ≤ face ∧ face ≤ e.sides) ∧
      mean (e.faceLists.map e.sumWith) = e.expected Rat ∧
      e.expected Rat ≤ mean e.rolls ∧ (mean e.rolls = e.expected Rat ↔ 0 ≤ e.lowest) ∧
      ∀ {σ : Type} [DiceSource σ] (s : σ), DiceSource.InRangeFrom s →
        (∃ faces ∈ e.faceLists, DiceSource.Shows s (e.throws faces) (e.roll.run s).2 ∧
          (e.roll.run s).1 = e.rollOn faces) ∧
        max e.lowest 0 ≤ ((e.roll.run s).1 : Int) ∧ ((e.roll.run s).1 : Int) ≤ max e.highest 0 := by
  refine ⟨⟨length_faceLists _ _, nodup_faceLists _ _, fun faces => mem_faceLists_iff⟩,
    mean_sumWith hdice, expected_le_mean_rolls hdice hmax, mean_rolls_eq_iff hdice hmax,
    fun s hs => ?_⟩
  obtain ⟨faces, hfaces, hshows, hroll⟩ := exists_faces_of_roll hs hdice
  obtain ⟨hlo, hhi⟩ := sumWith_mem hfaces
  refine ⟨⟨faces, hfaces, hshows, hroll⟩, ?_⟩
  rw [hroll, rollOn_eq_max hmax hfaces]
  omega

/-- A die of three sides less two comes to zero in the mean, and its rolls to more: to a third, since a
generator makes nothing but zeros and ones of it. -/
theorem rolls_averaged_less_two :
    (1 ≤ 3 ∧ highest ⟨1, 3, -2⟩ ≤ maxCount) ∧ expected Rat ⟨1, 3, -2⟩ = 0 ∧
      0 < mean (rolls ⟨1, 3, -2⟩) ∧ ∀ g : Generator, ((roll ⟨1, 3, -2⟩).run g).1 ≤ 1 := by
  have hmax : highest ⟨1, 3, -2⟩ ≤ maxCount := by decide
  obtain ⟨-, -, hle, hiff, hrolls⟩ := rolls_averaged (e := ⟨1, 3, -2⟩) (.inr (by decide)) hmax
  have hzero : expected Rat ⟨1, 3, -2⟩ = 0 := by
    rw [expected_rat_eq]
    norm_num
  have hne : mean (rolls ⟨1, 3, -2⟩) ≠ expected Rat ⟨1, 3, -2⟩ := by
    rw [Ne, hiff]
    decide
  rw [hzero] at hle hne
  refine ⟨⟨by decide, hmax⟩, hzero, lt_of_le_of_ne hle hne.symm, fun g => ?_⟩
  have hhighest : max (highest ⟨1, 3, -2⟩) 0 = 1 := by decide
  obtain ⟨-, -, hhi⟩ := hrolls g (Generator.inRange.inRangeFrom g)
  rw [hhighest] at hhi
  exact Int.ofNat_le.1 hhi

end DiceExpr

end Salvo
