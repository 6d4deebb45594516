import Mathlib.Algebra.GroupWithZero.Nat
import Salvo.Dice.Expr
import Salvo.Dice.Script

/-!
# Thrown dice

A stage of an attack is known by the dice that it throws: `DiceSource.Shows` says that a source shows
given throws on its way from one state to another, in order and no others. What a source shows from a
state on is in range if each die with sides shows one of its faces; a script is in range from every
state in which it has faces (`Script.inRangeFrom`), and moves on by one face for each throw.
-/

namespace Salvo

section Collect

variable {σ α : Type}

/-- The results of an action that is taken a number of times, in order. -/
def collect (act : StateM σ α) : Nat → StateM σ (List α)
  | 0 => pure []
  | n + 1 => do
    let a ← act
    let rest ← collect act n
    return a :: rest

variable (act : StateM σ α) (n : Nat) (s : σ)

theorem run_collect_succ :
    (collect act (n + 1)).run s =
      ((act.run s).1 :: ((collect act n).run (act.run s).2).1,
        ((collect act n).run (act.run s).2).2) := rfl

theorem run_collect_add (m : Nat) :
    (collect act (n + m)).run s =
      (((collect act n).run s).1 ++ ((collect act m).run ((collect act n).run s).2).1,
        ((collect act m).run ((collect act n).run s).2).2) := by
  induction n generalizing s with
  | zero =>
      rw [Nat.zero_add]
      rfl
  | succ n ih =>
      rw [Nat.succ_add, run_collect_succ, run_collect_succ, ih]
      rfl

theorem length_collect : ((collect act n).run s).1.length = n := by
  induction n generalizing s with
  | zero => rfl
  | succ n ih => rw [run_collect_succ, List.length_cons, ih]

variable {act}

theorem forall_mem_collect {p : α → Prop} (h : ∀ s, p (act.run s).1) :
    ∀ a ∈ ((collect act n).run s).1, p a := by
  induction n generalizing s with
  | zero => exact fun a ha => nomatch ha
  | succ n ih =>
      rw [run_collect_succ, List.forall_mem_cons]
      exact ⟨h s, ih _⟩

end Collect

/-- A die with the face that it shows. -/
structure Throw where
  sides : Nat
  face : Nat
deriving DecidableEq, Repr

def Throw.InRange (t : Throw) : Prop := 1 ≤ t.face ∧ t.face ≤ t.sides

namespace DiceSource

variable {σ : Type} [DiceSource σ]

/-- From one state to another the source shows these throws. -/
def Shows : σ → List Throw → σ → Prop
  | s, [], s' => s = s'
  | s, t :: ts, s' => ((roll t.sides).run s).1 = t.face ∧ Shows ((roll t.sides).run s).2 ts s'

variable {s s' s'' : σ} {ts us : List Throw}

theorem shows_roll (sides : Nat) (s : σ) :
    Shows s [⟨sides, ((roll sides).run s).1⟩] ((roll sides).run s).2 := ⟨rfl, rfl⟩

theorem Shows.append (h : Shows s ts s') (h' : Shows s' us s'') : Shows s (ts ++ us) s'' := by
  induction ts generalizing s with
  | nil =>
      cases h
      exact h'
  | cons t ts ih => exact ⟨h.1, ih h.2⟩

/-- The source gets from one state to another by showing some throws. -/
def Reaches (s s' : σ) : Prop := ∃ ts, Shows s ts s'

theorem Reaches.refl (s : σ) : Reaches s s := ⟨[], rfl⟩

theorem Reaches.trans (h : Reaches s s') (h' : Reaches s' s'') : Reaches s s'' := by
  obtain ⟨ts, hshows⟩ := h
  obtain ⟨us, hshows'⟩ := h'
  exact ⟨ts ++ us, hshows.append hshows'⟩

theorem shows_collect {α : Type} {act : StateM σ α} {throws : α → List Throw}
    (h : ∀ s, Shows s (throws (act.run s).1) (act.run s).2) (n : Nat) (s : σ) :
    Shows s (((collect act n).run s).1.flatMap throws) ((collect act n).run s).2 := by
  induction n generalizing s with
  | zero => rfl
  | succ n ih =>
      rw [run_collect_succ, List.flatMap_cons]
      exact (h s).append (ih _)

/-- Whatever the source shows from a state on, each die with sides shows one of its faces. -/
def InRangeFrom (s : σ) : Prop :=
  ∀ ts s', Shows s ts s' → ∀ t ∈ ts, 1 ≤ t.sides → t.InRange

theorem InRange.inRangeFrom (h : InRange σ) (s : σ) : InRangeFrom s := by
  intro ts
  induction ts generalizing s with
  | nil => exact fun s' _ t ht => nomatch ht
  | cons t ts ih =>
      intro s' hshows
      rw [List.forall_mem_cons]
      refine ⟨fun hsides => ?_, ih _ s' hshows.2⟩
      have hface := h t.sides hsides s
      rwa [hshows.1] at hface

end DiceSource

namespace Script

open DiceSource

theorem roll_of_pos {sides : Nat} (h : 1 ≤ sides) {s : Script} (hs : s.faces.isEmpty = false) :
    (roll sides).run s = (fit sides s.current, { s with shown := s.shown + 1 }) := by
  have hsides : sides ≠ 0 := Nat.ne_of_gt h
  change (if sides = 0 || s.faces.isEmpty then (0, s) else _) = _
  simp [hsides, hs]

/-- Without sides or without faces nothing is shown. -/
theorem roll_le (sides : Nat) (s : Script) : ((roll sides).run s).1 ≤ sides := by
  rcases Nat.eq_zero_or_pos sides with rfl | hpos
  · exact Nat.le_refl 0
  · cases hs : s.faces.isEmpty with
    | false => exact roll_of_pos hpos hs ▸ fit_le hpos s.current
    | true =>
        change ((if sides = 0 || s.faces.isEmpty then (0, s) else _ : Nat × Script)).1 ≤ _
        simp [hs]

theorem isEmpty_faces_roll (sides : Nat) (s : Script) :
    ((roll sides).run s).2.faces.isEmpty = s.faces.isEmpty := by
  change ((if sides = 0 || s.faces.isEmpty then (0, s) else _ : Nat × Script)).2.faces.isEmpty = _
  split <;> rfl

theorem inRangeFrom {s : Script} (h : s.faces.isEmpty = false) : InRangeFrom s := by
  intro ts
  induction ts generalizing s with
  | nil => exact fun s' _ t ht => nomatch ht
  | cons t ts ih =>
      intro s' hshows
      rw [List.forall_mem_cons]
      refine ⟨fun hsides => ?_, ih (isEmpty_faces_roll t.sides s ▸ h) s' hshows.2⟩
      have hface := hshows.1
      rw [roll_of_pos hsides h] at hface
      exact ⟨hface ▸ fit_pos .., hface ▸ fit_le hsides _⟩

theorem fit_of_mem {sides face : Nat} (h : 1 ≤ face ∧ face ≤ sides) : fit sides face = face := by
  have hface : face ≠ 0 := Nat.ne_of_gt h.1
  rw [fit, if_neg hface, Nat.mod_eq_of_lt (by omega)]
  omega

theorem shows_drop {sides : Nat} {faces : List Nat} (h : ∀ face ∈ faces, 1 ≤ face ∧ face ≤ sides)
    {n k : Nat} (hlength : n + k = faces.length) :
    Shows (mk faces.toArray n) ((faces.drop n).map (Throw.mk sides))
      (mk faces.toArray faces.length) := by
  induction k generalizing n with
  | zero =>
      rw [Nat.add_zero] at hlength
      rw [hlength, List.drop_length]
      rfl
  | succ k ih =>
      have hn : n < faces.length := by omega
      have hface := h _ (List.getElem_mem hn)
      have hempty : faces.toArray.isEmpty = false := by
        simpa using List.ne_nil_of_length_pos (Nat.zero_lt_of_lt hn)
      have hcurrent : (mk faces.toArray n).current = faces[n] := by
        simp [current, Nat.mod_eq_of_lt hn, hn]
      have hroll : (roll sides).run (mk faces.toArray n) = (faces[n], mk faces.toArray (n + 1)) := by
        rw [roll_of_pos (Nat.le_trans hface.1 hface.2) hempty, hcurrent, fit_of_mem hface]
      rw [List.drop_eq_getElem_cons hn, List.map_cons]
      refine ⟨congrArg Prod.fst hroll, ?_⟩
      rw [hroll]
      exact ih (by omega)

theorem shows_ofFaces {sides : Nat} {faces : List Nat} (h : ∀ face ∈ faces, 1 ≤ face ∧ face ≤ sides) :
    Shows (ofFaces faces) (faces.map (Throw.mk sides)) (mk faces.toArray faces.length) :=
  shows_drop h (Nat.zero_add _)

theorem shown_of_shows {s s' : Script} {ts : List Throw} (h : s.faces.isEmpty = false)
    (hts : ∀ t ∈ ts, 1 ≤ t.sides) (hshows : Shows s ts s') : s'.shown = s.shown + ts.length := by
  induction ts generalizing s with
  | nil =>
      cases hshows
      rfl
  | cons t ts ih =>
      obtain ⟨hsides, hrest⟩ := List.forall_mem_cons.1 hts
      have hnext := ih (isEmpty_faces_roll t.sides s ▸ h) hrest hshows.2
      rw [roll_of_pos hsides h] at hnext
      rw [hnext, List.length_cons]
      simp only
      omega

end Script

namespace DiceExpr

variable {σ : Type} [DiceSource σ]

/-- The faces of a number of dice of one kind, in order. -/
def rollFaces (sides n : Nat) : StateM σ (List Nat) := collect (DiceSource.roll sides) n

/-- What an expression comes to on some faces. It is never below zero. -/
def value (e : DiceExpr) (faces : List Nat) : Nat := (e.modifier + (faces.sum : Nat)).toNat

def throws (e : DiceExpr) (faces : List Nat) : List Throw := faces.map (Throw.mk e.sides)

@[simp] theorem length_throws (e : DiceExpr) (faces : List Nat) :
    (e.throws faces).length = faces.length := List.length_map ..

theorem shows_rollFaces (e : DiceExpr) (n : Nat) (s : σ) :
    DiceSource.Shows s (e.throws ((rollFaces e.sides n).run s).1) ((rollFaces e.sides n).run s).2 := by
  rw [throws, List.map_eq_flatMap]
  exact DiceSource.shows_collect (DiceSource.shows_roll e.sides) n s

theorem run_rollFaces_of_shows {sides : Nat} {faces : List Nat} {s s' : σ}
    (h : DiceSource.Shows s (faces.map (Throw.mk sides)) s') :
    (rollFaces sides faces.length).run s = (faces, s') := by
  induction faces generalizing s with
  | nil =>
      cases h
      rfl
  | cons face faces ih =>
      obtain ⟨hface, hrest⟩ := h
      rw [List.length_cons, rollFaces, run_collect_succ]
      change (((DiceSource.roll sides).run s).1 :: ((rollFaces sides faces.length).run _).1,
        ((rollFaces sides faces.length).run _).2) = _
      rw [ih hrest, hface]

theorem run_addFaces (sides n : Nat) (total : Int) (s : σ) :
    (addFaces sides n total).run s =
      (total + (((rollFaces sides n).run s).1.sum : Nat), ((rollFaces sides n).run s).2) := by
  induction n generalizing total s with
  | zero => exact congrArg (·, s) (Int.add_zero total).symm
  | succ n ih =>
      have hrest := ih (total + ((DiceSource.roll sides).run s).1) ((DiceSource.roll sides).run s).2
      refine hrest.trans (congrArg (·, ((rollFaces sides (n + 1)).run s).2) ?_)
      change _ = total + ((((DiceSource.roll sides).run s).1 +
        ((rollFaces sides n).run ((DiceSource.roll sides).run s).2).1.sum : Nat) : Int)
      omega

theorem run_roll (e : DiceExpr) (s : σ) :
    e.roll.run s =
      (min (e.value ((rollFaces e.sides e.count).run s).1) maxCount,
        ((rollFaces e.sides e.count).run s).2) := by
  have htotal : e.total.run s = _ := run_addFaces e.sides e.count e.modifier s
  change (toCount (e.total.run s).1, (e.total.run s).2) = _
  rw [htotal]
  rfl

end DiceExpr

end Salvo
