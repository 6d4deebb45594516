import Salvo.Scalar

/-!
# Progress

Progress counts the trials that are done. If someone listens, each change is also sent as an update.
-/

namespace Salvo

/-- How far a batch has come. -/
structure ProgressUpdate where
  completed : Nat
  total : Nat
deriving DecidableEq, Repr

/-- A counter with a log of the updates that were sent, the last one first. -/
structure Progress where
  completed : Nat := 0
  total : Nat := 0
  /-- Someone receives updates. -/
  listening : Bool := false
  log : List ProgressUpdate := []
deriving DecidableEq, Repr

namespace Progress

def channel : Progress := { listening := true }

def current (p : Progress) : ProgressUpdate := ⟨p.completed, p.total⟩

def send (p : Progress) : Progress :=
  if p.listening then { p with log := p.current :: p.log } else p

def start (p : Progress) (total : Nat) : Progress := { p with completed := 0, total }.send

def advance (p : Progress) (trials : Nat) : Progress :=
  { p with completed := p.completed + trials }.send

/-- Nobody listens any more, and what has not been received is lost. -/
def hangUp (p : Progress) : Progress := { p with listening := false, log := [] }

def updates (p : Progress) : List ProgressUpdate := p.log.reverse

def fraction (α : Type) [Scalar α] (p : Progress) : α :=
  if p.total = 0 then Scalar.ofCount 0 else Scalar.ofCount p.completed / Scalar.ofCount p.total

@[simp] theorem completed_start (p : Progress) (total : Nat) : (p.start total).completed = 0 := by
  simp only [start, send]; split <;> rfl

@[simp] theorem completed_advance (p : Progress) (trials : Nat) :
    (p.advance trials).completed = p.completed + trials := by
  simp only [advance, send]; split <;> rfl

@[simp] theorem total_advance (p : Progress) (trials : Nat) : (p.advance trials).total = p.total := by
  simp only [advance, send]; split <;> rfl

end Progress

end Salvo
