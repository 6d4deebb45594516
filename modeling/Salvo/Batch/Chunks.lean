import Salvo.Batch.Range
import Salvo.Batch.Progress

/-!
# Batches in chunks

A batch is divided into chunks, and each chunk is either run or skipped because the batch was
cancelled before it began. A `Schedule` says which ones are skipped, so the outcome of a batch is a
function of its schedule. Results come in the order of the chunks, whatever the order in which they
finish.
-/

namespace Salvo

/-- Whether the batch was cancelled when the chunk with this index was about to begin. -/
abbrev Schedule := Nat → Bool

namespace Schedule

def whole : Schedule := fun _ => false

def cancelledFirst : Schedule := fun _ => true

/-- The chunks run in order, and the one with this index cancels the batch. -/
def cancelledBy (index : Nat) : Schedule := fun i => index < i

end Schedule

/-- What a batch in chunks leads to. -/
structure ChunkedRun (α : Type) where
  items : List α
  skipped : Nat
deriving DecidableEq, Repr

namespace ChunkedRun

variable {α : Type}

def cancelled (r : ChunkedRun α) : Bool := 0 < r.skipped

/-- Collects the results of chunks in order; a chunk that was skipped has none. -/
def ofChunks (chunks : List (Option (List α))) : ChunkedRun α where
  items := (chunks.filterMap id).flatten
  skipped := chunks.countP (·.isNone)

end ChunkedRun

section

variable {α : Type}

def chunkResults (rs : List Range) (schedule : Schedule) (run : Nat → Range → List α) :
    List (Option (List α)) :=
  rs.mapIdx fun i r => if schedule i then none else some (run i r)

def runChunks (total count : Nat) (schedule : Schedule) (run : Nat → Range → List α) :
    ChunkedRun α :=
  .ofChunks (chunkResults (ranges total count) schedule run)

/-- The same with chunks that can fail. If one fails that is not skipped, so does the batch. -/
def runChunks? (total count : Nat) (schedule : Schedule) (run : Nat → Range → Option (List α)) :
    Option (ChunkedRun α) := do
  let chunks ← (ranges total count).zipIdx.mapM fun (r, i) =>
    if schedule i then some none else (run i r).map some
  return .ofChunks chunks

end

def executedSizes (rs : List Range) (schedule : Schedule) : List Nat :=
  (rs.mapIdx fun i r => if schedule i then none else some r.size).filterMap id

/-- How a counter moves while the chunks of a batch run one after the other. -/
def Progress.through (p : Progress) (total count : Nat) (schedule : Schedule) : Progress :=
  (executedSizes (ranges total count) schedule).foldl advance (p.start total)

/-- The threads that a number of chunks is shared among; with no workers given there is no limit. -/
def threadsFor (workers chunks : Nat) : Option Nat :=
  if workers = 0 then none else some (max (min workers chunks) 1)

end Salvo
