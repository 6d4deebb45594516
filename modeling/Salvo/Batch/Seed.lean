/-!
# Seeds

Every batch of a scenario has a seed of its own, derived from a base seed and the names involved, and
every chunk of a batch has one derived from that of the batch.
-/

namespace Salvo

def chunkSeed (seed : UInt64) (index : Nat) : UInt64 := seed + UInt64.ofNat index

def mixByte (seed byte : UInt64) : UInt64 := seed * 37 + byte

/-- Takes a name into a seed, and a byte behind it that no name contains. -/
def mixName (seed : UInt64) (name : String) : UInt64 :=
  mixByte (name.toUTF8.data.foldl (fun s b => mixByte s b.toUInt64) seed) 0xff

def stableSeed (seed : UInt64) (names : List String) : UInt64 := names.foldl mixName seed

@[simp] theorem stableSeed_nil (seed : UInt64) : stableSeed seed [] = seed := rfl

theorem stableSeed_cons (seed : UInt64) (name : String) (names : List String) :
    stableSeed seed (name :: names) = stableSeed (mixName seed name) names := rfl

end Salvo
