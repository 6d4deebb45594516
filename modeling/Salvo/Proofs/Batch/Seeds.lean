import Mathlib.Data.UInt
import Mathlib.Tactic.Ring
import Salvo.Batch.Seed

/-!
# Seeds modulo 2⁶⁴

The seed for a list of names is a polynomial in 37 whose coefficients are the bytes of the names; the
seed it starts from is the leading one. The chunks of a batch count up from the seed of the batch, so
two batches have a chunk seed in common as soon as their seeds are close.
-/

namespace Salvo

open scoped UInt64.CommRing

section Names

/-- The bytes that names are taken into a seed by, with the byte behind each name. -/
def seedBytes (names : List String) : List UInt8 :=
  names.flatMap fun name => name.toUTF8.data.toList ++ [0xff]

def mixBytes (seed : UInt64) (bytes : List UInt8) : UInt64 :=
  bytes.foldl (fun s b => mixByte s b.toUInt64) seed

theorem mixBytes_append (seed : UInt64) (bytes more : List UInt8) :
    mixBytes seed (bytes ++ more) = mixBytes (mixBytes seed bytes) more :=
  List.foldl_append

theorem mixName_eq_mixBytes (seed : UInt64) (name : String) :
    mixName seed name = mixBytes seed (name.toUTF8.data.toList ++ [0xff]) := by
  rw [mixBytes_append, mixName, ← Array.foldl_toList]
  rfl

theorem seedBytes_cons (name : String) (names : List String) :
    seedBytes (name :: names) = name.toUTF8.data.toList ++ [0xff] ++ seedBytes names :=
  List.flatMap_cons

theorem stableSeed_eq_mixBytes (seed : UInt64) (names : List String) :
    stableSeed seed names = mixBytes seed (seedBytes names) := by
  induction names generalizing seed with
  | nil => rfl
  | cons name names ih =>
      rw [stableSeed_cons, ih, seedBytes_cons, mixBytes_append, ← mixName_eq_mixBytes]

theorem mixBytes_eq (seed : UInt64) (bytes : List UInt8) :
    mixBytes seed bytes = seed * 37 ^ bytes.length + mixBytes 0 bytes := by
  induction bytes generalizing seed with
  | nil =>
      change seed = seed * 37 ^ 0 + 0
      ring
  | cons b bytes ih =>
      change mixBytes (mixByte seed b.toUInt64) bytes =
        seed * 37 ^ (bytes.length + 1) + mixBytes (mixByte 0 b.toUInt64) bytes
      rw [ih (mixByte seed b.toUInt64), ih (mixByte 0 b.toUInt64), mixByte, mixByte]
      ring

/-- The names add the same to every base seed of which they have the same power in front. -/
theorem stableSeed_eq (seed : UInt64) (names : List String) :
    stableSeed seed names = seed * 37 ^ (seedBytes names).length + stableSeed 0 names := by
  rw [stableSeed_eq_mixBytes, stableSeed_eq_mixBytes, mixBytes_eq]

/-- How far apart the seeds of equally long names are does not depend on the base seed. -/
theorem stableSeed_sub_stableSeed {names others : List String}
    (h : (seedBytes names).length = (seedBytes others).length) (seed : UInt64) :
    stableSeed seed names - stableSeed seed others =
      stableSeed 0 names - stableSeed 0 others := by
  rw [stableSeed_eq seed names, stableSeed_eq seed others, h]
  ring

end Names

section Chunks

/-- Whichever of two seeds one counts up from, the other is not among the first `n`. -/
structure SeedsApart (n : Nat) (seed other : UInt64) : Prop where
  forth : n ≤ (other - seed).toNat
  back : n ≤ (seed - other).toNat

theorem chunkSeed_inj {seed : UInt64} {i j : Nat} (hi : i < 2 ^ 64) (hj : j < 2 ^ 64)
    (h : chunkSeed seed i = chunkSeed seed j) : i = j := by
  have hvalue : UInt64.ofNat i = UInt64.ofNat j := add_left_cancel h
  have hnat := congrArg UInt64.toNat hvalue
  rwa [UInt64.toNat_ofNat', UInt64.toNat_ofNat', Nat.mod_eq_of_lt hi, Nat.mod_eq_of_lt hj] at hnat

theorem chunkSeed_toNat_sub (seed other : UInt64) :
    chunkSeed seed (other - seed).toNat = chunkSeed other 0 := by
  change seed + UInt64.ofNat (other - seed).toNat = other + 0
  rw [UInt64.ofNat_toNat]
  ring

theorem seedsApart_iff {n : Nat} {seed other : UInt64} :
    SeedsApart n seed other ↔ ∀ i < n, ∀ j < n, chunkSeed seed i ≠ chunkSeed other j := by
  constructor
  · rintro ⟨hforth, hback⟩ i hi j hj heq
    have hnat := congrArg UInt64.toNat heq
    rw [chunkSeed, chunkSeed, UInt64.toNat_add, UInt64.toNat_add, UInt64.toNat_ofNat',
      UInt64.toNat_ofNat'] at hnat
    rw [UInt64.toNat_sub] at hforth hback
    have hseed := seed.toNat_lt
    have hother := other.toNat_lt
    omega
  · intro h
    constructor
    · by_contra hnear
      have hlt : (other - seed).toNat < n := Nat.lt_of_not_le hnear
      exact h _ hlt 0 (Nat.zero_lt_of_lt hlt) (chunkSeed_toNat_sub seed other)
    · by_contra hnear
      have hlt : (seed - other).toNat < n := Nat.lt_of_not_le hnear
      exact h 0 (Nat.zero_lt_of_lt hlt) _ hlt (chunkSeed_toNat_sub other seed).symm

end Chunks

end Salvo
