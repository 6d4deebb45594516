import Mathlib.NumberTheory.Multiplicity
import Salvo.Proofs.Batch.Seeds

/-!
# How far apart seeds can be

If two lists of names have the same number of bytes, their seeds are equally far apart for every base
seed. Otherwise the distance takes, over all base seeds, every value that leaves the same remainder
modulo a power of two (`seedPeriod`), so what it takes at least is that remainder
(`forall_le_toNat_sub_iff`). Names are apart for every base seed exactly if the remainders are large
enough in both directions (`forall_seedsApart_iff`). For that the period has to be twice as large
(`AlwaysApart.two_mul_le`), which it is not for names of nearly one length.
-/

namespace Salvo

open scoped UInt64.CommRing

section Period

/-- The distances of seeds of names with `m` and `n` bytes are all equal modulo this power of two: the
largest one in four times the difference of `m` and `n`, and 2⁶⁴ if they are the same. -/
def seedPeriod (m n : Nat) : Nat := Int.gcd (4 * (m - n)) (2 ^ 64)

theorem seedPeriod_dvd (m n : Nat) : seedPeriod m n ∣ 2 ^ 64 :=
  Int.natCast_dvd_natCast.1 (Int.gcd_dvd_right ..)

theorem seedPeriod_comm (m n : Nat) : seedPeriod m n = seedPeriod n m := by
  rw [seedPeriod, seedPeriod, ← Int.neg_gcd]
  congr 1
  ring

theorem seedPeriod_self (m : Nat) : seedPeriod m m = 2 ^ 64 := by
  rw [seedPeriod, sub_self, mul_zero, Int.gcd_zero_left]
  rfl

theorem seedPeriod_le {m n : Nat} (h : m ≠ n) : seedPeriod m n ≤ 4 * (m - n + (n - m)) := by
  have hne : (4 * ((m : ℤ) - n)) ≠ 0 := by omega
  have hle := Int.gcd_le_natAbs_left (2 ^ 64) hne
  rw [seedPeriod]
  omega

/-- Powers of two divide one less than a power of 37 and four times its exponent alike. -/
theorem two_pow_dvd_pow_sub_one_iff (i k : Nat) : (2 : ℤ) ^ i ∣ 37 ^ k - 1 ↔ (2 : ℤ) ^ i ∣ 4 * k := by
  have hlift := Int.two_pow_sub_pow' (x := 37) (y := 1) k (by decide) (by decide)
  have hfactor : emultiplicity 2 ((37 - 1) * (k : ℤ)) =
      emultiplicity (2 : ℤ) (37 - 1) + emultiplicity 2 (k : ℤ) := emultiplicity_mul Int.prime_two
  rw [one_pow] at hlift
  rw [pow_dvd_iff_le_emultiplicity, hlift, ← hfactor, ← pow_dvd_iff_le_emultiplicity,
    show ((37 : ℤ) - 1) * k = 9 * (4 * k) by ring]
  exact ⟨Int.prime_two.pow_dvd_of_dvd_mul_left i (by decide), fun h => Dvd.dvd.mul_left h 9⟩

theorem two_pow_dvd_pow_sub_pow_iff (i m n : Nat) :
    (2 : ℤ) ^ i ∣ 37 ^ m - 37 ^ n ↔ (2 : ℤ) ^ i ∣ 4 * (m - n) := by
  wlog h : n ≤ m generalizing m n
  · rw [← dvd_neg, neg_sub, this n m (by omega), ← dvd_neg]
    congr! 1
    ring
  obtain ⟨k, rfl⟩ := Nat.exists_eq_add_of_le h
  have hodd : ¬ (2 : ℤ) ∣ 37 ^ n := fun hn =>
    absurd (Int.prime_two.dvd_of_dvd_pow hn) (by decide)
  have hsplit : (37 : ℤ) ^ (n + k) - 37 ^ n = 37 ^ n * (37 ^ k - 1) := by ring
  rw [hsplit, Nat.cast_add, add_sub_cancel_left, ← two_pow_dvd_pow_sub_one_iff]
  exact ⟨Int.prime_two.pow_dvd_of_dvd_mul_left i hodd, fun h => Dvd.dvd.mul_left h _⟩

theorem gcd_two_pow_dvd {a b : ℤ} (h : ∀ i : Nat, (2 : ℤ) ^ i ∣ a → (2 : ℤ) ^ i ∣ b) (n : Nat) :
    Int.gcd a (2 ^ n) ∣ Int.gcd b (2 ^ n) := by
  have hright := Int.gcd_dvd_right a (2 ^ n)
  have hpow : Int.gcd a (2 ^ n) ∣ 2 ^ n := by exact_mod_cast hright
  obtain ⟨i, -, hi⟩ := (Nat.dvd_prime_pow Nat.prime_two).1 hpow
  have hcast : (Int.gcd a (2 ^ n) : ℤ) = 2 ^ i := by exact_mod_cast hi
  refine Int.dvd_gcd ?_ hright
  rw [hcast]
  exact h i (hcast ▸ Int.gcd_dvd_left a (2 ^ n))

theorem seedPeriod_eq_gcd_pow (m n : Nat) : seedPeriod m n = Int.gcd (37 ^ m - 37 ^ n) (2 ^ 64) :=
  Nat.dvd_antisymm (gcd_two_pow_dvd (fun i => (two_pow_dvd_pow_sub_pow_iff i m n).2) 64)
    (gcd_two_pow_dvd (fun i => (two_pow_dvd_pow_sub_pow_iff i m n).1) 64)

end Period

section Values

theorem natCast_toNat (x : UInt64) : ((x.toNat : ℤ) : UInt64) = x := by
  rw [Int.cast_natCast]
  exact UInt64.ofNat_toNat

theorem toNat_intCast (z : ℤ) : ((z : UInt64).toNat : ℤ) = z % 2 ^ 64 := by
  change ((UInt64.ofNat (z % 2 ^ 64).toNat).toNat : ℤ) = z % 2 ^ 64
  rw [UInt64.toNat_ofNat']
  omega

variable {factor : ℤ} {start : UInt64}

theorem intCast_mul_add (base : ℤ) :
    (base : UInt64) * factor + start = ((base * factor + start.toNat : ℤ) : UInt64) := by
  rw [Int.cast_add, Int.cast_mul, natCast_toNat]

theorem toNat_mul_add_mod (base : UInt64) :
    (base * factor + start).toNat % Int.gcd factor (2 ^ 64) =
      start.toNat % Int.gcd factor (2 ^ 64) := by
  have hfactor := Int.gcd_dvd_left factor (2 ^ 64)
  have hword := Int.gcd_dvd_right factor (2 ^ 64)
  generalize Int.gcd factor (2 ^ 64) = g at hfactor hword ⊢
  obtain ⟨k, rfl⟩ := hfactor
  have hnat := toNat_intCast (base.toNat * (g * k) + start.toNat)
  rw [← intCast_mul_add, natCast_toNat] at hnat
  refine Int.natCast_inj.1 ?_
  rw [Int.natCast_emod, Int.natCast_emod, hnat, Int.emod_emod_of_dvd _ hword,
    show (base.toNat * (g * k) + start.toNat : ℤ) = start.toNat + g * (base.toNat * k) by ring,
    Int.add_mul_emod_self_left]

/-- Some base seed takes away all but the remainder, by Bézout's identity. -/
theorem exists_toNat_mul_add_eq :
    ∃ base : UInt64, (base * factor + start).toNat = start.toNat % Int.gcd factor (2 ^ 64) := by
  have hbezout := Int.gcd_eq_gcd_ab factor (2 ^ 64)
  generalize Int.gcd factor (2 ^ 64) = g at hbezout ⊢
  generalize Int.gcdA factor (2 ^ 64) = u, Int.gcdB factor (2 ^ 64) = v at hbezout
  refine ⟨((-u * (start.toNat / g : Nat) : ℤ) : UInt64), ?_⟩
  have hsplit : ((start.toNat % g : Nat) : ℤ) + g * (start.toNat / g : Nat) = start.toNat := by
    exact_mod_cast Nat.mod_add_div start.toNat g
  have hvalue : -u * (start.toNat / g : Nat) * factor + start.toNat =
      (start.toNat % g : Nat) + 2 ^ 64 * (v * (start.toNat / g : Nat)) := by
    rw [← hsplit, hbezout]
    ring
  have hlt : start.toNat % g < 2 ^ 64 := Nat.lt_of_le_of_lt (Nat.mod_le ..) start.toNat_lt
  have hnat := toNat_intCast (-u * (start.toNat / g : Nat) * factor + start.toNat)
  rw [hvalue, Int.add_mul_emod_self_left] at hnat
  rw [intCast_mul_add, hvalue]
  omega

/-- Over all base seeds, a multiple of the base seed and a start come to at least what the start leaves
modulo the divisor that the factor has in common with 2⁶⁴. -/
theorem forall_le_toNat_mul_add_iff {n : Nat} :
    (∀ base : UInt64, n ≤ (base * factor + start).toNat) ↔
      n ≤ start.toNat % Int.gcd factor (2 ^ 64) := by
  constructor
  · intro h
    have hleast : ∃ base : UInt64, (base * factor + start).toNat = _ := exists_toNat_mul_add_eq
    obtain ⟨base, hbase⟩ := hleast
    rw [← hbase]
    exact h base
  · intro h base
    rw [← toNat_mul_add_mod base] at h
    exact Nat.le_trans h (Nat.mod_le ..)

end Values

section Names

variable {names others : List String}

theorem stableSeed_sub_eq (base : UInt64) :
    stableSeed base others - stableSeed base names =
      base * ((37 ^ (seedBytes others).length - 37 ^ (seedBytes names).length : ℤ) : UInt64) +
        (stableSeed 0 others - stableSeed 0 names) := by
  rw [stableSeed_eq base names, stableSeed_eq base others]
  push_cast
  ring

theorem forall_le_toNat_sub_iff {n : Nat} :
    (∀ base, n ≤ (stableSeed base others - stableSeed base names).toNat) ↔
      n ≤ (stableSeed 0 others - stableSeed 0 names).toNat %
        seedPeriod (seedBytes others).length (seedBytes names).length := by
  rw [seedPeriod_eq_gcd_pow, ← forall_le_toNat_mul_add_iff]
  exact forall_congr' fun base => by rw [stableSeed_sub_eq]

/-- The chunks of batches with these names have different seeds whatever the base seed, if there are
`n` of each. -/
structure AlwaysApart (n : Nat) (names others : List String) : Prop where
  forth : n ≤ (stableSeed 0 others - stableSeed 0 names).toNat %
    seedPeriod (seedBytes others).length (seedBytes names).length
  back : n ≤ (stableSeed 0 names - stableSeed 0 others).toNat %
    seedPeriod (seedBytes names).length (seedBytes others).length

theorem forall_seedsApart_iff {n : Nat} :
    (∀ base, SeedsApart n (stableSeed base names) (stableSeed base others)) ↔
      AlwaysApart n names others := by
  constructor
  · intro h
    exact ⟨forall_le_toNat_sub_iff.1 fun base => (h base).forth,
      forall_le_toNat_sub_iff.1 fun base => (h base).back⟩
  · intro h base
    exact ⟨forall_le_toNat_sub_iff.2 h.forth base, forall_le_toNat_sub_iff.2 h.back base⟩

theorem AlwaysApart.stableSeed_ne {n : Nat} (h : AlwaysApart n names others) (hn : 0 < n) :
    stableSeed 0 names ≠ stableSeed 0 others := by
  intro hsame
  have hforth := h.forth
  rw [hsame, UInt64.sub_self, UInt64.toNat_zero, Nat.zero_mod] at hforth
  exact absurd hforth (Nat.not_le_of_lt hn)

theorem AlwaysApart.two_mul_le {n : Nat} (h : AlwaysApart n names others) :
    2 * n ≤ seedPeriod (seedBytes names).length (seedBytes others).length := by
  obtain ⟨hforth, hback⟩ := h
  rw [seedPeriod_comm] at hforth
  have hword := seedPeriod_dvd (seedBytes names).length (seedBytes others).length
  generalize seedPeriod (seedBytes names).length (seedBytes others).length = g at *
  generalize stableSeed 0 others = seed, stableSeed 0 names = other at *
  -- the two distances go once around, if they are not zero
  have hround : (seed - other).toNat + (other - seed).toNat = 0 ∨
      (seed - other).toNat + (other - seed).toNat = 2 ^ 64 := by
    have hseed := seed.toNat_lt
    have hother := other.toNat_lt
    rw [UInt64.toNat_sub, UInt64.toNat_sub]
    omega
  have hmod : ((seed - other).toNat + (other - seed).toNat) % g = 0 := by
    rcases hround with hround | hround
    · rw [hround, Nat.zero_mod]
    · rw [hround, Nat.mod_eq_zero_of_dvd hword]
  rcases Nat.lt_or_ge ((seed - other).toNat % g + (other - seed).toNat % g) g with hlt | hge
  · rw [Nat.add_mod_of_add_mod_lt hlt] at hmod
    omega
  · have hperiod := Nat.add_mod_add_of_le_add_mod hge
    omega

theorem AlwaysApart.le_of_length_ne {n : Nat} (h : AlwaysApart n names others)
    (hlength : (seedBytes names).length ≠ (seedBytes others).length) :
    n ≤ 2 * ((seedBytes names).length - (seedBytes others).length +
      ((seedBytes others).length - (seedBytes names).length)) := by
  have htwo := h.two_mul_le
  have hperiod := seedPeriod_le hlength
  omega

/-- For names of one size, all base seeds are alike. -/
theorem seedsApart_iff_of_length_eq (h : (seedBytes names).length = (seedBytes others).length)
    (base : UInt64) {n : Nat} :
    SeedsApart n (stableSeed base names) (stableSeed base others) ↔ AlwaysApart n names others := by
  have hforth := stableSeed_sub_stableSeed h.symm base
  have hback := stableSeed_sub_stableSeed h base
  have hmod (seed other : UInt64) : (seed - other).toNat % 2 ^ 64 = (seed - other).toNat :=
    Nat.mod_eq_of_lt (UInt64.toNat_lt _)
  constructor
  · rintro ⟨hother, hseed⟩
    refine ⟨?_, ?_⟩
    · rwa [h, seedPeriod_self, hmod, ← hforth]
    · rwa [h, seedPeriod_self, hmod, ← hback]
  · rintro ⟨hother, hseed⟩
    rw [h, seedPeriod_self, hmod] at hother hseed
    exact ⟨hforth ▸ hother, hback ▸ hseed⟩

/-- Names that differ in their last byte only, as those with a number at their end do, have seeds that
are so many times 37 apart. -/
theorem alwaysApart_iff_of_last_byte {bytes : List UInt8} {b c : UInt8}
    (hnames : seedBytes names = bytes ++ [b, 0xff]) (hothers : seedBytes others = bytes ++ [c, 0xff])
    (hlt : b < c) {n : Nat} (hn : n ≤ 2 ^ 63) :
    AlwaysApart n names others ↔ n ≤ 37 * (c.toNat - b.toNat) := by
  have hlength : (seedBytes names).length = (seedBytes others).length := by
    rw [hnames, hothers, List.length_append, List.length_append]
    rfl
  have hmix (byte : UInt8) : mixBytes 0 (bytes ++ [byte, 0xff]) =
      (mixBytes 0 bytes * 37 + byte.toUInt64) * 37 + 0xff := mixBytes_append ..
  have hsub {x y : UInt8} : mixBytes 0 (bytes ++ [x, 0xff]) - mixBytes 0 (bytes ++ [y, 0xff]) =
      (x.toUInt64 - y.toUInt64) * 37 := by
    rw [hmix, hmix]
    ring
  have hvalue (x y : UInt8) : ((x.toUInt64 - y.toUInt64) * 37).toNat =
      (2 ^ 64 - y.toNat + x.toNat) % 2 ^ 64 * 37 % 2 ^ 64 := by
    rw [UInt64.toNat_mul, UInt64.toNat_sub, UInt8.toNat_toUInt64, UInt8.toNat_toUInt64]
    rfl
  have hb := b.toNat_lt
  have hc := c.toNat_lt
  have hbytes : b.toNat < c.toNat := UInt8.lt_iff_toNat_lt.1 hlt
  rw [← seedsApart_iff_of_length_eq hlength 0, stableSeed_eq_mixBytes, stableSeed_eq_mixBytes, hnames,
    hothers]
  constructor
  · rintro ⟨hforth, -⟩
    rw [hsub, hvalue] at hforth
    omega
  · intro h
    constructor
    · rw [hsub, hvalue]
      omega
    · have hround : ((b.toUInt64 - c.toUInt64) * 37).toNat = 2 ^ 64 - 37 * (c.toNat - b.toNat) := by
        rw [hvalue]
        omega
      calc
        n ≤ 2 ^ 63 := hn
        _ ≤ 2 ^ 64 - 37 * (c.toNat - b.toNat) := by omega
        _ = _ := by rw [hsub, hround]

end Names

end Salvo
