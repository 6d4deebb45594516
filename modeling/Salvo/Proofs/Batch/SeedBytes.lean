import Mathlib.Algebra.Group.Units.Equiv
import Salvo.Proofs.Batch.Seeds

/-!
# What seeds keep of names

The multiplier of seeds is a unit modulo 2⁶⁴, so taking a byte into a seed can be undone, and with it
taking in any number of bytes. For the same names, different base seeds lead to different seeds. For
the same base seed, names of the same sizes that differ in a single byte do: the seeds part at that
byte, and the bytes behind it, which are the same, keep them apart (`stableSeed_keeps`).
-/

namespace Salvo

open scoped UInt64.CommRing

section Mixing

theorem isUnit_multiplier : IsUnit (37 : UInt64) := .of_mul_eq_one 0x14c1bacf914c1bad (by decide)

theorem bijective_mixByte (byte : UInt64) : Function.Bijective (mixByte · byte) := by
  obtain ⟨multiplier, hmultiplier⟩ := isUnit_multiplier
  have hscale : Function.Bijective fun seed : UInt64 => seed * 37 :=
    hmultiplier ▸ multiplier.mulRight_bijective
  exact (Equiv.addRight byte).bijective.comp hscale

theorem bijective_mixBytes (bytes : List UInt8) : Function.Bijective (mixBytes · bytes) := by
  induction bytes with
  | nil => exact Function.bijective_id
  | cons b bytes ih => exact ih.comp (bijective_mixByte b.toUInt64)

theorem bijective_stableSeed (names : List String) : Function.Bijective (stableSeed · names) := by
  simp only [stableSeed_eq_mixBytes]
  exact bijective_mixBytes (seedBytes names)

theorem mixBytes_ne {b c : UInt8} (h : b ≠ c) (seed : UInt64) (front back : List UInt8) :
    mixBytes seed (front ++ b :: back) ≠ mixBytes seed (front ++ c :: back) := by
  intro heq
  rw [mixBytes_append, mixBytes_append] at heq
  have hseed : mixByte (mixBytes seed front) b.toUInt64 = mixByte (mixBytes seed front) c.toUInt64 :=
    (bijective_mixBytes back).1 heq
  exact h (UInt8.toUInt64_inj.1 (add_left_cancel hseed))

theorem stableSeed_append (seed : UInt64) (names more : List String) :
    stableSeed seed (names ++ more) = stableSeed (stableSeed seed names) more :=
  List.foldl_append

end Mixing

section Places

/-- Lists of one length that differ in one place only have what is before and behind it in common. -/
theorem exists_eq_append_cons_of_getElem?_ne {α : Type} {l m : List α} {i : Nat}
    (hlength : l.length = m.length) (hne : l[i]? ≠ m[i]?) (heq : ∀ j, j ≠ i → l[j]? = m[j]?) :
    ∃ a b front back, l[i]? = some a ∧ m[i]? = some b ∧
      l = front ++ a :: back ∧ m = front ++ b :: back := by
  have hl : i < l.length := by
    by_contra hi
    rw [List.getElem?_eq_none (Nat.le_of_not_lt hi),
      List.getElem?_eq_none (hlength ▸ Nat.le_of_not_lt hi)] at hne
    exact hne rfl
  have hm : i < m.length := hlength ▸ hl
  have hset : l.set i m[i] = m := by
    refine List.ext_getElem? fun j => ?_
    by_cases hj : j = i
    · subst hj
      rw [List.getElem?_set_self hl, List.getElem?_eq_getElem hm]
    · rw [List.getElem?_set_ne (Ne.symm hj), heq j hj]
  refine ⟨l[i], m[i], l.take i, l.drop (i + 1), List.getElem?_eq_getElem hl,
    List.getElem?_eq_getElem hm, ?_, ?_⟩
  · rw [List.getElem_cons_drop, List.take_append_drop]
  · rw [List.set_eq_take_append_cons_drop, if_pos hl] at hset
    exact hset.symm

/-- The byte in a place, which says the name and the byte of it. -/
def byteAt (names : List String) (place : Nat × Nat) : Option UInt8 :=
  names[place.1]?.bind fun name => name.toUTF8.data.toList[place.2]?

theorem byteAt_of_getElem? {names : List String} {name : String} {i : Nat}
    (h : names[i]? = some name) (j : Nat) :
    byteAt names (i, j) = name.toUTF8.data.toList[j]? := by
  rw [byteAt, h, Option.bind_some]

/-- Names of the same sizes, with the same bytes in all places but one. -/
structure DifferAt (names others : List String) (place : Nat × Nat) : Prop where
  sizes_eq : names.map String.utf8ByteSize = others.map String.utf8ByteSize
  byteAt_ne : byteAt names place ≠ byteAt others place
  byteAt_eq : ∀ other, other ≠ place → byteAt names other = byteAt others other

theorem eq_of_toUTF8_eq {name other : String}
    (h : name.toUTF8.data.toList = other.toUTF8.data.toList) : name = other :=
  String.toByteArray_inj.1 (ByteArray.ext (Array.toList_inj.1 h))

namespace DifferAt

variable {names others : List String} {place : Nat × Nat}

theorem length_eq (h : DifferAt names others place) : names.length = others.length := by
  have hlength := congrArg List.length h.sizes_eq
  rwa [List.length_map, List.length_map] at hlength

theorem getElem?_eq (h : DifferAt names others place) {i : Nat} (hi : i ≠ place.1) :
    names[i]? = others[i]? := by
  by_cases hlt : i < names.length
  · have hname := List.getElem?_eq_getElem hlt
    have hother := List.getElem?_eq_getElem (h.length_eq ▸ hlt)
    rw [hname, hother]
    refine congrArg some (eq_of_toUTF8_eq (List.ext_getElem? fun j => ?_))
    rw [← byteAt_of_getElem? hname, ← byteAt_of_getElem? hother]
    exact h.byteAt_eq (i, j) fun heq => hi (congrArg Prod.fst heq)
  · rw [List.getElem?_eq_none (Nat.le_of_not_lt hlt),
      List.getElem?_eq_none (h.length_eq ▸ Nat.le_of_not_lt hlt)]

/-- One name of each list is not the same, and these two differ in one byte. -/
theorem exists_names_eq (h : DifferAt names others place) :
    ∃ before behind name other, names = before ++ name :: behind ∧ others = before ++ other :: behind ∧
      ∃ front back b c, b ≠ c ∧ name.toUTF8.data.toList = front ++ b :: back ∧
        other.toUTF8.data.toList = front ++ c :: back := by
  have hne : names[place.1]? ≠ others[place.1]? := by
    intro heq
    exact h.byteAt_ne (congrArg (Option.bind · _) heq)
  obtain ⟨name, other, before, behind, hname, hother, hnames, hothers⟩ :=
    exists_eq_append_cons_of_getElem?_ne h.length_eq hne fun _ => h.getElem?_eq
  have hsize : name.toUTF8.data.toList.length = other.toUTF8.data.toList.length := by
    have hsizes := congrArg (·[place.1]?) h.sizes_eq
    rw [List.getElem?_map, List.getElem?_map, hname, hother] at hsizes
    exact Option.some.inj hsizes
  have hdiffer : name.toUTF8.data.toList[place.2]? ≠ other.toUTF8.data.toList[place.2]? := by
    rw [← byteAt_of_getElem? hname, ← byteAt_of_getElem? hother]
    exact h.byteAt_ne
  obtain ⟨b, c, front, back, hb, hc, hfront, hback⟩ :=
    exists_eq_append_cons_of_getElem?_ne hsize hdiffer fun j hj => by
      rw [← byteAt_of_getElem? hname, ← byteAt_of_getElem? hother]
      exact h.byteAt_eq _ fun heq => hj (congrArg Prod.snd heq)
  refine ⟨before, behind, name, other, hnames, hothers, front, back, b, c, ?_, hfront, hback⟩
  rintro rfl
  exact hdiffer (hb.trans hc.symm)

theorem stableSeed_ne (h : DifferAt names others place) (seed : UInt64) :
    stableSeed seed names ≠ stableSeed seed others := by
  obtain ⟨before, behind, name, other, rfl, rfl, front, back, b, c, hne, hname, hother⟩ :=
    h.exists_names_eq
  intro heq
  rw [stableSeed_append, stableSeed_append, stableSeed_cons, stableSeed_cons] at heq
  have hmix := (bijective_stableSeed behind).1 heq
  rw [mixName_eq_mixBytes, mixName_eq_mixBytes, hname, hother, List.append_assoc,
    List.append_assoc, List.cons_append, List.cons_append] at hmix
  exact mixBytes_ne hne _ front (back ++ [0xff]) hmix

end DifferAt

end Places

/-- A seed keeps all of the base seed and every byte of the names. Whatever the names, each seed comes
from one base seed, and whatever the base seed, names of the same sizes that differ in a single byte
lead to different seeds. -/
theorem stableSeed_keeps :
    (∀ names : List String, Function.Bijective fun seed => stableSeed seed names) ∧
      ∀ (seed : UInt64) (names others : List String) (place : Nat × Nat),
        DifferAt names others place → stableSeed seed names ≠ stableSeed seed others := by
  constructor
  · intro names
    exact bijective_stableSeed names
  · intro seed names others place h
    exact h.stableSeed_ne seed

/-- With 26 bytes behind it, the first letter counts by a power of 37 that is far beyond 2⁶⁴. -/
theorem stableSeed_keeps_first_letter :
    DifferAt ["Squad of the line", "Boyz", "Gun"] ["squad of the line", "Boyz", "Gun"] (0, 0) ∧
      ∀ seed, stableSeed seed ["Squad of the line", "Boyz", "Gun"] ≠
        stableSeed seed ["squad of the line", "Boyz", "Gun"] := by
  have hdiffer : DifferAt ["Squad of the line", "Boyz", "Gun"] ["squad of the line", "Boyz", "Gun"]
      (0, 0) := by
    refine ⟨by decide, by decide, ?_⟩
    rintro ⟨_ | i, _ | j⟩ hne
    · exact absurd rfl hne
    · rfl
    · rfl
    · rfl
  exact ⟨hdiffer, fun seed => stableSeed_keeps.2 seed _ _ (0, 0) hdiffer⟩

end Salvo
