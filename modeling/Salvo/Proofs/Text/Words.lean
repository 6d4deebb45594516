import Mathlib.Data.List.TakeWhile
import Salvo.Proofs.Text.Number

/-!
# Words and blanks

A text is empty, or a blank stands in front of a text, or a word in front of a text that is empty or begins
with a blank (`induction_on_words`). The words of a text are found along these three cases, and so is what
a change of all its characters does to its words.
-/

namespace Salvo.Text

/-- What is checked of each character of a text. Characters are a finite type, so deciding the statement
itself would go over all of them. -/
theorem forall_mem_of_all {P : Char → Prop} [DecidablePred P] {cs : List Char}
    (h : cs.all (fun c => decide (P c)) = true) : ∀ c ∈ cs, P c :=
  fun c hc => of_decide_eq_true (List.all_eq_true.1 h c hc)

structure IsWord (w : List Char) : Prop where
  ne_nil : w ≠ []
  isBlank : ∀ c ∈ w, isBlank c = false

theorem IsWord.map {f : Char → Char} (hf : ∀ c, Text.isBlank (f c) = Text.isBlank c) {w : List Char}
    (hw : IsWord w) : IsWord (w.map f) := by
  refine ⟨mt List.map_eq_nil_iff.1 hw.ne_nil, fun c hc => ?_⟩
  obtain ⟨d, hd, rfl⟩ := List.mem_map.1 hc
  rw [hf, hw.isBlank d hd]

def StartsBlank (cs : List Char) : Prop := ∀ c ∈ cs.head?, isBlank c = true

theorem startsBlank_nil : StartsBlank [] := nofun

theorem startsBlank_cons {b : Char} (hb : isBlank b = true) (cs : List Char) : StartsBlank (b :: cs) := by
  rintro c ⟨⟩
  exact hb

@[elab_as_elim]
theorem induction_on_words {P : List Char → Prop} (nil : P [])
    (blank : ∀ b cs, isBlank b = true → P cs → P (b :: cs))
    (word : ∀ w cs, IsWord w → StartsBlank cs → P cs → P (w ++ cs)) (cs : List Char) : P cs := by
  match cs with
  | [] => exact nil
  | c :: cs =>
      cases hc : isBlank c with
      | true => exact blank c cs hc (induction_on_words nil blank word cs)
      | false =>
          have hword : IsWord (c :: cs.takeWhile fun d => !isBlank d) := by
            refine ⟨List.cons_ne_nil _ _, List.forall_mem_cons.2 ⟨hc, fun d hd => ?_⟩⟩
            simpa using List.mem_takeWhile_imp hd
          have hstarts : StartsBlank (cs.dropWhile fun d => !isBlank d) := by
            intro d hd
            have hhead := List.head?_dropWhile_not (fun d => !isBlank d) cs
            rw [hd] at hhead
            simpa using hhead
          have hrest := induction_on_words nil blank word (cs.dropWhile fun d => !isBlank d)
          have happend := word _ _ hword hstarts hrest
          rwa [List.cons_append, List.takeWhile_append_dropWhile] at happend
termination_by cs.length
decreasing_by
  · exact Nat.lt_succ_of_le (List.length_dropWhile_le ..)
  · exact Nat.lt_succ_self _

section Words

variable {b : Char} {w : List Char}

theorem words_cons_blank (hb : isBlank b = true) (cs : List Char) : words (b :: cs) = words cs := by
  rw [words, List.splitOnP_cons_eq_if_modifyHead, if_pos hb]
  rfl

theorem words_append (hw : IsWord w) {cs : List Char} (hcs : StartsBlank cs) :
    words (w ++ cs) = w :: words cs := by
  have hkeep (vs : List (List Char)) :
      (w :: vs).filter (fun v => !v.isEmpty) = w :: vs.filter fun v => !v.isEmpty := by
    simp [hw.ne_nil]
  cases cs with
  | nil =>
      rw [List.append_nil, words, List.splitOnP_eq_singleton hw.isBlank, hkeep]
      rfl
  | cons b cs =>
      have hb : isBlank b = true := hcs b rfl
      rw [words_cons_blank hb, words, List.splitOnP_append_cons_of_forall_mem hw.isBlank b hb, hkeep]
      rfl

theorem words_append_cons (hb : isBlank b = true) (cs ds : List Char) :
    words (cs ++ b :: ds) = words cs ++ words ds := by
  rw [words, List.splitOnP_append_cons cs ds hb, List.filter_append]
  rfl

theorem words_of_isWord (hw : IsWord w) : words w = [w] := by
  have hwords := words_append hw startsBlank_nil
  rwa [List.append_nil] at hwords

theorem isWord_of_mem_words {cs : List Char} (h : w ∈ words cs) : IsWord w := by
  induction cs using induction_on_words with
  | nil => cases h
  | blank b cs hb ih =>
      rw [words_cons_blank hb] at h
      exact ih h
  | word v cs hv hcs ih =>
      rw [words_append hv hcs] at h
      rcases List.mem_cons.1 h with rfl | h
      · exact hv
      · exact ih h

theorem flatten_words (cs : List Char) : (words cs).flatten = withoutBlanks cs := by
  induction cs using induction_on_words with
  | nil => rfl
  | blank b cs hb ih =>
      rw [words_cons_blank hb, ih, withoutBlanks, withoutBlanks, List.filter_cons_of_neg (by simp [hb])]
  | word v cs hv hcs ih =>
      rw [words_append hv hcs, List.flatten_cons, ih, withoutBlanks_append,
        withoutBlanks_of_forall hv.isBlank]

theorem mem_of_mem_words {c : Char} {cs : List Char} (hw : w ∈ words cs) (hc : c ∈ w) : c ∈ cs := by
  have hmem : c ∈ (words cs).flatten := List.mem_flatten.2 ⟨w, hw, hc⟩
  rw [flatten_words] at hmem
  exact (List.mem_filter.1 hmem).1

/-- A change of characters that keeps blanks and makes no new ones changes each word on its own. -/
theorem words_map {f : Char → Char} (hf : ∀ c, isBlank (f c) = isBlank c) (cs : List Char) :
    words (cs.map f) = (words cs).map (List.map f) := by
  induction cs using induction_on_words with
  | nil => rfl
  | blank b cs hb ih =>
      rw [List.map_cons, words_cons_blank (hf b ▸ hb), words_cons_blank hb, ih]
  | word v cs hv hcs ih =>
      have hstarts : StartsBlank (cs.map f) := by
        intro c hc
        rw [List.head?_map] at hc
        obtain ⟨d, hd, rfl⟩ := Option.map_eq_some_iff.1 hc
        rw [hf, hcs d hd]
      rw [List.map_append, words_append (hv.map hf) hstarts, words_append hv hcs, ih, List.map_cons]

end Words

section Joined

variable {ws vs : List (List Char)}

theorem intercalate_append (hws : ws ≠ []) (hvs : vs ≠ []) :
    [' '].intercalate (ws ++ vs) = [' '].intercalate ws ++ ' ' :: [' '].intercalate vs := by
  induction ws with
  | nil => exact absurd rfl hws
  | cons w ws ih =>
      cases ws with
      | nil =>
          rw [List.singleton_append, List.intercalate_cons_of_ne_nil hvs, List.intercalate_singleton]
          simp
      | cons w' ws =>
          rw [List.cons_append, List.intercalate_cons_of_ne_nil (by simp),
            ih (List.cons_ne_nil _ _), List.intercalate_cons_of_ne_nil (List.cons_ne_nil _ _)]
          simp

theorem withoutBlanks_intercalate (h : ∀ w ∈ ws, IsWord w) :
    withoutBlanks ([' '].intercalate ws) = ws.flatten := by
  induction ws with
  | nil => rfl
  | cons w ws ih =>
      have hw := withoutBlanks_of_forall (h w List.mem_cons_self).isBlank
      cases ws with
      | nil => simpa using hw
      | cons w' ws =>
          have hspace : withoutBlanks [' '] = [] := rfl
          rw [List.intercalate_cons_of_ne_nil (List.cons_ne_nil _ _), withoutBlanks_append,
            withoutBlanks_append, hw, hspace, ih fun v hv => h v (List.mem_cons_of_mem _ hv),
            List.append_nil]
          rfl

theorem words_intercalate (h : ∀ w ∈ ws, IsWord w) : words ([' '].intercalate ws) = ws := by
  induction ws with
  | nil => rfl
  | cons w ws ih =>
      obtain ⟨hw, hws⟩ := List.forall_mem_cons.1 h
      cases ws with
      | nil => rw [List.intercalate_singleton, words_of_isWord hw]
      | cons w' ws =>
          rw [List.intercalate_cons_of_ne_nil (List.cons_ne_nil _ _), List.append_assoc,
            List.singleton_append, words_append hw (startsBlank_cons isBlank_space _),
            words_cons_blank isBlank_space, ih hws]

end Joined

section Trimmed

theorem withoutBlanks_trimStart (cs : List Char) : withoutBlanks (trimStart cs) = withoutBlanks cs := by
  induction cs with
  | nil => rfl
  | cons c cs ih =>
      cases hc : isBlank c with
      | true =>
          rw [trimStart, List.dropWhile_cons_of_pos hc, ← trimStart, ih, withoutBlanks, withoutBlanks,
            List.filter_cons_of_neg (by simp [hc])]
      | false => rw [trimStart, List.dropWhile_cons_of_neg (by simp [hc])]

theorem withoutBlanks_reverse (cs : List Char) : withoutBlanks cs.reverse = (withoutBlanks cs).reverse :=
  List.filter_reverse

theorem withoutBlanks_trim (cs : List Char) : withoutBlanks (trim cs) = withoutBlanks cs := by
  rw [trim, trimEnd, withoutBlanks_reverse, ← trimStart, withoutBlanks_trimStart, withoutBlanks_reverse,
    List.reverse_reverse, withoutBlanks_trimStart]

theorem getLast?_trim (cs : List Char) : (trim cs).getLast? = (withoutBlanks cs).getLast? := by
  have hhead (ds : List Char) : (ds.dropWhile isBlank).head? = (withoutBlanks ds).head? := by
    rw [withoutBlanks, List.head?_filter, List.find?_eq_head?_dropWhile_not]
    simp only [Bool.not_not]
  rw [trim, trimEnd, List.getLast?_reverse, hhead, withoutBlanks_reverse, List.head?_reverse,
    withoutBlanks_trimStart]

end Trimmed

end Salvo.Text
