import Mathlib.Data.Prod.Lex
import Mathlib.Data.String.Basic
import Salvo.CommandLine.Run
import Salvo.Proofs.Report.Rows
import Salvo.Proofs.Sorting

/-!
# The ranking of a report

Rows are ranked by their kill chances, their mean damages, and their names. The comparison does not look
at defenders; that rows alike in all the rest are in the order of defenders comes from the order of the
rows, which the sort keeps. So `RanksBefore` puts any two rows in order, and the ranking is the only list
of the rows that it leaves sorted (`ranked_unique`).
-/

namespace Salvo

section Doubles

def signBit (x : Float) : Bool := decide (2 ^ 63 ≤ x.toBits.toNat)

def magnitude (x : Float) : Nat := x.toBits.toNat % 2 ^ 63

/-- The total order of doubles. What has a sign comes before what has none, and without a sign the
smaller magnitude comes first, with a sign the greater one. -/
def TotallyBefore (x y : Float) : Prop :=
  signBit x = true ∧ signBit y = false ∨
    signBit x = false ∧ signBit y = false ∧ magnitude x < magnitude y ∨
    signBit x = true ∧ signBit y = true ∧ magnitude y < magnitude x

theorem floatKey_lt_iff {x y : Float} : floatKey x < floatKey y ↔ TotallyBefore x y := by
  have hx := x.toBits.toNat_lt
  have hy := y.toBits.toNat_lt
  simp only [TotallyBefore, signBit, magnitude, decide_eq_true_iff, decide_eq_false_iff_not, floatKey]
  split <;> split <;> omega

theorem floatKey_eq_iff {x y : Float} : floatKey x = floatKey y ↔ x.toBits = y.toBits := by
  have hx := x.toBits.toNat_lt
  have hy := y.toBits.toNat_lt
  rw [← UInt64.toNat_inj]
  simp only [floatKey]
  split <;> split <;> omega

end Doubles

section Order

/-- One row is ranked before another: by kill chance, then by mean damage, the greater ones first, then
by the names of attackers, weapons and defenders. -/
def ReportRow.RanksBefore (row next : ReportRow Float) : Prop :=
  TotallyBefore next.result.stats.killChance row.result.stats.killChance ∨
    row.result.stats.killChance.toBits = next.result.stats.killChance.toBits ∧
    (TotallyBefore next.result.damage row.result.damage ∨
      row.result.damage.toBits = next.result.damage.toBits ∧
      (row.attacker < next.attacker ∨ row.attacker = next.attacker ∧
        (row.weapon < next.weapon ∨ row.weapon = next.weapon ∧ row.defender < next.defender)))

/-- The parts of a key, in the order in which they are compared. -/
def RankKey.place (k : RankKey) : Int ×ₗ Int ×ₗ String ×ₗ String :=
  toLex (k.killChance, toLex (k.damage, toLex (k.attacker, k.weapon)))

theorem RankKey.le_iff {a b : RankKey} : a.le b = true ↔ a.place ≤ b.place := by
  simp only [place, Prod.Lex.toLex_le_toLex]
  rw [le]
  split
  · grind
  · split
    · grind
    · split <;> grind

theorem RankKey.le_of_le_of_le (a b c : RankKey) (hab : a.le b = true) (hbc : b.le c = true) :
    a.le c = true :=
  le_iff.2 ((le_iff.1 hab).trans (le_iff.1 hbc))

theorem RankKey.le_or_le (a b : RankKey) : (a.le b || b.le a) = true := by
  rw [Bool.or_eq_true, le_iff, le_iff]
  exact le_total a.place b.place

variable {row next : ReportRow Float}

/-- The place of a row among all rows: that of its key, and its defender among rows with equal keys. -/
def ReportRow.place (row : ReportRow Float) : (Int ×ₗ Int ×ₗ String ×ₗ String) ×ₗ String :=
  toLex ((RankKey.ofRow row).place, row.defender)

theorem ReportRow.ranksBefore_iff : row.RanksBefore next ↔ row.place < next.place := by
  simp only [RanksBefore, ← floatKey_lt_iff, ← floatKey_eq_iff, place, RankKey.place, RankKey.ofRow,
    Prod.Lex.toLex_lt_toLex, toLex_inj, Prod.mk.injEq]
  grind

theorem ReportRow.RanksBefore.asymm (h : row.RanksBefore next) : ¬ next.RanksBefore row := by
  rw [ranksBefore_iff] at h ⊢
  exact h.asymm

/-- Rows with different names are ranked one before the other. -/
theorem ReportRow.ranksBefore_or_ranksBefore (h : row.names ≠ next.names) :
    row.RanksBefore next ∨ next.RanksBefore row := by
  rw [ranksBefore_iff, ranksBefore_iff]
  refine lt_or_gt_of_ne fun heq => h ?_
  simp only [place, RankKey.place, RankKey.ofRow, toLex_inj, Prod.mk.injEq] at heq
  obtain ⟨⟨-, -, hattacker, hweapon⟩, hdefender⟩ := heq
  rw [names, names, hattacker, hdefender, hweapon]

/-- Among rows with equal keys, the order of names is that of defenders. -/
theorem ReportRow.ranksBefore_of_le (h : (RankKey.ofRow row).le (RankKey.ofRow next) = true)
    (hties : (RankKey.ofRow next).le (RankKey.ofRow row) = true → row.names.Before next.names) :
    row.RanksBefore next := by
  rw [ranksBefore_iff, place, place, Prod.Lex.toLex_lt_toLex]
  rcases (RankKey.le_iff.1 h).lt_or_eq with hlt | heq
  · exact .inl hlt
  · refine .inr ⟨heq, ?_⟩
    have hbefore := hties (RankKey.le_iff.2 heq.ge)
    simp only [RankKey.place, RankKey.ofRow, toLex_inj, Prod.mk.injEq] at heq
    obtain ⟨-, -, hattacker, hweapon⟩ := heq
    simpa [ResultNames.Before, names, hattacker, hweapon, String.lt_irrefl] using hbefore

end Order

namespace Report

variable {r : Report Float} {l l' : List (ReportRow Float)}

/-- A list of the rows of a report, best first. -/
structure Ranking (r : Report Float) (l : List (ReportRow Float)) : Prop where
  perm : l.Perm r.rows
  ordered : l.Pairwise ReportRow.RanksBefore

theorem ranking_ranked (r : Report Float) : r.Ranking r.ranked where
  perm := List.mergeSort_perm _ _
  ordered := by
    have hsorted : r.ranked.Pairwise fun row next =>
        (RankKey.ofRow row).le (RankKey.ofRow next) = true ∧
          ((RankKey.ofRow next).le (RankKey.ofRow row) = true → row.names.Before next.names) :=
      pairwise_mergeSort_of_pairwise
        (fun a b c => RankKey.le_of_le_of_le (.ofRow a) (.ofRow b) (.ofRow c))
        (fun a b => RankKey.le_or_le (.ofRow a) (.ofRow b)) r.pairwise_rows
    exact hsorted.imp fun h => ReportRow.ranksBefore_of_le h.1 h.2

theorem Ranking.eq (h : r.Ranking l) (h' : r.Ranking l') : l = l' := by
  refine (h.perm.trans h'.perm.symm).eq_of_pairwise (fun row next _ _ hbefore hafter => ?_) h.ordered
    h'.ordered
  exact absurd hafter hbefore.asymm

/-- The ranking is the one list of the rows that is in order. The rows of a report are in the order of
their names, one for each result in it. The ranking has the same rows, by kill chance, by mean damage
and by names. Any two rows are in this order one way, and no other list of them is. So neither the rows
nor the ranking nor the line about the best weapon show in which order results were added, only which
were the last ones. -/
theorem ranked_unique (r : Report Float) :
    (r.rows.Pairwise fun row next => row.names.Before next.names) ∧
      (∀ row, row ∈ r.rows ↔ r.result? row.names = some row.result ∧
        r.killsOf row.attacker row.defender = row.kills) ∧
      (∀ row ∈ r.rows, ∀ next ∈ r.rows, row ≠ next →
        (row.RanksBefore next ↔ ¬ next.RanksBefore row)) ∧
      r.Ranking r.ranked ∧ (∀ l, r.Ranking l → l = r.ranked) ∧
      ∀ results others, (∀ names, lastResult names results = lastResult names others) →
        (r.insertAll results).rows = (r.insertAll others).rows ∧
          (r.insertAll results).ranked = (r.insertAll others).ranked ∧
          CommandLine.bestLine (r.insertAll results) = CommandLine.bestLine (r.insertAll others) := by
  refine ⟨r.pairwise_rows, fun _ => mem_rows_iff_result?, fun row hrow next hnext hne => ?_,
    r.ranking_ranked, fun l h => h.eq r.ranking_ranked, fun results others h => ?_⟩
  · refine ⟨ReportRow.RanksBefore.asymm, fun hnot => ?_⟩
    have hnames : row.names ≠ next.names :=
      fun heq => hne (List.inj_on_of_nodup_map r.nodup_map_names_rows hrow hnext heq)
    exact (ReportRow.ranksBefore_or_ranksBefore hnames).resolve_right hnot
  · have hrows := r.rows_insertAll_congr h
    have hranked : (r.insertAll results).ranked = (r.insertAll others).ranked := by
      rw [ranked, ranked, hrows]
    refine ⟨hrows, hranked, ?_⟩
    rw [CommandLine.bestLine, CommandLine.bestLine, hranked]

/-- Two squads with equal results are ranked by name, whichever of them comes last and whatever was
reported about it before. -/
theorem ranked_unique_squads :
    (empty.insertAll
        [(⟨"Red", "Boyz", "gun"⟩, .zero), (⟨"Blue", "Boyz", "gun"⟩, .zero)]).ranked =
      [⟨"Blue", "Boyz", "gun", .zero, 0⟩, ⟨"Red", "Boyz", "gun", .zero, 0⟩] ∧
    (empty.insertAll
        [(⟨"Blue", "Boyz", "gun"⟩, .zero), (⟨"Red", "Boyz", "gun"⟩, ⟨1, 1, 1, 1, .zero⟩),
          (⟨"Red", "Boyz", "gun"⟩, .zero)]).ranked =
      (empty.insertAll
        [(⟨"Red", "Boyz", "gun"⟩, .zero), (⟨"Blue", "Boyz", "gun"⟩, .zero)]).ranked := by
  obtain ⟨-, -, -, -, hunique, -⟩ := ranked_unique
    (empty.insertAll [(⟨"Red", "Boyz", "gun"⟩, .zero), (⟨"Blue", "Boyz", "gun"⟩, .zero)])
  obtain ⟨-, -, -, -, -, hinserted⟩ := ranked_unique empty
  refine ⟨(hunique _ ⟨.of_eq rfl, ?_⟩).symm, (hinserted _ _ fun names => ?_).2.1⟩
  · refine List.pairwise_pair.2 ?_
    exact .inr ⟨rfl, .inr ⟨rfl, .inl (by decide)⟩⟩
  · by_cases hred : names = ⟨"Red", "Boyz", "gun"⟩
    · rw [hred]
      rfl
    · have hred := beq_eq_false_iff_ne.2 hred
      simp [lastResult, List.lookup_cons, hred]

end Report

end Salvo
