import BlockAudit.CommandLine.Run
import BlockAudit.Proofs.Sorting
import Mathlib.Data.Prod.Lex
import Mathlib.Data.String.Basic

namespace BlockAudit

theorem Text.compare_eq_lt_iff {s t : List Char} : compare s t = .lt ↔ s < t := by
  rw [List.compare_eq_compareLex]
  induction s generalizing t with
  | nil => cases t <;> simp [List.compareLex_nil_nil, List.compareLex_nil_cons]
  | cons c s ih =>
    cases t with
    | nil => simp [List.compareLex_cons_nil]
    | cons d t =>
      rw [List.compareLex_cons_cons, Ordering.then_eq_lt, ih, List.cons_lt_cons_iff,
        compare_lt_iff_lt, Std.LawfulEqOrd.compare_eq_iff_eq]

/-- The rank counts from the lowest severity, the place from the gravest. -/
theorem Severity.compare_rank (s t : Severity) :
    compare t.rank s.rank = compare (descending.idxOf s) (descending.idxOf t) := by
  cases s <;> cases t <;> rfl

namespace Finding

/-- Findings come in the order of their severities, from the gravest to the lowest, then of their codes
and then of their resources. -/
def place (f : Finding) : Nat ×ₗ String ×ₗ String :=
  toLex (Severity.descending.idxOf f.severity, toLex (f.code, f.resource))

theorem ordersBy_place : OrdersBy precedes place := by
  intro f g
  have hprecedes : precedes f g = (((compare (Severity.descending.idxOf f.severity)
      (Severity.descending.idxOf g.severity)).then ((compare f.code.toList g.code.toList).then
        (compare f.resource.toList g.resource.toList))) == .lt) := by
    rw [precedes, Severity.compare_rank]
    cases compare (Severity.descending.idxOf f.severity) (Severity.descending.idxOf g.severity) <;>
      cases compare f.code.toList g.code.toList <;> rfl
  rw [hprecedes, beq_iff_eq, Ordering.then_eq_lt, Ordering.then_eq_lt, compare_lt_iff_lt,
    Text.compare_eq_lt_iff, Text.compare_eq_lt_iff]
  simp only [Std.LawfulEqOrd.compare_eq_iff_eq, String.toList_inj, ← String.lt_iff_toList_lt, place,
    Prod.Lex.toLex_lt_toLex]

def Tied (s : Severity) (code resource : String) (f : Finding) : Prop :=
  f.severity = s ∧ f.code = code ∧ f.resource = resource

instance (s : Severity) (code resource : String) : DecidablePred (Tied s code resource) :=
  fun _ => inferInstanceAs (Decidable (_ ∧ _ ∧ _))

theorem place_eq_iff {f : Finding} {s : Severity} {code resource : String} :
    f.place = toLex (Severity.descending.idxOf s, toLex (code, resource)) ↔
      f.Tied s code resource := by
  have hseverity : Severity.descending.idxOf f.severity = Severity.descending.idxOf s ↔
      f.severity = s := by
    cases f.severity <;> cases s <;> decide
  simp only [place, Tied, toLex_inj, Prod.mk.injEq, hseverity]

end Finding

namespace ScanResult

def ranking (r : ScanResult) : List Finding := sorted Finding.precedes r.findings

theorem topFindings_eq (r : ScanResult) (n : Nat) : r.topFindings n = r.ranking.take n := rfl

theorem ranking_perm (r : ScanResult) : r.ranking.Perm r.findings := sorted_perm _

theorem pairwise_ranking (r : ScanResult) : r.ranking.Pairwise fun f g => f.place ≤ g.place :=
  Finding.ordersBy_place.pairwise_sorted _

theorem filter_ranking (r : ScanResult) (s : Severity) (code resource : String) :
    r.ranking.filter (Finding.Tied s code resource) =
      r.findings.filter (Finding.Tied s code resource) := by
  simp only [← Finding.place_eq_iff]
  exact Finding.ordersBy_place.filter_sorted _ _

/-- The findings that are shown are the first ones of one ranking of all, whatever their number. What is
printed after them still lists the findings as they were added. -/
theorem topFindings_ranking (r : ScanResult) (n : Nat) :
    (r.topFindings n).length = min n r.findings.length ∧
    (∀ m : Nat, n ≤ m → r.topFindings n <+: r.topFindings m) ∧
    (r.findings.length ≤ n →
      (r.topFindings n).Perm r.findings ∧
      (r.topFindings n).Pairwise (fun f g => f.place ≤ g.place) ∧
      ∀ s code resource, (r.topFindings n).filter (Finding.Tied s code resource) =
        r.findings.filter (Finding.Tied s code resource)) ∧
    (∃ omitted, (r.topFindings n ++ omitted).Perm r.findings ∧
      ∀ f ∈ r.topFindings n, ∀ g ∈ omitted, f.place ≤ g.place) ∧
    ∀ t, ∃ es, r.toValue = .map es ∧
      Value.lookup? "findings" es = some (.list (r.findings.map Finding.toValue)) ∧
      (CommandLine.report t r none).start =
        (.ok t, [], [r.table CommandLine.topCount, "\nJSON Report", Json.write (.map es)]) := by
  have hlength : r.ranking.length = r.findings.length := r.ranking_perm.length_eq
  simp only [topFindings_eq]
  refine ⟨?_, fun m hm => List.take_prefix_take_left hm, fun hn => ?_, ?_, fun t => ?_⟩
  · rw [List.length_take, hlength]
  · rw [List.take_of_length_le (hlength.trans_le hn)]
    exact ⟨r.ranking_perm, r.pairwise_ranking, r.filter_ranking⟩
  · have hsplit : r.ranking.take n ++ r.ranking.drop n = r.ranking := List.take_append_drop n _
    have hpairwise := r.pairwise_ranking
    rw [← hsplit, List.pairwise_append] at hpairwise
    refine ⟨r.ranking.drop n, ?_, hpairwise.2.2⟩
    rw [hsplit]
    exact r.ranking_perm
  · exact ⟨_, rfl, by simp [Value.lookup?], rfl⟩

end ScanResult

end BlockAudit
