import BlockAudit.Proofs.Scan.Outcome
/-!
A configuration filters and relabels what a scan without one finds. Main statement:
`findingsBy_eq_relabelled`.
-/

namespace BlockAudit.Scan

variable (config : ScanConfig) (modules : List Module)

def relabelled (f : Finding) : Finding :=
  { f with severity := (config.severityOverrides.lookup f.code).getD f.severity }

theorem pairs_filter (keep : Check → Bool) (cs : List Check) :
    pairs modules (cs.filter keep) = (pairs modules cs).filter fun p => keep p.1 := by
  induction cs with
  | nil => rfl
  | cons c cs ih =>
    simp only [pairs] at ih
    cases hc : keep c <;> simp [pairs, hc, ih, List.filter_map, Function.comp_def]

theorem chosenPairs_default (cs : List Check) :
    chosenPairs .default modules cs = pairs modules cs := by
  simp [chosenPairs, ScanConfig.default, ScanConfig.isExcluded]

theorem chosenPairs_eq_filter (cs : List Check) : chosenPairs config modules cs =
    (chosenPairs .default modules cs).filter fun p => !config.isExcluded p.1.code := by
  rw [chosenPairs_default]
  exact pairs_filter modules (fun c => !config.isExcluded c.code) cs

theorem finding?_default (p : Pair) : finding? .default p = some (.of p.1 p.2 p.1.severity) := by
  simp [finding?, ScanConfig.default, ScanConfig.severityFor, Severity.below, Severity.rank]

theorem finding?_eq_relabelled (p : Pair) : finding? config p =
    ((finding? .default p).map (relabelled config)).filter
      fun f => config.minimumSeverity.rank ≤ f.severity.rank := by
  have hseverity : (relabelled config (.of p.1 p.2 p.1.severity)) =
      .of p.1 p.2 (config.severityFor p.1.code p.1.severity) := rfl
  rw [finding?_default, Option.map_some, hseverity]
  rcases Nat.lt_or_ge (config.severityFor p.1.code p.1.severity).rank
    config.minimumSeverity.rank with hlow | hhigh
  · simp [finding?, Severity.below, Finding.of, Option.filter, hlow, Nat.not_le.mpr hlow]
  · simp [finding?, Severity.below, Finding.of, Option.filter, hhigh, Nat.not_lt.mpr hhigh]

theorem found?_eq_relabelled (p : Pair) : found? config modules p =
    ((found? .default modules p).map (relabelled config)).filter
      fun f => config.minimumSeverity.rank ≤ f.severity.rank := by
  unfold found?
  split
  · exact finding?_eq_relabelled config p
  · rfl

theorem code_of_found? {p : Pair} {f : Finding} (h : found? config modules p = some f) :
    f.code = p.1.code := by
  unfold found? at h
  split at h
  · simp only [finding?, Option.ite_none_left_eq_some, Option.some.injEq] at h
    rw [← h.2]
    rfl
  · simp at h

theorem findingsBy_eq_relabelled (s t : Schedule) (registry : Registry) (fs : List Finding)
    (h : (findingsBy s .default registry modules).start.1 = .ok fs) :
    (findingsBy t config registry modules).start.1 =
      .ok (((fs.filter fun f => f.code ∉ config.exclude).map (relabelled config)).filter
        fun f => config.minimumSeverity.rank ≤ f.severity.rank) := by
  obtain ⟨hok, rfl⟩ := (findingsBy_eq_ok_iff .default modules s registry fs).mp h
  refine (findingsBy_eq_ok_iff config modules t registry _).mpr ⟨?_, ?_⟩
  · rw [chosenPairs_eq_filter config]
    exact fun p hp => hok p (List.mem_of_mem_filter hp)
  · rw [chosenPairs_eq_filter config, List.filterMap_filter, List.filter_filterMap, List.map_filterMap,
      List.filter_filterMap]
    apply List.filterMap_congr
    intro p _
    rw [found?_eq_relabelled config]
    cases hf : found? .default modules p with
    | none => simp
    | some f =>
      have hcode := code_of_found? .default modules hf
      by_cases hx : p.1.code ∈ config.exclude <;>
        simp [ScanConfig.isExcluded, Option.filter, hcode, hx]

open Sample in
theorem findingsBy_relabelled_buckets :
    (findingsBy .inTurn .default registry buckets).start.1 =
        .ok [.of privateAccess (bucket "y" "public") .high,
          .of calledModule (bucket "x" "private") .low,
          .of calledModule (bucket "y" "public") .low] ∧
      (findingsBy backward ⟨["A"], [("A", .low), ("B", .critical)], .medium, 4⟩ registry
          buckets).start.1 =
        .ok [.of calledModule (bucket "x" "private") .critical,
          .of calledModule (bucket "y" "public") .critical] :=
  ⟨rfl, findingsBy_eq_relabelled _ buckets .inTurn backward registry _ rfl⟩

end BlockAudit.Scan
