import BlockAudit.ScanResult

namespace BlockAudit

namespace Summary

theorem count_increment (s : Summary) (severity other : Severity) :
    (s.increment severity).count other = s.count other + if severity = other then 1 else 0 := by
  cases severity <;> cases other <;> rfl

theorem total_increment (s : Summary) (severity : Severity) :
    (s.increment severity).total = s.total + 1 := by
  cases severity <;> simp only [increment, total] <;> omega

theorem eq_of_count {s t : Summary} (h : ∀ severity, s.count severity = t.count severity) :
    s = t := by
  have hcritical : s.critical = t.critical := h .critical
  have hhigh : s.high = t.high := h .high
  have hmedium : s.medium = t.medium := h .medium
  have hlow : s.low = t.low := h .low
  cases s
  cases t
  simp_all only

end Summary

namespace ScanResult

structure Tallied (r : ScanResult) : Prop where
  count : ∀ severity, r.summary.count severity = r.findings.countP fun f => f.severity = severity
  total : r.summary.total = r.findings.length

variable {r : ScanResult}

theorem tallied_empty : empty.Tallied where
  count severity := by cases severity <;> rfl
  total := rfl

theorem Tallied.add (h : r.Tallied) (f : Finding) : (r.add f).Tallied where
  count severity := by
    simp only [ScanResult.add, Summary.count_increment, List.countP_append, List.countP_singleton,
      h.count, decide_eq_true_eq]
  total := by
    simp only [ScanResult.add, Summary.total_increment, List.length_append, List.length_singleton,
      h.total]

theorem findings_addAll (r : ScanResult) (fs : List Finding) :
    (r.addAll fs).findings = r.findings ++ fs := by
  induction fs generalizing r with
  | nil => exact (List.append_nil r.findings).symm
  | cons f fs ih =>
    have hrest : ((r.add f).addAll fs).findings = r.findings ++ [f] ++ fs := ih (r.add f)
    rwa [List.append_assoc, List.singleton_append] at hrest

theorem addAll_append (r : ScanResult) (fs gs : List Finding) :
    r.addAll (fs ++ gs) = (r.addAll fs).addAll gs := List.foldl_append

theorem Tallied.addAll (h : r.Tallied) (fs : List Finding) : (r.addAll fs).Tallied := by
  induction fs generalizing r with
  | nil => exact h
  | cons f fs ih => exact ih (h.add f)

theorem Tallied.summary_eq_of_perm {r r' : ScanResult} (h : r.Tallied) (h' : r'.Tallied)
    (hperm : r.findings.Perm r'.findings) : r.summary = r'.summary := by
  apply Summary.eq_of_count
  intro severity
  rw [h.count, h'.count, hperm.countP_eq]

theorem Tallied.count_pos_iff (h : r.Tallied) (severity : Severity) :
    0 < r.summary.count severity ↔ ∃ f ∈ r.findings, f.severity = severity := by
  rw [h.count, List.countP_pos_iff]
  simp only [decide_eq_true_eq]

theorem Tallied.exitCode_eq (h : r.Tallied) : r.exitCode =
    if ∃ f ∈ r.findings, f.severity = .high ∨ f.severity = .critical then 2
    else if ∃ f ∈ r.findings, f.severity = .medium then 1
    else 0 := by
  have hgrave : (0 < r.summary.critical ∨ 0 < r.summary.high) ↔
      ∃ f ∈ r.findings, f.severity = .high ∨ f.severity = .critical := by
    have hcritical := h.count_pos_iff .critical
    have hhigh := h.count_pos_iff .high
    simp only [Summary.count] at hcritical hhigh
    simp only [hcritical, hhigh, and_or_left, exists_or]
    exact or_comm
  have hmedium : 0 < r.summary.medium ↔ ∃ f ∈ r.findings, f.severity = .medium :=
    h.count_pos_iff .medium
  simp only [exitCode, Bool.or_eq_true, decide_eq_true_eq, hgrave, hmedium]

theorem passed_iff (r : ScanResult) : r.passed = true ↔ r.exitCode = 0 := by
  simp only [passed, exitCode, Bool.and_eq_true, beq_iff_eq, Bool.or_eq_true, decide_eq_true_eq]
  by_cases hgrave : 0 < r.summary.critical ∨ 0 < r.summary.high
  · rw [if_pos hgrave]
    omega
  rw [if_neg hgrave]
  by_cases hmedium : 0 < r.summary.medium
  · rw [if_pos hmedium]
    omega
  · rw [if_neg hmedium]
    omega

/-- The result and its report tell of these findings, in this order. -/
structure TellsOf (r : ScanResult) (fs : List Finding) : Prop where
  findings : r.findings = fs
  count : ∀ severity, r.summary.count severity = fs.countP fun f => f.severity = severity
  total : r.summary.total = fs.length
  report : ∃ es, r.toValue = .map es ∧
    Value.lookup? "findings" es = some (.list (fs.map Finding.toValue))
  exitCode : r.exitCode =
    if ∃ f ∈ fs, f.severity = .high ∨ f.severity = .critical then 2
    else if ∃ f ∈ fs, f.severity = .medium then 1
    else 0
  passed : r.passed = true ↔ r.exitCode = 0

theorem Tallied.tellsOf (h : r.Tallied) : r.TellsOf r.findings where
  findings := rfl
  count := h.count
  total := h.total
  report := ⟨_, rfl, by simp [Value.lookup?]⟩
  exitCode := h.exitCode_eq
  passed := r.passed_iff

end ScanResult
end BlockAudit
