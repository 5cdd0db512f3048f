import BlockAudit.Config.Basic
import BlockAudit.Proofs.Except

namespace BlockAudit.ScanConfig

/-- The values of one command; null stands for one that is not given. -/
structure Overlay where
  exclude : List String
  minimumSeverity : Value
  workers : Value

def overlaid (c : ScanConfig) (o : Overlay) : Except Failure ScanConfig :=
  c.merged o.exclude o.minimumSeverity o.workers

def layered (c : ScanConfig) : List Overlay → ScanConfig
  | [] => c
  | o :: os =>
    match c.overlaid o with
    | .ok c' => c'.layered os
    | .error _ => c.layered os

def accepted (c : ScanConfig) : List Overlay → List Overlay
  | [] => []
  | o :: os =>
    match c.overlaid o with
    | .ok c' => o :: c'.accepted os
    | .error _ => c.accepted os

variable {c c' : ScanConfig} {o : Overlay} {os : List Overlay}

section Reading

variable {α : Type} {read : Value → Except Failure α} {v : Value} {vs : List Value} {old mid new : α}

def Takes (read : Value → Except Failure α) (v : Value) (old new : α) : Prop :=
  if v.isNull then new = old else read v = .ok new

def Latest (read : Value → Except Failure α) (vs : List Value) (old new : α) : Prop :=
  match (vs.filter fun v => !v.isNull).getLast? with
  | some v => read v = .ok new
  | none => new = old

theorem takes_iff : (if v.isNull then pure old else read v) = .ok new ↔ Takes read v old new := by
  unfold Takes
  split
  · exact ⟨fun h => (Except.ok.inj h).symm, fun h => congrArg Except.ok h.symm⟩
  · rfl

theorem Takes.repeated (h : Takes read v old new) : Takes read v new new := by
  unfold Takes at *
  cases hnull : v.isNull with
  | true => rfl
  | false =>
    rw [hnull] at h
    exact h

theorem Takes.latest_cons (h : Takes read v old mid) (hvs : Latest read vs mid new) :
    Latest read (v :: vs) old new := by
  unfold Takes at h
  unfold Latest at *
  split at h
  · next hnull =>
    rw [List.filter_cons_of_neg (by simp [hnull]), ← h]
    exact hvs
  · next hgiven =>
    rw [List.filter_cons_of_pos (by simpa using hgiven), List.getLast?_cons]
    cases hlast : (vs.filter fun v => !v.isNull).getLast? with
    | none =>
      rw [hlast] at hvs
      exact hvs ▸ h
    | some w =>
      rw [hlast] at hvs
      exact hvs

theorem Latest.eq_or_read (h : Latest read vs old new) : new = old ∨ ∃ v, read v = .ok new := by
  unfold Latest at h
  split at h
  · exact Or.inr ⟨_, h⟩
  · exact Or.inl h

end Reading

structure Layers (c : ScanConfig) (o : Overlay) (c' : ScanConfig) : Prop where
  exclude : c'.exclude = c.exclude ++ o.exclude.filter fun code => !c.isExcluded code
  severityOverrides : c'.severityOverrides = c.severityOverrides
  minimumSeverity :
    Takes (readSeverity "minimum_severity") o.minimumSeverity c.minimumSeverity c'.minimumSeverity
  workers : Takes readWorkers o.workers c.workers c'.workers

theorem overlaid_eq (c : ScanConfig) (o : Overlay) : c.overlaid o =
    (if o.minimumSeverity.isNull then pure c.minimumSeverity
      else readSeverity "minimum_severity" o.minimumSeverity) >>= fun severity =>
    (if o.workers.isNull then pure c.workers else readWorkers o.workers) >>= fun count =>
    .ok ⟨c.exclude ++ o.exclude.filter fun code => !c.isExcluded code, c.severityOverrides, severity,
      count⟩ := by
  unfold overlaid merged
  dsimp only
  split <;> split <;> rfl

theorem overlaid_eq_ok_iff : c.overlaid o = .ok c' ↔ c.Layers o c' := by
  rw [overlaid_eq]
  simp only [bind_eq_ok, takes_iff]
  constructor
  · rintro ⟨severity, hseverity, count, hcount, h⟩
    cases h
    exact ⟨rfl, rfl, hseverity, hcount⟩
  · intro h
    refine ⟨_, h.minimumSeverity, _, h.workers, ?_⟩
    rw [← h.exclude, ← h.severityOverrides]

theorem isExcluded_iff {code : String} : c.isExcluded code = true ↔ code ∈ c.exclude :=
  List.contains_iff_mem

theorem Layers.isExcluded_iff (h : c.Layers o c') {code : String} :
    c'.isExcluded code = true ↔ c.isExcluded code = true ∨ code ∈ o.exclude := by
  rw [ScanConfig.isExcluded_iff, h.exclude, List.mem_append, List.mem_filter,
    ← ScanConfig.isExcluded_iff]
  cases c.isExcluded code <;> simp

theorem Layers.repeated (h : c.Layers o c') : c'.Layers o c' where
  exclude := by
    have hnone : (o.exclude.filter fun code => !c'.isExcluded code) = [] := by
      rw [List.filter_eq_nil_iff]
      intro code hcode
      simp [h.isExcluded_iff.mpr (Or.inr hcode)]
    rw [hnone, List.append_nil]
  severityOverrides := rfl
  minimumSeverity := h.minimumSeverity.repeated
  workers := h.workers.repeated

theorem one_le_of_readWorkers {v : Value} {n : Nat} (h : readWorkers v = .ok n) : 1 ≤ n := by
  unfold readWorkers at h
  split at h
  · cases h
  · cases h
  · split at h
    · cases h
    · cases h
      omega

theorem one_le_workers_of_ofEntries {es : List Entry} (h : ofEntries es = .ok c) : 1 ≤ c.workers := by
  have hworkers {g : Nat → ScanConfig} (hg : ∀ n, (g n).workers = n)
      (h : (match Value.lookup? "workers" es with
        | some v => readWorkers v >>= fun n => .ok (g n)
        | none => pure 1 >>= fun n => .ok (g n)) = .ok c) : 1 ≤ c.workers := by
    split at h
    · obtain ⟨n, hn, h⟩ := bind_eq_ok.mp h
      cases h
      rw [hg n]
      exact one_le_of_readWorkers hn
    · cases h
      exact Nat.le_of_eq (hg 1).symm
  unfold ofEntries at h
  obtain ⟨overrides, -, h⟩ := bind_eq_ok.mp h
  obtain ⟨exclude, -, h⟩ := bind_eq_ok.mp h
  obtain ⟨severities, -, h⟩ := bind_eq_ok.mp h
  dsimp only at h
  split at h
  · obtain ⟨severity, -, h⟩ := bind_eq_ok.mp h
    exact hworkers (fun _ => rfl) h
  · exact hworkers (fun _ => rfl) h

def Obtained (c : ScanConfig) : Prop := c = .default ∨ ∃ es, ofEntries es = .ok c

theorem Obtained.one_le_workers (h : c.Obtained) : 1 ≤ c.workers := by
  rcases h with rfl | ⟨es, h⟩
  · exact Nat.le_refl 1
  · exact one_le_workers_of_ofEntries h

structure Accumulates (c : ScanConfig) (accepted : List Overlay) (c' : ScanConfig) : Prop where
  exclude_prefix : c.exclude <+: c'.exclude
  isExcluded_iff : ∀ code, c'.isExcluded code = true ↔
    c.isExcluded code = true ∨ ∃ o ∈ accepted, code ∈ o.exclude
  minimumSeverity : Latest (readSeverity "minimum_severity") (accepted.map (·.minimumSeverity))
    c.minimumSeverity c'.minimumSeverity
  workers : Latest readWorkers (accepted.map (·.workers)) c.workers c'.workers
  severityOverrides : c'.severityOverrides = c.severityOverrides

theorem accumulates_nil (c : ScanConfig) : c.Accumulates [] c where
  exclude_prefix := List.prefix_rfl
  isExcluded_iff := by simp
  minimumSeverity := rfl
  workers := rfl
  severityOverrides := rfl

theorem Layers.accumulates {d : ScanConfig} (h : c.Layers o c') (hos : c'.Accumulates os d) :
    c.Accumulates (o :: os) d where
  exclude_prefix := by
    have hfirst : c.exclude <+: c'.exclude := h.exclude ▸ List.prefix_append _ _
    exact hfirst.trans hos.exclude_prefix
  isExcluded_iff code := by
    rw [hos.isExcluded_iff, h.isExcluded_iff]
    simp [or_assoc]
  minimumSeverity := h.minimumSeverity.latest_cons hos.minimumSeverity
  workers := h.workers.latest_cons hos.workers
  severityOverrides := hos.severityOverrides.trans h.severityOverrides

theorem accumulates_layered (c : ScanConfig) (os : List Overlay) :
    c.Accumulates (c.accepted os) (c.layered os) := by
  induction os generalizing c with
  | nil => exact accumulates_nil c
  | cons o os ih =>
    rw [layered, accepted]
    split
    · next c' h => exact (overlaid_eq_ok_iff.mp h).accumulates (ih c')
    · exact ih c

theorem Accumulates.one_le_workers (h : c.Accumulates os c') (hc : 1 ≤ c.workers) :
    1 ≤ c'.workers := by
  rcases h.workers.eq_or_read with hold | ⟨v, hv⟩
  · exact hold ▸ hc
  · exact one_le_of_readWorkers hv

/-- What is excluded adds up, and of the other values the last one that was accepted counts. -/
theorem layered_laws (hc : c.Obtained) (os : List Overlay) :
    c.exclude <+: (c.layered os).exclude ∧
    (∀ code, (c.layered os).isExcluded code = true ↔
      c.isExcluded code = true ∨ ∃ o ∈ c.accepted os, code ∈ o.exclude) ∧
    Latest (readSeverity "minimum_severity") ((c.accepted os).map (·.minimumSeverity))
      c.minimumSeverity (c.layered os).minimumSeverity ∧
    Latest readWorkers ((c.accepted os).map (·.workers)) c.workers (c.layered os).workers ∧
    (c.layered os).severityOverrides = c.severityOverrides ∧
    1 ≤ (c.layered os).workers ∧
    ∀ o c', (c.layered os).overlaid o = .ok c' → c'.overlaid o = .ok c' := by
  have h := accumulates_layered c os
  refine ⟨h.exclude_prefix, h.isExcluded_iff, h.minimumSeverity, h.workers, h.severityOverrides,
    h.one_le_workers hc.one_le_workers, fun o c' ho => ?_⟩
  exact overlaid_eq_ok_iff.mpr (overlaid_eq_ok_iff.mp ho).repeated

namespace Sample

def configured : ScanConfig := ⟨["A"], [("A", .high)], .medium, 2⟩

def commands : List Overlay :=
  [⟨["A", "B"], .str " High", .int 4⟩, ⟨["C"], .str "urgent", .null⟩, ⟨["D"], .str "low", .int 0⟩,
    ⟨["B"], .null, .str "3"⟩]

end Sample

open Sample in
theorem layered_laws_commands : configured.Obtained ∧
    configured.accepted commands =
      [⟨["A", "B"], .str " High", .int 4⟩, ⟨["B"], .null, .str "3"⟩] ∧
    configured.layered commands = ⟨["A", "B"], [("A", .high)], .high, 3⟩ ∧
    ((configured.layered commands).isExcluded "D" = true ↔ configured.isExcluded "D" = true ∨
      ∃ o ∈ configured.accepted commands, "D" ∈ o.exclude) ∧
    Latest readWorkers [.int 4, .str "3"] 2 (configured.layered commands).workers := by
  have hread : configured.Obtained := Or.inr ⟨[(.str "exclude", .list [.str "A"]),
    (.str "severity_overrides", .map [(.str "A", .str "high")]),
    (.str "minimum_severity", .str "medium"), (.str "workers", .int 2)], rfl⟩
  obtain ⟨-, hexcluded, -, hworkers, -⟩ := layered_laws hread commands
  exact ⟨hread, rfl, rfl, hexcluded "D", hworkers⟩

end BlockAudit.ScanConfig
