import BlockAudit.Proofs.Except
import BlockAudit.Proofs.Value.Parts
import BlockAudit.Yaml.Scalar

namespace BlockAudit.Yaml.Scalar

variable {text : String} {v : Value}

theorem isLeaf_truth (h : truth text = .ok v) : v.isLeaf = true := by
  simp only [truth] at h
  split at h
  · cases h
    rfl
  · split at h <;> cases h
    rfl

theorem isLeaf_int (h : int text = .ok v) : v.isLeaf = true := by
  obtain ⟨⟨negative, s⟩, -, h⟩ := bind_eq_ok.mp h
  obtain ⟨i, -, h⟩ := bind_eq_ok.mp h
  cases h
  rfl

theorem isLeaf_float (h : float text = .ok v) : v.isLeaf = true := by
  obtain ⟨⟨negative, s⟩, -, h⟩ := bind_eq_ok.mp h
  obtain ⟨x, -, h⟩ := bind_eq_ok.mp h
  cases h
  rfl

theorem isLeaf_binary (h : binary text = .ok v) : v.isLeaf = true := by
  unfold binary at h
  split at h
  · split at h <;> cases h
    rfl
  · cases h

theorem isLeaf_moment (h : moment text = .ok v) : v.isLeaf = true := by
  unfold moment at h
  split at h
  · cases h
  · split at h
    · cases h
    · cases h
      rfl
    · split at h <;> cases h
      rfl

theorem isLeaf_value {tag : Tag} (h : value? tag text = some (.ok v)) : v.isLeaf = true := by
  cases tag <;> first | cases h; done | have h := Option.some.inj h
  case null =>
    cases h
    rfl
  case bool => exact isLeaf_truth h
  case int => exact isLeaf_int h
  case float => exact isLeaf_float h
  case binary => exact isLeaf_binary h
  case timestamp => exact isLeaf_moment h
  case str =>
    cases h
    rfl

end BlockAudit.Yaml.Scalar
