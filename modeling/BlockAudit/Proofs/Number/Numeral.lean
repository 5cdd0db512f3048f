import BlockAudit.Number.Numeral
import BlockAudit.Proofs.Text.Search

namespace BlockAudit.Number

theorem decimalValue?_of_isDigit {c : Char} (h : c.isDigit = true) :
    Text.decimalValue? c = some (c.toNat - '0'.toNat) := by
  simp only [Char.isDigit, Bool.and_eq_true, decide_eq_true_eq] at h
  have hlow : 0x30 ≤ c.toNat := h.1
  have hhigh : c.toNat < 0x30 + 10 := Nat.lt_succ_of_le h.2
  rw [Text.decimalValue?, Text.decimalZeros, List.find?_cons_of_pos]
  · rfl
  · simp only [hlow, hhigh, decide_true, Bool.and_self]

theorem digitIn?_of_isDigit {c : Char} (h : c.isDigit = true) :
    digitIn? 10 c = some (c.toNat - '0'.toNat) := by
  have hsmall : c.toNat - '0'.toNat < 10 := by
    simp only [Char.isDigit, Bool.and_eq_true, decide_eq_true_eq] at h
    have hhigh : c.toNat ≤ 57 := h.2
    show c.toNat - 48 < 10
    omega
  rw [digitIn?, decimalValue?_of_isDigit h]
  exact if_pos hsmall

theorem mapM_digitIn? {s : List Char} (h : ∀ c ∈ s, c.isDigit = true) :
    s.mapM (digitIn? 10) = some (s.map fun c => c.toNat - '0'.toNat) := by
  induction s with
  | nil => rfl
  | cons c s ih =>
    obtain ⟨hc, hs⟩ := List.forall_mem_cons.mp h
    rw [List.mapM_cons, digitIn?_of_isDigit hc, ih hs]
    rfl

theorem digits?_of_isDigit {s : List Char} (hne : s ≠ []) (h : ∀ c ∈ s, c.isDigit = true) :
    digits? 10 s = some (s.map fun c => c.toNat - '0'.toNat) := by
  have hbar : '_' ∉ s := fun hbar => absurd (h '_' hbar) (by decide)
  have hgroups : [s].all (!·.isEmpty) = true := by
    simp [hne]
  rw [digits?, Text.fields_of_not_mem hbar]
  simp only [hgroups, if_true, List.flatten_singleton, mapM_digitIn? h]

theorem ofDigits_map (s : List Char) :
    ofDigits 10 (s.map fun c => c.toNat - '0'.toNat) = Nat.ofDigitChars 10 s 0 := by
  rw [ofDigits, List.foldl_map, Nat.ofDigitChars_eq_foldl]
  simp only [Nat.mul_comm _ 10]

theorem isDigit_of_mem_digits (n : Nat) : ∀ c ∈ Nat.toDigits 10 n, c.isDigit = true :=
  fun _ hc => Nat.isDigit_of_mem_toDigits (by decide) (by decide) hc

theorem natural?_toDigits (n : Nat) : natural? 10 (Nat.toDigits 10 n) = some n := by
  rw [natural?, digits?_of_isDigit Nat.toDigits_ne_nil (isDigit_of_mem_digits n), Option.map_some,
    ofDigits_map, Nat.ofDigitChars_ten_toDigits]

theorem isDigits_toDigits (n : Nat) : Text.isDigits (Nat.toDigits 10 n) = true := by
  have hall : (Nat.toDigits 10 n).all Text.isDigit = true := by
    refine List.all_eq_true.mpr fun c hc => ?_
    rw [Text.isDigit, Text.isDecimal, decimalValue?_of_isDigit (isDigit_of_mem_digits n c hc)]
    rfl
  rw [Text.isDigits, hall, Bool.and_true, Bool.not_eq_true', List.isEmpty_eq_false_iff]
  exact Nat.toDigits_ne_nil

end BlockAudit.Number
