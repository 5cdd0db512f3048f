import BlockAudit.Proofs.Scan.Outcome
import Mathlib.Data.List.ProdSigma
/-!
Each check and each block are judged on their own: a scan that meets no fault finds exactly the pairs
that fail, in the order of the checks and of the blocks. Main statement: `findingsBy_isolated`.
-/

namespace BlockAudit.Scan

instance decidableEqExcept {ε α : Type} [DecidableEq ε] [DecidableEq α] :
    DecidableEq (Except ε α)
  | .ok a, .ok b => decidable_of_iff (a = b) (by rw [Except.ok.injEq])
  | .error e, .error f => decidable_of_iff (e = f) (by rw [Except.error.injEq])
  | .ok _, .error _ => isFalse nofun
  | .error _, .ok _ => isFalse nofun

variable (config : ScanConfig) (modules : List Module)

/-- The check is left in and asks for blocks like this one, and the block does not hold what it
requires, which is severe enough. -/
def Fails (p : Pair) : Prop :=
  p.1.code ∉ config.exclude ∧ p.2.type ∈ p.1.requiredTypes ∧
    p.1.requiredLabels <+: p.2.labels ∧ (p.1.matchSpec.run modules p.2 []).1 = .ok false ∧
    config.minimumSeverity.rank ≤ (config.severityFor p.1.code p.1.severity).rank

instance : DecidablePred (Fails config modules) := fun _ =>
  inferInstanceAs (Decidable (_ ∧ _ ∧ _ ∧ _ ∧ _))

def report (p : Pair) : Finding := .of p.1 p.2 (config.severityFor p.1.code p.1.severity)

def NoFault (registry : Registry) : Prop :=
  ∀ c ∈ registry.checks, c.code ∉ config.exclude → ∀ b ∈ blocks modules, c.appliesTo b →
    ∃ v, (c.matchSpec.run modules b []).1 = .ok v

theorem appliesTo_iff (c : Check) (b : Block) :
    c.appliesTo b = true ↔ b.type ∈ c.requiredTypes ∧ c.requiredLabels <+: b.labels := by
  simp [Check.appliesTo]

theorem isExcluded_eq_false_iff (code : String) :
    config.isExcluded code = false ↔ code ∉ config.exclude := by
  simp [ScanConfig.isExcluded]

theorem chosenPairs_eq_product (cs : List Check) : chosenPairs config modules cs =
    (cs ×ˢ blocks modules).filter fun p => !config.isExcluded p.1.code && p.1.appliesTo p.2 := by
  induction cs with
  | nil => rfl
  | cons c cs ih =>
    rw [List.product_cons, List.filter_append, ← ih]
    cases hc : config.isExcluded c.code <;>
      simp [chosenPairs, pairs, hc, List.filter_map, Function.comp_def]

theorem found?_of_chosen {p : Pair} (hx : p.1.code ∉ config.exclude)
    (ha : p.1.appliesTo p.2 = true) :
    found? config modules p = if Fails config modules p then some (report config p) else none := by
  have happlies := (appliesTo_iff p.1 p.2).mp ha
  have hfails : Fails config modules p ↔ holds modules p = .ok false ∧
      config.minimumSeverity.rank ≤ (config.severityFor p.1.code p.1.severity).rank := by
    simp [Fails, holds, hx, happlies]
  unfold found?
  split
  · next hp =>
    simp only [hfails, hp, true_and]
    rcases Nat.lt_or_ge (config.severityFor p.1.code p.1.severity).rank
      config.minimumSeverity.rank with hlow | hhigh
    · simp [finding?, Severity.below, hlow, Nat.not_le.mpr hlow]
    · simp [finding?, Severity.below, report, hhigh, Nat.not_lt.mpr hhigh]
  · next hp => rw [if_neg fun h => hp (hfails.mp h).1]

def failures (cs : List Check) : List Finding :=
  ((cs ×ˢ blocks modules).filter (Fails config modules)).map (report config)

theorem filterMap_found?_chosenPairs (cs : List Check) :
    (chosenPairs config modules cs).filterMap (found? config modules) =
      failures config modules cs := by
  rw [failures, chosenPairs_eq_product, List.filterMap_filter, ← List.filterMap_eq_map,
    List.filterMap_filter]
  apply List.filterMap_congr
  intro p _
  by_cases hx : p.1.code ∈ config.exclude
  · have hnot : ¬Fails config modules p := fun h => h.1 hx
    simp [ScanConfig.isExcluded, hx, hnot]
  cases ha : p.1.appliesTo p.2 with
  | false =>
    have hnot : ¬Fails config modules p := fun h => by
      simpa [ha] using (appliesTo_iff p.1 p.2).mpr ⟨h.2.1, h.2.2.1⟩
    simp [hnot]
  | true => simp [ScanConfig.isExcluded, hx, found?_of_chosen config modules hx ha]

theorem findingsBy_of_noFault (s : Schedule) {registry : Registry}
    (h : NoFault config modules registry) : (findingsBy s config registry modules).start.1 =
      .ok (failures config modules registry.checks) := by
  refine (findingsBy_eq_ok_iff config modules s registry _).mpr
    ⟨fun p hp => ?_, (filterMap_found?_chosenPairs config modules registry.checks).symm⟩
  rw [chosenPairs_eq_product, List.mem_filter, List.mem_product, Bool.and_eq_true,
    Bool.not_eq_true'] at hp
  obtain ⟨⟨hc, hb⟩, hx, ha⟩ := hp
  exact h p.1 hc ((isExcluded_eq_false_iff config p.1.code).mp hx) p.2 hb ha

theorem failures_append (cs ds : List Check) :
    failures config modules (cs ++ ds) = failures config modules cs ++ failures config modules ds := by
  induction cs with
  | nil => rfl
  | cons c cs ih =>
    simp only [failures, List.cons_append, List.product_cons, List.filter_append,
      List.map_append, List.append_assoc] at ih ⊢
    rw [ih]

theorem code_of_mem_failures {cs : List Check} {f : Finding}
    (h : f ∈ failures config modules cs) : ∃ c ∈ cs, f.code = c.code := by
  obtain ⟨p, hp, rfl⟩ := List.mem_map.mp h
  exact ⟨p.1, (List.mem_product.mp (List.mem_of_mem_filter hp)).1, rfl⟩

theorem filter_code_failures {cs : List Check} {c : Check} (hc : c ∈ cs)
    (hcodes : (cs.map Check.code).Nodup) :
    (failures config modules cs).filter (fun f => f.code = c.code) = failures config modules [c] := by
  have hself : (failures config modules [c]).filter (fun f => f.code = c.code) =
      failures config modules [c] := by
    apply List.filter_eq_self.mpr
    intro f hf
    obtain ⟨d, hd, hcode⟩ := code_of_mem_failures config modules hf
    rw [List.mem_singleton.mp hd] at hcode
    exact decide_eq_true hcode
  have hother : ∀ ds : List Check, c.code ∉ ds.map Check.code →
      (failures config modules ds).filter (fun f => f.code = c.code) = [] := by
    intro ds hds
    apply List.filter_eq_nil_iff.mpr
    intro f hf
    obtain ⟨d, hd, hcode⟩ := code_of_mem_failures config modules hf
    rw [decide_eq_true_eq, hcode]
    exact fun he => hds (he ▸ List.mem_map_of_mem hd)
  obtain ⟨before, after, rfl⟩ := List.append_of_mem hc
  rw [List.map_append, List.map_cons, List.nodup_append] at hcodes
  obtain ⟨-, hrest, hdisjoint⟩ := hcodes
  have hbefore : c.code ∉ before.map Check.code := fun h =>
    hdisjoint c.code h c.code List.mem_cons_self rfl
  rw [List.append_cons, failures_append, failures_append, List.filter_append, List.filter_append,
    hself, hother before hbefore, hother after (List.nodup_cons.mp hrest).1, List.nil_append,
    List.append_nil]

theorem findingsBy_isolated (s : Schedule) (registry : Registry)
    (h : NoFault config modules registry) :
    (findingsBy s config registry modules).start.1 =
        .ok (((registry.checks ×ˢ blocks modules).filter (Fails config modules)).map
          (report config)) ∧
      (∀ (t : Schedule) (other : Registry), NoFault config modules other →
        ∀ c ∈ registry.checks, c ∈ other.checks →
          (findingsBy s config registry modules).start.1.map (·.filter fun f => f.code = c.code) =
            (findingsBy t config other modules).start.1.map (·.filter fun f => f.code = c.code)) ∧
      ∀ (t u : Schedule) (first second : Registry),
        registry.checks = first.checks ++ second.checks →
          (findingsBy s config registry modules).start.1 = do
            let fs ← (findingsBy t config first modules).start.1
            let gs ← (findingsBy u config second modules).start.1
            return fs ++ gs := by
  refine ⟨findingsBy_of_noFault config modules s h, ?_, ?_⟩
  · intro t other ho c hc hco
    rw [findingsBy_of_noFault config modules s h, findingsBy_of_noFault config modules t ho]
    simp only [Except.map, filter_code_failures config modules hc registry.codes_nodup,
      filter_code_failures config modules hco other.codes_nodup]
  · intro t u first second hchecks
    have hfirst : NoFault config modules first := fun c hc =>
      h c (hchecks ▸ List.mem_append_left _ hc)
    have hsecond : NoFault config modules second := fun c hc =>
      h c (hchecks ▸ List.mem_append_right _ hc)
    rw [findingsBy_of_noFault config modules s h, findingsBy_of_noFault config modules t hfirst,
      findingsBy_of_noFault config modules u hsecond, hchecks, failures_append]
    rfl

namespace Sample

def publicAccess : Check := check "C" .medium (.comparison .equals) "acl" (.str "public")

def larger : Registry := ⟨[publicAccess, calledModule, privateAccess], by decide⟩

end Sample

open Sample in
theorem findingsBy_isolated_buckets :
    NoFault .default buckets registry ∧ NoFault .default buckets larger ∧
      (findingsBy backward .default registry buckets).start.1 =
        .ok [.of privateAccess (bucket "y" "public") .high,
          .of calledModule (bucket "x" "private") .low,
          .of calledModule (bucket "y" "public") .low] ∧
      (findingsBy backward .default registry buckets).start.1.map (·.filter fun f => f.code = "A") =
        (findingsBy .inTurn .default larger buckets).start.1.map (·.filter fun f => f.code = "A") ∧
      (findingsBy backward .default registry buckets).start.1 = do
        let fs ← (findingsBy .inTurn .default ⟨[privateAccess], by decide⟩ buckets).start.1
        let gs ← (findingsBy backward .default ⟨[calledModule], by decide⟩ buckets).start.1
        return fs ++ gs := by
  have h : NoFault .default buckets registry := by
    unfold NoFault
    decide
  have hlarger : NoFault .default buckets larger := by
    unfold NoFault
    decide
  obtain ⟨hfindings, hother, happend⟩ := findingsBy_isolated .default buckets backward registry h
  exact ⟨h, hlarger, hfindings.trans rfl,
    hother .inTurn larger hlarger privateAccess (by simp [registry]) (by simp [larger]),
    happend .inTurn backward _ _ rfl⟩

end BlockAudit.Scan
