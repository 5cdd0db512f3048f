import BlockAudit.Proofs.Pool
import BlockAudit.Proofs.Run
import BlockAudit.Scan
/-!
What a scan comes to. One worker and a pool of them, in whatever order it completes the pairs, give the
same findings or the same fault.
-/

namespace BlockAudit.Scan

variable (config : ScanConfig) (modules : List Module)

def holds (p : Pair) : Except Fault Bool := (p.1.matchSpec.run modules p.2 []).1

theorem judge_finding (p : Pair) : (judge config modules p).finding =
    (holds modules p).map fun h => if h then none else finding? config p := rfl

def outcomes (ps : List Pair) : Except Fault (List (Option Finding)) :=
  ps.mapM fun p => (judge config modules p).finding

def chosenPairs (checks : List Check) : List Pair :=
  pairs modules (checks.filter fun c => !config.isExcluded c.code)

theorem mapError_mapM {α β ε ε' : Type} (f : α → Except ε β) (g : ε → ε') (as : List α) :
    (as.mapM f).mapError g = as.mapM fun a => (f a).mapError g := by
  induction as with
  | nil => rfl
  | cons a as ih =>
    rw [List.mapM_cons, List.mapM_cons, ← ih]
    cases f a with
    | error e => rfl
    | ok b => cases as.mapM f <;> rfl

theorem gives_chosen (cs : List Check) :
    (chosen config cs).Gives (.ok (cs.filter fun c => !config.isExcluded c.code)) := by
  induction cs with
  | nil => exact Run.gives_pure []
  | cons c cs ih =>
    cases hc : config.isExcluded c.code with
    | true =>
      simp only [chosen, hc, ↓reduceIte, Bool.not_true, Bool.false_eq_true, not_false_eq_true,
        List.filter_cons_of_neg]
      exact (Run.gives_note _).bind fun _ => ih
    | false =>
      simp only [chosen, hc, Bool.false_eq_true, ↓reduceIte, Bool.not_false,
        List.filter_cons_of_pos]
      exact ih.bind fun cs => Run.gives_pure (c :: cs)

theorem gives_judgeInTurn (ps : List Pair) : (judgeInTurn config modules ps).Gives
    ((outcomes config modules ps).mapError .fault) := by
  rw [outcomes, mapError_mapM]
  induction ps with
  | nil => exact Run.gives_pure []
  | cons p ps ih =>
    rw [List.mapM_cons]
    exact (Run.gives_forM Run.gives_note _).bind fun _ =>
      (Run.gives_ofFault _).bind fun found => ih.bind fun rest => Run.gives_pure (found :: rest)

theorem gives_judgePooled (s : Schedule) (ps : List Pair) : (judgePooled s config modules ps).Gives
    ((outcomes config modules ps).mapError .fault) := by
  have hnotes : ∀ d : Nat × Judgement, (d.2.notices.forM Run.note).Gives (.ok ()) :=
    fun d => Run.gives_forM Run.gives_note _
  have hmap : (ps.map (judge config modules)).mapM (fun j => j.finding.mapError Failure.fault) =
      (outcomes config modules ps).mapError .fault := by
    rw [List.mapM_map, outcomes, mapError_mapM]
    rfl
  rw [judgePooled, Pool.arranged_completed, ← hmap]
  exact (Run.gives_forM hnotes _).bind fun _ => Run.gives_mapM (fun j => Run.gives_ofFault _) _

theorem gives_judgeAll (s : Schedule) (ps : List Pair) : (judgeAll s config modules ps).Gives
    ((outcomes config modules ps).mapError .fault) := by
  unfold judgeAll
  split
  · exact gives_judgePooled config modules s ps
  · exact gives_judgeInTurn config modules ps

theorem gives_findingsBy (s : Schedule) (registry : Registry) :
    (findingsBy s config registry modules).Gives
      (((outcomes config modules (chosenPairs config modules registry.checks)).mapError .fault).map
        (·.filterMap id)) := by
  have hgives : (findingsBy s config registry modules).Gives
      (.ok (registry.checks.filter fun c => !config.isExcluded c.code) >>= fun cs =>
        (outcomes config modules (pairs modules cs)).mapError .fault >>= fun found =>
          .ok () >>= fun _ => .ok (found.filterMap id)) :=
    (gives_chosen config registry.checks).bind fun cs =>
      (gives_judgeAll config modules s (pairs modules cs)).bind fun found =>
        (Run.gives_note _).bind fun _ => Run.gives_pure _
  intro j
  rw [hgives j]
  change Except.bind _ _ = _
  simp only [Except.bind, chosenPairs]
  cases outcomes config modules _ <;> rfl

theorem findingsBy_start (s : Schedule) (registry : Registry) :
    (findingsBy s config registry modules).start.1 =
      ((outcomes config modules (chosenPairs config modules registry.checks)).mapError .fault).map
        (·.filterMap id) :=
  (gives_findingsBy config modules s registry).start_fst

def found? (p : Pair) : Option Finding :=
  match holds modules p with
  | .ok false => finding? config p
  | _ => none

theorem outcomes_eq_ok_iff (ps : List Pair) (os : List (Option Finding)) :
    outcomes config modules ps = .ok os ↔
      (∀ p ∈ ps, ∃ h, holds modules p = .ok h) ∧ os = ps.map (found? config modules) := by
  induction ps generalizing os with
  | nil =>
    simp only [outcomes, List.mapM_nil, List.not_mem_nil, false_implies, implies_true, true_and,
      List.map_nil]
    exact ⟨fun h => (Except.ok.inj h).symm, fun h => h ▸ rfl⟩
  | cons p ps ih =>
    have hcons : outcomes config modules (p :: ps) = (judge config modules p).finding >>= fun o =>
        outcomes config modules ps >>= fun os => .ok (o :: os) := List.mapM_cons
    rw [hcons, judge_finding, List.forall_mem_cons, List.map_cons]
    cases hp : holds modules p with
    | error f => simp [Except.map, bind, Except.bind]
    | ok h =>
      have hfound : found? config modules p = if h then none else finding? config p := by
        cases h <;> simp [found?, hp]
      cases hps : outcomes config modules ps with
      | error f =>
        have hrest := ih (ps.map (found? config modules))
        rw [hps] at hrest
        simp only [Except.map, bind, Except.bind, reduceCtorEq, and_true, false_iff] at hrest ⊢
        rintro ⟨⟨-, hall⟩, -⟩
        exact hrest hall
      | ok rest =>
        obtain ⟨hall, rfl⟩ := (ih rest).mp hps
        simp only [Except.map, bind, Except.bind, Except.ok.injEq, exists_eq', true_and, hfound]
        exact ⟨fun h => ⟨hall, h.symm⟩, fun h => h.2.symm⟩

theorem findingsBy_eq_ok_iff (s : Schedule) (registry : Registry) (fs : List Finding) :
    (findingsBy s config registry modules).start.1 = .ok fs ↔
      (∀ p ∈ chosenPairs config modules registry.checks, ∃ h, holds modules p = .ok h) ∧
        fs = (chosenPairs config modules registry.checks).filterMap (found? config modules) := by
  rw [findingsBy_start]
  cases ho : outcomes config modules (chosenPairs config modules registry.checks) with
  | error f =>
    have hnot := outcomes_eq_ok_iff config modules (chosenPairs config modules registry.checks)
      ((chosenPairs config modules registry.checks).map (found? config modules))
    rw [ho] at hnot
    simp only [mapError_error, Except.map, reduceCtorEq, false_iff, and_true] at hnot ⊢
    exact fun h => hnot h.1
  | ok os =>
    obtain ⟨hall, rfl⟩ := (outcomes_eq_ok_iff config modules _ os).mp ho
    simp only [mapError_ok, Except.map, Except.ok.injEq, List.filterMap_map, Function.id_comp]
    exact ⟨fun h => ⟨hall, h.symm⟩, fun h => h.2.symm⟩

namespace Sample

def check (code : String) (severity : Severity) (action : Action) (name : String) (v : Value) :
    Check where
  code := code
  description := ""
  requiredTypes := ["resource"]
  requiredLabels := ["bucket"]
  severity := severity
  matchSpec := ⟨action, name, v, [], none, [], ""⟩
  errorMessage := ""
  relatedLinks := []
  impact := ""
  resolution := ""
  source := ""

def privateAccess : Check := check "A" .high (.comparison .equals) "acl" (.str "private")

def calledModule : Check := check "B" .low .inModule "" .null

def registry : Registry := ⟨[privateAccess, calledModule], by decide⟩

def bucket (label acl : String) : Block :=
  ⟨"resource", ["bucket", label], [(.str "acl", .str acl)], .file "main", []⟩

def buckets : List Module := [⟨".", [bucket "x" "private", bucket "y" "public"]⟩]

def backward : Schedule := ⟨fun n => (List.range n).reverse, fun _ => List.reverse_perm _⟩

end Sample

end BlockAudit.Scan
