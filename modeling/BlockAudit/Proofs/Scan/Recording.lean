import BlockAudit.Proofs.Scan.Outcome
import BlockAudit.Proofs.ScanResult
/-!
A result after any calls that add to it: single findings, and scans that may fail. Main statement:
`verdict_of_calls`.
-/

namespace BlockAudit

/-- Runs that work on a result. What a run has added to the result stays there when it fails. -/
abbrev Recording := ExceptT Failure (StateT ScanResult (StateM Journal))

namespace Recording

variable {α β : Type}

def add (f : Finding) : Recording Unit := modify fun r => r.add f

def ofRun (x : Run α) : Recording α := ExceptT.mk (StateT.lift (ExceptT.run x))

def after (x : Recording α) (r : ScanResult) (j : Journal) :
    Except Failure α × ScanResult × Journal :=
  let ((outcome, r'), j') := StateT.run (m := Id) (StateT.run (ExceptT.run x) r) j
  (outcome, r', j')

theorem after_ofRun_bind (x : Run α) (g : α → Recording β) (r : ScanResult) (j : Journal) :
    (ofRun x >>= g).after r j =
      match StateT.run (m := Id) (ExceptT.run x) j with
      | (.ok a, j') => (g a).after r j'
      | (.error e, j') => (.error e, r, j') := by
  have hafter : (ofRun x >>= g).after r j =
      after (ExceptT.bindCont (m := StateT ScanResult (StateM Journal)) g
        (StateT.run (m := Id) (ExceptT.run x) j).1) r
        (StateT.run (m := Id) (ExceptT.run x) j).2 := rfl
  rw [hafter]
  rcases StateT.run (m := Id) (ExceptT.run x) j with ⟨_ | _, j'⟩ <;> rfl

theorem after_forM_add (fs : List Finding) (r : ScanResult) (j : Journal) :
    (fs.forM add).after r j = (.ok (), r.addAll fs, j) := by
  induction fs generalizing r with
  | nil => rfl
  | cons f fs ih => exact ih (r.add f)

end Recording

namespace Scan

/-- All pairs are judged before the first finding is added. -/
def record (s : Schedule) (config : ScanConfig) (registry : Registry) (modules : List Module) :
    Recording Unit := do
  let found ← Recording.ofRun (findingsBy s config registry modules)
  found.forM Recording.add

variable (s : Schedule) (config : ScanConfig) (registry : Registry) (modules : List Module)

theorem after_record (r : ScanResult) (j : Journal) :
    (record s config registry modules).after r j =
      match StateT.run (m := Id) (ExceptT.run (findingsBy s config registry modules)) j with
      | (.ok fs, j') => (.ok (), r.addAll fs, j')
      | (.error e, j') => (.error e, r, j') := by
  rw [record, Recording.after_ofRun_bind]
  rcases StateT.run (m := Id) (ExceptT.run (findingsBy s config registry modules)) j with ⟨_ | fs, j'⟩
  · rfl
  · exact Recording.after_forM_add fs r j'

theorem addTo_eq_record (r : ScanResult) (j : Journal) :
    StateT.run (m := Id) (ExceptT.run (addTo config registry modules r)) j =
      let (outcome, r', j') := (record .inTurn config registry modules).after r j
      (outcome.map fun _ => r', j') := by
  rw [addTo, Run.run_bind, after_record, findings]
  rcases StateT.run (m := Id) (ExceptT.run _) j with ⟨_ | _, j'⟩ <;> rfl

end Scan

inductive Call where
  | add (f : Finding)
  | scan (s : Schedule) (config : ScanConfig) (registry : Registry) (modules : List Module)

namespace Call

def perform : Call → Recording Unit
  | add f => Recording.add f
  | scan s config registry modules => Scan.record s config registry modules

def added : Call → List Finding
  | add f => [f]
  | scan s config registry modules =>
    match (Scan.findingsBy s config registry modules).start.1 with
    | .ok fs => fs
    | .error _ => []

theorem after_perform (c : Call) (r : ScanResult) (j : Journal) :
    ∃ o j', c.perform.after r j = (o, r.addAll c.added, j') ∧ ∀ e, o = .error e → c.added = [] := by
  cases c with
  | add f => exact ⟨.ok (), j, rfl, nofun⟩
  | scan s config registry modules =>
    obtain ⟨e, hgives⟩ : ∃ e, (Scan.findingsBy s config registry modules).Gives e :=
      ⟨_, Scan.gives_findingsBy config modules s registry⟩
    obtain ⟨j', hj⟩ := hgives.exists_journal j
    rw [perform, Scan.after_record, hj, added, hgives.start_fst]
    cases e with
    | ok fs => exact ⟨.ok (), j', rfl, nofun⟩
    | error e => exact ⟨.error e, j', rfl, fun _ _ => rfl⟩

def next (state : ScanResult × Journal) (c : Call) : ScanResult × Journal :=
  (c.perform.after state.1 state.2).2

def resultOf (calls : List Call) (j : Journal) : ScanResult := (calls.foldl next (.empty, j)).1

theorem result_next (state : ScanResult × Journal) (c : Call) :
    (next state c).1 = state.1.addAll c.added := by
  obtain ⟨o, j', hafter, -⟩ := after_perform c state.1 state.2
  rw [next, hafter]

theorem result_foldl_next (calls : List Call) (state : ScanResult × Journal) :
    (calls.foldl next state).1 = state.1.addAll (calls.flatMap added) := by
  induction calls generalizing state with
  | nil => rfl
  | cons c calls ih =>
    rw [List.foldl_cons, ih, result_next, List.flatMap_cons, ScanResult.addAll_append]

theorem tallied_resultOf (calls : List Call) (j : Journal) : (resultOf calls j).Tallied := by
  rw [resultOf, result_foldl_next]
  exact ScanResult.tallied_empty.addAll _

theorem findings_resultOf (calls : List Call) (j : Journal) :
    (resultOf calls j).findings = calls.flatMap added := by
  rw [resultOf, result_foldl_next, ScanResult.findings_addAll]
  rfl

theorem verdict_of_calls (calls : List Call) (j : Journal) :
    (resultOf calls j).TellsOf (calls.flatMap added) ∧
      (∀ (c : Call) (k : Journal) (e : Failure),
        (c.perform.after (resultOf calls j) k).1 = .error e →
          c.added = [] ∧ (c.perform.after (resultOf calls j) k).2.1 = resultOf calls j) ∧
      ∀ (others : List Call) (k : Journal),
        (others.flatMap added).Perm (calls.flatMap added) →
          (resultOf others k).summary = (resultOf calls j).summary ∧
            (resultOf others k).passed = (resultOf calls j).passed ∧
            (resultOf others k).exitCode = (resultOf calls j).exitCode := by
  refine ⟨?_, ?_, ?_⟩
  · have htells := (tallied_resultOf calls j).tellsOf
    rwa [findings_resultOf] at htells
  · intro c k e he
    obtain ⟨o, k', hafter, hadded⟩ := after_perform c (resultOf calls j) k
    rw [hafter] at he ⊢
    have hnone := hadded e he
    refine ⟨hnone, ?_⟩
    dsimp only
    rw [hnone]
    rfl
  · intro others k hperm
    have hfindings : (resultOf others k).findings.Perm (resultOf calls j).findings := by
      rwa [findings_resultOf, findings_resultOf]
    -- The verdict and the exit code are read off the summary.
    have hsummary := (tallied_resultOf others k).summary_eq_of_perm (tallied_resultOf calls j) hfindings
    simp only [hsummary, ScanResult.passed, ScanResult.exitCode, and_self]

namespace Sample

open Scan.Sample

def failing : Call :=
  .scan .inTurn .default ⟨[check "D" .high (.presence .present) "size" .null], by decide⟩
    [⟨".", [bucket "x" "private", { bucket "y" "public" with body := [(.int 1, .null)] }]⟩]

example : (resultOf [.add (.of privateAccess (bucket "x" "public") .medium), failing,
    .scan backward .default registry buckets] ⟨[], []⟩).summary = ⟨0, 1, 1, 2⟩ := rfl

end Sample

end Call
end BlockAudit
