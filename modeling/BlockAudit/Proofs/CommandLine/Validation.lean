import BlockAudit.Proofs.CommandLine.Outcome
import BlockAudit.Proofs.Module.Failing
import BlockAudit.Proofs.Scan.Outcome
/-!
Validation reads the files of each path by themselves, a scan those of all paths together. Main
statement: `builds_iff_validates`.
-/

namespace BlockAudit

def NotOfChecks (f : Failure) : Prop := ∀ e, f ≠ .checks e

theorem notOfChecks_config (e : ConfigError) : NotOfChecks (.config e) := nofun

theorem notOfChecks_fault (f : Fault) : NotOfChecks (.fault f) := nofun

theorem errorsIn_fault {α : Type} (x : Except Fault α) :
    ErrorsIn NotOfChecks (x.mapError .fault) := by
  intro f hf
  obtain ⟨g, -, rfl⟩ := mapError_eq_error.mp hf
  exact notOfChecks_fault g

theorem ScanConfig.Refused.notOfChecks {es : List Entry} {f : Failure}
    (h : ScanConfig.Refused es f) : NotOfChecks f := by
  rcases h with ⟨e, rfl⟩ | ⟨rfl, -⟩
  · exact notOfChecks_config e
  · exact notOfChecks_fault _

theorem FileTree.Refused.notOfChecks {bad : List Char → Fault → Prop} {t : FileTree} {p : Path}
    {f : Failure} (h : t.Refused bad p f) : NotOfChecks f := by
  rcases h with ⟨e, rfl⟩ | ⟨g, rfl, -⟩
  · exact notOfChecks_config e
  · exact notOfChecks_fault g

theorem Module.Refused.notOfChecks {t : FileTree} {root : Path} {f : Failure}
    (h : Module.Refused t root f) : NotOfChecks f := by
  rcases h with ⟨e, rfl⟩ | ⟨g, rfl, -⟩
  · exact notOfChecks_config e
  · exact notOfChecks_fault g

namespace CommandLine

variable {t : FileTree} {paths : List String} {settings : Settings}

theorem failsOnly_addTo (config : ScanConfig) (r : Registry) (modules : List Module) :
    (Scan.addTo config r modules .empty).FailsOnly NotOfChecks := by
  refine Run.FailsOnly.bind ?_ fun _ => Run.failsOnly_pure _
  refine ((Scan.gives_chosen config _).failsOnly nofun).bind fun cs => ?_
  refine ((Scan.gives_judgeAll config modules _ _).failsOnly (errorsIn_fault _)).bind fun _ => ?_
  exact (Run.failsOnly_note _).bind fun _ => Run.failsOnly_pure _

theorem failsOnly_report (t : FileTree) (result : ScanResult) (output : Option String) :
    (report t result output).FailsOnly NotOfChecks := by
  refine (Run.failsOnly_print _).bind fun _ => ?_
  dsimp only
  split
  · exact (Run.failsOnly_print _).bind fun _ => (Run.failsOnly_print _).bind fun _ =>
      Run.failsOnly_pure _
  · split
    · exact (Run.failsOnly_print _).bind fun _ => Run.failsOnly_pure _
    · exact Run.failsOnly_throw (notOfChecks_fault _)

theorem failsOnly_registryFor {r : Registry} (h : Checks.Builds t paths r) (hpaths : paths ≠ [])
    (target : Path) : (registryFor t target paths).FailsOnly NotOfChecks := by
  have hempty : paths.isEmpty = false := by simpa using hpaths
  unfold registryFor
  simp only [hempty, Bool.false_and, Bool.false_eq_true, if_false]
  refine (h.gives.failsOnly nofun).bind fun registry => ?_
  split
  · exact (Run.failsOnly_note _).bind fun _ => Run.failsOnly_pure _
  · exact Run.failsOnly_pure _

theorem failsOnly_scan {r : Registry} (h : Checks.Builds t paths r) (hpaths : paths ≠ [])
    (hchecks : settings.checks = paths) (target : String) :
    ((Command.scan target settings).run t).FailsOnly NotOfChecks := by
  refine Run.FailsOnly.bind ?_ fun result => (failsOnly_report t _ _).bind fun _ =>
    Run.failsOnly_pure _
  have hconfig : ErrorsIn NotOfChecks (configFor t (Path.ofText target) settings) := by
    refine (refused_configFor t _ _).mono ?_
    rintro f (⟨e, rfl⟩ | ⟨p, -, hp⟩)
    · exact notOfChecks_config e
    · exact hp.notOfChecks
  refine (Run.failsOnly_lift hconfig).bind fun config => ?_
  rw [hchecks]
  refine (failsOnly_registryFor h hpaths _).bind fun registry => ?_
  have hmodules := (Module.failsOnly_loadAll (Path.ofText target)).mono
    fun _ => Module.Refused.notOfChecks (t := t)
  exact hmodules.bind fun modules => failsOnly_addTo config registry modules

def Validates (t : FileTree) (paths : List String) : Prop :=
  ∃ o, (Command.validate paths).outcome t = .ok o ∧ o.exitCode = 0

theorem validateAll_of_builds (h : ∀ path ∈ paths, ∃ r, Checks.Builds t [path] r) :
    (validateAll t paths).Gives (.ok ()) := by
  induction paths with
  | nil => exact Run.gives_pure ()
  | cons path paths ih =>
    obtain ⟨⟨r, hr⟩, hrest⟩ := List.forall_mem_cons.mp h
    refine hr.gives.bind_ok ?_
    refine (Run.gives_forM (fun c => Run.gives_print _) _).bind_ok ?_
    exact (Run.gives_print _).bind_ok (ih hrest)

theorem validateAll_of_not_builds (h : ¬∀ path ∈ paths, ∃ r, Checks.Builds t [path] r) :
    ∃ f, (validateAll t paths).Gives (.error f) := by
  induction paths with
  | nil => exact absurd nofun h
  | cons path paths ih =>
    by_cases hpath : ∃ r, Checks.Builds t [path] r
    · obtain ⟨f, hf⟩ := ih fun hrest => h (List.forall_mem_cons.mpr ⟨hpath, hrest⟩)
      obtain ⟨r, hr⟩ := hpath
      refine ⟨f, hr.gives.bind_ok ?_⟩
      refine (Run.gives_forM (fun c => Run.gives_print _) _).bind_ok ?_
      exact (Run.gives_print _).bind_ok hf
    · obtain ⟨f, hf⟩ := Checks.registryOf_fails hpath
      exact ⟨f, hf.bind_error _⟩

theorem validates_iff : Validates t paths ↔ ∀ path ∈ paths, ∃ r, Checks.Builds t [path] r := by
  constructor
  · rintro ⟨o, ho, hcode⟩
    apply Classical.byContradiction
    intro h
    obtain ⟨f, hf⟩ := validateAll_of_not_builds h
    have hrun : ((Command.validate paths).run t).Gives (.error f) := hf.bind_error _
    rw [exitCode_of_error hrun.start_fst ho] at hcode
    cases hcode
  · intro h
    have hrun : ((Command.validate paths).run t).Gives (.ok (0, t)) :=
      (validateAll_of_builds h).bind_ok (Run.gives_pure _)
    exact outcome_of_ok hrun.start_fst

def codesAt (t : FileTree) (path : String) : List String :=
  (Checks.checksOf t [path]).map Check.code

theorem codes_eq_flatten (t : FileTree) (paths : List String) :
    (Checks.checksOf t paths).map Check.code = (paths.map (codesAt t)).flatten := by
  induction paths with
  | nil => rfl
  | cons path paths ih =>
    rw [List.map_cons, List.flatten_cons, ← ih, codesAt, ← List.map_append,
      ← Checks.checksOf_append]
    rfl

theorem forall_mem_filesOf {P : Path → Prop} : (∀ p ∈ Checks.filesOf t paths, P p) ↔
    ∀ path ∈ paths, ∀ p ∈ Checks.filesOf t [path], P p := by
  simp only [Checks.filesOf, List.mem_flatMap, List.mem_map, List.mem_singleton]
  grind

theorem exists_builds_iff_validates : (∃ r, Checks.Builds t paths r) ↔
    Validates t paths ∧ (paths.map (codesAt t)).Pairwise List.Disjoint := by
  rw [validates_iff, Checks.exists_builds_iff, codes_eq_flatten, List.nodup_flatten,
    forall_mem_filesOf, List.forall_mem_map, ← and_assoc, ← forall₂_and]
  simp only [Checks.exists_builds_iff, codesAt]

/-- The files of the paths go together if each path is valid by itself and no code is in the files
of two of them. -/
theorem builds_iff_validates (t : FileTree) (paths : List String) :
    (Validates t paths ↔ ∀ path ∈ paths, ∃ r, Checks.Builds t [path] r) ∧
    ((∃ r, Checks.Builds t paths r) ↔
      Validates t paths ∧ (paths.map (codesAt t)).Pairwise List.Disjoint) ∧
    ((∃ r, Checks.Builds t paths r) → paths ≠ [] →
      ∀ target settings o e, settings.checks = paths →
        (Command.scan target settings).outcome t = .ok o → o.error ≠ some (.checks e)) := by
  refine ⟨validates_iff, exists_builds_iff_validates, ?_⟩
  rintro ⟨r, hr⟩ hpaths target settings o e hchecks ho he
  exact (failsOnly_scan hr hpaths hchecks target).start (start_of_outcome_error ho he) e rfl

theorem builds_sharedRule {path : String}
    (h : path = "a_tfchecks.json" ∨ path = "b_tfchecks.json") :
    (∃ r, Checks.Builds Checks.sharedRule [path] r) ∧ codesAt Checks.sharedRule path = ["C1"] := by
  have hfiles : Checks.filesOf Checks.sharedRule [path] = [⟨"", [path]⟩] := by
    rcases h with rfl | rfl <;> decide +kernel
  have hmem : (⟨"", [path]⟩ : Path) ∈
      [⟨"", ["a_tfchecks.json"]⟩, ⟨"", ["b_tfchecks.json"]⟩] := by
    rcases h with rfl | rfl <;> simp
  obtain ⟨hloads, hcodes⟩ := Checks.checksIn_sharedRule hmem
  have hall : codesAt Checks.sharedRule path = ["C1"] := by
    rw [codesAt, Checks.checksOf, hfiles, List.flatMap_singleton, hcodes]
  refine ⟨Checks.exists_builds_iff.mpr ⟨?_, ?_⟩, hall⟩
  · rw [hfiles]
    simpa using hloads
  · rw [← codesAt, hall]
    simp

theorem builds_iff_validates_first :
    (∃ r, Checks.Builds Checks.sharedRule ["a_tfchecks.json"] r) ∧
    Validates Checks.sharedRule ["a_tfchecks.json"] ∧
    ∀ o e, (Command.scan "." { Settings.initial with checks := ["a_tfchecks.json"] }).outcome
      Checks.sharedRule = .ok o → o.error ≠ some (.checks e) := by
  obtain ⟨hbuilds, -⟩ := builds_sharedRule (Or.inl rfl)
  obtain ⟨-, hvalidates, hscan⟩ := builds_iff_validates Checks.sharedRule ["a_tfchecks.json"]
  exact ⟨hbuilds, (hvalidates.mp hbuilds).1, fun o e => hscan hbuilds (by simp) _ _ o e rfl⟩

/-- Each of the two files is valid, and they do not go together. -/
theorem validates_sharedRule :
    Validates Checks.sharedRule ["a_tfchecks.json", "b_tfchecks.json"] ∧
    ¬∃ r, Checks.Builds Checks.sharedRule ["a_tfchecks.json", "b_tfchecks.json"] r := by
  obtain ⟨ha, hacodes⟩ := builds_sharedRule (Or.inl rfl)
  obtain ⟨hb, hbcodes⟩ := builds_sharedRule (Or.inr rfl)
  refine ⟨validates_iff.mpr (by simpa using ⟨ha, hb⟩), ?_⟩
  rw [exists_builds_iff_validates, List.map_cons, List.map_cons, hacodes, hbcodes]
  simp

end CommandLine

end BlockAudit
