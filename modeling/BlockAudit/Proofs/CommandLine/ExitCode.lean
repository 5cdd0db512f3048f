import BlockAudit.Proofs.CommandLine.Validation
import BlockAudit.Proofs.Template.Json

namespace BlockAudit.CommandLine

theorem failsOnly_validateAll (t : FileTree) (paths : List String) :
    (validateAll t paths).FailsOnly (Checks.FilesRefused t (Checks.filesOf t paths)) := by
  have hall : ∀ qs : List String, (∀ path ∈ qs, path ∈ paths) →
      (validateAll t qs).FailsOnly (Checks.FilesRefused t (Checks.filesOf t paths)) := by
    intro qs
    induction qs with
    | nil => exact fun _ => Run.failsOnly_pure _
    | cons path qs ih =>
      intro hsub
      obtain ⟨hpath, hqs⟩ := List.forall_mem_cons.mp hsub
      have hregistry := (Checks.failsOnly_registryOf t [path]).mono fun f hf =>
        hf.mono (forall_mem_filesOf.mp (fun _ => id) path hpath)
      refine hregistry.bind fun registry => ?_
      refine (Run.failsOnly_forM (fun c => Run.failsOnly_print _) _).bind fun _ => ?_
      exact (Run.failsOnly_print _).bind fun _ => ih hqs
  exact hall paths fun _ => id

theorem validate_cases (t : FileTree) (paths : List String) :
    Validates t paths ∨ (∃ e, Reports t (.validate paths) (.checks e)) ∨
    ∃ p ∈ Checks.filesOf t paths, ∃ f,
      (Command.validate paths).outcome t = .error f ∧ t.Spoiled Checks.Unreadable p f := by
  rcases (failsOnly_validateAll t paths).cases with ⟨_, hok⟩ | ⟨e, he, hrefused⟩
  · have hrun : ((Command.validate paths).run t).Gives (.ok (0, t)) := hok.bind_ok (Run.gives_pure _)
    exact Or.inl (outcome_of_ok hrun.start_fst)
  · have hrun : ((Command.validate paths).run t).Gives (.error e) := he.bind_error _
    rcases hrefused with ⟨d, rfl⟩ | ⟨p, hp, g, rfl, hspoiled⟩
    · exact Or.inr (Or.inl ⟨d, reports_of_gives hrun nofun⟩)
    · exact Or.inr (Or.inr ⟨p, hp, g, outcome_of_fault hrun, hspoiled⟩)

def Loads (t : FileTree) (target : String) (settings : Settings) : Prop :=
  ∃ config registry modules, configFor t (Path.ofText target) settings = .ok config ∧
    (registryFor t (Path.ofText target) settings.checks).Gives (.ok registry) ∧
    (Module.loadAll t (Path.ofText target)).Gives (.ok modules)

def Refused (t : FileTree) (target : Path) (s : Settings) (f : Failure) : Prop :=
  (∃ e, f = .config e) ∨
  (∃ p, MayConfigure t target s p ∧ t.Refused ScanConfig.Unreadable p f) ∨
  Checks.FilesRefused t (checksFiles t target s.checks) f ∨ Module.Refused t target f

theorem loads_or_refused (t : FileTree) (target : String) (settings : Settings) :
    Loads t target settings ∨ ∃ e, (scanTarget t (Path.ofText target) settings).Gives (.error e) ∧
      Refused t (Path.ofText target) settings e := by
  cases hconfig : configFor t (Path.ofText target) settings with
  | error e =>
    refine Or.inr ⟨e, (Run.gives_lift hconfig).bind_error _, ?_⟩
    exact (refused_configFor t _ _ e hconfig).imp_right Or.inl
  | ok config =>
    rcases (refused_registryFor t (Path.ofText target) settings.checks).cases with
      ⟨registry, hregistry⟩ | ⟨e, he, hrefused⟩
    · rcases (Module.failsOnly_loadAll (t := t) (Path.ofText target)).cases with
        ⟨modules, hmodules⟩ | ⟨e, he, hrefused⟩
      · exact Or.inl ⟨config, registry, modules, hconfig, hregistry, hmodules⟩
      · refine Or.inr ⟨e, (Run.gives_lift hconfig).bind_ok ?_, Or.inr (Or.inr (Or.inr hrefused))⟩
        exact hregistry.bind_ok (he.bind_error _)
    · refine Or.inr ⟨e, (Run.gives_lift hconfig).bind_ok ?_, Or.inr (Or.inr (Or.inl hrefused))⟩
      exact he.bind_error _

theorem scan_cases (t : FileTree) (target : String) (settings : Settings) :
    Loads t target settings ∨ (∃ e, Reports t (.scan target settings) e) ∨
    ∃ f, (Command.scan target settings).outcome t = .error f ∧
      Refused t (Path.ofText target) settings (.fault f) := by
  rcases loads_or_refused t target settings with hloads | ⟨e, he, hrefused⟩
  · exact Or.inl hloads
  · have hrun : ((Command.scan target settings).run t).Gives (.error e) := he.bind_error _
    cases e with
    | checks d => exact Or.inr (Or.inl ⟨_, reports_of_gives hrun nofun⟩)
    | config d => exact Or.inr (Or.inl ⟨_, reports_of_gives hrun nofun⟩)
    | fault f => exact Or.inr (Or.inr ⟨f, outcome_of_fault hrun, hrefused⟩)

/-- What cannot be loaded is reported with the exit code three, unless an escape or a scalar names a value
that does not exist, the workers are infinite, or a file is no text.

A document in which an alias is for a collection around it has no value here, and nothing is said of it.
Nor is anything said of what comes first in a file that is no text, if it is longer than a block. -/
theorem loading_reports_unless_faulty (source : String) (s : List Char) (root : Yaml.Node)
    (es : List Entry) (t : FileTree) (p : Path) (bytes : ByteArray) (paths : List String)
    (target : String) (settings : Settings) :
    (Yaml.IsFinite s → ErrorsIn (Checks.Refused s) (Checks.read source s)) ∧
    (Json.read? s = none → Yaml.FollowsGrammar root s →
      ((∃ f, Checks.read source s = .error (.fault f)) ↔
        ∃ n f, root.Met n ∧ root.IllFormed n f)) ∧
    ErrorsIn (ScanConfig.Refused es) (ScanConfig.ofEntries es) ∧
    (∀ f, ScanConfig.ofEntries es = .error (.fault f) ↔ f = .numberTooLarge ∧
      (∃ negative, Value.lookup? "workers" es = some (.float (.infinite negative))) ∧
      ∃ c, ScanConfig.ofEntries (Value.without "workers" es) = .ok c) ∧
    ErrorsIn (t.Refused Yaml.Unreadable p) (Template.ofFile t p) ∧
    (t.reached p = .file bytes → FileTree.textOf bytes = .ok s → Yaml.FollowsGrammar root s →
      ((∃ f, Template.ofFile t p = .error (.fault f)) ↔ ∃ n f, root.Met n ∧ root.IllFormed n f)) ∧
    (t.reached p = .file bytes → bytes.size < 4096 → String.fromUTF8? bytes = none →
      Template.ofFile t p = .error (.fault .notText)) ∧
    ((∀ p ∈ Checks.filesOf t paths, t.IsFinite p) →
      Validates t paths ∨ (∃ e, Reports t (.validate paths) (.checks e)) ∨
        ∃ p ∈ Checks.filesOf t paths, ∃ f,
          (Command.validate paths).outcome t = .error f ∧ t.Spoiled Checks.Unreadable p f) ∧
    ((∀ p, MayConfigure t (Path.ofText target) settings p ∨
        p ∈ checksFiles t (Path.ofText target) settings.checks → t.IsFinite p) →
      Loads t target settings ∨ (∃ e, Reports t (.scan target settings) e) ∨
        ∃ f, (Command.scan target settings).outcome t = .error f ∧
          Refused t (Path.ofText target) settings (.fault f)) := by
  refine ⟨fun _ => Checks.errorsIn_read source s, fun hjson hroot => ?_,
    ScanConfig.errorsIn_ofEntries es, fun f => ScanConfig.ofEntries_eq_fault_iff,
    Template.refused_ofFile t p, fun hfile hs hroot => ?_,
    fun hfile _ => Template.ofFile_of_not_text hfile, fun _ => validate_cases t paths,
    fun _ => scan_cases t target settings⟩
  · exact Checks.exists_read_eq_fault_iff source hjson hroot
  · exact Template.exists_ofFile_eq_fault_iff hfile hs hroot

/-- A checks file whose only fault is a day that no month has. -/
def impossibleDay : List Char :=
  ["checks:\n", "- code: C1\n", "  description: 2020-02-30\n"].flatMap String.toList

theorem read?_impossibleDay : Json.read? impossibleDay = none :=
  Option.isNone_iff_eq_none.mp (by decide +kernel)

theorem read_impossibleDay (tracked : Bool) :
    Yaml.read tracked impossibleDay = .error .impossibleMoment := by
  have hyaml : (match Yaml.read tracked impossibleDay with
      | .ok _ => false
      | .error f => decide (f = .impossibleMoment)) = true := by
    cases tracked <;> decide +kernel
  cases h : Yaml.read tracked impossibleDay with
  | ok v =>
    rw [h] at hyaml
    cases hyaml
  | error f =>
    rw [h] at hyaml
    rw [of_decide_eq_true hyaml]

theorem followsGrammar_impossibleDay : ∃ root, Yaml.FollowsGrammar root impossibleDay := by
  have hordinary := Yaml.of_rootOf (p := Yaml.Node.everyNode Yaml.Node.isOrdinary)
    (s := impossibleDay) (by decide +kernel)
  have hsome : ((Yaml.rootOf impossibleDay).toOption.bind id).isSome = true := by decide +kernel
  obtain ⟨root, hroot⟩ := Yaml.exists_rootOf hsome
  exact ⟨root, Yaml.followsGrammar_of_isOrdinary (by decide +kernel) hroot (hordinary root hroot)⟩

def dayPath : Path := ⟨"", ["main.tf.json"]⟩

def calendar : FileTree := Template.oneFile (String.ofList impossibleDay)

theorem textOf_impossibleDay :
    FileTree.textOf (String.ofList impossibleDay).toUTF8 = .ok impossibleDay := by
  rw [Template.textOf_toUTF8, String.toList_ofList]
  decide +kernel

theorem isFinite_calendar (p : Path) : calendar.IsFinite p := by
  refine FileTree.isFinite_of_nodes (fun place bytes s hmem hs => ?_) p
  cases List.mem_singleton.mp hmem
  cases textOf_impossibleDay.symm.trans hs
  obtain ⟨root, hroot⟩ := followsGrammar_impossibleDay
  exact hroot.isFinite

def strayByte : FileTree := ⟨[], [(["t.tf.json"], .file ⟨#[0xff]⟩)]⟩

theorem loading_reports_unless_faulty_impossibleDay :
    (∃ f, Checks.read "<memory>" impossibleDay = .error (.fault f)) ∧
    (∃ f, Template.ofFile calendar dayPath = .error (.fault f)) ∧
    Template.ofFile strayByte ⟨"", ["t.tf.json"]⟩ = .error (.fault .notText) ∧
    (Validates calendar ["main.tf.json"] ∨
      (∃ e, Reports calendar (.validate ["main.tf.json"]) (.checks e)) ∨
      ∃ p ∈ Checks.filesOf calendar ["main.tf.json"], ∃ f,
        (Command.validate ["main.tf.json"]).outcome calendar = .error f ∧
          calendar.Spoiled Checks.Unreadable p f) ∧
    (Loads calendar "." .initial ∨ (∃ e, Reports calendar (.scan "." .initial) e) ∨
      ∃ f, (Command.scan "." .initial).outcome calendar = .error f ∧
        Refused calendar (Path.ofText ".") .initial (.fault f)) := by
  obtain ⟨root, hroot⟩ := followsGrammar_impossibleDay
  obtain ⟨-, hchecks, -, -, -, htemplate, -, hvalidate, hscan⟩ := loading_reports_unless_faulty
    "<memory>" impossibleDay root [] calendar dayPath (String.ofList impossibleDay).toUTF8
    ["main.tf.json"] "." .initial
  obtain ⟨-, -, -, -, -, -, hbytes, -⟩ := loading_reports_unless_faulty "<memory>" [] root []
    strayByte ⟨"", ["t.tf.json"]⟩ ⟨#[0xff]⟩ [] "." .initial
  have hill := hroot.exists_illFormed (read_impossibleDay false)
  refine ⟨(hchecks read?_impossibleDay hroot).mpr hill, ?_, hbytes rfl (by decide) rfl,
    hvalidate fun p _ => isFinite_calendar p, hscan fun p _ => isFinite_calendar p⟩
  exact (htemplate (Template.reached_oneFile _) textOf_impossibleDay hroot).mpr hill

/-- No error is reported for the day, for infinitely many workers and for bytes that are no text. -/
theorem loading_faults :
    Checks.read "<memory>" impossibleDay = .error (.fault .impossibleMoment) ∧
    ScanConfig.ofEntries [(.str "workers", .float (.infinite false))] =
      .error (.fault .numberTooLarge) ∧
    Template.ofFile strayByte ⟨"", ["t.tf.json"]⟩ = .error (.fault .notText) :=
  ⟨Checks.read_of_yaml_error "<memory>" read?_impossibleDay (read_impossibleDay false) nofun, rfl,
    Template.ofFile_of_not_text rfl rfl⟩

end BlockAudit.CommandLine
