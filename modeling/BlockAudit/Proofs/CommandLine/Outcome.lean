import BlockAudit.CommandLine.Run
import BlockAudit.Proofs.Loading

namespace BlockAudit.CommandLine

variable {t : FileTree} {c : Command} {o : Outcome}

def Reports (t : FileTree) (c : Command) (e : Failure) : Prop :=
  ∃ o, c.outcome t = .ok o ∧ o.error = some e ∧ o.exitCode = 3

theorem outcome_cases (t : FileTree) (c : Command) :
    (∃ o, c.outcome t = .ok o ∧ o.error = none ∧ (c.run t).start.1 = .ok (o.exitCode, o.tree)) ∨
    (∃ e, Reports t c e ∧ (c.run t).start.1 = .error e ∧ ∀ f, e ≠ .fault f) ∨
    ∃ f, c.outcome t = .error f ∧ (c.run t).start.1 = .error (.fault f) := by
  unfold Reports Command.outcome
  rcases (c.run t).start with ⟨e | ⟨code, tree⟩, notices, output⟩
  · cases e with
    | checks e => exact Or.inr (Or.inl ⟨_, ⟨_, rfl, rfl, rfl⟩, rfl, nofun⟩)
    | config e => exact Or.inr (Or.inl ⟨_, ⟨_, rfl, rfl, rfl⟩, rfl, nofun⟩)
    | fault f => exact Or.inr (Or.inr ⟨f, rfl, rfl⟩)
  · exact Or.inl ⟨_, rfl, rfl, rfl⟩

theorem outcome_of_ok {code : Nat} {tree : FileTree} (h : (c.run t).start.1 = .ok (code, tree)) :
    ∃ o, c.outcome t = .ok o ∧ o.exitCode = code := by
  rcases outcome_cases t c with ⟨o, ho, -, hok⟩ | ⟨e, -, herror, -⟩ | ⟨f, -, herror⟩
  · cases h.symm.trans hok
    exact ⟨o, ho, rfl⟩
  · cases h.symm.trans herror
  · cases h.symm.trans herror

theorem exitCode_of_error {e : Failure} (h : (c.run t).start.1 = .error e)
    (ho : c.outcome t = .ok o) : o.exitCode = 3 := by
  rcases outcome_cases t c with ⟨o', -, -, hok⟩ | ⟨e', ⟨o', ho', -, hcode⟩, -⟩ | ⟨f, hf, -⟩
  · cases h.symm.trans hok
  · cases ho.symm.trans ho'
    exact hcode
  · cases ho.symm.trans hf

theorem start_of_outcome_error {e : Failure} (ho : c.outcome t = .ok o) (he : o.error = some e) :
    (c.run t).start.1 = .error e := by
  rcases outcome_cases t c with ⟨o', ho', hnone, -⟩ | ⟨e', ⟨o', ho', he', -⟩, herror, -⟩ | ⟨f, hf, -⟩
  · cases ho.symm.trans ho'
    cases he.symm.trans hnone
  · cases ho.symm.trans ho'
    cases he.symm.trans he'
    exact herror
  · cases ho.symm.trans hf

theorem reports_of_gives {e : Failure} (h : (c.run t).Gives (.error e)) (he : ∀ f, e ≠ .fault f) :
    Reports t c e := by
  have hstart := h.start_fst
  rcases outcome_cases t c with ⟨o, -, -, hok⟩ | ⟨d, hd, herror, -⟩ | ⟨f, -, herror⟩
  · cases hstart.symm.trans hok
  · cases hstart.symm.trans herror
    exact hd
  · cases hstart.symm.trans herror
    exact absurd rfl (he f)

theorem outcome_of_fault {f : Fault} (h : (c.run t).Gives (.error (.fault f))) :
    c.outcome t = .error f := by
  have hstart := h.start_fst
  rcases outcome_cases t c with ⟨o, -, -, hok⟩ | ⟨d, -, herror, hd⟩ | ⟨g, hg, herror⟩
  · cases hstart.symm.trans hok
  · cases hstart.symm.trans herror
    exact absurd rfl (hd f)
  · cases hstart.symm.trans herror
    exact hg

def MayConfigure (t : FileTree) (target : Path) (s : Settings) (p : Path) : Prop :=
  s.config.map Path.ofText = some p ∨ ScanConfig.find? t target = some p

theorem refused_orDefault (t : FileTree) (path? : Option Path) :
    ErrorsIn (fun f => ∃ p, path? = some p ∧ t.Refused ScanConfig.Unreadable p f)
      (orDefault path? t) := by
  cases path? with
  | none => exact errorsIn_ok _
  | some p => exact (ScanConfig.refused_ofFile t p).mono fun f hf => ⟨p, rfl, hf⟩

theorem refused_configFor (t : FileTree) (target : Path) (s : Settings) :
    ErrorsIn (fun f => (∃ e, f = .config e) ∨
      ∃ p, MayConfigure t target s p ∧ t.Refused ScanConfig.Unreadable p f)
      (configFor t target s) := by
  refine ErrorsIn.bind ?_ fun config f hf => ?_
  · refine (refused_orDefault t _).mono fun f ⟨p, hp, hf⟩ => Or.inr ⟨p, ?_, hf⟩
    split at hp
    · next text htext =>
      cases hp
      rw [MayConfigure, (Option.filter_eq_some_iff.mp htext).1]
      exact Or.inl rfl
    · exact Or.inr hp
  · rcases ScanConfig.errorsIn_merged config _ _ _ f hf with hconfig | ⟨-, negative, hworkers⟩
    · exact Or.inl hconfig
    · cases hcount : s.workers <;> rw [hcount] at hworkers <;> cases hworkers

def checksFiles (t : FileTree) (target : Path) (paths : List String) : List Path :=
  Checks.filesOf t ((target.file ScanConfig.directoryName).text :: paths)

theorem refused_registryFor (t : FileTree) (target : Path) (paths : List String) :
    (registryFor t target paths).FailsOnly (Checks.FilesRefused t (checksFiles t target paths)) := by
  unfold registryFor
  dsimp only
  have hfiles : ∀ searched, searched ⊆ (target.file ScanConfig.directoryName).text :: paths →
      (Checks.registryOf t searched).FailsOnly (Checks.FilesRefused t (checksFiles t target paths)) :=
    fun searched hsub => (Checks.failsOnly_registryOf t searched).mono fun f hf =>
      hf.mono fun p hp => Checks.filesOf_subset hsub hp
  refine (hfiles _ ?_).bind fun registry => ?_
  · cases paths with
    | nil => split <;> simp
    | cons path paths => simp
  · split
    · exact (Run.failsOnly_note _).bind fun _ => Run.failsOnly_pure _
    · exact Run.failsOnly_pure _

end BlockAudit.CommandLine
