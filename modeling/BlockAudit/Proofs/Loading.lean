import BlockAudit.Proofs.Checks.Registry
import BlockAudit.Proofs.Config.Reading
import BlockAudit.Proofs.FileTree.Directory
import BlockAudit.Proofs.Yaml.Unreadable
import BlockAudit.Template.Read

namespace BlockAudit

def FileTree.Spoiled (bad : List Char → Fault → Prop) (t : FileTree) (p : Path) (f : Fault) : Prop :=
  ∃ bytes, t.reached p = .file bytes ∧
    (String.fromUTF8? bytes = none ∨ ∃ s, FileTree.textOf bytes = .ok s ∧ bad s f)

def FileTree.IsFinite (t : FileTree) (p : Path) : Prop :=
  ∀ s, t.text? p = .ok (some s) → Yaml.IsFinite s

def FileTree.Refused (bad : List Char → Fault → Prop) (t : FileTree) (p : Path) (f : Failure) :
    Prop :=
  (∃ e, f = .config e) ∨ ∃ g, f = .fault g ∧
    (t.isDirectory p = true ∧ g = .isDirectory ∨ t.Spoiled bad p g)

namespace FileTree

variable {bad : List Char → Fault → Prop} {t : FileTree} {p : Path} {s : List Char} {f : Fault}

theorem textOf_eq_error_iff {bytes : ByteArray} :
    textOf bytes = .error f ↔ String.fromUTF8? bytes = none ∧ f = .notText := by
  unfold textOf
  split
  · next hbytes => simp [hbytes]
  · next hbytes => simp [hbytes, eq_comm]

theorem text?_eq_some (h : t.text? p = .ok (some s)) :
    ∃ bytes, t.reached p = .file bytes ∧ textOf bytes = .ok s := by
  unfold text? at h
  split at h
  · next bytes hbytes =>
    refine ⟨bytes, hbytes, ?_⟩
    cases hs : textOf bytes <;> rw [hs] at h <;> cases h
    rfl
  · cases h
  · cases h

theorem isFinite_of_nodes (h : ∀ place bytes s, (place, Content.file bytes) ∈ t.nodes →
    textOf bytes = .ok s → Yaml.IsFinite s) (p : Path) : t.IsFinite p := by
  intro s hs
  obtain ⟨bytes, hbytes, htext⟩ := text?_eq_some hs
  obtain ⟨place, hplace⟩ := exists_mem_nodes hbytes
  exact h place bytes s hplace htext

theorem text?_eq_error (h : t.text? p = .error f) :
    t.isDirectory p = true ∧ f = .isDirectory ∨ t.Spoiled bad p f := by
  unfold text? at h
  split at h
  · next bytes hbytes =>
    cases hs : textOf bytes with
    | ok s =>
      rw [hs] at h
      cases h
    | error g =>
      rw [hs] at h
      cases h
      exact Or.inr ⟨bytes, hbytes, Or.inl (textOf_eq_error_iff.mp hs).1⟩
  · next hdirectory =>
    cases h
    exact Or.inl ⟨by rw [isDirectory, hdirectory], rfl⟩
  · cases h

theorem spoiled_of_text (h : t.text? p = .ok (some s)) (hbad : bad s f) : t.Spoiled bad p f := by
  obtain ⟨bytes, hbytes, hs⟩ := text?_eq_some h
  exact ⟨bytes, hbytes, Or.inr ⟨s, hs, hbad⟩⟩

theorem refused_config (e : ConfigError) : t.Refused bad p (.config e) := Or.inl ⟨e, rfl⟩

theorem refused_of_text?_eq_error (h : t.text? p = .error f) : t.Refused bad p (.fault f) :=
  Or.inr ⟨f, rfl, text?_eq_error h⟩

theorem refused_of_text (h : t.text? p = .ok (some s)) (hbad : bad s f) :
    t.Refused bad p (.fault f) :=
  Or.inr ⟨f, rfl, Or.inr (spoiled_of_text h hbad)⟩

theorem not_isDirectory_of_isFile (h : t.isFile p = true) : t.isDirectory p = false := by
  unfold isFile at h
  unfold isDirectory
  split at h
  · next hfile => rw [hfile]
  · cases h

theorem isSome_of_isFile {s? : Option (List Char)} (h : t.isFile p = true)
    (hs : t.text? p = .ok s?) : ∃ s, s? = some s := by
  unfold isFile at h
  unfold text? at hs
  split at h
  · next bytes hfile =>
    rw [hfile] at hs
    dsimp only at hs
    cases htext : textOf bytes <;> rw [htext] at hs <;> cases hs
    exact ⟨_, rfl⟩
  · cases h

end FileTree

theorem Yaml.FollowsGrammar.exists_fault_iff {α : Type} {x : Except Failure α} {s : List Char}
    {root : Yaml.Node} (h : Yaml.FollowsGrammar root s) (tracked : Bool)
    (hok : ∀ v f, Yaml.read tracked s = .ok v → x ≠ .error (.fault f))
    (herror : ∀ f, Yaml.read tracked s = .error f → f ≠ .malformedDocument →
      x = .error (.fault f)) :
    (∃ f, x = .error (.fault f)) ↔ ∃ n f, root.Met n ∧ root.IllFormed n f := by
  rcases h.read_cases tracked with ⟨v, hv, hwell⟩ | ⟨n, f, hn, hill, hf, hread⟩
  · refine ⟨fun ⟨f, hf⟩ => absurd hf (hok v f hv), ?_⟩
    rintro ⟨n, f, hn, hill⟩
    exact absurd (hwell n hn) hill.not_wellFormed
  · exact ⟨fun _ => ⟨n, f, hn, hill⟩, fun _ => ⟨f, herror f hread hf⟩⟩

namespace Checks

def Unreadable (s : List Char) (f : Fault) : Prop := Json.read? s = none ∧ Yaml.Unreadable s f

def Refused (s : List Char) (f : Failure) : Prop :=
  (∃ e, f = .checks e) ∨ ∃ g, f = .fault g ∧ Unreadable s g

def FilesRefused (t : FileTree) (ps : List Path) (f : Failure) : Prop :=
  (∃ e, f = .checks e) ∨ ∃ p ∈ ps, ∃ g, f = .fault g ∧ t.Spoiled Unreadable p g

variable {t : FileTree} {p : Path} {ps : List Path} {s : List Char} {f : Fault}

/-- A text with a value is JSON, or a document without aliases for collections around them. -/
theorem exists_json_or_isFinite {source : String} {v : Value} (h : readDocument source s = .ok v) :
    Json.read? s = some v ∨ Yaml.IsFinite s := by
  unfold readDocument at h
  split at h
  · next hjson =>
    cases h
    exact Or.inl hjson
  · split at h
    · next hyaml => exact Or.inr (Yaml.isFinite_of_read hyaml)
    · cases h
    · cases h

theorem errorsIn_readDocument (source : String) (s : List Char) :
    ErrorsIn (Refused s) (readDocument source s) := by
  unfold readDocument
  split
  · exact errorsIn_ok _
  · next hjson =>
    split
    · exact errorsIn_ok _
    · exact errorsIn_error (Or.inl ⟨_, rfl⟩)
    · next g hg hyaml =>
      have hyaml := (Yaml.unreadable_of_read hyaml).resolve_left hg
      exact errorsIn_error (Or.inr ⟨g, rfl, hjson, hyaml⟩)

theorem errorsIn_read (source : String) (s : List Char) : ErrorsIn (Refused s) (read source s) := by
  refine (errorsIn_readDocument source s).bind fun v f hf => ?_
  obtain ⟨e, -, rfl⟩ := mapError_eq_error.mp hf
  exact Or.inl ⟨e, rfl⟩

theorem read_of_yaml_error (source : String) (hjson : Json.read? s = none)
    (hyaml : Yaml.read false s = .error f) (hf : f ≠ .malformedDocument) :
    read source s = .error (.fault f) := by
  have hdocument : readDocument source s = .error (.fault f) := by
    rw [readDocument, hjson, hyaml]
    dsimp only
    split
    · next heq => cases heq
    · next heq => exact absurd (Except.error.inj heq) hf
    · next heq => rw [Except.error.inj heq]
  rw [read, hdocument]
  rfl

theorem read_ne_fault_of_yaml_ok (source : String) (hjson : Json.read? s = none) {v : Value}
    (hyaml : Yaml.read false s = .ok v) : read source s ≠ .error (.fault f) := by
  have hdocument : readDocument source s = .ok v := by rw [readDocument, hjson, hyaml]
  rw [read, hdocument, ok_bind]
  intro h
  obtain ⟨e, -, he⟩ := mapError_eq_error.mp h
  cases he

theorem exists_read_eq_fault_iff (source : String) (hjson : Json.read? s = none) {root : Yaml.Node}
    (h : Yaml.FollowsGrammar root s) : (∃ f, read source s = .error (.fault f)) ↔
      ∃ n f, root.Met n ∧ root.IllFormed n f :=
  h.exists_fault_iff false (fun _ _ => read_ne_fault_of_yaml_ok source hjson)
    fun _ => read_of_yaml_error source hjson

theorem errorsIn_ofFile (t : FileTree) (p : Path) : ErrorsIn (FilesRefused t [p]) (ofFile t p) := by
  have hfault : ∀ g, t.Spoiled Unreadable p g → FilesRefused t [p] (.fault g) :=
    fun g hg => Or.inr ⟨p, List.mem_singleton_self p, g, rfl, hg⟩
  unfold ofFile
  split
  · next hfile =>
    split
    · next hs =>
      obtain ⟨s, rfl⟩ := FileTree.isSome_of_isFile hfile hs
      refine (errorsIn_read p.text s).mono fun f hf => hf.imp_right ?_
      rintro ⟨g, rfl, hg⟩
      exact ⟨p, List.mem_singleton_self p, g, rfl, FileTree.spoiled_of_text hs hg⟩
    · next g hg =>
      rcases FileTree.text?_eq_error hg with ⟨hdirectory, -⟩ | hspoiled
      · rw [FileTree.not_isDirectory_of_isFile hfile] at hdirectory
        cases hdirectory
      · exact errorsIn_error (hfault g hspoiled)
  · exact errorsIn_error (Or.inl ⟨_, rfl⟩)

theorem FilesRefused.mono {qs : List Path} {f : Failure} (h : FilesRefused t ps f)
    (hsub : ∀ p ∈ ps, p ∈ qs) : FilesRefused t qs f :=
  h.imp_right fun ⟨p, hp, hfault⟩ => ⟨p, hsub p hp, hfault⟩

theorem failsOnly_ofFiles (t : FileTree) (ps : List Path) :
    (ofFiles t ps).FailsOnly (FilesRefused t ps) := by
  have hall : ∀ qs : List Path, (∀ p ∈ qs, p ∈ ps) → (ofFiles t qs).FailsOnly (FilesRefused t ps) := by
    intro qs
    induction qs with
    | nil => exact fun _ => Run.failsOnly_pure _
    | cons p qs ih =>
      intro hsub
      obtain ⟨hp, hqs⟩ := List.forall_mem_cons.mp hsub
      refine (Run.failsOnly_lift ?_).bind fun _ => (Run.failsOnly_note _).bind fun _ =>
        (ih hqs).bind fun _ => Run.failsOnly_pure _
      exact (errorsIn_ofFile t p).mono fun _ hf => hf.mono (by simpa using hp)
  exact hall ps fun _ => id

theorem failsOnly_registryOf (t : FileTree) (paths : List String) :
    (registryOf t paths).FailsOnly (FilesRefused t (filesOf t paths)) := by
  refine (failsOnly_ofFiles t _).bind fun cs => (Run.failsOnly_lift ?_).bind fun _ =>
    (Run.failsOnly_note _).bind fun _ => Run.failsOnly_pure _
  intro f hf
  obtain ⟨e, -, rfl⟩ := mapError_eq_error.mp hf
  exact Or.inl ⟨e, rfl⟩

end Checks

namespace ScanConfig

def Unreadable (s : List Char) (f : Fault) : Prop :=
  Yaml.Unreadable s f ∨ ∃ es, Yaml.read false s = .ok (.map es) ∧ Refused es (.fault f)

theorem refused_ofFile (t : FileTree) (p : Path) : ErrorsIn (t.Refused Unreadable p) (ofFile t p) := by
  unfold ofFile
  split
  · next s hs =>
    unfold read
    split
    · exact errorsIn_error (FileTree.refused_config _)
    · next g hg hyaml =>
      have hyaml := (Yaml.unreadable_of_read hyaml).resolve_left hg
      exact errorsIn_error (FileTree.refused_of_text hs (Or.inl hyaml))
    · exact errorsIn_ok _
    · next es hyaml =>
      refine (errorsIn_ofEntries es).mono fun f hf => ?_
      cases f with
      | checks e => rcases hf with ⟨_, he⟩ | ⟨he, -⟩ <;> cases he
      | config e => exact FileTree.refused_config e
      | fault g => exact FileTree.refused_of_text hs (Or.inr ⟨es, hyaml, hf⟩)
    · exact errorsIn_error (FileTree.refused_config _)
  · exact errorsIn_error (FileTree.refused_config _)
  · next hg => exact errorsIn_error (FileTree.refused_of_text?_eq_error hg)

end ScanConfig

namespace Template

variable {t : FileTree} {p : Path} {bytes : ByteArray} {s : List Char} {f : Fault}

theorem refused_ofFile (t : FileTree) (p : Path) :
    ErrorsIn (t.Refused Yaml.Unreadable p) (ofFile t p) := by
  unfold ofFile
  split
  · next s hs =>
    refine ErrorsIn.bind ?_ fun v => ?_
    · unfold readDocument
      split
      · exact errorsIn_ok _
      · split
        · exact errorsIn_ok _
        · exact errorsIn_error (FileTree.refused_config _)
      · next g hg hyaml =>
        have hyaml := (Yaml.unreadable_of_read hyaml).resolve_left hg
        exact errorsIn_error (FileTree.refused_of_text hs hyaml)
    · split
      · exact errorsIn_ok _
      · exact errorsIn_ok _
      · exact errorsIn_error (FileTree.refused_config _)
  · exact errorsIn_ok _
  · next hg => exact errorsIn_error (FileTree.refused_of_text?_eq_error hg)

theorem ofFile_of_not_text (h : t.reached p = .file bytes) (hbytes : String.fromUTF8? bytes = none) :
    ofFile t p = .error (.fault .notText) := by
  have htext : t.text? p = .error .notText := by
    rw [FileTree.text?, h]
    dsimp only
    rw [FileTree.textOf_eq_error_iff.mpr ⟨hbytes, rfl⟩]
    rfl
  rw [ofFile, htext]

theorem ofFile_of_text (h : t.reached p = .file bytes) (hs : FileTree.textOf bytes = .ok s) :
    ofFile t p = read p.text s := by
  have htext : t.text? p = .ok (some s) := by
    rw [FileTree.text?, h]
    dsimp only
    rw [hs]
    rfl
  rw [ofFile, htext]

theorem read_of_yaml_error (path : String) (hyaml : Yaml.read true s = .error f)
    (hf : f ≠ .malformedDocument) : read path s = .error (.fault f) := by
  have hdocument : readDocument path s = .error (.fault f) := by
    rw [readDocument, hyaml]
    split
    · next heq => cases heq
    · next heq => exact absurd (Except.error.inj heq) hf
    · next heq => rw [Except.error.inj heq]
  rw [read, hdocument]
  rfl

theorem read_ne_fault_of_yaml_ok (path : String) {v : Value} (hyaml : Yaml.read true s = .ok v) :
    read path s ≠ .error (.fault f) := by
  have hdocument : readDocument path s = .ok v := by rw [readDocument, hyaml]
  rw [read, hdocument, ok_bind]
  cases v <;> exact nofun

theorem exists_ofFile_eq_fault_iff (h : t.reached p = .file bytes)
    (hs : FileTree.textOf bytes = .ok s) {root : Yaml.Node} (hroot : Yaml.FollowsGrammar root s) :
    (∃ f, ofFile t p = .error (.fault f)) ↔ ∃ n f, root.Met n ∧ root.IllFormed n f := by
  rw [ofFile_of_text h hs]
  exact hroot.exists_fault_iff true (fun _ _ => read_ne_fault_of_yaml_ok p.text)
    fun _ => read_of_yaml_error p.text

end Template
end BlockAudit
