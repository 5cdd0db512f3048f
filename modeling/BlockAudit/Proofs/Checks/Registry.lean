import BlockAudit.Checks.Files
import BlockAudit.Proofs.Checks.Decoding
import BlockAudit.Proofs.FileTree.Directory
import BlockAudit.Proofs.Run
import Mathlib.Data.List.Nodup

namespace BlockAudit

namespace Registry

variable {r : Registry} {c first : Check} {cs before after : List Check} {code : String}

theorem find?_eq_some : r.find? code = some c ↔ c ∈ r.checks ∧ c.code = code := by
  constructor
  · intro h
    exact ⟨List.mem_of_find?_eq_some h, by simpa using List.find?_some h⟩
  · rintro ⟨hmem, rfl⟩
    cases hfind : r.find? c.code with
    | none => exact absurd (List.mem_map_of_mem hmem) (not_mem_codes hfind)
    | some d =>
      have hd : d.code = c.code := by simpa using List.find?_some hfind
      rw [List.inj_on_of_nodup_map r.codes_nodup (List.mem_of_find?_eq_some hfind) hmem hd]

theorem add_of_not_mem (h : c.code ∉ r.codes) :
    ∃ r', r.add c = .ok r' ∧ r'.checks = r.checks ++ [c] := by
  unfold add
  split
  · next first hfind =>
    obtain ⟨hmem, hcode⟩ := find?_eq_some.mp hfind
    exact absurd (hcode ▸ List.mem_map_of_mem hmem) h
  · exact ⟨_, rfl, rfl⟩

theorem add_of_mem (hmem : first ∈ r.checks) (hcode : first.code = c.code) :
    r.add c = .error (duplicate first c) := by
  have hfind := find?_eq_some.mpr ⟨hmem, hcode⟩
  unfold add
  split
  · next d hd =>
    rw [hfind, Option.some.injEq] at hd
    rw [hd]
  · next hnone =>
    rw [hfind] at hnone
    cases hnone

theorem addAll_append (r : Registry) (before after : List Check) :
    r.addAll (before ++ after) = r.addAll before >>= (addAll · after) := by
  induction before generalizing r with
  | nil => rfl
  | cons c before ih =>
    rw [List.cons_append, addAll, addAll]
    cases r.add c with
    | ok r' => exact ih r'
    | error e => rfl

theorem addAll_of_nodup (h : ((r.checks ++ cs).map Check.code).Nodup) :
    ∃ r', r.addAll cs = .ok r' ∧ r'.checks = r.checks ++ cs := by
  induction cs generalizing r with
  | nil => exact ⟨r, rfl, (List.append_nil _).symm⟩
  | cons c cs ih =>
    have hc : c.code ∉ r.codes := by
      rw [List.map_append, List.nodup_append] at h
      exact fun hmem => h.2.2 _ hmem _ (by simp) rfl
    obtain ⟨r', hadd, hchecks⟩ := add_of_not_mem hc
    rw [List.append_cons, ← hchecks] at h ⊢
    obtain ⟨r'', haddAll, hall⟩ := ih h
    refine ⟨r'', ?_, hall⟩
    rw [addAll, hadd]
    exact haddAll

theorem ofChecks_of_nodup (h : (cs.map Check.code).Nodup) :
    ∃ r, ofChecks cs = .ok r ∧ r.checks = cs := by
  have h' : ((empty.checks ++ cs).map Check.code).Nodup := h
  exact addAll_of_nodup h'

theorem ofChecks_of_repeated (hbefore : (before.map Check.code).Nodup) (hmem : first ∈ before)
    (hcode : first.code = c.code) (after : List Check) :
    ofChecks (before ++ c :: after) = .error (duplicate first c) := by
  obtain ⟨r, hr, hchecks⟩ := ofChecks_of_nodup hbefore
  rw [← hchecks] at hmem
  unfold ofChecks at hr ⊢
  rw [addAll_append, hr]
  show r.addAll (c :: after) = _
  rw [addAll, add_of_mem hmem hcode]
  rfl

theorem exists_repeated_after (before : List Check) (hbefore : (before.map Check.code).Nodup)
    (h : ¬((before ++ cs).map Check.code).Nodup) :
    ∃ between c after, cs = between ++ c :: after ∧ ((before ++ between).map Check.code).Nodup ∧
      c.code ∈ (before ++ between).map Check.code := by
  induction cs generalizing before with
  | nil => exact absurd (by rwa [List.append_nil]) h
  | cons c cs ih =>
    by_cases hc : c.code ∈ before.map Check.code
    · exact ⟨[], c, cs, rfl, by rwa [List.append_nil], by rwa [List.append_nil]⟩
    · have hmore : ((before ++ [c]).map Check.code).Nodup := by
        rw [List.map_append, List.nodup_append]
        refine ⟨hbefore, by simp, ?_⟩
        rintro a ha b hb rfl
        simp only [List.map_cons, List.map_nil, List.mem_singleton] at hb
        exact hc (hb ▸ ha)
      rw [List.append_cons] at h
      obtain ⟨between, d, after, rfl, hnodup, hd⟩ := ih _ hmore h
      rw [← List.append_cons] at hnodup hd
      exact ⟨c :: between, d, after, rfl, hnodup, hd⟩

theorem exists_repeated (h : ¬(cs.map Check.code).Nodup) :
    ∃ before c after, cs = before ++ c :: after ∧ (before.map Check.code).Nodup ∧
      c.code ∈ before.map Check.code :=
  exists_repeated_after [] List.nodup_nil h

theorem ofChecks_eq_ok_iff : (∃ r, ofChecks cs = .ok r) ↔ (cs.map Check.code).Nodup := by
  constructor
  · intro ⟨r, hr⟩
    apply Decidable.byContradiction
    intro h
    obtain ⟨before, c, after, rfl, hbefore, hcode⟩ := exists_repeated h
    obtain ⟨first, hmem, hfirst⟩ := List.mem_map.mp hcode
    rw [ofChecks_of_repeated hbefore hmem hfirst] at hr
    cases hr
  · intro h
    obtain ⟨r, hr, -⟩ := ofChecks_of_nodup h
    exact ⟨r, hr⟩

end Registry

namespace Checks

variable {t : FileTree} {p : Path} {ps before after : List Path}

def filesOf (t : FileTree) (paths : List String) : List Path :=
  (paths.map Path.ofText).flatMap (expand t)

def Loads (t : FileTree) (p : Path) : Prop := t.isFile p = true ∧ ∃ cs, ofFile t p = .ok cs

def checksIn (t : FileTree) (p : Path) : List Check := ((ofFile t p).toOption).getD []

def checksOf (t : FileTree) (paths : List String) : List Check :=
  (filesOf t paths).flatMap (checksIn t)

theorem ofFile_of_loads (h : Loads t p) : ofFile t p = .ok (checksIn t p) := by
  obtain ⟨-, cs, hcs⟩ := h
  rw [checksIn, hcs]
  rfl

theorem isFile_of_ofFile {cs : List Check} (h : ofFile t p = .ok cs) : t.isFile p = true := by
  unfold ofFile at h
  split at h
  · assumption
  · cases h

theorem loads_or_fails (t : FileTree) (p : Path) : Loads t p ∨ ∃ f, ofFile t p = .error f := by
  cases h : ofFile t p with
  | ok cs => exact Or.inl ⟨isFile_of_ofFile h, cs, h⟩
  | error f => exact Or.inr ⟨f, rfl⟩

theorem ofFiles_of_loads (h : ∀ p ∈ ps, Loads t p) :
    (ofFiles t ps).Gives (.ok (ps.flatMap (checksIn t))) := by
  induction ps with
  | nil => exact Run.gives_pure []
  | cons p ps ih =>
    rw [List.forall_mem_cons] at h
    refine (Run.gives_lift (ofFile_of_loads h.1)).bind_ok ?_
    refine (Run.gives_note _).bind_ok ?_
    exact (ih h.2).bind_ok (Run.gives_pure _)

theorem ofFiles_of_fails {f : Failure} (hbefore : ∀ q ∈ before, Loads t q)
    (hp : ofFile t p = .error f) (after : List Path) :
    (ofFiles t (before ++ p :: after)).Gives (.error f) := by
  induction before with
  | nil => exact (Run.gives_lift hp).bind_error _
  | cons q before ih =>
    rw [List.forall_mem_cons] at hbefore
    refine (Run.gives_lift (ofFile_of_loads hbefore.1)).bind_ok ?_
    refine (Run.gives_note _).bind_ok ?_
    exact (ih hbefore.2).bind_error _

theorem all_load_or_first_fails (t : FileTree) (ps : List Path) : (∀ p ∈ ps, Loads t p) ∨
    ∃ before p after f, ps = before ++ p :: after ∧ (∀ q ∈ before, Loads t q) ∧
      ofFile t p = .error f := by
  induction ps with
  | nil => exact Or.inl nofun
  | cons p ps ih =>
    rcases loads_or_fails t p with hp | ⟨f, hf⟩
    · rcases ih with hall | ⟨before, q, after, f, rfl, hbefore, hf⟩
      · exact Or.inl (List.forall_mem_cons.mpr ⟨hp, hall⟩)
      · exact Or.inr ⟨p :: before, q, after, f, rfl, List.forall_mem_cons.mpr ⟨hp, hbefore⟩, hf⟩
    · exact Or.inr ⟨[], p, ps, f, rfl, nofun, hf⟩

theorem registryOf_of_loads {paths : List String} (h : ∀ p ∈ filesOf t paths, Loads t p) :
    (registryOf t paths).Gives ((Registry.ofChecks (checksOf t paths)).mapError .checks) := by
  refine (ofFiles_of_loads h).bind_ok ?_
  cases hr : Registry.ofChecks (checksOf t paths) with
  | ok r =>
    refine (Run.gives_lift (mapError_eq_ok.mpr hr)).bind_ok ?_
    exact (Run.gives_note _).bind_ok (Run.gives_pure r)
  | error e => exact (Run.gives_lift (mapError_eq_error.mpr ⟨e, hr, rfl⟩)).bind_error _

theorem registryOf_of_fails {paths : List String} {f : Failure}
    (hfiles : filesOf t paths = before ++ p :: after) (hbefore : ∀ q ∈ before, Loads t q)
    (hp : ofFile t p = .error f) : (registryOf t paths).Gives (.error f) := by
  have hfails := ofFiles_of_fails hbefore hp after
  rw [← hfiles] at hfails
  exact hfails.bind_error _

def Builds (t : FileTree) (paths : List String) (r : Registry) : Prop :=
  (registryOf t paths).start.1 = .ok r

variable {paths : List String} {r : Registry}

theorem builds_iff : Builds t paths r ↔
    (∀ p ∈ filesOf t paths, Loads t p) ∧ Registry.ofChecks (checksOf t paths) = .ok r := by
  rcases all_load_or_first_fails t (filesOf t paths) with hall | hfails
  · rw [Builds, (registryOf_of_loads hall).start_fst, mapError_eq_ok]
    exact ⟨fun h => ⟨hall, h⟩, fun h => h.2⟩
  · obtain ⟨before, p, after, f, hfiles, hbefore, hf⟩ := hfails
    rw [Builds, (registryOf_of_fails hfiles hbefore hf).start_fst]
    refine ⟨nofun, ?_⟩
    rintro ⟨hall, -⟩
    obtain ⟨-, cs, hcs⟩ := hall p (by simp [hfiles])
    rw [hf] at hcs
    cases hcs

theorem Builds.gives (h : Builds t paths r) : (registryOf t paths).Gives (.ok r) := by
  obtain ⟨hall, hr⟩ := builds_iff.mp h
  have hgives := registryOf_of_loads hall
  rwa [hr] at hgives

theorem registryOf_fails (h : ¬∃ r, Builds t paths r) :
    ∃ f, (registryOf t paths).Gives (.error f) := by
  rcases all_load_or_first_fails t (filesOf t paths) with hall | hfails
  · cases hr : Registry.ofChecks (checksOf t paths) with
    | ok r => exact absurd ⟨r, builds_iff.mpr ⟨hall, hr⟩⟩ h
    | error e =>
      have hgives := registryOf_of_loads hall
      rw [hr] at hgives
      exact ⟨.checks e, hgives⟩
  · obtain ⟨before, p, after, f, hfiles, hbefore, hf⟩ := hfails
    exact ⟨f, registryOf_of_fails hfiles hbefore hf⟩

theorem Builds.checks (h : Builds t paths r) : r.checks = checksOf t paths := by
  obtain ⟨-, hr⟩ := builds_iff.mp h
  obtain ⟨r', hr', hchecks⟩ := Registry.ofChecks_of_nodup (Registry.ofChecks_eq_ok_iff.mp ⟨r, hr⟩)
  rw [hr, Except.ok.injEq] at hr'
  rw [hr', hchecks]

theorem exists_builds_iff : (∃ r, Builds t paths r) ↔
    (∀ p ∈ filesOf t paths, Loads t p) ∧ ((checksOf t paths).map Check.code).Nodup := by
  simp only [builds_iff, exists_and_left, Registry.ofChecks_eq_ok_iff]

theorem filesOf_subset {ps qs : List String} (h : ps ⊆ qs) : filesOf t ps ⊆ filesOf t qs := by
  intro p hp
  obtain ⟨path, hpath, hp⟩ := List.mem_flatMap.mp hp
  exact List.mem_flatMap.mpr ⟨path, List.map_subset Path.ofText h hpath, hp⟩

theorem filesOf_append (t : FileTree) (ps qs : List String) :
    filesOf t (ps ++ qs) = filesOf t ps ++ filesOf t qs := by
  simp [filesOf]

theorem checksOf_append (t : FileTree) (ps qs : List String) :
    checksOf t (ps ++ qs) = checksOf t ps ++ checksOf t qs := by
  simp [checksOf, filesOf_append]

theorem exists_builds_append (t : FileTree) (ps qs : List String) :
    (∃ r, Builds t (ps ++ qs) r) ↔ ∃ r r', Builds t ps r ∧ Builds t qs r' ∧
      ∀ code ∈ r.codes, code ∉ r'.codes := by
  rw [exists_builds_iff, filesOf_append, checksOf_append, List.forall_mem_append, List.map_append,
    List.nodup_append]
  constructor
  · rintro ⟨⟨hps, hqs⟩, hpsCodes, hqsCodes, hdisjoint⟩
    obtain ⟨r, hr⟩ := exists_builds_iff.mpr ⟨hps, hpsCodes⟩
    obtain ⟨r', hr'⟩ := exists_builds_iff.mpr ⟨hqs, hqsCodes⟩
    refine ⟨r, r', hr, hr', fun code hcode hcode' => ?_⟩
    rw [Registry.codes, hr.checks] at hcode
    rw [Registry.codes, hr'.checks] at hcode'
    exact hdisjoint code hcode code hcode' rfl
  · rintro ⟨r, r', hr, hr', hdisjoint⟩
    obtain ⟨hps, hpsCodes⟩ := exists_builds_iff.mp ⟨r, hr⟩
    obtain ⟨hqs, hqsCodes⟩ := exists_builds_iff.mp ⟨r', hr'⟩
    refine ⟨⟨hps, hqs⟩, hpsCodes, hqsCodes, ?_⟩
    rintro code hcode code' hcode' rfl
    rw [← hr.checks] at hcode
    rw [← hr'.checks] at hcode'
    exact hdisjoint code hcode hcode'

def Expands (t : FileTree) (p : Path) (files : List Path) : Prop :=
  if t.isDirectory p = true then
    ∃ names : List String, files = names.map p.file ∧ names.Pairwise FileTree.Before ∧
      ∀ name, name ∈ names ↔ FileTree.HasSuffix suffixes name ∧ t.isFile (p.file name) = true
  else files = [p]

theorem expands_expand (h : (t.nodes.map Prod.fst).Nodup) (p : Path) : Expands t p (expand t p) := by
  have habove : ¬FileTree.HasSuffix suffixes ".." := by
    unfold FileTree.HasSuffix
    decide
  unfold Expands expand filesIn
  split
  · exact FileTree.filesIn_sorted h p habove
  · rfl

def Named (p : Path) : Prop := ∀ part ∈ p.parts, part ≠ ""

theorem Named.text_ne_empty (h : Named p) : p.text ≠ "" := by
  obtain ⟨root, parts⟩ := p
  unfold Path.text
  split
  · decide
  · next hnot =>
    simp only [Bool.and_eq_true, String.isEmpty_iff, List.isEmpty_iff, not_and] at hnot
    rw [ne_eq, String.append_eq_empty_iff, not_and]
    intro hroot
    obtain ⟨part, rest, rfl⟩ := List.exists_cons_of_ne_nil (hnot hroot)
    have hpart := h part (List.mem_cons_self ..)
    rw [← String.toList_inj, String.toList_intercalate]
    cases rest <;> simp [hpart]

theorem named_ofText (s : String) : Named (Path.ofText s) := by
  intro part hpart
  simp only [Path.ofText, List.mem_filter, Bool.and_eq_true, bne_iff_ne] at hpart
  exact hpart.2.1

theorem named_of_mem_filesOf {paths : List String} (h : p ∈ filesOf t paths) : Named p := by
  have hempty : ¬FileTree.HasSuffix suffixes "" := by
    unfold FileTree.HasSuffix
    decide
  simp only [filesOf, List.mem_flatMap, List.mem_map] at h
  obtain ⟨-, ⟨s, -, rfl⟩, hp⟩ := h
  unfold expand at hp
  split at hp
  · next hdirectory =>
    rw [filesIn, if_pos hdirectory] at hp
    obtain ⟨name, hsuffix, rfl⟩ := FileTree.exists_of_mem_filesIn hp
    intro part hpart
    rcases List.mem_append.mp hpart with hpart | hpart
    · exact named_ofText s part hpart
    · rw [List.mem_singleton.mp hpart]
      rintro rfl
      exact hempty hsuffix
  · rw [List.mem_singleton] at hp
    exact hp ▸ named_ofText s

theorem source_of_mem_checksIn {c : Check} (h : c ∈ checksIn t p) : c.source = p.text := by
  unfold checksIn at h
  cases hfile : ofFile t p with
  | ok cs =>
    rw [hfile] at h
    unfold ofFile at hfile
    split at hfile
    · split at hfile
      · exact source_of_mem_read hfile c h
      · cases hfile
    · cases hfile
  | error f =>
    rw [hfile] at h
    cases h

theorem source_ne_empty (t : FileTree) (paths : List String) {c : Check} (h : c ∈ checksOf t paths) :
    c.source ≠ "" := by
  obtain ⟨p, hp, hc⟩ := List.mem_flatMap.mp h
  rw [source_of_mem_checksIn hc]
  exact (named_of_mem_filesOf hp).text_ne_empty

theorem ofFile_ne_config (t : FileTree) (p : Path) (e : ConfigError) :
    ofFile t p ≠ .error (.config e) := by
  unfold ofFile
  split
  · split
    · exact read_ne_config _ _ e
    · exact nofun
  · exact nofun

def IsFirstBad (t : FileTree) (paths : List String) (e : ChecksError) : Prop :=
  ∃ before p after, filesOf t paths = before ++ p :: after ∧ (∀ q ∈ before, Loads t q) ∧
    ofFile t p = .error (.checks e)

def IsFirstRepeated (t : FileTree) (paths : List String) (e : ChecksError) : Prop :=
  (∀ p ∈ filesOf t paths, Loads t p) ∧
    ∃ before c after first, checksOf t paths = before ++ c :: after ∧
      (before.map Check.code).Nodup ∧ first ∈ before ∧ first.code = c.code ∧
      e = ⟨.duplicateCode first.source, some c.source, some c.code⟩

theorem registryOf_of_repeated {paths : List String} (hloads : ∀ p ∈ filesOf t paths, Loads t p)
    (h : ¬((checksOf t paths).map Check.code).Nodup) :
    ∃ e, (registryOf t paths).Gives (.error (.checks e)) ∧ IsFirstRepeated t paths e := by
  obtain ⟨before, c, after, hchecks, hbefore, hcode⟩ := Registry.exists_repeated h
  obtain ⟨first, hmem, hfirst⟩ := List.mem_map.mp hcode
  have hduplicate : Registry.duplicate first c =
      ⟨.duplicateCode first.source, some c.source, some c.code⟩ := by
    have hsource : c.source ≠ "" := source_ne_empty t paths (by simp [hchecks])
    have hfirstSource : first.source ≠ "" := source_ne_empty t paths (by simp [hchecks, hmem])
    simp [Registry.duplicate, Check.firstNonempty, hsource, hfirstSource]
  refine ⟨Registry.duplicate first c, ?_, hloads, before, c, after, first, hchecks, hbefore, hmem,
    hfirst, hduplicate⟩
  have hgives := registryOf_of_loads hloads
  rw [hchecks, Registry.ofChecks_of_repeated hbefore hmem hfirst] at hgives
  exact hgives

/-- A registry holds the checks of all files in their order, or is not built. -/
theorem registryOf_complete (t : FileTree) (paths : List String)
    (hplaces : (t.nodes.map Prod.fst).Nodup)
    (hfaults : ∀ p ∈ filesOf t paths, ∀ f, ofFile t p ≠ .error (.fault f)) :
    (∀ p, Expands t p (expand t p)) ∧
    ((∃ r, Builds t paths r) ↔
      (∀ p ∈ filesOf t paths, Loads t p) ∧ ((checksOf t paths).map Check.code).Nodup) ∧
    (∀ r, Builds t paths r → r.checks = checksOf t paths ∧
      ∀ code c, r.find? code = some c ↔ c ∈ r.checks ∧ c.code = code) ∧
    ((¬∃ r, Builds t paths r) → ∃ e, (registryOf t paths).start.1 = .error (.checks e) ∧
      (IsFirstBad t paths e ∨ IsFirstRepeated t paths e)) ∧
    ∀ qs, (∃ r, Builds t (paths ++ qs) r) ↔ ∃ r r', Builds t paths r ∧ Builds t qs r' ∧
      ∀ code ∈ r.codes, code ∉ r'.codes := by
  refine ⟨expands_expand hplaces, exists_builds_iff,
    fun r hr => ⟨hr.checks, fun code c => Registry.find?_eq_some⟩, fun hnot => ?_,
    exists_builds_append t paths⟩
  rcases all_load_or_first_fails t (filesOf t paths) with hall | hfails
  · have hrepeated : ¬((checksOf t paths).map Check.code).Nodup :=
      fun hnodup => hnot (exists_builds_iff.mpr ⟨hall, hnodup⟩)
    obtain ⟨e, he, hfirst⟩ := registryOf_of_repeated hall hrepeated
    exact ⟨e, he.start_fst, Or.inr hfirst⟩
  · obtain ⟨before, p, after, f, hfiles, hbefore, hf⟩ := hfails
    have hstart := (registryOf_of_fails hfiles hbefore hf).start_fst
    cases f with
    | checks e => exact ⟨e, hstart, Or.inl ⟨before, p, after, hfiles, hbefore, hf⟩⟩
    | config e => exact absurd hf (ofFile_ne_config t p e)
    | fault f => exact absurd hf (hfaults p (by simp [hfiles]) f)

def ruleText : String :=
  "\x7b\"checks\":[\x7b\"code\":\"C1\",\"requiredTypes\":[\"a\"],\"severity\":\"LOW\"," ++
    "\"matchSpec\":\x7b\"action\":\"isPresent\",\"name\":\"b\"\x7d\x7d]\x7d"

def sharedRule : FileTree where
  workingDirectory := ["w"]
  nodes :=
    [(["w", "a_tfchecks.json"], .file ruleText.toUTF8),
     (["w", "b_tfchecks.json"], .file ruleText.toUTF8)]

theorem codes_sharedRule : ∀ p ∈ [⟨"", ["a_tfchecks.json"]⟩, ⟨"", ["b_tfchecks.json"]⟩],
    (ofFile sharedRule p).toOption.map (·.map Check.code) = some ["C1"] := by
  decide +kernel

theorem checksIn_sharedRule (h : p ∈ [⟨"", ["a_tfchecks.json"]⟩, ⟨"", ["b_tfchecks.json"]⟩]) :
    Loads sharedRule p ∧ (checksIn sharedRule p).map Check.code = ["C1"] := by
  have hcodes := codes_sharedRule p h
  rw [Option.map_eq_some_iff] at hcodes
  obtain ⟨cs, hcs, hcodes⟩ := hcodes
  rcases loads_or_fails sharedRule p with hloads | ⟨f, hf⟩
  · rw [ofFile_of_loads hloads] at hcs
    cases hcs
    exact ⟨hloads, hcodes⟩
  · rw [hf] at hcs
    cases hcs

theorem registryOf_complete_sharedRule :
    (sharedRule.nodes.map Prod.fst).Nodup ∧
    (∀ p ∈ filesOf sharedRule ["."], ∀ f, ofFile sharedRule p ≠ .error (.fault f)) ∧
    ∃ e, (registryOf sharedRule ["."]).start.1 = .error (.checks e) ∧
      (IsFirstBad sharedRule ["."] e ∨ IsFirstRepeated sharedRule ["."] e) := by
  have hplaces : (sharedRule.nodes.map Prod.fst).Nodup := by decide
  have hfiles : filesOf sharedRule ["."] =
      [⟨"", ["a_tfchecks.json"]⟩, ⟨"", ["b_tfchecks.json"]⟩] := by decide +kernel
  have hloads : ∀ p ∈ filesOf sharedRule ["."], Loads sharedRule p :=
    fun p hp => (checksIn_sharedRule (hfiles ▸ hp)).1
  have hfaults : ∀ p ∈ filesOf sharedRule ["."], ∀ f, ofFile sharedRule p ≠ .error (.fault f) := by
    intro p hp f hf
    rw [ofFile_of_loads (hloads p hp)] at hf
    cases hf
  have hcodes : (checksOf sharedRule ["."]).map Check.code = ["C1", "C1"] := by
    rw [checksOf, hfiles, List.flatMap_cons, List.flatMap_cons, List.flatMap_nil, List.append_nil,
      List.map_append, (checksIn_sharedRule (by simp)).2, (checksIn_sharedRule (by simp)).2]
    rfl
  refine ⟨hplaces, hfaults, ?_⟩
  obtain ⟨-, hbuilds, -, hfails, -⟩ := registryOf_complete sharedRule ["."] hplaces hfaults
  apply hfails
  rw [hbuilds, hcodes]
  simp

end Checks
end BlockAudit
