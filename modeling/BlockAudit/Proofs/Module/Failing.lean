import BlockAudit.Proofs.Loading
import BlockAudit.Proofs.Module.Reachable

namespace BlockAudit.Module

def Unusable (t : FileTree) (p : Path) (f : Fault) : Prop :=
  t.Spoiled Yaml.Unreadable p f ∨ ∃ es modulePath, Template.ofFile t p = .ok (some es) ∧
    Template.blocks p.text modulePath es = .error f

/-- A module that is reached has a template that cannot be used, or a call that leads nowhere. -/
def Fails (t : FileTree) (root : Path) (f : Fault) : Prop :=
  ∃ d, Reachable t root d ∧
    ((∃ p ∈ t.filesIn (spelling t root d) [templateSuffix], Unusable t p f) ∨
      ∃ b ∈ (declaredIn t (spelling t root d) []).blocks, Misleads t (spelling t root d) b f)

def Refused (t : FileTree) (root : Path) (f : Failure) : Prop :=
  (∃ e, f = .config e) ∨ ∃ g, f = .fault g ∧ Fails t root g

variable {t : FileTree} {root : Path} {d : Place}

theorem Reachable.refused (hd : Reachable t root d) {p : Path}
    (hp : p ∈ t.filesIn (spelling t root d) [templateSuffix]) {f : Fault} (h : Unusable t p f) :
    Refused t root (.fault f) :=
  Or.inr ⟨f, rfl, d, hd, Or.inl ⟨p, hp, h⟩⟩

theorem ends_blocksOfFile (hd : Reachable t root d) (modulePath : List String) {p : Path}
    (hp : p ∈ t.filesIn (spelling t root d) [templateSuffix]) :
    (Template.blocksOfFile t modulePath p).Ends (Refused t root)
      (· = Template.declared t modulePath p) := by
  have hfile : ErrorsIn (Refused t root) (Template.ofFile t p) := by
    refine (Template.refused_ofFile t p).mono ?_
    rintro f (hconfig | ⟨g, rfl, ⟨hdirectory, -⟩ | hspoiled⟩)
    · exact Or.inl hconfig
    · have hisFile : t.isFile p = true := (List.mem_filter.mp hp).2
      rw [FileTree.not_isDirectory_of_isFile hisFile] at hdirectory
      cases hdirectory
    · exact hd.refused hp (Or.inl hspoiled)
  refine (Run.ends_lift hfile).bind fun es? hes => ?_
  unfold Template.declared
  rw [hes]
  cases es? with
  | none => exact Run.ends_pure rfl
  | some es =>
    dsimp only
    cases hbs : Template.blocks p.text modulePath es with
    | ok bs =>
      exact (Run.failsOnly_forM Run.failsOnly_note _).ends.bind fun _ _ => Run.ends_pure rfl
    | error f => exact Run.ends_throw (hd.refused hp (Or.inr ⟨es, modulePath, hes, hbs⟩))

theorem ends_blocksOfFiles (hd : Reachable t root d) (modulePath : List String) (ps : List Path)
    (hps : ∀ p ∈ ps, p ∈ t.filesIn (spelling t root d) [templateSuffix]) :
    (blocksOfFiles t modulePath ps).Ends (Refused t root)
      (· = ps.flatMap (Template.declared t modulePath)) := by
  induction ps with
  | nil => exact Run.ends_pure rfl
  | cons p ps ih =>
    obtain ⟨hp, hps⟩ := List.forall_mem_cons.mp hps
    refine (ends_blocksOfFile hd modulePath hp).bind fun bs hbs => ?_
    refine (ih hps).bind fun rest hrest => Run.ends_pure ?_
    rw [hbs, hrest, List.flatMap_cons]

theorem ends_load (hd : Reachable t root d) (modulePath : List String) :
    (load t (spelling t root d) modulePath).Ends (Refused t root)
      (· = moduleOf t root ⟨d, modulePath⟩) := by
  refine (ends_blocksOfFiles hd modulePath _ fun _ => id).bind fun bs hbs => ?_
  refine (Run.failsOnly_note _).ends.bind fun _ _ => Run.ends_pure ?_
  rw [hbs]
  rfl

theorem failsOnly_loadCalls (seen : List Place) (cs : List Call) (hroot : t.placeOf root ∈ seen)
    (hcs : ∀ c ∈ cs, Rooted t root c) : (loadCalls t seen cs).FailsOnly (Refused t root) := by
  -- The calls of a module that is loaded on the way have their turn before the others.
  induction seen, cs using loadCalls.induct t with
  | case1 seen =>
    rw [loadCalls]
    exact Run.failsOnly_pure []
  | case2 seen c cs f hplace =>
    rw [loadCalls, hplace]
    obtain ⟨d, hd, hb⟩ := (List.forall_mem_cons.mp hcs).1.misleads hplace
    exact Run.failsOnly_throw (Or.inr ⟨f, rfl, d, hd, Or.inr hb⟩)
  | case3 seen c cs hplace ih =>
    rw [loadCalls, hplace]
    exact ih hroot (List.forall_mem_cons.mp hcs).2
  | case4 seen c cs place hplace hnew directory modulePath ih =>
    obtain ⟨hc, hrest⟩ := List.forall_mem_cons.mp hcs
    have hspelling : spelling t root place = directory := spelling_of_new hroot hnew.2
    have hreachable : Reachable t root place := hc.reachable hplace hnew.1
    rw [← hspelling] at ih
    rw [loadCalls_of_new hplace hnew hspelling]
    refine ((ends_load hreachable modulePath).bind (S := fun _ => True) fun m hm => ?_).failsOnly
    have hcalls : ∀ c ∈ calls (spelling t root place) modulePath m ++ cs, Rooted t root c := by
      rw [hm]
      exact rooted_append (v := ⟨place, modulePath⟩) hreachable hrest
    have hfails := ih m (List.mem_cons_of_mem _ hroot) hcalls
    exact hfails.ends.bind fun _ _ => Run.ends_pure trivial
  | case5 seen c cs place hplace hold ih =>
    rw [loadCalls, hplace]
    simp only [dif_neg hold]
    exact ih hroot (List.forall_mem_cons.mp hcs).2

theorem failsOnly_loadAll (root : Path) : (loadAll t root).FailsOnly (Refused t root) := by
  cases hdirectory : t.isDirectory root with
  | false =>
    unfold loadAll
    rw [hdirectory]
    exact ((Run.gives_throw _).bind_error _).failsOnly (errorsIn_error (Or.inl ⟨_, rfl⟩))
  | true =>
    rw [loadAll_of_directory hdirectory]
    refine ((ends_load .root []).bind (S := fun _ => True) fun m hm => ?_).failsOnly
    have hcalls : ∀ c ∈ calls (spelling t root (t.placeOf root)) [] m, Rooted t root c := by
      intro c hc
      rw [hm] at hc
      exact ⟨firstVisit t root, .root, hc⟩
    have hfails := failsOnly_loadCalls _ _ (List.mem_singleton_self _) hcalls
    exact hfails.ends.bind fun _ _ => Run.ends_pure trivial

end BlockAudit.Module
