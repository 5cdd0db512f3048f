import BlockAudit.Proofs.Module.Calls
/-!
The directories that loading goes through are those that are reached from the first one by the local
sources of module calls. Main statement: `loadAll_reachable`.
-/

namespace BlockAudit.Module

variable {t : FileTree} {root : Path}

def Settled (t : FileTree) (known : List Place) (c : Call) : Prop :=
  (∃ o, c.place? t = .ok o) ∧ Keeps t known c

def Enters (t : FileTree) (c : Call) (v : Visit) : Prop :=
  c.place? t = .ok (some v.place) ∧ t.isDirectoryAt v.place = true ∧
    v.modulePath = c.modulePath ++ [c.label]

def Made (t : FileTree) (root : Path) (cs : List Call) (vs : List Visit) (c : Call) : Prop :=
  c ∈ cs ∨ ∃ v ∈ vs, c ∈ callsOf t root v

structure Explored (t : FileTree) (root : Path) (seen : List Place) (cs : List Call)
    (vs : List Visit) : Prop where
  nodup : (vs.map Visit.place).Nodup
  fresh : ∀ v ∈ vs, v.place ∉ seen
  reachable : ∀ v ∈ vs, Reachable t root v.place
  settled : ∀ c, Made t root cs vs c → Settled t (seen ++ vs.map Visit.place) c
  entered : ∀ before v after, vs = before ++ v :: after →
    ∃ c, Made t root cs before c ∧ Enters t c v

variable {seen : List Place} {cs : List Call} {vs : List Visit} {c : Call} {v : Visit}

theorem Settled.mono {known known' : List Place} (h : Settled t known c)
    (hsub : ∀ d ∈ known, d ∈ known') : Settled t known' c :=
  ⟨h.1, fun d hd hdirectory => hsub d (h.2 d hd hdirectory)⟩

theorem made_cons {c' : Call} : Made t root (c :: cs) (v :: vs) c' ↔
    c' = c ∨ Made t root (callsOf t root v ++ cs) vs c' := by
  simp only [Made, List.mem_cons, List.mem_append, exists_eq_or_imp]
  grind

theorem Explored.skip (h : Explored t root seen cs vs)
    (hc : Settled t (seen ++ vs.map Visit.place) c) : Explored t root seen (c :: cs) vs where
  nodup := h.nodup
  fresh := h.fresh
  reachable := h.reachable
  settled := by
    rintro c' (hmem | hvisit)
    · rcases List.mem_cons.mp hmem with rfl | hrest
      · exact hc
      · exact h.settled c' (Or.inl hrest)
    · exact h.settled c' (Or.inr hvisit)
  entered := by
    intro before v after hvs
    obtain ⟨c', hmade, henters⟩ := h.entered before v after hvs
    exact ⟨c', hmade.imp_left (List.mem_cons_of_mem c), henters⟩

theorem Explored.enter (h : Explored t root (v.place :: seen) (callsOf t root v ++ cs) vs)
    (hv : Reachable t root v.place) (hfresh : v.place ∉ seen) (hc : Enters t c v) :
    Explored t root seen (c :: cs) (v :: vs) where
  nodup := by
    rw [List.map_cons, List.nodup_cons]
    refine ⟨fun hmem => ?_, h.nodup⟩
    obtain ⟨u, hu, hplace⟩ := List.mem_map.mp hmem
    exact h.fresh u hu (hplace ▸ List.mem_cons_self)
  fresh := by
    rw [List.forall_mem_cons]
    exact ⟨hfresh, fun u hu hseen => h.fresh u hu (List.mem_cons_of_mem _ hseen)⟩
  reachable := List.forall_mem_cons.mpr ⟨hv, h.reachable⟩
  settled := by
    intro c' hmade
    rcases made_cons.mp hmade with rfl | hmade
    · refine ⟨⟨_, hc.1⟩, fun d hd _ => ?_⟩
      rw [hc.1] at hd
      cases hd
      exact List.mem_append_right _ List.mem_cons_self
    · apply (h.settled c' hmade).mono
      intro d hd
      simp only [List.cons_append, List.map_cons, List.mem_cons, List.mem_append] at hd ⊢
      exact or_left_comm.mp hd
  entered := by
    intro before u after hvs
    cases before with
    | nil =>
      cases hvs
      exact ⟨c, Or.inl List.mem_cons_self, hc⟩
    | cons w before =>
      cases hvs
      obtain ⟨c', hmade, henters⟩ := h.entered before u after rfl
      exact ⟨c', made_cons.mpr (Or.inr hmade), henters⟩

theorem spelling_of_new (hroot : t.placeOf root ∈ seen) {place : Place} (hnew : place ∉ seen) :
    spelling t root place = FileTree.pathTo place := by
  apply if_neg
  intro he
  rw [he] at hnew
  exact hnew hroot

theorem rooted_append (hv : Reachable t root v.place) (hcs : ∀ c ∈ cs, Rooted t root c) :
    ∀ c ∈ callsOf t root v ++ cs, Rooted t root c := by
  intro c hc
  exact (List.mem_append.mp hc).elim (fun hown => ⟨v, hv, hown⟩) (hcs c)

theorem loadCalls_of_new {place : Place} (hplace : c.place? t = .ok (some place))
    (hnew : t.isDirectoryAt place = true ∧ place ∉ seen)
    (hspelling : spelling t root place = FileTree.pathTo place) :
    loadCalls t seen (c :: cs) = (do
      let directory := spelling t root place
      let m ← load t directory (c.modulePath ++ [c.label])
      let rest ← loadCalls t (place :: seen)
        (calls directory (c.modulePath ++ [c.label]) m ++ cs)
      return m :: rest) := by
  rw [loadCalls, hplace, hspelling]
  exact dif_pos hnew

theorem loadCalls_gives (hsound : Sound t root) (hroot : t.placeOf root ∈ seen)
    (hcs : ∀ c ∈ cs, Rooted t root c) :
    (∃ vs, Explored t root seen cs vs ∧
      (loadCalls t seen cs).Gives (.ok (vs.map (moduleOf t root)))) ∨
    (Astray t root ∧ (loadCalls t seen cs).Gives (.error (.fault .malformedPath))) := by
  -- Induction along the loading. When a call has its turn, the directory that it leads to has been
  -- seen or is visited at once; the calls of a visited module have their turn before the others.
  induction seen, cs using loadCalls.induct t with
  | case1 seen =>
    left
    rw [loadCalls]
    refine ⟨[], ⟨List.nodup_nil, by simp, by simp, ?_, by simp⟩, Run.gives_pure []⟩
    rintro c (hmem | ⟨v, hv, -⟩)
    · cases hmem
    · cases hv
  | case2 seen c cs f hplace =>
    right
    obtain ⟨rfl, hastray⟩ := (List.forall_mem_cons.mp hcs).1.astray hsound hplace
    rw [loadCalls, hplace]
    exact ⟨hastray, Run.gives_throw _⟩
  | case3 seen c cs hplace ih =>
    rw [loadCalls, hplace]
    refine (ih hroot (List.forall_mem_cons.mp hcs).2).imp_left ?_
    rintro ⟨vs, hvs, hgives⟩
    exact ⟨vs, hvs.skip ⟨⟨none, hplace⟩, by simp [Keeps, hplace]⟩, hgives⟩
  | case4 seen c cs place hplace hnew directory modulePath ih =>
    obtain ⟨hc, hrest⟩ := List.forall_mem_cons.mp hcs
    -- The first place has been seen, so this one is loaded by its own path.
    have hspelling : spelling t root place = directory := spelling_of_new hroot hnew.2
    let v : Visit := ⟨place, modulePath⟩
    have hv : Reachable t root v.place := hc.reachable hplace hnew.1
    have hload : (load t (spelling t root place) modulePath).Gives (.ok (moduleOf t root v)) :=
      load_gives (hsound place hv) modulePath
    have hcalls : ∀ c ∈ callsOf t root v ++ cs, Rooted t root c := rooted_append hv hrest
    rw [← hspelling] at ih
    rw [loadCalls_of_new hplace hnew hspelling]
    rcases ih (moduleOf t root v) (List.mem_cons_of_mem _ hroot) hcalls with
      ⟨vs, hvs, hgives⟩ | ⟨hastray, hgives⟩
    · left
      refine ⟨v :: vs, hvs.enter hv hnew.2 ⟨hplace, hnew.1, rfl⟩, hload.bind_ok ?_⟩
      exact hgives.bind_ok (Run.gives_pure _)
    · right
      exact ⟨hastray, hload.bind_ok (hgives.bind_error _)⟩
  | case5 seen c cs place hplace hold ih =>
    -- Nothing is loaded: the call leads to no directory, or to one that is known.
    rw [loadCalls, hplace]
    simp only [dif_neg hold]
    refine (ih hroot (List.forall_mem_cons.mp hcs).2).imp_left ?_
    rintro ⟨vs, hvs, hgives⟩
    refine ⟨vs, hvs.skip ⟨⟨_, hplace⟩, fun d hd hdirectory => ?_⟩, hgives⟩
    rw [hplace] at hd
    cases hd
    exact List.mem_append_left _ (Classical.not_not.mp fun hnew => hold ⟨hdirectory, hnew⟩)

structure Explores (t : FileTree) (root : Path) (visits : List Visit) : Prop where
  head : visits.head? = some (firstVisit t root)
  nodup : (visits.map Visit.place).Nodup
  mem_iff : ∀ d, d ∈ visits.map Visit.place ↔ Reachable t root d
  called : ∀ before v after, visits = before ++ v :: after → before ≠ [] →
    ∃ u ∈ before, ∃ b ∈ (moduleOf t root u).blocks, ∃ label,
      Leads t (spelling t root u.place) b label v.place ∧ v.modulePath = u.modulePath ++ [label]
  modulePath : ∀ v ∈ visits, ∀ b ∈ (moduleOf t root v).blocks, b.modulePath = v.modulePath
  inModule : ∀ v ∈ visits, ∀ b ∈ (moduleOf t root v).blocks,
    b.inModule = false ↔ v.place = t.placeOf root

section

variable (h : Explored t root [t.placeOf root] (callsOf t root (firstVisit t root)) vs)

include h

theorem Explored.settled_visit (hv : v ∈ firstVisit t root :: vs) :
    ∀ c ∈ callsOf t root v, Settled t ((firstVisit t root :: vs).map Visit.place) c := by
  intro c hc
  rcases List.mem_cons.mp hv with rfl | hrest
  · exact h.settled c (Or.inl hc)
  · exact h.settled c (Or.inr ⟨v, hrest, hc⟩)

theorem Explored.mem_iff (d : Place) :
    d ∈ (firstVisit t root :: vs).map Visit.place ↔ Reachable t root d := by
  constructor
  · intro hd
    rcases List.mem_cons.mp hd with rfl | hrest
    · exact .root
    · obtain ⟨v, hv, rfl⟩ := List.mem_map.mp hrest
      exact h.reachable v hv
  · intro hd
    refine hd.mem_of_closed ⟨List.mem_cons_self, fun e he => ?_⟩
    obtain ⟨v, hv, rfl⟩ := List.mem_map.mp he
    exact ⟨v, rfl, fun c hc => (h.settled_visit hv c hc).2⟩

theorem Explored.not_astray : ¬Astray t root := by
  intro hastray
  obtain ⟨d, hd, hcall⟩ := hastray.exists_call
  obtain ⟨v, hv, rfl⟩ := List.mem_map.mp ((h.mem_iff d).mpr hd)
  obtain ⟨c, hc, hplace⟩ := hcall v.modulePath
  obtain ⟨⟨o, ho⟩, -⟩ := h.settled_visit hv c hc
  rw [hplace] at ho
  cases ho

theorem Explored.called {before after : List Visit}
    (hvs : vs = before ++ v :: after) : ∃ u ∈ firstVisit t root :: before,
      ∃ b ∈ (moduleOf t root u).blocks, ∃ label,
        Leads t (spelling t root u.place) b label v.place ∧
        v.modulePath = u.modulePath ++ [label] := by
  obtain ⟨c, hmade, hplace, hdirectory, hpath⟩ := h.entered before v after hvs
  have hcaller : ∃ u ∈ firstVisit t root :: before, c ∈ callsOf t root u := by
    rcases hmade with hfirst | ⟨u, hu, hc⟩
    · exact ⟨_, List.mem_cons_self, hfirst⟩
    · exact ⟨u, List.mem_cons_of_mem _ hu, hc⟩
  obtain ⟨u, hu, hc⟩ := hcaller
  have hreachable : Reachable t root u.place := by
    apply (h.mem_iff u.place).mp
    apply List.mem_map_of_mem
    rw [hvs]
    exact List.mem_append_left (v :: after) hu
  obtain ⟨-, hpathOf, hb, -⟩ := mem_calls.mp hc
  have hcalls := calls_of_mem_callsOf hc hplace
  exact ⟨u, hu, c.block, hb, c.label, ⟨hcalls, hdirectory⟩, hpathOf ▸ hpath⟩

theorem Explored.explores :
    Explores t root (firstVisit t root :: vs) where
  head := rfl
  nodup := by
    rw [List.map_cons, List.nodup_cons]
    refine ⟨fun hmem => ?_, h.nodup⟩
    obtain ⟨v, hv, hplace⟩ := List.mem_map.mp hmem
    exact h.fresh v hv (hplace ▸ List.mem_singleton_self _)
  mem_iff := h.mem_iff
  called := by
    intro before v after hvisits hbefore
    cases before with
    | nil => exact absurd rfl hbefore
    | cons first before =>
      rw [List.cons_append, List.cons.injEq] at hvisits
      obtain ⟨rfl, hvs⟩ := hvisits
      exact h.called hvs
  modulePath := fun v _ b hb => modulePath_of_mem hb
  inModule := by
    intro v hv b hb
    rw [Block.inModule, modulePath_of_mem hb]
    rcases List.mem_cons.mp hv with rfl | hrest
    · exact ⟨fun _ => rfl, fun _ => rfl⟩
    · have hfresh : v.place ≠ t.placeOf root := by
        intro he
        exact h.fresh v hrest (he ▸ List.mem_singleton_self _)
      obtain ⟨before, after, hvs⟩ := List.append_of_mem hrest
      obtain ⟨u, -, b', -, label, -, hpath⟩ := h.called hvs
      simp [hpath, hfresh]

end

theorem loadAll_of_directory (hroot : t.isDirectory root = true) :
    loadAll t root = (do
      let directory := spelling t root (firstVisit t root).place
      let m ← load t directory []
      let rest ← loadCalls t [t.placeOf root] (calls directory [] m)
      return m :: rest) := by
  have hspelling : spelling t root (firstVisit t root).place = root := if_pos rfl
  unfold loadAll
  rw [hroot, hspelling]
  rfl

theorem loadAll_gives (hroot : t.isDirectory root = true) (hsound : Sound t root) :
    (∃ visits, Explores t root visits ∧ ¬Astray t root ∧
      (loadAll t root).Gives (.ok (visits.map (moduleOf t root)))) ∨
    (Astray t root ∧ (loadAll t root).Gives (.error (.fault .malformedPath))) := by
  have hload : (load t (spelling t root (firstVisit t root).place) []).Gives
      (.ok (moduleOf t root (firstVisit t root))) := load_gives (hsound _ .root) []
  have hrooted : ∀ c ∈ callsOf t root (firstVisit t root), Rooted t root c :=
    fun c hc => ⟨_, .root, hc⟩
  rw [loadAll_of_directory hroot]
  rcases loadCalls_gives hsound (List.mem_singleton_self _) hrooted with
    ⟨vs, hvs, hgives⟩ | ⟨hastray, hgives⟩
  · left
    refine ⟨_, hvs.explores, hvs.not_astray, hload.bind_ok ?_⟩
    exact hgives.bind_ok (Run.gives_pure _)
  · right
    exact ⟨hastray, hload.bind_ok (hgives.bind_error _)⟩

/-- Loading visits each directory that is reached, and no directory twice, unless a source is
malformed. -/
theorem loadAll_reachable (hroot : t.isDirectory root = true) (hsound : Sound t root) :
    (¬Astray t root → ∃ visits, Explores t root visits ∧
      (loadAll t root).Gives (.ok (visits.map (moduleOf t root)))) ∧
    (Astray t root → (loadAll t root).Gives (.error (.fault .malformedPath))) := by
  rcases loadAll_gives hroot hsound with ⟨visits, hvisits, hnot, hgives⟩ | ⟨hastray, hgives⟩
  · exact ⟨fun _ => ⟨visits, hvisits, hgives⟩, fun hastray => absurd hastray hnot⟩
  · exact ⟨fun hnot => absurd hastray hnot, fun _ => hgives⟩

def mutualTree : FileTree where
  workingDirectory := ["w"]
  nodes :=
    [(["w", "main.tf.json"], .file
      "\x7b\"module\": \x7b\"a\": \x7b\"source\": \"./b/../a\"\x7d\x7d\x7d".toUTF8),
     (["w", "a"], .directory),
     (["w", "a", "up.tf.json"], .file
      "\x7b\"module\": \x7b\"up\": \x7b\"source\": \"../\"\x7d\x7d\x7d".toUTF8)]

theorem mutualTree_settled : ∀ d ∈ [["w"], ["w", "a"]],
    loadsIn mutualTree (spelling mutualTree ⟨"", []⟩ d) = true ∧
      ∀ c ∈ callsOf mutualTree ⟨"", []⟩ ⟨d, []⟩,
        (c.place? mutualTree).isOk = true ∧ Keeps mutualTree [["w"], ["w", "a"]] c := by
  decide +kernel

theorem mutualTree_closed : Closed mutualTree ⟨"", []⟩ [["w"], ["w", "a"]] :=
  closed_of_keeps (by decide) fun d hd c hc => ((mutualTree_settled d hd).2 c hc).2

theorem mutualTree_sound : Sound mutualTree ⟨"", []⟩ :=
  fun d hd => (mutualTree_settled d (hd.mem_of_closed mutualTree_closed)).1

theorem mutualTree_not_astray : ¬Astray mutualTree ⟨"", []⟩ := by
  intro hastray
  obtain ⟨d, hd, hcall⟩ := hastray.exists_call
  obtain ⟨c, hc, hplace⟩ := hcall []
  have hok := ((mutualTree_settled d (hd.mem_of_closed mutualTree_closed)).2 c hc).1
  rw [hplace] at hok
  cases hok

theorem loadAll_reachable_mutual :
    mutualTree.isDirectory ⟨"", []⟩ = true ∧ Sound mutualTree ⟨"", []⟩ ∧
      ∃ visits, Explores mutualTree ⟨"", []⟩ visits ∧
        (loadAll mutualTree ⟨"", []⟩).Gives
          (.ok (visits.map (moduleOf mutualTree ⟨"", []⟩))) :=
  ⟨by decide, mutualTree_sound,
    (loadAll_reachable (by decide) mutualTree_sound).1 mutualTree_not_astray⟩

/-- The null character in the source is written as an escape. -/
def strayTree : FileTree where
  workingDirectory := ["w"]
  nodes :=
    [(["w", "main.tf.json"], .file
      "\x7b\"module\": \x7b\"m\": \x7b\"source\": \"./a\\u0000b\"\x7d\x7d\x7d".toUTF8)]

theorem strayTree_settled : (∀ d ∈ [["w"]],
    loadsIn strayTree (spelling strayTree ⟨"", []⟩ d) = true ∧
      ∀ c ∈ callsOf strayTree ⟨"", []⟩ ⟨d, []⟩, Keeps strayTree [["w"]] c) ∧
    ∃ c ∈ callsOf strayTree ⟨"", []⟩ (firstVisit strayTree ⟨"", []⟩),
      (c.place? strayTree).isOk = false := by
  decide +kernel

theorem strayTree_sound : Sound strayTree ⟨"", []⟩ := by
  have hclosed : Closed strayTree ⟨"", []⟩ [["w"]] :=
    closed_of_keeps (by decide) fun d hd => (strayTree_settled.1 d hd).2
  exact fun d hd => (strayTree_settled.1 d (hd.mem_of_closed hclosed)).1

theorem strayTree_astray : Astray strayTree ⟨"", []⟩ := by
  obtain ⟨c, hc, hplace⟩ := strayTree_settled.2
  have hrooted : Rooted strayTree ⟨"", []⟩ c := ⟨_, .root, hc⟩
  cases hf : c.place? strayTree with
  | error f => exact (hrooted.astray strayTree_sound hf).2
  | ok o =>
    rw [hf] at hplace
    cases hplace

theorem strayTree_not_loaded : strayTree.isDirectory ⟨"", []⟩ = true ∧
    Sound strayTree ⟨"", []⟩ ∧ ¬∃ modules, (loadAll strayTree ⟨"", []⟩).Gives (.ok modules) := by
  refine ⟨by decide, strayTree_sound, ?_⟩
  rintro ⟨modules, hgives⟩
  rcases loadAll_gives (by decide) strayTree_sound with ⟨_, _, hnot, _⟩ | ⟨-, herror⟩
  · exact hnot strayTree_astray
  · cases hgives.unique herror

end BlockAudit.Module
