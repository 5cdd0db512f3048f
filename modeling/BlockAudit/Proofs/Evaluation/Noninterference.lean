import BlockAudit.Proofs.Evaluation.Bindings
import BlockAudit.Proofs.Evaluation.Simulation
/-!
An evaluation depends on no variables but those that its match spec reads, and what it binds does not
depend on the others. Main statement: `run_noninterference`.
-/

namespace BlockAudit.MatchSpec

def ownReads (spec : MatchSpec) : List String :=
  match spec.action, spec.matchValue with
  | .comparison _, .str s => [s]
  | .comparison _, .list vs => vs.filterMap Value.text?
  | .hasTag, .str s => [s]
  | _, _ => []

def reads (spec : MatchSpec) : List String := spec.nodes.flatMap ownReads

/-- From `σ` and `τ` on, each name was left alone on both sides or is bound to one value on both. -/
def Aligned (σ τ : Bindings) (s t : Trace) : Prop :=
  ∀ n, (s.bindings.find? n = σ.find? n ∧ t.bindings.find? n = τ.find? n) ∨
    ∃ v, s.bindings.find? n = some v ∧ t.bindings.find? n = some v

variable {σ τ : Bindings}

theorem aligned_bind (name : String) (v : Value) (s t : Trace) (h : Aligned σ τ s t) :
    Aligned σ τ { s with bindings := s.bindings.bind name v }
      { t with bindings := t.bindings.bind name v } := by
  intro n
  by_cases hn : name = n
  · exact Or.inr ⟨v, by simp [Bindings.find?_bind, hn], by simp [Bindings.find?_bind, hn]⟩
  · simpa [Bindings.find?_bind, hn] using h n

theorem Aligned.find?_eq {s t : Trace} (h : Aligned σ τ s t) {n : String}
    (hn : σ.find? n = τ.find? n) : s.bindings.find? n = t.bindings.find? n := by
  rcases h n with ⟨hs, ht⟩ | ⟨v, hs, ht⟩
  · rw [hs, ht, hn]
  · rw [hs, ht]

def aligned (σ τ : Bindings) : Simulation := ⟨Aligned σ τ, Eq, Eq⟩

theorem aligned_sound : (aligned σ τ).Sound where
  toRespects := Simulation.respects_of_trace fun _ _ _ h => h
  bind := Simulation.binds_of_values aligned_bind

theorem aligned_serves (modules : List Module) {spec : MatchSpec}
    (h : ∀ n ∈ spec.ownReads, σ.find? n = τ.find? n) :
    (aligned σ τ).Serves modules modules spec spec := by
  unfold Simulation.Serves
  unfold ownReads at h
  cases ha : spec.action with
  | comparison c =>
    rw [ha] at h
    intro s t hst
    refine Bindings.resolveItems_congr (fun name hv => hst.find?_eq (h name ?_))
      (fun vs hv name hname => hst.find?_eq (h name ?_))
    · simp [hv]
    · simp only [hv]
      exact List.mem_filterMap.mpr ⟨_, hname, rfl⟩
  | hasTag =>
    rw [ha] at h
    refine ⟨rfl, fun s t hst => ?_⟩
    refine Bindings.resolve_congr fun name hv => hst.find?_eq (h name ?_)
    simp [hv]
  | requiresPresence => exact optionRel_refl _
  | _ => trivial

theorem run_noninterference (modules : List Module) (spec : MatchSpec) (b : Block)
    (σ τ : Bindings) (h : ∀ n ∈ spec.reads, σ.find? n = τ.find? n) :
    (spec.run modules b σ).1 = (spec.run modules b τ).1 ∧
      ∀ n, ((spec.run modules b σ).2.1.find? n = σ.find? n ∧
          (spec.run modules b τ).2.1.find? n = τ.find? n) ∨
        ∃ v, (spec.run modules b σ).2.1.find? n = some v ∧
          (spec.run modules b τ).2.1.find? n = some v := by
  have hserves : ∀ n ∈ spec.nodes, (aligned σ τ).Serves modules modules n n := fun n hn =>
    aligned_serves modules fun name hname => h name (List.mem_flatMap.mpr ⟨n, hn, hname⟩)
  have hstart : Aligned σ τ ⟨σ, []⟩ ⟨τ, []⟩ := fun n => Or.inl ⟨rfl, rfl⟩
  obtain ⟨hout, htrace⟩ := aligned_sound.evaluate hserves b b rfl ⟨σ, []⟩ ⟨τ, []⟩ hstart
  exact ⟨hout.eq, htrace⟩

namespace Sample

def aclOfOwner : MatchSpec :=
  ⟨.and, "", .null,
    [⟨.presence .present, "acl", .null, [], none, [], "v"⟩,
      ⟨.comparison .isAny, "acl", .list [.str "v"], [], none, [], ""⟩,
      ⟨.comparison .notEquals, "owner", .str "team", [], none, [], "w"⟩], none, [], ""⟩

def owned : Block :=
  ⟨"resource", ["bucket", "x"], [(.str "acl", .str "private"), (.str "owner", .str "infra")],
    .file "main", []⟩

end Sample

open Sample in
theorem run_noninterference_owned :
    (∀ n ∈ aclOfOwner.reads, Bindings.find? n [("team", .str "web"), ("note", .null)] =
      Bindings.find? n [("team", .str "web")]) ∧
      (aclOfOwner.run [] owned [("team", .str "web")]).1 = .ok true ∧
      (aclOfOwner.run [] owned [("team", .str "web"), ("note", .null)]).1 =
        (aclOfOwner.run [] owned [("team", .str "web")]).1 := by
  have h : ∀ n ∈ aclOfOwner.reads, Bindings.find? n [("team", .str "web"), ("note", .null)] =
      Bindings.find? n [("team", .str "web")] := by
    have hreads : aclOfOwner.reads = ["v", "team"] := rfl
    rw [hreads]
    simp [Bindings.find?]
  exact ⟨h, rfl, (run_noninterference [] aclOfOwner owned _ _ h).1⟩

end BlockAudit.MatchSpec
