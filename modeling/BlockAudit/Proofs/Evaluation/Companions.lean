import BlockAudit.Proofs.Evaluation.Simulation
/-!
Of the modules an evaluation sees the first block of each type that its match spec requires to be present,
and nothing else. Main statement: `run_eq_of_companions`.
-/

namespace BlockAudit

namespace Module

theorem head?_ofType_append {name : String} {modules : List Module} (h : ofType name modules ≠ [])
    (later : List Module) :
    (ofType name (modules ++ later)).head? = (ofType name modules).head? := by
  have happend : ofType name (modules ++ later) = ofType name modules ++ ofType name later := by
    unfold ofType
    rw [List.flatMap_append, List.filter_append]
  rw [happend]
  exact List.head?_append_of_ne_nil _ h

end Module

namespace MatchSpec

def required? (n : MatchSpec) : Option String :=
  if n.action = .requiresPresence then some n.name else none

def requiredTypes (spec : MatchSpec) : List String := spec.nodes.filterMap required?

def elsewhere : Simulation := ⟨Eq, Eq, Eq⟩

theorem elsewhere_sound : elsewhere.Sound where
  toRespects := Simulation.respects_of_trace fun _ _ _ => by rintro rfl; rfl
  bind := Simulation.binds_of_values fun _ _ _ _ => by rintro rfl; rfl

theorem elsewhere_serves {M N : List Module} {n : MatchSpec}
    (h : ∀ t ∈ n.required?, (Module.ofType t M).head? = (Module.ofType t N).head?) :
    elsewhere.Serves M N n n := by
  unfold Simulation.Serves
  unfold required? at h
  cases ha : n.action with
  | comparison c =>
    rintro s _ rfl
    rfl
  | hasTag =>
    refine ⟨rfl, ?_⟩
    rintro s _ rfl
    rfl
  | requiresPresence =>
    rw [ha] at h
    dsimp only
    rw [h n.name rfl]
    exact optionRel_refl _
  | _ => trivial

theorem run_congr_companions {M N : List Module} {spec : MatchSpec}
    (h : ∀ t ∈ spec.requiredTypes, (Module.ofType t M).head? = (Module.ofType t N).head?)
    (b : Block) (start : Bindings) : spec.run M b start = spec.run N b start := by
  have hserves : ∀ n ∈ spec.nodes, elsewhere.Serves M N n n := fun n hn =>
    elsewhere_serves fun t ht => h t (List.mem_filterMap.mpr ⟨n, hn, ht⟩)
  obtain ⟨hout, htrace⟩ := elsewhere_sound.evaluate hserves b b rfl ⟨start, []⟩ ⟨start, []⟩ rfl
  exact congrArg₂ (fun (o : Except Fault Bool) (t : Trace) =>
    (o, t.bindings, t.notices.reverse)) hout.eq htrace

theorem run_eq_of_companions (spec : MatchSpec) (b : Block) (start : Bindings) :
    (∀ M N : List Module,
      (∀ t ∈ spec.requiredTypes, (Module.ofType t M).head? = (Module.ofType t N).head?) →
        spec.run M b start = spec.run N b start) ∧
      (spec.requiredTypes = [] → ∀ M N, spec.run M b start = spec.run N b start) ∧
      ∀ M later : List Module, (∀ t ∈ spec.requiredTypes, Module.ofType t M ≠ []) →
        spec.run (M ++ later) b start = spec.run M b start := by
  refine ⟨fun M N h => run_congr_companions h b start, ?_, ?_⟩
  · intro hnone M N
    apply run_congr_companions
    intro t ht
    rw [hnone] at ht
    cases ht
  · intro M later h
    apply run_congr_companions
    intro t ht
    exact Module.head?_ofType_append (h t ht) later

namespace Sample

def logOf (group level : String) : Block :=
  ⟨"resource", ["aws_flow_log", "main"], [(.str "group", .str group), (.str "level", .str level)],
    .file "main", []⟩

def groupOf (name level : String) : Block :=
  ⟨"resource", ["aws_log_group", "main"], [(.str "name", .str name), (.str "level", .str level)],
    .file "main", []⟩

def loggedToGroup : MatchSpec :=
  ⟨.requiresPresence, "aws_flow_log", .null, [],
    some ⟨.presence .present, "group", .null, [],
      some ⟨.requiresPresence, "aws_log_group", .null, [],
        some ⟨.comparison .equals, "name", .str "group", [], none, [], ""⟩, [], ""⟩, [], "group"⟩,
    [], ""⟩

def leveled : MatchSpec := ⟨.comparison .equals, "level", .str "info", [], none, [], ""⟩

def logged : List Module := [⟨".", [logOf "a" "info", groupOf "a" "info"]⟩]

def loggedTwice : List Module :=
  [⟨".", [logOf "a" "info", logOf "b" "debug"]⟩, ⟨"m", [groupOf "a" "info", groupOf "b" "debug"]⟩]

end Sample

open Sample in
theorem run_eq_of_companions_logged :
    (∀ t ∈ loggedToGroup.requiredTypes,
        (Module.ofType t logged).head? = (Module.ofType t loggedTwice).head?) ∧
      (∀ t ∈ loggedToGroup.requiredTypes, Module.ofType t logged ≠ []) ∧
      leveled.requiredTypes = [] ∧
      loggedToGroup.run logged (logOf "c" "info") [] =
        loggedToGroup.run loggedTwice (logOf "c" "info") [] ∧
      loggedToGroup.run (logged ++ loggedTwice) (logOf "c" "info") [] =
        loggedToGroup.run logged (logOf "c" "info") [] ∧
      leveled.run logged (logOf "c" "info") [] = leveled.run [] (logOf "c" "info") [] ∧
      loggedToGroup.run logged (logOf "c" "info") [] = (.ok true, [("group", .str "a")], []) := by
  have htypes : loggedToGroup.requiredTypes = ["aws_flow_log", "aws_log_group"] := rfl
  have hfirst : ∀ t ∈ loggedToGroup.requiredTypes,
      (Module.ofType t logged).head? = (Module.ofType t loggedTwice).head? := by
    rw [htypes]
    simp only [List.forall_mem_cons]
    exact ⟨rfl, rfl, fun _ h => nomatch h⟩
  have hpresent : ∀ t ∈ loggedToGroup.requiredTypes, Module.ofType t logged ≠ [] := by
    rw [htypes]
    simp only [List.forall_mem_cons]
    exact ⟨List.cons_ne_nil _ _, List.cons_ne_nil _ _, fun _ h => nomatch h⟩
  obtain ⟨hcongr, -, happend⟩ := run_eq_of_companions loggedToGroup (logOf "c" "info") []
  have hnone := (run_eq_of_companions leveled (logOf "c" "info") []).2.1
  exact ⟨hfirst, hpresent, rfl, hcongr logged loggedTwice hfirst, happend logged loggedTwice hpresent,
    hnone rfl logged [], rfl⟩

end MatchSpec
end BlockAudit
