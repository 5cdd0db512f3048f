import BlockAudit.Proofs.Block.Tags
import BlockAudit.Proofs.Evaluation.Iteration

namespace BlockAudit.MatchSpec

open Evaluation

variable {modules : List Module} {b : Block} {σ : Bindings} {n m : MatchSpec} {key place name : String}
  {u : Value} {o : Option Value}

structure Asks (a : Action) (name : String) (n : MatchSpec) : Prop where
  action : n.action = a
  name : n.name = name
  preConditions : n.preConditions = []

def acceptsTag (σ : Bindings) (v u : Value) : Bool :=
  v.isNull || Comparison.equalTo u (σ.resolve v)

theorem Asks.run_hasTag (h : n.Asks .hasTag key) (hkey : b.tag? key = .ok o) :
    (n.run modules b σ).1 = .ok (o.any (acceptsTag σ n.matchValue)) := by
  rw [run_fst, evaluate_of_no_preConditions modules h.preConditions, handle, h.action]
  dsimp only
  rw [h.name, evaluateTag, after_lift_bind hkey]
  cases o with
  | none => rfl
  | some u =>
    rw [Option.any_some, acceptsTag]
    cases n.matchValue.isNull <;> rfl

theorem Asks.run_equals (h : n.Asks (.comparison .equals) name) (hu : b.attributeAt name = .ok u)
    (hpresent : u ≠ .null) :
    (n.run modules b σ).1 = .ok (Comparison.equalTo u (σ.resolveItems n.matchValue)) := by
  rw [run_comparison h.action h.preConditions (h.name.symm ▸ hu),
    Value.isNull_eq_false.mpr hpresent]
  rfl

theorem Asks.run_present (h : n.Asks (.presence .present) name) (hsub : n.subMatch = none)
    (hu : b.attributeAt name = .ok u) (hpresent : u ≠ .null) : (n.run modules b σ).1 = .ok true := by
  rw [run_presence h.action h.preConditions hsub (h.name.symm ▸ hu), Presence.holds, h.name,
    Block.hasChild, Block.hasAttribute, hu, Except.map, ok_bind, Value.isNull_eq_false.mpr hpresent]
  rfl

/-- The first attribute with the key decides on a tag, and later ones do not count. Unless the tag is
null, it is compared as the attribute at its path is, and is there as that is. -/
theorem hasTag_laws (modules : List Module) (σ : Bindings)
    (hb : (Value.map b.body).keyedByText = true) (hdot : '.' ∉ key.toList)
    (hmarker : isMarker key = false) (hn : n.Asks .hasTag key) :
    (∀ place u, b.Decides key place u →
      (n.matchValue = .null → (n.run modules b σ).1 = .ok true) ∧
      (n.matchValue ≠ .null →
        (n.run modules b σ).1 = .ok (Comparison.equalTo u (σ.resolve n.matchValue))) ∧
      (u ≠ .null → n.matchValue ≠ .null → (∀ vs, n.matchValue ≠ .list vs) →
        ∀ m : MatchSpec, m.Asks (.comparison .equals) (place ++ "." ++ key) →
          m.matchValue = n.matchValue → (m.run modules b σ).1 = (n.run modules b σ).1) ∧
      (u ≠ .null → n.matchValue = .null →
        ∀ m : MatchSpec, m.Asks (.presence .present) (place ++ "." ++ key) → m.subMatch = none →
          (m.run modules b σ).1 = (n.run modules b σ).1)) ∧
    ((∀ place ∈ ["tags", "tags_all"], ∀ u, ¬b.Tagged place key u) →
      (n.run modules b σ).1 = .ok false) := by
  refine ⟨fun place u hu => ?_, fun hnone => hn.run_hasTag (Block.tag?_of_not_tagged hb hnone)⟩
  have hpath := hu.1.attributeAt_eq hdot hmarker
  have hrun : (n.run modules b σ).1 = .ok (acceptsTag σ n.matchValue u) :=
    hn.run_hasTag (hu.tag?_eq hb)
  have hwithout (h : n.matchValue = .null) : (n.run modules b σ).1 = .ok true := by
    rw [hrun, h]
    rfl
  have hwith (h : n.matchValue ≠ .null) :
      (n.run modules b σ).1 = .ok (Comparison.equalTo u (σ.resolve n.matchValue)) := by
    rw [hrun, acceptsTag, Value.isNull_eq_false.mpr h, Bool.false_or]
  refine ⟨hwithout, hwith, fun hpresent hv hlist m hm hvalue => ?_, fun hpresent hv m hm hsub => ?_⟩
  · rw [hm.run_equals hpath hpresent, hwith hv, hvalue, resolveItems_of_not_list σ hlist]
  · rw [hm.run_present hsub hpath hpresent, hwithout hv]

namespace Sample

def labelled : Block :=
  ⟨"resource", ["bucket", "x"], [(.str "tags", .map [(.str "__line__", .int 3), (.str "team", .str "a")]),
    (.str "tags.env", .int 0),
    (.str "tags_all", .map [(.str "team", .str "b"), (.str "env", .str "prod")])], .file "main", []⟩

def stage (a : Action) (name : String) : MatchSpec := ⟨a, name, .str "stage", [], none, [], ""⟩

end Sample

open Sample in
theorem hasTag_laws_labelled : (Value.map labelled.body).keyedByText = true ∧
    '.' ∉ "env".toList ∧ isMarker "env" = false ∧ (stage .hasTag "env").Asks .hasTag "env" ∧
    labelled.Decides "env" "tags_all" (.str "prod") ∧
    ((stage .hasTag "env").run [] labelled [("stage", .str "prod")]).1 = .ok true ∧
    ((stage (.comparison .equals) "tags_all.env").run [] labelled [("stage", .str "prod")]).1 =
      ((stage .hasTag "env").run [] labelled [("stage", .str "prod")]).1 := by
  have hb : (Value.map labelled.body).keyedByText = true := by decide
  have hdot : '.' ∉ "env".toList := by decide
  have hn : (stage .hasTag "env").Asks .hasTag "env" := ⟨rfl, rfl, rfl⟩
  have hdecides : labelled.Decides "env" "tags_all" (.str "prod") := by
    refine ⟨⟨_, rfl, rfl⟩, Or.inr ⟨rfl, ?_⟩⟩
    rintro v ⟨es, htags, hv⟩
    cases htags
    cases hv
  obtain ⟨-, hwith, hequals, -⟩ :=
    (hasTag_laws [] [("stage", .str "prod")] hb hdot rfl hn).1 "tags_all" _ hdecides
  exact ⟨hb, hdot, rfl, hn, hdecides, hwith nofun,
    hequals nofun nofun nofun (stage (.comparison .equals) "tags_all.env") ⟨rfl, rfl, rfl⟩ rfl⟩

end BlockAudit.MatchSpec
