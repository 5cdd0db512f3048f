import BlockAudit.Proofs.Evaluation.Bindings
import BlockAudit.Proofs.Evaluation.Simulation
/-!
Variables that are bound beforehand can be put into a match spec that binds none itself: every match value
is replaced by what it resolves to, once, and evaluated without variables. Main statement:
`run_eq_run_substitute`.
-/

namespace BlockAudit.MatchSpec

def resolved (σ : Bindings) (action : Action) (v : Value) : Value :=
  match action with
  | .comparison _ => σ.resolveItems v
  | .hasTag => σ.resolve v
  | _ => v

mutual

def substitute (σ : Bindings) : MatchSpec → MatchSpec
  | ⟨action, name, v, predicates, subMatch, preConditions, assignVariable⟩ =>
    ⟨action, name, resolved σ action v, substituteItems σ predicates, substituteSubMatch σ subMatch,
      substituteItems σ preConditions, assignVariable⟩

def substituteItems (σ : Bindings) : List MatchSpec → List MatchSpec
  | [] => []
  | spec :: specs => substitute σ spec :: substituteItems σ specs

def substituteSubMatch (σ : Bindings) : Option MatchSpec → Option MatchSpec
  | none => none
  | some spec => some (substitute σ spec)

end

variable {σ : Bindings}

theorem substituteItems_eq (specs : List MatchSpec) :
    substituteItems σ specs = specs.map (substitute σ) := by
  induction specs with
  | nil => rfl
  | cons spec specs ih => rw [substituteItems, ih, List.map_cons]

theorem substituteSubMatch_eq (sub : Option MatchSpec) :
    substituteSubMatch σ sub = sub.map (substitute σ) := by
  cases sub <;> rfl

theorem matchValue_substitute (n : MatchSpec) :
    (n.substitute σ).matchValue = resolved σ n.action n.matchValue := by
  cases n
  rfl

theorem keepsShape_substitute : Simulation.KeepsShape (substitute σ) where
  action n := by cases n; rfl
  name n := by cases n; rfl
  assignVariable n := by cases n; rfl
  predicates n := by cases n; exact substituteItems_eq _
  subMatch n := by cases n; exact substituteSubMatch_eq _
  preConditions n := by cases n; exact substituteItems_eq _

/-- The variables of the first side are never touched, and the second side has none. -/
def settled (σ : Bindings) : Simulation where
  trace s t := s.bindings = σ ∧ t.bindings = [] ∧ s.notices = t.notices
  value := Eq
  block := Eq

theorem settled_respects : (settled σ).Respects := by
  apply Simulation.respects_of_trace
  rintro n s t ⟨hs, ht, hnotices⟩
  refine ⟨hs, ht, ?_⟩
  dsimp only
  rw [hnotices]

theorem isNull_resolve (hσ : ∀ x, σ.find? x ≠ some .null) (v : Value) :
    (σ.resolve v).isNull = v.isNull := by
  cases v with
  | str s =>
    simp only [Bindings.resolve]
    cases hs : σ.find? s with
    | none => rfl
    | some w =>
      cases w with
      | null => exact absurd hs (hσ s)
      | _ => rfl
  | _ => rfl

theorem settled_serves (hσ : ∀ x, σ.find? x ≠ some .null) (modules : List Module) (n : MatchSpec) :
    (settled σ).Serves modules modules n (n.substitute σ) := by
  unfold Simulation.Serves
  rw [matchValue_substitute]
  cases n.action with
  | comparison c =>
    rintro s t ⟨hs, ht, -⟩
    rw [hs, ht]
    exact (Bindings.resolveItems_nil _).symm
  | hasTag =>
    refine ⟨(isNull_resolve hσ n.matchValue).symm, ?_⟩
    rintro s t ⟨hs, ht, -⟩
    rw [hs, ht]
    exact (Bindings.resolve_nil _).symm
  | requiresPresence => exact optionRel_refl _
  | _ => trivial

theorem run_eq_run_substitute (modules : List Module) {spec : MatchSpec} (b : Block)
    (hassign : ∀ n ∈ spec.nodes, n.assignVariable = "") (hσ : ∀ x, σ.find? x ≠ some .null) :
    spec.run modules b σ =
      (((spec.substitute σ).run modules b []).1, σ, ((spec.substitute σ).run modules b []).2.2) := by
  have hmirrors := settled_respects.mirrors keepsShape_substitute
    (fun n (_ : n ∈ spec.nodes) => settled_serves hσ modules n)
    fun n hn => Or.inl (by rw [hassign n hn]; rfl)
  obtain ⟨hout, hbindings, -, hnotices⟩ :=
    hmirrors b b rfl ⟨σ, []⟩ ⟨[], []⟩ ⟨rfl, rfl, rfl⟩
  have hreversed := congrArg List.reverse hnotices
  exact Prod.ext hout.eq (Prod.ext hbindings hreversed)

namespace Sample

def ownedByTeam : MatchSpec :=
  ⟨.and, "", .null,
    [⟨.comparison .equals, "owner", .str "team", [], none, [], ""⟩,
      ⟨.not, "", .null, [⟨.comparison .isAny, "owner", .list [.str "other"], [], none, [], ""⟩], none,
        [⟨.hasTag, "env", .str "stage", [], none, [], ""⟩], ""⟩,
      ⟨.comparison .regexMatches, "owner", .str "pattern", [], none, [], ""⟩], none, [], ""⟩

def teams : Bindings :=
  [("team", .str "other"), ("other", .str "infra"), ("stage", .str "team"), ("pattern", .str "(")]

def owner : Block :=
  ⟨"resource", ["bucket", "x"],
    [(.str "owner", .str "other"), (.str "tags", .map [(.str "env", .str "team")])], .file "main", []⟩

end Sample

open Sample in
theorem run_eq_run_substitute_teams :
    (∀ n ∈ ownedByTeam.nodes, n.assignVariable = "") ∧ (∀ x, teams.find? x ≠ some .null) ∧
      ownedByTeam.run [] owner teams = (((ownedByTeam.substitute teams).run [] owner []).1, teams,
        ((ownedByTeam.substitute teams).run [] owner []).2.2) ∧
      (ownedByTeam.predicates.map fun p => (p.run [] owner teams).1) =
        [.ok true, .ok true, .ok false] := by
  have hassign : ∀ n ∈ ownedByTeam.nodes, n.assignVariable = "" := by
    have hall : ownedByTeam.nodes.all (fun n => n.assignVariable == "") = true := by decide
    simpa using hall
  have hbound : ∀ x, teams.find? x ≠ some .null := by
    intro x
    simp only [teams, Bindings.find?]
    split_ifs <;> simp
  exact ⟨hassign, hbound, run_eq_run_substitute [] owner hassign hbound, rfl⟩

end BlockAudit.MatchSpec
