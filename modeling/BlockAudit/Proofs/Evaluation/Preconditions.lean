import BlockAudit.Proofs.Evaluation.Equivalence
import BlockAudit.Proofs.Evaluation.Permutation
/-!
Preconditions are guarded implications: they can be taken one part after the other, and where no
variable is bound a spec with preconditions holds if one of them does not or if the spec holds without
them. Main statement: `preCondition_laws`.
-/

namespace BlockAudit.MatchSpec

open Evaluation

def guarded (spec : MatchSpec) (cs : List MatchSpec) : MatchSpec := { spec with preConditions := cs }

section Evaluations

variable (modules : List Module) (spec : MatchSpec) (cs ds : List MatchSpec) (b : Block)

theorem evaluate_guarded : (spec.guarded cs).evaluate modules b = do
    if ← meets modules cs b then handle modules spec b else return true :=
  evaluate_eq modules (spec.guarded cs) b

theorem evaluate_guarded_nil : (spec.guarded []).evaluate modules b = handle modules spec b :=
  evaluate_of_no_preConditions modules rfl b

theorem meets_append : meets modules (cs ++ ds) b = do
    if ← meets modules cs b then meets modules ds b else return false := by
  induction cs with
  | nil => simp [meets]
  | cons c cs ih =>
    simp only [List.cons_append, meets, bind_assoc, ih]
    congr
    funext met
    cases met <;> simp

theorem equivalent_guarded_append :
    Equivalent (spec.guarded (cs ++ ds)) ((conj [spec.guarded ds]).guarded cs) := by
  intro modules b
  have hconj : handle modules (conj [spec.guarded ds]) b = (spec.guarded ds).evaluate modules b := by
    simp [handle, conj, combine, verdicts]
  rw [evaluate_guarded, evaluate_guarded, hconj, evaluate_guarded, meets_append, bind_assoc]
  congr
  funext met
  cases met <;> simp

end Evaluations

def BindsNothing (spec : MatchSpec) : Prop :=
  ∀ n ∈ spec.nodes, n.isAssigning = true → n.assignVariable.isEmpty = true

instance : DecidablePred BindsNothing := fun _ =>
  inferInstanceAs (Decidable (∀ _ ∈ _, _ → _))

variable {modules : List Module} {spec p c : MatchSpec} {ps cs cs' : List MatchSpec} {b : Block}
  {s t : Trace}

def constant (σ : Bindings) : Contract := ⟨fun _ => True, (· = σ), fun _ => True⟩

theorem BindsNothing.admits (h : p.BindsNothing) {n : MatchSpec} (hn : n ∈ p.nodes)
    (σ : Bindings) : (constant σ).Admits modules n where
  attributeAt := fun _ _ _ _ _ => trivial
  binding := by
    intro hassigning hname
    rw [h n hn hassigning] at hname
    cases hname
  childrenNamed := fun _ _ _ _ _ _ => trivial
  child := fun _ _ _ _ _ _ _ _ => trivial
  holds := fun _ _ _ _ _ _ _ _ _ _ => trivial
  tag? := fun _ _ _ _ _ => trivial
  companion := fun _ _ _ => trivial

theorem BindsNothing.exists_after (h : p.BindsNothing) (modules : List Module) (b : Block)
    (s : Trace) : ∃ t, (p.evaluate modules b).after s = ((p.run modules b s.bindings).1, t) ∧
      t.bindings = s.bindings := by
  have hstart : (p.evaluate modules b).after ⟨s.bindings, []⟩ =
      ((p.run modules b s.bindings).1, ((p.evaluate modules b).after ⟨s.bindings, []⟩).2) := rfl
  have hsame : SameBindings ⟨s.bindings, []⟩ s := fun _ => rfl
  obtain ⟨t, ht, -⟩ := exists_after_of_sameBindings hstart hsame
  have hfollows : (constant s.bindings).Follows modules p :=
    Contract.evaluate fun _ hn => h.admits hn s.bindings
  have hkeeps := (hfollows b trivial s rfl).keeps
  rw [ht] at hkeeps
  exact ⟨t, ht, hkeeps⟩

theorem BindsNothing.of_after (h : p.BindsNothing) {o : Except Fault Bool}
    (hp : (p.evaluate modules b).after s = (o, t)) :
    (p.run modules b s.bindings).1 = o ∧ t.bindings = s.bindings := by
  obtain ⟨t', ht', hbindings⟩ := h.exists_after modules b s
  rw [hp] at ht'
  cases ht'
  exact ⟨rfl, hbindings⟩

theorem meets_ok (h : ∀ c ∈ cs, c.BindsNothing) {met : Bool}
    (hmet : (meets modules cs b).after s = (.ok met, t)) :
    t.bindings = s.bindings ∧
      (met = true → ∀ c ∈ cs, (c.run modules b s.bindings).1 = .ok true) ∧
      (met = false → ∃ c ∈ cs, (c.run modules b s.bindings).1 = .ok false) := by
  induction cs generalizing s with
  | nil =>
    cases hmet
    exact ⟨rfl, fun _ => List.forall_mem_nil _, nofun⟩
  | cons c cs ih =>
    obtain ⟨hc, hcs⟩ := List.forall_mem_cons.mp h
    obtain ⟨v, u, hv, hrest⟩ := after_bind_eq_ok.mp hmet
    obtain ⟨hrun, hu⟩ := hc.of_after hv
    cases v with
    | false =>
      cases hrest
      exact ⟨hu, nofun, fun _ => ⟨c, List.mem_cons_self, hrun⟩⟩
    | true =>
      obtain ⟨ht, hall, hsome⟩ := ih hcs hrest
      rw [hu] at ht hall hsome
      refine ⟨ht, fun hmet => List.forall_mem_cons.mpr ⟨hrun, hall hmet⟩, fun hmet => ?_⟩
      obtain ⟨d, hd, hfalse⟩ := hsome hmet
      exact ⟨d, List.mem_cons_of_mem c hd, hfalse⟩

theorem exists_meets (h : ∀ c ∈ cs, c.BindsNothing)
    (hok : ∀ c ∈ cs, ∃ v, (c.run modules b s.bindings).1 = .ok v) :
    ∃ met t, (meets modules cs b).after s = (.ok met, t) := by
  induction cs generalizing s with
  | nil => exact ⟨true, s, rfl⟩
  | cons c cs ih =>
    obtain ⟨hc, hcs⟩ := List.forall_mem_cons.mp h
    obtain ⟨⟨v, hv⟩, hrest⟩ := List.forall_mem_cons.mp hok
    obtain ⟨u, hu, hbindings⟩ := hc.exists_after modules b s
    rw [hv] at hu
    cases v with
    | false => exact ⟨false, _, after_bind_eq_ok.mpr ⟨false, u, hu, rfl⟩⟩
    | true =>
      rw [← hbindings] at hrest
      obtain ⟨met, t, ht⟩ := ih hcs hrest
      exact ⟨met, t, after_bind_eq_ok.mpr ⟨true, u, hu, ht⟩⟩

theorem verdicts_ok (h : ∀ p ∈ ps, p.BindsNothing) {vs : List Bool}
    (hps : (verdicts modules ps b).after s = (.ok vs, t)) :
    List.Forall₂ (fun p v => (p.run modules b s.bindings).1 = .ok v) ps vs ∧
      t.bindings = s.bindings := by
  induction ps generalizing s vs with
  | nil =>
    cases hps
    exact ⟨.nil, rfl⟩
  | cons p ps ih =>
    obtain ⟨hp, hps'⟩ := List.forall_mem_cons.mp h
    obtain ⟨v, rest, u, hv, hrest, rfl⟩ := verdicts_cons_eq_ok.mp hps
    obtain ⟨hrun, hu⟩ := hp.of_after hv
    obtain ⟨hall, ht⟩ := ih hps' hrest
    rw [hu] at hall ht
    exact ⟨.cons hrun hall, ht⟩

section Runs

variable {start : Bindings}

theorem run_eq_ok_iff {v : Bool} : (p.run modules b start).1 = .ok v ↔
    ∃ t, (p.evaluate modules b).after ⟨start, []⟩ = (.ok v, t) :=
  ⟨fun h => ⟨_, Prod.ext h rfl⟩, fun ⟨_, h⟩ => congrArg Prod.fst h⟩

theorem guarded_ok (hcs : ∀ c ∈ cs, c.BindsNothing) (hspec : (spec.guarded []).BindsNothing)
    {v : Bool} (hv : ((spec.guarded cs).run modules b start).1 = .ok v) :
    ((∃ c ∈ cs, (c.run modules b start).1 = .ok false) ∧ v = true) ∨
      (∀ c ∈ cs, (c.run modules b start).1 = .ok true) ∧
        ((spec.guarded []).run modules b start).1 = .ok v := by
  obtain ⟨t, ht⟩ := run_eq_ok_iff.mp hv
  rw [evaluate_guarded] at ht
  obtain ⟨met, u, hmet, hrest⟩ := after_bind_eq_ok.mp ht
  obtain ⟨hu, hall, hsome⟩ := meets_ok hcs hmet
  cases met with
  | false =>
    cases hrest
    exact Or.inl ⟨hsome rfl, rfl⟩
  | true =>
    have hhandle : ((spec.guarded []).evaluate modules b).after u = (.ok v, t) := by
      rw [evaluate_guarded_nil]
      exact hrest
    obtain ⟨hrun, -⟩ := hspec.of_after hhandle
    rw [hu] at hrun
    exact Or.inr ⟨hall rfl, hrun⟩

theorem exists_guarded (hcs : ∀ c ∈ cs, c.BindsNothing) (hspec : (spec.guarded []).BindsNothing)
    (hok : ∀ c ∈ cs, ∃ v, (c.run modules b start).1 = .ok v) {w : Bool}
    (hw : ((spec.guarded []).run modules b start).1 = .ok w) :
    ∃ v, ((spec.guarded cs).run modules b start).1 = .ok v := by
  obtain ⟨met, u, hmet⟩ := exists_meets (s := ⟨start, []⟩) hcs hok
  suffices h : ∃ v t, ((spec.guarded cs).evaluate modules b).after ⟨start, []⟩ = (.ok v, t) by
    obtain ⟨v, t, ht⟩ := h
    exact ⟨v, run_eq_ok_iff.mpr ⟨t, ht⟩⟩
  rw [evaluate_guarded]
  cases met with
  | false => exact ⟨true, u, after_bind_eq_ok.mpr ⟨false, u, hmet, rfl⟩⟩
  | true =>
    obtain ⟨t, ht, -⟩ := hspec.exists_after modules b u
    rw [(meets_ok hcs hmet).1, hw, evaluate_guarded_nil] at ht
    exact ⟨w, t, after_bind_eq_ok.mpr ⟨true, u, hmet, ht⟩⟩

theorem verdicts_of_forall₂ {xs : List Bool}
    (h : List.Forall₂ (fun c x => (c.run modules b start).1 = .ok x) cs xs) :
    (∀ c ∈ cs, ∃ x, (c.run modules b start).1 = .ok x) ∧
      ((∃ c ∈ cs, (c.run modules b start).1 = .ok false) ↔ xs.any (!·) = true) := by
  induction h with
  | nil => simp
  | @cons c x cs xs hc _ ih =>
    have hhead : (c.run modules b start).1 = .ok false ↔ (!x) = true := by
      rw [hc]
      cases x <;> simp
    refine ⟨List.forall_mem_cons.mpr ⟨⟨x, hc⟩, ih.1⟩, ?_⟩
    rw [List.exists_mem_cons_iff, List.any_cons, Bool.or_eq_true, hhead, ih.2]

theorem implication_ok (hcs : ∀ c ∈ cs, c.BindsNothing) (hp : p.BindsNothing) {v : Bool}
    (hv : ((disj (cs.map neg ++ [p])).run modules b start).1 = .ok v) :
    (∀ c ∈ cs, ∃ x, (c.run modules b start).1 = .ok x) ∧
      ∃ w, (p.run modules b start).1 = .ok w ∧
        (v = true ↔ (∃ c ∈ cs, (c.run modules b start).1 = .ok false) ∨ w = true) := by
  obtain ⟨t, ht⟩ := run_eq_ok_iff.mp hv
  rw [evaluate_disj, verdicts_append, verdicts_map_neg] at ht
  simp only [bind_assoc, pure_bind, after_bind_eq_ok] at ht
  obtain ⟨xs, u, hxs, ws, t', hws, hpure⟩ := ht
  obtain ⟨hall, hu⟩ := verdicts_ok hcs hxs
  obtain ⟨w, rest, t'', hw, hnone, rfl⟩ := verdicts_cons_eq_ok.mp hws
  cases hnone
  cases hpure
  obtain ⟨hrun, -⟩ := hp.of_after hw
  rw [hu] at hrun
  obtain ⟨hok, hfalse⟩ := verdicts_of_forall₂ hall
  refine ⟨hok, w, hrun, ?_⟩
  rw [hfalse]
  simp

theorem not_exists_false (h : ∀ c ∈ cs, (c.run modules b start).1 = .ok true) :
    ¬∃ c ∈ cs, (c.run modules b start).1 = .ok false := by
  rintro ⟨c, hc, hfalse⟩
  rw [h c hc] at hfalse
  cases hfalse

theorem guarded_of_implication (hcs : ∀ c ∈ cs, c.BindsNothing)
    (hspec : (spec.guarded []).BindsNothing) (hperm : cs'.Perm cs) {v : Bool}
    (hv : ((disj (cs.map neg ++ [spec.guarded []])).run modules b start).1 = .ok v) :
    ((spec.guarded cs').run modules b start).1 = .ok v := by
  have hcs' : ∀ c ∈ cs', c.BindsNothing := fun c hc => hcs c (hperm.mem_iff.mp hc)
  obtain ⟨hok, w, hw, hiff⟩ := implication_ok hcs hspec hv
  obtain ⟨v', hv'⟩ := exists_guarded hcs' hspec (fun c hc => hok c (hperm.mem_iff.mp hc)) hw
  have hguarded := guarded_ok hcs' hspec hv'
  simp only [hperm.mem_iff] at hguarded
  rcases hguarded with ⟨hfalse, rfl⟩ | ⟨hall, hw'⟩
  · rw [hv', hiff.mpr (Or.inl hfalse)]
  · rw [hw] at hw'
    cases hw'
    have hvw : v = w := by
      simpa only [not_exists_false hall, false_or, Bool.coe_iff_coe] using hiff
    rw [hv', hvw]

/-- Two orders of the preconditions give one verdict, also where a fault waits behind one of them. -/
theorem guarded_perm (hcs : ∀ c ∈ cs, c.BindsNothing) (hspec : (spec.guarded []).BindsNothing)
    (hperm : cs'.Perm cs) {v w : Bool} (hv : ((spec.guarded cs).run modules b start).1 = .ok v)
    (hw : ((spec.guarded cs').run modules b start).1 = .ok w) : v = w := by
  have hcs' : ∀ c ∈ cs', c.BindsNothing := fun c hc => hcs c (hperm.mem_iff.mp hc)
  have hguarded := guarded_ok hcs' hspec hw
  simp only [hperm.mem_iff] at hguarded
  rcases guarded_ok hcs hspec hv with ⟨hfalse, rfl⟩ | ⟨hall, hv'⟩
  · rcases hguarded with ⟨-, rfl⟩ | ⟨hall, -⟩
    · rfl
    · exact absurd hfalse (not_exists_false hall)
  · rcases hguarded with ⟨hfalse, -⟩ | ⟨-, hw'⟩
    · exact absurd hfalse (not_exists_false hall)
    · rw [hv'] at hw'
      exact Except.ok.inj hw'

end Runs

theorem preCondition_laws (spec : MatchSpec) :
    (∀ cs ds, Equivalent (spec.guarded (cs ++ ds)) ((conj [spec.guarded ds]).guarded cs)) ∧
      ∀ cs, (∀ c ∈ spec.guarded [] :: cs, c.BindsNothing) →
        ∀ (modules : List Module) (b : Block) (start : Bindings) (cs' : List MatchSpec),
          cs'.Perm cs →
            (∀ v, ((disj (cs.map neg ++ [spec.guarded []])).run modules b start).1 = .ok v →
              ((spec.guarded cs').run modules b start).1 = .ok v) ∧
            ∀ v w, ((spec.guarded cs).run modules b start).1 = .ok v →
              ((spec.guarded cs').run modules b start).1 = .ok w → v = w := by
  refine ⟨equivalent_guarded_append spec, ?_⟩
  intro cs hbinds modules b start cs' hperm
  obtain ⟨hspec, hcs⟩ := List.forall_mem_cons.mp hbinds
  exact ⟨fun v hv => guarded_of_implication hcs hspec hperm hv,
    fun v w hv hw => guarded_perm hcs hspec hperm hv hw⟩

namespace Sample

def aclPresent : MatchSpec := ⟨.presence .present, "acl", .null, [], none, [], ""⟩

def ownedByWeb : MatchSpec := ⟨.comparison .equals, "owner", .str "web", [], none, [], ""⟩

end Sample

open Sample in
theorem preCondition_laws_owned :
    (∀ c ∈ ownedByWeb.guarded [] :: [aclPresent, neg ownerListed], c.BindsNothing) ∧
      ((ownedByWeb.guarded []).run [] owned []).1 = .ok false ∧
      ((disj ([aclPresent, neg ownerListed].map neg ++ [ownedByWeb.guarded []])).run [] owned []).1 =
        .ok true ∧
      ((ownedByWeb.guarded [neg ownerListed, aclPresent]).run [] owned []).1 = .ok true := by
  have hbinds : ∀ c ∈ ownedByWeb.guarded [] :: [aclPresent, neg ownerListed], c.BindsNothing := by
    decide
  have himplication : ((disj ([aclPresent, neg ownerListed].map neg ++
      [ownedByWeb.guarded []])).run [] owned []).1 = .ok true := rfl
  have hperm : [neg ownerListed, aclPresent].Perm [aclPresent, neg ownerListed] := .swap _ _ _
  have hlaws := (preCondition_laws ownedByWeb).2 _ hbinds [] owned [] _ hperm
  exact ⟨hbinds, rfl, himplication, hlaws.1 true himplication⟩

end BlockAudit.MatchSpec
