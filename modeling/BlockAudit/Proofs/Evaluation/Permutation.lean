import BlockAudit.Proofs.Evaluation.Noninterference
import BlockAudit.Proofs.Evaluation.Provenance
/-!
Predicates that neither read nor bind what the others bind can be evaluated in any order. Main
statement: `run_predicates_perm`.
-/

namespace BlockAudit.MatchSpec

open Evaluation

def assigned (spec : MatchSpec) : List String :=
  (spec.nodes.map assignVariable).filter fun x => !x.isEmpty

/-- Neither spec reads or binds a variable that the other one binds. -/
def Independent (p q : MatchSpec) : Prop :=
  (∀ x ∈ p.assigned, x ∉ q.reads ∧ x ∉ q.assigned) ∧
    ∀ x ∈ q.assigned, x ∉ p.reads ∧ x ∉ p.assigned

instance (p q : MatchSpec) : Decidable (Independent p q) :=
  inferInstanceAs (Decidable ((∀ _ ∈ _, _ ∧ _) ∧ ∀ _ ∈ _, _ ∧ _))

def SameBindings (s t : Trace) : Prop := ∀ x, s.bindings.find? x = t.bindings.find? x

variable {modules : List Module} {p q spec : MatchSpec} {b : Block} {s t s' : Trace}

theorem Independent.symm (h : Independent p q) : Independent q p := ⟨h.2, h.1⟩

theorem mem_assigned_of_assigns {n : MatchSpec} {x : String} (hn : n ∈ p.nodes)
    (h : n.Assigns x) : x ∈ p.assigned := by
  obtain ⟨-, hname, rfl⟩ := h
  exact List.mem_filter.mpr ⟨List.mem_map_of_mem hn, by simp [hname]⟩

theorem find?_of_not_assigned {o : Except Fault Bool}
    (hp : (p.evaluate modules b).after s = (o, t)) {x : String} (hx : x ∉ p.assigned) :
    t.bindings.find? x = s.bindings.find? x := by
  have hgrown := grown_after modules p b s x
  rw [hp] at hgrown
  rcases hgrown with h | ⟨v, -, -, n, hn, hassigns, -⟩
  · exact h
  · exact absurd (mem_assigned_of_assigns hn hassigns) hx

theorem exists_after_of_reads {o : Except Fault Bool}
    (hp : (p.evaluate modules b).after s = (o, t))
    (h : ∀ x ∈ p.reads, s.bindings.find? x = s'.bindings.find? x) :
    ∃ t', (p.evaluate modules b).after s' = (o, t') ∧
      Aligned s.bindings s'.bindings t t' := by
  have hserves : ∀ n ∈ p.nodes, (aligned s.bindings s'.bindings).Serves modules modules n n :=
    fun n hn => aligned_serves modules fun x hx => h x (List.mem_flatMap.mpr ⟨n, hn, hx⟩)
  obtain ⟨hout, haligned⟩ :=
    aligned_sound.evaluate hserves b b rfl s s' fun _ => Or.inl ⟨rfl, rfl⟩
  rw [hp] at hout haligned
  exact ⟨((p.evaluate modules b).after s').2, Prod.ext hout.eq.symm rfl, haligned⟩

theorem exists_after_of_sameBindings {o : Except Fault Bool}
    (hp : (p.evaluate modules b).after s = (o, t)) (h : SameBindings s s') :
    ∃ t', (p.evaluate modules b).after s' = (o, t') ∧ SameBindings t t' := by
  obtain ⟨t', hp', haligned⟩ := exists_after_of_reads hp fun x _ => h x
  exact ⟨t', hp', fun x => haligned.find?_eq (h x)⟩

theorem exists_after_swapped (h : Independent p q) {u : Trace} {v w : Except Fault Bool}
    (hp : (p.evaluate modules b).after s = (v, u))
    (hq : (q.evaluate modules b).after u = (w, t)) :
    ∃ u' t', (q.evaluate modules b).after s = (w, u') ∧
      (p.evaluate modules b).after u' = (v, t') ∧ SameBindings t t' := by
  -- What `q` reads is the same before and after `p`, so it comes to the same without `p`.
  have hqreads : ∀ x ∈ q.reads, u.bindings.find? x = s.bindings.find? x := by
    intro x hx
    exact find?_of_not_assigned hp fun hassigned => (h.1 x hassigned).1 hx
  obtain ⟨u', hq', hqaligned⟩ := exists_after_of_reads hq hqreads
  have hpreads : ∀ x ∈ p.reads, s.bindings.find? x = u'.bindings.find? x := by
    intro x hx
    exact (find?_of_not_assigned hq' fun hassigned => (h.2 x hassigned).1 hx).symm
  obtain ⟨t', hp', hpaligned⟩ := exists_after_of_reads hp hpreads
  refine ⟨u', t', hq', hp', fun x => ?_⟩
  by_cases hx : x ∈ p.assigned
  · have hxq := (h.1 x hx).2
    rw [find?_of_not_assigned hq hxq]
    exact hpaligned.find?_eq (find?_of_not_assigned hq' hxq).symm
  · rw [find?_of_not_assigned hp' hx]
    exact hqaligned.find?_eq (find?_of_not_assigned hp hx)

theorem verdicts_cons_eq_ok {ps : List MatchSpec} {vs : List Bool} :
    (verdicts modules (p :: ps) b).after s = (.ok vs, t) ↔ ∃ v rest u,
      (p.evaluate modules b).after s = (.ok v, u) ∧
        (verdicts modules ps b).after u = (.ok rest, t) ∧ vs = v :: rest := by
  rw [verdicts, after_bind_eq_ok]
  constructor
  · rintro ⟨v, u, hp, hrest⟩
    obtain ⟨rest, u', hps, hpure⟩ := after_bind_eq_ok.mp hrest
    cases hpure
    exact ⟨v, rest, u, hp, hps, rfl⟩
  · rintro ⟨v, rest, u, hp, hps, rfl⟩
    exact ⟨v, u, hp, after_bind_eq_ok.mpr ⟨rest, t, hps, rfl⟩⟩

theorem exists_verdicts_of_sameBindings {ps : List MatchSpec} {vs : List Bool}
    (hps : (verdicts modules ps b).after s = (.ok vs, t)) (h : SameBindings s s') :
    ∃ t', (verdicts modules ps b).after s' = (.ok vs, t') ∧ SameBindings t t' := by
  induction ps generalizing s s' vs with
  | nil =>
    cases hps
    exact ⟨s', rfl, h⟩
  | cons p ps ih =>
    obtain ⟨v, rest, u, hp, hrest, rfl⟩ := verdicts_cons_eq_ok.mp hps
    obtain ⟨u', hp', hu⟩ := exists_after_of_sameBindings hp h
    obtain ⟨t', hrest', ht⟩ := ih hrest hu
    exact ⟨t', verdicts_cons_eq_ok.mpr ⟨v, rest, u', hp', hrest', rfl⟩, ht⟩

theorem exists_verdicts_perm {ps qs : List MatchSpec} (hperm : ps.Perm qs)
    (hind : ps.Pairwise Independent) {vs : List Bool}
    (hps : (verdicts modules ps b).after s = (.ok vs, t)) :
    ∃ ws t', (verdicts modules qs b).after s = (.ok ws, t') ∧ vs.Perm ws ∧
      SameBindings t t' := by
  induction hperm generalizing s t vs with
  | nil => exact ⟨vs, t, hps, .refl vs, fun _ => rfl⟩
  | cons p hperm ih =>
    obtain ⟨v, rest, u, hp, hrest, rfl⟩ := verdicts_cons_eq_ok.mp hps
    obtain ⟨ws, t', hws, hvs, ht⟩ := ih (List.pairwise_cons.mp hind).2 hrest
    exact ⟨v :: ws, t', verdicts_cons_eq_ok.mpr ⟨v, ws, u, hp, hws, rfl⟩, hvs.cons v, ht⟩
  | swap p q ps =>
    obtain ⟨w, rest, u, hq, hrest, rfl⟩ := verdicts_cons_eq_ok.mp hps
    obtain ⟨v, vs, u', hp, hlast, rfl⟩ := verdicts_cons_eq_ok.mp hrest
    have hqp : Independent q p := (List.pairwise_cons.mp hind).1 p List.mem_cons_self
    obtain ⟨y, z, hp', hq', hz⟩ := exists_after_swapped hqp hq hp
    obtain ⟨t', hlast', ht⟩ := exists_verdicts_of_sameBindings hlast hz
    have hrest' := verdicts_cons_eq_ok.mpr ⟨w, vs, z, hq', hlast', rfl⟩
    have hall := verdicts_cons_eq_ok.mpr ⟨v, w :: vs, y, hp', hrest', rfl⟩
    exact ⟨v :: w :: vs, t', hall, .swap v w vs, ht⟩
  | trans hfirst _ ihfirst ihsecond =>
    obtain ⟨us, t', hus, hvs, ht⟩ := ihfirst hind hps
    have hind' := hfirst.pairwise hind fun h => h.symm
    obtain ⟨ws, t'', hws, hus', ht'⟩ := ihsecond hind' hus
    exact ⟨ws, t'', hws, hvs.trans hus', fun x => (ht x).trans (ht' x)⟩

theorem exists_combined_perm {ps qs : List MatchSpec} (hperm : ps.Perm qs)
    (hind : ps.Pairwise Independent) {combine : List Bool → Bool}
    (hcombine : ∀ {vs ws : List Bool}, vs.Perm ws → combine vs = combine ws) {v : Bool}
    (hps : (do return combine (← verdicts modules ps b) : Evaluation Bool).after s = (.ok v, t)) :
    ∃ t', (do return combine (← verdicts modules qs b) : Evaluation Bool).after s = (.ok v, t') ∧
      SameBindings t t' := by
  obtain ⟨vs, u, hvs, hpure⟩ := after_bind_eq_ok.mp hps
  cases hpure
  obtain ⟨ws, t', hws, hperm', ht⟩ := exists_verdicts_perm hperm hind hvs
  rw [hcombine hperm']
  exact ⟨t', after_bind_eq_ok.mpr ⟨ws, t', hws, rfl⟩, ht⟩

theorem exists_handle_perm (haction : spec.action = .and ∨ spec.action = .or)
    (hind : spec.predicates.Pairwise Independent) {ps : List MatchSpec}
    (hperm : ps.Perm spec.predicates) {v : Bool}
    (hspec : (handle modules spec b).after s = (.ok v, t)) :
    ∃ t', (handle modules { spec with predicates := ps } b).after s = (.ok v, t') ∧
      SameBindings t t' := by
  unfold handle at hspec ⊢
  rcases haction with haction | haction
  · rw [haction] at hspec ⊢
    exact exists_combined_perm hperm.symm hind (fun h => h.all_eq) hspec
  · rw [haction] at hspec ⊢
    exact exists_combined_perm hperm.symm hind (fun h => h.any_eq) hspec

theorem exists_after_perm (haction : spec.action = .and ∨ spec.action = .or)
    (hind : spec.predicates.Pairwise Independent) {ps : List MatchSpec}
    (hperm : ps.Perm spec.predicates) {v : Bool}
    (hspec : (spec.evaluate modules b).after s = (.ok v, t)) :
    ∃ t', ({ spec with predicates := ps }.evaluate modules b).after s = (.ok v, t') ∧
      SameBindings t t' := by
  rw [evaluate_eq] at hspec ⊢
  obtain ⟨met, u, hmet, hrest⟩ := after_bind_eq_ok.mp hspec
  cases met with
  | false =>
    cases hrest
    exact ⟨t, after_bind_eq_ok.mpr ⟨false, t, hmet, rfl⟩, fun _ => rfl⟩
  | true =>
    obtain ⟨t', hhandle, ht⟩ := exists_handle_perm haction hind hperm hrest
    exact ⟨t', after_bind_eq_ok.mpr ⟨true, u, hmet, hhandle⟩, ht⟩

theorem run_predicates_perm (modules : List Module) {spec : MatchSpec}
    (haction : spec.action = .and ∨ spec.action = .or)
    (hind : spec.predicates.Pairwise Independent) {ps : List MatchSpec}
    (hperm : ps.Perm spec.predicates) (b : Block) (start : Bindings) {verdict : Bool}
    (hok : (spec.run modules b start).1 = .ok verdict) :
    ({ spec with predicates := ps }.run modules b start).1 = .ok verdict ∧
      ∀ x, ({ spec with predicates := ps }.run modules b start).2.1.find? x =
        (spec.run modules b start).2.1.find? x := by
  have hspec : (spec.evaluate modules b).after ⟨start, []⟩ =
      (.ok verdict, ((spec.evaluate modules b).after ⟨start, []⟩).2) := Prod.ext hok rfl
  obtain ⟨t', ht', hsame⟩ := exists_after_perm haction hind hperm hspec
  have hout : ({ spec with predicates := ps }.run modules b start).1 = .ok verdict :=
    congrArg Prod.fst ht'
  have hbindings : ({ spec with predicates := ps }.run modules b start).2.1 = t'.bindings :=
    congrArg (·.2.bindings) ht'
  refine ⟨hout, fun x => ?_⟩
  rw [hbindings]
  exact (hsame x).symm

namespace Sample

def bindAcl : MatchSpec := ⟨.presence .present, "acl", .null, [], none, [], "acl_found"⟩

def bindOwner : MatchSpec := ⟨.comparison .notEquals, "owner", .str "team", [], none, [], "held_by"⟩

def ownerListed : MatchSpec :=
  ⟨.comparison .isAny, "owner", .list [.str "team", .str "infra"], [], none, [], ""⟩

def audited : MatchSpec :=
  ⟨.and, "", .null, [bindAcl, bindOwner, ownerListed], none, [bindAcl], ""⟩

end Sample

open Sample in
theorem run_predicates_perm_audited :
    audited.predicates.Pairwise Independent ∧
      [ownerListed, bindAcl, bindOwner].Perm audited.predicates ∧
      (audited.run [] owned [("team", .str "web")]).1 = .ok true ∧
      ({ audited with predicates := [ownerListed, bindAcl, bindOwner] }.run [] owned
        [("team", .str "web")]).1 = .ok true := by
  have hind : audited.predicates.Pairwise Independent := by decide
  have hperm : ([ownerListed] ++ [bindAcl, bindOwner]).Perm audited.predicates :=
    List.perm_append_comm
  have hok : (audited.run [] owned [("team", .str "web")]).1 = .ok true := rfl
  exact ⟨hind, hperm, hok, (run_predicates_perm [] (Or.inl rfl) hind hperm owned _ hok).1⟩

end BlockAudit.MatchSpec
