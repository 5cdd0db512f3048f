import BlockAudit.Proofs.Block.Reading
import BlockAudit.Proofs.Evaluation.Provenance
/-!
When an evaluation comes to a verdict: what it is asked to read can be read, whatever is missing or of
another type than expected. Main statement: `exists_verdict`.
-/

namespace BlockAudit

namespace Value

/-- An integer has a binary number near it. -/
def fits : Value → Bool
  | int n => (Number.Binary.ofInt? n).isSome
  | _ => true

theorem exists_number? {v : Value} (h : v.fits = true) : ∃ o, v.number? = .ok o := by
  cases v with
  | int n =>
    obtain ⟨x, hx⟩ := Option.isSome_iff_exists.mp h
    exact ⟨some x, by rw [number?, hx]⟩
  | _ => exact ⟨_, rfl⟩

end Value

def Pattern.Compiles (s : String) : Prop :=
  ∀ e, Pattern.parse s.toList = .error e → ∃ reason, e = .malformed reason

namespace Comparison

theorem exists_onNumbers {v w : Value} (hv : v.fits = true) (hw : w.fits = true)
    (test : Number.Binary → Number.Binary → Bool) : ∃ r, onNumbers test v w = .ok r := by
  obtain ⟨x, hx⟩ := Value.exists_number? hv
  obtain ⟨y, hy⟩ := Value.exists_number? hw
  rw [onNumbers, hx, hy]
  cases x <;> cases y <;> exact ⟨_, rfl⟩

theorem exists_matching (v : Value) {w : Value} (h : ∀ s, w = .str s → Pattern.Compiles s) :
    ∃ r, matching v w = .ok r := by
  unfold matching
  split
  · next s t _ =>
    cases hparse : Pattern.parse t.toList with
    | ok p => exact ⟨p.found s, rfl⟩
    | error e =>
      obtain ⟨reason, rfl⟩ := h t rfl e hparse
      exact ⟨false, rfl⟩
  · exact ⟨false, rfl⟩

theorem exists_holds (c : Comparison) {v w : Value} (hv : v.fits = true) (hw : w.fits = true)
    (h : c = regexMatches → ∀ s, w = .str s → Pattern.Compiles s) : ∃ r, c.holds v w = .ok r := by
  cases c with
  | lessThan => exact exists_onNumbers hv hw _
  | lessThanOrEqualTo => exact exists_onNumbers hv hw _
  | greaterThan => exact exists_onNumbers hv hw _
  | greaterThanOrEqualTo => exact exists_onNumbers hv hw _
  | regexMatches => exact exists_matching v (h rfl)
  | _ => exact ⟨_, rfl⟩

end Comparison

namespace MatchSpec

def StandsFor (modules : List Module) (spec : MatchSpec) (b : Block) (start : Bindings)
    (s : String) (v : Value) : Prop :=
  v = .str s ∨ start.find? s = some v ∨ spec.Supplies modules b s v

/-- All that an evaluation is asked to read can be read. -/
structure Readable (modules : List Module) (spec : MatchSpec) (b : Block) (start : Bindings) :
    Prop where
  keys : ∀ c ∈ b :: modules.flatMap Module.blocks, (Value.map c.body).keyedByText = true
  names : ∀ n ∈ spec.nodes, n.isAssigning = true →
    Value.Indexed (Text.fields '.' n.name.toList)
  bodies : ∀ c ∈ b :: modules.flatMap Module.blocks,
    (Value.map c.body).everyPart Value.fits = true
  matchValues : ∀ n ∈ spec.nodes, n.matchValue.fits = true
  bound : ∀ x v, start.find? x = some v → v.fits = true
  patterns : ∀ n ∈ spec.nodes, n.action = .comparison .regexMatches →
    ∀ s, n.matchValue = .str s → ∀ t, spec.StandsFor modules b start s (.str t) →
      Pattern.Compiles t

variable {modules : List Module} {spec n : MatchSpec} {b c : Block} {start σ : Bindings}

theorem Grown.standsFor_resolve (h : spec.Grown modules b start σ) (s : String) :
    spec.StandsFor modules b start s (σ.resolve (.str s)) := by
  rw [Bindings.resolve]
  rcases h s with hs | ⟨v, hs, hsupplies⟩
  · rw [hs]
    cases hstart : start.find? s with
    | none => exact Or.inl rfl
    | some v => exact Or.inr (Or.inl hstart)
  · rw [hs]
    exact Or.inr (Or.inr hsupplies)

def Legible (c : Block) : Prop :=
  (Value.map c.body).keyedByText = true ∧ (Value.map c.body).everyPart Value.fits = true

theorem Legible.fits (h : Legible c) {path : String} {v : Value}
    (hv : c.attributeAt path = .ok v) : v.fits = true := by
  cases v with
  | int n =>
    have hpart := Block.of_attributeAt_leaf (Value.everyPart_inherited Value.fits) rfl h.2 hv rfl
    exact hpart
  | _ => rfl

theorem Legible.exists_children (h : Legible c) (name : String) :
    ∃ cs, c.childrenNamed name = .ok cs ∧ ∀ d ∈ cs, Legible d := by
  have hinherited := Value.keyedByText_inherited.and (Value.everyPart_inherited Value.fits)
  exact Block.exists_childrenNamed hinherited h.1 h name

theorem Readable.legible (h : spec.Readable modules b start) (hc : Target modules b c) :
    Legible c := by
  induction hc with
  | self => exact ⟨h.keys b List.mem_cons_self, h.bodies b List.mem_cons_self⟩
  | listed hc =>
    have hmem := List.mem_cons_of_mem b hc
    exact ⟨h.keys _ hmem, h.bodies _ hmem⟩
  | child _ hcs hd ih =>
    obtain ⟨ds, hds, hlegible⟩ := ih.exists_children _
    rw [hcs] at hds
    cases hds
    exact hlegible _ hd

theorem Readable.fits_of_standsFor (h : spec.Readable modules b start) {s : String} {v : Value}
    (hv : spec.StandsFor modules b start s v) : v.fits = true := by
  rcases hv with rfl | hstart | ⟨-, n, -, -, c, hc, hattribute⟩
  · rfl
  · exact h.bound s v hstart
  · exact (h.legible hc).fits hattribute

theorem Readable.fits_resolveItems (h : spec.Readable modules b start) (hn : n ∈ spec.nodes)
    (hσ : spec.Grown modules b start σ) : (σ.resolveItems n.matchValue).fits = true := by
  have hfits := h.matchValues n hn
  cases hv : n.matchValue with
  | str s => exact h.fits_of_standsFor (hσ.standsFor_resolve s)
  | list vs => rfl
  | _ => rwa [hv] at hfits

theorem Readable.compiles (h : spec.Readable modules b start) (hn : n ∈ spec.nodes)
    (ha : n.action = .comparison .regexMatches) (hσ : spec.Grown modules b start σ) {t : String}
    (ht : σ.resolveItems n.matchValue = .str t) : Pattern.Compiles t := by
  cases hv : n.matchValue with
  | str s =>
    rw [hv] at ht
    have hstands := hσ.standsFor_resolve s
    rw [show σ.resolve (.str s) = .str t from ht] at hstands
    exact h.patterns n hn ha s hv t hstands
  | _ =>
    rw [hv] at ht
    cases ht

def steady (modules : List Module) (spec : MatchSpec) (b : Block) (start : Bindings) :
    Contract where
  block := Target modules b
  bindings := spec.Grown modules b start
  fault := fun _ => False

theorem steady_admits (h : spec.Readable modules b start) (hn : n ∈ spec.nodes) :
    (spec.steady modules b start).Admits modules n where
  attributeAt := by
    intro hassigning c hc f hf
    obtain ⟨v, hv⟩ := Block.exists_attributeAt (h.legible hc).1 (h.names n hn hassigning)
    rw [hv] at hf
    cases hf
  binding := (growing_admits hn).binding
  childrenNamed := by
    intro p hp c hc f hf
    obtain ⟨cs, hcs, -⟩ := (h.legible hc).exists_children n.name
    rw [hcs] at hf
    cases hf
  child := fun _ _ _ hc _ hcs _ hd => hc.child hcs hd
  holds := by
    intro a ha c hc v hv σ hσ f hf
    obtain ⟨r, hr⟩ := Comparison.exists_holds a ((h.legible hc).fits hv)
      (h.fits_resolveItems hn hσ) fun hregex t ht => h.compiles hn (hregex ▸ ha) hσ ht
    rw [hr] at hf
    cases hf
  tag? := by
    intro ha c hc f hf
    obtain ⟨o, ho⟩ := Block.exists_tag? (h.legible hc).1 n.name
    rw [ho] at hf
    cases hf
  companion := (growing_admits (b := b) (σ := start) hn).companion

theorem exists_verdict (modules : List Module) (spec : MatchSpec) (b : Block) (start : Bindings)
    (h : spec.Readable modules b start) :
    ∃ verdict, (spec.run modules b start).1 = .ok verdict := by
  have hfollows := Contract.evaluate (fun _ hn => steady_admits h hn) b .self ⟨start, []⟩ grown_self
  obtain ⟨verdict, hverdict, -⟩ := hfollows.exists_ok
  exact ⟨verdict, hverdict⟩

namespace Sample

def limited : MatchSpec :=
  ⟨.or, "", .null,
    [⟨.comparison .lessThan, "rules.0.port", .str "limit", [], none, [], "low"⟩,
      ⟨.comparison .regexMatches, "rules.1.name", .str "(a", [], none, [], ""⟩,
      ⟨.requiresPresence, "policy", .null, [], none, [], ""⟩], none, [], ""⟩

def ruled : Block :=
  ⟨"resource", ["gate", "x"], [(.str "rules", .list [.map [(.str "port", .bool true)],
    .map [(.str "name", .str "a")]])], .file "main", []⟩

end Sample

open Sample in
theorem exists_verdict_ruled :
    limited.Readable [] ruled [("limit", .int 1024)] ∧
      ∃ verdict, (limited.run [] ruled [("limit", .int 1024)]).1 = .ok verdict := by
  have hreadable : limited.Readable [] ruled [("limit", .int 1024)] := by
    constructor
    · decide
    · decide
    · decide
    · decide
    · intro x v hv
      simp only [Bindings.find?] at hv
      split at hv
      · cases hv
        rfl
      · cases hv
    · intro n hn ha s hs t ht
      have hpattern : ∀ n ∈ limited.nodes, n.action = .comparison .regexMatches →
          n.matchValue.text? = some "(a" := by decide
      have hunbound : ∀ n ∈ limited.nodes, n.assignVariable ≠ "(a" := by decide
      have htext := hpattern n hn ha
      rw [hs] at htext
      obtain rfl := Option.some.inj htext
      rcases ht with ht | hstart | ⟨-, m, hm, ⟨-, -, hassigns⟩, -⟩
      · cases ht
        intro e he
        cases he
        exact ⟨_, rfl⟩
      · cases hstart
      · exact absurd hassigns (hunbound m hm)
  exact ⟨hreadable, exists_verdict [] limited ruled _ hreadable⟩

end MatchSpec
end BlockAudit
