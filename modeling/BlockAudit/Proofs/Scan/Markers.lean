import BlockAudit.Proofs.Evaluation.Markers
import BlockAudit.Proofs.Scan.EqualsCheck
import BlockAudit.Proofs.Template.Strip
import BlockAudit.Proofs.Value.Equality
/-!
Scans with and without markers find the same but for the places, exactly if no marker is in a pair.
Main statement: `agree_iff_clear`.
-/

namespace BlockAudit

def Finding.unlocated (f : Finding) : Finding := { f with location := "" }

namespace Scan

variable (config : ScanConfig) {modules : List Module}

theorem blocks_bare (modules : List Module) :
    blocks (modules.map Module.bare) = (blocks modules).map Block.bare :=
  Module.flatMap_blocks_bare modules

theorem pairs_bare (cs : List Check) : pairs (modules.map Module.bare) cs =
    (pairs modules cs).map fun p => (p.1, p.2.bare) := by
  rw [pairs, pairs, List.map_flatMap]
  refine congrArg (cs.flatMap ·) (funext fun c => ?_)
  rw [blocks_bare, List.filter_map, List.map_map, List.map_map]
  rfl

theorem finding_bare {p : Pair} (h : ∀ b ∈ blocks modules, b.Clear) (hp : p.2.Clear) :
    (judge config (modules.map Module.bare) (p.1, p.2.bare)).finding =
      (judge config modules p).finding.map (·.map Finding.unlocated) := by
  have hholds : holds (modules.map Module.bare) (p.1, p.2.bare) = holds modules p :=
    congrArg Prod.fst (MatchSpec.run_bare h hp p.1.matchSpec [])
  rw [judge_finding, judge_finding, hholds]
  cases holds modules p with
  | error f => rfl
  | ok h =>
    cases h with
    | true => rfl
    | false =>
      simp only [Except.map, finding?, Except.ok.injEq, Bool.false_eq_true, ↓reduceIte]
      split <;> rfl

theorem outcomes_bare {ps : List Pair} (h : ∀ b ∈ blocks modules, b.Clear)
    (hps : ∀ p ∈ ps, p.2.Clear) :
    outcomes config (modules.map Module.bare) (ps.map fun p => (p.1, p.2.bare)) =
      (outcomes config modules ps).map (·.map (·.map Finding.unlocated)) := by
  induction ps with
  | nil => rfl
  | cons p ps ih =>
    obtain ⟨hp, hrest⟩ := List.forall_mem_cons.mp hps
    rw [outcomes, outcomes, List.map_cons, List.mapM_cons, List.mapM_cons, finding_bare config h hp]
    change _ >>= (fun o => outcomes config _ _ >>= _) = _
    rw [ih hrest]
    cases (judge config modules p).finding with
    | error f => rfl
    | ok o =>
      change _ = Except.map _ (outcomes config modules ps >>= _)
      cases outcomes config modules ps <;> rfl

theorem findingsBy_bare (s t : Schedule) (registry : Registry) (h : ∀ b ∈ blocks modules, b.Clear) :
    (findingsBy t config registry (modules.map Module.bare)).start.1 =
      (findingsBy s config registry modules).start.1.map (·.map Finding.unlocated) := by
  have hclear : ∀ p ∈ chosenPairs config modules registry.checks, p.2.Clear := by
    intro p hp
    rw [chosenPairs_eq_product] at hp
    exact h p.2 (List.mem_product.mp (List.mem_of_mem_filter hp)).2
  rw [findingsBy_start, findingsBy_start, chosenPairs, pairs_bare, ← chosenPairs,
    outcomes_bare config h hclear]
  cases outcomes config modules (chosenPairs config modules registry.checks) with
  | error f => rfl
  | ok os =>
    simp only [mapError_ok, Except.map, List.filterMap_map, List.map_filterMap]
    rfl

theorem equalsCheck_tells {b : Block} {type name : String} {u v : Value}
    (h : b.attributeAt name = .ok u) (hbare : b.bare.attributeAt name = .ok u.strip)
    (hv : v.markerFree = true)
    (hfails : Fails .default (modules.map Module.bare) (equalsCheck type name v, b.bare)) :
    Fails .default modules (equalsCheck type name v, b) := by
  -- A value that equals one without markers has none, so it is the same on both sides.
  obtain ⟨htype, hbareVerdict⟩ := (fails_equalsCheck hbare v).mp hfails
  refine (fails_equalsCheck h v).mpr ⟨htype, Bool.eq_false_iff.mpr fun hverdict => ?_⟩
  have hfree := Value.markerFree_of_equalTo (Bool.and_eq_true_iff.mp hverdict).2 hv
  rw [Value.strip_of_markerFree hfree, hverdict] at hbareVerdict
  cases hbareVerdict

theorem length_filter_lt_length_filter {α : Type} {p q : α → Bool} {as : List α}
    (h : ∀ a ∈ as, q a = true → p a = true) {a : α} (ha : a ∈ as) (hp : p a = true)
    (hq : ¬q a = true) : (as.filter q).length < (as.filter p).length := by
  have hfilter : as.filter q = (as.filter p).filter q := by
    rw [List.filter_filter]
    refine List.filter_congr fun a ha => ?_
    rw [Bool.eq_iff_iff, Bool.and_eq_true]
    exact ⟨fun hqa => ⟨hqa, h a ha hqa⟩, fun hqa => hqa.1⟩
  rw [hfilter]
  exact List.length_filter_lt_length_iff_exists.mpr ⟨a, List.mem_filter.mpr ⟨ha, hp⟩, hq⟩

theorem exists_length_failures_lt
    (hkeyed : ∀ b ∈ blocks modules, (Value.map b.body).keyedByText = true)
    (hplain : ∀ b ∈ blocks modules, b.PlainKeys) {b : Block} (hb : b ∈ blocks modules)
    (h : ¬b.Clear) : ∃ type name v, '.' ∉ name.toList ∧
      (failures .default (modules.map Module.bare) [equalsCheck type name v]).length <
        (failures .default modules [equalsCheck type name v]).length := by
  obtain ⟨name, u, hname, hu, hbare, hmarked, hkeyedStrip⟩ :=
    Block.exists_attribute_of_not_clear (hkeyed b hb) (hplain b hb) h
  -- The check asks for the stripped value: it fails on the block, and not without its markers.
  refine ⟨b.type, name, u.strip, hname, ?_⟩
  rw [length_failures_singleton, length_failures_singleton, blocks_bare, List.filter_map,
    List.length_map]
  refine length_filter_lt_length_filter (fun c hc hfails => ?_) hb ?_ ?_
  · obtain ⟨w, hw, hwbare, -⟩ := Block.exists_attribute (hkeyed c hc) hname
    exact decide_eq_true
      (equalsCheck_tells hw hwbare (Value.markerFree_strip u) (of_decide_eq_true hfails))
  · refine decide_eq_true ((fails_equalsCheck hu _).mpr ⟨rfl, ?_⟩)
    apply Bool.eq_false_iff.mpr
    intro hverdict
    have hfree := Value.markerFree_of_equalTo (Bool.and_eq_true_iff.mp hverdict).2
      (Value.markerFree_strip u)
    rw [hmarked] at hfree
    cases hfree
  · intro hfails
    have hverdict := ((fails_equalsCheck hbare _).mp (of_decide_eq_true hfails)).2
    have hnull : u.strip.isNull = false := by
      cases u <;> first | rfl | cases hmarked
    rw [hnull, Value.equalTo_self hkeyedStrip] at hverdict
    cases hverdict

/-- The two scans find the same but for the places, or meet the same fault. -/
def Agree (registry : Registry) (modules others : List Module) : Prop :=
  ∀ s t, (findingsBy s config registry modules).start.1.map (·.map Finding.unlocated) =
    (findingsBy t config registry others).start.1.map (·.map Finding.unlocated)

theorem agree_of_bare_eq (registry : Registry) {others : List Module}
    (h : ∀ b ∈ blocks modules, b.Clear) (ho : ∀ b ∈ blocks others, b.Clear)
    (hbare : others.map Module.bare = modules.map Module.bare) :
    Agree config registry modules others := by
  intro s t
  rw [← findingsBy_bare config s s registry h, ← findingsBy_bare config t s registry ho, hbare]

theorem keyedByText_bare (hkeyed : ∀ b ∈ blocks modules, (Value.map b.body).keyedByText = true) :
    ∀ b ∈ blocks (modules.map Module.bare), (Value.map b.body).keyedByText = true := by
  rw [blocks_bare]
  intro c hc
  obtain ⟨b, hb, rfl⟩ := List.mem_map.mp hc
  exact Value.keyedByText_strip (hkeyed b hb)

theorem clear_of_agree (hkeyed : ∀ b ∈ blocks modules, (Value.map b.body).keyedByText = true)
    (hplain : ∀ b ∈ blocks modules, b.PlainKeys)
    (h : ∀ registry, Agree .default registry modules (modules.map Module.bare)) :
    ∀ b ∈ blocks modules, b.Clear := by
  intro b hb
  by_contra hclear
  obtain ⟨type, name, v, hname, hlt⟩ := exists_length_failures_lt hkeyed hplain hb hclear
  have heq := h (onlyCheck (equalsCheck type name v)) .inTurn .inTurn
  rw [findingsBy_of_noFault _ _ _ (noFault_equalsCheck hname hkeyed),
    findingsBy_of_noFault _ _ _ (noFault_equalsCheck hname (keyedByText_bare hkeyed))] at heq
  have hlength := congrArg List.length (Except.ok.inj heq)
  rw [List.length_map, List.length_map] at hlength
  exact Nat.ne_of_gt hlt hlength

theorem agree_iff_clear (modules : List Module)
    (hkeyed : ∀ b ∈ blocks modules, (Value.map b.body).keyedByText = true) :
    (∀ filename modulePath es, (Value.map es).keyedByText = true →
      ∃ bs, Template.blocks filename modulePath es = .ok bs ∧
        Template.blocks filename modulePath (Value.stripEntries es) =
          .ok (bs.map (Template.stripped filename))) ∧
      ((∀ b ∈ blocks modules, b.Clear) →
        ∀ others : List Module, (∀ b ∈ blocks others, b.Clear) →
          others.map Module.bare = modules.map Module.bare →
            ∀ config registry, Agree config registry modules others) ∧
      ((∀ b ∈ blocks modules, b.PlainKeys) →
        ((∀ config registry, Agree config registry modules (modules.map Module.bare)) ↔
          ∀ b ∈ blocks modules, b.Clear)) := by
  refine ⟨fun filename modulePath es hes => Template.blocks_strip filename modulePath hes,
    fun h others ho hbare config registry => agree_of_bare_eq config registry h ho hbare,
    fun hplain => ⟨fun h => clear_of_agree hkeyed hplain (h .default), ?_⟩⟩
  intro h config registry
  apply agree_of_bare_eq config registry h
  · rw [blocks_bare]
    intro c hc
    obtain ⟨b, hb, rfl⟩ := List.mem_map.mp hc
    exact Block.clear_bare (hkeyed b hb)
  · rw [List.map_map]
    exact List.map_congr_left fun m _ => m.bare_bare

namespace Sample

def marked (es : List Entry) : Value := .map (es ++ [(.str lineKey, .int 1)])

def tagged : Block :=
  ⟨"resource", ["bucket", "x"], [(.str "tags", marked [(.str "env", .str "prod")])],
    .file "main", []⟩

def paired : Block :=
  ⟨"resource", ["bucket", "x"],
    [(.str "tags", .list [.pair (.str "env") (marked [(.str "name", .str "prod")])])],
    .file "main", []⟩

def tagsCheck (v : Value) : Registry := onlyCheck (check "A" .high (.comparison .equals) "tags" v)

end Sample

open Sample in
theorem agree_tagged :
    tagged.Clear ∧ tagged.PlainKeys ∧
      Agree .default (tagsCheck (.map [(.str "env", .str "prod")])) [⟨".", [tagged]⟩]
        [⟨".", [tagged.bare]⟩] ∧
      ∃ bs, Template.blocks "main" [] [(.str "output", marked [(.str "x", marked [])])] = .ok bs ∧
        Template.blocks "main" [] [(.str "output", .map [(.str "x", .map [])])] =
          .ok (bs.map (Template.stripped "main")) := by
  have hclear : tagged.Clear := ⟨by decide, by decide⟩
  have hplain : tagged.PlainKeys := by
    intro e he s hs
    rw [List.mem_singleton.mp he] at hs
    cases hs
    decide
  have hblocks : ∀ b ∈ blocks [⟨".", [tagged]⟩], b = tagged := fun b => List.mem_singleton.mp
  obtain ⟨htemplate, -, hiff⟩ := agree_iff_clear [⟨".", [tagged]⟩]
    fun b hb => hblocks b hb ▸ hclear.keyed
  refine ⟨hclear, hplain, ?_, htemplate "main" [] _ (by decide)⟩
  exact (hiff fun b hb => hblocks b hb ▸ hplain).mpr (fun b hb => hblocks b hb ▸ hclear) .default _

open Sample in
theorem not_agree_paired : (Value.map paired.body).keyedByText = true ∧
    ¬Agree .default (tagsCheck (.list [.pair (.str "env") (.map [(.str "name", .str "prod")])]))
      [⟨".", [paired]⟩] [⟨".", [paired.bare]⟩] := by
  refine ⟨by decide, fun h => ?_⟩
  have hcount : (.ok 1 : Except Failure Nat) = .ok 0 :=
    congrArg (Except.map List.length) (h .inTurn .inTurn)
  cases hcount

end Scan
end BlockAudit
