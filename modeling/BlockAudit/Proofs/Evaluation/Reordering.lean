import BlockAudit.Proofs.Block.Reordering
import BlockAudit.Proofs.Evaluation.Bindings
import BlockAudit.Proofs.Evaluation.Simulation

namespace BlockAudit

namespace Comparison

open Value

variable {v w x y : Value} {vs ws : List Value}

theorem any_reordered {p q : Value → Bool} (h : List.Forall₂ Reordered vs ws)
    (hpq : ∀ v w, Reordered v w → p v = q w) : vs.any p = ws.any q := by
  induction h with
  | nil => rfl
  | cons hvw _ ih => rw [List.any_cons, List.any_cons, hpq _ _ hvw, ih]

theorem onTexts_reordered (test : List Char → List Char → Bool) (h : Reordered v w)
    (hx : Reordered x y) : onTexts test v x = onTexts test w y := by
  rw [onTexts, onTexts, h.comparedText?, hx.comparedText?]

theorem contains_reordered {es fs : List Entry} (h : Reordered (map es) (map fs)) (name : String) :
    Value.contains name es = Value.contains name fs := by
  have hfound := lookup?_reordered h name
  rw [Value.contains, Value.contains]
  generalize lookup? name es = p, lookup? name fs = q at hfound
  cases hfound <;> rfl

theorem contained_reordered (h : Reordered v w) (hx : Reordered x y) :
    contained v x = contained w y := by
  cases h with
  | list h => exact any_reordered h fun v w hvw => equalTo_reordered hvw hx
  | map hes order =>
    cases hx with
    | leaf _ =>
      cases x with
      | str s => exact contains_reordered (.map hes order) s
      | _ => rfl
    | _ => rfl
  | pair hfirst hsecond => rfl
  | leaf hleaf =>
    have hscalar : ∀ z, contained v z = onTexts (fun s t => Text.isInfix t s) v z := by
      cases v with
      | list vs | map es => cases hleaf
      | _ => exact fun z => rfl
    rw [hscalar, hscalar]
    exact onTexts_reordered _ (.leaf hleaf) hx

theorem anyOf_reordered (h : Reordered v w) (hx : Reordered x y) : anyOf v x = anyOf w y := by
  cases hx with
  | list hx => exact any_reordered hx fun x y hxy => equalTo_reordered h hxy
  | leaf hleaf =>
    cases x with
    | list vs => cases hleaf
    | _ => rfl
  | _ => rfl

theorem noneOf_reordered (h : Reordered v w) (hx : Reordered x y) : noneOf v x = noneOf w y := by
  cases hx with
  | list hx =>
    exact congrArg (fun p => !p) (any_reordered hx fun x y hxy => equalTo_reordered h hxy)
  | leaf hleaf =>
    cases x with
    | list vs => cases hleaf
    | _ => rfl
  | _ => rfl

theorem onNumbers_reordered (test : Number.Binary → Number.Binary → Bool) (h : Reordered v w)
    (hx : Reordered x y) : onNumbers test v x = onNumbers test w y := by
  rw [onNumbers, onNumbers, h.number?, hx.number?]

theorem matching_reordered (h : Reordered v w) (hx : Reordered x y) :
    matching v x = matching w y := by
  unfold matching
  rw [h.comparedText?]
  cases hx with
  | leaf _ => rfl
  | _ => cases w.comparedText? <;> rfl

theorem holds_reordered (c : Comparison) (h : Reordered v w) (hx : Reordered x y) :
    c.holds v x = c.holds w y := by
  cases c with
  | equals => exact congrArg Except.ok (equalTo_reordered h hx)
  | notEquals => exact congrArg (fun p => Except.ok !p) (equalTo_reordered h hx)
  | startsWith => exact congrArg Except.ok (onTexts_reordered _ h hx)
  | endsWith => exact congrArg Except.ok (onTexts_reordered _ h hx)
  | contains => exact congrArg Except.ok (contained_reordered h hx)
  | notContains => exact congrArg (fun p => Except.ok !p) (contained_reordered h hx)
  | regexMatches => exact matching_reordered h hx
  | isAny => exact congrArg Except.ok (anyOf_reordered h hx)
  | isNone => exact congrArg Except.ok (noneOf_reordered h hx)
  | lessThan | lessThanOrEqualTo | greaterThan | greaterThanOrEqualTo =>
    exact onNumbers_reordered _ h hx

theorem notices_reordered (c : Comparison) (h : Reordered v w) (hx : Reordered x y) :
    c.notices v x = c.notices w y := by
  unfold notices
  rw [h.comparedText?]
  cases hx with
  | leaf _ => rfl
  | _ => cases c <;> cases w.comparedText? <;> rfl

end Comparison

theorem Presence.isEmptyValue_reordered {v w : Value} (h : v.Reordered w) :
    isEmptyValue v = isEmptyValue w := by
  cases h with
  | list h => cases h <;> rfl
  | map h order =>
    have hlength := Value.length_eq_of_reordered (.map h order)
    rw [isEmptyValue, isEmptyValue, Bool.eq_iff_iff, List.isEmpty_iff_length_eq_zero, hlength,
      List.isEmpty_iff_length_eq_zero]
  | _ => rfl

def Module.Reordered (m n : Module) : Prop := List.Forall₂ Block.Reordered m.blocks n.blocks

namespace Bindings

def Reordered (σ τ : Bindings) : Prop :=
  ∀ name, Option.Rel Value.Reordered (σ.find? name) (τ.find? name)

variable {σ τ : Bindings} {v w : Value}

theorem Reordered.bind (h : Reordered σ τ) (name : String) (hvw : v.Reordered w) :
    Reordered (σ.bind name v) (τ.bind name w) := by
  intro n
  rw [find?_bind, find?_bind]
  split
  · exact .some hvw
  · exact h n

theorem Reordered.resolve (h : Reordered σ τ) (v : Value) :
    (σ.resolve v).Reordered (τ.resolve v) := by
  cases v with
  | str s =>
    have hfound := h s
    simp only [Bindings.resolve]
    generalize σ.find? s = p, τ.find? s = q at hfound
    cases hfound with
    | none => exact .refl _
    | some hvw => exact hvw
  | _ => exact .refl _

theorem Reordered.resolveItems (h : Reordered σ τ) (v : Value) :
    (σ.resolveItems v).Reordered (τ.resolveItems v) := by
  cases v with
  | list vs =>
    refine .list (List.forall₂_map_left_iff.mpr (List.forall₂_map_right_iff.mpr ?_))
    exact List.forall₂_same.mpr fun v _ => h.resolve v
  | str s => exact h.resolve (.str s)
  | _ => exact .refl _

end Bindings

namespace MatchSpec

def reordered : Simulation where
  trace s t := s.bindings.Reordered t.bindings ∧ s.notices = t.notices
  value := Value.Reordered
  block := Block.Reordered

theorem reordered_sound : reordered.Sound where
  note n s t := by
    rintro ⟨hbindings, hnotices⟩
    exact ⟨hbindings, congrArg (n :: ·) hnotices⟩
  address _ _ h := h.address
  inModule _ _ h := h.inModule
  attributeAt _ _ path h := h.attributeAt path
  tag? _ _ key h := h.tag? key
  childrenNamed _ _ name h := h.childrenNamed name
  isNull _ _ h := h.isNull
  isEmptyValue _ _ h := Presence.isEmptyValue_reordered h
  equalTo _ _ _ _ h hx := Value.equalTo_reordered h hx
  holds c _ _ _ _ h hx := Comparison.holds_reordered c h hx
  notices c _ _ _ _ h hx := Comparison.notices_reordered c h hx
  bind name v w s t := by
    rintro hvw ⟨hbindings, hnotices⟩
    exact ⟨hbindings.bind name hvw, hnotices⟩

variable {modules modules' : List Module}

theorem ofType_reordered (h : List.Forall₂ Module.Reordered modules modules') (name : String) :
    List.Forall₂ Block.Reordered (Module.ofType name modules) (Module.ofType name modules') := by
  refine List.rel_filter (fun b c hb => ?_) (List.rel_flatMap h fun m n hmn => hmn)
  exact iff_of_eq (congrArg (· = true) (hb.matchesType name))

theorem reordered_serves (h : List.Forall₂ Module.Reordered modules modules') (spec : MatchSpec) :
    reordered.Serves modules modules' spec spec := by
  unfold Simulation.Serves
  cases spec.action with
  | comparison c =>
    rintro s t ⟨hbindings, -⟩
    exact hbindings.resolveItems spec.matchValue
  | hasTag =>
    refine ⟨rfl, ?_⟩
    rintro s t ⟨hbindings, -⟩
    exact hbindings.resolve spec.matchValue
  | requiresPresence =>
    have hblocks := ofType_reordered h spec.name
    dsimp only
    generalize Module.ofType spec.name modules = bs, Module.ofType spec.name modules' = cs
      at hblocks
    cases hblocks with
    | nil => exact .none
    | cons hb _ => exact .some hb
  | _ => trivial

theorem run_reordered (spec : MatchSpec) {b c : Block} {σ τ : Bindings}
    (hmodules : List.Forall₂ Module.Reordered modules modules') (hb : b.Reordered c)
    (hσ : σ.Reordered τ) :
    (spec.run modules b σ).1 = (spec.run modules' c τ).1 ∧
      (spec.run modules b σ).2.1.Reordered (spec.run modules' c τ).2.1 ∧
      (spec.run modules b σ).2.2 = (spec.run modules' c τ).2.2 := by
  have hfollows := reordered_sound.evaluate fun n (_ : n ∈ spec.nodes) => reordered_serves hmodules n
  obtain ⟨hout, hbindings, hnotices⟩ := hfollows b c hb ⟨σ, []⟩ ⟨τ, []⟩ ⟨hσ, rfl⟩
  exact ⟨hout.eq, hbindings, congrArg List.reverse hnotices⟩

namespace Sample

def tags : List Entry := [(.str "env", .str "prod"), (.str "team", .str "web")]

def rule : List Entry := [(.str "port", .int 80), (.str "open", .bool true)]

def tagged : Block :=
  ⟨"resource", ["bucket", "a"], [(.str "tags", .map tags), (.str "rules", .list [.map rule])],
    .file "main", []⟩

def turned : Block :=
  ⟨"resource", ["bucket", "a"],
    [(.str "rules", .list [.map rule.reverse]), (.str "tags", .map tags.reverse)], .file "main", []⟩

def asKnown : MatchSpec :=
  ⟨.and, "", .null,
    [⟨.comparison .equals, "tags", .str "known", [], none, [], "seen"⟩,
      ⟨.comparison .isAny, "rules.0", .list [.str "rule"], [], none, [], ""⟩,
      ⟨.requiresPresence, "bucket", .null, [],
        some ⟨.comparison .equals, "tags", .str "seen", [], none, [], ""⟩, [], ""⟩], none, [], ""⟩

theorem reordered_turned : tagged.Reordered turned where
  type := rfl
  labels := rfl
  modulePath := rfl
  body := by
    have htags : Value.Reordered (.map tags) (.map tags.reverse) :=
      .of_perm (by decide) (List.reverse_perm tags).symm
    have hrule : Value.Reordered (.map rule) (.map rule.reverse) :=
      .of_perm (by decide) (List.reverse_perm rule).symm
    exact .map (.cons (.mk htags) (.cons (.mk (.list (.cons hrule .nil))) .nil))
      (.inr ⟨by decide, .swap _ _ _⟩)

end Sample

open Sample in
theorem run_reordered_tagged :
    List.Forall₂ Module.Reordered [⟨".", [tagged]⟩] [⟨".", [turned]⟩] ∧ tagged.Reordered turned ∧
      Bindings.Reordered [("known", .map tags), ("rule", .map rule)]
        [("known", .map tags.reverse), ("rule", .map rule)] ∧
      (asKnown.run [⟨".", [tagged]⟩] tagged [("known", .map tags), ("rule", .map rule)]).1 =
        .ok true ∧
      (asKnown.run [⟨".", [turned]⟩] turned [("known", .map tags.reverse), ("rule", .map rule)]).1 =
        .ok true := by
  have hmodules : List.Forall₂ Module.Reordered [⟨".", [tagged]⟩] [⟨".", [turned]⟩] :=
    .cons (.cons reordered_turned .nil) .nil
  have htags : Value.Reordered (.map tags) (.map tags.reverse) :=
    .of_perm (by decide) (List.reverse_perm tags).symm
  have hσ : Bindings.Reordered [("known", .map tags), ("rule", .map rule)]
      [("known", .map tags.reverse), ("rule", .map rule)] := by
    intro name
    simp only [Bindings.find?]
    split_ifs
    · exact .some htags
    · exact .some (.refl _)
    · exact .none
  have hverdict : (asKnown.run [⟨".", [tagged]⟩] tagged
      [("known", .map tags), ("rule", .map rule)]).1 = .ok true := by rfl
  obtain ⟨hsame, -⟩ := run_reordered asKnown hmodules reordered_turned hσ
  exact ⟨hmodules, reordered_turned, hσ, hverdict, hsame ▸ hverdict⟩

end MatchSpec
end BlockAudit
