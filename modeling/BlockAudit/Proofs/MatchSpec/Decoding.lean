import BlockAudit.MatchSpec.Decode
import BlockAudit.Proofs.Except
import BlockAudit.Proofs.MatchSpec.Places
import BlockAudit.Proofs.Value.Lookup
import BlockAudit.Proofs.Value.Parts
/-!
Reading a match spec, part by part: a value has children where the match spec that is read from it has
its own, and the reading of a mapping is put together from the readings of its parts.
-/

namespace BlockAudit

namespace MatchSpec

open Value

theorem decodeEntry_eq (name path : String) (es : List Entry) :
    decodeEntry name path es = decodeList path (get name es) := by
  induction es with
  | nil => rfl
  | cons e es ih =>
    obtain ⟨k, v⟩ := e
    cases k with
    | str key =>
      rw [decodeEntry, get_cons, ih]
      split <;> rfl
    | _ => exact ih

def decodeOptional (path : String) (v : Value) : Except SpecDefect (Option MatchSpec) :=
  if v.isNull then .ok none else (decode path v).map some

theorem decodeSubMatch_eq (path : String) (es : List Entry) :
    decodeSubMatch path es = decodeOptional path (get "subMatch" es) := by
  induction es with
  | nil => rfl
  | cons e es ih =>
    obtain ⟨k, v⟩ := e
    cases k with
    | str key =>
      rw [decodeSubMatch, get_cons, ih]
      split <;> rfl
    | _ => exact ih

def childValue? (v : Value) : Step → Option Value
  | .item b i => (part b.key v).items[i]?
  | .subMatch => if (part "subMatch" v).isNull then none else some (part "subMatch" v)

def valueAt? : List Step → Value → Option Value
  | [], v => some v
  | s :: steps, v => (childValue? v s).bind (valueAt? steps)

theorem childValue?_subMatch {es : List Entry} {w : Value} : childValue? (.map es) .subMatch = some w ↔
    get "subMatch" es ≠ .null ∧ get "subMatch" es = w := by
  rw [childValue?, part, ne_eq, ← isNull_iff]
  split <;> simp [*]

theorem mem_of_getElem?_items {es : List Entry} {name : String} {i : Nat} {w : Value}
    (h : (get name es).items[i]? = some w) :
    ∃ vs, get name es = list vs ∧ w ∈ vs ∧ (str name, list vs) ∈ es := by
  cases hv : get name es with
  | list vs =>
    have hmem : (str name, get name es) ∈ es := mem_of_get (by rw [hv]; exact nofun)
    rw [hv] at h hmem
    exact ⟨vs, rfl, List.mem_of_getElem? h, hmem⟩
  | _ =>
    rw [hv] at h
    cases h

theorem induct_value {motive : Value → Prop} (other : ∀ v, v.entries? = none → motive v)
    (node : ∀ es, (∀ s c, childValue? (.map es) s = some c → motive c) → motive (.map es))
    (v : Value) : motive v := by
  -- The items of a list are children of the node above the list, not of the list.
  suffices h : motive v ∧ ∀ vs, v = .list vs → ∀ w ∈ vs, motive w from h.1
  induction v with
  | leaf v hleaf =>
    have hother : v.entries? = none := by cases v <;> first | rfl | cases hleaf
    refine ⟨other v hother, ?_⟩
    rintro vs rfl
    cases hleaf
  | list vs ih =>
    refine ⟨other _ rfl, ?_⟩
    rintro ws hws w hw
    cases hws
    exact (ih w hw).1
  | pair v w _ _ => exact ⟨other _ rfl, nofun⟩
  | map es ih =>
    refine ⟨node es fun s c hc => ?_, nofun⟩
    cases s with
    | subMatch =>
      obtain ⟨hnull, rfl⟩ := childValue?_subMatch.mp hc
      exact (ih _ (mem_of_get hnull)).1
    | item b i =>
      obtain ⟨vs, -, hc, hmem⟩ := mem_of_getElem?_items hc
      exact (ih _ hmem).2 vs rfl c hc

theorem decode_of_not_map (path : String) {v : Value} (h : v.entries? = none) :
    decode path v = .error (.notObject path) := by
  cases v with
  | map es => cases h
  | _ => rfl

theorem decode_map (path : String) (es : List Entry) : decode path (.map es) = do
    let action ← decodeAction (get "action" es)
    let name ← decodeName (partPath path "name") (get "name" es)
    let predicates ← decodeList (partPath path Branch.predicates.key) (get Branch.predicates.key es)
    let subMatch ← decodeOptional (partPath path "subMatch") (get "subMatch" es)
    let preConditions ←
      decodeList (partPath path Branch.preConditions.key) (get Branch.preConditions.key es)
    let variableName ← decodeName (partPath path "assignVariable") (get "assignVariable" es)
    return ⟨action, name, decodeMatchValue es, predicates, subMatch, preConditions, variableName⟩ := by
  rw [decode, decodeEntry_eq, decodeEntry_eq, decodeSubMatch_eq]
  rfl

structure DecodesTo (path : String) (es : List Entry) (spec : MatchSpec) : Prop where
  action : decodeAction (get "action" es) = .ok spec.action
  name : decodeName (partPath path "name") (get "name" es) = .ok spec.name
  matchValue : decodeMatchValue es = spec.matchValue
  branches : ∀ b : Branch, decodeList (partPath path b.key) (get b.key es) = .ok (b.specs spec)
  subMatch : decodeOptional (partPath path "subMatch") (get "subMatch" es) = .ok spec.subMatch
  assignVariable :
    decodeName (partPath path "assignVariable") (get "assignVariable" es) = .ok spec.assignVariable

theorem decode_map_eq_ok {path : String} {es : List Entry} {spec : MatchSpec} :
    decode path (.map es) = .ok spec ↔ DecodesTo path es spec := by
  rw [decode_map]
  constructor
  · intro h
    obtain ⟨action, haction, h⟩ := bind_eq_ok.mp h
    obtain ⟨name, hname, h⟩ := bind_eq_ok.mp h
    obtain ⟨predicates, hpredicates, h⟩ := bind_eq_ok.mp h
    obtain ⟨subMatch, hsub, h⟩ := bind_eq_ok.mp h
    obtain ⟨preConditions, hpreConditions, h⟩ := bind_eq_ok.mp h
    obtain ⟨variableName, hvariable, h⟩ := bind_eq_ok.mp h
    cases h
    refine ⟨haction, hname, rfl, fun b => ?_, hsub, hvariable⟩
    cases b with
    | predicates => exact hpredicates
    | preConditions => exact hpreConditions
  · intro h
    rw [h.action, ok_bind, h.name, ok_bind, h.branches, ok_bind, h.subMatch, ok_bind, h.branches,
      ok_bind, h.assignVariable, ok_bind, h.matchValue]
    cases spec
    rfl

theorem decodeName_ok_path {path : String} {v : Value} {s : String} (h : decodeName path v = .ok s)
    (other : String) : decodeName other v = .ok s := by
  cases v with
  | null | str t => exact h
  | _ => cases h

theorem decodeItems_ok_path {path : String} {vs : List Value} {i : Nat} {specs : List MatchSpec}
    (ih : ∀ v ∈ vs, ∀ path spec, decode path v = .ok spec → ∀ other, decode other v = .ok spec)
    (h : decodeItems path i vs = .ok specs) (other : String) : decodeItems other i vs = .ok specs := by
  induction vs generalizing i specs with
  | nil => exact h
  | cons v vs hvs =>
    obtain ⟨spec, hspec, h⟩ := bind_eq_ok.mp h
    obtain ⟨rest, hrest, h⟩ := bind_eq_ok.mp h
    have htail := hvs (fun w hw => ih w (List.mem_cons_of_mem _ hw)) hrest
    rw [decodeItems, ih v List.mem_cons_self _ spec hspec, ok_bind, htail, ok_bind]
    exact h

theorem decodeList_ok_path {path : String} {v : Value} {specs : List MatchSpec}
    (ih : ∀ (i : Nat) w, v.items[i]? = some w →
      ∀ path spec, decode path w = .ok spec → ∀ other, decode other w = .ok spec)
    (h : decodeList path v = .ok specs) (other : String) : decodeList other v = .ok specs := by
  cases v with
  | null => exact h
  | list vs =>
    refine decodeItems_ok_path (fun w hw => ?_) h other
    obtain ⟨i, hi⟩ := List.mem_iff_getElem?.mp hw
    exact ih i w hi
  | _ => cases h

theorem decodeOptional_eq_ok {path : String} {v : Value} {subMatch : Option MatchSpec} :
    decodeOptional path v = .ok subMatch ↔ (v = .null ∧ subMatch = none) ∨
      v ≠ .null ∧ ∃ spec, subMatch = some spec ∧ decode path v = .ok spec := by
  rw [decodeOptional]
  by_cases hnull : v = .null
  · simp [hnull, isNull, eq_comm]
  · rw [if_neg fun h => hnull (isNull_iff.mp h)]
    cases decode path v <;> simp [hnull, Except.map, eq_comm]

theorem decode_ok_path {path : String} {v : Value} {spec : MatchSpec} (h : decode path v = .ok spec)
    (other : String) : decode other v = .ok spec := by
  induction v using induct_value generalizing path spec other with
  | other v hv =>
    rw [decode_of_not_map _ hv] at h
    cases h
  | node es ih =>
    rw [decode_map_eq_ok] at h ⊢
    refine ⟨h.action, decodeName_ok_path h.name _, h.matchValue, fun b => ?_, ?_,
      decodeName_ok_path h.assignVariable _⟩
    · refine decodeList_ok_path (fun i w hw path spec hread => ?_) (h.branches b) _
      exact ih (.item b i) w hw hread
    · have hsub := h.subMatch
      rw [decodeOptional_eq_ok] at hsub ⊢
      rcases hsub with hnone | ⟨hnull, spec, hspec, hread⟩
      · exact Or.inl hnone
      · have hchild := childValue?_subMatch.mpr ⟨hnull, rfl⟩
        exact Or.inr ⟨hnull, spec, hspec, ih .subMatch _ hchild hread _⟩

end MatchSpec
end BlockAudit
