import BlockAudit.MatchSpec.Encode
import BlockAudit.Proofs.MatchSpec.Action
import BlockAudit.Proofs.MatchSpec.Decoding
import BlockAudit.Proofs.Text.Blank

namespace BlockAudit.MatchSpec

open Value

variable {path : String} {spec : MatchSpec}

def written (absent : Bool) (v : Value) : Value := if absent then .null else v

@[simp]
theorem lookup?_entryUnless (absent : Bool) (key name : String) (v : Value) :
    lookup? name (entryUnless absent key v) =
      if key = name then (if absent then none else some v) else none := by
  cases absent <;> simp [entryUnless, lookup?]

@[simp]
theorem lookup?_encodeSubMatch (name : String) (subMatch : Option MatchSpec) :
    lookup? name (encodeSubMatch subMatch) =
      if "subMatch" = name then subMatch.map encode else none := by
  cases subMatch <;> simp [encodeSubMatch, lookup?]

@[simp]
theorem getD_written (absent : Bool) (v : Value) :
    (if absent then none else some v).getD .null = written absent v := by
  cases absent <;> rfl

theorem exists_encode (spec : MatchSpec) : ∃ es, spec.encode = .map es ∧
    get "action" es = .str spec.action.name ∧
    get "name" es = written spec.name.isEmpty (.str spec.name) ∧
    decodeMatchValue es = spec.matchValue ∧
    (∀ b : Branch, get b.key es =
      written (b.specs spec).isEmpty (.list (encodeList (b.specs spec)))) ∧
    get "subMatch" es = (spec.subMatch.map encode).getD .null ∧
    get "assignVariable" es = written spec.assignVariable.isEmpty (.str spec.assignVariable) := by
  obtain ⟨action, name, matchValue, predicates, subMatch, preConditions, assignVariable⟩ := spec
  refine ⟨_, rfl, rfl, ?_, ?_, fun b => ?_, ?_, ?_⟩
  · simp [Value.get, lookup?, lookup?_append, -String.isEmpty_iff]
  · cases hnull : matchValue.isNull with
    | false => simp [decodeMatchValue, lookup?, lookup?_append]
    | true => simp [decodeMatchValue, Value.get, lookup?, lookup?_append, isNull_iff.mp hnull]
  · cases b <;> simp [Branch.key, Branch.specs, Value.get, lookup?, lookup?_append, -List.isEmpty_iff]
  · simp [Value.get, lookup?, lookup?_append]
  · simp [Value.get, lookup?, lookup?_append, -String.isEmpty_iff]

def ReadsBack (spec : MatchSpec) : Prop := ∀ path, decode path spec.encode = .ok spec

theorem decodeName_written {name : String} (h : Text.stripped name = name) (path : String) :
    decodeName path (written name.isEmpty (.str name)) = .ok name := by
  cases hempty : name.isEmpty with
  | true => rw [String.isEmpty_iff.mp hempty]; rfl
  | false => rw [written, if_neg (by simp), decodeName, h]

theorem decodeItems_encodeList {specs : List MatchSpec} (h : ∀ p ∈ specs, p.ReadsBack)
    (path : String) (i : Nat) : decodeItems path i (encodeList specs) = .ok specs := by
  induction specs generalizing i with
  | nil => rfl
  | cons p specs ih =>
    rw [encodeList, decodeItems, h p List.mem_cons_self, ok_bind,
      ih (fun q hq => h q (List.mem_cons_of_mem _ hq)), ok_bind]
    rfl

theorem decodeList_written {specs : List MatchSpec} (h : ∀ p ∈ specs, p.ReadsBack) (path : String) :
    decodeList path (written specs.isEmpty (.list (encodeList specs))) = .ok specs := by
  cases specs with
  | nil => rfl
  | cons p specs => exact decodeItems_encodeList h path 0

theorem decodeOptional_encode {subMatch : Option MatchSpec} (h : ∀ p ∈ subMatch, p.ReadsBack)
    (path : String) : decodeOptional path ((subMatch.map encode).getD .null) = .ok subMatch := by
  cases subMatch with
  | none => rfl
  | some p =>
    obtain ⟨es, hes, -⟩ := exists_encode p
    have hnull : p.encode.isNull = false := by
      rw [hes]
      rfl
    rw [Option.map_some, Option.getD_some, decodeOptional, if_neg (by simp [hnull]), h p rfl]
    rfl

theorem readsBack_of_parts (hname : Text.stripped spec.name = spec.name)
    (hvariable : Text.stripped spec.assignVariable = spec.assignVariable)
    (hbranches : ∀ b : Branch, ∀ p ∈ b.specs spec, p.ReadsBack)
    (hsub : ∀ p ∈ spec.subMatch, p.ReadsBack) : spec.ReadsBack := by
  intro path
  obtain ⟨es, hes, haction, hnameEntry, hvalue, hlists, hsubEntry, hvariableEntry⟩ :=
    exists_encode spec
  have hread : decodeAction (.str spec.action.name) = .ok spec.action := by
    rw [decodeAction, Action.ofValue?_eq_some_iff.mpr ⟨_, rfl, Or.inl rfl⟩]
  rw [hes, decode_map_eq_ok]
  refine ⟨haction ▸ hread, hnameEntry ▸ decodeName_written hname _, hvalue, fun b => ?_,
    hsubEntry ▸ decodeOptional_encode hsub _, hvariableEntry ▸ decodeName_written hvariable _⟩
  rw [hlists b]
  exact decodeList_written (hbranches b) _

theorem stripped_of_decodeName {v : Value} {s : String} (h : decodeName path v = .ok s) :
    Text.stripped s = s := by
  cases v with
  | null =>
    cases h
    rfl
  | str t =>
    cases h
    exact Text.stripped_stripped t
  | _ => cases h

theorem exists_of_decodeItems {vs : List Value} {i : Nat} {specs : List MatchSpec}
    (h : decodeItems path i vs = .ok specs) {p : MatchSpec} (hp : p ∈ specs) :
    ∃ v ∈ vs, ∃ path, decode path v = .ok p := by
  induction vs generalizing i specs with
  | nil =>
    cases h
    cases hp
  | cons v vs ih =>
    obtain ⟨q, hq, h⟩ := bind_eq_ok.mp h
    obtain ⟨qs, hqs, h⟩ := bind_eq_ok.mp h
    cases h
    rcases List.mem_cons.mp hp with rfl | hp
    · exact ⟨v, List.mem_cons_self, _, hq⟩
    · obtain ⟨w, hw, hread⟩ := ih hqs hp
      exact ⟨w, List.mem_cons_of_mem _ hw, hread⟩

theorem exists_of_decodeList {v : Value} {specs : List MatchSpec} (h : decodeList path v = .ok specs)
    {p : MatchSpec} (hp : p ∈ specs) : ∃ (i : Nat) (w : Value), v.items[i]? = some w ∧
      ∃ path, decode path w = .ok p := by
  cases v with
  | null =>
    cases h
    cases hp
  | list vs =>
    obtain ⟨w, hw, hread⟩ := exists_of_decodeItems h hp
    obtain ⟨i, hi⟩ := List.mem_iff_getElem?.mp hw
    exact ⟨i, w, hi, hread⟩
  | _ => cases h

theorem readsBack_of_decode {raw : Value} (h : decode path raw = .ok spec) : spec.ReadsBack := by
  induction raw using induct_value generalizing path spec with
  | other v hv =>
    rw [decode_of_not_map path hv] at h
    cases h
  | node es ih =>
    rw [decode_map_eq_ok] at h
    refine readsBack_of_parts (stripped_of_decodeName h.name)
      (stripped_of_decodeName h.assignVariable) (fun b p hp => ?_) fun p hp => ?_
    · obtain ⟨i, w, hw, path, hread⟩ := exists_of_decodeList (h.branches b) hp
      exact ih (.item b i) w hw hread
    · rcases decodeOptional_eq_ok.mp h.subMatch with ⟨-, hnone⟩ | ⟨hnull, q, hq, hread⟩
      · rw [hnone] at hp
        cases hp
      · obtain rfl : q = p := by simpa [hq] using hp
        exact ih .subMatch _ (childValue?_subMatch.mpr ⟨hnull, rfl⟩) hread

end BlockAudit.MatchSpec
