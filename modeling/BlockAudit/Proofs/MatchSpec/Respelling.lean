import BlockAudit.Proofs.MatchSpec.Encoding
import Mathlib.Logic.Relation

namespace BlockAudit.MatchSpec

open Value

def partNames : List String :=
  ["action", "name", "predicateMatchSpec", "subMatch", "preConditions", "assignVariable"]

def valueNames : List String := ["matchValue", "value"]

theorem valueNames_ne_partNames : ∀ key ∈ valueNames, ∀ name ∈ partNames, key ≠ name := by decide

/-- One change at one node of a value. -/
inductive Edit : Value → Value → Prop where
  | order {es fs : List Entry} (once : NamedOnce es) (perm : es.Perm fs) : Edit (.map es) (.map fs)
  | extra (es fs : List Entry) (k v : Value) (unknown : ∀ name ∈ partNames ++ valueNames, k ≠ .str name) :
      Edit (.map (es ++ fs)) (.map (es ++ (k, v) :: fs))
  | otherName (es fs : List Entry) :
      Edit (.map (es ++ (.str "action", .str "notEquals") :: fs))
        (.map (es ++ (.str "action", .str "notEqual") :: fs))
  | blanks (es fs : List Entry) (key before s after : String)
      (text : key = "name" ∨ key = "assignVariable")
      (hbefore : ∀ c ∈ before.toList, Text.isBlank c = true)
      (hafter : ∀ c ∈ after.toList, Text.isBlank c = true) :
      Edit (.map (es ++ (.str key, .str s) :: fs))
        (.map (es ++ (.str key, .str (before ++ s ++ after)) :: fs))
  | value (es fs : List Entry) (v : Value) (absent : lookup? "matchValue" (es ++ fs) = none)
      (once : lookup? "value" es = none) :
      Edit (.map (es ++ (.str "matchValue", v) :: fs)) (.map (es ++ (.str "value", v) :: fs))
  | subMatch (es fs : List Entry) {v w : Value} (edit : Edit v w) :
      Edit (.map (es ++ (.str "subMatch", v) :: fs)) (.map (es ++ (.str "subMatch", w) :: fs))
  | item (b : Branch) (es fs : List Entry) (vs ws : List Value) {v w : Value} (edit : Edit v w) :
      Edit (.map (es ++ (.str b.key, .list (vs ++ v :: ws)) :: fs))
        (.map (es ++ (.str b.key, .list (vs ++ w :: ws)) :: fs))

def Respelled : Value → Value → Prop := Relation.EqvGen Edit

structure Interchangeable (key : String) (v w : Value) : Prop where
  action : key = "action" → decodeAction v = decodeAction w
  text : key = "name" ∨ key = "assignVariable" → ∀ path, decodeName path v = decodeName path w
  list : ∀ b : Branch, key = b.key → ∀ path, decodeList path v = decodeList path w
  subMatch : key = "subMatch" → ∀ path, decodeOptional path v = decodeOptional path w
  value : key ≠ "matchValue" ∧ key ≠ "value"

variable {v w : Value} {key : String} {es fs : List Entry}

theorem decode_congr {path : String} (haction : decodeAction (get "action" es) = decodeAction (get "action" fs))
    (hname : ∀ path, decodeName path (get "name" es) = decodeName path (get "name" fs))
    (hlist : ∀ (b : Branch) (path), decodeList path (get b.key es) = decodeList path (get b.key fs))
    (hsub : ∀ path, decodeOptional path (get "subMatch" es) = decodeOptional path (get "subMatch" fs))
    (hvariable : ∀ path,
      decodeName path (get "assignVariable" es) = decodeName path (get "assignVariable" fs))
    (hvalue : decodeMatchValue es = decodeMatchValue fs) :
    decode path (.map es) = decode path (.map fs) := by
  rw [decode_map, decode_map, haction, hname, hlist, hsub, hlist, hvariable, hvalue]

theorem Interchangeable.decode_eq (h : Interchangeable key v w) (es fs : List Entry) (path : String) :
    decode path (.map (es ++ (.str key, v) :: fs)) = decode path (.map (es ++ (.str key, w) :: fs)) := by
  apply decode_congr
  · exact apply_get_replace decodeAction h.action es fs
  · exact fun path => apply_get_replace (decodeName path) (fun hk => h.text (Or.inl hk) path) es fs
  · exact fun b path => apply_get_replace (decodeList path) (fun hk => h.list b hk path) es fs
  · exact fun path => apply_get_replace (decodeOptional path) (fun hk => h.subMatch hk path) es fs
  · exact fun path => apply_get_replace (decodeName path) (fun hk => h.text (Or.inr hk) path) es fs
  · rw [decodeMatchValue, decodeMatchValue, Value.get, Value.get, lookup?_replace h.value.1 v w,
      lookup?_replace h.value.2 v w]

theorem decode_of_lookup? (h : ∀ name ∈ partNames, lookup? name es = lookup? name fs)
    (hvalue : decodeMatchValue es = decodeMatchValue fs) (path : String) :
    decode path (.map es) = decode path (.map fs) := by
  have hget {name : String} (hname : name ∈ partNames) : get name es = get name fs := by
    rw [Value.get, Value.get, h name hname]
  refine decode_congr ?_ ?_ (fun b path => ?_) ?_ ?_ hvalue
  · rw [hget (by decide)]
  · intro path
    rw [hget (by decide)]
  · rw [hget (by cases b <;> decide)]
  · intro path
    rw [hget (by decide)]
  · intro path
    rw [hget (by decide)]

theorem decodeMatchValue_of_lookup? (h : ∀ name ∈ valueNames, lookup? name es = lookup? name fs) :
    decodeMatchValue es = decodeMatchValue fs := by
  rw [decodeMatchValue, decodeMatchValue, Value.get, Value.get, h "matchValue" (by decide),
    h "value" (by decide)]

theorem stripped_padded {before s after : String} (hbefore : ∀ c ∈ before.toList, Text.isBlank c = true)
    (hafter : ∀ c ∈ after.toList, Text.isBlank c = true) :
    Text.stripped (before ++ s ++ after) = Text.stripped s := by
  rw [Text.stripped, String.toList_append, String.toList_append, Text.strip_padded hbefore hafter,
    Text.stripped]

theorem decodeItems_replace (h : ∀ path, decode path v = decode path w) (vs ws : List Value)
    (path : String) (i : Nat) :
    decodeItems path i (vs ++ v :: ws) = decodeItems path i (vs ++ w :: ws) := by
  induction vs generalizing i with
  | nil => rw [List.nil_append, List.nil_append, decodeItems, decodeItems, h]
  | cons u vs ih => rw [List.cons_append, List.cons_append, decodeItems, decodeItems, ih]

theorem decodeList_replace (h : ∀ path, decode path v = decode path w) (vs ws : List Value)
    (path : String) : decodeList path (.list (vs ++ v :: ws)) = decodeList path (.list (vs ++ w :: ws)) :=
  decodeItems_replace h vs ws path 0

theorem interchangeable_action (h : decodeAction v = decodeAction w) :
    Interchangeable "action" v w where
  action _ := h
  text := by simp
  list b := by cases b <;> simp [Branch.key]
  subMatch := by simp
  value := by simp

theorem interchangeable_text (hkey : key = "name" ∨ key = "assignVariable")
    (h : ∀ path, decodeName path v = decodeName path w) : Interchangeable key v w where
  action := by rcases hkey with rfl | rfl <;> simp
  text _ := h
  list b := by rcases hkey with rfl | rfl <;> cases b <;> simp [Branch.key]
  subMatch := by rcases hkey with rfl | rfl <;> simp
  value := by rcases hkey with rfl | rfl <;> simp

theorem interchangeable_list (b : Branch) (h : ∀ path, decodeList path v = decodeList path w) :
    Interchangeable b.key v w where
  action := by cases b <;> simp [Branch.key]
  text := by cases b <;> simp [Branch.key]
  list _ _ := h
  subMatch := by cases b <;> simp [Branch.key]
  value := by cases b <;> simp [Branch.key]

theorem interchangeable_subMatch (hnull : v.isNull = w.isNull)
    (h : ∀ path, decode path v = decode path w) : Interchangeable "subMatch" v w where
  action := by simp
  text := by simp
  list b := by cases b <;> simp [Branch.key]
  subMatch _ path := by rw [decodeOptional, decodeOptional, hnull, h]
  value := by simp

theorem Edit.decode_eq (h : Edit v w) :
    v.isNull = w.isNull ∧ ∀ path, decode path v = decode path w := by
  induction h with
  | order once perm =>
    have hlookup (name : String) := lookup?_perm once perm name
    exact ⟨rfl, decode_of_lookup? (fun name _ => hlookup name)
      (decodeMatchValue_of_lookup? fun name _ => hlookup name)⟩
  | extra es fs k v unknown =>
    have hlookup {name : String} (hname : name ∈ partNames ++ valueNames) :
        lookup? name (es ++ fs) = lookup? name (es ++ (k, v) :: fs) :=
      (lookup?_insert_of_ne (unknown name hname) v es fs).symm
    exact ⟨rfl, decode_of_lookup? (fun name hname => hlookup (List.mem_append_left _ hname))
      (decodeMatchValue_of_lookup? fun name hname => hlookup (List.mem_append_right _ hname))⟩
  | otherName es fs =>
    have haction : decodeAction (.str "notEquals") = decodeAction (.str "notEqual") := rfl
    exact ⟨rfl, (interchangeable_action haction).decode_eq es fs⟩
  | blanks es fs key before s after text hbefore hafter =>
    refine ⟨rfl, (interchangeable_text text fun path => ?_).decode_eq es fs⟩
    rw [decodeName, decodeName, stripped_padded hbefore hafter]
  | value es fs v absent once =>
    refine ⟨rfl, decode_of_lookup? (fun name hname => ?_) ?_⟩
    · have hne (key : String) (hkey : key ∈ valueNames) : Value.str key ≠ .str name := fun hk =>
        valueNames_ne_partNames key hkey name hname (Value.str.inj hk)
      rw [lookup?_insert_of_ne (hne _ (by decide)), lookup?_insert_of_ne (hne _ (by decide))]
    · have hnone : lookup? "matchValue" es = none := by
        rw [lookup?_append, Option.or_eq_none_iff] at absent
        exact absent.1
      have habsent : lookup? "matchValue" (es ++ (.str "value", v) :: fs) = none := by
        rw [lookup?_insert_of_ne (by simp), absent]
      have hvalue : get "value" (es ++ (.str "value", v) :: fs) = v := by
        rw [Value.get, lookup?_insert_self v fs once]
        rfl
      rw [decodeMatchValue, lookup?_insert_self v fs hnone, decodeMatchValue, habsent]
      exact hvalue.symm
  | subMatch es fs edit ih =>
    exact ⟨rfl, (interchangeable_subMatch ih.1 ih.2).decode_eq es fs⟩
  | item b es fs vs ws edit ih =>
    have hlist := interchangeable_list b (decodeList_replace ih.2 vs ws)
    exact ⟨rfl, hlist.decode_eq es fs⟩

theorem Respelled.decode_eq (h : Respelled v w) (path : String) : decode path v = decode path w := by
  induction h with
  | rel v w edit => exact edit.decode_eq.2 path
  | refl v => rfl
  | symm v w _ ih => exact ih.symm
  | trans u v w _ _ ih ih' => exact ih.trans ih'

/-- A match spec is read back from what it is written as, which is therefore what it is written as again;
and a value that is respelled is read as the same match spec, so that it is written alike. -/
theorem encode_decode {path : String} {raw : Value} {spec : MatchSpec}
    (h : decode path raw = .ok spec) : (∀ path', decode path' spec.encode = .ok spec) ∧
      (∀ path', (decode path' spec.encode).map encode = .ok spec.encode) ∧
      ∀ raw', Respelled raw raw' → ∀ path', (decode path' raw').map encode = .ok spec.encode := by
  have hback := readsBack_of_decode h
  refine ⟨hback, fun path' => ?_, fun raw' hraw path' => ?_⟩
  · rw [hback path']
    rfl
  · rw [← hraw.decode_eq path', decode_ok_path h path']
    rfl

def negatedWith (action : String) : Value :=
  .map [(.str "action", .str "not"), (.str "predicateMatchSpec",
    .list [.map [(.str "value", .int 3), (.str "action", .str action), (.str "name", .str " size")]])]

def negated : MatchSpec :=
  ⟨.not, "", .null, [⟨.comparison .notEquals, "size", .int 3, [], none, [], ""⟩], none, [], ""⟩

theorem encode_decode_negated : decode "checks[0]" negated.encode = .ok negated ∧
    (decode "checks[0]" (negatedWith "notEqual")).map encode = .ok negated.encode := by
  have hread : decode "matchSpec" (negatedWith "notEquals") = .ok negated := rfl
  have hedit : Edit (negatedWith "notEquals") (negatedWith "notEqual") :=
    .item .predicates [(.str "action", .str "not")] [] [] []
      (.otherName [(.str "value", .int 3)] [(.str "name", .str " size")])
  obtain ⟨hback, -, hrespelled⟩ := encode_decode hread
  exact ⟨hback _, hrespelled _ (.rel _ _ hedit) _⟩

end BlockAudit.MatchSpec
