import BlockAudit.Checks.Error
import BlockAudit.Proofs.MatchSpec.Action
import BlockAudit.Proofs.MatchSpec.Decoding
import BlockAudit.Proofs.MatchSpec.Sites
/-!
The values that are read as match specs, and what is reported of any other value: the first of its
defects, in the order of a node's parts, with the place where it is. Main statement: `decode_exact`.
-/

namespace BlockAudit.MatchSpec

open Value

def IsOptionalText (v : Value) : Prop := v = .null ∨ ∃ s, v = .str s

def IsOptionalList (v : Value) : Prop := v = .null ∨ ∃ vs, v = .list vs

/-- The grammar of match specs. An absent entry counts as null. -/
inductive Accepted : Value → Prop where
  | node (es : List Entry) (action : Action.Named (get "action" es))
      (name : IsOptionalText (get "name" es))
      (branches : ∀ b : Branch, IsOptionalList (get b.key es))
      (items : ∀ b : Branch, ∀ v ∈ (get b.key es).items, Accepted v)
      (subMatch : get "subMatch" es ≠ .null → Accepted (get "subMatch" es))
      (assignVariable : IsOptionalText (get "assignVariable" es)) : Accepted (.map es)

namespace Part

def Amiss (v : Value) : Part → Prop
  | node => v.entries? = none
  | action => v.entries?.isSome = true ∧ ¬Action.Named (v.part "action")
  | name => ¬IsOptionalText (v.part "name")
  | branch b => ¬IsOptionalList (v.part b.key)
  | assignVariable => ¬IsOptionalText (v.part "assignVariable")

def defect (root : String) (v : Value) (part : Part) : SpecDefect :=
  match part with
  | node => .notObject (part.path root)
  | action => .unsupportedAction (v.part "action")
  | branch _ => .notList (part.path root)
  | name => .notText (part.path root)
  | assignVariable => .notText (part.path root)

end Part

def IsDefect (path : String) (raw : Value) (s : Site) (e : SpecDefect) : Prop :=
  ∃ v, valueAt? s.steps raw = some v ∧ s.part.Amiss v ∧ e = s.part.defect (pathTo path s.steps) v

variable {path : String} {raw : Value} {es : List Entry} {s : Site} {e : SpecDefect}

theorem isDefect_cases : IsDefect path raw s e ↔
    (∃ part : Part, s = ⟨[], part⟩ ∧ part.Amiss raw ∧ e = part.defect path raw) ∨
      ∃ step c t, childValue? raw step = some c ∧ s = t.inside step ∧
        IsDefect (step.extend path) c t e := by
  obtain ⟨steps, part⟩ := s
  constructor
  · rintro ⟨v, hv, hamiss, rfl⟩
    cases steps with
    | nil =>
      cases hv
      exact Or.inl ⟨part, rfl, hamiss, rfl⟩
    | cons step steps =>
      obtain ⟨c, hc, hrest⟩ := Option.bind_eq_some_iff.mp hv
      exact Or.inr ⟨step, c, ⟨steps, part⟩, hc, rfl, v, hrest, hamiss, rfl⟩
  · rintro (⟨part, hs, hamiss, rfl⟩ | ⟨step, c, t, hc, hs, v, hv, hamiss, rfl⟩)
    · cases hs
      exact ⟨raw, rfl, hamiss, rfl⟩
    · cases hs
      exact ⟨v, by rw [valueAt?, hc]; exact hv, hamiss, rfl⟩

theorem reports_part {α : Type} {k : Nat} {part : Part} {x : Except SpecDefect α}
    (hstage : ∀ t : Site, t.stage = k ↔ t = ⟨[], part⟩)
    (hok : ∀ a, x = .ok a → ¬part.Amiss raw)
    (herror : ∀ e, x = .error e → part.Amiss raw ∧ e = part.defect path raw) :
    Reports (AtStage k (IsDefect path raw)) x := by
  have hdefect {t : Site} {e : SpecDefect} (h : AtStage k (IsDefect path raw) t e) :
      t = ⟨[], part⟩ ∧ part.Amiss raw := by
    obtain ⟨⟨v, hv, hamiss, -⟩, ht⟩ := h
    obtain rfl := (hstage t).mp ht
    cases hv
    exact ⟨rfl, hamiss⟩
  cases x with
  | ok a => exact Reports.ok a fun t e h => hok a rfl (hdefect h).2
  | error e =>
    obtain ⟨hamiss, rfl⟩ := herror e rfl
    refine Reports.error ⟨⟨raw, rfl, hamiss, rfl⟩, (hstage _).mpr rfl⟩ fun t e' h => ?_
    exact Or.inl (hdefect h).1

theorem reports_items (b : Branch) (path : String) {vs : List Value} (k : Nat)
    (ih : ∀ v ∈ vs, ∀ path, Reports (IsDefect path v) (decode path v)) :
    Reports (fun s e => ∃ i v t, vs[i]? = some v ∧ s = t.inside (.item b (k + i)) ∧
      IsDefect (itemPath path (k + i)) v t e) (decodeItems path k vs) := by
  induction vs generalizing k with
  | nil => exact Reports.ok [] (by simp)
  | cons v vs hvs =>
    have hhead := Reports.inside (.item b k) (ih v List.mem_cons_self (itemPath path k))
    have htail := hvs (k + 1) fun w hw => ih w (List.mem_cons_of_mem _ hw)
    refine (hhead.bind (fun spec => htail.map (spec :: ·)) ?_).congr fun s e => ?_
    · rintro s e t e' ⟨s, rfl, -⟩ ⟨i, w, t, -, rfl, -⟩
      exact Site.order_items_lt (by omega) s t
    · constructor
      · rintro ⟨i, w, t, hw, hs, ht⟩
        cases i with
        | zero =>
          cases hw
          exact Or.inl ⟨t, hs, ht⟩
        | succ i =>
          rw [← Nat.add_assoc, Nat.add_right_comm] at hs ht
          exact Or.inr ⟨i, w, t, hw, hs, ht⟩
      · rintro (⟨t, hs, ht⟩ | ⟨i, w, t, hw, hs, ht⟩)
        · exact ⟨0, v, t, rfl, hs, ht⟩
        · rw [Nat.add_right_comm, Nat.add_assoc] at hs ht
          exact ⟨i + 1, w, t, hw, hs, ht⟩

theorem decodeList_of_not_optional (path : String) {v : Value} (h : ¬IsOptionalList v) :
    decodeList path v = .error (.notList path) ∧ v.items = [] := by
  cases v with
  | null => exact absurd (Or.inl rfl) h
  | list vs => exact absurd (Or.inr ⟨vs, rfl⟩) h
  | _ => exact ⟨by rw [decodeList] <;> exact nofun, rfl⟩

theorem atStage_branch (b : Branch) : AtStage b.rank (IsDefect path (.map es)) s e ↔
    (s = ⟨[], .branch b⟩ ∧ ¬IsOptionalList (get b.key es) ∧ e = .notList (partPath path b.key)) ∨
      ∃ i v t, (get b.key es).items[i]? = some v ∧ s = t.inside (.item b i) ∧
        IsDefect (itemPath (partPath path b.key) i) v t e := by
  rw [AtStage, Site.stage_branch, isDefect_cases]
  constructor
  · rintro ⟨⟨part, rfl, hamiss, rfl⟩ | ⟨step, c, t, hc, rfl, ht⟩, hs | ⟨i, u, hs⟩⟩
    · cases hs
      exact Or.inl ⟨rfl, hamiss, rfl⟩
    · cases hs
    · cases hs
    · obtain ⟨rfl, rfl⟩ := Site.inside_inj.mp hs
      exact Or.inr ⟨i, c, t, hc, rfl, ht⟩
  · rintro (⟨rfl, hamiss, rfl⟩ | ⟨i, v, t, hv, rfl, ht⟩)
    · exact ⟨Or.inl ⟨_, rfl, hamiss, rfl⟩, Or.inl rfl⟩
    · exact ⟨Or.inr ⟨.item b i, v, t, hv, rfl, ht⟩, Or.inr ⟨i, t, rfl⟩⟩

theorem atStage_subMatch : AtStage 4 (IsDefect path (.map es)) s e ↔
    ∃ c t, childValue? (.map es) .subMatch = some c ∧ s = t.inside .subMatch ∧
      IsDefect (partPath path "subMatch") c t e := by
  rw [AtStage, Site.stage_subMatch, isDefect_cases]
  constructor
  · rintro ⟨⟨part, rfl, -, -⟩ | ⟨step, c, t, hc, rfl, ht⟩, u, hs⟩
    · cases hs
    · obtain ⟨rfl, rfl⟩ := Site.inside_inj.mp hs
      exact ⟨c, t, hc, rfl, ht⟩
  · rintro ⟨c, t, hc, rfl, ht⟩
    exact ⟨Or.inr ⟨.subMatch, c, t, hc, rfl, ht⟩, t, rfl⟩

section

variable (ih : ∀ step c, childValue? (.map es) step = some c →
  ∀ path, Reports (IsDefect path c) (decode path c))

include ih

theorem reports_branch (b : Branch) : Reports (AtStage b.rank (IsDefect path (.map es)))
    (decodeList (partPath path b.key) (get b.key es)) := by
  refine Reports.congr ?_ fun s e => atStage_branch b
  have hread : ∀ i v, (get b.key es).items[i]? = some v →
      ∀ path, Reports (IsDefect path v) (decode path v) := fun i v => ih (.item b i) v
  by_cases hoptional : IsOptionalList (get b.key es)
  · rcases hoptional with hnull | ⟨vs, hvs⟩
    · rw [hnull]
      exact Reports.ok [] (by simp [IsOptionalList, items, items?])
    · rw [hvs] at hread ⊢
      have hmem : ∀ v ∈ vs, ∀ path, Reports (IsDefect path v) (decode path v) := fun v hv => by
        obtain ⟨i, hi⟩ := List.mem_iff_getElem?.mp hv
        exact hread i v hi
      refine (reports_items b (partPath path b.key) 0 hmem).congr fun s e => ?_
      simp [IsOptionalList, items, items?]
  · obtain ⟨herror, hitems⟩ := decodeList_of_not_optional (partPath path b.key) hoptional
    rw [herror, hitems]
    refine Reports.error (Or.inl ⟨rfl, hoptional, rfl⟩) ?_
    rintro t e' (⟨rfl, -, -⟩ | ⟨i, v, u, hv, -⟩)
    · exact Or.inl rfl
    · cases hv

theorem reports_subMatch : Reports (AtStage 4 (IsDefect path (.map es)))
    (decodeOptional (partPath path "subMatch") (get "subMatch" es)) := by
  refine Reports.congr ?_ fun s e => atStage_subMatch
  rw [decodeOptional]
  by_cases hnull : (get "subMatch" es).isNull = true
  · rw [if_pos hnull]
    exact Reports.ok none (by simp [childValue?, Value.part, hnull])
  · rw [if_neg hnull]
    have hchild : childValue? (.map es) .subMatch = some (get "subMatch" es) := if_neg hnull
    have hsub := Reports.inside .subMatch (ih _ _ hchild (partPath path "subMatch"))
    exact (hsub.map some).congr fun s e => by simp [hchild]

end

theorem reports_action : Reports (AtStage 1 (IsDefect path (.map es)))
    (decodeAction (get "action" es)) := by
  have hnamed := Action.isSome_ofValue? (v := get "action" es)
  refine reports_part (Site.stage_eq_iff .action nofun) (fun a ha hamiss => ?_) fun e he => ?_
  · refine hamiss.2 (hnamed.mp ?_)
    cases hv : Action.ofValue? (get "action" es) with
    | some a => rfl
    | none =>
      rw [decodeAction, hv] at ha
      cases ha
  · cases hv : Action.ofValue? (get "action" es) with
    | some a =>
      rw [decodeAction, hv] at he
      cases he
    | none =>
      rw [decodeAction, hv] at he
      cases he
      refine ⟨⟨rfl, fun hname => ?_⟩, rfl⟩
      have hsome := hnamed.mpr hname
      rw [hv] at hsome
      cases hsome

theorem reports_text {part : Part} {name : String} {k : Nat}
    (hstage : ∀ t : Site, t.stage = k ↔ t = ⟨[], part⟩)
    (hamiss : part.Amiss (.map es) ↔ ¬IsOptionalText (get name es))
    (hdefect : part.defect path (.map es) = .notText (partPath path name)) :
    Reports (AtStage k (IsDefect path (.map es)))
      (decodeName (partPath path name) (get name es)) := by
  refine reports_part hstage (fun a ha => ?_) fun e he => ?_
  · rw [hamiss, not_not]
    cases hv : get name es with
    | null => exact Or.inl rfl
    | str s => exact Or.inr ⟨s, rfl⟩
    | _ =>
      rw [hv] at ha
      cases ha
  · rw [hamiss, hdefect]
    cases hv : get name es with
    | null | str s =>
      rw [hv] at he
      cases he
    | _ =>
      rw [hv] at he
      cases he
      exact ⟨by simp [IsOptionalText], rfl⟩

theorem isDefect_of_not_map (h : raw.entries? = none) (hdefect : IsDefect path raw s e) :
    s = ⟨[], .node⟩ := by
  have hpart (name : String) : raw.part name = .null := by
    cases raw with
    | map es => cases h
    | _ => rfl
  rcases isDefect_cases.mp hdefect with ⟨part, rfl, hamiss, -⟩ | ⟨step, c, t, hc, -, -⟩
  · cases part with
    | node => rfl
    | _ => simp [Part.Amiss, hpart, h, IsOptionalText, IsOptionalList] at hamiss
  · cases step <;> simp [childValue?, hpart, isNull, items, items?] at hc

theorem reports_decode (path : String) (raw : Value) :
    Reports (IsDefect path raw) (decode path raw) := by
  induction raw using induct_value generalizing path with
  | other v hv =>
    rw [decode_of_not_map path hv]
    have hnode : IsDefect path v ⟨[], .node⟩ (.notObject path) := ⟨v, rfl, hv, rfl⟩
    exact Reports.error hnode fun t e' ht => Or.inl (isDefect_of_not_map hv ht)
  | node es ih =>
    have hall : Reports (FromStage 1 (IsDefect path (.map es))) (decode path (.map es)) := by
      -- Each part is read at a stage of its own, and there is no stage after the last part.
      rw [decode_map]
      refine reports_action.next fun action => ?_
      refine (reports_text (Site.stage_eq_iff .name nofun) Iff.rfl rfl).next fun name => ?_
      refine (reports_branch ih .predicates).next fun predicates => ?_
      refine (reports_subMatch ih).next fun subMatch => ?_
      refine (reports_branch ih .preConditions).next fun preConditions => ?_
      refine (reports_text (Site.stage_eq_iff .assignVariable nofun) Iff.rfl rfl).next
        fun variableName => ?_
      exact Reports.ok _ fun s e h => Nat.not_lt_of_le s.stage_le h.2
    refine hall.congr fun s e => ⟨fun h => ⟨h, ?_⟩, And.left⟩
    refine Nat.one_le_iff_ne_zero.mpr fun hzero => ?_
    obtain rfl := (Site.stage_eq_iff .node nofun s).mp hzero
    obtain ⟨v, hv, hnode, -⟩ := h
    cases hv
    cases hnode

theorem accepted_map : Accepted (.map es) ↔ (∀ part : Part, ¬part.Amiss (.map es)) ∧
    ∀ step c, childValue? (.map es) step = some c → Accepted c := by
  constructor
  · intro h
    cases h with
    | node es action name branches items subMatch assignVariable =>
      constructor
      · intro part
        cases part with
        | node => exact nofun
        | action => exact fun h => h.2 action
        | name => exact not_not_intro name
        | branch b => exact not_not_intro (branches b)
        | assignVariable => exact not_not_intro assignVariable
      · intro step c hc
        cases step with
        | item b i => exact items b c (List.mem_of_getElem? hc)
        | subMatch =>
          obtain ⟨hnull, rfl⟩ := childValue?_subMatch.mp hc
          exact subMatch hnull
  · rintro ⟨hparts, hchildren⟩
    constructor
    · exact not_not.mp fun h => hparts .action ⟨rfl, h⟩
    · exact not_not.mp (hparts .name)
    · exact fun b => not_not.mp (hparts (.branch b))
    · intro b v hv
      obtain ⟨i, hi⟩ := List.mem_iff_getElem?.mp hv
      exact hchildren (.item b i) v hi
    · exact fun hnull => hchildren .subMatch _ (childValue?_subMatch.mpr ⟨hnull, rfl⟩)
    · exact not_not.mp (hparts .assignVariable)

theorem accepted_iff (path : String) (raw : Value) :
    Accepted raw ↔ ∀ s e, ¬IsDefect path raw s e := by
  induction raw using induct_value generalizing path with
  | other v hv =>
    have hnode : IsDefect path v ⟨[], .node⟩ (.notObject path) := ⟨v, rfl, hv, rfl⟩
    refine ⟨fun h => ?_, fun h => absurd hnode (h _ _)⟩
    cases h
    cases hv
  | node es ih =>
    rw [accepted_map]
    constructor
    · rintro ⟨hparts, hchildren⟩ s e hs
      rcases isDefect_cases.mp hs with ⟨part, -, hamiss, -⟩ | ⟨step, c, t, hc, -, ht⟩
      · exact hparts part hamiss
      · exact (ih step c hc (step.extend path)).mp (hchildren step c hc) t e ht
    · intro h
      constructor
      · intro part hamiss
        exact h ⟨[], part⟩ _ (isDefect_cases.mpr (Or.inl ⟨part, rfl, hamiss, rfl⟩))
      · intro step c hc
        refine (ih step c hc (step.extend path)).mpr fun t e ht => ?_
        exact h (t.inside step) e (isDefect_cases.mpr (Or.inr ⟨step, c, t, hc, rfl, ht⟩))

theorem exists_decode_iff : (∃ spec, decode path raw = .ok spec) ↔ Accepted raw := by
  have hreports := reports_decode path raw
  rw [accepted_iff path raw]
  cases hread : decode path raw with
  | ok spec =>
    rw [hread] at hreports
    exact ⟨fun _ => hreports, fun _ => ⟨spec, rfl⟩⟩
  | error e =>
    rw [hread] at hreports
    obtain ⟨s, hs, -⟩ := hreports
    exact ⟨nofun, fun h => absurd hs (h s e)⟩

theorem message_ofSpec (e : SpecDefect) : (ChecksError.ofSpec e).message = e.message :=
  String.empty_append

theorem message_defect (root : String) (v : Value) {part : Part} (h : part ≠ .action) :
    ∃ kind, (part.defect root v).message = part.path root ++ " must be " ++ kind := by
  cases part with
  | action => exact absurd rfl h
  | node => exact ⟨"an object", by rw [String.append_assoc]; rfl⟩
  | branch b => exact ⟨"a list", by rw [String.append_assoc]; rfl⟩
  | name | assignVariable => exact ⟨"a string", by rw [String.append_assoc]; rfl⟩

/-- A mapping of the grammar is read as a match spec. Of anything else the first defect is reported, an
unknown action as such and any other defect under its path. Values are finite: none is part of itself. -/
theorem decode_exact (path : String) (raw : Value) :
    ((∃ spec, decode path raw = .ok spec) ↔ Accepted raw) ∧
      ∀ e, decode path raw = .error e → ∃ site : Site, IsDefect path raw site e ∧
        (∀ other e', IsDefect path raw other e' → other = site ∨ site.order < other.order) ∧
        ((ChecksError.ofSpec e).isUnsupportedAction = true ↔ site.part = .action) ∧
        (site.part ≠ .action →
          ∃ kind, (ChecksError.ofSpec e).message = site.path path ++ " must be " ++ kind) := by
  refine ⟨exists_decode_iff, fun e he => ?_⟩
  have hreports := reports_decode path raw
  rw [he] at hreports
  obtain ⟨site, hsite, hfirst⟩ := hreports
  refine ⟨site, hsite, hfirst, ?_⟩
  obtain ⟨v, -, -, rfl⟩ := hsite
  constructor
  · cases site.part with
    | action => exact ⟨fun _ => rfl, fun _ => rfl⟩
    | _ => exact ⟨nofun, nofun⟩
  · rw [message_ofSpec]
    exact message_defect (pathTo path site.steps) v

def severalDefects : Value :=
  .map [(.str "preConditions", .int 5), (.str "action", .str "or"),
    (.str "predicateMatchSpec", .list [.map [(.str "action", .str "inModule")],
      .map [(.str "action", .str "isPresent"), (.str "name", .int 7),
        (.str "subMatch", .map [(.str "action", .str "maybe")])]])]

theorem decode_exact_severalDefects : ∃ site : Site,
    IsDefect "matchSpec" severalDefects site (.notText "matchSpec.predicateMatchSpec[1].name") ∧
      ∀ other e, IsDefect "matchSpec" severalDefects other e →
        other = site ∨ site.order < other.order := by
  obtain ⟨site, hsite, hfirst, -⟩ := (decode_exact "matchSpec" severalDefects).2 _ rfl
  exact ⟨site, hsite, hfirst⟩

end BlockAudit.MatchSpec
