import BlockAudit.Checks.Read
import BlockAudit.Proofs.Except
import BlockAudit.Proofs.Text.Blank
import Mathlib.Data.List.Forall2
/-!
Decoding of checks files: either every item is a check, or the first one that is none decides the error.
Main statement: `read_all_or_first`.
-/

namespace BlockAudit.Checks

def codeOf? : Value → Option String
  | .map es =>
    match Value.get "code" es with
    | .str s => if (Text.stripped s).isEmpty then none else some (Text.stripped s)
    | _ => none
  | _ => none

def IsTextList (v : Value) : Prop := v = .null ∨ ∃ ts : List String, v = .list (ts.map .str)

structure Framed (es : List Entry) : Prop where
  keys : ∀ key ∈ requiredKeys, Value.contains key es = true
  types : ∃ t ts, Value.get "requiredTypes" es = .list ((t :: ts).map .str)
  labels : IsTextList (Value.get "requiredLabels" es)
  links : IsTextList (Value.get "relatedLinks" es)
  severity : (Severity.ofValue? (Value.get "severity" es)).isSome = true

def specOf (es : List Entry) : Except SpecDefect MatchSpec :=
  MatchSpec.decode "matchSpec" (Value.get "matchSpec" es)

def Valid (v : Value) : Prop :=
  (codeOf? v).isSome = true ∧ ∃ es spec, v = .map es ∧ Framed es ∧ specOf es = .ok spec ∧
    spec.problems "matchSpec" = []

/-- The first defect of the item is an action that does not exist. -/
def Unsupported (v : Value) : Prop :=
  (codeOf? v).isSome = true ∧ ∃ es a, v = .map es ∧ Framed es ∧
    specOf es = .error (.unsupportedAction a)

structure Describes (source : String) (v : Value) (c : Check) : Prop where
  code : codeOf? v = some c.code
  nonempty : c.code ≠ ""
  trimmed : Text.IsTrimmed c.code.toList
  types : c.requiredTypes ≠ []
  source : c.source = source
  spec : ∃ es, v = .map es ∧ specOf es = .ok c.matchSpec
  sound : c.matchSpec.problems "matchSpec" = []

variable {α β : Type} {source code : String} {es : List Entry} {v : Value}

theorem text?_eq_some {t : String} : v.text? = some t ↔ v = .str t := by
  cases v <;> simp [Value.text?]

theorem mapM_text? {vs : List Value} {ts : List String} :
    vs.mapM (·.text?) = some ts ↔ vs = ts.map .str := by
  induction vs generalizing ts with
  | nil => cases ts <;> simp
  | cons v vs ih =>
    simp only [List.mapM_cons, Option.bind_eq_bind, Option.bind_eq_some_iff, text?_eq_some, ih]
    cases ts with
    | nil => simp
    | cons t ts => simp

def FailsEarly (x : Except ChecksDefect α) : Prop := ∃ d, x = .error d ∧ ∀ s, d ≠ .spec s

theorem FailsEarly.bind {x : Except ChecksDefect α} (h : FailsEarly x)
    (g : α → Except ChecksDefect β) : FailsEarly (x >>= g) := by
  obtain ⟨d, rfl, hd⟩ := h
  exact ⟨d, rfl, hd⟩

theorem failsEarly_bind {x : Except ChecksDefect α} {a : α} (h : x = .ok a)
    {g : α → Except ChecksDefect β} (hg : FailsEarly (g a)) : FailsEarly (x >>= g) := by
  rw [h]
  exact hg

theorem textList_cases (key : String) (v : Value) :
    (∃ ts : List String, (v = .null ∧ ts = [] ∨ v = .list (ts.map .str)) ∧
      textList key v = .ok (ts.map Text.stripped)) ∨
    ¬IsTextList v ∧ FailsEarly (textList key v) := by
  cases v with
  | null => exact Or.inl ⟨[], Or.inl ⟨rfl, rfl⟩, rfl⟩
  | list vs =>
    rw [textList]
    cases hts : vs.mapM (·.text?) with
    | some ts => exact Or.inl ⟨ts, Or.inr (by rw [mapM_text?.mp hts]), rfl⟩
    | none =>
      refine Or.inr ⟨?_, _, rfl, nofun⟩
      rintro (h | ⟨ts, h⟩)
      · cases h
      · rw [Value.list.injEq, ← mapM_text?, hts] at h
        cases h
  | _ => exact Or.inr ⟨by simp [IsTextList], _, rfl, nofun⟩

theorem textList_reads (key : String) (v : Value) :
    IsTextList v ∧ (∃ ts, textList key v = .ok ts) ∨
    ¬IsTextList v ∧ FailsEarly (textList key v) := by
  rcases textList_cases key v with ⟨ts, hv | hv, hok⟩ | hfails
  · exact Or.inl ⟨Or.inl hv.1, _, hok⟩
  · exact Or.inl ⟨Or.inr ⟨ts, hv⟩, _, hok⟩
  · exact Or.inr hfails

theorem readTypes_reads (v : Value) :
    (∃ t ts, v = .list ((t :: ts).map .str)) ∧ (∃ types, readTypes v = .ok types ∧ types ≠ []) ∨
    (¬∃ t ts, v = .list ((t :: ts).map .str)) ∧ FailsEarly (readTypes v) := by
  unfold readTypes
  rcases textList_cases "requiredTypes" v with ⟨ts, hv, hok⟩ | ⟨hnot, hfails⟩
  · rw [hok]
    cases ts with
    | nil =>
      refine Or.inr ⟨?_, .noRequiredTypes, rfl, nofun⟩
      rintro ⟨t, ts, rfl⟩
      simp at hv
    | cons t ts => exact Or.inl ⟨⟨t, ts, by simpa using hv⟩, _, rfl, by simp⟩
  · refine Or.inr ⟨?_, hfails.bind _⟩
    rintro ⟨t, ts, rfl⟩
    exact hnot (Or.inr ⟨_, rfl⟩)

theorem readSeverity_reads (v : Value) :
    (Severity.ofValue? v).isSome = true ∧ (∃ s, readSeverity v = .ok s) ∨
    ¬(Severity.ofValue? v).isSome = true ∧ FailsEarly (readSeverity v) := by
  unfold readSeverity
  cases Severity.ofValue? v with
  | some s => exact Or.inl ⟨rfl, s, rfl⟩
  | none => exact Or.inr ⟨nofun, _, rfl, nofun⟩

theorem missing_isEmpty : (requiredKeys.filter fun key => !Value.contains key es).isEmpty = true ↔
    ∀ key ∈ requiredKeys, Value.contains key es = true := by
  simp [List.filter_eq_nil_iff]

theorem readBody_of_not_framed (source code : String) (h : ¬Framed es) :
    FailsEarly (readBody source code es) := by
  unfold readBody
  dsimp only
  split
  · exact ⟨_, rfl, nofun⟩
  next hkeys =>
  rcases readTypes_reads (Value.get "requiredTypes" es) with ⟨htypes, types, hok, -⟩ | ⟨-, hfails⟩
  · refine failsEarly_bind hok ?_
    rcases textList_reads "requiredLabels" (Value.get "requiredLabels" es) with
      ⟨hlabels, labels, hok⟩ | ⟨-, hfails⟩
    · refine failsEarly_bind hok ?_
      rcases textList_reads "relatedLinks" (Value.get "relatedLinks" es) with
        ⟨hlinks, links, hok⟩ | ⟨-, hfails⟩
      · refine failsEarly_bind hok ?_
        rcases readSeverity_reads (Value.get "severity" es) with ⟨hseverity, -⟩ | ⟨-, hfails⟩
        · rw [Bool.not_eq_true', Bool.not_eq_false, missing_isEmpty] at hkeys
          exact absurd ⟨hkeys, htypes, hlabels, hlinks, hseverity⟩ h
        · exact hfails.bind _
      · exact hfails.bind _
    · exact hfails.bind _
  · exact hfails.bind _

theorem readBody_of_framed (source code : String) (h : Framed es) :
    (∃ d, specOf es = .error d ∧ readBody source code es = .error (.spec d)) ∨
    ∃ spec, specOf es = .ok spec ∧
      (spec.problems "matchSpec" ≠ [] ∧
          readBody source code es = .error (.problems (spec.problems "matchSpec")) ∨
        spec.problems "matchSpec" = [] ∧ ∃ c, readBody source code es = .ok c ∧ c.code = code ∧
          c.requiredTypes ≠ [] ∧ c.source = source ∧ c.matchSpec = spec) := by
  obtain ⟨-, types, htypes, hne⟩ := (readTypes_reads _).resolve_right fun hnot => hnot.1 h.types
  obtain ⟨-, labels, hlabels⟩ :=
    (textList_reads "requiredLabels" _).resolve_right fun hnot => hnot.1 h.labels
  obtain ⟨-, links, hlinks⟩ :=
    (textList_reads "relatedLinks" _).resolve_right fun hnot => hnot.1 h.links
  obtain ⟨-, severity, hseverity⟩ :=
    (readSeverity_reads _).resolve_right fun hnot => hnot.1 h.severity
  have hspec : readSpec (Value.get "matchSpec" es) = (specOf es).mapError .spec := rfl
  unfold readBody
  dsimp only
  rw [missing_isEmpty.mpr h.keys, if_neg (by simp), htypes, ok_bind, hlabels, ok_bind, hlinks,
    ok_bind, hseverity, ok_bind, hspec]
  cases specOf es with
  | error d => exact Or.inl ⟨d, rfl, rfl⟩
  | ok spec =>
    refine Or.inr ⟨spec, rfl, ?_⟩
    rw [mapError_ok, ok_bind]
    cases hproblems : spec.problems "matchSpec" with
    | nil => exact Or.inr ⟨rfl, _, rfl, rfl, hne, rfl, rfl⟩
    | cons p ps => exact Or.inl ⟨nofun, rfl⟩

theorem readCode_reads (index : Nat) (es : List Entry) :
    (∃ code, codeOf? (.map es) = some code ∧
      readCode index (Value.get "code" es) = .ok code) ∨
    codeOf? (.map es) = none ∧ FailsEarly (readCode index (Value.get "code" es)) := by
  simp only [codeOf?]
  cases Value.get "code" es with
  | str s =>
    simp only [readCode]
    cases (Text.stripped s).isEmpty with
    | true => exact Or.inr ⟨rfl, _, rfl, nofun⟩
    | false => exact Or.inl ⟨_, rfl, rfl⟩
  | _ => exact Or.inr ⟨rfl, _, rfl, nofun⟩

theorem trimmed_of_codeOf? {code : String} (h : codeOf? v = some code) :
    code ≠ "" ∧ Text.IsTrimmed code.toList := by
  unfold codeOf? at h
  split at h
  · split at h
    · next s _ =>
      split at h
      · cases h
      · next hne =>
        cases h
        refine ⟨fun he => hne (by rw [he]; rfl), ?_⟩
        rw [Text.stripped, String.toList_ofList]
        exact Text.isTrimmed_strip _
    · cases h
  · cases h

theorem valid_map : Valid (.map es) ↔ (codeOf? (.map es)).isSome = true ∧ Framed es ∧
    ∃ spec, specOf es = .ok spec ∧ spec.problems "matchSpec" = [] := by
  simp [Valid]

theorem unsupported_map : Unsupported (.map es) ↔ (codeOf? (.map es)).isSome = true ∧ Framed es ∧
    ∃ a, specOf es = .error (.unsupportedAction a) := by
  simp [Unsupported]

theorem not_isUnsupportedAction {d : ChecksDefect} (h : ∀ s, d ≠ .spec s)
    (source code : Option String) :
    (ChecksError.mk d source code).isUnsupportedAction = false := by
  cases d with
  | spec d => exact absurd rfl (h d)
  | _ => rfl

theorem readCheck_cases (source : String) (index : Nat) (v : Value) :
    Valid v ∧ (∃ c, readCheck source index v = .ok c ∧ Describes source v c) ∨
    ¬Valid v ∧ ∃ e, readCheck source index v = .error e ∧ e.source = some source ∧
      e.code = codeOf? v ∧ (e.isUnsupportedAction = true ↔ Unsupported v) := by
  cases v with
  | map es =>
    simp only [readCheck, valid_map, unsupported_map]
    rcases readCode_reads index es with ⟨code, hcode, hok⟩ | ⟨hnone, d, herr, hearly⟩
    · simp only [hok, hcode]
      by_cases hframed : Framed es
      · rcases readBody_of_framed source code hframed with ⟨d, hspec, hbody⟩ |
          ⟨spec, hspec, ⟨hproblems, hbody⟩ | ⟨hproblems, c, hbody, hc, htypes, hsource, hmatch⟩⟩
        · refine Or.inr ⟨by simp [hspec], ⟨.spec d, some source, some code⟩,
            by rw [hbody]; rfl, rfl, rfl, ?_⟩
          cases d <;> simp [ChecksError.isUnsupportedAction, hframed, hspec]
        · refine Or.inr ⟨by simp [hspec, hproblems], ⟨.problems _, some source, some code⟩,
            by rw [hbody]; rfl, rfl, rfl, ?_⟩
          simp [ChecksError.isUnsupportedAction, hspec]
        · refine Or.inl ⟨by simp [hframed, hspec, hproblems], c, by rw [hbody]; rfl, ?_⟩
          obtain ⟨hne, htrimmed⟩ := trimmed_of_codeOf? hcode
          rw [← hc] at hcode hne htrimmed
          exact ⟨hcode, hne, htrimmed, htypes, hsource, ⟨es, rfl, hmatch ▸ hspec⟩, hmatch ▸ hproblems⟩
      · obtain ⟨d, hbody, hearly⟩ := readBody_of_not_framed source code hframed
        refine Or.inr ⟨by simp [hframed], ⟨d, some source, some code⟩,
          by rw [hbody]; rfl, rfl, rfl, ?_⟩
        simp [hframed, not_isUnsupportedAction hearly]
    · simp only [herr, hnone]
      refine Or.inr ⟨by simp, _, rfl, rfl, rfl, ?_⟩
      simp [not_isUnsupportedAction hearly]
  | _ =>
    refine Or.inr ⟨by simp [Valid], _, rfl, rfl, rfl, ?_⟩
    simp [ChecksError.isUnsupportedAction, Unsupported]

theorem readChecks_of_valid (source : String) (index : Nat) {items : List Value}
    (h : ∀ v ∈ items, Valid v) :
    ∃ cs, readChecks source index items = .ok cs ∧ List.Forall₂ (Describes source) items cs := by
  induction items generalizing index with
  | nil => exact ⟨[], rfl, .nil⟩
  | cons v vs ih =>
    rw [List.forall_mem_cons] at h
    obtain ⟨-, c, hc, hdescribes⟩ :=
      (readCheck_cases source index v).resolve_right fun hnot => hnot.1 h.1
    obtain ⟨cs, hcs, hall⟩ := ih (index + 1) h.2
    refine ⟨c :: cs, ?_, .cons hdescribes hall⟩
    rw [readChecks, hc]
    show (readChecks source (index + 1) vs >>= fun checks => pure (c :: checks)) = _
    rw [hcs]
    rfl

theorem readChecks_of_not_valid (source : String) (index : Nat) (before after : List Value)
    {v : Value} (hbefore : ∀ w ∈ before, Valid w) (hv : ¬Valid v) :
    ∃ e, readChecks source index (before ++ v :: after) = .error e ∧ e.source = some source ∧
      e.code = codeOf? v ∧ (e.isUnsupportedAction = true ↔ Unsupported v) := by
  induction before generalizing index with
  | nil =>
    obtain ⟨-, e, he, hnames⟩ :=
      (readCheck_cases source index v).resolve_left fun hvalid => hv hvalid.1
    refine ⟨e, ?_, hnames⟩
    rw [List.nil_append, readChecks, he]
    rfl
  | cons w ws ih =>
    rw [List.forall_mem_cons] at hbefore
    obtain ⟨-, c, hc, -⟩ :=
      (readCheck_cases source index w).resolve_right fun hnot => hnot.1 hbefore.1
    obtain ⟨e, he, hnames⟩ := ih (index + 1) hbefore.2
    refine ⟨e, ?_, hnames⟩
    rw [List.cons_append, readChecks, hc]
    show (readChecks source (index + 1) (ws ++ v :: after) >>= fun checks => pure (c :: checks)) = _
    rw [he]
    rfl

theorem source_of_mem_readChecks {index : Nat} {items : List Value} {cs : List Check}
    (h : readChecks source index items = .ok cs) : ∀ c ∈ cs, c.source = source := by
  induction items generalizing index cs with
  | nil =>
    cases h
    exact nofun
  | cons v vs ih =>
    rw [readChecks, bind_eq_ok] at h
    obtain ⟨c, hc, h⟩ := h
    obtain ⟨ds, hds, h⟩ := bind_eq_ok.mp h
    cases h
    rcases readCheck_cases source index v with ⟨-, c', hc', hdescribes⟩ | ⟨-, e, he, -⟩
    · rw [hc, Except.ok.injEq] at hc'
      exact List.forall_mem_cons.mpr ⟨hc' ▸ hdescribes.source, ih hds⟩
    · rw [hc] at he
      cases he

theorem source_of_mem_read {s : List Char} {cs : List Check} (h : read source s = .ok cs) :
    ∀ c ∈ cs, c.source = source := by
  rw [read, bind_eq_ok] at h
  obtain ⟨v, -, h⟩ := h
  rw [mapError_eq_ok, ofDocument] at h
  split at h
  · exact source_of_mem_readChecks h
  · cases h

theorem read_ne_config (source : String) (s : List Char) (e : ConfigError) :
    read source s ≠ .error (.config e) := by
  intro h
  rw [read, bind_eq_error] at h
  rcases h with h | ⟨v, -, h⟩
  · unfold readDocument at h
    split at h
    · cases h
    · split at h <;> cases h
  · obtain ⟨d, -, hd⟩ := mapError_eq_error.mp h
    cases hd

theorem read_of_items {s : List Char} {items : List Value}
    (hdocument : readDocument source s = .ok (.map es))
    (hitems : Value.get "checks" es = .list items) :
    read source s = (readChecks source 0 items).mapError .checks := by
  rw [read, hdocument]
  show (ofDocument source (.map es)).mapError Failure.checks = _
  simp [ofDocument, Value.entries?, hitems, Value.items?]

/-- Every item is a check, in the order of the items; or the first one that is none is reported. The text
has a value, so no alias in it is for a collection around it (`exists_json_or_isFinite`). -/
theorem read_all_or_first (source : String) (s : List Char) (es : List Entry) (items : List Value)
    (hdocument : readDocument source s = .ok (.map es))
    (hitems : Value.get "checks" es = .list items) :
    ((∀ v ∈ items, Valid v) →
      ∃ cs, read source s = .ok cs ∧ List.Forall₂ (Describes source) items cs) ∧
    ∀ before v after, items = before ++ v :: after → (∀ w ∈ before, Valid w) → ¬Valid v →
      ∃ e, read source s = .error (.checks e) ∧ e.source = some source ∧ e.code = codeOf? v ∧
        (e.isUnsupportedAction = true ↔ Unsupported v) := by
  have hread := read_of_items hdocument hitems
  constructor
  · intro h
    obtain ⟨cs, hcs, hall⟩ := readChecks_of_valid source 0 h
    exact ⟨cs, by rw [hread, hcs]; rfl, hall⟩
  · rintro before v after rfl hbefore hv
    obtain ⟨e, he, hnames⟩ := readChecks_of_not_valid source 0 before after hbefore hv
    exact ⟨e, by rw [hread, he]; rfl, hnames⟩

def listedItems? (s : List Char) : Option (List Value) :=
  match Json.read? s with
  | some (.map es) => (Value.get "checks" es).items?
  | _ => none

theorem of_listedItems? {s : List Char} {items : List Value} (h : listedItems? s = some items)
    (source : String) :
    ∃ es, readDocument source s = .ok (.map es) ∧ Value.get "checks" es = .list items := by
  unfold listedItems? at h
  split at h
  · next es hread =>
    refine ⟨es, by rw [readDocument, hread], ?_⟩
    cases hget : Value.get "checks" es <;> simp_all [Value.items?]
  · cases h

theorem valid_of_readCheck {index : Nat} (h : (readCheck source index v).toBool = true) :
    Valid v := by
  rcases readCheck_cases source index v with ⟨hvalid, -⟩ | ⟨-, e, he, -⟩
  · exact hvalid
  · rw [he] at h
    cases h

theorem not_valid_of_readCheck {index : Nat} (h : (readCheck source index v).toBool = false) :
    ¬Valid v := by
  intro hvalid
  obtain ⟨-, c, hc, -⟩ := (readCheck_cases source index v).resolve_right fun hnot => hnot.1 hvalid
  rw [hc] at h
  cases h

def twoItems : List Char :=
  ["\x7b\"checks\": [\x7b\"code\": \" C1 \", ",
    "\"requiredTypes\": [\"resource\"], ",
    "\"severity\": \"low\", ",
    "\"matchSpec\": \x7b\"action\": \"isPresent\", ",
    "\"name\": \"tags\"\x7d\x7d, \x7b\"code\": \" C2\", ",
    "\"requiredTypes\": [\"resource\"], ",
    "\"severity\": \"low\", ",
    "\"matchSpec\": \x7b\"action\": \"isAwesome\"\x7d\x7d]\x7d"].flatMap String.toList

def onlySecondFails : List Value → Bool
  | [v, w] => (readCheck "" 0 v).toBool && !(readCheck "" 1 w).toBool && codeOf? w == some "C2"
  | _ => false

theorem exists_of_onlySecondFails {items : List Value} (h : onlySecondFails items = true) :
    ∃ v w, items = [v, w] ∧ Valid v ∧ ¬Valid w ∧ codeOf? w = some "C2" := by
  unfold onlySecondFails at h
  split at h
  · next v w =>
    simp only [Bool.and_eq_true, Bool.not_eq_true', beq_iff_eq] at h
    exact ⟨v, w, rfl, valid_of_readCheck h.1.1, not_valid_of_readCheck h.1.2, h.2⟩
  · cases h

theorem read_all_or_first_second : ∃ v w e, listedItems? twoItems = some [v, w] ∧ Valid v ∧
    ¬Valid w ∧ read "a.json" twoItems = .error (.checks e) ∧ e.source = some "a.json" ∧
    e.code = some "C2" ∧ (e.isUnsupportedAction = true ↔ Unsupported w) := by
  have hsome : (listedItems? twoItems).any onlySecondFails = true := by decide +kernel
  obtain ⟨items, hlisted, hitems⟩ := (Option.any_eq_true _ _).mp hsome
  obtain ⟨v, w, rfl, hv, hw, hcode⟩ := exists_of_onlySecondFails hitems
  obtain ⟨es, hdocument, hget⟩ := of_listedItems? hlisted "a.json"
  obtain ⟨e, hread, hsource, he, hclass⟩ :=
    (read_all_or_first "a.json" _ es _ hdocument hget).2 [v] w [] rfl (by simpa using hv) hw
  exact ⟨v, w, e, hlisted, hv, hw, hread, hsource, he.trans hcode, hclass⟩

theorem specOf_of_readBody {d : SpecDefect} (h : readBody source code es = .error (.spec d)) :
    Framed es ∧ specOf es = .error d := by
  by_cases hframed : Framed es
  · rcases readBody_of_framed source code hframed with ⟨d', hspec, hbody⟩ |
      ⟨spec, -, ⟨-, hbody⟩ | ⟨-, c, hbody, -⟩⟩
    · rw [hbody] at h
      cases h
      exact ⟨hframed, hspec⟩
    · rw [hbody] at h
      cases h
    · rw [hbody] at h
      cases h
  · obtain ⟨d', hbody, hearly⟩ := readBody_of_not_framed source code hframed
    rw [hbody, Except.error.injEq] at h
    exact absurd h (hearly d)

def blankCode : List Char :=
  ["\x7b\"checks\": [\x7b\"code\": \" \", ",
    "\"requiredTypes\": [\"resource\"], ",
    "\"severity\": \"LOW\", ",
    "\"matchSpec\": \x7b\"action\": \"isAwesome\", ",
    "\"name\": \"tags\"\x7d\x7d]\x7d"].flatMap String.toList

def lacksCodeAndAction : List Value → Bool
  | [.map es] =>
    match codeOf? (.map es), readBody "" "" es with
    | none, .error (.spec (.unsupportedAction _)) => true
    | _, _ => false
  | _ => false

theorem exists_of_lacksCodeAndAction {items : List Value} (h : lacksCodeAndAction items = true) :
    ∃ es a, items = [.map es] ∧ codeOf? (.map es) = none ∧ Framed es ∧
      specOf es = .error (.unsupportedAction a) := by
  unfold lacksCodeAndAction at h
  split at h
  · next es =>
    split at h
    · next a hcode hbody => exact ⟨es, a, rfl, hcode, specOf_of_readBody hbody⟩
    · cases h
  · cases h

/-- The blank code is reported, although the keys are present and the first defect of the match
spec is its action. -/
theorem read_blank_code : ∃ es a e, listedItems? blankCode = some [.map es] ∧ Framed es ∧
    specOf es = .error (.unsupportedAction a) ∧
    read "<memory>" blankCode = .error (.checks e) ∧ e.isUnsupportedAction = false := by
  have hsome : (listedItems? blankCode).any lacksCodeAndAction = true := by decide +kernel
  obtain ⟨items, hlisted, hitems⟩ := (Option.any_eq_true _ _).mp hsome
  obtain ⟨es, a, rfl, hcode, hframed, hspec⟩ := exists_of_lacksCodeAndAction hitems
  obtain ⟨fs, hdocument, hget⟩ := of_listedItems? hlisted "<memory>"
  have hinvalid : ¬Valid (.map es) := by simp [Valid, hcode]
  obtain ⟨e, he, -, -, hclass⟩ :=
    readChecks_of_not_valid "<memory>" 0 [] [] nofun hinvalid
  refine ⟨es, a, e, hlisted, hframed, hspec, ?_, ?_⟩
  · rw [read_of_items hdocument hget, ← List.nil_append [Value.map es], he]
    rfl
  · rw [Bool.eq_false_iff, ne_eq, hclass]
    simp [Unsupported, hcode]

end BlockAudit.Checks
