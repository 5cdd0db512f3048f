import BlockAudit.Proofs.Yaml.Lines

namespace BlockAudit.Yaml.Node

open Value

variable {root n : Node} {v : Value} {x : Except Fault Value} {i j l : Nat} {t : Tag} {text : String}
  {p q : Node → Bool}

mutual

theorem everyNode_mono (hpq : ∀ n, p n = true → q n = true) : (n : Node) →
    n.everyNode p = true → n.everyNode q = true
  | scalar i t text, h => hpq (scalar i t text) h
  | cycle isMapping i, h => hpq (cycle isMapping i) h
  | sequence _ _ ns, h => by
    obtain ⟨hn, hns⟩ := Bool.and_eq_true_iff.mp h
    exact Bool.and_eq_true_iff.mpr ⟨hpq _ hn, everyNodeOfItems_mono hpq ns hns⟩
  | mapping _ _ es _ _, h => by
    obtain ⟨hn, hes⟩ := Bool.and_eq_true_iff.mp h
    exact Bool.and_eq_true_iff.mpr ⟨hpq _ hn, everyNodeOfEntries_mono hpq es hes⟩

theorem everyNodeOfItems_mono (hpq : ∀ n, p n = true → q n = true) : (ns : List Node) →
    everyNodeOfItems p ns = true → everyNodeOfItems q ns = true
  | [], _ => rfl
  | n :: ns, h => by
    obtain ⟨hn, hns⟩ := Bool.and_eq_true_iff.mp h
    exact Bool.and_eq_true_iff.mpr ⟨everyNode_mono hpq n hn, everyNodeOfItems_mono hpq ns hns⟩

theorem everyNodeOfEntries_mono (hpq : ∀ n, p n = true → q n = true) :
    (es : List (Node × Node)) → everyNodeOfEntries p es = true → everyNodeOfEntries q es = true
  | [], _ => rfl
  | (k, v) :: es, h => by
    obtain ⟨he, hes⟩ := Bool.and_eq_true_iff.mp h
    obtain ⟨hk, hv⟩ := Bool.and_eq_true_iff.mp he
    exact Bool.and_eq_true_iff.mpr ⟨Bool.and_eq_true_iff.mpr
      ⟨everyNode_mono hpq k hk, everyNode_mono hpq v hv⟩, everyNodeOfEntries_mono hpq es hes⟩

end

def textValue : Node → Value
  | scalar _ t text =>
    match Scalar.value? t text with
    | some (.ok v) => v
    | _ => .null
  | _ => .null

def isWritten : Node → Bool
  | scalar _ t _ => t == .str
  | _ => false

/-- A list, a mapping under texts, or a scalar whose text may be no value of its tag. -/
def isOrdinary : Node → Bool
  | scalar _ t text =>
    match Scalar.value? t text with
    | none => false
    | some (.error f) => f ≠ .malformedDocument
    | some (.ok _) => true
  | sequence _ t _ => t == .seq
  | mapping _ t es _ _ => t == .map && es.all fun e => e.1.isWritten
  | cycle _ _ => false

def isSimple : Node → Bool
  | scalar _ t text =>
    match Scalar.value? t text with
    | some (.ok _) => true
    | _ => false
  | n => n.isOrdinary

theorem isOrdinary_cases (h : n.isOrdinary = true) :
    (∃ i t text x, n = scalar i t text ∧ Scalar.value? t text = some x ∧
      x ≠ .error .malformedDocument) ∨
    (∃ i ns, n = sequence i .seq ns) ∨
    ∃ i es j l, n = mapping i .map es j l ∧ ∀ e ∈ es, e.1.isWritten = true := by
  cases n with
  | scalar i t text =>
    rw [isOrdinary] at h
    split at h
    · cases h
    · next f hf =>
      refine Or.inl ⟨i, t, text, _, rfl, hf, fun hx => ?_⟩
      exact of_decide_eq_true h (Except.error.inj hx)
    · next v hv => exact Or.inl ⟨i, t, text, _, rfl, hv, nofun⟩
  | sequence i t ns =>
    obtain rfl : t = .seq := eq_of_beq h
    exact Or.inr (Or.inl ⟨i, ns, rfl⟩)
  | mapping i t es j l =>
    obtain ⟨htag, hkeys⟩ := Bool.and_eq_true_iff.mp h
    obtain rfl : t = .map := eq_of_beq htag
    exact Or.inr (Or.inr ⟨i, es, j, l, rfl, List.all_eq_true.mp hkeys⟩)
  | cycle isMapping i => cases h

theorem isOrdinary_of_isSimple (h : n.isSimple = true) : n.isOrdinary = true := by
  cases n with
  | scalar i t text =>
    rw [isSimple] at h
    split at h
    · next v hv => rw [isOrdinary, hv]
    · cases h
  | _ => exact h

theorem isWritten_eq (h : n.isWritten = true) : ∃ i text, n = scalar i .str text := by
  cases n with
  | scalar i t text =>
    obtain rfl : t = .str := eq_of_beq h
    exact ⟨i, text, rfl⟩
  | _ => cases h

theorem tag_of_value? (h : Scalar.value? t text = some x) :
    t.isCollection = false ∧ t ≠ .value := by
  cases t <;> first | (cases h; done) | exact ⟨rfl, by decide⟩

theorem isPlain_of_isOrdinary (h : n.everyNode isOrdinary = true) : n.isPlain = true := by
  refine everyNode_mono ?_ n h
  intro c hc
  rcases isOrdinary_cases hc with ⟨i, t, text, x, rfl, hx, -⟩ | ⟨i, ns, rfl⟩ |
    ⟨i, es, j, l, rfl, -⟩
  · cases t <;> first | rfl | cases hx
  · rfl
  · rfl

theorem acyclic_of_isOrdinary (h : n.everyNode isOrdinary = true) : n.acyclic = true := by
  refine everyNode_mono ?_ n h
  intro c hc
  cases c <;> first | rfl | cases hc

theorem entries?_of_isWritten {es : List (Node × Node)} (h : ∀ e ∈ es, e.1.isWritten = true) :
    (mapping i t es j l).entries? = some es := by
  have hmerge : ∀ e ∈ es, isMerge e = false := by
    intro e he
    obtain ⟨i, text, hk⟩ := isWritten_eq (h e he)
    rw [isMerge, hk]
    rfl
  have hown : ownEntries es = es := by
    refine List.filter_eq_self.mpr fun e he => ?_
    rw [hmerge e he]
    rfl
  have hmerged : mergedEntries? es = some [] := by
    clear hown h
    induction es with
    | nil => rfl
    | cons e es ih =>
      have hk := hmerge e List.mem_cons_self
      rw [mergedEntries?, if_neg fun htag => by rw [isMerge, htag] at hk; cases hk]
      exact ih fun e he => hmerge e (List.mem_cons_of_mem _ he)
  rw [entries?, hmerged, Option.map_some, hown]
  rfl

theorem settledScalar_eq (h : Scalar.value? t text = some x) :
    settledScalar root (scalar i t text) = x := by
  have htag : settledTag root (scalar i t text) = t := if_neg fun hvalue =>
    (tag_of_value? h).2 hvalue.1
  rw [settledScalar, htag]
  show (Scalar.value? t text).getD _ = _
  rw [h]
  rfl

theorem wellFormed_of_isOrdinary (h : n.isOrdinary = true) (hn : n.tag.isCollection = true) :
    WellFormed root n := by
  rw [WellFormed, if_pos hn]
  rcases isOrdinary_cases h with ⟨i, t, text, x, rfl, hx, -⟩ | ⟨i, ns, rfl⟩ |
    ⟨i, es, j, l, rfl, hes⟩
  · rw [tag, (tag_of_value? hx).1] at hn
    cases hn
  · refine ⟨rfl, fun s hs => ?_⟩
    obtain ⟨c, -, rfl⟩ := List.mem_map.mp hs
    trivial
  · have hentries := entries?_of_isWritten (i := i) (t := .map) (j := j) (l := l) hes
    refine ⟨by rw [isShaped, hentries]; rfl, fun s hs => ?_⟩
    rw [steps, hentries] at hs
    obtain ⟨e, he, hs⟩ := List.mem_flatMap.mp hs
    simp only [List.mem_cons, List.not_mem_nil, or_false] at hs
    rcases hs with rfl | rfl
    · obtain ⟨i, text, hk⟩ := isWritten_eq (hes e he)
      rw [Step.Fits, hk]
      rfl
    · trivial

theorem not_malformed_of_isOrdinary (h : n.isOrdinary = true) :
    ¬IllFormed root n .malformedDocument := by
  intro hill
  by_cases htag : n.tag.isCollection = true
  · exact hill.not_wellFormed (wellFormed_of_isOrdinary h htag)
  · rcases isOrdinary_cases h with ⟨i, t, text, x, rfl, hx, hne⟩ | ⟨i, ns, rfl⟩ |
      ⟨i, es, j, l, rfl, -⟩
    · rw [IllFormed, if_neg htag, settledScalar_eq hx] at hill
      exact hne hill
    · exact htag rfl
    · exact htag rfl

theorem settledScalar_of_isSimple (h : n.isSimple = true) (hn : n.tag.isCollection = false) :
    settledScalar root n = .ok (textValue n) := by
  cases n with
  | scalar i t text =>
    rw [isSimple] at h
    split at h
    · next v hv => rw [settledScalar_eq hv, textValue, hv]
    · cases h
  | sequence i t ns =>
    obtain rfl : t = .seq := eq_of_beq h
    cases hn
  | mapping i t es j l =>
    obtain rfl : t = .map := eq_of_beq (Bool.and_eq_true_iff.mp h).1
    cases hn
  | cycle isMapping i => cases h

theorem wellFormed_of_isSimple (h : n.isSimple = true) : WellFormed root n := by
  by_cases htag : n.tag.isCollection = true
  · exact wellFormed_of_isOrdinary (isOrdinary_of_isSimple h) htag
  · rw [WellFormed, if_neg htag]
    exact ⟨_, settledScalar_of_isSimple h (Bool.eq_false_iff.mpr htag)⟩

structure Means (n : Node) (v : Value) : Prop where
  simple : n.everyNode isSimple = true
  value : n.value false textValue = v

def MeansEntry (e : Node × Node) (e' : Entry) : Prop :=
  (∃ i text, e.1 = scalar i .str text ∧ e'.1 = .str text) ∧ e.2.Means e'.2

theorem means_scalar (i : Nat) (h : Scalar.value? t text = some (.ok v)) :
    (scalar i t text).Means v where
  simple := by
    show isSimple (scalar i t text) = true
    rw [isSimple, h]
  value := by
    have htag : (scalar i t text).tag.isCollection = false := (tag_of_value? h).1
    rw [value_of_scalar htag, textValue, h]

theorem means_sequence (i : Nat) {ns : List Node} {vs : List Value} (h : List.Forall₂ Means ns vs) :
    (sequence i .seq ns).Means (.list vs) where
  simple := by
    have hns : everyNodeOfItems isSimple ns = true := by
      induction h with
      | nil => rfl
      | cons hn _ ih => rw [everyNodeOfItems, hn.simple, ih, Bool.and_true]
    rw [everyNode, hns]
    rfl
  value := by
    rw [value_eq, valueOf]
    congr 1
    induction h with
    | nil => rfl
    | cons hn _ ih => rw [List.map_cons, hn.value, ih]

theorem means_mapping (i j l : Nat) {es : List (Node × Node)} {es' : List Entry}
    (h : List.Forall₂ MeansEntry es es') :
    (mapping i .map es j l).Means (.map (Value.ofEntries es')) := by
  have hkeys : ∀ e ∈ es, e.1.isWritten = true := by
    induction h with
    | nil => nofun
    | cons he _ ih =>
      obtain ⟨⟨i, text, hk, -⟩, -⟩ := he
      exact List.forall_mem_cons.mpr ⟨by rw [hk]; rfl, ih⟩
  constructor
  · have hes : everyNodeOfEntries isSimple es = true := by
      clear hkeys
      induction h with
      | nil => rfl
      | cons he _ ih =>
        obtain ⟨⟨i, text, hk, -⟩, hv⟩ := he
        rw [everyNodeOfEntries, hk, hv.simple, ih]
        rfl
    have hnode : isSimple (mapping i .map es j l) = true :=
      Bool.and_eq_true_iff.mpr ⟨rfl, List.all_eq_true.mpr hkeys⟩
    rw [everyNode, hes, hnode]
    rfl
  · rw [value_eq, valueOf, if_neg Bool.false_ne_true, entryValues, entries?_of_isWritten hkeys,
      Option.getD_some]
    congr 2
    clear hkeys
    induction h with
    | nil => rfl
    | @cons e e' es es' he _ ih =>
      obtain ⟨⟨i, text, hk, hk'⟩, hv⟩ := he
      have hkey : value false textValue e.1 = e'.1 := by
        rw [hk, hk']
        exact (means_scalar i rfl).value
      rw [List.map_cons, ih, hkey, hv.value]

theorem exists_meaning_of_means (h : root.Means v) :
    ∃ w, root.meaning true = .ok w ∧ w.dropLines = v.dropLines := by
  have hordinary := everyNode_mono (fun _ => isOrdinary_of_isSimple) root h.simple
  have hsteady := steady_of_isPlain (isPlain_of_isOrdinary hordinary)
  have hacyclic := acyclic_of_isOrdinary hordinary
  have hsimple : ∀ n, Met root n → n.isSimple = true :=
    fun n hn => of_everyNode (everyNode_of_met h.simple hn)
  have hwell : ∀ n, Met root n → WellFormed root n :=
    fun n hn => wellFormed_of_isSimple (hsimple n hn)
  obtain ⟨st, hst⟩ := (Completion.exists_run_iff hsteady hacyclic true).mpr hwell
  refine ⟨_, meaning_eq_ok.mpr ⟨hacyclic, st, hst, rfl⟩, ?_⟩
  -- the scalars of the run are those of `textValue`, as all of them are settled
  rw [← h.value]
  refine dropLines_value hwell (fun n hn htag => ?_) root met_root
  obtain ⟨w, hw, hsettled⟩ := (Completion.settled_of_run hsteady hacyclic hst hn).2 htag
  rw [settledScalar_of_isSimple (hsimple n hn) htag] at hsettled
  rw [hw, ← Except.ok.inj hsettled]
  rfl

end BlockAudit.Yaml.Node
