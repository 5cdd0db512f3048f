import BlockAudit.Yaml.Meaning
/-!
What the completion of a document comes to in whatever order: the nodes it meets, the keys that it reads
as texts, and what each node needs.
-/

namespace BlockAudit.Yaml.Node

variable {p : Node → Bool} {root n m c k : Node} {s : Step}

theorem of_everyNode (h : n.everyNode p = true) : p n = true := by
  cases n <;> simp_all [everyNode]

theorem everyNodeOfItems_iff {ns : List Node} :
    everyNodeOfItems p ns = true ↔ ∀ n ∈ ns, n.everyNode p = true := by
  induction ns with
  | nil => simp [everyNodeOfItems]
  | cons n ns ih => rw [everyNodeOfItems, Bool.and_eq_true, ih, List.forall_mem_cons]

theorem everyNodeOfEntries_iff {es : List (Node × Node)} : everyNodeOfEntries p es = true ↔
    ∀ e ∈ es, e.1.everyNode p = true ∧ e.2.everyNode p = true := by
  induction es with
  | nil => simp [everyNodeOfEntries]
  | cons e es ih =>
    rw [everyNodeOfEntries, Bool.and_eq_true, Bool.and_eq_true, ih, List.forall_mem_cons]

theorem everyNode_of_mem_children (h : n.everyNode p = true) (hc : c ∈ n.children) :
    c.everyNode p = true := by
  cases n with
  | sequence i t ns => exact everyNodeOfItems_iff.mp (Bool.and_eq_true_iff.mp h).2 c hc
  | mapping i t es j l =>
    obtain ⟨e, he, hc⟩ := List.mem_flatMap.mp hc
    obtain ⟨hkey, hvalue⟩ := everyNodeOfEntries_iff.mp (Bool.and_eq_true_iff.mp h).2 e he
    simp only [List.mem_cons, List.not_mem_nil, or_false] at hc
    rcases hc with rfl | rfl
    · exact hkey
    · exact hvalue
  | _ => cases hc

theorem everyNode_of_contains (h : n.everyNode p = true) (hc : Contains n c) :
    c.everyNode p = true := by
  induction hc with
  | child hc => exact everyNode_of_mem_children h hc
  | deeper _ hd ih => exact everyNode_of_mem_children ih hd

inductive Arises (root : Node) : Step → Prop
  | root : Arises root (.part root)
  | step {s t : Step} : Arises root s → s.isMeeting = true → t ∈ s.node.steps → Arises root t

def Met (root n : Node) : Prop := ∃ s, Arises root s ∧ s.isMeeting = true ∧ s.node = n

theorem Arises.met_part (h : Arises root (.part n)) : Met root n := ⟨_, h, rfl, rfl⟩

theorem met_root : Met root root := Arises.root.met_part

theorem Met.arises (h : Met root n) (hs : s ∈ n.steps) : Arises root s := by
  obtain ⟨t, ht, hmeeting, rfl⟩ := h
  exact ht.step hmeeting hs

theorem Met.met (h : Met root n) (hs : s ∈ n.steps) (hmeeting : s.isMeeting = true) :
    Met root s.node :=
  ⟨s, h.arises hs, hmeeting, rfl⟩

theorem everyNode_of_arises (h : root.everyNode p = true) (hs : Arises root s) :
    s.node.everyNode p = true := by
  induction hs with
  | root => exact h
  | step _ _ ht ih => exact everyNode_of_contains ih (contains_of_mem_steps ht)

theorem everyNode_of_met (h : root.everyNode p = true) (hn : Met root n) :
    n.everyNode p = true := by
  obtain ⟨s, hs, -, rfl⟩ := hn
  exact everyNode_of_arises h hs

theorem not_met_cycle {isMapping : Bool} {i : Nat} (h : root.acyclic = true) :
    ¬Met root (cycle isMapping i) := by
  intro hn
  have := of_everyNode (everyNode_of_met h hn)
  cases this

/-- The mapping is merged at some time: it is a mapping that is met, or one that is brought into it. -/
def Merges (root m : Node) : Prop := ∃ n, Met root n ∧ n.isBuilt = true ∧ m ∈ n.sources

/-- As a key of the mapping that is merged, the node is no default key any more. -/
def BecomesText (root k : Node) : Prop := ∃ m, Merges root m ∧ k ∈ m.keys

/-- The keys whose values give a mapping its text. -/
def defaultKeys : Node → List Node
  | mapping _ _ es _ _ => ofEntries es
  | _ => []
where
  ofEntries : List (Node × Node) → List Node
    | [] => []
    | (k, v) :: es => if k.tag = .value then k :: v.defaultKeys else ofEntries es

/-- No node has two parts of which one makes it a text and another needs it as a default key, and no
mapping with merge keys is both merged and taken for a pair. -/
structure Steady (root : Node) : Prop where
  part : ∀ n, Arises root (.part n) → n.tag = .value → ¬BecomesText root n
  default : ∀ n, Met root n → n.tag.isCollection = false → ∀ k ∈ n.defaultKeys, ¬BecomesText root k
  pair : ∀ m, Arises root (.pair m) → m.hasMerge = true → ¬Merges root m

open Classical in
noncomputable def settledTag (root n : Node) : Tag :=
  if n.tag = .value ∧ BecomesText root n then .str else n.tag

/-- The value of a scalar once all keys that become texts are texts. -/
noncomputable def settledScalar (root n : Node) : Except Fault Value :=
  scalarMeaning (fun _ => false) (settledTag root n) n

def isShaped : Node → Bool
  | sequence _ t _ => t = .seq || t = .omap || t = .pairs
  | mapping i t es j l =>
    (t = .map || t = .set) && (mapping i t es j l).entries?.isSome
  | _ => false

def Step.Fits : Step → Prop
  | part _ => True
  | key k => k.tag.isCollection = false
  | pair m => (∃ e, m.entries? = some [e]) ∧ m.hasMerge = false

def WellFormed (root n : Node) : Prop :=
  if n.tag.isCollection then n.isShaped = true ∧ ∀ s ∈ n.steps, s.Fits
  else ∃ v, settledScalar root n = .ok v

/-- What the node by itself keeps the document from being completed with. -/
def IllFormed (root n : Node) (f : Fault) : Prop :=
  if n.tag.isCollection then ¬WellFormed root n ∧ f = .malformedDocument
  else settledScalar root n = .error f

theorem illFormed_of_isCollection (htag : n.tag.isCollection = true) (h : ¬WellFormed root n) :
    IllFormed root n .malformedDocument := by
  rw [IllFormed, if_pos htag]
  exact ⟨h, rfl⟩

theorem illFormed_of_settledScalar {f : Fault} (htag : n.tag.isCollection = false)
    (h : settledScalar root n = .error f) : IllFormed root n f := by
  rw [IllFormed, htag]
  exact h

theorem IllFormed.not_wellFormed {f : Fault} (h : IllFormed root n f) : ¬WellFormed root n := by
  unfold IllFormed at h
  split at h
  · exact h.1
  · next htag =>
    intro hn
    rw [WellFormed, if_neg htag, h] at hn
    obtain ⟨v, hv⟩ := hn
    cases hv

mutual

theorem defaultText?_congr (isText : Node → Bool) : (n : Node) →
    (∀ k ∈ n.defaultKeys, isText k = false) →
      n.defaultText? isText = n.defaultText? fun _ => false
  | scalar _ _ _, _ => rfl
  | sequence _ _ _, _ => rfl
  | cycle _ _, _ => rfl
  | mapping _ _ es _ _, h => defaultText?_congr_entries isText es h

theorem defaultText?_congr_entries (isText : Node → Bool) : (es : List (Node × Node)) →
    (∀ k ∈ defaultKeys.ofEntries es, isText k = false) →
      defaultText?.ofEntries isText es = defaultText?.ofEntries (fun _ => false) es
  | [], _ => rfl
  | (k, v) :: es, h => by
    rw [defaultKeys.ofEntries] at h
    rw [defaultText?.ofEntries, defaultText?.ofEntries]
    by_cases hk : k.tag = .value
    · rw [if_pos hk] at h
      have hkey := h k List.mem_cons_self
      have hvalue := defaultText?_congr isText v fun k hk => h k (List.mem_cons_of_mem _ hk)
      simp [hk, hkey, hvalue]
    · rw [if_neg hk] at h
      simp [hk, defaultText?_congr_entries isText es h]

end

theorem scalarMeaning_congr {isText : Node → Bool} (h : ∀ k ∈ n.defaultKeys, isText k = false)
    (tag : Tag) : scalarMeaning isText tag n = scalarMeaning (fun _ => false) tag n := by
  unfold scalarMeaning
  rw [defaultText?_congr isText n h]

/-! Documents without default keys, ordered mappings and pairs. -/

def isPlain (n : Node) : Bool :=
  n.everyNode fun c => c.tag ≠ .value && c.tag ≠ .omap && c.tag ≠ .pairs

mutual

theorem of_mem_defaultKeys : (n : Node) → ∀ k ∈ n.defaultKeys, k.tag = .value ∧ Contains n k
  | mapping i t es j l, k, hk => by
    obtain ⟨htag, e, he, h⟩ := of_mem_defaultKeys_entries es k hk
    have hchildren : e.1 ∈ (mapping i t es j l).children ∧ e.2 ∈ (mapping i t es j l).children :=
      mem_children_of_mem_writtenEntries he
    rcases h with rfl | h
    · exact ⟨htag, .child hchildren.1⟩
    · exact ⟨htag, (Contains.child hchildren.2).trans h⟩

theorem of_mem_defaultKeys_entries : (es : List (Node × Node)) →
    ∀ k ∈ defaultKeys.ofEntries es, k.tag = .value ∧ ∃ e ∈ es, k = e.1 ∨ Contains e.2 k
  | [], k, hk => by cases hk
  | (l, v) :: es, k, hk => by
    rw [defaultKeys.ofEntries] at hk
    split at hk
    · next htag =>
      rcases List.mem_cons.mp hk with rfl | hk
      · exact ⟨htag, _, List.mem_cons_self, Or.inl rfl⟩
      · obtain ⟨htag, h⟩ := of_mem_defaultKeys v k hk
        exact ⟨htag, _, List.mem_cons_self, Or.inr h⟩
    · obtain ⟨htag, e, he, h⟩ := of_mem_defaultKeys_entries es k hk
      exact ⟨htag, e, List.mem_cons_of_mem _ he, h⟩

end

theorem tag_of_pair_mem_steps (h : .pair m ∈ n.steps) : n.tag = .omap ∨ n.tag = .pairs := by
  rcases steps_cases h with ⟨i, ns, -, c, -, hc⟩ | ⟨i, t, ns, rfl, ht, -⟩ |
    ⟨-, es, -, e, -, he | he⟩
  · cases hc
  · exact ht
  · cases he
  · cases he

theorem steady_of_isPlain (h : root.isPlain = true) : Steady root where
  part := by
    intro n hn htag
    have := of_everyNode (everyNode_of_arises h hn)
    simp [Step.node, htag] at this
  default := by
    intro n hn _ k hk
    obtain ⟨htag, hcontains⟩ := of_mem_defaultKeys n k hk
    have := of_everyNode (everyNode_of_contains (everyNode_of_met h hn) hcontains)
    simp [htag] at this
  pair := by
    intro m hm
    cases hm with
    | @step s _ hs _ hmem =>
      have := of_everyNode (everyNode_of_arises h hs)
      rcases tag_of_pair_mem_steps hmem with htag | htag <;> simp [htag] at this

end BlockAudit.Yaml.Node
