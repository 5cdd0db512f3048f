import BlockAudit.Yaml.Node

namespace BlockAudit.Yaml.Node

def isMerge (e : Node × Node) : Bool := e.1.tag == .merge

def ownEntries (es : List (Node × Node)) : List (Node × Node) := es.filter (!isMerge ·)

mutual

/-- What the merge keys of a mapping bring, or nothing if one of them brings no mapping. -/
def mergedEntries? : List (Node × Node) → Option (List (Node × Node))
  | [] => some []
  | (k, v) :: es =>
    if k.tag = .merge then do
      let first ← sourceEntries? v
      let rest ← mergedEntries? es
      return first ++ rest
    else mergedEntries? es

/-- The entries of a mapping that is merged, or of several, where those of the first come last. A mapping
brings nothing to itself. -/
def sourceEntries? : Node → Option (List (Node × Node))
  | mapping _ _ es _ _ => (mergedEntries? es).map (· ++ ownEntries es)
  | sequence _ _ items => sourcesEntries? items
  | cycle true _ => some []
  | _ => none

def sourcesEntries? : List Node → Option (List (Node × Node))
  | [] => some []
  | mapping _ _ es _ _ :: ns => do
    let first ← mergedEntries? es
    let rest ← sourcesEntries? ns
    return rest ++ (first ++ ownEntries es)
  | cycle true _ :: ns => sourcesEntries? ns
  | _ => none

end

def entries? : Node → Option (List (Node × Node))
  | mapping _ _ es _ _ => (mergedEntries? es).map (· ++ ownEntries es)
  | _ => none

mutual

def mergedIn : List (Node × Node) → List Node
  | [] => []
  | (k, v) :: es => (if k.tag = .merge then sources v else []) ++ mergedIn es

def sources : Node → List Node
  | mapping n t es i j => mapping n t es i j :: mergedIn es
  | sequence _ _ items => sourcesIn items
  | _ => []

def sourcesIn : List Node → List Node
  | [] => []
  | n :: ns => sources n ++ sourcesIn ns

end

def writtenEntries : Node → List (Node × Node)
  | mapping _ _ es _ _ => es
  | _ => []

def keys (n : Node) : List Node := n.writtenEntries.map (·.1)

def hasMerge (n : Node) : Bool := n.writtenEntries.any isMerge

mutual

theorem exists_of_mem_mergedEntries : (es : List (Node × Node)) → {ms : List (Node × Node)} →
    mergedEntries? es = some ms → ∀ e ∈ ms, ∃ m ∈ mergedIn es, e ∈ m.writtenEntries
  | [], ms, h, e, he => by
    cases h
    cases he
  | (k, v) :: es, ms, h, e, he => by
    rw [mergedEntries?] at h
    rw [mergedIn]
    split at h
    · next hk =>
      obtain ⟨first, hfirst, h⟩ := Option.bind_eq_some_iff.mp h
      obtain ⟨rest, hrest, h⟩ := Option.bind_eq_some_iff.mp h
      cases h
      rw [if_pos hk]
      rcases List.mem_append.mp he with he | he
      · obtain ⟨m, hm, hem⟩ := exists_of_mem_sourceEntries v hfirst e he
        exact ⟨m, List.mem_append_left _ hm, hem⟩
      · obtain ⟨m, hm, hem⟩ := exists_of_mem_mergedEntries es hrest e he
        exact ⟨m, List.mem_append_right _ hm, hem⟩
    · obtain ⟨m, hm, hem⟩ := exists_of_mem_mergedEntries es h e he
      exact ⟨m, List.mem_append_right _ hm, hem⟩

theorem exists_of_mem_sourceEntries : (n : Node) → {ms : List (Node × Node)} →
    sourceEntries? n = some ms → ∀ e ∈ ms, ∃ m ∈ n.sources, e ∈ m.writtenEntries
  | mapping _ _ es _ _, ms, h, e, he => by
    obtain ⟨merged, hmerged, rfl⟩ := Option.map_eq_some_iff.mp h
    rw [sources]
    rcases List.mem_append.mp he with he | he
    · obtain ⟨m, hm, hem⟩ := exists_of_mem_mergedEntries es hmerged e he
      exact ⟨m, List.mem_cons_of_mem _ hm, hem⟩
    · exact ⟨_, List.mem_cons_self, (List.mem_filter.mp he).1⟩
  | sequence _ _ items, ms, h, e, he => by
    rw [sources]
    exact exists_of_mem_sourcesEntries items h e he
  | cycle true _, ms, h, e, he => by
    cases h
    cases he

theorem exists_of_mem_sourcesEntries : (ns : List Node) → {ms : List (Node × Node)} →
    sourcesEntries? ns = some ms → ∀ e ∈ ms, ∃ m ∈ sourcesIn ns, e ∈ m.writtenEntries
  | [], ms, h, e, he => by
    cases h
    cases he
  | mapping i t es j l :: ns, ms, h, e, he => by
    rw [sourcesEntries?] at h
    obtain ⟨first, hfirst, h⟩ := Option.bind_eq_some_iff.mp h
    obtain ⟨rest, hrest, h⟩ := Option.bind_eq_some_iff.mp h
    cases h
    rw [sourcesIn, sources]
    rcases List.mem_append.mp he with he | he
    · obtain ⟨m, hm, hem⟩ := exists_of_mem_sourcesEntries ns hrest e he
      exact ⟨m, List.mem_append_right _ hm, hem⟩
    · rcases List.mem_append.mp he with he | he
      · obtain ⟨m, hm, hem⟩ := exists_of_mem_mergedEntries es hfirst e he
        exact ⟨m, List.mem_append_left _ (List.mem_cons_of_mem _ hm), hem⟩
      · exact ⟨_, List.mem_append_left _ List.mem_cons_self, (List.mem_filter.mp he).1⟩
  | cycle true i :: ns, ms, h, e, he => by
    obtain ⟨m, hm, hem⟩ := exists_of_mem_sourcesEntries ns h e he
    exact ⟨m, List.mem_append_right _ hm, hem⟩

end

theorem exists_source_of_mem_entries {n : Node} {es : List (Node × Node)}
    (h : n.entries? = some es) {e : Node × Node} (he : e ∈ es) :
    ∃ m ∈ n.sources, e ∈ m.writtenEntries := by
  cases n with
  | mapping i t fs j l => exact exists_of_mem_sourceEntries (mapping i t fs j l) h e he
  | _ => cases h

def children : Node → List Node
  | sequence _ _ items => items
  | mapping _ _ es _ _ => es.flatMap fun e => [e.1, e.2]
  | _ => []

inductive Contains (n : Node) : Node → Prop
  | child {c : Node} : c ∈ n.children → Contains n c
  | deeper {c d : Node} : Contains n c → d ∈ c.children → Contains n d

theorem Contains.trans {n m c : Node} (h : Contains n m) (hc : Contains m c) : Contains n c := by
  induction hc with
  | child hc => exact h.deeper hc
  | deeper _ hd ih => exact ih.deeper hd

theorem mem_children_of_mem_writtenEntries {n : Node} {e : Node × Node}
    (h : e ∈ n.writtenEntries) : e.1 ∈ n.children ∧ e.2 ∈ n.children := by
  cases n with
  | mapping i t es j l =>
    exact ⟨List.mem_flatMap.mpr ⟨e, h, by simp⟩, List.mem_flatMap.mpr ⟨e, h, by simp⟩⟩
  | _ => cases h

mutual

theorem exists_of_mem_mergedIn : (es : List (Node × Node)) → ∀ m ∈ mergedIn es,
    ∃ e ∈ es, m = e.2 ∨ Contains e.2 m
  | [], m, hm => by cases hm
  | (k, v) :: es, m, hm => by
    rw [mergedIn] at hm
    rcases List.mem_append.mp hm with hm | hm
    · split at hm
      · exact ⟨_, List.mem_cons_self, contains_of_mem_sources v m hm⟩
      · cases hm
    · obtain ⟨e, he, h⟩ := exists_of_mem_mergedIn es m hm
      exact ⟨e, List.mem_cons_of_mem _ he, h⟩

theorem contains_of_mem_sources : (n : Node) → ∀ m ∈ n.sources, m = n ∨ Contains n m
  | mapping i t es j l, m, hm => by
    rcases List.mem_cons.mp hm with rfl | hm
    · exact Or.inl rfl
    · obtain ⟨e, he, h⟩ := exists_of_mem_mergedIn es m hm
      have hchild : Contains (mapping i t es j l) e.2 :=
        .child (mem_children_of_mem_writtenEntries he).2
      rcases h with rfl | h
      · exact Or.inr hchild
      · exact Or.inr (hchild.trans h)
  | sequence i t items, m, hm => by
    obtain ⟨c, hc, h⟩ := exists_of_mem_sourcesIn items m hm
    have hchild : Contains (sequence i t items) c := .child hc
    rcases h with rfl | h
    · exact Or.inr hchild
    · exact Or.inr (hchild.trans h)

theorem exists_of_mem_sourcesIn : (ns : List Node) → ∀ m ∈ sourcesIn ns,
    ∃ n ∈ ns, m = n ∨ Contains n m
  | [], m, hm => by cases hm
  | n :: ns, m, hm => by
    rw [sourcesIn] at hm
    rcases List.mem_append.mp hm with hm | hm
    · exact ⟨n, List.mem_cons_self, contains_of_mem_sources n m hm⟩
    · obtain ⟨c, hc, h⟩ := exists_of_mem_sourcesIn ns m hm
      exact ⟨c, List.mem_cons_of_mem _ hc, h⟩

end

theorem contains_of_mem_entries {n : Node} {es : List (Node × Node)} (hes : n.entries? = some es)
    {e : Node × Node} (he : e ∈ es) : Contains n e.1 ∧ Contains n e.2 := by
  obtain ⟨m, hm, hem⟩ := exists_source_of_mem_entries hes he
  obtain ⟨hkey, hvalue⟩ := mem_children_of_mem_writtenEntries hem
  rcases contains_of_mem_sources n m hm with rfl | h
  · exact ⟨.child hkey, .child hvalue⟩
  · exact ⟨h.deeper hkey, h.deeper hvalue⟩

mutual

def height : Node → Nat
  | scalar _ _ _ => 1
  | sequence _ _ items => heightOfItems items + 1
  | mapping _ _ es _ _ => heightOfEntries es + 1
  | cycle _ _ => 1

def heightOfItems : List Node → Nat
  | [] => 0
  | n :: ns => max n.height (heightOfItems ns)

def heightOfEntries : List (Node × Node) → Nat
  | [] => 0
  | (k, v) :: es => max (max k.height v.height) (heightOfEntries es)

end

theorem height_pos (n : Node) : 0 < n.height := by
  cases n <;> exact Nat.succ_pos _

theorem height_le_of_mem_items {n : Node} {ns : List Node} (h : n ∈ ns) :
    n.height ≤ heightOfItems ns := by
  induction ns with
  | nil => cases h
  | cons m ns ih =>
    rw [heightOfItems]
    rcases List.mem_cons.mp h with rfl | h
    · exact Nat.le_max_left _ _
    · exact Nat.le_trans (ih h) (Nat.le_max_right _ _)

theorem height_le_of_mem_entries {e : Node × Node} {es : List (Node × Node)} (h : e ∈ es) :
    max e.1.height e.2.height ≤ heightOfEntries es := by
  induction es with
  | nil => cases h
  | cons f es ih =>
    rw [heightOfEntries]
    rcases List.mem_cons.mp h with rfl | h
    · exact Nat.le_max_left _ _
    · exact Nat.le_trans (ih h) (Nat.le_max_right _ _)

theorem height_lt_of_mem_children {n c : Node} (h : c ∈ n.children) : c.height < n.height := by
  cases n with
  | sequence i t items => exact Nat.lt_succ_of_le (height_le_of_mem_items h)
  | mapping i t es j l =>
    obtain ⟨e, he, hc⟩ := List.mem_flatMap.mp h
    have hle := height_le_of_mem_entries he
    rw [height]
    simp only [List.mem_cons, List.not_mem_nil, or_false] at hc
    rcases hc with rfl | rfl <;> omega
  | _ => cases h

theorem height_lt_of_contains {n c : Node} (h : Contains n c) : c.height < n.height := by
  induction h with
  | child hc => exact height_lt_of_mem_children hc
  | deeper _ hd ih => exact Nat.lt_trans (height_lt_of_mem_children hd) ih

end BlockAudit.Yaml.Node
