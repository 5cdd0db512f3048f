import BlockAudit.Proofs.Value.Lines
import BlockAudit.Proofs.Yaml.Completion
import BlockAudit.Proofs.Yaml.Scalar
import BlockAudit.Yaml.Read

namespace BlockAudit.Yaml.Node

open Value

variable {tracked tracked' : Bool} {root n m : Node} {f g : Node → Value}

theorem part_mem_pairSteps {k v : Node} (h : m.entries? = some [(k, v)]) :
    .part k ∈ pairSteps m ∧ .part v ∈ pairSteps m := by
  simp [pairSteps, h]

theorem entry_mem_steps (h : n.isBuilt = true) {es : List (Node × Node)}
    (hes : n.entries? = some es) {e : Node × Node} (he : e ∈ es) :
    .key e.1 ∈ n.steps ∧ .part e.2 ∈ n.steps := by
  cases n with
  | mapping i t fs j l =>
    cases t <;> try cases h
    all_goals
      rw [steps, hes]
      exact ⟨List.mem_flatMap.mpr ⟨e, he, by simp⟩, List.mem_flatMap.mpr ⟨e, he, by simp⟩⟩
  | _ => cases h

theorem pairValue_congr (h : ∀ s ∈ pairSteps m, s.isMeeting = true → f s.node = g s.node) :
    pairValue f m = pairValue g m := by
  unfold pairValue
  split
  · next k v hes =>
    obtain ⟨hk, hv⟩ := part_mem_pairSteps hes
    have hkey : f k = g k := h _ hk rfl
    have hvalue : f v = g v := h _ hv rfl
    rw [hkey, hvalue]
  · rfl

theorem entryValues_congr (hn : n.isBuilt = true)
    (h : ∀ s ∈ n.steps, s.isMeeting = true → f s.node = g s.node) :
    entryValues f n = entryValues g n := by
  rw [entryValues, entryValues]
  congr 1
  cases hes : n.entries? with
  | none => rfl
  | some es =>
    refine List.map_congr_left fun e he => ?_
    obtain ⟨hkey, hvalue⟩ := entry_mem_steps hn hes he
    exact Prod.ext (h _ hkey rfl) (h _ hvalue rfl)

theorem valueOf_congr {scalar : Node → Value}
    (h : ∀ s ∈ n.steps, s.isMeeting = true → f s.node = g s.node) :
    valueOf tracked scalar f n = valueOf tracked scalar g n := by
  cases n with
  | scalar i t text => rfl
  | cycle isMapping i => rfl
  | sequence i t ns =>
    have hpairs : (∀ s ∈ ns.flatMap pairSteps, s.isMeeting = true → f s.node = g s.node) →
        ns.map (pairValue f) = ns.map (pairValue g) := fun h =>
      List.map_congr_left fun m hm => pairValue_congr fun s hs =>
        h s (List.mem_flatMap.mpr ⟨m, hm, hs⟩)
    cases t <;> try rfl
    case seq =>
      have hitems : ns.map f = ns.map g :=
        List.map_congr_left fun c hc => h (.part c) (List.mem_map_of_mem hc) rfl
      rw [valueOf, valueOf, hitems]
    case omap => rw [valueOf, valueOf, hpairs h]
    case pairs => rw [valueOf, valueOf, hpairs h]
  | mapping i t es j l =>
    cases t <;> try rfl
    case map => rw [valueOf, valueOf, entryValues_congr rfl h]
    case set => rw [valueOf, valueOf, entryValues_congr rfl h]

theorem value_eq (n : Node) :
    n.value tracked f = valueOf tracked f (value tracked f) n := by
  rw [value]
  apply valueOf_congr
  intro s hs _
  exact if_pos (height_lt_of_contains (contains_of_mem_steps hs))

theorem value_of_scalar (h : n.tag.isCollection = false) : n.value tracked f = f n := by
  rw [value_eq]
  cases n with
  | scalar i t text => rfl
  | cycle isMapping i => cases isMapping <;> cases h
  | sequence i t ns => cases t <;> first | rfl | cases h
  | mapping i t es j l => cases t <;> first | rfl | cases h

theorem dropLines_pairValue (h : ∀ s ∈ pairSteps m, s.isMeeting = true →
    (f s.node).dropLines = (g s.node).dropLines) :
    (pairValue f m).dropLines = (pairValue g m).dropLines := by
  unfold pairValue
  split
  · next k v hes =>
    obtain ⟨hk, hv⟩ := part_mem_pairSteps hes
    have hkey : (f k).dropLines = (g k).dropLines := h _ hk rfl
    have hvalue : (f v).dropLines = (g v).dropLines := h _ hv rfl
    rw [dropLines, dropLines, hkey, hvalue]
  · rfl

theorem alike_entryValues (hn : n.isBuilt = true) (hkeys : ∀ k, .key k ∈ n.steps → f k = g k)
    (h : ∀ s ∈ n.steps, s.isMeeting = true → (f s.node).dropLines = (g s.node).dropLines) :
    Alike (entryValues f n) (entryValues g n) := by
  rw [entryValues, entryValues]
  apply Alike.ofEntries
  cases hes : n.entries? with
  | none => exact .nil
  | some es =>
    rw [Option.getD_some, Alike, List.forall₂_map_left_iff, List.forall₂_map_right_iff]
    refine List.forall₂_same.mpr fun e he => ?_
    obtain ⟨hkey, hvalue⟩ := entry_mem_steps hn hes he
    exact ⟨hkeys _ hkey, h _ hvalue rfl⟩

theorem dropLinesOfEntries_withLines (i j : Nat) (es : List Entry) :
    dropLinesOfEntries (withLines i j es) = dropLinesOfEntries es := by
  rw [withLines, dropLinesOfEntries_insert rfl, dropLinesOfEntries_insert rfl]

theorem hasLines_withLines (i j : Nat) (es : List Entry) :
    (map (withLines i j es)).hasLines = true := by
  have hends : lineKey ≠ endLineKey := by decide
  have hline : lookup? lineKey (withLines i j es) = some (.int (i + 1)) := by
    rw [withLines, lookup?_insert, if_neg hends.symm, lookup?_insert, if_pos rfl]
  have hend : lookup? endLineKey (withLines i j es) = some (.int (j + 1)) := by
    rw [withLines, lookup?_insert, if_pos rfl]
  rw [hasLines, hline, hend]

theorem dropLines_valueOf {scalar scalar' : Node → Value}
    (hshaped : n.tag.isCollection = true → n.isShaped = true)
    (hscalar : n.tag.isCollection = false → scalar n = scalar' n)
    (hkeys : ∀ k, .key k ∈ n.steps → f k = g k)
    (h : ∀ s ∈ n.steps, s.isMeeting = true → (f s.node).dropLines = (g s.node).dropLines) :
    (valueOf tracked scalar f n).dropLines = (valueOf tracked' scalar' g n).dropLines := by
  cases n with
  | scalar i t text =>
    cases htag : t.isCollection with
    | true => cases hshaped htag
    | false => exact congrArg dropLines (hscalar htag)
  | cycle isMapping i => cases isMapping <;> cases hshaped rfl
  | sequence i t ns =>
    have hpairs : (∀ s ∈ ns.flatMap pairSteps, s.isMeeting = true →
        (f s.node).dropLines = (g s.node).dropLines) →
        (ns.map (pairValue f)).map dropLines = (ns.map (pairValue g)).map dropLines := by
      intro h
      rw [List.map_map, List.map_map]
      exact List.map_congr_left fun m hm => dropLines_pairValue fun s hs =>
        h s (List.mem_flatMap.mpr ⟨m, hm, hs⟩)
    cases t
    case seq =>
      rw [valueOf, valueOf, dropLines_list, dropLines_list, List.map_map, List.map_map]
      have hitems : ns.map (dropLines ∘ f) = ns.map (dropLines ∘ g) :=
        List.map_congr_left fun c hc => h (.part c) (List.mem_map_of_mem hc) rfl
      rw [hitems]
    case omap => rw [valueOf, valueOf, dropLines_list, dropLines_list, hpairs h]
    case pairs => rw [valueOf, valueOf, dropLines_list, dropLines_list, hpairs h]
    case map => cases hshaped rfl
    case set => cases hshaped rfl
    all_goals exact congrArg dropLines (hscalar rfl)
  | mapping i t es j l =>
    cases t
    case map =>
      have hentries := (alike_entryValues rfl hkeys h).dropLinesOfEntries_eq
      rw [valueOf, valueOf, dropLines, dropLines]
      cases tracked <;> cases tracked' <;>
        simp only [Bool.false_eq_true, if_true, if_false, dropLinesOfEntries_withLines, hentries]
    case set =>
      rw [valueOf, valueOf, (alike_entryValues rfl hkeys h).filterMap_key]
    case seq => cases hshaped rfl
    case omap => cases hshaped rfl
    case pairs => cases hshaped rfl
    all_goals exact congrArg dropLines (hscalar rfl)

theorem isShaped_of_wellFormed (h : WellFormed root n) (htag : n.tag.isCollection = true) :
    n.isShaped = true := by
  rw [WellFormed, if_pos htag] at h
  exact h.1

theorem isCollection_of_key_mem_steps {k : Node} (h : WellFormed root n) (hk : .key k ∈ n.steps) :
    k.tag.isCollection = false := by
  rw [WellFormed, if_pos (Completion.isCollection_of_mem_steps hk)] at h
  exact h.2 _ hk

theorem dropLines_value (hwell : ∀ n, Met root n → WellFormed root n)
    (hscalar : ∀ n, Met root n → n.tag.isCollection = false → f n = g n) (n : Node)
    (hn : Met root n) : (n.value tracked f).dropLines = (n.value tracked' g).dropLines := by
  rw [value_eq, value_eq]
  apply dropLines_valueOf (isShaped_of_wellFormed (hwell n hn)) (hscalar n hn)
  · intro k hk
    have htag := isCollection_of_key_mem_steps (hwell n hn) hk
    rw [value_of_scalar htag, value_of_scalar htag]
    exact hscalar k (hn.met hk rfl) htag
  · intro s hs hmeeting
    have hlt := height_lt_of_contains (contains_of_mem_steps hs)
    exact dropLines_value hwell hscalar s.node (hn.met hs hmeeting)
termination_by n.height

theorem isLeaf_of_scalarMeaning {isText : Node → Bool} {tag : Tag} {v : Value}
    (h : scalarMeaning isText tag n = .ok v) : v.isLeaf = true := by
  have hvalue : ∀ text, (Scalar.value? tag text).getD (.error .malformedDocument) = .ok v →
      v.isLeaf = true := by
    intro text h
    cases hv : Scalar.value? tag text with
    | none =>
      rw [hv] at h
      cases h
    | some x =>
      rw [hv] at h
      exact Scalar.isLeaf_value (hv.trans (congrArg some h))
  unfold scalarMeaning at h
  split at h
  · cases h
  · exact hvalue _ h
  · split at h
    · cases h
    · exact hvalue _ h

theorem exists_of_part_entryValues {es : List Entry} (hn : n.isBuilt = true) {e : Entry}
    (he : e ∈ entryValues f n) (h : Part (.map es) e.2) :
    ∃ s ∈ n.steps, s.isMeeting = true ∧ Part (.map es) (f s.node) := by
  obtain ⟨e', he', hvalue⟩ := exists_of_mem_ofEntries he
  obtain ⟨c, hc, rfl⟩ := List.mem_map.mp he'
  cases hes : n.entries? with
  | none =>
    rw [hes] at hc
    cases hc
  | some cs =>
    rw [hes] at hc
    rw [hvalue] at h
    exact ⟨_, (entry_mem_steps hn hes hc).2, rfl, h⟩

theorem exists_of_part_pairValue {es : List Entry} (h : Part (.map es) (pairValue f m)) :
    ∃ s ∈ pairSteps m, s.isMeeting = true ∧ Part (.map es) (f s.node) := by
  unfold pairValue at h
  split at h
  · next k v hes =>
    obtain ⟨hk, hv⟩ := part_mem_pairSteps hes
    cases h with
    | first h => exact ⟨_, hk, rfl, h⟩
    | second h => exact ⟨_, hv, rfl, h⟩
  · cases h

theorem of_mem_withLines {i j : Nat} {es : List Entry} {e : Entry} (h : e ∈ withLines i j es) :
    (∃ l, e.2 = .int l) ∨ e ∈ es := by
  rcases mem_insert h with he | h
  · exact Or.inl ⟨_, he⟩
  · exact (mem_insert h).imp_left fun he => ⟨_, he⟩

theorem exists_of_part_valueOf {scalar : Node → Value} {es : List Entry}
    (hshaped : n.isShaped = true) (h : Part (.map es) (valueOf tracked scalar f n)) :
    n.isBuilt = true ∧ valueOf tracked scalar f n = .map es ∨
      ∃ s ∈ n.steps, s.isMeeting = true ∧ Part (.map es) (f s.node) := by
  cases n with
  | scalar i t text => cases hshaped
  | cycle isMapping i => cases hshaped
  | sequence i t ns =>
    have hpairs : Part (.map es) (.list (ns.map (pairValue f))) →
        ∃ s ∈ ns.flatMap pairSteps, s.isMeeting = true ∧ Part (.map es) (f s.node) := by
      intro h
      cases h with
      | item hv h =>
        obtain ⟨m, hm, rfl⟩ := List.mem_map.mp hv
        obtain ⟨s, hs, hpart⟩ := exists_of_part_pairValue h
        exact ⟨s, List.mem_flatMap.mpr ⟨m, hm, hs⟩, hpart⟩
    cases t <;> first | cases hshaped; done | right
    case seq =>
      cases h with
      | item hv h =>
        obtain ⟨c, hc, rfl⟩ := List.mem_map.mp hv
        exact ⟨.part c, List.mem_map_of_mem hc, rfl, h⟩
    case omap => exact hpairs h
    case pairs => exact hpairs h
  | mapping i t cs j l =>
    cases t <;> try cases hshaped
    case map =>
      rw [valueOf] at h
      cases h with
      | self => exact Or.inl ⟨rfl, rfl⟩
      | @entry e _ he h =>
        right
        cases tracked
        · exact exists_of_part_entryValues rfl he h
        · rcases of_mem_withLines he with ⟨l, hl⟩ | he
          · rw [hl] at h
            cases h
          · exact exists_of_part_entryValues rfl he h
    case set =>
      rw [valueOf] at h
      cases h

theorem eq_of_part_leaf {v w : Value} (h : v.isLeaf = true) (hw : Part w v) : w = v := by
  cases hw <;> first | rfl | cases h

theorem exists_of_part_value (hwell : ∀ n, Met root n → WellFormed root n)
    (hleaf : ∀ n, Met root n → n.tag.isCollection = false → (f n).isLeaf = true) {es : List Entry}
    (n : Node) (hn : Met root n) (h : Part (.map es) (n.value tracked f)) :
    ∃ m, Met root m ∧ m.isBuilt = true ∧ m.value tracked f = .map es := by
  by_cases htag : n.tag.isCollection = true
  · rw [value_eq] at h
    rcases exists_of_part_valueOf (isShaped_of_wellFormed (hwell n hn) htag) h with
      ⟨hbuilt, hvalue⟩ | ⟨s, hs, hmeeting, hpart⟩
    · exact ⟨n, hn, hbuilt, (value_eq n).trans hvalue⟩
    · have hlt := height_lt_of_contains (contains_of_mem_steps hs)
      exact exists_of_part_value hwell hleaf s.node (hn.met hs hmeeting) hpart
  · have htag := Bool.eq_false_iff.mpr htag
    rw [value_of_scalar htag] at h
    have hmap := hleaf n hn htag
    rw [← eq_of_part_leaf hmap h] at hmap
    cases hmap
termination_by n.height

theorem hasLines_value (hshaped : n.isShaped = true) (htag : n.tag = .map) :
    (n.value true f).hasLines = true := by
  cases n with
  | mapping i t es j l =>
    cases htag
    rw [value_eq]
    exact hasLines_withLines j l _
  | sequence i t ns =>
    cases htag
    cases hshaped
  | _ => cases hshaped

end Node

open Node Completion

variable {root : Node}

theorem read_cases (s : List Char) :
    (∃ root, rootOf s = .ok (some root) ∧ ∀ tracked, read tracked s = root.meaning tracked) ∨
      read true s = read false s ∧ ∀ v, read true s = .ok v → v = .null ∧ rootOf s = .ok none := by
  unfold read
  cases hs : s.all isAllowed with
  | false => exact Or.inr ⟨rfl, nofun⟩
  | true =>
    cases hroot : rootOf s with
    | error f => exact Or.inr ⟨rfl, nofun⟩
    | ok root? =>
      cases root? with
      | none =>
        refine Or.inr ⟨rfl, fun v hv => ?_⟩
        cases hv
        exact ⟨rfl, rfl⟩
      | some root => exact Or.inl ⟨root, rfl, fun tracked => rfl⟩

theorem meaning_eq_ok {tracked : Bool} {v : Value} : root.meaning tracked = .ok v ↔
    root.acyclic = true ∧
      ∃ st, (completeRoot tracked root).run .start = .ok ((), st) ∧ st.built tracked root = v := by
  unfold meaning
  split
  · next st h => cases root.acyclic <;> simp [h]
  · next f h => simp [h]

theorem meaning_iff (hacyclic : root.acyclic = true) (hsteady : Steady root) :
    (∃ v, root.meaning true = .ok v) ↔ ∃ v, root.meaning false = .ok v := by
  have hiff : ∀ tracked, (∃ v, root.meaning tracked = .ok v) ↔
      ∀ n, Met root n → WellFormed root n := by
    intro tracked
    rw [← exists_run_iff hsteady hacyclic tracked]
    simp [meaning_eq_ok, hacyclic]
  rw [hiff, hiff]

theorem dropLines_meaning (hacyclic : root.acyclic = true) (hsteady : Steady root) {v w : Value}
    (hv : root.meaning true = .ok v) (hw : root.meaning false = .ok w) :
    v.dropLines = w.dropLines := by
  obtain ⟨-, st, hst, rfl⟩ := meaning_eq_ok.mp hv
  obtain ⟨-, st', hst', rfl⟩ := meaning_eq_ok.mp hw
  apply dropLines_value (fun n hn => (settled_of_run hsteady hacyclic hst hn).1) _ root met_root
  intro n hn htag
  obtain ⟨x, hx, hsettled⟩ := (settled_of_run hsteady hacyclic hst hn).2 htag
  obtain ⟨y, hy, hsettled'⟩ := (settled_of_run hsteady hacyclic hst' hn).2 htag
  rw [hx, hy, Except.ok.inj (hsettled.symm.trans hsettled')]

theorem lines_of_run (hacyclic : root.acyclic = true) (hsteady : Steady root) {st : Progress}
    (h : (completeRoot true root).run .start = .ok ((), st)) :
    (∀ es, Value.Part (.map es) (st.built true root) →
      ∃ n, Met root n ∧ n.isBuilt = true ∧ st.built true n = .map es) ∧
    ∀ n, Met root n → n.tag = .map → (st.built true n).hasLines = true := by
  have hwell := fun n hn => (settled_of_run hsteady hacyclic h (n := n) hn).1
  constructor
  · intro es hes
    apply exists_of_part_value hwell _ root met_root hes
    intro n hn htag
    obtain ⟨v, hv, hsettled⟩ := (settled_of_run hsteady hacyclic h hn).2 htag
    rw [hv]
    exact isLeaf_of_scalarMeaning hsettled
  · intro n hn htag
    exact hasLines_value (isShaped_of_wellFormed (hwell n hn) (by rw [htag]; rfl)) htag

theorem of_rootOf {p : Node → Bool} {s : List Char}
    (h : (match rootOf s with
      | .ok (some root) => p root
      | _ => true) = true) (root : Node) (hroot : rootOf s = .ok (some root)) : p root = true := by
  rw [hroot] at h
  exact h

theorem exists_rootOf {s : List Char} (h : ((rootOf s).toOption.bind id).isSome = true) :
    ∃ root, rootOf s = .ok (some root) := by
  cases hroot : rootOf s with
  | error f =>
    rw [hroot] at h
    cases h
  | ok root? =>
    rw [hroot] at h
    obtain ⟨root, rfl⟩ := Option.isSome_iff_exists.mp h
    exact ⟨root, rfl⟩

/-- Tracking lines changes nothing but the lines, unless an alias is for a collection that it is part of
or gives a node two parts that do not go together. -/
theorem read_alike (s : List Char)
    (hacyclic : ∀ root, rootOf s = .ok (some root) → root.acyclic = true)
    (hsteady : ∀ root, rootOf s = .ok (some root) → Steady root) :
    ((∃ v, read true s = .ok v) ↔ ∃ v, read false s = .ok v) ∧
    (∀ v w, read true s = .ok v → read false s = .ok w → v.dropLines = w.dropLines) ∧
    ∀ root v, rootOf s = .ok (some root) → read true s = .ok v →
      ∃ st, (completeRoot true root).run .start = .ok ((), st) ∧ st.built true root = v ∧
        (∀ es, Value.Part (.map es) v →
          ∃ n, Met root n ∧ n.isBuilt = true ∧ st.built true n = .map es) ∧
        ∀ n, Met root n → n.tag = .map → (st.built true n).hasLines = true := by
  rcases read_cases s with ⟨root, hroot, hread⟩ | ⟨hsame, hnull⟩
  · have hacyclic := hacyclic root hroot
    have hsteady := hsteady root hroot
    rw [hread, hread]
    refine ⟨meaning_iff hacyclic hsteady, fun v w => dropLines_meaning hacyclic hsteady, ?_⟩
    intro root' v hroot' hv
    cases hroot.symm.trans hroot'
    obtain ⟨-, st, hst, rfl⟩ := meaning_eq_ok.mp hv
    exact ⟨st, hst, rfl, lines_of_run hacyclic hsteady hst⟩
  · rw [hsame]
    refine ⟨Iff.rfl, ?_, ?_⟩
    · intro v w hv hw
      rw [Except.ok.inj (hv.symm.trans hw)]
    · intro root v hroot hv
      cases hroot.symm.trans (hnull v (hsame.trans hv)).2

def mergedText : List Char := "a: &b {k: 1, __line__: 7}\nc: {<<: *b, l: [*b, *b]}\n".toList

theorem read_alike_merged :
    ∃ v w, read true mergedText = .ok v ∧ read false mergedText = .ok w ∧
      v.dropLines = w.dropLines := by
  have hacyclic := of_rootOf (p := acyclic) (s := mergedText) (by decide +kernel)
  have hplain := of_rootOf (p := isPlain) (s := mergedText) (by decide +kernel)
  have hread : (read true mergedText).toBool = true := by decide +kernel
  obtain ⟨hiff, halike, -⟩ := read_alike mergedText hacyclic fun root hroot =>
    steady_of_isPlain (hplain root hroot)
  cases hv : read true mergedText with
  | error f =>
    rw [hv] at hread
    cases hread
  | ok v =>
    obtain ⟨w, hw⟩ := hiff.mp ⟨v, hv⟩
    exact ⟨v, w, rfl, hw, halike v w hv hw⟩

/-- An alias makes a key of a mapping the default key of a text. -/
def reusedText : List Char := "- {&x =: 1}\n- !!str {*x : foo, =: bar}\n".toList

def lastText? : Value → Option String
  | .list vs => vs.getLast?.bind Value.text?
  | _ => none

theorem lastText?_dropLines (v : Value) : lastText? v.dropLines = lastText? v := by
  cases v with
  | list vs =>
    rw [Value.dropLines_list, lastText?, lastText?, List.getLast?_map]
    cases vs.getLast? with
    | none => rfl
    | some w => cases w <;> rfl
  | _ => rfl

theorem exists_of_lastText? {x : Except Fault Value} {t : String}
    (h : x.toOption.bind lastText? = some t) : ∃ v, x = .ok v ∧ lastText? v = some t := by
  cases x with
  | error f => cases h
  | ok v => exact ⟨v, rfl, h⟩

theorem read_not_alike_reused :
    (∀ root, rootOf reusedText = .ok (some root) → root.acyclic = true) ∧
      ∃ v w, read true reusedText = .ok v ∧ read false reusedText = .ok w ∧
        v.dropLines ≠ w.dropLines := by
  refine ⟨of_rootOf (by decide +kernel), ?_⟩
  obtain ⟨v, hv, htracked⟩ := exists_of_lastText? (x := read true reusedText) (t := "bar")
    (by decide +kernel)
  obtain ⟨w, hw, hplain⟩ := exists_of_lastText? (x := read false reusedText) (t := "foo")
    (by decide +kernel)
  refine ⟨v, w, hv, hw, fun h => ?_⟩
  have hsame := congrArg lastText? h
  rw [lastText?_dropLines, lastText?_dropLines, htracked, hplain] at hsame
  exact absurd hsame (by decide)

end BlockAudit.Yaml
