import BlockAudit.Proofs.Yaml.Faults
import BlockAudit.Proofs.Yaml.Simple
/-!
What keeps a document that follows the grammar from having a value. Main statements: `unreadable_of_read`,
`FollowsGrammar.read_cases`.
-/

namespace BlockAudit.Yaml

namespace Node

/-- A scalar is read as its text, a mapping as one under a default key. -/
inductive HasText : Node → String → Prop
  | scalar (i : Nat) (t : Tag) (text : String) : HasText (.scalar i t text) text
  | default {i : Nat} {t : Tag} {es : List (Node × Node)} {j l : Nat} {k v : Node} {text : String} :
    (k, v) ∈ es → k.tag = .value → HasText v text → HasText (.mapping i t es j l) text

/-- The node stands for a scalar, and its text is no value of its tag. -/
def Unfit (n : Node) (f : Fault) : Prop :=
  ∃ text, n.HasText text ∧ (Scalar.value? n.tag text = some (.error f) ∨
    n.tag = .timestamp ∧ (∀ i t u, n ≠ .scalar i t u) ∧ f = .momentOfCollection)

mutual

theorem hasText_of_defaultText {isText : Node → Bool} {text : String} : (n : Node) →
    n.defaultText? isText = some text → n.HasText text
  | .scalar i t u, h => by
    cases h
    exact .scalar i t text
  | .mapping i t es j l, h => by
    obtain ⟨k, v, he, hk, hv⟩ := exists_hasText_of_defaultText es h
    exact .default he hk hv
  | .sequence _ _ _, h => by cases h
  | .cycle _ _, h => by cases h

theorem exists_hasText_of_defaultText {isText : Node → Bool} {text : String} :
    (es : List (Node × Node)) → defaultText?.ofEntries isText es = some text →
      ∃ k v, (k, v) ∈ es ∧ k.tag = .value ∧ v.HasText text
  | [], h => by cases h
  | (k, v) :: es, h => by
    rw [defaultText?.ofEntries] at h
    split at h
    · next hk =>
      rw [Bool.and_eq_true, decide_eq_true_eq] at hk
      exact ⟨k, v, List.mem_cons_self, hk.1, hasText_of_defaultText v h⟩
    · obtain ⟨l, w, he, hl, hw⟩ := exists_hasText_of_defaultText es h
      exact ⟨l, w, List.mem_cons_of_mem _ he, hl, hw⟩

end

theorem unfit_of_scalarMeaning {isText : Node → Bool} {n : Node} {f : Fault}
    (h : n.scalarMeaning isText n.tag = .error f) : f = .malformedDocument ∨ n.Unfit f := by
  have hvalue : ∀ text, n.HasText text →
      (Scalar.value? n.tag text).getD (.error .malformedDocument) = .error f →
      f = .malformedDocument ∨ n.Unfit f := by
    intro text htext h
    cases hv : Scalar.value? n.tag text with
    | none =>
      rw [hv] at h
      cases h
      exact Or.inl rfl
    | some x =>
      rw [hv] at h
      exact Or.inr ⟨text, htext, Or.inl (by rw [hv]; exact congrArg some h)⟩
  unfold scalarMeaning at h
  split at h
  · cases h
    exact Or.inl rfl
  · next htext => exact hvalue _ (hasText_of_defaultText _ htext) h
  · next hscalar htext =>
    split at h
    · next htag =>
      cases h
      exact Or.inr ⟨_, hasText_of_defaultText _ htext, Or.inr ⟨htag, hscalar, rfl⟩⟩
    · exact hvalue _ (hasText_of_defaultText _ htext) h

theorem malformed_of_scalarMeaning_str {isText : Node → Bool} {n : Node} {f : Fault}
    (h : n.scalarMeaning isText .str = .error f) : f = .malformedDocument := by
  unfold scalarMeaning at h
  split at h
  · cases h
    rfl
  · cases h
  · rw [if_neg (by decide)] at h
    cases h

theorem IllFormed.unfit {root n : Node} {f : Fault} (h : root.IllFormed n f)
    (hf : f ≠ .malformedDocument) : n.Unfit f := by
  unfold IllFormed at h
  split at h
  · exact absurd h.2 hf
  · rw [settledScalar, settledTag] at h
    split at h
    · exact absurd (malformed_of_scalarMeaning_str h) hf
    · exact (unfit_of_scalarMeaning h).resolve_left hf

end Node

namespace Completion

open Node

variable {α : Type} {root n : Node}

def Snag (root : Node) (f : Fault) : Prop :=
  f = .malformedDocument ∨ ∃ n, Met root n ∧ n.Unfit f

def KeepsMet (root : Node) (x : Completion α) : Prop :=
  Preserves (fun st => ∀ n ∈ st.waiting, Met root n) (Snag root) x

theorem keepsMet_fail : KeepsMet root (fail : Completion α) := preserves_throw (Or.inl rfl)

theorem keepsMet_modify {f : Progress → Progress} (h : ∀ st, (f st).waiting = st.waiting) :
    KeepsMet root (modify f) := by
  refine preserves_modify fun st hst => ?_
  rwa [h st]

theorem keepsMet_prepare (n : Node) : KeepsMet root (prepare n) := by
  have hmerge : KeepsMet root (merge n) := by
    unfold merge
    split
    · exact keepsMet_modify fun _ => rfl
    · exact keepsMet_fail
  unfold prepare
  split
  · exact preserves_pure _
  · exact preserves_pure _
  · exact preserves_pure _
  · exact hmerge
  · exact hmerge
  · exact keepsMet_fail

theorem keepsMet_checkPair (m : Node) : KeepsMet root (checkPair m) := by
  refine preserves_get.bind fun st => ?_
  split
  · exact preserves_ite keepsMet_fail (preserves_pure _)
  · exact keepsMet_fail

theorem snag_of_scalarMeaning {st : Progress} {f : Fault} (hn : Met root n)
    (h : n.scalarMeaning st.isText (st.tagOf n) = .error f) : Snag root f := by
  rw [Progress.tagOf] at h
  split at h
  · exact Or.inl (malformed_of_scalarMeaning_str h)
  · exact (unfit_of_scalarMeaning h).imp_right fun h => ⟨n, hn, h⟩

theorem keepsMet_meetNew (tracked deep : Bool) {completion : Completion Unit} (hn : Met root n)
    (h : KeepsMet root completion) : KeepsMet root (meetNew tracked deep n completion) := by
  refine preserves_get_bind fun st hst => preserves_ite (preserves_ite ?_ ?_) ?_
  · exact h.bind fun _ => keepsMet_modify fun _ => rfl
  · exact preserves_set (List.forall_mem_cons.mpr ⟨hn, hst⟩)
  · intro st' hst'
    cases hv : n.scalarMeaning st.isText (st.tagOf n) with
    | error f =>
      rw [StateT.run_bind]
      exact snag_of_scalarMeaning hn hv
    | ok v => exact hst

theorem keepsMet_meet (tracked deep : Bool) {completion : Completion Unit} (hn : Met root n)
    (h : KeepsMet root completion) : KeepsMet root (meet tracked deep n completion) := by
  refine preserves_get.bind fun st => preserves_ite (preserves_pure _) ?_
  split
  · exact preserves_get.bind fun _ => preserves_ite keepsMet_fail (preserves_pure _)
  · exact keepsMet_meetNew tracked deep hn h

theorem keepsMet_complete (tracked deep : Bool) (n : Node) (hn : Met root n) :
    KeepsMet root (complete tracked deep n) := by
  -- The nodes that are met on the way are below the node, so the induction is on its height.
  rw [complete]
  refine (keepsMet_prepare n).bind fun _ => preserves_forM ?_
  rintro ⟨s, hs⟩ -
  have hlt := height_lt_of_contains (contains_of_mem_steps hs)
  have hmeet : ∀ atOnce, s.isMeeting = true →
      KeepsMet root (meet tracked atOnce s.node (complete tracked atOnce s.node)) := by
    intro atOnce hmeeting
    have hs := hn.met hs hmeeting
    exact keepsMet_meet tracked atOnce hs (keepsMet_complete tracked atOnce s.node hs)
  cases s with
  | part c => exact hmeet _ rfl
  | key c => exact (hmeet _ rfl).bind fun _ => preserves_ite keepsMet_fail (preserves_pure _)
  | pair m => exact keepsMet_checkPair m
termination_by n.height

theorem keepsMet_completeLevels (tracked : Bool) (height : Nat) :
    KeepsMet root (completeLevels tracked height) := by
  induction height with
  | zero => exact preserves_pure _
  | succ height ih =>
    refine preserves_get_bind fun st hst => ?_
    -- The level is taken from a state where all that waits has been met.
    refine Preserves.bind (preserves_modify fun _ _ => nofun) fun _ => ?_
    refine Preserves.bind (preserves_forM fun n hmem => ?_) fun _ => ih
    exact keepsMet_complete tracked false n (hst n (List.mem_reverse.mp hmem))

theorem keepsMet_completeRoot (tracked : Bool) (root : Node) :
    KeepsMet root (completeRoot tracked root) :=
  (keepsMet_meet tracked false met_root (keepsMet_complete tracked false root met_root)).bind
    fun _ => keepsMet_completeLevels tracked root.height

end Completion

open Node

/-- An escape names no code point, or a scalar below the root is unfit. -/
def Unreadable (s : List Char) (f : Fault) : Prop :=
  Scan.StrayEscape s f ∨ ∃ root n, rootOf s = .ok (some root) ∧ root.Met n ∧ n.Unfit f

/-- No alias is for a collection around it. -/
def IsFinite (s : List Char) : Prop := ∀ root, rootOf s = .ok (some root) → root.acyclic = true

/-- The document is wrong in nothing but scalars that have no value. -/
structure FollowsGrammar (root : Node) (s : List Char) : Prop where
  allowed : s.all isAllowed = true
  document : rootOf s = .ok (some root)
  acyclic : root.acyclic = true
  steady : root.Steady
  shaped : ∀ n, root.Met n → ¬root.IllFormed n .malformedDocument

variable {s : List Char} {f : Fault} {tracked : Bool} {root : Node}

theorem snag_of_meaning (h : root.meaning tracked = .error f) : Completion.Snag root f := by
  have hroot := Completion.keepsMet_completeRoot tracked root .start nofun
  unfold Node.meaning at h
  split at h
  · split at h
    · cases h
    · cases h
      exact Or.inl rfl
  · next hrun =>
    cases h
    rw [hrun] at hroot
    exact hroot

theorem unreadable_of_read (h : read tracked s = .error f) :
    f = .malformedDocument ∨ Unreadable s f := by
  unfold read at h
  split at h
  · cases h
    exact Or.inl rfl
  · cases hroot : rootOf s with
    | error g =>
      rw [hroot] at h
      cases h
      exact (trouble_of_rootOf hroot).imp_right Or.inl
    | ok root? =>
      rw [hroot] at h
      cases root? with
      | none => cases h
      | some root =>
        refine (snag_of_meaning h).imp_right ?_
        rintro ⟨n, hn, hunfit⟩
        exact Or.inr ⟨root, n, hroot, hn, hunfit⟩

theorem isFinite_of_read {v : Value} (h : read tracked s = .ok v) : IsFinite s := by
  intro root hroot
  unfold read at h
  rw [hroot] at h
  split at h
  · cases h
  · exact (meaning_eq_ok.mp h).1

theorem followsGrammar_of_isOrdinary (hallowed : s.all isAllowed = true)
    (hroot : rootOf s = .ok (some root)) (h : root.everyNode isOrdinary = true) :
    FollowsGrammar root s where
  allowed := hallowed
  document := hroot
  acyclic := acyclic_of_isOrdinary h
  steady := steady_of_isPlain (isPlain_of_isOrdinary h)
  shaped _ hn := not_malformed_of_isOrdinary (of_everyNode (everyNode_of_met h hn))

theorem FollowsGrammar.isFinite (h : FollowsGrammar root s) : IsFinite s := by
  intro root' hroot'
  cases h.document.symm.trans hroot'
  exact h.acyclic

theorem FollowsGrammar.read_eq (h : FollowsGrammar root s) (tracked : Bool) :
    read tracked s = root.meaning tracked := by
  unfold read
  rw [h.allowed, h.document]
  rfl

theorem FollowsGrammar.read_cases (h : FollowsGrammar root s) (tracked : Bool) :
    (∃ v, read tracked s = .ok v ∧ ∀ n, root.Met n → root.WellFormed n) ∨
      ∃ n f, root.Met n ∧ root.IllFormed n f ∧ f ≠ .malformedDocument ∧
        read tracked s = .error f := by
  rw [h.read_eq]
  unfold Node.meaning
  cases hrun : (Completion.completeRoot tracked root).run .start with
  | ok r =>
    refine Or.inl ⟨r.2.built tracked root, if_pos h.acyclic, fun n hn => ?_⟩
    exact (Completion.settled_of_run h.steady h.acyclic hrun hn).1
  | error f =>
    obtain ⟨n, hn, hill⟩ := Completion.illFormed_of_run h.steady h.acyclic hrun
    exact Or.inr ⟨n, f, hn, hill, fun hf => h.shaped n hn (hf ▸ hill), rfl⟩

theorem FollowsGrammar.exists_illFormed (h : FollowsGrammar root s)
    (hread : read tracked s = .error f) : ∃ n g, root.Met n ∧ root.IllFormed n g := by
  rcases h.read_cases tracked with ⟨v, hv, -⟩ | ⟨n, g, hn, hill, -⟩
  · cases hread.symm.trans hv
  · exact ⟨n, g, hn, hill⟩

end BlockAudit.Yaml
