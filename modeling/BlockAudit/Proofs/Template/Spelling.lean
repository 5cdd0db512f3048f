import BlockAudit.Proofs.Template.Sites
import Mathlib.Logic.Relation
/-!
Spellings of a template: wherever labels are expected, one value stands for the list of itself, and a
mapping for the list of its entries. Main statement: `blocks_flattened`.
-/

namespace BlockAudit.Template

open Value

/-- Another spelling of a value that is as many labels above its bodies. -/
inductive Respells : Nat → Value → Value → Prop where
  | wrap (n : Nat) (v : Value) : Respells (n + 1) v (.list [v])
  | split (n : Nat) (es : List Entry) : Respells (n + 1) (.map es) (.list (es.map fun e => .map [e]))
  | wrapBody (es : List Entry) : Respells 0 (.map es) (.list [.map es])
  | item {n : Nat} {v w : Value} (before after : List Value) (h : Respells (n + 1) v w) :
      Respells (n + 1) (.list (before ++ v :: after)) (.list (before ++ w :: after))
  | entry {n : Nat} {v w : Value} (before after : List Entry) (k : Value) (h : Respells n v w) :
      Respells (n + 1) (.map (before ++ (k, v) :: after)) (.map (before ++ (k, w) :: after))

inductive Edit : List Entry → List Entry → Prop where
  | content (before after : List Entry) {type : String} {n : Nat} {v w : Value}
      (hn : labelCount? type = some n) (h : Respells n v w) :
      Edit (before ++ (.str type, v) :: after) (before ++ (.str type, w) :: after)

def Respelled : List Entry → List Entry → Prop := Relation.EqvGen Edit

variable {count n : Nat} {v w : Value} {labels : List String} {es fs : List Entry}

theorem append_nothing {α : Type} (x : Except Fault (List α)) :
    (do return (← x) ++ (← (.ok [] : Except Fault (List α)))) = x := by
  cases x with
  | error f => rfl
  | ok as => simp [bind, Except.bind, pure, Except.pure]

theorem nothing_append {α : Type} (x : Except Fault (List α)) :
    (do return (← (.ok [] : Except Fault (List α))) ++ (← x)) = x := by
  cases x <;> rfl

theorem labelledEntries_cons (count : Nat) (labels : List String) (e : Entry) (es : List Entry) :
    labelledEntries count labels (e :: es) =
      do return (← labelledEntries count labels [e]) ++ (← labelledEntries count labels es) := by
  obtain ⟨k, v⟩ := e
  rw [labelledEntries, labelledEntries, labelledEntries]
  cases markerKey k with
  | error f => rfl
  | ok hidden =>
    cases hidden with
    | true => exact (nothing_append _).symm
    | false =>
      have hone := append_nothing (labelled (count - 1) (labels ++ [k.text]) v)
      exact congrArg (fun x => do return (← x) ++ (← labelledEntries count labels es)) hone.symm

theorem labelledItems_singletons (n : Nat) (labels : List String) (es : List Entry) :
    labelledItems (n + 1) labels (es.map fun e => .map [e]) = labelledEntries (n + 1) labels es := by
  induction es with
  | nil => rfl
  | cons e es ih =>
    rw [List.map_cons, labelledItems, ih, labelled, if_neg (Nat.succ_ne_zero n),
      labelledEntries_cons _ _ e es]

theorem labelledItems_replace (h : labelled count labels v = labelled count labels w)
    (before after : List Value) : labelledItems count labels (before ++ v :: after) =
      labelledItems count labels (before ++ w :: after) := by
  induction before with
  | nil => rw [List.nil_append, List.nil_append, labelledItems, labelledItems, h]
  | cons u before ih => rw [List.cons_append, List.cons_append, labelledItems, labelledItems, ih]

theorem labelledEntries_replace (k : Value)
    (h : ∀ labels, labelled (count - 1) labels v = labelled (count - 1) labels w)
    (before after : List Entry) : labelledEntries count labels (before ++ (k, v) :: after) =
      labelledEntries count labels (before ++ (k, w) :: after) := by
  induction before with
  | nil => rw [List.nil_append, List.nil_append, labelledEntries, labelledEntries, h]
  | cons e before ih =>
    rw [List.cons_append, List.cons_append, labelledEntries, labelledEntries, ih]

theorem Respells.labelled_eq (h : Respells n v w) (labels : List String) :
    labelled n labels v = labelled n labels w := by
  induction h generalizing labels with
  | wrap n v =>
    rw [labelled.eq_1, if_neg (Nat.succ_ne_zero n)]
    exact (append_nothing _).symm
  | split n es =>
    rw [labelled, labelled, if_neg (Nat.succ_ne_zero n), if_neg (Nat.succ_ne_zero n),
      labelledItems_singletons]
  | wrapBody es => rfl
  | @item n v w before after h ih =>
    rw [labelled, labelled, if_neg (Nat.succ_ne_zero n), if_neg (Nat.succ_ne_zero n)]
    exact labelledItems_replace (ih labels) before after
  | @entry n v w before after k h ih =>
    rw [labelled, labelled, if_neg (Nat.succ_ne_zero n), if_neg (Nat.succ_ne_zero n)]
    have hvalue : ∀ labels, labelled (n + 1 - 1) labels v = labelled (n + 1 - 1) labels w := ih
    exact labelledEntries_replace k hvalue before after

variable (filename : String) (modulePath : List String)

theorem blocks_replace {k : Value}
    (h : blocksOfType filename modulePath k.text v = blocksOfType filename modulePath k.text w)
    (before after : List Entry) : blocks filename modulePath (before ++ (k, v) :: after) =
      blocks filename modulePath (before ++ (k, w) :: after) := by
  induction before with
  | nil => rw [List.nil_append, List.nil_append, blocks, blocks, h]
  | cons e before ih => rw [List.cons_append, List.cons_append, blocks, blocks, ih]

theorem Edit.blocks_eq (h : Edit es fs) :
    blocks filename modulePath es = blocks filename modulePath fs := by
  cases h with
  | content before after hn h =>
    apply blocks_replace
    rw [Value.text, blocksOfType, hn, blocksOfType, hn]
    dsimp only
    rw [h.labelled_eq []]

theorem Respelled.blocks_eq (h : Respelled es fs) :
    blocks filename modulePath es = blocks filename modulePath fs := by
  induction h with
  | rel es fs edit => exact edit.blocks_eq filename modulePath
  | refl es => rfl
  | symm es fs _ ih => exact ih.symm
  | trans es fs gs _ _ ih ih' => exact ih.trans ih'

theorem blocks_unknown {key : String} (h : labelCount? key = none) (v : Value)
    (before after : List Entry) : blocks filename modulePath (before ++ (.str key, v) :: after) =
      blocks filename modulePath (before ++ after) := by
  induction before with
  | nil =>
    have htype : blocksOfType filename modulePath (Value.str key).text v = .ok [] := by
      rw [Value.text, blocksOfType, h]
    rw [List.nil_append, List.nil_append, blocks, htype, markerKey_str]
    cases isMarker key with
    | true => rfl
    | false => exact nothing_append _
  | cons e before ih => rw [List.cons_append, List.cons_append, blocks, ih, blocks]

/-- The blocks of a template are those that its label paths lead to, one for each and in the order of the
document. Keys that are no block types declare none, and neither wrapping nor splitting changes them. -/
theorem blocks_flattened (h : (Value.map es).keyedByText = true) :
    (∃ bs, blocks filename modulePath es = .ok bs ∧
      (∀ b ∈ bs, labelCount? b.type = some b.labels.length ∧ ∀ l ∈ b.labels, isMarker l = false) ∧
      ∃ sites, Lists (Declares es) sites ∧ bs = sites.map (Site.block filename modulePath)) ∧
    (∀ before key v after, es = before ++ (.str key, v) :: after →
      labelCount? key = none ∨ isMarker key = true →
      blocks filename modulePath es = blocks filename modulePath (before ++ after)) ∧
    ∀ fs, Respelled es fs → blocks filename modulePath fs = blocks filename modulePath es := by
  refine ⟨?_, ?_, fun fs hfs => (hfs.blocks_eq filename modulePath).symm⟩
  · obtain ⟨sites, hsites, hblocks⟩ := finds_blocks filename modulePath h
    refine ⟨_, hblocks, fun b hb => ?_, sites, hsites, rfl⟩
    obtain ⟨s, hs, rfl⟩ := List.mem_map.mp hb
    exact labels_of_declares ((hsites.mem_iff s).mp hs)
  · rintro before key v after rfl hkey
    exact blocks_unknown filename modulePath (hkey.elim id labelCount?_of_isMarker) v before after

def subnets : List Entry :=
  [(.str "__line__", .int 1), (.str "moved", .map [(.str "from", .str "a")]),
    (.str "resource", .list [.map [(.str "subnet", .map [(.str "inner", .list [.map [], .int 3, .map []]),
      (.str "__line__", .int 2), (.str "outer", .map [(.str "zone", .null)])])], .null])]

def splitSubnets : List Entry :=
  [(.str "__line__", .int 1), (.str "moved", .map [(.str "from", .str "a")]),
    (.str "resource", .list [.map [(.str "subnet", .list
      [.map [(.str "inner", .list [.map [], .int 3, .map []])], .map [(.str "__line__", .int 2)],
        .map [(.str "outer", .map [(.str "zone", .null)])]])], .null])]

theorem blocks_flattened_subnets : (Value.map subnets).keyedByText = true ∧
    (∃ sites, Lists (Declares subnets) sites ∧
      blocks "main" [] subnets = .ok (sites.map (Site.block "main" []))) ∧
    blocks "main" [] splitSubnets = blocks "main" [] subnets := by
  have hkeyed : (Value.map subnets).keyedByText = true := by decide
  have hedit : Edit subnets splitSubnets := by
    refine .content [_, _] [] rfl (.item [] [.null] ?_)
    exact .entry [] [] _ (.split 0 [_, _, _])
  obtain ⟨⟨bs, hbs, -, sites, hsites, rfl⟩, -, hrespelled⟩ := blocks_flattened "main" [] hkeyed
  exact ⟨hkeyed, ⟨sites, hsites, hbs⟩, hrespelled _ (.rel _ _ hedit)⟩

end BlockAudit.Template
