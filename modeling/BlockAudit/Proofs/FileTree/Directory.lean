import BlockAudit.FileTree.Basic
import BlockAudit.Proofs.Sorting

namespace BlockAudit.FileTree

variable {t : FileTree} {directory place : Place} {name : String}

def Before (s s' : String) : Prop := compare s.toList s'.toList = .lt

theorem nameIn?_eq_some : nameIn? directory place = some name ↔ place = directory ++ [name] := by
  rcases List.eq_nil_or_concat place with rfl | ⟨init, last, rfl⟩
  · simp [nameIn?]
  · simp only [nameIn?, List.concat_eq_append, List.getLast?_concat, List.dropLast_concat,
      Option.ite_none_right_eq_some, Option.some.injEq]
    constructor
    · rintro ⟨rfl, rfl⟩
      rfl
    · intro h
      exact ⟨(List.append_inj_left' h rfl), by simpa using List.append_inj_right' h rfl⟩

theorem names_perm (t : FileTree) (directory : Place) :
    (t.names directory).Perm
      ((t.nodes.map Prod.fst).filterMap (nameIn? directory)) := by
  rw [List.filterMap_map]
  exact sorted_perm _

theorem mem_names : name ∈ t.names directory ↔ directory ++ [name] ∈ t.nodes.map Prod.fst := by
  rw [(names_perm t directory).mem_iff, List.mem_filterMap]
  simp only [nameIn?_eq_some]
  exact ⟨fun ⟨place, hmem, h⟩ => h ▸ hmem, fun h => ⟨_, h, rfl⟩⟩

theorem nodup_names (h : (t.nodes.map Prod.fst).Nodup) : (t.names directory).Nodup := by
  rw [(names_perm t directory).nodup_iff]
  refine List.Pairwise.filterMap _ ?_ h
  rintro place place' hne name hname name' hname' rfl
  exact hne ((nameIn?_eq_some.mp hname).trans (nameIn?_eq_some.mp hname').symm)

theorem isSorted_names : IsSorted (fun s s' : String => compare s.toList s'.toList == .lt)
    (t.names directory) := by
  refine isSorted_sorted ?_ ?_ _
  · intro s s' h
    exact beq_eq_false_iff_ne.mpr (Std.OrientedCmp.not_lt_of_lt (beq_iff_eq.mp h))
  · intro s s' s'' h h'
    rw [beq_eq_false_iff_ne, ne_eq, ← Std.OrientedCmp.gt_iff_lt, ← Ordering.isLE_iff_ne_gt] at *
    exact Std.TransCmp.isLE_trans h h'

theorem pairwise_names (h : (t.nodes.map Prod.fst).Nodup) : (t.names directory).Pairwise Before := by
  refine (List.Pairwise.and isSorted_names (nodup_names h)).imp ?_
  rintro s s' ⟨hnot, hne⟩
  rw [beq_eq_false_iff_ne, ne_eq, ← Std.OrientedCmp.gt_iff_lt] at hnot
  cases hcompare : compare s.toList s'.toList with
  | lt => exact hcompare
  | eq => exact absurd (String.toList_inj.mp (Std.LawfulEqOrd.eq_of_compare hcompare)) hne
  | gt => exact absurd hcompare hnot

theorem walk_concat {bytes : ByteArray} {parts : List String} (hname : name ≠ "..")
    (h : t.walk place (parts ++ [name]) = .file bytes) :
    t.content? (parts.foldl step place ++ [name]) = some (.file bytes) := by
  induction parts generalizing place with
  | nil =>
    rw [List.nil_append, walk] at h
    split at h
    · cases h
    · rw [step, if_neg hname, walk] at h
      split at h <;> simp_all
    · cases h
  | cons part parts ih =>
    rw [List.cons_append, walk] at h
    split at h
    · cases h
    · exact ih h
    · cases h

theorem mem_places_of_content? {bytes : ByteArray} (h : t.content? place = some (.file bytes)) :
    place ∈ t.nodes.map Prod.fst := by
  rw [content?] at h
  split at h
  · cases h
  · obtain ⟨before, after, hnodes, -⟩ := List.lookup_eq_some_iff.mp h
    rw [hnodes]
    simp

theorem exists_content?_of_walk {bytes : ByteArray} {parts : List String}
    (h : t.walk place parts = .file bytes) : ∃ place, t.content? place = some (.file bytes) := by
  induction parts generalizing place with
  | nil =>
    rw [walk] at h
    split at h
    · next hcontent =>
      cases h
      exact ⟨place, hcontent⟩
    · cases h
    · cases h
  | cons part parts ih =>
    rw [walk] at h
    split at h
    · cases h
    · exact ih h
    · cases h

theorem exists_mem_nodes {p : Path} {bytes : ByteArray} (h : t.reached p = .file bytes) :
    ∃ place, (place, Content.file bytes) ∈ t.nodes := by
  obtain ⟨place, hplace⟩ := exists_content?_of_walk h
  rw [content?] at hplace
  split at hplace
  · cases hplace
  · obtain ⟨before, after, hnodes, -⟩ := List.lookup_eq_some_iff.mp hplace
    exact ⟨place, by simp [hnodes]⟩

def HasSuffix (suffixes : List String) (name : String) : Prop :=
  ∃ suffix ∈ suffixes, suffix.toList <:+ name.toList

theorem exists_of_mem_filesIn {p q : Path} {suffixes : List String}
    (h : q ∈ t.filesIn p suffixes) : ∃ name, HasSuffix suffixes name ∧ q = p.file name := by
  simp only [filesIn, List.mem_filter, List.mem_map, List.any_eq_true,
    List.isSuffixOf_iff_suffix] at h
  obtain ⟨⟨name, ⟨-, hsuffix⟩, rfl⟩, -⟩ := h
  exact ⟨name, hsuffix, rfl⟩

theorem mem_names_of_isFile {p : Path} (hname : name ≠ "..") (h : t.isFile (p.file name) = true) :
    name ∈ t.names (t.placeOf p) := by
  unfold isFile at h
  split at h
  · next bytes hreached =>
    have hcontent := walk_concat hname hreached
    exact mem_names.mpr (mem_places_of_content? hcontent)
  · cases h

theorem filesIn_sorted (h : (t.nodes.map Prod.fst).Nodup) (p : Path) {suffixes : List String}
    (hsuffixes : ¬HasSuffix suffixes "..") :
    ∃ names : List String, t.filesIn p suffixes = names.map p.file ∧ names.Pairwise Before ∧
      ∀ name, name ∈ names ↔ HasSuffix suffixes name ∧ t.isFile (p.file name) = true := by
  refine ⟨_, List.filter_map, ((pairwise_names h).filter _).filter _, fun name => ?_⟩
  simp only [List.mem_filter, List.any_eq_true, List.isSuffixOf_iff_suffix, Function.comp_apply]
  constructor
  · rintro ⟨⟨-, hsuffix⟩, hfile⟩
    exact ⟨hsuffix, hfile⟩
  · rintro ⟨hsuffix, hfile⟩
    refine ⟨⟨mem_names_of_isFile ?_ hfile, hsuffix⟩, hfile⟩
    rintro rfl
    exact hsuffixes hsuffix

end BlockAudit.FileTree
