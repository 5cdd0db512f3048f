import BlockAudit.Text.Search
import Mathlib.Algebra.BigOperators.Group.List.Basic
import Mathlib.Algebra.GroupWithZero.Nat
import Mathlib.Data.List.Infix
import Mathlib.Data.List.Nodup
/-!
Several texts are replaced at once, in one pass, or one after the other. The two come to the same if no
pass finds its text more often than it was there in the beginning. Main statements:
`replaceEach_eq_substitute` and its converse `undisturbed_of_replaceEach_eq`.
-/

namespace BlockAudit.Text

abbrev Replacement := List Char × List Char

/-- One pass from left to right, over the rest of a text of which `skip` characters are replaced. -/
def substituteFrom (ps : List Replacement) : Nat → List Char → List Char
  | _, [] => []
  | skip + 1, _ :: s => substituteFrom ps skip s
  | 0, x :: s =>
    match ps.find? fun p => p.1.isPrefixOf (x :: s) with
    | some p => p.2 ++ substituteFrom ps (p.1.length - 1) s
    | none => x :: substituteFrom ps 0 s

def substitute (ps : List Replacement) (s : List Char) : List Char := substituteFrom ps 0 s

def replaceEach (ps : List Replacement) (s : List Char) : List Char :=
  ps.foldl (fun s p => replaceAll p.1 p.2 s) s

def occurrences (part : List Char) : List Char → Nat
  | [] => 0
  | x :: s => (if part.isPrefixOf (x :: s) then 1 else 0) + occurrences part s

/-- Each text is found as often when its turn comes as it is in `s`. -/
def UndisturbedFrom (s : List Char) : List Replacement → List Char → Prop
  | [], _ => True
  | p :: ps, t =>
    occurrences p.1 t = occurrences p.1 s ∧ UndisturbedFrom s ps (replaceAll p.1 p.2 t)

def Undisturbed (ps : List Replacement) (s : List Char) : Prop := UndisturbedFrom s ps s

/-- Each text has an opening character, which is nowhere else in it, and none begins with another. -/
structure Separable (opening : Char) (ps : List Replacement) : Prop where
  opens : ∀ p ∈ ps, ∃ rest, p.1 = opening :: rest ∧ opening ∉ rest
  unique : ∀ p ∈ ps, ∀ q ∈ ps, p.1 <+: q.1 → p = q

inductive Piece where
  | char (x : Char)
  | slot (p : Replacement)
deriving DecidableEq

def Piece.written (f : Replacement → List Char) : Piece → List Char
  | char x => [x]
  | slot p => f p

def written (f : Replacement → List Char) (r : List Piece) : List Char := r.flatMap (Piece.written f)

/-- The pieces of a text, of which the slots are the occurrences that one pass replaces. -/
inductive Reads (ps : List Replacement) : List Char → List Piece → Prop where
  | nil : Reads ps [] []
  | slot {p : Replacement} {s : List Char} {r : List Piece} (hp : p ∈ ps) (rest : Reads ps s r) :
      Reads ps (p.1 ++ s) (.slot p :: r)
  | char {x : Char} {s : List Char} {r : List Piece} (hx : ∀ p ∈ ps, ¬p.1 <+: x :: s)
      (rest : Reads ps s r) : Reads ps (x :: s) (.char x :: r)

variable {opening : Char} {ps : List Replacement} {p q : Replacement} {part s t : List Char}
  {f g : Replacement → List Char} {r : List Piece}

theorem occurrences_le_append (part s t : List Char) :
    occurrences part t ≤ occurrences part (s ++ t) := by
  induction s with
  | nil => exact le_rfl
  | cons x s ih =>
    rw [List.cons_append, occurrences]
    omega

theorem occurrences_cons {x : Char} (h : ¬part <+: x :: s) :
    occurrences part (x :: s) = occurrences part s := by
  rw [← List.isPrefixOf_iff_prefix] at h
  rw [occurrences, if_neg h, Nat.zero_add]

theorem occurrences_append_of_not_mem {rest : List Char} (hpart : part = opening :: rest)
    (h : opening ∉ s) : occurrences part (s ++ t) = occurrences part t := by
  induction s with
  | nil => rfl
  | cons x s ih =>
    rw [List.mem_cons, not_or] at h
    have hno : ¬part <+: x :: (s ++ t) := by
      rw [hpart, List.cons_prefix_cons]
      exact fun hx => h.1 hx.1
    rw [List.cons_append, occurrences_cons hno, ih h.2]

theorem Separable.occurrences_append (h : Separable opening ps) (hp : p ∈ ps) (hq : q ∈ ps)
    (s : List Char) :
    occurrences p.1 (q.1 ++ s) = (if q = p then 1 else 0) + occurrences p.1 s := by
  obtain ⟨prest, hprest, -⟩ := h.opens p hp
  obtain ⟨qrest, hqrest, hfree⟩ := h.opens q hq
  have hiff : p.1.isPrefixOf (q.1 ++ s) = true ↔ q = p := by
    rw [List.isPrefixOf_iff_prefix]
    constructor
    · intro hprefix
      rcases List.prefix_or_prefix_of_prefix hprefix (List.prefix_append q.1 s) with hpq | hqp
      · exact (h.unique p hp q hq hpq).symm
      · exact h.unique q hq p hp hqp
    · rintro rfl
      exact List.prefix_append _ _
  have hrest : occurrences p.1 (qrest ++ s) = occurrences p.1 s :=
    occurrences_append_of_not_mem hprest hfree
  rw [hqrest, List.cons_append] at hiff ⊢
  rw [occurrences, hrest]
  simp only [hiff]

theorem Reads.mem (h : Reads ps s r) (hp : .slot p ∈ r) : p ∈ ps := by
  induction h with
  | nil => cases hp
  | slot hq rest ih =>
    rcases List.mem_cons.mp hp with heq | hmem
    · cases heq
      exact hq
    · exact ih hmem
  | char hx rest ih =>
    rcases List.mem_cons.mp hp with heq | hmem
    · cases heq
    · exact ih hmem

theorem Reads.written_eq (h : Reads ps s r) : written Prod.fst r = s := by
  induction h with
  | nil => rfl
  | slot hp rest ih => exact congrArg (_ ++ ·) ih
  | char hx rest ih => exact congrArg (_ :: ·) ih

theorem written_congr (h : ∀ p, .slot p ∈ r → f p = g p) : written f r = written g r := by
  refine congrArg List.flatten (List.map_congr_left fun piece hpiece => ?_)
  cases piece with
  | char x => rfl
  | slot p => exact h p hpiece

theorem Reads.occurrences_eq (hps : Separable opening ps) (h : Reads ps s r) (hp : p ∈ ps) :
    occurrences p.1 s = r.count (.slot p) := by
  induction h with
  | nil => rfl
  | @slot q s r hq rest ih =>
    rw [hps.occurrences_append hp hq, ih, List.count_cons, Nat.add_comm]
    simp
  | char hx rest ih => rw [occurrences_cons (hx p hp), ih, List.count_cons_of_ne (by simp)]

theorem substituteFrom_append (ps : List Replacement) (s t : List Char) :
    substituteFrom ps s.length (s ++ t) = substitute ps t := by
  induction s with
  | nil => rfl
  | cons x s ih => exact ih

theorem exists_reads (hps : Separable opening ps) (s : List Char) :
    ∃ r, Reads ps s r ∧ substitute ps s = written Prod.snd r := by
  induction hn : s.length using Nat.strong_induction_on generalizing s with
  | _ n ih =>
    cases s with
    | nil => exact ⟨[], .nil, rfl⟩
    | cons x s =>
      rw [substitute, substituteFrom]
      cases hfind : ps.find? fun p => p.1.isPrefixOf (x :: s) with
      | none =>
        have hx : ∀ p ∈ ps, ¬p.1 <+: x :: s := fun p hp => by
          have hno := List.find?_eq_none.mp hfind p hp
          rwa [List.isPrefixOf_iff_prefix] at hno
        obtain ⟨r, hr, hsubstitute⟩ := ih s.length (by simp [← hn]) s rfl
        exact ⟨.char x :: r, .char hx hr, congrArg (x :: ·) hsubstitute⟩
      | some p =>
        have hp := List.mem_of_find?_eq_some hfind
        have hprefix := List.find?_some hfind
        rw [List.isPrefixOf_iff_prefix] at hprefix
        obtain ⟨t, ht⟩ := hprefix
        obtain ⟨rest, hrest, -⟩ := hps.opens p hp
        rw [hrest, List.cons_append, List.cons.injEq] at ht
        obtain ⟨rfl, rfl⟩ := ht
        have hshorter : t.length < n := by
          rw [← hn, List.length_cons, List.length_append]
          omega
        obtain ⟨r, hr, hsubstitute⟩ := ih t.length hshorter t rfl
        refine ⟨.slot p :: r, ?_, ?_⟩
        · have hslot := Reads.slot hp hr
          rwa [hrest] at hslot
        · have hskip : p.1.length - 1 = rest.length := by rw [hrest]; rfl
          dsimp only
          rw [hskip, substituteFrom_append, hsubstitute]
          rfl

theorem replaceFrom_append (old new s t : List Char) :
    replaceFrom old new s.length (s ++ t) = replaceAll old new t := by
  induction s with
  | nil => rfl
  | cons x s ih => exact ih

theorem replaceAll_append_self {old : List Char} (h : old ≠ []) (new s : List Char) :
    replaceAll old new (old ++ s) = new ++ replaceAll old new s := by
  obtain ⟨x, rest, rfl⟩ := List.exists_cons_of_ne_nil h
  have hprefix : (x :: rest).isPrefixOf (x :: (rest ++ s)) = true := by
    rw [List.isPrefixOf_iff_prefix]
    exact List.prefix_append (x :: rest) s
  rw [replaceAll, List.cons_append, replaceFrom, if_pos hprefix]
  exact congrArg (new ++ ·) (replaceFrom_append _ new rest s)

theorem replaceAll_append {old : List Char} (new : List Char)
    (h : occurrences old (s ++ t) = occurrences old t) :
    replaceAll old new (s ++ t) = s ++ replaceAll old new t := by
  induction s with
  | nil => rfl
  | cons x s ih =>
    have hle := occurrences_le_append old s t
    rw [List.cons_append, occurrences] at h
    have hno : ¬old.isPrefixOf (x :: (s ++ t)) = true := by
      intro hprefix
      rw [if_pos hprefix] at h
      omega
    rw [if_neg hno, Nat.zero_add] at h
    rw [List.cons_append, replaceAll, replaceFrom, if_neg hno]
    exact congrArg (x :: ·) (ih h)

theorem count_le_occurrences (hps : Separable opening ps) (hp : p ∈ ps) (hf : f p = p.1)
    (r : List Piece) : r.count (.slot p) ≤ occurrences p.1 (written f r) := by
  induction r with
  | nil => exact le_rfl
  | cons piece r ih =>
    have hle := occurrences_le_append p.1 (piece.written f) (written f r)
    change _ ≤ occurrences p.1 (piece.written f ++ written f r)
    by_cases hpiece : piece = .slot p
    · subst hpiece
      have hself := hps.occurrences_append hp hp (written f r)
      rw [List.count_cons_self, Piece.written, hf, hself, if_pos rfl]
      omega
    · rw [List.count_cons_of_ne hpiece]
      omega

theorem replaceAll_written (hps : Separable opening ps) (hp : p ∈ ps) (hf : f p = p.1)
    (h : occurrences p.1 (written f r) = r.count (.slot p)) :
    replaceAll p.1 p.2 (written f r) = written (Function.update f p p.2) r := by
  induction r with
  | nil => rfl
  | cons piece r ih =>
    have hcount := count_le_occurrences hps hp hf r
    have hle := occurrences_le_append p.1 (piece.written f) (written f r)
    change occurrences p.1 (piece.written f ++ written f r) = _ at h
    change replaceAll p.1 p.2 (piece.written f ++ written f r) =
      piece.written (Function.update f p p.2) ++ written (Function.update f p p.2) r
    by_cases hpiece : piece = .slot p
    · subst hpiece
      rw [List.count_cons_self, Piece.written, hf, hps.occurrences_append hp hp, if_pos rfl] at h
      have hne : p.1 ≠ [] := by
        obtain ⟨rest, hrest, -⟩ := hps.opens p hp
        simp [hrest]
      rw [Piece.written, hf, replaceAll_append_self hne, ih (by omega), Piece.written,
        Function.update_self]
    · rw [List.count_cons_of_ne hpiece] at h
      have hsame : piece.written (Function.update f p p.2) = piece.written f := by
        cases piece with
        | char x => rfl
        | slot q => exact Function.update_of_ne (fun hq => hpiece (by rw [hq])) _ _
      rw [replaceAll_append p.2 (by omega), ih (by omega), hsame]

theorem exists_replaceEach_written (hps : Separable opening ps) (hr : Reads ps s r)
    {todo : List Replacement} (htodo : todo ⊆ ps) (hnodup : todo.Nodup) (hf : ∀ p ∈ todo, f p = p.1)
    (h : UndisturbedFrom s todo (written f r)) :
    ∃ g, replaceEach todo (written f r) = written g r ∧ (∀ p ∈ todo, g p = p.2) ∧
      ∀ p ∉ todo, g p = f p := by
  induction todo generalizing f with
  | nil => exact ⟨f, rfl, by simp, fun _ _ => rfl⟩
  | cons p todo ih =>
    obtain ⟨hp, htodo⟩ := List.cons_subset.mp htodo
    obtain ⟨hfresh, hnodup⟩ := List.nodup_cons.mp hnodup
    obtain ⟨hfp, hrest⟩ := List.forall_mem_cons.mp hf
    obtain ⟨hcount, hundisturbed⟩ := h
    rw [hr.occurrences_eq hps hp] at hcount
    have hfilled := replaceAll_written hps hp hfp hcount
    rw [hfilled] at hundisturbed
    have hupdate : ∀ q, q ≠ p → Function.update f p p.2 q = f q := fun q hq =>
      Function.update_of_ne hq _ _
    obtain ⟨g, hg, hmem, hnot⟩ := ih htodo hnodup
      (fun q hq => (hupdate q (fun he => hfresh (he ▸ hq))).trans (hrest q hq)) hundisturbed
    refine ⟨g, ?_, List.forall_mem_cons.mpr ⟨?_, hmem⟩, fun q hq => ?_⟩
    · rw [replaceEach, List.foldl_cons, hfilled]
      exact hg
    · rw [hnot p hfresh, Function.update_self]
    · obtain ⟨hne, hq⟩ := not_or.mp (fun h => hq (List.mem_cons.mpr h))
      rw [hnot q hq, hupdate q hne]

theorem replaceEach_eq_substitute (hps : Separable opening ps) (hnodup : ps.Nodup)
    (h : Undisturbed ps s) : replaceEach ps s = substitute ps s := by
  obtain ⟨r, hr, hsubstitute⟩ := exists_reads hps s
  have hstart : UndisturbedFrom s ps (written Prod.fst r) := by rwa [hr.written_eq]
  obtain ⟨g, hg, hmem, -⟩ :=
    exists_replaceEach_written hps hr (List.Subset.refl ps) hnodup (fun _ _ => rfl) hstart
  rw [hr.written_eq] at hg
  rw [hg, hsubstitute]
  exact written_congr fun p hp => hmem p (hr.mem hp)

theorem sum_eq_count (q : Replacement) (ps : List Replacement) :
    (ps.map fun p => if q = p then 1 else 0).sum = ps.count q := by
  induction ps with
  | nil => rfl
  | cons p ps ih =>
    rw [List.map_cons, List.sum_cons, ih]
    by_cases hq : q = p
    · rw [hq, List.count_cons_self, if_pos rfl, Nat.add_comm]
    · rw [List.count_cons_of_ne (Ne.symm hq), if_neg hq, Nat.zero_add]

theorem count_substitute (hps : Separable opening ps) (hnodup : ps.Nodup)
    (hv : ∀ p ∈ ps, opening ∉ p.2) (s : List Char) :
    (substitute ps s).count opening + (ps.map fun p => occurrences p.1 s).sum = s.count opening := by
  obtain ⟨r, hr, hsubstitute⟩ := exists_reads hps s
  rw [hsubstitute]
  clear hsubstitute
  induction hr with
  | nil => simp [written, occurrences]
  | @slot q s r hq rest ih =>
    obtain ⟨qrest, hqrest, hfree⟩ := hps.opens q hq
    have hone : (ps.map fun p => if q = p then 1 else 0).sum = 1 := by
      rw [sum_eq_count, List.count_eq_one_of_mem hnodup hq]
    have hsum : (ps.map fun p => occurrences p.1 (q.1 ++ s)).sum =
        1 + (ps.map fun p => occurrences p.1 s).sum := by
      rw [List.map_congr_left fun p hp => hps.occurrences_append hp hq s, List.sum_map_add, hone]
    have hvalue : q.2.count opening = 0 := List.count_eq_zero.mpr (hv q hq)
    have htext : q.1.count opening = 1 := by
      rw [hqrest, List.count_cons_self, List.count_eq_zero.mpr hfree]
    change (q.2 ++ written Prod.snd r).count opening + _ = _
    rw [List.count_append, List.count_append, hsum, hvalue, htext]
    omega
  | @char x s r hx rest ih =>
    have hsum : (ps.map fun p => occurrences p.1 (x :: s)).sum =
        (ps.map fun p => occurrences p.1 s).sum :=
      congrArg List.sum (List.map_congr_left fun p hp => occurrences_cons (hx p hp))
    change (x :: written Prod.snd r).count opening + _ = _
    rw [List.count_cons, List.count_cons, hsum]
    omega

theorem Separable.singleton (hps : Separable opening ps) (hp : p ∈ ps) : Separable opening [p] where
  opens q hq := List.mem_singleton.mp hq ▸ hps.opens p hp
  unique q hq q' hq' _ := by rw [List.mem_singleton.mp hq, List.mem_singleton.mp hq']

theorem count_replaceAll (hps : Separable opening ps) (hp : p ∈ ps) (hv : opening ∉ p.2)
    (s : List Char) :
    (replaceAll p.1 p.2 s).count opening + occurrences p.1 s = s.count opening := by
  have hnodup : [p].Nodup := by simp
  have hone := replaceEach_eq_substitute (s := s) (hps.singleton hp) hnodup ⟨rfl, trivial⟩
  have hcount := count_substitute (hps.singleton hp) hnodup (by simpa using hv) s
  rw [← hone] at hcount
  simpa [replaceEach] using hcount

theorem occurrences_le_replaceAll (hps : Separable opening ps) (hp : p ∈ ps) (hq : q ∈ ps)
    (hne : q ≠ p) (s : List Char) :
    occurrences q.1 s ≤ occurrences q.1 (replaceAll p.1 p.2 s) := by
  obtain ⟨r, hr, -⟩ := exists_reads hps s
  have hcount : occurrences p.1 (written Prod.fst r) = r.count (.slot p) := by
    rw [hr.written_eq, hr.occurrences_eq hps hp]
  have hfilled := replaceAll_written hps hp rfl hcount
  rw [hr.written_eq] at hfilled
  rw [hfilled, hr.occurrences_eq hps hq]
  exact count_le_occurrences hps hq (Function.update_of_ne hne _ _) r

theorem undisturbedFrom_of_count (hps : Separable opening ps) (hv : ∀ p ∈ ps, opening ∉ p.2)
    {todo : List Replacement} (htodo : todo ⊆ ps) (hnodup : todo.Nodup)
    (hle : ∀ p ∈ todo, occurrences p.1 s ≤ occurrences p.1 t) :
    (replaceEach todo t).count opening + (todo.map fun p => occurrences p.1 s).sum ≤
      t.count opening ∧
    ((replaceEach todo t).count opening + (todo.map fun p => occurrences p.1 s).sum =
      t.count opening → UndisturbedFrom s todo t) := by
  induction todo generalizing t with
  | nil => exact ⟨le_rfl, fun _ => trivial⟩
  | cons p todo ih =>
    obtain ⟨hp, htodo⟩ := List.cons_subset.mp htodo
    obtain ⟨hfresh, hnodup⟩ := List.nodup_cons.mp hnodup
    obtain ⟨hlep, hrest⟩ := List.forall_mem_cons.mp hle
    have hpass := count_replaceAll hps hp (hv p hp) t
    have hkept : ∀ q ∈ todo, occurrences q.1 s ≤ occurrences q.1 (replaceAll p.1 p.2 t) :=
      fun q hq => (hrest q hq).trans
        (occurrences_le_replaceAll hps hp (htodo hq) (fun he => hfresh (he ▸ hq)) t)
    obtain ⟨hcount, hundisturbed⟩ := ih htodo hnodup hkept
    have hfold : replaceEach (p :: todo) t = replaceEach todo (replaceAll p.1 p.2 t) := rfl
    rw [hfold, List.map_cons, List.sum_cons]
    refine ⟨by omega, fun heq => ⟨by omega, hundisturbed (by omega)⟩⟩

/-- Where nothing that is put in opens a text, the passes come to one pass in no other case. -/
theorem undisturbed_of_replaceEach_eq (hps : Separable opening ps) (hnodup : ps.Nodup)
    (hv : ∀ p ∈ ps, opening ∉ p.2) (h : replaceEach ps s = substitute ps s) :
    Undisturbed ps s := by
  refine (undisturbedFrom_of_count hps hv (List.Subset.refl ps) hnodup fun _ _ => le_rfl).2 ?_
  rw [h, count_substitute hps hnodup hv]

end BlockAudit.Text
