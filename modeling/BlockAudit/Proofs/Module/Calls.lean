import BlockAudit.Proofs.Module.Declared

namespace BlockAudit.Module

def spelling (t : FileTree) (root : Path) (d : Place) : Path :=
  if d = t.placeOf root then root else FileTree.pathTo d

def Calls (t : FileTree) (directory : Path) (b : Block) (label : String)
    (target : Except Fault Place) : Prop :=
  ∃ labels source, b.type = "module" ∧ b.labels = label :: labels ∧
    b.attributeAt "source" = .ok (.str source) ∧ isLocal source = true ∧
    t.resolve (directory.join (Path.ofText source)) = target

def Leads (t : FileTree) (directory : Path) (b : Block) (label : String) (d : Place) : Prop :=
  Calls t directory b label (.ok d) ∧ t.isDirectoryAt d = true

inductive Reachable (t : FileTree) (root : Path) : Place → Prop
  | root : Reachable t root (t.placeOf root)
  | call {d e : Place} {b : Block} {label : String} : Reachable t root d →
      b ∈ (declaredIn t (spelling t root d) []).blocks →
      Leads t (spelling t root d) b label e → Reachable t root e

def Astray (t : FileTree) (root : Path) : Prop :=
  ∃ d, Reachable t root d ∧ ∃ b ∈ (declaredIn t (spelling t root d) []).blocks, ∃ label,
    Calls t (spelling t root d) b label (.error .malformedPath)

def Sound (t : FileTree) (root : Path) : Prop :=
  ∀ d, Reachable t root d → loadsIn t (spelling t root d) = true

structure Visit where
  place : Place
  modulePath : List String

def firstVisit (t : FileTree) (root : Path) : Visit := ⟨t.placeOf root, []⟩

def moduleOf (t : FileTree) (root : Path) (v : Visit) : Module :=
  declaredIn t (spelling t root v.place) v.modulePath

def callsOf (t : FileTree) (root : Path) (v : Visit) : List Call :=
  calls (spelling t root v.place) v.modulePath (moduleOf t root v)

variable {t : FileTree} {root : Path}

theorem mem_calls {directory : Path} {modulePath : List String} {m : Module} {c : Call} :
    c ∈ calls directory modulePath m ↔ c.directory = directory ∧ c.modulePath = modulePath ∧
      c.block ∈ m.blocks ∧ c.block.type = "module" ∧
      ∃ labels, c.block.labels = c.label :: labels := by
  unfold calls
  rw [List.mem_filterMap]
  constructor
  · rintro ⟨b, hb, hc⟩
    split at hc
    · next label labels htype hlabels =>
      cases hc
      exact ⟨rfl, rfl, hb, htype, labels, hlabels⟩
    · cases hc
  · rintro ⟨rfl, rfl, hb, htype, labels, hlabels⟩
    exact ⟨c.block, hb, by simp only [htype, hlabels]⟩

theorem place?_of_local {c : Call} {source : String}
    (hs : c.block.attributeAt "source" = .ok (.str source)) (hl : isLocal source = true) :
    c.place? t = (t.resolve (c.directory.join (Path.ofText source))).map some := by
  unfold Call.place?
  rw [hs]
  change (if isLocal source = true then _ else _) = _
  rw [if_pos hl]
  cases t.resolve (c.directory.join (Path.ofText source)) <;> rfl

theorem place?_of_not_local {c : Call} {v : Value} (hv : c.block.attributeAt "source" = .ok v)
    (h : ¬∃ source, v = .str source ∧ isLocal source = true) : c.place? t = .ok none := by
  unfold Call.place?
  rw [hv]
  cases v with
  | str source =>
    have hl : ¬isLocal source = true := fun hl => h ⟨source, rfl, hl⟩
    change (if isLocal source = true then _ else _) = _
    rw [if_neg hl]
    rfl
  | _ => rfl

theorem map_some_injective {x y : Except Fault Place} (h : x.map some = y.map some) : x = y := by
  cases x <;> cases y <;> cases h <;> rfl

theorem place?_eq_map {c : Call} {target : Except Fault Place}
    (h : c.place? t = target.map some) :
    (∃ f, c.block.attributeAt "source" = .error f ∧ target = .error f) ∨ ∃ source,
      c.block.attributeAt "source" = .ok (.str source) ∧ isLocal source = true ∧
      t.resolve (c.directory.join (Path.ofText source)) = target := by
  cases hv : c.block.attributeAt "source" with
  | error f =>
    refine Or.inl ⟨f, rfl, map_some_injective ?_⟩
    rw [← h, Call.place?, hv]
    rfl
  | ok v =>
    by_cases hsource : ∃ source, v = .str source ∧ isLocal source = true
    · obtain ⟨source, rfl, hl⟩ := hsource
      rw [place?_of_local hv hl] at h
      exact Or.inr ⟨source, rfl, hl, map_some_injective h⟩
    · rw [place?_of_not_local hv hsource] at h
      cases target <;> cases h

theorem mem_declaredIn {directory : Path} {modulePath : List String} {b : Block} :
    b ∈ (declaredIn t directory modulePath).blocks ↔
      ∃ b' ∈ (declaredIn t directory []).blocks, { b' with modulePath := modulePath } = b := by
  have hblocks : (declaredIn t directory modulePath).blocks =
      (declaredIn t directory []).blocks.map fun b => { b with modulePath := modulePath } := by
    simp only [declaredIn, List.map_flatMap, ← Template.declared_modulePath]
  rw [hblocks, List.mem_map]

def Rooted (t : FileTree) (root : Path) (c : Call) : Prop :=
  ∃ v : Visit, Reachable t root v.place ∧ c ∈ callsOf t root v

def Misleads (t : FileTree) (directory : Path) (b : Block) (f : Fault) : Prop :=
  b.type = "module" ∧ b.attributeAt "source" = .error f ∨
    ∃ label, Calls t directory b label (.error f)

theorem cases_of_mem_callsOf {v : Visit} {c : Call} (hc : c ∈ callsOf t root v)
    (target : Except Fault Place) (h : c.place? t = target.map some) :
    (∃ f, c.block.attributeAt "source" = .error f ∧ target = .error f) ∨
      Calls t (spelling t root v.place) c.block c.label target := by
  obtain ⟨hdirectory, -, -, htype, labels, hlabels⟩ := mem_calls.mp hc
  refine (place?_eq_map h).imp_right ?_
  rintro ⟨source, hs, hl, hplace⟩
  rw [hdirectory] at hplace
  exact ⟨labels, source, htype, hlabels, hs, hl, hplace⟩

theorem calls_of_mem_callsOf {v : Visit} {c : Call} (hc : c ∈ callsOf t root v) {d : Place}
    (h : c.place? t = .ok (some d)) :
    Calls t (spelling t root v.place) c.block c.label (.ok d) := by
  rcases cases_of_mem_callsOf hc (.ok d) h with ⟨f, -, hf⟩ | hcalls
  · cases hf
  · exact hcalls

theorem misleads_of_mem_callsOf {v : Visit} {c : Call} (hc : c ∈ callsOf t root v) {f : Fault}
    (h : c.place? t = .error f) : Misleads t (spelling t root v.place) c.block f := by
  rcases cases_of_mem_callsOf hc (.error f) h with ⟨g, hs, hg⟩ | hcalls
  · cases hg
    exact Or.inl ⟨(mem_calls.mp hc).2.2.2.1, hs⟩
  · exact Or.inr ⟨c.label, hcalls⟩

theorem exists_mem_of_mem_callsOf {v : Visit} {c : Call} (hc : c ∈ callsOf t root v) :
    ∃ b ∈ (declaredIn t (spelling t root v.place) []).blocks,
      { b with modulePath := v.modulePath } = c.block := by
  obtain ⟨-, -, hmem, -⟩ := mem_calls.mp hc
  exact mem_declaredIn.mp hmem

theorem exists_call {v : Visit} {b : Block} {label : String} {target : Except Fault Place}
    (hb : b ∈ (declaredIn t (spelling t root v.place) []).blocks)
    (h : Calls t (spelling t root v.place) b label target) :
    ∃ c ∈ callsOf t root v, c.place? t = target.map some := by
  obtain ⟨labels, source, htype, hlabels, hs, hl, htarget⟩ := h
  let c : Call :=
    ⟨spelling t root v.place, v.modulePath, label, { b with modulePath := v.modulePath }⟩
  have hplace : c.place? t = (t.resolve (c.directory.join (Path.ofText source))).map some :=
    place?_of_local hs hl
  rw [htarget] at hplace
  refine ⟨c, mem_calls.mpr ⟨rfl, rfl, ?_, htype, labels, hlabels⟩, hplace⟩
  exact mem_declaredIn.mpr ⟨b, hb, rfl⟩

theorem Astray.exists_call (h : Astray t root) : ∃ d, Reachable t root d ∧
    ∀ modulePath, ∃ c ∈ callsOf t root ⟨d, modulePath⟩, c.place? t = .error .malformedPath := by
  obtain ⟨d, hd, b, hb, label, hcalls⟩ := h
  exact ⟨d, hd, fun modulePath => Module.exists_call (v := ⟨d, modulePath⟩) hb hcalls⟩

theorem Rooted.reachable {c : Call} (h : Rooted t root c) {d : Place}
    (hd : c.place? t = .ok (some d)) (hdirectory : t.isDirectoryAt d = true) :
    Reachable t root d := by
  obtain ⟨v, hv, hc⟩ := h
  have hcalls := calls_of_mem_callsOf hc hd
  obtain ⟨b, hb, hbc⟩ := exists_mem_of_mem_callsOf hc
  rw [← hbc] at hcalls
  exact hv.call hb ⟨hcalls, hdirectory⟩

theorem Rooted.misleads {c : Call} (h : Rooted t root c) {f : Fault}
    (hf : c.place? t = .error f) : ∃ d, Reachable t root d ∧
      ∃ b ∈ (declaredIn t (spelling t root d) []).blocks, Misleads t (spelling t root d) b f := by
  obtain ⟨v, hv, hc⟩ := h
  have hmisleads := misleads_of_mem_callsOf hc hf
  obtain ⟨b, hb, hbc⟩ := exists_mem_of_mem_callsOf hc
  rw [← hbc] at hmisleads
  exact ⟨v.place, hv, b, hb, hmisleads⟩

theorem Rooted.astray {c : Call} (h : Rooted t root c) (hsound : Sound t root) {f : Fault}
    (hf : c.place? t = .error f) : f = .malformedPath ∧ Astray t root := by
  obtain ⟨d, hd, b, hb, ⟨-, hsource⟩ | ⟨label, hcalls⟩⟩ := h.misleads hf
  · have hindexed : Value.Indexed (Text.fields '.' "source".toList) := by decide
    obtain ⟨v, hv⟩ := Block.exists_attributeAt (keyedByText_of_mem (hsound d hd) hb) hindexed
    cases hsource.symm.trans hv
  · have hfault : f = .malformedPath := by
      obtain ⟨-, source, -, -, -, -, hresolve⟩ := hcalls
      unfold FileTree.resolve at hresolve
      split at hresolve
      · cases hresolve
      · exact (Except.error.inj hresolve).symm
    rw [hfault] at hcalls
    exact ⟨hfault, d, hd, b, hb, label, hcalls⟩

def Keeps (t : FileTree) (known : List Place) (c : Call) : Prop :=
  ∀ d, c.place? t = .ok (some d) → t.isDirectoryAt d = true → d ∈ known

instance (t : FileTree) (known : List Place) (c : Call) : Decidable (Keeps t known c) :=
  match h : c.place? t with
  | .ok (some d) => decidable_of_iff (t.isDirectoryAt d = true → known.contains d = true)
      ⟨fun hd e he => by rw [h] at he; cases he; exact fun hdir => List.contains_iff_mem.mp (hd hdir),
        fun hk hdir => List.contains_iff_mem.mpr (hk d h hdir)⟩
  | .ok none => isTrue fun d hd => by rw [h] at hd; cases hd
  | .error f => isTrue fun d hd => by rw [h] at hd; cases hd

structure Closed (t : FileTree) (root : Path) (known : List Place) : Prop where
  start : t.placeOf root ∈ known
  keeps : ∀ d ∈ known, ∃ v : Visit, v.place = d ∧ ∀ c ∈ callsOf t root v, Keeps t known c

theorem Reachable.mem_of_closed {known : List Place} {d : Place} (h : Reachable t root d)
    (hclosed : Closed t root known) : d ∈ known := by
  induction h with
  | root => exact hclosed.start
  | call _ hb hleads ih =>
    obtain ⟨v, rfl, hkeeps⟩ := hclosed.keeps _ ih
    obtain ⟨c, hc, hplace⟩ := exists_call hb hleads.1
    exact hkeeps c hc _ hplace hleads.2

theorem closed_of_keeps {known : List Place} (hstart : t.placeOf root ∈ known)
    (h : ∀ d ∈ known, ∀ c ∈ callsOf t root ⟨d, []⟩, Keeps t known c) : Closed t root known :=
  ⟨hstart, fun d hd => ⟨⟨d, []⟩, rfl, h d hd⟩⟩

end BlockAudit.Module
