import BlockAudit.Module.Load
import BlockAudit.Proofs.Block.Reading
import BlockAudit.Proofs.Run
import BlockAudit.Proofs.Template.Blocks

namespace BlockAudit

namespace Template

def loads (t : FileTree) (p : Path) : Bool :=
  match ofFile t p with
  | .ok (some es) => (Value.map es).keyedByText
  | .ok none => true
  | .error _ => false

def declared (t : FileTree) (modulePath : List String) (p : Path) : List Block :=
  match ofFile t p with
  | .ok (some es) => (blocks p.text modulePath es).toOption.getD []
  | _ => []

variable {t : FileTree} {p : Path}

theorem loads_cases (h : loads t p = true) (modulePath : List String) :
    (ofFile t p = .ok none ∧ declared t modulePath p = []) ∨
      ∃ es bs, ofFile t p = .ok (some es) ∧ (Value.map es).keyedByText = true ∧
        blocks p.text modulePath es = .ok bs ∧ declared t modulePath p = bs := by
  unfold loads at h
  unfold declared
  cases hread : ofFile t p with
  | error f =>
    rw [hread] at h
    cases h
  | ok o =>
    cases o with
    | none => exact Or.inl ⟨rfl, rfl⟩
    | some es =>
      rw [hread] at h
      obtain ⟨bs, hbs, -⟩ := blocks_strip p.text modulePath h
      exact Or.inr ⟨es, bs, rfl, h, hbs, congrArg (fun x => x.toOption.getD []) hbs⟩

theorem blocksOfFile_gives (h : loads t p = true) (modulePath : List String) :
    (blocksOfFile t modulePath p).Gives (.ok (declared t modulePath p)) := by
  unfold blocksOfFile
  rcases loads_cases h modulePath with ⟨hnone, hd⟩ | ⟨es, bs, hsome, -, hbs, hd⟩
  · rw [hd]
    exact (Run.gives_lift hnone).bind_ok (Run.gives_pure [])
  · apply (Run.gives_lift hsome).bind_ok
    simp only [hbs, hd]
    exact (Run.gives_forM Run.gives_note _).bind_ok (Run.gives_pure bs)

theorem declared_modulePath (t : FileTree) (modulePath : List String) (p : Path) :
    declared t modulePath p =
      (declared t [] p).map fun b => { b with modulePath := modulePath } := by
  unfold declared
  cases ofFile t p with
  | error f => rfl
  | ok o =>
    cases o with
    | none => rfl
    | some es =>
      dsimp only
      rw [blocks_modulePath]
      cases blocks p.text [] es <;> rfl

theorem keyedByText_of_mem_declared (h : loads t p = true) {modulePath : List String} {b : Block}
    (hb : b ∈ declared t modulePath p) : (Value.map b.body).keyedByText = true := by
  rcases loads_cases h modulePath with ⟨-, hd⟩ | ⟨es, bs, -, hkeyed, hbs, hd⟩
  · rw [hd] at hb
    cases hb
  · have hentries := (Value.keyedByText_map.mp hkeyed).2
    have hbodies := yields_blocks Value.keyedByText_inherited p.text modulePath
      fun e he _ => hentries e he
    exact hbodies bs hbs b (hd ▸ hb)

end Template

namespace Module

def loadsIn (t : FileTree) (directory : Path) : Bool :=
  (t.filesIn directory [templateSuffix]).all (Template.loads t)

def declaredIn (t : FileTree) (directory : Path) (modulePath : List String) : Module where
  path := directory.text
  blocks := (t.filesIn directory [templateSuffix]).flatMap (Template.declared t modulePath)

variable {t : FileTree} {directory : Path}

theorem load_gives (h : loadsIn t directory = true) (modulePath : List String) :
    (load t directory modulePath).Gives (.ok (declaredIn t directory modulePath)) := by
  have hfiles : ∀ ps : List Path, (∀ p ∈ ps, Template.loads t p = true) →
      (blocksOfFiles t modulePath ps).Gives
        (.ok (ps.flatMap (Template.declared t modulePath))) := by
    intro ps hps
    induction ps with
    | nil => exact Run.gives_pure []
    | cons p ps ih =>
      obtain ⟨hp, hrest⟩ := List.forall_mem_cons.mp hps
      apply (Template.blocksOfFile_gives hp modulePath).bind_ok
      exact (ih hrest).bind_ok (Run.gives_pure _)
  apply (hfiles _ (List.all_eq_true.mp h)).bind_ok
  exact (Run.gives_note _).bind_ok (Run.gives_pure _)

theorem modulePath_of_mem {modulePath : List String} {b : Block}
    (hb : b ∈ (declaredIn t directory modulePath).blocks) : b.modulePath = modulePath := by
  obtain ⟨p, -, hbp⟩ := List.mem_flatMap.mp hb
  rw [Template.declared_modulePath] at hbp
  obtain ⟨b', -, rfl⟩ := List.mem_map.mp hbp
  rfl

theorem keyedByText_of_mem (h : loadsIn t directory = true) {modulePath : List String} {b : Block}
    (hb : b ∈ (declaredIn t directory modulePath).blocks) :
    (Value.map b.body).keyedByText = true := by
  obtain ⟨p, hp, hbp⟩ := List.mem_flatMap.mp hb
  exact Template.keyedByText_of_mem_declared (List.all_eq_true.mp h p hp) hbp

end Module
end BlockAudit
