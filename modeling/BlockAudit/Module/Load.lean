import BlockAudit.Template.Read
/-!
Loading of modules: the one in a directory, and all that can be reached from it through the local
sources of module calls. No directory is loaded twice.
-/

namespace BlockAudit.Module

def templateSuffix : String := ".tf.json"

def blocksOfFiles (t : FileTree) (modulePath : List String) : List Path → Run (List Block)
  | [] => return []
  | p :: ps => do
    let bs ← Template.blocksOfFile t modulePath p
    let rest ← blocksOfFiles t modulePath ps
    return bs ++ rest

def load (t : FileTree) (directory : Path) (modulePath : List String) : Run Module := do
  let blocks ← blocksOfFiles t modulePath (t.filesIn directory [templateSuffix])
  Run.note (.blocksLoaded blocks.length directory.text)
  return ⟨directory.text, blocks⟩

structure Call where
  directory : Path
  modulePath : List String
  label : String
  block : Block

def calls (directory : Path) (modulePath : List String) (m : Module) : List Call :=
  m.blocks.filterMap fun b =>
    match b.type, b.labels with
    | "module", label :: _ => some ⟨directory, modulePath, label, b⟩
    | _, _ => none

def isLocal (source : String) : Bool :=
  ['.', '/'].isPrefixOf source.toList || ['.', '.', '/'].isPrefixOf source.toList

def Call.place? (t : FileTree) (c : Call) : Except Fault (Option Place) := do
  match ← c.block.attributeAt "source" with
  | .str source =>
    if isLocal source then return some (← t.resolve (c.directory.join (Path.ofText source)))
    else return none
  | _ => return none

def places (t : FileTree) : List Place :=
  (List.range (t.workingDirectory.length + 1)).map t.workingDirectory.take ++ t.nodes.map (·.1)

def unseen (t : FileTree) (seen : List Place) : List Place :=
  (places t).filter fun place => t.isDirectoryAt place && !seen.contains place

theorem mem_keys_of_lookup {nodes : List (Place × Content)} {place : Place} {c : Content}
    (h : nodes.lookup place = some c) : place ∈ nodes.map (·.1) := by
  induction nodes with
  | nil => simp at h
  | cons node nodes ih =>
    rw [List.map_cons, List.mem_cons]
    by_cases he : place = node.1
    · exact Or.inl he
    · rw [List.lookup_cons, beq_false_of_ne he] at h
      exact Or.inr (ih h)

theorem mem_places {t : FileTree} {place : Place} (h : t.isDirectoryAt place = true) :
    place ∈ places t := by
  by_cases hp : place.isPrefixOf t.workingDirectory = true
  · obtain ⟨rest, hr⟩ := List.isPrefixOf_iff_prefix.mp hp
    refine List.mem_append_left _ (List.mem_map.mpr ⟨place.length, ?_, ?_⟩)
    · rw [List.mem_range, ← hr, List.length_append]
      omega
    · rw [← hr, List.take_left]
  · refine List.mem_append_right _ ?_
    simp only [FileTree.isDirectoryAt, FileTree.content?, hp] at h
    split at h
    · next hl => exact mem_keys_of_lookup hl
    · simp at h

theorem unseen_cons_lt {t : FileTree} {seen : List Place} {place : Place}
    (hd : t.isDirectoryAt place = true) (hs : place ∉ seen) :
    (unseen t (place :: seen)).length < (unseen t seen).length := by
  have hfilter : unseen t (place :: seen) = (unseen t seen).filter fun p => p != place := by
    unfold unseen
    rw [List.filter_filter]
    congr 1
    funext p
    by_cases hp : p = place
    · simp [hp]
    · simp [hp]
  rw [hfilter, List.length_filter_lt_length_iff_exists]
  exact ⟨place, List.mem_filter.mpr ⟨mem_places hd, by simp [hd, hs]⟩, by simp⟩

def loadCalls (t : FileTree) (seen : List Place) : List Call → Run (List Module)
  | [] => return []
  | c :: cs =>
    match c.place? t with
    | .error f => throw (.fault f)
    | .ok none => loadCalls t seen cs
    | .ok (some place) =>
      if _h : t.isDirectoryAt place = true ∧ place ∉ seen then do
        let directory := FileTree.pathTo place
        let modulePath := c.modulePath ++ [c.label]
        let m ← load t directory modulePath
        let rest ← loadCalls t (place :: seen) (calls directory modulePath m ++ cs)
        return m :: rest
      else loadCalls t seen cs
termination_by cs => ((unseen t seen).length, cs.length)
decreasing_by
  · exact Prod.Lex.right _ (Nat.lt_succ_self _)
  · exact Prod.Lex.left _ _ (unseen_cons_lt _h.1 _h.2)
  · exact Prod.Lex.right _ (Nat.lt_succ_self _)

def loadAll (t : FileTree) (root : Path) : Run (List Module) := do
  if !t.isDirectory root then throw (.config (.targetNotDirectory root.text))
  let m ← load t root []
  let rest ← loadCalls t [t.placeOf root] (calls root [] m)
  return m :: rest

end BlockAudit.Module
