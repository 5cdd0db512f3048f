import BlockAudit.Proofs.Block.Bare
import BlockAudit.Proofs.Evaluation.Simulation

namespace BlockAudit

namespace Module

def bare (m : Module) : Module := { m with blocks := m.blocks.map Block.bare }

theorem bare_bare (m : Module) : m.bare.bare = m.bare := by
  have hblocks : m.blocks.map (Block.bare ∘ Block.bare) = m.blocks.map Block.bare :=
    List.map_congr_left fun b _ => b.bare_bare
  rw [bare, bare, List.map_map, hblocks]

theorem flatMap_blocks_bare (modules : List Module) :
    (modules.map bare).flatMap blocks = (modules.flatMap blocks).map Block.bare := by
  rw [List.flatMap_map, List.map_flatMap]
  rfl

theorem ofType_bare (name : String) (modules : List Module) :
    ofType name (modules.map bare) = (ofType name modules).map Block.bare := by
  rw [ofType, flatMap_blocks_bare, List.filter_map]
  rfl

end Module

namespace MatchSpec

def stripped : Simulation := ⟨Eq, Eq, fun b c => b.Clear ∧ c = b.bare⟩

theorem stripped_respects : stripped.Respects := by
  refine Simulation.respects_of_values ?_ ?_ ?_ ?_ ?_ ?_
  · rintro n s _ rfl
    rfl
  · rintro b _ ⟨-, rfl⟩
    rfl
  · rintro b _ ⟨-, rfl⟩
    rfl
  · rintro b _ path ⟨hb, rfl⟩
    exact (Block.attributeAt_bare hb path).symm
  · rintro b _ key ⟨hb, rfl⟩
    exact (Block.tag?_bare hb key).symm
  · rintro b _ name ⟨hb, rfl⟩
    obtain ⟨bs, hbs, hbare, hclear⟩ := Block.childrenNamed_bare hb name
    rw [hbs, hbare]
    refine .ok (List.forall₂_map_right_iff.mpr (List.forall₂_same.mpr fun c hc => ?_))
    exact ⟨hclear c hc, rfl⟩

theorem stripped_sound : stripped.Sound where
  toRespects := stripped_respects
  bind := Simulation.binds_of_values fun _ _ _ _ => by rintro rfl; rfl

theorem stripped_serves {modules : List Module} (h : ∀ b ∈ modules.flatMap Module.blocks, b.Clear)
    (spec : MatchSpec) :
    stripped.Serves modules (modules.map Module.bare) spec spec := by
  unfold Simulation.Serves
  cases spec.action with
  | comparison c =>
    rintro s _ rfl
    rfl
  | hasTag =>
    refine ⟨rfl, ?_⟩
    rintro s _ rfl
    rfl
  | requiresPresence =>
    dsimp only
    rw [Module.ofType_bare, List.head?_map]
    cases hb : (Module.ofType spec.name modules).head? with
    | none => exact .none
    | some b => exact .some ⟨h b (List.mem_of_mem_filter (List.mem_of_mem_head? hb)), rfl⟩
  | _ => trivial

theorem run_bare {modules : List Module} {b : Block}
    (h : ∀ b ∈ modules.flatMap Module.blocks, b.Clear) (hb : b.Clear) (spec : MatchSpec)
    (start : Bindings) :
    spec.run (modules.map Module.bare) b.bare start = spec.run modules b start := by
  have hfollows := stripped_sound.evaluate fun n (_ : n ∈ spec.nodes) => stripped_serves h n
  obtain ⟨hout, htrace⟩ := hfollows b b.bare ⟨hb, rfl⟩ ⟨start, []⟩ ⟨start, []⟩ rfl
  exact congrArg₂ (fun (o : Except Fault Bool) (t : Trace) =>
    (o, t.bindings, t.notices.reverse)) hout.eq.symm (Eq.symm htrace)

end MatchSpec
end BlockAudit
