import BlockAudit.Proofs.Yaml.Parsing
import BlockAudit.Proofs.Yaml.Stable

namespace BlockAudit.Yaml.Parser

variable {α : Type} {x : Parser α}

def Keeps (x : Parser α) : Prop :=
  ∀ st : ParserState, st.tokens.IsBroken → Leads x st fun _ st' => st'.tokens.IsBroken

theorem keeps_pure (a : α) : Keeps (pure a : Parser α) := fun _ h => h

theorem stable_isBroken :
    Stable (fun st => st.tokens.IsBroken) (fun f => f = .malformedDocument) where
  malformed := rfl
  ends st hst := by
    rw [hst.1]
    rfl
  tail _ hst := ⟨hst.1, fun t ht => hst.2 t (List.mem_of_mem_tail ht)⟩
  retouch st st' hst h := by
    rwa [h]

theorem Keeps.of_preserves
    (h : Preserves (fun st => st.tokens.IsBroken) (fun f => f = .malformedDocument) x) :
    Keeps x := by
  intro st hst
  have hx := h st hst
  unfold Leads
  cases hr : x.run st with
  | ok r =>
    rw [hr] at hx
    exact hx
  | error f =>
    rw [hr] at hx
    exact hx

theorem keeps_peek : Keeps peek := .of_preserves (preserves_peek stable_isBroken)

theorem keeps_node (n : Nat) (block indentless : Bool) : Keeps (node n block indentless) :=
  .of_preserves ((preservesAll stable_isBroken n).node block indentless)

theorem keeps_explicitStart (n : Nat) : Keeps (explicitStart n) :=
  .of_preserves (preserves_explicitStart stable_isBroken n)

theorem keeps_skipDocumentEnds (n : Nat) : Keeps (skipDocumentEnds n) :=
  .of_preserves (preserves_skipDocumentEnds stable_isBroken n)

theorem leads_peek_of_isBroken {st : ParserState} (h : st.tokens.IsBroken) :
    Leads peek st fun t st' => t.kind ≠ .streamEnd ∧ st'.tokens.IsBroken := by
  unfold Leads peek
  simp only [StateT.run_bind, StateT.run_get, pure_bind]
  split
  · next t ts hlist => exact ⟨h.2 t (hlist ▸ List.mem_cons_self), h⟩
  · rw [h.1]
    rfl

theorem leads_endOfStream_of_isBroken (n : Nat) {st : ParserState} (h : st.tokens.IsBroken) :
    Leads (endOfStream n) st fun _ _ => False := by
  refine Leads.bind (keeps_skipDocumentEnds n st h) fun _ st' hst' => ?_
  have hat : Leads (at? [.streamEnd]) st' fun b st'' => b = false ∧ st''.tokens.IsBroken := by
    refine (leads_peek_of_isBroken hst').bind fun t st'' ⟨ht, hst''⟩ => ?_
    have hkind : [TokenKind.streamEnd].contains t.kind = false := by simp [ht]
    exact ⟨hkind, hst''⟩
  refine hat.bind ?_
  rintro _ st'' ⟨rfl, hst''⟩
  exact (keeps_explicitStart n st'' hst'').bind fun _ _ _ => leads_fail

theorem leads_document_of_isBroken (n : Nat) {st : ParserState} (h : st.tokens.IsBroken) :
    Leads (document n) st fun _ _ => False := by
  have hnone : ∀ {root : Parser Node}, Keeps root → ∀ st : ParserState, st.tokens.IsBroken →
      Leads (do
        let root ← root
        endOfStream n
        return some root) st fun _ _ => False := by
    intro root hroot st hst
    refine Leads.bind (hroot st hst) fun m st' hst' => ?_
    exact (leads_endOfStream_of_isBroken n hst').bind nofun
  have hroot : ∀ (explicit : Bool) (st : ParserState), st.tokens.IsBroken → Leads (do
      let t ← peek
      let absent := explicit &&
        (isDirective t.kind || [.documentStart, .documentEnd, .streamEnd].contains t.kind)
      if absent then
        let root ← pure .empty
        endOfStream n
        return some root
      else
        let root ← node n true false
        endOfStream n
        return some root) st fun _ _ => False := by
    intro explicit st hst
    refine Leads.bind (keeps_peek st hst) fun t st' hst' => ?_
    dsimp only
    split
    · exact hnone (keeps_pure _) st' hst'
    · exact hnone (keeps_node n _ _) st' hst'
  rw [document]
  refine (leads_peek_of_isBroken h).bind fun t st hpeeked => ?_
  obtain ⟨ht, hst⟩ := hpeeked
  rw [if_neg ht]
  dsimp only
  split
  · exact Leads.bind (keeps_explicitStart n st hst) fun _ st' hst' => hroot _ st' hst'
  · exact hroot _ st hst

end BlockAudit.Yaml.Parser
