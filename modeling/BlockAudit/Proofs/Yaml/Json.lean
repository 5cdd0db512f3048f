import BlockAudit.Proofs.Yaml.Broken
import BlockAudit.Proofs.Yaml.Flow
/-!
Portable JSON texts as documents: they mean the same, or are found to be malformed.
-/

namespace BlockAudit.Yaml

open Json

theorem rootOf_leads {s : List Char} {es : List Entry} (h : Json.read? s = some (.map es))
    (hportable : isPortable s = true) :
    UnlessMalformed (fun root? => ∃ root, root? = some root ∧ root.Means (.map es)) (rootOf s) := by
  have hleads : Parser.Leads (Parser.document (4 * (tokensOf s).list.length + 8))
      (Parser.start (tokensOf s)) fun root? _ => ∃ root, root? = some root ∧ root.Means (.map es) := by
    rcases tokensOf_spells h hportable with hbroken | ⟨-, ks, hspells, hkinds⟩
    · exact (Parser.leads_document_of_isBroken _ hbroken).mono nofun
    · exact Parser.leads_document _ hspells hkinds
  unfold rootOf
  dsimp only
  cases hrun : (Parser.document (4 * (tokensOf s).list.length + 8)).run
      (Parser.start (tokensOf s)) with
  | error f =>
    rw [Parser.Leads, hrun] at hleads
    exact hleads
  | ok r =>
    rw [Parser.Leads, hrun] at hleads
    exact hleads

theorem read_leads {s : List Char} {es : List Entry} (h : Json.read? s = some (.map es))
    (hportable : isPortable s = true) :
    UnlessMalformed (fun w => w.dropLines = (Value.map es).dropLines) (read true s) := by
  unfold read
  split
  · rfl
  · refine (rootOf_leads h hportable).bind ?_
    rintro _ ⟨root, rfl, hroot⟩
    obtain ⟨w, hw, hlines⟩ := Node.exists_meaning_of_means hroot
    show UnlessMalformed _ (root.meaning true)
    rw [hw]
    exact hlines

end BlockAudit.Yaml
