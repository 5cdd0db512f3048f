import BlockAudit.Checks.Check
import BlockAudit.Proofs.Text.Substitution
/-!
Messages of checks. The placeholders are replaced one after the other, which comes to replacing them at
once unless a placeholder arises from what an earlier one was replaced by. Main statement:
`message_eq_filled`.
-/

namespace BlockAudit.Check

def template (c : Check) : List Char := (firstNonempty c.errorMessage c.description).toList

def replacements (b : Block) : List Text.Replacement :=
  (placeholders b).map fun p => (p.1.toList, p.2.toList)

def filled (c : Check) (b : Block) : String :=
  String.ofList (Text.substitute (replacements b) c.template)

theorem message_eq (c : Check) (b : Block) :
    c.message b = String.ofList (Text.replaceEach (replacements b) c.template) := by
  rw [message, Text.replaceEach, replacements, List.foldl_map, template]

theorem nodup_replacements (b : Block) : (replacements b).Nodup := by
  have htexts : ((replacements b).map Prod.fst).Nodup := by
    simp only [replacements, placeholders, List.map_cons, List.map_nil]
    decide
  exact htexts.of_map

theorem separable_replacements (b : Block) : Text.Separable '\x7b' (replacements b) := by
  constructor
  · simp only [replacements, placeholders, List.map_cons, List.map_nil, List.forall_mem_cons]
    exact ⟨⟨_, rfl, by decide⟩, ⟨_, rfl, by decide⟩, ⟨_, rfl, by decide⟩, by simp⟩
  · intro p hp q hq hprefix
    simp only [replacements, placeholders, List.map_cons, List.map_nil, List.mem_cons,
      List.not_mem_nil, or_false] at hp hq
    rcases hp with rfl | rfl | rfl <;> rcases hq with rfl | rfl | rfl <;> dsimp only at hprefix <;>
      first | exact absurd hprefix (by decide) | rfl

/-- The message is the text of the check with all placeholders replaced at once if no placeholder arises on
the way; where no label or type has an opening brace, it is so in no other case. -/
theorem message_eq_filled (c : Check) (b : Block) :
    (Text.Undisturbed (replacements b) c.template → c.message b = c.filled b) ∧
      ((∀ p ∈ replacements b, '\x7b' ∉ p.2) → c.message b = c.filled b →
        Text.Undisturbed (replacements b) c.template) := by
  have hps := separable_replacements b
  have hnodup := nodup_replacements b
  rw [message_eq, filled, String.ofList_inj]
  exact ⟨Text.replaceEach_eq_substitute hps hnodup,
    Text.undisturbed_of_replaceEach_eq hps hnodup⟩

def saying (message : String) : Check :=
  ⟨"C1", "", ["resource"], [], .low, ⟨.presence .present, "tags", .null, [], none, [], ""⟩, message, [],
    "", "", ""⟩

def bucketNamed (name : String) : Block := ⟨"resource", ["bucket", name], [], .file "main", []⟩

theorem message_eq_filled_zone :
    Text.Undisturbed (replacements (bucketNamed "\x7bzone\x7d"))
      (saying "\x7btype\x7d \x7b\x7bname\x7d\x7d").template ∧
    (saying "\x7btype\x7d \x7b\x7bname\x7d\x7d").message (bucketNamed "\x7bzone\x7d") =
      "bucket \x7b\x7bzone\x7d\x7d" := by
  have h : Text.Undisturbed (replacements (bucketNamed "\x7bzone\x7d"))
      (saying "\x7btype\x7d \x7b\x7bname\x7d\x7d").template := ⟨rfl, rfl, rfl, trivial⟩
  exact ⟨h, ((message_eq_filled _ _).1 h).trans rfl⟩

/-- The address has a placeholder in it, which is replaced in its turn. -/
theorem message_not_filled_type :
    (saying "\x7baddress\x7d is open").message (bucketNamed "\x7btype\x7d") = "bucket.bucket is open" ∧
    (saying "\x7baddress\x7d is open").filled (bucketNamed "\x7btype\x7d") =
      "bucket.\x7btype\x7d is open" ∧
    (saying "\x7baddress\x7d is open").message (bucketNamed "\x7btype\x7d") ≠
      (saying "\x7baddress\x7d is open").filled (bucketNamed "\x7btype\x7d") :=
  ⟨rfl, rfl, by decide⟩

end BlockAudit.Check
