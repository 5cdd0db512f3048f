import BlockAudit.Checks.Check
import BlockAudit.Checks.Error
/-!
Registries: the checks of a scan in the order in which they were given, each with a code of its own.
-/

namespace BlockAudit

structure Registry where
  checks : List Check
  codes_nodup : (checks.map Check.code).Nodup

namespace Registry

def empty : Registry := ⟨[], List.nodup_nil⟩

def codes (r : Registry) : List String := r.checks.map Check.code

def find? (r : Registry) (code : String) : Option Check := r.checks.find? fun c => c.code == code

theorem not_mem_codes {r : Registry} {code : String} (h : r.find? code = none) :
    code ∉ r.checks.map Check.code := by
  intro hc
  obtain ⟨c, hmem, rfl⟩ := List.mem_map.mp hc
  have := List.find?_eq_none.mp h c hmem
  simp at this

theorem nodup_append {r : Registry} {c : Check} (h : r.find? c.code = none) :
    ((r.checks ++ [c]).map Check.code).Nodup := by
  rw [List.map_append, List.nodup_append]
  refine ⟨r.codes_nodup, by simp, fun a ha b hb hab => not_mem_codes h ?_⟩
  simp only [List.map_cons, List.map_nil, List.mem_singleton] at hb
  rwa [← hb, ← hab]

def duplicate (first second : Check) : ChecksError where
  defect := .duplicateCode (Check.firstNonempty first.source "<memory>")
  source := if second.source.isEmpty then none else some second.source
  code := some second.code

def add (r : Registry) (c : Check) : Except ChecksError Registry :=
  match h : r.find? c.code with
  | some first => .error (duplicate first c)
  | none => .ok ⟨r.checks ++ [c], nodup_append h⟩

def addAll (r : Registry) : List Check → Except ChecksError Registry
  | [] => .ok r
  | c :: cs => do (← r.add c).addAll cs

def ofChecks (cs : List Check) : Except ChecksError Registry := empty.addAll cs

end Registry
end BlockAudit
