import BlockAudit.Block.Basic
import BlockAudit.MatchSpec.Basic
import BlockAudit.Severity
import BlockAudit.Text.Search

namespace BlockAudit

structure Check where
  code : String
  description : String
  requiredTypes : List String
  requiredLabels : List String
  severity : Severity
  matchSpec : MatchSpec
  errorMessage : String
  relatedLinks : List String
  impact : String
  resolution : String
  source : String

namespace Check

def appliesTo (c : Check) (b : Block) : Bool :=
  c.requiredTypes.contains b.type && c.requiredLabels.isPrefixOf b.labels

def firstNonempty (s t : String) : String := if s.isEmpty then t else s

def placeholders (b : Block) : List (String × String) :=
  [("\x7baddress\x7d", b.address),
   ("\x7btype\x7d", firstNonempty (b.typeLabel?.getD "") b.type),
   ("\x7bname\x7d", b.nameLabel?.getD "")]

/-- The placeholders are replaced one after the other, also in what replaced an earlier one. -/
def message (c : Check) (b : Block) : String :=
  let s := (firstNonempty c.errorMessage c.description).toList
  String.ofList ((placeholders b).foldl
    (fun s p => Text.replaceAll p.1.toList p.2.toList s) s)

end Check
end BlockAudit
