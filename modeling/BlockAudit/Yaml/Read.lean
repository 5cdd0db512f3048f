import BlockAudit.Yaml.Meaning
import BlockAudit.Yaml.Parse

namespace BlockAudit.Yaml

def isAllowed (c : Char) : Bool :=
  let n := c.toNat
  c = '\t' || c = '\n' || c = '\r' || (0x20 ≤ n && n ≤ 0x7E) || n = 0x85 ||
    (0xA0 ≤ n && n ≤ 0xD7FF) || (0xE000 ≤ n && n ≤ 0xFFFD) || 0x10000 ≤ n

def read (tracked : Bool) (s : List Char) : Except Fault Value :=
  if !s.all isAllowed then .error .malformedDocument
  else do
    match ← rootOf s with
    | none => return .null
    | some root => root.meaning tracked

end BlockAudit.Yaml
