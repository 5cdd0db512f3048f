import BlockAudit.Checks.Error
import BlockAudit.Config.Error
import BlockAudit.Fault

namespace BlockAudit

inductive Failure where
  | checks (e : ChecksError)
  | config (e : ConfigError)
  | fault (f : Fault)

namespace Failure

def message? : Failure → Option String
  | checks e => some e.message
  | config e => some e.message
  | fault _ => none

end Failure
end BlockAudit
