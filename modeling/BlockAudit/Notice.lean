import BlockAudit.MatchSpec.Action

namespace BlockAudit

inductive Level where
  | debug
  | info
  | warning
deriving DecidableEq

inductive Notice where
  | preconditionNotMet (action : Action) (address : String)
  | noBlockFound (type address : String)
  | invalidPattern (pattern reason : String)
  | checksLoaded (count : Nat) (path : String)
  | checksRegistered (count : Nat)
  | blocksLoaded (count : Nat) (directory : String)
  | unknownKey (key filename : String)
  | checkExcluded (code : String)
  | pairsEvaluated (pairs findings : Nat)
  | noChecksFound (searched : List String)
deriving DecidableEq

namespace Level

def name : Level → String
  | debug => "DEBUG"
  | info => "INFO"
  | warning => "WARNING"

end Level

namespace Notice

def level : Notice → Level
  | invalidPattern _ _ => .warning
  | noChecksFound _ => .warning
  | checksRegistered _ => .info
  | _ => .debug

def channel : Notice → String
  | preconditionNotMet _ _ => "tfchecks.custom.evaluator"
  | noBlockFound _ _ => "tfchecks.custom.evaluator"
  | invalidPattern _ _ => "tfchecks.custom.evaluator"
  | checksLoaded _ _ => "tfchecks.custom.loader"
  | checksRegistered _ => "tfchecks.custom.loader"
  | blocksLoaded _ _ => "tfchecks.utils.iac"
  | unknownKey _ _ => "tfchecks.utils.iac"
  | checkExcluded _ => "tfchecks.custom.runner"
  | pairsEvaluated _ _ => "tfchecks.custom.runner"
  | noChecksFound _ => "tfchecks.cli"

def text : Notice → String
  | preconditionNotMet action address =>
    s!"Precondition {action.name} not met for {address}, skipping"
  | noBlockFound type address => s!"No {type} block found for {address}"
  | invalidPattern pattern reason =>
    s!"Invalid regexMatches pattern {(Value.str pattern).shown}: {reason}"
  | checksLoaded count path => s!"Loaded {count} checks from {path}"
  | checksRegistered count => s!"Registered {count} custom checks"
  | blocksLoaded count directory => s!"Loaded {count} blocks from {directory}"
  | unknownKey key filename => s!"Skipping unknown top-level key {key} in {filename}"
  | checkExcluded code => s!"Skipping excluded check {code}"
  | pairsEvaluated pairs findings =>
    s!"Evaluated {pairs} check/block pairs, {findings} findings"
  | noChecksFound searched => "No custom checks found in " ++ ", ".intercalate searched

end Notice
end BlockAudit
