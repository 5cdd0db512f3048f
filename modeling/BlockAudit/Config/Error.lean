import BlockAudit.Severity

namespace BlockAudit

inductive ConfigError where
  | overridesNotObject
  | unknownSeverity (key : String) (value : Value)
  | notStringList (key : String)
  | workersNotInteger (value : Value)
  | tooFewWorkers
  | noConfigFile (path : String)
  | malformedConfigFile (path reason : String)
  | configNotObject (path : String)
  | malformedTemplate (path reason : String)
  | templateNotMapping (path : String)
  | targetNotDirectory (path : String)

namespace ConfigError

def message : ConfigError → String
  | overridesNotObject => "'severity_overrides' must be an object"
  | unknownSeverity key value => s!"'{key}': {Severity.unknown value}"
  | notStringList key => s!"'{key}' must be a list of strings"
  | workersNotInteger value => s!"'workers' must be an integer, got {value.shown}"
  | tooFewWorkers => "'workers' must be at least 1"
  | noConfigFile path => s!"Config file not found: {path}"
  | malformedConfigFile path reason => s!"Failed to parse config file {path}: {reason}"
  | configNotObject path => s!"Config file {path} must contain an object"
  | malformedTemplate path reason => s!"Failed to parse {path}: {reason}"
  | templateNotMapping path => s!"Template at {path} is not a mapping"
  | targetNotDirectory path => s!"Scan target is not a directory: {path}"

end ConfigError

end BlockAudit
