import BlockAudit.Checks.Check

namespace BlockAudit

structure Finding where
  code : String
  severity : Severity
  description : String
  resource : String
  location : String
  message : String
  relatedLinks : List String
  impact : String
  resolution : String
deriving DecidableEq

namespace Finding

def of (c : Check) (b : Block) (severity : Severity) : Finding where
  code := c.code
  severity := severity
  description := c.description
  resource := b.address
  location := b.location.text
  message := c.message b
  relatedLinks := c.relatedLinks
  impact := c.impact
  resolution := c.resolution

def toValue (f : Finding) : Value :=
  .map
    [(.str "code", .str f.code), (.str "severity", .str f.severity.name),
     (.str "description", .str f.description), (.str "resource", .str f.resource),
     (.str "location", .str f.location), (.str "message", .str f.message),
     (.str "related_links", .list (f.relatedLinks.map .str)),
     (.str "impact", .str f.impact), (.str "resolution", .str f.resolution)]

def precedes (f g : Finding) : Bool :=
  match compare g.severity.rank f.severity.rank with
  | .lt => true
  | .gt => false
  | .eq =>
    match compare f.code.toList g.code.toList with
    | .lt => true
    | .gt => false
    | .eq => compare f.resource.toList g.resource.toList == .lt

end Finding
end BlockAudit
