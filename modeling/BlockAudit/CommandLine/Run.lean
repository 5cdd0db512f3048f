import BlockAudit.Checks.Files
import BlockAudit.CommandLine.Parse
import BlockAudit.Config.Files
import BlockAudit.FileTree.Write
import BlockAudit.Json.Write
import BlockAudit.Module.Load
import BlockAudit.Scan

namespace BlockAudit.CommandLine

def helpText : String := "\n".intercalate
  ["usage: tfchecks [-h] [-v] [scan | validate] ...",
   "",
   "  scan [TARGET]     evaluate the checks on a configuration directory",
   "    --checks PATH   checks file or directory (repeatable)",
   "    --config PATH   configuration file",
   "    -e, --exclude CODE",
   "    --minimum-severity SEVERITY",
   "    --workers N",
   "    --format json",
   "    --out, --output PATH",
   "  validate PATH...  read checks files and report their errors"]

def errorCode : Nat := 3

def usageCode : Nat := 2

def orDefault : Option Path → FileTree → Except Failure ScanConfig
  | some p, t => ScanConfig.ofFile t p
  | none, _ => .ok .default

def configFor (t : FileTree) (target : Path) (s : Settings) : Except Failure ScanConfig := do
  let path := match s.config.filter (!·.isEmpty) with
    | some text => some (Path.ofText text)
    | none => ScanConfig.find? t target
  let config ← orDefault path t
  let severity := (s.minimumSeverity.map fun severity => Value.str severity.name).getD .null
  config.merged s.exclude severity ((s.workers.map Value.int).getD .null)

def registryFor (t : FileTree) (target : Path) (checks : List String) : Run Registry := do
  let directory := target.file ScanConfig.directoryName
  let searched := if checks.isEmpty then [directory.text] else checks
  let paths := if checks.isEmpty && !t.isDirectory directory then [] else searched
  let registry ← Checks.registryOf t paths
  if registry.checks.isEmpty then Run.note (.noChecksFound searched)
  return registry

def scanTarget (t : FileTree) (target : Path) (s : Settings) : Run ScanResult := do
  let config ← configFor t target s
  let registry ← registryFor t target s.checks
  let modules ← Module.loadAll t target
  Scan.addTo config registry modules .empty

def topCount : Int := 5

def report (t : FileTree) (result : ScanResult) (output : Option String) : Run FileTree := do
  Run.print (result.table topCount)
  let text := Json.write result.toValue
  match output.filter (!·.isEmpty) with
  | none =>
    Run.print "\nJSON Report"
    Run.print text
    return t
  | some path =>
    match t.write (Path.ofText path) text with
    | .ok t =>
      Run.print s!"\nReport written to {path}"
      return t
    | .error f => throw (.fault f)

def validateAll (t : FileTree) : List String → Run Unit
  | [] => return ()
  | path :: paths => do
    let registry ← Checks.registryOf t [path]
    registry.checks.forM fun c => Run.print s!"{c.code}\t{c.severity.name}\t{c.source}"
    Run.print s!"{path}: {registry.checks.length} check(s) OK"
    validateAll t paths

def Command.run (t : FileTree) : Command → Run (Nat × FileTree)
  | .help => do
    Run.print helpText
    return (0, t)
  | .validate paths => do
    validateAll t paths
    return (0, t)
  | .scan target settings => do
    let result ← scanTarget t (Path.ofText target) settings
    let t ← report t result settings.output
    return (result.exitCode, t)

structure Outcome where
  exitCode : Nat
  output : List String
  notices : List Notice
  error : Option Failure
  tree : FileTree

/-- The outcome of a command, unless it ends in a fault. A run that ends with a reported error leaves
the tree as it was. -/
def Command.outcome (t : FileTree) (c : Command) : Except Fault Outcome :=
  match (c.run t).start with
  | (.ok (code, tree), notices, output) => .ok ⟨code, output, notices, none, tree⟩
  | (.error (.fault f), _, _) => .error f
  | (.error e, notices, output) => .ok ⟨errorCode, output, notices, some e, t⟩

namespace Outcome

def outputText (o : Outcome) : String := String.join (o.output.map (· ++ "\n"))

def noticeLine (n : Notice) : String := s!"{n.level.name} {n.channel}: {n.text}\n"

def errorText (o : Outcome) (verbose : Bool) : String :=
  let shown := o.notices.filter fun n => verbose || n.level = .warning
  String.join (shown.map noticeLine) ++
    ((o.error.bind Failure.message?).map fun m => s!"error: {m}\n").getD ""

end Outcome
end BlockAudit.CommandLine
