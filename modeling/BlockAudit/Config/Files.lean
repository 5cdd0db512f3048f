import BlockAudit.Config.Basic
import BlockAudit.FileTree.Basic
import BlockAudit.Yaml.Read

namespace BlockAudit.ScanConfig

def directoryName : String := ".tfchecks"

def fileNames : List String := ["config.yml", "config.yaml", "config.json"]

def read (path : String) (s : List Char) : Except Failure ScanConfig :=
  match Yaml.read false s with
  | .error .malformedDocument => .error (.config (.malformedConfigFile path "not YAML"))
  | .error f => .error (.fault f)
  | .ok .null => .ok default
  | .ok (.map es) => ofEntries es
  | .ok _ => .error (.config (.configNotObject path))

def ofFile (t : FileTree) (p : Path) : Except Failure ScanConfig :=
  match t.text? p with
  | .ok (some s) => read p.text s
  | .ok none => .error (.config (.noConfigFile p.text))
  | .error f => .error (.fault f)

def find? (t : FileTree) (target : Path) : Option Path :=
  let directory := target.file directoryName
  (fileNames.map directory.file).find? t.isFile

end BlockAudit.ScanConfig
