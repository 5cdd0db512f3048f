import BlockAudit.Checks.Read
import BlockAudit.Checks.Registry
import BlockAudit.FileTree.Basic
import BlockAudit.Journal

namespace BlockAudit.Checks

def suffixes : List String := ["_tfchecks.json", "_tfchecks.yaml", "_tfchecks.yml"]

def filesIn (t : FileTree) (directory : Path) : List Path :=
  if t.isDirectory directory then t.filesIn directory suffixes else []

def ofFile (t : FileTree) (p : Path) : Except Failure (List Check) :=
  if t.isFile p then
    match t.text? p with
    | .ok s => read p.text (s.getD [])
    | .error f => .error (.fault f)
  else .error (.checks ⟨.noFile, some p.text, none⟩)

def expand (t : FileTree) (p : Path) : List Path :=
  if t.isDirectory p then filesIn t p else [p]

def ofFiles (t : FileTree) : List Path → Run (List Check)
  | [] => return []
  | p :: ps => do
    let checks ← ofFile t p
    Run.note (.checksLoaded checks.length p.text)
    let rest ← ofFiles t ps
    return checks ++ rest

def registryOf (t : FileTree) (paths : List String) : Run Registry := do
  let checks ← ofFiles t ((paths.map Path.ofText).flatMap (expand t))
  let registry ← (Registry.ofChecks checks).mapError Failure.checks
  Run.note (.checksRegistered registry.checks.length)
  return registry

end BlockAudit.Checks
