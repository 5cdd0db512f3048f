import BlockAudit.CommandLine.Run

namespace BlockAudit.Main

open CommandLine

def namesAt? (path : String) : IO (Option (List String)) := do
  try
    let directory ← IO.FS.realPath path
    return some ((← directory.readDir).toList.map (·.fileName))
  catch _ => return none

def bytesAt? (path : String) : IO (Option ByteArray) := do
  try
    return some (← IO.FS.readBinFile path)
  catch _ => return none

def known (t : FileTree) (place : Place) : Bool := (t.nodes.lookup place).isSome

def takeUp (t : FileTree) (place : Place) : IO FileTree := do
  match ← namesAt? (FileTree.pathTo place).text with
  | some names =>
    let mut t := t.put place .directory
    for name in names do
      let inside := place ++ [name]
      let path := (FileTree.pathTo inside).text
      if (← namesAt? path).isSome then
        if !known t inside then t := t.put inside .directory
      else if let some bytes ← bytesAt? path then t := t.put inside (.file bytes)
    return t
  | none =>
    match ← bytesAt? (FileTree.pathTo place).text with
    | some bytes => return t.put place (.file bytes)
    | none => return t

def follow (t : FileTree) (p : Path) : IO FileTree := do
  let mut t := t
  for n in List.range (p.parts.length + 1) do
    t ← takeUp t (t.placeOf ⟨p.root, p.parts.take n⟩)
  return t

def namedPlaces (t : FileTree) (modules : List Module) : List Place :=
  modules.flatMap fun m => (Module.calls (Path.ofText m.path) [] m).filterMap fun c =>
    match c.place? t with
    | .ok place => place
    | .error _ => none

partial def reachModules (t : FileTree) (target : Path) (seen : List Place) : IO FileTree := do
  match (Module.loadAll t target).start.1 with
  | .error _ => return t
  | .ok modules =>
    match (namedPlaces t modules).filter (!seen.contains ·) with
    | [] => return t
    | places => reachModules (← places.foldlM takeUp t) target (places ++ seen)

def pathsOf : Command → List Path
  | .help => []
  | .validate paths => paths.map Path.ofText
  | .scan target settings =>
    let directory := Path.ofText target
    [directory, directory.file ScanConfig.directoryName] ++
      (settings.checks ++ settings.config.toList ++ settings.output.toList).map Path.ofText

def targetOf? : Command → Option Path
  | .scan target _ => some (Path.ofText target)
  | _ => none

def takeUpFor (t : FileTree) (c : Command) : IO FileTree := do
  let t ← (pathsOf c).foldlM follow t
  match targetOf? c with
  | some target => reachModules t target []
  | none => return t

def isIn (t : FileTree) (place : Place) (c : Content) : Bool :=
  match t.nodes.lookup place, c with
  | some .directory, .directory => true
  | some (.file old), .file new => old == new
  | _, _ => false

def writeChanges (before after : FileTree) : IO Unit := do
  for (place, c) in after.nodes do
    if !isIn before place c then
      match c with
      | .directory => IO.FS.createDir (FileTree.pathTo place).text
      | .file bytes => IO.FS.writeBinFile (FileTree.pathTo place).text bytes

def run (i : Invocation) : IO UInt32 := do
  let directory := Path.ofText (← IO.currentDir).toString
  let t ← takeUpFor ⟨directory.parts, []⟩ i.command
  match i.command.outcome t with
  | .ok o =>
    writeChanges t o.tree
    (← IO.getStdout).putStr o.outputText
    (← IO.getStderr).putStr (o.errorText i.verbose)
    return o.exitCode.toUInt32
  | .error _ =>
    (← IO.getStderr).putStrLn "error: the command stopped without a result"
    return 1

end BlockAudit.Main

open BlockAudit BlockAudit.CommandLine in
def main (args : List String) : IO UInt32 := do
  match parse args with
  | .ok i => Main.run i
  | .error .help =>
    (← IO.getStdout).putStrLn helpText
    return 0
  | .error .usage =>
    (← IO.getStderr).putStrLn helpText
    return usageCode.toUInt32
