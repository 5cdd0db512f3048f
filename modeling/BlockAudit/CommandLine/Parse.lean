import BlockAudit.CommandLine.Options
import BlockAudit.Number.Numeral
import BlockAudit.Severity
/-!
Parsing of the command line. Words are looked at from left to right; the first that asks for help or is
wrong decides, and words left over at the end are wrong too.
-/

namespace BlockAudit.CommandLine

inductive Stop where
  | help
  | usage
deriving DecidableEq

structure Settings where
  verbose : Bool
  checks : List String
  config : Option String
  exclude : List String
  minimumSeverity : Option Severity
  workers : Option Int
  output : Option String

inductive Command where
  | help
  | scan (target : String) (settings : Settings)
  | validate (paths : List String)

structure Invocation where
  verbose : Bool
  command : Command

namespace Settings

def initial : Settings := ⟨false, [], none, [], none, none, none⟩

def set (s : Settings) (value : String) : Choice → Except Stop Settings
  | .help => .error .help
  | .verbose => .ok { s with verbose := true }
  | .checks => .ok { s with checks := s.checks ++ [value] }
  | .config => .ok { s with config := some value }
  | .exclude => .ok { s with exclude := s.exclude ++ [value] }
  | .minimumSeverity =>
    match Severity.ofName? value with
    | some severity => .ok { s with minimumSeverity := some severity }
    | none => .error .usage
  | .workers =>
    match Number.integer? value.toList with
    | some n => .ok { s with workers := some n }
    | none => .error .usage
  | .format => if value = "json" then .ok s else .error .usage
  | .output => .ok { s with output := some value }

def setAll (s : Settings) (value : String) : List Choice → Except Stop Settings
  | [] => .ok s
  | c :: cs => do (← s.set value c).setAll value cs

end Settings

/-- Options that stand together after one hyphen, with the value of the last one if it is there. -/
structure Cluster where
  choices : List Choice
  value : Option (List Char)
  leftOver : Bool

namespace Cluster

def isOpen (c : Cluster) : Bool :=
  (c.choices.getLast?.map Choice.takesValue).getD false && c.value.isNone

def single (c : Choice) (value : Option (List Char)) : Cluster := ⟨[c], value, false⟩

def add (c : Choice) (rest : Cluster) : Cluster := { rest with choices := c :: rest.choices }

def assigned (c : Choice) (value : List Char) : Except Stop Cluster :=
  if c.takesValue then .ok (single c (some value)) else .error .usage

def joined (options : List (String × Choice)) (c : Choice) : List Char → Except Stop Cluster
  | [] => .ok (single c none)
  | x :: s =>
    if c.takesValue then .ok (single c (some (x :: s)))
    else if x = '-' then .error .usage
    else match named options ['-', x], s with
      | none, _ => .ok ⟨[c], none, true⟩
      | some d, '=' :: value => (assigned d value).map (add c)
      | some d, s => (joined options d s).map (add c)

def ofWord (options : List (String × Choice)) (c : Choice) : Tail → Except Stop Cluster
  | .nothing => .ok (single c none)
  | .joined text => joined options c text
  | .assigned value => assigned c value

end Cluster

inductive Arity where
  | atMostOne
  | atLeastOne

structure Progress where
  settings : Settings
  operands : Option (List String)
  leftOver : Bool

def Progress.initial : Progress := ⟨.initial, none, false⟩

def Word.plain? : Word → Option String
  | plain text => some text
  | _ => none

def Word.isOperand : Word → Bool
  | plain _ => true
  | separator => true
  | _ => false

def operandsOf (arity : Arity) (run : List Word) : List String × Bool :=
  match arity, run with
  | .atMostOne, [.separator] => ([], true)
  | .atMostOne, .separator :: .plain text :: rest => ([text], rest.isEmpty)
  | .atMostOne, .plain text :: .separator :: rest => ([text], rest.isEmpty)
  | .atMostOne, .plain text :: rest => ([text], rest.isEmpty)
  | .atMostOne, _ => ([], false)
  | .atLeastOne, _ =>
    let texts := run.filterMap Word.plain?
    (texts, !texts.isEmpty)

def Progress.take (p : Progress) (arity : Arity) (run : List Word) : Progress :=
  match p.operands with
  | some _ => { p with leftOver := true }
  | none =>
    let (texts, complete) := operandsOf arity run
    { p with operands := some texts, leftOver := p.leftOver || !complete }

def Progress.setAll (p : Progress) (c : Cluster) (value : List Char) : Except Stop Progress :=
  (p.settings.setAll (String.ofList value) c.choices).map fun s =>
    { p with settings := s, leftOver := p.leftOver || c.leftOver }

def parseWords (options : List (String × Choice)) (arity : Arity) :
    Progress → List Word → Except Stop Progress
  | p, [] => .ok p
  | p, .unknown :: ws => parseWords options arity { p with leftOver := true } ws
  | p, .choice c tail :: ws => do
    let found ← Cluster.ofWord options c tail
    if found.isOpen then
      match ws with
      | .plain text :: ws => do
        let p ← p.setAll found text.toList
        parseWords options arity p ws
      | _ => throw .usage
    else
      let p ← p.setAll found (found.value.getD [])
      parseWords options arity p ws
  | p, w :: ws =>
    let p := p.take arity (w :: ws.takeWhile Word.isOperand)
    parseWords options arity p (ws.dropWhile Word.isOperand)
termination_by _ ws => ws.length
decreasing_by
  · exact Nat.lt_succ_self _
  · exact Nat.lt_succ_of_lt (Nat.lt_succ_self _)
  · exact Nat.lt_succ_self _
  · exact Nat.lt_succ_of_le (List.dropWhile_sublist _).length_le

def parseCommand (options : List (String × Choice)) (arity : Arity) (texts : List String) :
    Except Stop (Settings × List String) := do
  let some words := wordsOf? options texts | throw .usage
  let p ← parseWords options arity .initial words
  if p.leftOver then throw .usage
  return (p.settings, p.operands.getD [])

def commandOf (name : String) (texts : List String) : Except Stop Invocation :=
  match name with
  | "scan" => do
    let (settings, operands) ← parseCommand Choice.forScan .atMostOne texts
    return ⟨settings.verbose, .scan (operands.head?.getD ".") settings⟩
  | "validate" => do
    let (settings, operands) ← parseCommand Choice.common .atLeastOne texts
    if operands.isEmpty then throw .usage
    return ⟨settings.verbose, .validate operands⟩
  | _ => throw .usage

/-- Options before the command; the words after it belong to the command. -/
def parseBefore (settings : Settings) (leftOver : Bool) :
    List (Word × String) → Except Stop Invocation
  | [] => if leftOver then .error .usage else .ok ⟨settings.verbose, .help⟩
  | (.unknown, _) :: ws => parseBefore settings true ws
  | (.separator, _) :: _ => .error .usage
  | (.plain name, _) :: ws => do
    let invocation ← commandOf name (ws.map (·.2))
    if leftOver then throw .usage
    return { invocation with verbose := settings.verbose || invocation.verbose }
  | (.choice c tail, _) :: ws => do
    let found ← Cluster.ofWord Choice.common c tail
    let settings ← settings.setAll "" found.choices
    parseBefore settings (leftOver || found.leftOver) ws

def parse (texts : List String) : Except Stop Invocation :=
  match wordsOf? Choice.common texts with
  | some words => parseBefore .initial false (words.zip texts)
  | none => .error .usage

end BlockAudit.CommandLine
