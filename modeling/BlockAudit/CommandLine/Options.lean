import BlockAudit.Text.Digit

namespace BlockAudit.CommandLine

inductive Choice where
  | help
  | verbose
  | checks
  | config
  | exclude
  | minimumSeverity
  | workers
  | format
  | output
deriving DecidableEq

namespace Choice

def takesValue : Choice → Bool
  | help => false
  | verbose => false
  | _ => true

def common : List (String × Choice) :=
  [("-h", help), ("--help", help), ("--verbose", verbose), ("-v", verbose)]

def forScan : List (String × Choice) :=
  common ++
    [("--checks", checks), ("--config", config), ("--exclude", exclude), ("-e", exclude),
     ("--minimum-severity", minimumSeverity), ("--workers", workers), ("--format", format),
     ("--out", output), ("--output", output)]

end Choice

/-- What follows an option in its own word. -/
inductive Tail where
  | nothing
  | joined (text : List Char)
  | assigned (text : List Char)

inductive Word where
  | plain (text : String)
  | separator
  | choice (c : Choice) (tail : Tail)
  | unknown

def isNegativeNumber : List Char → Bool
  | '-' :: s =>
    let t := if s.getLast? = some '\n' then s.dropLast else s
    match t.span Text.isDecimal with
    | (digits, []) => !digits.isEmpty
    | (_, '.' :: places) => !places.isEmpty && places.all Text.isDecimal
    | _ => false
  | _ => false

def splitValue (s : List Char) : List Char × Tail :=
  match s.span (· != '=') with
  | (word, _ :: value) => (word, .assigned value)
  | (word, []) => (word, .nothing)

def named (options : List (String × Choice)) (word : List Char) : Option Choice :=
  options.lookup (String.ofList word)

def candidates (options : List (String × Choice)) (s : List Char) : List Word :=
  match s with
  | '-' :: '-' :: _ =>
    let (stem, tail) := splitValue s
    options.filterMap fun (word, c) =>
      if stem.isPrefixOf word.toList then some (.choice c tail) else none
  | '-' :: x :: text => ((named options ['-', x]).map fun c => Word.choice c (.joined text)).toList
  | _ => []

/-- What a word before the separator is; nothing if it abbreviates several options. -/
def wordOf? (options : List (String × Choice)) (text : String) : Option Word :=
  let s := text.toList
  match s with
  | '-' :: _ :: _ =>
    match named options s with
    | some c => some (.choice c .nothing)
    | none =>
      let (word, tail) := splitValue s
      match named options word with
      | some c => some (.choice c tail)
      | none =>
        match candidates options s with
        | [w] => some w
        | [] => some (if isNegativeNumber s || s.contains ' ' then .plain text else .unknown)
        | _ => none
  | _ => some (.plain text)

def wordsOf? (options : List (String × Choice)) : List String → Option (List Word)
  | [] => some []
  | text :: texts =>
    if text = "--" then some (.separator :: texts.map .plain)
    else do
      let word ← wordOf? options text
      let words ← wordsOf? options texts
      return word :: words

end BlockAudit.CommandLine
