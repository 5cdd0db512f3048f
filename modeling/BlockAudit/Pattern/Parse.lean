import BlockAudit.Pattern.Reader
/-!
Reading a pattern. Errors are reported in the order in which the pattern is read; what can be told
only from the complete pattern comes last.
-/

namespace BlockAudit.Pattern

open Text

namespace Reader

def setItem (ascii : Bool) (t : Token) : Reader SetItem :=
  match t with
  | .escape c => setEscape ascii c
  | .plain c => return .range c.toNat c.toNat
  | .dangling => fail "backslash at the end"

def setRange : SetItem → SetItem → Reader SetItem
  | .range a _, .range b _ => if b < a then fail "bad character range" else return .range a b
  | _, _ => fail "bad character range"

def setItems (ascii : Bool) : Nat → Bool → Reader (List SetItem)
  | 0, _ => fail "unterminated character set"
  | n + 1, isFirst => do
    match ← next with
    | none => fail "unterminated character set"
    | some t =>
      if t = .plain ']' && !isFirst then return []
      let item ← setItem ascii t
      if ← accept '-' then
        match ← next with
        | none => fail "unterminated character set"
        | some u =>
          if u = .plain ']' then return [item, .range 45 45]
          let range ← setRange item (← setItem ascii u)
          return range :: (← setItems ascii n false)
      return item :: (← setItems ascii n false)

def characterSet (o : Options) : Reader Node := do
  let negated ← accept '^'
  return .oneOf negated (← setItems o.ascii ((← get).rest.length + 1) true) o.rule

def repeatLimit : Nat := 4294967295

def braces : Reader (Option (Nat × Option Nat)) := do
  if (← peek) = some (.plain '\x7d') then return none
  let saved ← get
  let low ← takeWhile isAsciiDigit saved.rest.length
  let high ← if ← accept ',' then takeWhile isAsciiDigit saved.rest.length else pure low
  if !(← accept '\x7d') then
    set saved
    return none
  let least := valueIn 10 low
  if least ≥ repeatLimit then throw .repeatTooLarge
  if high.isEmpty then return some (least, none)
  let most := valueIn 10 high
  if most ≥ repeatLimit then throw .repeatTooLarge
  if most < least then fail "least repetition above the most"
  return some (least, some most)

def counts : Char → Reader (Option (Nat × Option Nat))
  | '?' => return some (0, some 1)
  | '*' => return some (0, none)
  | '+' => return some (1, none)
  | _ => braces

def greedAfter : Reader Greed := do
  if ← accept '?' then return .lazy
  if ← accept '+' then return .possessive
  return .greedy

def loopOver (least : Nat) (most : Option Nat) : List Node → Reader (List Node)
  | [] => fail "nothing to repeat"
  | .anchor _ :: _ => fail "nothing to repeat"
  | .loop _ _ _ _ :: _ => fail "multiple repeat"
  | n :: ns => do
    let greed ← greedAfter
    modify fun st => { st with loops := true }
    return .loop greed least most n :: ns

inductive Flag where
  | ignoreCase
  | multiline
  | dotAll
  | verbose
  | ascii
  | unicode
  | template
deriving DecidableEq

def flag? : Char → Option Flag
  | 'i' => some .ignoreCase
  | 'm' => some .multiline
  | 's' => some .dotAll
  | 'x' => some .verbose
  | 'a' => some .ascii
  | 'u' => some .unicode
  | 't' => some .template
  | _ => none

def flagOf (t : Option Token) : Reader Flag := do
  match t with
  | some (.plain c) =>
    match flag? c with
    | some f => return f
    | none => fail "unknown flag"
  | _ => fail "unknown flag"

def flagsOn : Nat → Option Token → List Flag → Reader (List Flag × Char)
  | 0, _, _ => fail "missing flag"
  | n + 1, t, seen => do
    let f ← flagOf t
    let flags := f :: seen
    if flags.contains .ascii && flags.contains .unicode then fail "incompatible flags"
    match ← next with
    | some (.plain ')') => return (flags, ')')
    | some (.plain ':') => return (flags, ':')
    | some (.plain '-') => return (flags, '-')
    | u => flagsOn n u flags

def flagsOff : Nat → Option Token → List Flag → Reader (List Flag)
  | 0, _, _ => fail "missing flag"
  | n + 1, t, seen => do
    let f ← flagOf t
    if f = .ascii || f = .unicode then fail "flag cannot be turned off"
    match ← next with
    | some (.plain ':') => return f :: seen
    | u => flagsOff n u (f :: seen)

def switch (on : Bool) (o : Options) : Flag → Options
  | .ignoreCase => { o with ignoreCase := on }
  | .multiline => { o with multiline := on }
  | .dotAll => { o with dotAll := on }
  | .verbose => { o with verbose := on }
  | .ascii => { o with ascii := on }
  | .unicode => { o with ascii := !on }
  | .template => o

inductive Opening where
  | capture (name : Option (List Char))
  | plain (o : Options)
  | atomic
  | look (behind negated : Bool)
  | conditional (number : Nat)
  | node (n : Node)
  | comment
  | globalFlags (flags : List Flag)

def localFlags (o : Options) (on off : List Flag) : Reader Opening := do
  if on.contains .template || off.contains .template then fail "global flag in a group"
  if on.any off.contains then fail "flag turned on and off"
  return .plain (off.foldl (switch false) (on.foldl (switch true) o))

def flagsOpening (o : Options) (t : Token) : Reader Opening := do
  let fuel := (← get).rest.length + 1
  let (on, stop) ← if t = .plain '-' then pure ([], '-') else flagsOn fuel (some t) []
  if stop = ')' then return .globalFlags on
  if on.contains .template then fail "global flag in a group"
  let off ← if stop = '-' then flagsOff fuel (← next) [] else pure []
  localFlags o on off

def namedOpening (o : Options) : Reader Opening := do
  if ← accept '<' then return .capture (some (← groupName '>'))
  if ← accept '=' then
    match (← get).names.lookup (← groupName ')') with
    | some n =>
      checkClosed n
      return .node (.backref n o.rule)
    | none => fail "unknown group name"
  fail "unknown extension"

def groupLimit : Nat := 1073741823

def groupNumber (s : List Char) : Reader Nat := do
  if isIdentifier s then
    match (← get).names.lookup s with
    | some n => return n
    | none => fail "unknown group name"
  match Number.integer? s with
  | some (.ofNat n) =>
    if n = 0 then fail "bad group number"
    if n ≥ groupLimit then fail "invalid group reference"
    modify fun st => { st with lastConditional := max st.lastConditional n }
    return n
  | _ => fail "bad character in a group name"

def skipComment : Nat → Reader Unit
  | 0 => fail "unterminated comment"
  | n + 1 => do
    match ← peek with
    | none => fail "unterminated comment"
    | some t =>
      skip
      if t = .plain ')' then return ()
      skipComment n

def lookBehind : Reader Opening := do
  match ← next with
  | some (.plain '=') => return .look true false
  | some (.plain '!') => return .look true true
  | _ => fail "unknown extension"

def extension (o : Options) : Reader Opening := do
  match ← next with
  | some (.plain 'P') => namedOpening o
  | some (.plain ':') => return .plain o
  | some (.plain '#') =>
    skipComment ((← get).rest.length + 1)
    return .comment
  | some (.plain '=') => return .look false false
  | some (.plain '!') => return .look false true
  | some (.plain '<') => lookBehind
  | some (.plain '(') =>
    let n ← groupNumber (← name ')')
    checkBehind n
    return .conditional n
  | some (.plain '>') => return .atomic
  | some t =>
    match t with
    | .plain c =>
      if c = '-' || (flag? c).isSome then flagsOpening o t else fail "unknown extension"
    | _ => fail "unknown extension"
  | none => fail "unexpected end of the pattern"

def opening (o : Options) : Reader Opening := do
  if ← accept '?' then extension o else return .capture none

def openGroup (groupName : Option (List Char)) : Reader Nat := do
  let st ← get
  let n := st.groups
  match groupName with
  | none => set { st with groups := n + 1 }
  | some s =>
    if (st.names.lookup s).isSome then fail "redefinition of a group name"
    set { st with groups := n + 1, names := (s, n) :: st.names }
  return n

def knownWidth (widths : List (Nat × Width)) (n : Nat) : Width := (widths.lookup n).getD .zero

def closeGroup (n : Nat) (c : Choice) : Reader Unit :=
  modify fun st =>
    { st with widths := (n, choiceWidth (knownWidth st.widths) c) :: st.widths }

def closeParenthesis : Reader Unit := do
  if !(← accept ')') then fail "unterminated subpattern"

def failLate (reason : String) : Reader Unit :=
  modify fun st => { st with late := st.late <|> some reason }

def lookNode (behind negated : Bool) (c : Choice) : Reader Node := do
  if !behind then return .look none negated c
  let w := choiceWidth (knownWidth (← get).widths) c
  if w.low ≠ w.high || w.low > repeatLimit then failLate "look behind without a fixed width"
  return .look (some w.low) negated c

/-- Asking for both letter tables is noted here, not settled. -/
def addGlobal (flags : List Flag) : Reader Options := do
  modify fun st =>
    { st with
      options := (flags.filter (· ≠ .unicode)).foldl (switch true) st.options
      unicode := st.unicode || flags.contains .unicode
      template := st.template || flags.contains .template }
  return (← get).options

def skipLine : Nat → Reader Unit
  | 0 => return ()
  | n + 1 => do
    match ← next with
    | none => return ()
    | some t => if t = .plain '\n' then return () else skipLine n

def isVerboseBlank (c : Char) : Bool := c == ' ' || (9 ≤ c.toNat && c.toNat ≤ 13)

def isRepeat (c : Char) : Bool := c == '*' || c == '+' || c == '?' || c == '\x7b'

def simpleNode (o : Options) (c : Char) : Reader Node :=
  if c = '.' then return .any o.dotAll
  else if c = '^' then return .anchor (if o.multiline then .lineStart else .textStart)
  else if c = '$' then return .anchor (if o.multiline then .lineEnd else .lastLineEnd)
  else if c = '[' then characterSet o
  else return .literal c.toNat o.rule

inductive Depth where
  | first
  | top
  | nested
deriving DecidableEq

mutual

def choice : Nat → Options → Depth → Reader (List (List Node))
  | 0, _, _ => fail "nested too deep"
  | fuel + 1, o, depth => do
    let ns ← sequence fuel o depth []
    if ← accept '|' then
      let current := (← get).options
      let next := if depth = .nested then depth else .top
      return ns :: (← choice fuel (if depth = .nested then o else current) next)
    return [ns]

/-- The nodes up to a bar, a parenthesis or the end; `done` are those before, the last one first. -/
def sequence : Nat → Options → Depth → List Node → Reader (List Node)
  | 0, _, _, _ => fail "nested too deep"
  | fuel + 1, o, depth, done => do
    match ← peek with
    | none => return done.reverse
    | some .dangling => return done.reverse
    | some (.escape c) =>
      skip
      let n ← escape o c
      sequence fuel o depth (n :: done)
    | some (.plain c) =>
      if c = '|' || c = ')' then return done.reverse
      skip
      if o.verbose && isVerboseBlank c then sequence fuel o depth done
      else if o.verbose && c = '#' then
        skipLine (fuel + 1)
        sequence fuel o depth done
      else if isRepeat c then
        match ← counts c with
        | some (least, most) => sequence fuel o depth (← loopOver least most done)
        | none => sequence fuel o depth (.literal c.toNat o.rule :: done)
      else if c = '(' then
        match ← opening o with
        | .comment => sequence fuel o depth done
        | .globalFlags flags =>
          let current ← addGlobal flags
          if depth ≠ .first || !done.isEmpty then fail "global flags not at the start"
          sequence fuel current depth done
        | start =>
          let n ← parenthesis fuel o start
          sequence fuel o depth (n :: done)
      else
        let n ← simpleNode o c
        sequence fuel o depth (n :: done)

def parenthesis : Nat → Options → Opening → Reader Node
  | 0, _, _ => fail "nested too deep"
  | fuel + 1, o, start => do
    match start with
    | .capture groupName =>
      let n ← openGroup groupName
      let c ← choice fuel o .nested
      closeParenthesis
      closeGroup n c
      return .group (some n) c
    | .plain inner =>
      let c ← choice fuel inner .nested
      closeParenthesis
      return .group none c
    | .atomic =>
      let c ← choice fuel o .nested
      closeParenthesis
      return .atomic c
    | .look behind negated =>
      let before := (← get).behindFrom
      if behind then
        modify fun st => { st with behindFrom := before <|> some st.groups }
      let c ← choice fuel o .nested
      modify fun st => { st with behindFrom := before }
      closeParenthesis
      lookNode behind negated c
    | .conditional n =>
      let yes ← sequence fuel o .nested []
      let no ← if ← accept '|' then sequence fuel o .nested [] else pure []
      if (← peek) = some (.plain '|') then fail "conditional with more than two branches"
      closeParenthesis
      return .conditional n yes no
    | .node n => return n
    | .comment => fail "nothing in the parenthesis"
    | .globalFlags _ => fail "nothing in the parenthesis"

end

def pattern (fuel : Nat) : Reader Pattern := do
  checkRest
  let c ← choice fuel .none .first
  let st ← get
  if st.options.ascii && st.unicode then throw .clashingFlags
  if st.rest ≠ [] then fail "unbalanced parenthesis"
  if st.groups ≤ st.lastConditional then fail "invalid group reference"
  match st.late with
  | some reason => fail reason
  | none =>
    if st.template && st.loops then fail "loops in a template"
    return ⟨c, st.options.ascii⟩

end Reader

/-- A token leads to three steps of reading at most. -/
def parse (s : List Char) : Except PatternError Pattern :=
  ((Reader.pattern (3 * s.length + 8)).run (Reader.start s)).map (·.1)

end BlockAudit.Pattern

namespace BlockAudit.PatternError

def reason : PatternError → String
  | malformed r => r
  | repeatTooLarge => "repetition too large"
  | clashingFlags => "incompatible flags"

end BlockAudit.PatternError
