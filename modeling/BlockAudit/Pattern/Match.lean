import BlockAudit.Pattern.Syntax
import BlockAudit.Text.Blank
import BlockAudit.Text.Case
import BlockAudit.Text.Digit
import BlockAudit.Text.Word
/-!
Matching by trying the alternatives in order. A node is given what is to follow it, and backs up when
that fails.
-/

namespace BlockAudit.Pattern

open Text

/-- A place in a text, with the positions where groups began and ended; `before` is reversed. -/
structure Place where
  position : Nat
  before : List Char
  after : List Char
  begins : List (Nat × Nat)
  ends : List (Nat × Nat)

abbrev Rest := Place → Option Place

namespace CharClass

def holds (k : CharClass) (c : Char) : Bool :=
  let ascii := c.toNat < 0x80
  let inClass := match k.name with
    | .digit => isDecimal c && (ascii || !k.ascii)
    | .space => isBlank c && (if k.ascii then ascii && !(0x1C ≤ c.toNat && c.toNat ≤ 0x1F) else true)
    | .word => isWord c && (ascii || !k.ascii)
  inClass != k.negated

end CharClass

def variants : CaseRule → Nat → List Nat
  | .exact, n => [n]
  | .anyCase, n => caseVariants n
  | .anyAsciiCase, n => asciiCaseVariants n

def SetItem.holds (rule : CaseRule) (c : Char) : SetItem → Bool
  | .range low high => (variants rule c.toNat).any fun n => low ≤ n && n ≤ high
  | .charClass k => k.holds c

def isWordIn (ascii : Bool) (c : Char) : Bool := isWord c && (c.toNat < 0x80 || !ascii)

namespace Place

def start (s : List Char) : Place := ⟨0, [], s, [], []⟩

def step (test : Char → Bool) (p : Place) (k : Rest) : Option Place :=
  match p.after with
  | c :: s => if test c then k { p with position := p.position + 1, before := c :: p.before, after := s }
    else none
  | [] => none

def back : Nat → Place → Option Place
  | 0, p => some p
  | n + 1, p =>
    match p.before with
    | c :: s => back n { p with position := p.position - 1, before := s, after := c :: p.after }
    | [] => none

/-- In an empty text there is no place between words nor one that is not. -/
def wordBoundary? (ascii : Bool) (p : Place) : Option Bool :=
  if p.before.isEmpty && p.after.isEmpty then none
  else some (p.before.head?.any (isWordIn ascii) != p.after.head?.any (isWordIn ascii))

def isAt (p : Place) : Anchor → Bool
  | .textStart => p.before.isEmpty
  | .lineStart => p.before.isEmpty || p.before.head? == some '\n'
  | .textEnd => p.after.isEmpty
  | .lastLineEnd => p.after.isEmpty || p.after == ['\n']
  | .lineEnd => p.after.isEmpty || p.after.head? == some '\n'
  | .wordBoundary ascii => p.wordBoundary? ascii == some true
  | .noWordBoundary ascii => p.wordBoundary? ascii == some false

def beginGroup (n : Option Nat) (p : Place) : Place :=
  match n with
  | some n => { p with begins := (n, p.position) :: p.begins }
  | none => p

def endGroup (n : Option Nat) (p : Place) : Place :=
  match n with
  | some n => { p with ends := (n, p.position) :: p.ends }
  | none => p

/-- Where a group was found. A group that has begun anew after it ended is not found. -/
def span? (n : Nat) (p : Place) : Option (Nat × Nat) :=
  match p.begins.lookup n, p.ends.lookup n with
  | some b, some e => if b ≤ e then some (b, e) else none
  | _, _ => none

def captured? (n : Nat) (p : Place) : Option (List Char) :=
  (p.span? n).map fun (b, e) => ((p.before.reverse ++ p.after).drop b).take (e - b)

def withGroupsOf (p q : Place) : Place := { p with begins := q.begins, ends := q.ends }

end Place

def sameLetter : CaseRule → Char → Char → Bool
  | .exact, c, d => c == d
  | .anyCase, c, d => toSmall c.toNat == toSmall d.toNat
  | .anyAsciiCase, c, d => toSmallAscii c.toNat == toSmallAscii d.toNat

def matchText (rule : CaseRule) : List Char → Place → Rest → Option Place
  | [], p, k => k p
  | c :: s, p, k => p.step (sameLetter rule c) fun q => matchText rule s q k

def orElse (first : Option Place) (second : Unit → Option Place) : Option Place :=
  match first with
  | some p => some p
  | none => second ()

/-- Whether another round is allowed. A round that starts where the last one did leads nowhere. -/
def mayGoOn (most : Option Nat) (count : Nat) (last : Option Nat) (p : Place) : Bool :=
  (match most with
    | some n => count < n
    | none => true) && last != some p.position

def greedyLoop (body : Place → Rest → Option Place) (least : Nat) (most : Option Nat) :
    Nat → Nat → Option Nat → Place → Rest → Option Place
  | 0, _, _, _, _ => none
  | fuel + 1, count, last, p, k =>
    if count < least then
      body p fun q => greedyLoop body least most fuel (count + 1) last q k
    else if mayGoOn most count last p then
      orElse (body p fun q => greedyLoop body least most fuel (count + 1) (some p.position) q k)
        fun _ => k p
    else k p

def lazyLoop (body : Place → Rest → Option Place) (least : Nat) (most : Option Nat) :
    Nat → Nat → Option Nat → Place → Rest → Option Place
  | 0, _, _, _, _ => none
  | fuel + 1, count, last, p, k =>
    if count < least then
      body p fun q => lazyLoop body least most fuel (count + 1) last q k
    else
      orElse (k p) fun _ =>
        if mayGoOn most count last p then
          body p fun q => lazyLoop body least most fuel (count + 1) (some p.position) q k
        else none

def possessiveLoop (body : Place → Rest → Option Place) (least : Nat) (most : Option Nat) :
    Nat → Nat → Option Nat → Place → Option Place
  | 0, _, _, _ => none
  | fuel + 1, count, last, p =>
    if count < least then
      (body p some).bind fun q => possessiveLoop body least most fuel (count + 1) last q
    else if mayGoOn most count last p then
      match body p some with
      | some q => possessiveLoop body least most fuel (count + 1) (some p.position) q
      | none => some p
    else some p

/-- Beyond the required rounds each round but the last passes over a character. -/
def loopFuel (least : Nat) (p : Place) : Nat := least + p.after.length + 3

mutual

def Node.match? : Node → Place → Rest → Option Place
  | .literal code rule, p, k => p.step (fun c => (variants rule c.toNat).contains code) k
  | .any lineFeeds, p, k => p.step (fun c => lineFeeds || c != '\n') k
  | .oneOf negated items rule, p, k => p.step (fun c => items.any (·.holds rule c) != negated) k
  | .anchor a, p, k => if p.isAt a then k p else none
  | .group n c, p, k => choiceMatch? c (p.beginGroup n) fun q => k (q.endGroup n)
  | .atomic c, p, k => (choiceMatch? c p some).bind k
  | .loop .greedy least most n, p, k => greedyLoop n.match? least most (loopFuel least p) 0 none p k
  | .loop .lazy least most n, p, k => lazyLoop n.match? least most (loopFuel least p) 0 none p k
  | .loop .possessive least most n, p, k =>
    (possessiveLoop n.match? least most (loopFuel least p) 0 none p).bind k
  | .look back negated c, p, k =>
    match (p.back (back.getD 0)).bind fun q => choiceMatch? c q some with
    | some q => if negated then none else k (p.withGroupsOf q)
    | none => if negated then k p else none
  | .backref n rule, p, k =>
    match p.captured? n with
    | some s => matchText rule s p k
    | none => none
  | .conditional n yes no, p, k =>
    if (p.span? n).isSome then sequenceMatch? yes p k else sequenceMatch? no p k

def sequenceMatch? : List Node → Place → Rest → Option Place
  | [], p, k => k p
  | n :: ns, p, k => n.match? p fun q => sequenceMatch? ns q k

def choiceMatch? : List (List Node) → Place → Rest → Option Place
  | [], _, _ => none
  | ns :: c, p, k => orElse (sequenceMatch? ns p k) fun _ => choiceMatch? c p k

end

def firstSet? : List Node → Option (Bool × List SetItem)
  | .oneOf negated items rule :: _ =>
    if rule = .exact || items.all (· matches .charClass _) then some (negated, items) else none
  | .group _ [ns] :: _ => firstSet? ns
  | _ => none

/-- Classes at the very beginning are looked up in the letter tables of the whole pattern as well as
in their own. -/
def mayBegin (p : Pattern) (c : Char) : Bool :=
  match p.choice with
  | [ns] =>
    match firstSet? ns with
    | some (negated, items) =>
      let holds : SetItem → Bool
        | .charClass k => { k with ascii := p.ascii : CharClass }.holds c
        | item => item.holds .exact c
      items.any holds != negated
    | none => true
  | _ => true

def foundFrom (p : Pattern) (before : List Char) (position : Nat) : List Char → Bool
  | [] => (choiceMatch? p.choice ⟨position, before, [], [], []⟩ some).isSome
  | c :: s =>
    (mayBegin p c && (choiceMatch? p.choice ⟨position, before, c :: s, [], []⟩ some).isSome) ||
      foundFrom p (c :: before) (position + 1) s

def found (p : Pattern) (s : List Char) : Bool := foundFrom p [] 0 s

end BlockAudit.Pattern
