import BlockAudit.Pattern.Syntax

namespace BlockAudit.Pattern

structure Width where
  low : Nat
  high : Nat
deriving DecidableEq

namespace Width

def unlimited : Nat := Nat.pow 2 64

def zero : Width := ⟨0, 0⟩

def one : Width := ⟨1, 1⟩

def add (v w : Width) : Width := ⟨min (v.low + w.low) unlimited, min (v.high + w.high) unlimited⟩

def either (v w : Width) : Width := ⟨min v.low w.low, max v.high w.high⟩

def times (least : Nat) (most : Option Nat) (w : Width) : Width where
  low := min (w.low * least) unlimited
  high := match most with
    | some n => min (w.high * n) unlimited
    | none => if w.high = 0 then 0 else unlimited

end Width

mutual

def Node.width (known : Nat → Width) : Node → Width
  | .literal _ _ => .one
  | .any _ => .one
  | .oneOf _ _ _ => .one
  | .anchor _ => .zero
  | .group _ c => choiceWidth known c
  | .atomic c => choiceWidth known c
  | .loop _ least most item => (item.width known).times least most
  | .look _ _ _ => .zero
  | .backref n _ => known n
  | .conditional _ yes no => (sequenceWidth known yes).either (sequenceWidth known no)

def sequenceWidth (known : Nat → Width) : List Node → Width
  | [] => .zero
  | n :: ns => (n.width known).add (sequenceWidth known ns)

def choiceWidth (known : Nat → Width) : List (List Node) → Width
  | [] => .zero
  | [ns] => sequenceWidth known ns
  | ns :: c => (sequenceWidth known ns).either (choiceWidth known c)

end

end BlockAudit.Pattern
