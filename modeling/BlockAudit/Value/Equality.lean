import BlockAudit.Value.Basic
/-!
Equality of values. Numbers are compared by what they are worth, truth values counting as 1 and 0;
mappings and sets are compared without regard to order.
-/

namespace BlockAudit.Value

open Number Calendar

def worth? : Value → Option Binary
  | bool b => some (.exact (if b then 1 else 0))
  | int n => some (.exact n)
  | float x => some x
  | _ => none

/-- Equality of scalars. Texts that are no numbers are told apart by their marks. -/
def sameScalar (a b : Value) : Bool :=
  match a, b with
  | null, null => true
  | str s, str t => s == t
  | bytes bs, bytes cs => bs == cs
  | date d, date e => d == e
  | moment t, moment u => t.same u
  | float (.nan i), float (.nan j) => i == j
  | a, b =>
    match worth? a, worth? b with
    | some x, some y => x.eq y
    | _, _ => false

def find? (key : Value) : List Entry → Option Value
  | [] => none
  | (k, v) :: es => if sameScalar key k then some v else find? key es

def insert (key value : Value) : List Entry → List Entry
  | [] => [(key, value)]
  | (k, v) :: es => if sameScalar key k then (k, value) :: es else (k, v) :: insert key value es

def sameMembers (ms ns : List Atom) : Bool :=
  ms.all fun m => ns.any fun n => sameScalar m.value n.value

def ofEntries (es : List Entry) : List Entry := es.foldl (fun acc e => insert e.1 e.2 acc) []

mutual

def same : Value → Value → Bool
  | list vs, list ws => sameItems vs ws
  | pair v w, pair x y => same v x && same w y
  | map es, map fs => es.length == fs.length && sameEntries es fs
  | set ms, set ns => sameMembers ms ns && sameMembers ns ms
  | a, b => sameScalar a b

def sameItems : List Value → List Value → Bool
  | [], [] => true
  | v :: vs, w :: ws => same v w && sameItems vs ws
  | _, _ => false

def sameEntries : List Entry → List Entry → Bool
  | [], _ => true
  | (k, v) :: es, fs =>
    (match find? k fs with
      | some w => same v w
      | none => false) && sameEntries es fs

end

/-- What is not a number differs from everything, also from itself. -/
def equal : Value → Value → Bool
  | float (.nan _), _ => false
  | _, float (.nan _) => false
  | a, b => same a b

end BlockAudit.Value
