import BlockAudit.Text.Search
import BlockAudit.Yaml.Moment

namespace BlockAudit.Yaml

inductive Tag where
  | null
  | bool
  | int
  | float
  | binary
  | timestamp
  | omap
  | pairs
  | set
  | str
  | seq
  | map
  | merge
  | value
  | other
deriving DecidableEq

namespace Tag

def common : List (String × Tag) :=
  [("null", null), ("bool", bool), ("int", int), ("float", float), ("binary", binary),
   ("timestamp", timestamp), ("omap", omap), ("pairs", pairs), ("set", set), ("str", str),
   ("seq", seq), ("map", map), ("merge", merge), ("value", value)]

def isCollection : Tag → Bool
  | omap => true
  | pairs => true
  | set => true
  | seq => true
  | map => true
  | _ => false

def commonStem : String := "tag:yaml.org,2002:"

def ofName (name : String) : Tag :=
  ((common.find? fun (n, _) => commonStem ++ n == name).map (·.2)).getD other

end Tag

/-! The looks of numbers and words. Underscores in numbers do not count. -/

namespace Look

def isDigitOrBar (c : Char) : Bool := isDigit c || c == '_'

def unsigned : List Char → List Char
  | '+' :: s => s
  | '-' :: s => s
  | s => s

def someOf (p : Char → Bool) (s : List Char) : Bool := !s.isEmpty && s.all p

def isNumber (first : Char → Bool) : List Char → Bool
  | [] => false
  | c :: s => first c && s.all isDigitOrBar

def isNonzeroDigit (c : Char) : Bool := isDigit c && c != '0'

def isSixtieth : List Char → Bool
  | [c] => isDigit c
  | [c, d] => '0' ≤ c && c ≤ '5' && isDigit d
  | _ => false

def isSexagesimal (first : Char → Bool) (s : List Char) : Bool :=
  match Text.fields ':' s with
  | n :: part :: parts => isNumber first n && (part :: parts).all isSixtieth
  | _ => false

def isUnsignedInt (s : List Char) : Bool :=
  match s with
  | ['0'] => true
  | '0' :: 'b' :: t => someOf (fun c => c == '0' || c == '1' || c == '_') t
  | '0' :: 'x' :: t => someOf (fun c => isHexDigit c || c == '_') t
  | '0' :: t => someOf (fun c => ('0' ≤ c && c ≤ '7') || c == '_') t
  | _ => isNumber isNonzeroDigit s || isSexagesimal isNonzeroDigit s

def isInt (s : List Char) : Bool := isUnsignedInt (unsigned s)

def isExponent : List Char → Bool
  | [] => true
  | e :: sign :: digits =>
    (e == 'e' || e == 'E') && (sign == '+' || sign == '-') && someOf isDigit digits
  | _ => false

def isFraction (s : List Char) : Bool := isExponent (s.dropWhile isDigitOrBar)

def isPointed (s : List Char) : Bool :=
  match Text.fields '.' s with
  | [[], fraction] =>
    match fraction with
    | c :: t => isDigit c && isFraction t
    | [] => false
  | [whole, fraction] => isNumber isDigit whole && isFraction fraction
  | _ => false

def isPointedSexagesimal (s : List Char) : Bool :=
  match Text.fields '.' s with
  | [whole, fraction] => isSexagesimal isDigit whole && fraction.all isDigitOrBar
  | _ => false

def infinities : List String := [".inf", ".Inf", ".INF"]

def noNumbers : List String := [".nan", ".NaN", ".NAN"]

def isFloat (s : List Char) : Bool :=
  let t := unsigned s
  (isPointed t && (t.length == s.length || t.head? != some '.')) || isPointedSexagesimal t ||
    infinities.any (·.toList == t) || noNumbers.any (·.toList == s)

def truths : List String := ["yes", "Yes", "YES", "true", "True", "TRUE", "on", "On", "ON"]

def untruths : List String := ["no", "No", "NO", "false", "False", "FALSE", "off", "Off", "OFF"]

def nulls : List String := ["~", "null", "Null", "NULL", ""]

def isTimestamp (s : List Char) : Bool :=
  match WrittenMoment.read? s with
  | some m => m.padded || m.clock.isSome
  | none => false

def withoutLastFeed (s : List Char) : List Char := if s.getLast? = some '\n' then s.dropLast else s

def tag (text : String) : Tag :=
  let s := withoutLastFeed text.toList
  let word := String.ofList s
  if truths.contains word || untruths.contains word then .bool
  else if isFloat s then .float
  else if isInt s then .int
  else if word = "<<" then .merge
  else if nulls.contains word && (text.isEmpty || !word.isEmpty) then .null
  else if isTimestamp s then .timestamp
  else if word = "=" then .value
  else .str

end Look
end BlockAudit.Yaml
