import BlockAudit.Value.Equality
import BlockAudit.Yaml.Scalar
import BlockAudit.Yaml.Token

namespace BlockAudit.Yaml

mutual

inductive Spells : Value → List TokenKind → Prop
  | word {text : String} {v : Value} : Scalar.value? (Look.tag text) text = some (.ok v) →
      Spells v [.scalar text true]
  | text {s : String} : Spells (.str s) [.scalar s false]
  | noItems : Spells (.list []) [.flowSequenceStart, .flowSequenceEnd]
  | noEntries : Spells (.map []) [.flowMappingStart, .flowMappingEnd]
  | list {vs : List Value} {ks : List TokenKind} : SpellsItems vs ks →
      Spells (.list vs) (.flowSequenceStart :: ks)
  | map {es : List Entry} {ks : List TokenKind} : SpellsEntries es ks →
      Spells (.map (Value.ofEntries es)) (.flowMappingStart :: ks)

inductive SpellsItems : List Value → List TokenKind → Prop
  | last {v : Value} {ks : List TokenKind} : Spells v ks →
      SpellsItems [v] (ks ++ [.flowSequenceEnd])
  | cons {v : Value} {vs : List Value} {ks ls : List TokenKind} : Spells v ks →
      SpellsItems vs ls → SpellsItems (v :: vs) (ks ++ .flowEntry :: ls)

/-- Entries up to the brace. A key without the sign before it is no key, but spelled so if it is far from
its colon. -/
inductive SpellsEntries : List Entry → List TokenKind → Prop
  | last {key : String} {v : Value} {sign ks : List TokenKind} : sign = [] ∨ sign = [.key] →
      Spells v ks → SpellsEntries [(.str key, v)]
        (sign ++ .scalar key false :: .value :: (ks ++ [.flowMappingEnd]))
  | cons {key : String} {v : Value} {es : List Entry} {sign ks ls : List TokenKind} :
      sign = [] ∨ sign = [.key] → Spells v ks → SpellsEntries es ls →
      SpellsEntries ((.str key, v) :: es)
        (sign ++ .scalar key false :: .value :: (ks ++ .flowEntry :: ls))

end

end BlockAudit.Yaml
