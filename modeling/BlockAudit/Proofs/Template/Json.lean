import BlockAudit.Proofs.Json.LineEnds
import BlockAudit.Proofs.Value.Strip
import BlockAudit.Proofs.Yaml.Json
import BlockAudit.Template.Read

namespace BlockAudit

namespace Value

theorem dropLinesOfEntries_eq {es : List Entry} (h : ∀ e ∈ es, isLineKey e.1 = false) :
    dropLinesOfEntries es = es.map fun e => (e.1, e.2.dropLines) := by
  induction es with
  | nil => rfl
  | cons e es ih =>
    obtain ⟨hkey, hes⟩ := List.forall_mem_cons.mp h
    rw [dropLinesOfEntries, hkey, ih hes]
    rfl

theorem isLineKey_of_not_isMarkerKey {k : Value} (h : isMarkerKey k = false) :
    isLineKey k = false := by
  cases k with
  | str s =>
    apply Bool.eq_false_iff.mpr
    intro hline
    simp only [isLineKey, Bool.or_eq_true, decide_eq_true_eq] at hline
    rcases hline with rfl | rfl <;> cases h
  | _ => rfl

theorem dropLines_of_markerFree {v : Value} (h : v.markerFree = true) : v.dropLines = v := by
  induction v with
  | leaf v hleaf => exact dropLines_leaf hleaf
  | list vs ih =>
    have hitems := (everyPart_list.mp h).2
    rw [dropLines_list, List.map_congr_left fun v hv => ih v hv (hitems v hv), List.map_id']
  | pair v w ihv ihw =>
    obtain ⟨-, hv, hw⟩ := everyPart_pair.mp h
    rw [dropLines, ihv hv, ihw hw]
  | map es ih =>
    obtain ⟨hkeys, hentries⟩ := markerFree_map.mp h
    have hsame : es.map (fun e => (e.1, e.2.dropLines)) = es.map id :=
      List.map_congr_left fun e he => Prod.ext rfl (ih e he (hentries e he))
    rw [dropLines, dropLinesOfEntries_eq fun e he => isLineKey_of_not_isMarkerKey (hkeys e he),
      hsame, List.map_id]

theorem exists_map_of_dropLines {v : Value} {es : List Entry} (h : v.dropLines = .map es) :
    ∃ es', v = .map es' := by
  cases v <;> first | exact ⟨_, rfl⟩ | simp [dropLines] at h

end Value

namespace Template

open Text

theorem textOf_toUTF8 (s : String) : FileTree.textOf s.toUTF8 = .ok (unifyLineEnds s.toList) := by
  have hdecoded : String.fromUTF8? s.toUTF8 = some s := by
    rw [String.fromUTF8?, String.toUTF8_eq_toByteArray, dif_pos s.isValidUTF8]
    rfl
  simp only [FileTree.textOf, hdecoded]

theorem text?_of_file {t : FileTree} {p : Path} {s : String} (h : t.reached p = .file s.toUTF8) :
    t.text? p = .ok (some (unifyLineEnds s.toList)) := by
  rw [FileTree.text?, h]
  dsimp only
  rw [textOf_toUTF8]
  rfl

theorem readDocument_of_json (path : String) {s : List Char} {v : Value}
    (h : Json.read? s = some v)
    (hread : Yaml.UnlessMalformed (fun w => w.dropLines = v.dropLines) (Yaml.read true s)) :
    ∃ w, readDocument path s = .ok w ∧ w.dropLines = v.dropLines := by
  unfold readDocument
  cases hr : Yaml.read true s with
  | ok w =>
    rw [hr] at hread
    exact ⟨w, rfl, hread⟩
  | error f =>
    rw [hr] at hread
    cases hread
    rw [h]
    exact ⟨v, rfl, rfl⟩

/-- A file that holds a mapping in JSON is read as that mapping but for the lines, if the text is portable
or is malformed as a document. -/
theorem ofFile_agrees (t : FileTree) (p : Path) (s : String) (es : List Entry)
    (hfile : t.reached p = .file s.toUTF8) (hjson : Json.read? s.toList = some (.map es))
    (hkeys : (Value.map es).markerFree = true)
    (hportable : Json.isPortable (unifyLineEnds s.toList) = true ∨
      Yaml.read true (unifyLineEnds s.toList) = .error .malformedDocument) :
    ∃ es', ofFile t p = .ok (some es') ∧ (Value.map es').dropLines = .map es := by
  -- both readers get the text with its line ends unified
  have hread := Json.read?_unifyLineEnds hjson
  have hleads : Yaml.UnlessMalformed (fun w => w.dropLines = (Value.map es).dropLines)
      (Yaml.read true (unifyLineEnds s.toList)) := by
    rcases hportable with hportable | hmalformed
    · exact Yaml.read_leads hread hportable
    · rw [hmalformed]
      rfl
  obtain ⟨w, hw, hlines⟩ := readDocument_of_json p.text hread hleads
  rw [Value.dropLines_of_markerFree hkeys] at hlines
  obtain ⟨es', rfl⟩ := Value.exists_map_of_dropLines hlines
  refine ⟨es', ?_, hlines⟩
  rw [ofFile, text?_of_file hfile]
  dsimp only
  rw [read, hw]
  rfl

def oneFile (s : String) : FileTree := ⟨["w"], [(["w", "main.tf.json"], .file s.toUTF8)]⟩

theorem reached_oneFile (s : String) : (oneFile s).reached ⟨"", ["main.tf.json"]⟩ = .file s.toUTF8 :=
  rfl

def bareEntries? (s : String) : Option (List Entry) :=
  match Json.read? s.toList with
  | some (.map es) => if (Value.map es).markerFree then some es else none
  | _ => none

theorem of_bareEntries? {s : String} {es : List Entry} (h : bareEntries? s = some es) :
    Json.read? s.toList = some (.map es) ∧ (Value.map es).markerFree = true := by
  unfold bareEntries? at h
  split at h
  · next fs hread =>
    split at h
    · next hfree =>
      cases h
      exact ⟨hread, hfree⟩
    · cases h
  · cases h

def portableText : String :=
  "\x7b\r\n  \"cost\": -1.5e+3,\r\n  \"tags\": [\"caf\\u00e9\", null, \x7b\x7d]\r\n\x7d\r\n"

theorem ofFile_agrees_portable : ∃ es es',
    Json.read? portableText.toList = some (.map es) ∧
      ofFile (oneFile portableText) ⟨"", ["main.tf.json"]⟩ = .ok (some es') ∧
      (Value.map es').dropLines = .map es := by
  have hsome : (bareEntries? portableText).isSome = true := by decide +kernel
  obtain ⟨es, hes⟩ := Option.isSome_iff_exists.mp hsome
  obtain ⟨hjson, hkeys⟩ := of_bareEntries? hes
  have hportable : Json.isPortable (unifyLineEnds portableText.toList) = true := by decide +kernel
  obtain ⟨es', hread, hlines⟩ := ofFile_agrees (oneFile portableText) ⟨"", ["main.tf.json"]⟩
    portableText es (reached_oneFile _) hjson hkeys (Or.inl hportable)
  exact ⟨es, es', hjson, hread, hlines⟩

def powerText : String := "\x7b\"a\": 1e5\x7d\n"

def firstText? : List Entry → Option String
  | [] => none
  | (k, v) :: _ => if Value.isLineKey k then none else v.text?

theorem firstText?_dropLines {es : List Entry} {text : String} (h : firstText? es = some text) :
    firstText? (Value.dropLinesOfEntries es) = some text := by
  cases es with
  | nil => cases h
  | cons e es =>
    obtain ⟨k, v⟩ := e
    rw [firstText?] at h
    split at h
    · cases h
    · next hkey =>
      rw [Value.dropLinesOfEntries, if_neg hkey, firstText?, if_neg hkey]
      cases v <;> exact h

/-- Read as a document, the number is a text. -/
theorem ofFile_not_agrees_power : ∃ es,
    Json.read? powerText.toList = some (.map es) ∧ (Value.map es).markerFree = true ∧
      ¬∃ es', ofFile (oneFile powerText) ⟨"", ["main.tf.json"]⟩ = .ok (some es') ∧
        (Value.map es').dropLines = .map es := by
  have hsome : (bareEntries? powerText).isSome = true := by decide +kernel
  obtain ⟨es, hes⟩ := Option.isSome_iff_exists.mp hsome
  obtain ⟨hjson, hkeys⟩ := of_bareEntries? hes
  refine ⟨es, hjson, hkeys, ?_⟩
  rintro ⟨es', hread, hlines⟩
  have hnumber : (bareEntries? powerText).bind firstText? = none := by decide +kernel
  have htext : (ofFile (oneFile powerText) ⟨"", ["main.tf.json"]⟩).toOption.bind
      (·.bind firstText?) = some "1e5" := by decide +kernel
  rw [hread] at htext
  rw [hes, Option.bind_some] at hnumber
  rw [Value.dropLines, Value.map.injEq] at hlines
  have hfirst := firstText?_dropLines htext
  rw [hlines, hnumber] at hfirst
  cases hfirst

end Template
end BlockAudit
