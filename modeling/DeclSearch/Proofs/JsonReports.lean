/-
# JSON reports can be read back

The text of a report is read back as the value that it was written from (`Json.read?_render`).  The
recursion is on the value: a text or a number is read back where it stands, and an array or an
object is when its items are, since a line break or a comma stands behind every one of them.

So a JSON report says everything about the results that it shows (`Report.json_is_read_back`).
-/

import DeclSearch.Proofs.JsonReading
import DeclSearch.Proofs.PlainReports

namespace DeclSearch
namespace Text
namespace Json

/-- An item is smaller than its array. -/
theorem sizeOf_lt_array {v : Json} {items : List Json} (h : v ∈ items) :
    sizeOf v < sizeOf (array items) := by
  have hitem := List.sizeOf_lt_of_mem h
  rw [array.sizeOf_spec]
  omega

/-- The value of a field is smaller than its object. -/
theorem sizeOf_lt_object {field : String × Json} {fields : List (String × Json)}
    (h : field ∈ fields) : sizeOf field.2 < sizeOf (object fields) := by
  have hfield := List.sizeOf_lt_of_mem h
  rw [object.sizeOf_spec]
  rw [Prod.mk.sizeOf_spec] at hfield
  omega

/-- What a reader makes of a value. -/
def datum : Json → Datum
  | .text s => .text s
  | .number n => .number n 0
  | .array items => .array (items.map datum)
  | .object fields => .object (fields.map fun field => (field.1, datum field.2))
decreasing_by
  · exact sizeOf_lt_array ‹_›
  · exact sizeOf_lt_object ‹_›

/-- An item of an array on its line. -/
def itemLine (level : Nat) (v : Json) : List Char := newLine level ++ pretty level v

/-- A field of an object on its line. -/
def fieldLine (level : Nat) (field : String × Json) : List Char :=
  newLine level ++ (string field.1 ++ ':' :: ' ' :: pretty level field.2)

/-- The items of an array are written line by line, with commas between them. -/
theorem prettyItems_eq (level : Nat) (items : List Json) :
    prettyItems level items = List.intercalate [','] (items.map (itemLine level)) := by
  induction items with
  | nil => rw [prettyItems, List.map_nil, List.intercalate_nil]
  | cons v rest ih =>
    rcases rest with _ | ⟨next, rest⟩
    · rw [prettyItems, List.map_singleton, List.intercalate_singleton, itemLine]
    · rw [prettyItems, ih]
      · simp [List.intercalate_cons_cons, itemLine]
      · exact List.cons_ne_nil next rest

/-- The fields of an object are written line by line, with commas between them. -/
theorem prettyFields_eq (level : Nat) (fields : List (String × Json)) :
    prettyFields level fields = List.intercalate [','] (fields.map (fieldLine level)) := by
  induction fields with
  | nil => rw [prettyFields, List.map_nil, List.intercalate_nil]
  | cons field rest ih =>
    rcases rest with _ | ⟨next, rest⟩
    · rw [prettyFields, List.map_singleton, List.intercalate_singleton, fieldLine]
      simp
    · rw [prettyFields, ih]
      · simp [List.intercalate_cons_cons, fieldLine]
      · exact List.cons_ne_nil next rest

/-- The text of an array with items. -/
theorem pretty_array (level : Nat) {items : List Json} (h : items ≠ []) :
    pretty level (.array items) = '[' :: (List.intercalate [',']
      (items.map (itemLine (level + 1))) ++ (newLine level ++ [']'])) := by
  rw [pretty, prettyItems_eq, List.append_assoc, List.cons_append]
  exact h

/-- The text of an object with fields. -/
theorem pretty_object (level : Nat) {fields : List (String × Json)} (h : fields ≠ []) :
    pretty level (.object fields) = '\x7b' :: (List.intercalate [',']
      (fields.map (fieldLine (level + 1))) ++ (newLine level ++ ['\x7d'])) := by
  rw [pretty, prettyFields_eq, List.append_assoc, List.cons_append]
  exact h

/-- The characters that a number starts with start no other value and close no array. -/
theorem ne_of_startsNumber {c : Char} (h : (c = '-' || c.isDigit) = true) :
    isBlank c = false ∧ c ≠ ']' ∧ c ≠ '"' ∧ c ≠ '[' ∧ c ≠ '\x7b' := by
  have hne {d : Char} (hd : (d = '-' || d.isDigit) = false) : c ≠ d := by
    rintro rfl
    exact Bool.noConfusion (hd.symm.trans h)
  refine ⟨?_, hne (by decide), hne (by decide), hne (by decide), hne (by decide)⟩
  have hspace : c ≠ ' ' := hne (by decide)
  have htab : c ≠ '\t' := hne (by decide)
  have hfeed : c ≠ '\n' := hne (by decide)
  have hreturn : c ≠ '\r' := hne (by decide)
  simp [isBlank, hspace, htab, hfeed, hreturn]

/-- No value starts with a blank or with a closing bracket. -/
theorem exists_pretty_eq_cons (level : Nat) (v : Json) :
    ∃ c cs, pretty level v = c :: cs ∧ isBlank c = false ∧ c ≠ ']' := by
  rcases v with s | n | (_ | ⟨v, rest⟩) | (_ | ⟨field, rest⟩)
  · exact ⟨'"', _, by rw [pretty, string, List.cons_append], by decide⟩
  · obtain ⟨c, cs, hcs, hc⟩ := exists_toString_eq_cons n
    obtain ⟨hblank, hclose, -⟩ := ne_of_startsNumber hc
    exact ⟨c, cs, by rw [pretty, hcs], hblank, hclose⟩
  · exact ⟨'[', _, by rw [pretty], by decide⟩
  · exact ⟨'[', _, pretty_array level (List.cons_ne_nil _ _), by decide⟩
  · exact ⟨'\x7b', _, by rw [pretty], by decide⟩
  · exact ⟨'\x7b', _, pretty_object level (List.cons_ne_nil _ _), by decide⟩

/-- A text is no longer than the texts it stands among. -/
theorem length_le_intercalate_of_mem {text : List Char} {texts : List (List Char)}
    (h : text ∈ texts) : text.length ≤ (List.intercalate [','] texts).length := by
  induction texts with
  | nil => exact absurd h List.not_mem_nil
  | cons first others ih =>
    rcases others with _ | ⟨next, others⟩
    · obtain rfl := List.mem_singleton.1 h
      exact Nat.le_of_eq (by rw [List.intercalate_singleton])
    · rw [List.intercalate_cons_cons, List.length_append, List.length_append]
      rcases List.mem_cons.1 h with rfl | h
      · omega
      · have hothers := ih h
        omega

/-- The text of an item is shorter than that of its array. -/
theorem length_pretty_lt_array (level : Nat) {v : Json} {items : List Json} (h : v ∈ items) :
    (pretty (level + 1) v).length < (pretty level (.array items)).length := by
  have hline := length_le_intercalate_of_mem (List.mem_map_of_mem (f := itemLine (level + 1)) h)
  rw [itemLine, List.length_append] at hline
  rw [pretty_array level (List.ne_nil_of_mem h), List.length_cons, List.length_append]
  omega

/-- The text of a field's value is shorter than that of its object. -/
theorem length_pretty_lt_object (level : Nat) {field : String × Json}
    {fields : List (String × Json)} (h : field ∈ fields) :
    (pretty (level + 1) field.2).length < (pretty level (.object fields)).length := by
  have hline := length_le_intercalate_of_mem (List.mem_map_of_mem (f := fieldLine (level + 1)) h)
  rw [fieldLine, List.length_append, List.length_append, List.length_cons,
    List.length_cons] at hline
  rw [pretty_object level (List.ne_nil_of_mem h), List.length_cons, List.length_append]
  omega

section Value

variable {fuel : Nat} {blanks cs rest : List Char}

/-- A value that starts with a quote is a string. -/
theorem value?_of_string (hblanks : ∀ c ∈ blanks, isBlank c = true) {s : String}
    (h : string? ('"' :: cs) = some (s, rest)) :
    value? (fuel + 1) (blanks ++ '"' :: cs) = some (.text s, rest) := by
  rw [value?, skipBlanks_append hblanks, skipBlanks_cons (by decide)]
  simp [h]

/-- A value that starts with a square bracket is an array. -/
theorem value?_of_items (hblanks : ∀ c ∈ blanks, isBlank c = true) {items : List Datum}
    (h : items? (value? fuel) ']' cs = some (items, rest)) :
    value? (fuel + 1) (blanks ++ '[' :: cs) = some (.array items, rest) := by
  rw [value?, skipBlanks_append hblanks, skipBlanks_cons (by decide)]
  simp [h]

/-- A value that starts with a curly bracket is an object. -/
theorem value?_of_fields (hblanks : ∀ c ∈ blanks, isBlank c = true)
    {fields : List (String × Datum)}
    (h : items? (field? (value? fuel)) '\x7d' cs = some (fields, rest)) :
    value? (fuel + 1) (blanks ++ '\x7b' :: cs) = some (.object fields, rest) := by
  rw [value?, skipBlanks_append hblanks, skipBlanks_cons (by decide)]
  simp [h]

/-- A value that starts with a sign or a digit is a number. -/
theorem value?_of_number (hblanks : ∀ c ∈ blanks, isBlank c = true) {c : Char}
    (hc : (c = '-' || c.isDigit) = true) {v : Datum}
    (h : number? (c :: cs) = some (v, rest)) :
    value? (fuel + 1) (blanks ++ c :: cs) = some (v, rest) := by
  obtain ⟨hblank, -, hquote, hbracket, hbrace⟩ := ne_of_startsNumber hc
  rw [value?, skipBlanks_append hblanks, skipBlanks_cons hblank]
  simp only [if_neg hquote, if_neg hbracket, if_neg hbrace, hc, if_true, h]

/-- Behind its line break a field starts with the quote of its name. -/
theorem skipBlanks_fieldLine (level : Nat) (field : String × Json) (rest : List Char) :
    skipBlanks (fieldLine level field ++ rest) =
      string field.1 ++ (':' :: ([' '] ++ (pretty level field.2 ++ rest))) := by
  rw [fieldLine, List.append_assoc, skipBlanks_append isBlank_of_mem_newLine, List.append_assoc,
    string, List.cons_append, List.cons_append, skipBlanks_cons (by decide)]
  rfl

/-- A field is read back when its value is. -/
theorem field?_fieldLine {value : Reader Datum} {level : Nat} {field : String × Json}
    (h : value ([' '] ++ (pretty level field.2 ++ rest)) = some (field.2.datum, rest)) :
    field? value (fieldLine level field ++ rest) = some ((field.1, field.2.datum), rest) := by
  rw [field?, skipBlanks_fieldLine, string?_string]
  simp only [Option.bind_eq_bind, Option.bind_some,
    skipBlanks_cons (by decide : isBlank ':' = false), List.head?_cons, List.tail_cons, if_true, h]
  rfl

/-- An item does not start with the bracket that closes its array. -/
theorem head?_skipBlanks_itemLine (level : Nat) (v : Json) (rest : List Char) :
    (skipBlanks (itemLine level v ++ rest)).head? ≠ some ']' := by
  obtain ⟨c, cs, hcs, hblank, hclose⟩ := exists_pretty_eq_cons level v
  rw [itemLine, List.append_assoc, skipBlanks_append isBlank_of_mem_newLine, hcs,
    List.cons_append, skipBlanks_cons hblank]
  simpa using hclose

/-- A field does not start with the bracket that closes its object. -/
theorem head?_skipBlanks_fieldLine (level : Nat) (field : String × Json) (rest : List Char) :
    (skipBlanks (fieldLine level field ++ rest)).head? ≠ some '\x7d' := by
  rw [skipBlanks_fieldLine, string, List.cons_append, List.cons_append, List.head?_cons]
  decide

/-- An array is read back when its items are. -/
theorem value?_array (hblanks : ∀ c ∈ blanks, isBlank c = true) (level : Nat) {items : List Json}
    (hitem : ∀ v ∈ items, ∀ rest, EndsNumber rest →
      value? fuel (itemLine (level + 1) v ++ rest) = some (v.datum, rest)) :
    value? (fuel + 1) (blanks ++ (pretty level (array items) ++ rest)) =
      some ((array items).datum, rest) := by
  cases items with
  | nil =>
    rw [pretty, datum]
    exact value?_of_items hblanks rfl
  | cons v others =>
    have hsome : v :: others ≠ [] := List.cons_ne_nil v others
    rw [pretty_array level hsome, datum, List.cons_append, List.append_assoc, List.append_assoc]
    exact value?_of_items hblanks (items?_append (by decide) (by decide) hitem
      (fun v _ => head?_skipBlanks_itemLine (level + 1) v) hsome level rest)

/-- An object is read back when its fields are. -/
theorem value?_object (hblanks : ∀ c ∈ blanks, isBlank c = true) (level : Nat)
    {fields : List (String × Json)}
    (hfield : ∀ field ∈ fields, ∀ rest, EndsNumber rest →
      field? (value? fuel) (fieldLine (level + 1) field ++ rest) =
        some ((field.1, field.2.datum), rest)) :
    value? (fuel + 1) (blanks ++ (pretty level (object fields) ++ rest)) =
      some ((object fields).datum, rest) := by
  cases fields with
  | nil =>
    rw [pretty, datum]
    exact value?_of_fields hblanks rfl
  | cons field others =>
    have hsome : field :: others ≠ [] := List.cons_ne_nil field others
    rw [pretty_object level hsome, datum, List.cons_append, List.append_assoc, List.append_assoc]
    exact value?_of_fields hblanks (items?_append (by decide) (by decide) hfield
      (fun field _ => head?_skipBlanks_fieldLine (level + 1) field) hsome level rest)

end Value

/-- **A value is read back** from the front of a text, whatever blanks stand before it and whatever
stands behind it. Only behind a number there must not be more of it (`EndsNumber`). The induction is
on the value, and the fuel is enough for its text. -/
theorem value?_pretty (level : Nat) : (v : Json) → {fuel : Nat} →
    (pretty level v).length < fuel → {blanks : List Char} → (∀ c ∈ blanks, isBlank c = true) →
    {rest : List Char} → EndsNumber rest →
    value? fuel (blanks ++ (pretty level v ++ rest)) = some (v.datum, rest)
  | _, 0, hfuel, _, _, _, _ => absurd hfuel (Nat.not_lt_zero _)
  | .text s, fuel + 1, _, blanks, hblanks, rest, _ => by
    rw [pretty, datum]
    exact value?_of_string hblanks (string?_string s rest)
  | .number n, fuel + 1, _, blanks, hblanks, rest, hrest => by
    obtain ⟨c, cs, hcs, hc⟩ := exists_toString_eq_cons n
    have hnumber := number?_toString n hrest
    rw [hcs, List.cons_append] at hnumber
    rw [pretty, datum, hcs, List.cons_append]
    exact value?_of_number hblanks hc hnumber
  | .array items, fuel + 1, hfuel, blanks, hblanks, rest, _ => by
    refine value?_array hblanks level fun v hv rest hrest => ?_
    have hshorter := length_pretty_lt_array level hv
    rw [itemLine, List.append_assoc]
    exact value?_pretty (level + 1) v (by omega) isBlank_of_mem_newLine hrest
  | .object fields, fuel + 1, hfuel, blanks, hblanks, rest, _ => by
    refine value?_object hblanks level fun field hfield rest hrest => ?_
    have hshorter := length_pretty_lt_object level hfield
    have hspace : ∀ c ∈ [' '], isBlank c = true := List.forall_mem_singleton.2 (by decide)
    exact field?_fieldLine (value?_pretty (level + 1) field.2 (by omega) hspace hrest)
  termination_by v => sizeOf v
  decreasing_by
    · exact sizeOf_lt_array hv
    · exact sizeOf_lt_object hfield

/-- **A JSON text is read back** as the value that it was written from. -/
theorem read?_render (v : Json) : read? v.render = some v.datum := by
  have hvalue : value? ((pretty 0 v).length + 1) ([] ++ (pretty 0 v ++ [])) =
      some (v.datum, []) :=
    value?_pretty 0 v (Nat.lt_succ_self _) (by simp) (by rintro c ⟨⟩)
  rw [List.nil_append, List.append_nil] at hvalue
  rw [read?, render, String.toList_ofList, String.length_ofList, hvalue]
  rfl

end Json
end Text

namespace Report

open Text.Json (Datum read? read?_render isReportChar isReportChar_pretty)

/-- What a reader makes of a match. -/
def matchDatum (m : Match) : Datum := .object [
  ("file_path", .text m.file), ("line_number", .number m.line 0), ("type_name", .text m.name),
  ("kind", .text m.kind.text), ("context", .text m.context)]

/-- **A JSON report can be read back.**  Its text is printable ASCII and line breaks, and a reader
finds one object in it.  The query, the workspace, the strategy and the warnings there are those of
the outcome, all of the results are counted, and the matches that are shown are the first results
in their order, field by field, as many as the request asks for if there are as many. -/
theorem json_is_read_back (o : Outcome) :
    (∀ c ∈ (json o).toList, c = '\n' ∨ 32 ≤ c.toNat ∧ c.toNat < 127) ∧
    read? (json o) = some (.object [
      ("query", .text o.request.query),
      ("workspace", .text o.request.root.render),
      ("strategy", .text o.strategy),
      ("total_count", .number o.results.length 0),
      ("shown", .number (min (o.results.length : Int) o.request.maxResults) 0),
      ("results", .array ((o.results.take (min o.results.length o.request.maxResults.toNat)).map
        matchDatum)),
      ("warnings", .array (o.warnings.map .text))]) := by
  constructor
  · intro c hc
    rw [json, Text.Json.render, String.toList_ofList] at hc
    simpa [isReportChar] using isReportChar_pretty 0 o.toJson c hc
  · have hshown : o.displayed =
        o.results.take (min o.results.length o.request.maxResults.toNat) := by
      rw [Outcome.displayed, List.take_eq_take_iff]
      omega
    have hcount : (o.displayed.length : Int) =
        min (o.results.length : Int) o.request.maxResults := by
      have hpos := o.request.maxResults_pos
      rw [Outcome.displayed, List.length_take]
      omega
    rw [json, read?_render, ← hshown, ← hcount]
    simp [Outcome.toJson, Text.Json.datum, Match.toJson, matchDatum, Function.comp_def]

end Report
end DeclSearch
