import SchemaReport.CommandLine.TableView
import SchemaReport.Proofs.Json.Completeness
import SchemaReport.Proofs.Json.Meaning

/-! Tables come back from their JSON.

The body written for a text is legal and stands for that text (`isBody_quote`,
`unquote?_quote`), so the document of a table is legal, and printing a legal document gives a
text of the grammar (`Legal.isText_pretty`), which the reader knows. The fields of a record are
found by their names (`fieldsOf?_record`). So reading what is shown of a table gives the table
(`shown_json_reads_back`), and no two tables are shown alike. -/
namespace SchemaReport.Json

/-! ### Bodies -/

/-- The three ways a character is written: by a short escape, by its code, and as it is. -/
theorem quoteOne_cases (c : Char) :
    (∃ d, shortEscape? d = some c ∧ quoteOne c = ['\\', d]) ∨
    (c.toNat < 0x20 ∧ quoteOne c =
      ['\\', 'u', '0', '0', Nat.digitChar (c.toNat / 16), Nat.digitChar (c.toNat % 16)]) ∨
    (c ≠ '"' ∧ c ≠ '\\' ∧ 0x20 ≤ c.toNat ∧ quoteOne c = [c]) := by
  by_cases hshort : c ∈ ['"', '\\', '\x08', '\x0c', '\n', '\r', '\t']
  · left
    simp only [List.mem_cons, List.not_mem_nil, or_false] at hshort
    rcases hshort with rfl | rfl | rfl | rfl | rfl | rfl | rfl
    · exact ⟨'"', rfl, rfl⟩
    · exact ⟨'\\', rfl, rfl⟩
    · exact ⟨'b', rfl, rfl⟩
    · exact ⟨'f', rfl, rfl⟩
    · exact ⟨'n', rfl, rfl⟩
    · exact ⟨'r', rfl, rfl⟩
    · exact ⟨'t', rfl, rfl⟩
  · right
    simp only [List.mem_cons, List.not_mem_nil, or_false, not_or] at hshort
    by_cases hcontrol : c.toNat < 0x20
    · exact .inl ⟨hcontrol, by simp [quoteOne, hshort, isControl, hcontrol]⟩
    · exact .inr ⟨hshort.1, hshort.2.1, Nat.le_of_not_lt hcontrol,
        by simp [quoteOne, hshort, isControl, hcontrol]⟩

/-- Two digits are enough for the codes of control characters. -/
theorem hexFour?_control : ∀ n < 0x20,
    hexFour? '0' '0' (Nat.digitChar (n / 16)) (Nat.digitChar (n % 16)) = some n := by decide

theorem isBody_quoteOne (c : Char) {rest : List Char} (h : IsBody rest) :
    IsBody (quoteOne c ++ rest) := by
  rcases quoteOne_cases c with ⟨d, hd, hc⟩ | ⟨hcontrol, hc⟩ | ⟨hquote, hbackslash, hcontrol, hc⟩
  · rw [hc]
    exact .escape (shortEscape?_isSome_iff.mp (by rw [hd]; rfl)) h
  · rw [hc]
    have hsome := congrArg Option.isSome (hexFour?_control c.toNat hcontrol)
    obtain ⟨h₁, h₂, h₃, h₄⟩ := hexFour?_isSome_iff.mp hsome
    exact .unicode h₁ h₂ h₃ h₄ h
  · rw [hc]
    exact .plain hcontrol hquote hbackslash h

theorem isBody_quote (text : List Char) : IsBody (quote text) := by
  induction text with
  | nil => exact .nil
  | cons c rest ih => exact isBody_quoteOne c ih

theorem unquote?_quoteOne (c : Char) (rest : List Char) :
    unquote? (quoteOne c ++ rest) = (unquote? rest).map (c :: ·) := by
  rcases quoteOne_cases c with ⟨d, hd, hc⟩ | ⟨hcontrol, hc⟩ | ⟨hquote, hbackslash, hcontrol, hc⟩
  · rw [hc]
    exact unquote?_short hd rest
  · obtain ⟨hlead, htrail⟩ := not_surrogate c
    have hcode := unquote?_code (hexFour?_control c.toNat hcontrol) hlead htrail rest
    rw [Char.ofNat_toNat] at hcode
    rw [hc]
    exact hcode
  · rw [hc]
    exact unquote?_plain hcontrol hquote hbackslash rest

/-- The body of a text stands for the text. -/
theorem unquote?_quote (text : List Char) : unquote? (quote text) = some text := by
  induction text with
  | nil => rfl
  | cons c rest ih =>
    rw [quote, List.flatMap_cons, unquote?_quoteOne]
    exact congrArg (Option.map (c :: ·)) ih

/-! ### Printing -/

/-- Documents whose bodies, keys and numbers are those of the grammar. -/
inductive Legal : Json → Prop
  | null : Legal .null
  | bool (value : Bool) : Legal (.bool value)
  | number {lexeme} : IsNumeral lexeme → Legal (.number lexeme)
  | string {body} : IsBody body → Legal (.string body)
  | array {items} : (∀ item ∈ items, Legal item) → Legal (.array items)
  | object {members} : (∀ m ∈ members, IsBody m.1) → (∀ m ∈ members, Legal m.2) →
      Legal (.object members)

theorem isWhite_newline (depth : Nat) : IsWhite (newline depth) := by
  intro c hc
  rcases List.mem_cons.mp hc with rfl | hc
  · simp
  · simp [(List.mem_replicate.mp hc).2]

theorem isWhite_blank : IsWhite [' '] := by simp [IsWhite]

/-- An item that has been printed, and the items after it. -/
theorem derives_prettyItems {depth : Nat} {items : List Json}
    (h : ∀ item ∈ items, Derives (.value item) (pretty depth item)) {w₁ t w₂ : List Char} {v : Json}
    (hw₁ : IsWhite w₁) (hv : Derives (.value v) t) (hw₂ : IsWhite w₂) :
    Derives (.items (v :: items)) (w₁ ++ (t ++ (prettyItems depth items ++ w₂))) := by
  induction items generalizing v t w₁ with
  | nil => exact .item hw₁ hv hw₂
  | cons item items ih =>
    obtain ⟨hitem, hitems⟩ := List.forall_mem_cons.mp h
    have hrest := ih hitems (isWhite_newline depth) hitem
    have := Derives.moreItems hw₁ hv isWhite_nil hrest
    simpa [prettyItems] using this

/-- A member that has been printed, and the members after it. -/
theorem derives_prettyMembers {depth : Nat} {members : List (List Char × Json)}
    (hkeys : ∀ m ∈ members, IsBody m.1)
    (h : ∀ m ∈ members, Derives (.value m.2) (pretty depth m.2)) {w₁ key t w₂ : List Char}
    {v : Json}
    (hw₁ : IsWhite w₁) (hkey : IsBody key) (hv : Derives (.value v) t) (hw₂ : IsWhite w₂) :
    Derives (.members ((key, v) :: members))
      (w₁ ++ '"' :: (key ++ '"' :: ':' :: ' ' :: (t ++ (prettyMembers depth members ++ w₂)))) := by
  induction members generalizing key v t w₁ with
  | nil => exact .member hw₁ hkey isWhite_nil isWhite_blank hv hw₂
  | cons m members ih =>
    obtain ⟨key', v'⟩ := m
    obtain ⟨hkey', hkeys'⟩ := List.forall_mem_cons.mp hkeys
    obtain ⟨hv', hvs'⟩ := List.forall_mem_cons.mp h
    have hrest := ih hkeys' hvs' (isWhite_newline depth) hkey' hv'
    have := Derives.moreMembers hw₁ hkey isWhite_nil isWhite_blank hv isWhite_nil hrest
    simpa [prettyMembers] using this

/-- A legal document is printed as a value of the grammar, at any depth. -/
theorem Legal.derives_pretty {document : Json} (h : Legal document) (depth : Nat) :
    Derives (.value document) (pretty depth document) := by
  induction h generalizing depth with
  | null => exact .null
  | bool value =>
    cases value with
    | true => exact .true
    | false => exact .false
  | number hlexeme => exact .number hlexeme
  | string hbody => exact .string hbody
  | @array items _ ih =>
    cases items with
    | nil => exact .emptyArray isWhite_nil
    | cons item items =>
      obtain ⟨hitem, hitems⟩ := List.forall_mem_cons.mp ih
      have := derives_prettyItems (fun i hi => hitems i hi (depth + 1))
        (isWhite_newline (depth + 1)) (hitem (depth + 1)) (isWhite_newline depth)
      simpa [pretty] using Derives.array this
  | @object members hkeys _ ih =>
    cases members with
    | nil => exact .emptyObject isWhite_nil
    | cons m members =>
      obtain ⟨key, value⟩ := m
      obtain ⟨hkey, hkeys'⟩ := List.forall_mem_cons.mp hkeys
      obtain ⟨hvalue, hvalues⟩ := List.forall_mem_cons.mp ih
      have := derives_prettyMembers hkeys' (fun m hm => hvalues m hm (depth + 1))
        (isWhite_newline (depth + 1)) hkey (hvalue (depth + 1)) (isWhite_newline depth)
      simpa [pretty] using Derives.object this

/-- A legal document is printed as a JSON text, whatever white space follows. -/
theorem Legal.isText_pretty {document : Json} (h : Legal document) {w : List Char}
    (hw : IsWhite w) : IsText document (pretty 0 document ++ w) :=
  ⟨[], pretty 0 document, w, rfl, isWhite_nil, h.derives_pretty 0, hw⟩

/-! ### Records -/

theorem legal_ofText (text : String) : Legal (ofText text) := .string (isBody_quote text.toList)

theorem legal_record {fields : List (String × Json)} (h : ∀ field ∈ fields, Legal field.2) :
    Legal (record fields) := by
  refine .object ?_ ?_
  · intro m hm
    obtain ⟨field, -, rfl⟩ := List.mem_map.mp hm
    exact isBody_quote field.1.toList
  · intro m hm
    obtain ⟨field, hfield, rfl⟩ := List.mem_map.mp hm
    exact h field hfield

theorem legal_ofColumn (c : Column) : Legal (ofColumn c) :=
  legal_record (by simp [legal_ofText, Legal.bool])

theorem legal_ofTable (t : Table) : Legal (ofTable t) := by
  have hcolumns : Legal (.array (t.columns.map ofColumn)) := by
    refine .array fun item hitem => ?_
    obtain ⟨c, -, rfl⟩ := List.mem_map.mp hitem
    exact legal_ofColumn c
  exact legal_record (by simp [legal_ofText, hcolumns])

@[simp] theorem asText?_ofText (text : String) : asText? (ofText text) = some text := by
  simp [asText?, ofText, unquote?_quote]

/-- The keys of a record are read back. -/
theorem readKeys_record (fields : List (String × Json)) :
    readKeys (fields.map fun (name, value) => (quote name.toList, value)) = some fields := by
  induction fields with
  | nil => rfl
  | cons field rest ih =>
    obtain ⟨name, value⟩ := field
    simp [readKeys, unquote?_quote, ih]

/-- A field of a record whose names differ is found by its name. -/
theorem filter_name {fields : List (String × Json)} (h : (fields.map Prod.fst).Nodup)
    {field : String × Json} (hfield : field ∈ fields) :
    (fields.filter fun member => member.1 == field.1) = [field] := by
  induction fields with
  | nil => cases hfield
  | cons first rest ih =>
    rw [List.map_cons, List.nodup_cons] at h
    rcases List.mem_cons.mp hfield with rfl | hrest
    · have hnone : (rest.filter fun member => member.1 == field.1) = [] := by
        rw [List.filter_eq_nil_iff]
        intro other hother heq
        exact h.1 (eq_of_beq heq ▸ List.mem_map_of_mem hother)
      rw [List.filter_cons_of_pos (by simp), hnone]
    · have hne : first.1 ≠ field.1 := fun heq => h.1 (heq ▸ List.mem_map_of_mem hrest)
      rw [List.filter_cons_of_neg (by simpa using hne), ih h.2 hrest]

/-- Where every field is found by its name, the fields are found by their names. -/
theorem mapM_fields {fields : List (String × Json)} {find : String → Option Json}
    (h : ∀ field ∈ fields, find field.1 = some field.2) :
    (fields.map Prod.fst).mapM find = some (fields.map Prod.snd) := by
  induction fields with
  | nil => rfl
  | cons field rest ih =>
    obtain ⟨hfield, hrest⟩ := List.forall_mem_cons.mp h
    rw [List.map_cons, List.mapM_cons, hfield, ih hrest]
    rfl

/-- The fields of a record, asked for by their names, are its fields. -/
theorem fieldsOf?_record (fields : List (String × Json)) (h : (fields.map Prod.fst).Nodup) :
    fieldsOf? (fields.map Prod.fst) (record fields) = some (fields.map Prod.snd) := by
  show (readKeys _).bind _ = _
  rw [readKeys_record]
  refine mapM_fields fun field hfield => ?_
  rw [filter_name h hfield]

/-! ### Tables -/

theorem columnTypeOfLabel?_label (kind : ColumnType) :
    columnTypeOfLabel? kind.label = some kind := by
  cases kind <;> rfl

theorem toColumnType?_label (kind : ColumnType) :
    toColumnType? (ofText kind.label) = some kind := by
  show (asText? (ofText kind.label)).bind columnTypeOfLabel? = _
  rw [asText?_ofText]
  exact columnTypeOfLabel?_label kind

theorem toColumn?_ofColumn (c : Column) : toColumn? (ofColumn c) = some c := by
  have hfields := fieldsOf?_record
    [("chinese_name", ofText c.chineseName), ("column_type", ofText c.columnType.label),
      ("length", ofText c.length.text), ("fixed_length", .bool c.fixedLength),
      ("nullable", .bool c.nullable), ("struct_name", ofText c.structName),
      ("json_name", ofText c.jsonName)] (by simp)
  simp only [List.map_cons, List.map_nil] at hfields
  rw [toColumn?, ofColumn, hfields]
  simp [toColumnType?_label, asBool?]

theorem mapM_toColumn? (columns : List Column) :
    columns.mapM (toColumn? ∘ ofColumn) = some columns := by
  induction columns with
  | nil => rfl
  | cons c rest ih =>
    rw [List.mapM_cons, Function.comp_apply, toColumn?_ofColumn, ih]
    rfl

theorem toTable?_ofTable (t : Table) : toTable? (ofTable t) = some t := by
  have hfields := fieldsOf?_record
    [("source_name", ofText t.sourceName), ("struct_name", ofText t.structName),
      ("json_name", ofText t.jsonName), ("description", ofText t.description),
      ("columns", .array (t.columns.map ofColumn)), ("primary_keys", ofText t.primaryKeys)]
    (by simp)
  simp only [List.map_cons, List.map_nil] at hfields
  rw [toTable?, ofTable, hfields]
  simp [asArray?, mapM_toColumn?]

/-- What is shown of a table as JSON is a text of the table's document, whatever white space
follows. -/
theorem isText_shown (t : Table) {w : List Char} (hw : IsWhite w) :
    IsText (ofTable t) ((t.shown .json).toList ++ w) := by
  simpa [Table.shown, tableText] using (legal_ofTable t).isText_pretty hw

theorem tableOfText?_shown (t : Table) {w : String} (hw : IsWhite w.toList) :
    tableOfText? (t.shown .json ++ w) = some t := by
  rw [tableOfText?, String.toList_append, parse?_eq_some (isText_shown t hw)]
  exact toTable?_ofTable t

/-- **A table comes back from its JSON.** Whatever its texts are and however many columns it
has, what is shown of a table as JSON is a JSON text of the table's document. Reading it gives
exactly the table, with or without the line feed it is printed with; so no two tables are shown
alike. -/
theorem shown_json_reads_back (t : Table) :
    IsText (ofTable t) (t.shown .json).toList ∧
    tableOfText? (t.shown .json) = some t ∧
    tableOfText? (t.shown .json ++ "\n") = some t ∧
    ∀ t' : Table, t'.shown .json = t.shown .json → t' = t := by
  have hread : ∀ t : Table, tableOfText? (t.shown .json) = some t := by
    intro t
    have := tableOfText?_shown t (w := "") isWhite_nil
    rwa [String.append_empty] at this
  refine ⟨by simpa using isText_shown t isWhite_nil, hread t, ?_, fun t' heq => ?_⟩
  · exact tableOfText?_shown t (isWhite_newline 0)
  · have h := hread t'
    rw [heq, hread t] at h
    exact (Option.some.inj h).symm

end SchemaReport.Json
