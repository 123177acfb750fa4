import SchemaReport.Proofs.Scan.Acceptance

/-! What a column of the table is made of.

`ColumnOf` says it from the lines alone: the last directive of a column's window settles a
field, whatever stood before the window, and a field without a directive is the one of the
column before, where columns inherit. `scanSource_columns` is the statement about a whole
scan: there is one column for every name before the primary keys, in their order, and each
is the column of its window. -/
namespace SchemaReport
open Text Schema

/-! ### Columns from lines -/

/-- The kind of column a type stands for, given the display name. -/
def KindOf (floatKeywords : List String) (chineseName : String) (value : List Char) :
    ColumnType → Prop
  | .string => value.map Char.toLower ≠ ['n', 'u', 'm', 'b', 'e', 'r']
  | .float => value.map Char.toLower = ['n', 'u', 'm', 'b', 'e', 'r'] ∧
      ∃ k ∈ floatKeywords, k ≠ "" ∧ k.toList <:+: chineseName.toList
  | .int => value.map Char.toLower = ['n', 'u', 'm', 'b', 'e', 'r'] ∧
      ∀ k ∈ floatKeywords, k ≠ "" → ¬ k.toList <:+: chineseName.toList

/-- How a field is settled: by a directive if there is one, else by inheriting. -/
def FieldOf (mode : MissingFields) (directive : Option Line) (said : Line → Prop)
    (inherited : Prop) : Prop :=
  match directive with
  | some line => said line
  | none => mode = .inherit ∧ inherited

/-- The column that a name closes, the lines of its window and the column before given. -/
structure ColumnOf (settings : ScanSettings) (previous : Column) (lines : List Line) (name : Line)
    (c : Column) : Prop where
  names : ∃ value, extractValue name.text = .ok value ∧
    c.structName = Naming.structName (String.ofList value) ∧
    c.jsonName = Naming.jsonName (String.ofList value)
  heading : FieldOf settings.missingFields (lastLine .columnDescription lines)
    (fun line => extractValue line.text = .ok c.chineseName.toList ∧
      (c.fixedLength = true ↔ ['定', '长'] <:+: line.text ∧ ¬ ['不', '定', '长'] <:+: line.text))
    (c.chineseName = previous.chineseName ∧ c.fixedLength = previous.fixedLength)
  columnType : FieldOf settings.missingFields (lastLine .type lines)
    (fun line => ∃ value, extractValue line.text = .ok value ∧
      KindOf settings.floatKeywords c.chineseName value c.columnType)
    (c.columnType = previous.columnType)
  length : FieldOf settings.missingFields (lastLine .length lines)
    (fun line => extractValue line.text = .ok c.length.text.toList)
    (c.length = previous.length)
  nullable : FieldOf settings.missingFields (lastLine .nullable lines)
    (fun line => ∃ value, extractValue line.text = .ok value ∧
      (c.nullable = true ↔ lower value = ['y', 'e', 's']))
    (c.nullable = previous.nullable)

/-- The columns that some lines describe, one for every name among them, in their order. -/
structure ColumnsOf (settings : ScanSettings) (lines : List Line) (columns : List Column) :
    Prop where
  count : columns.length = lines.countP (Line.carries .name)
  each : ∀ earlier name later, lines = earlier ++ name :: later → name.carries .name = true →
    ∃ column, columns[earlier.countP (Line.carries .name)]? = some column ∧
      ColumnOf settings ((columns.take (earlier.countP (Line.carries .name))).getLastD .blank)
        (window earlier) name column

/-! ### Drafts that are complete -/

theorem ColumnType.kindOf_classify (floatKeywords : List String) (raw chineseName : String) :
    KindOf floatKeywords chineseName raw.toList (classify raw chineseName floatKeywords) := by
  have hnumber : "number".toList = ['n', 'u', 'm', 'b', 'e', 'r'] := rfl
  unfold classify
  rw [hnumber]
  split
  · next h => exact h
  · next h =>
    rw [ne_eq, not_not] at h
    split
    · next hany =>
      refine ⟨h, ?_⟩
      obtain ⟨k, hk, hoccurs⟩ := List.any_eq_true.mp hany
      rw [Bool.and_eq_true, decide_eq_true_eq, occurs_iff] at hoccurs
      exact ⟨k, hk, hoccurs⟩
    · next hany =>
      refine ⟨h, fun k hk hne hoccurs => hany ?_⟩
      rw [List.any_eq_true]
      exact ⟨k, hk, by rw [Bool.and_eq_true, decide_eq_true_eq, occurs_iff]; exact ⟨hne, hoccurs⟩⟩

theorem Scanner.saysFixed_iff {text : List Char} : saysFixed text = true ↔
    ['定', '长'] <:+: text ∧ ¬ ['不', '定', '长'] <:+: text := by
  rw [saysFixed, Bool.and_eq_true, Bool.not_eq_true', ← Bool.not_eq_true, occurs_iff, occurs_iff]
  rfl

theorem Scanner.readNullable_iff {value : String} : (readNullable value).getD false = true ↔
    lower value.toList = ['y', 'e', 's'] := by
  unfold readNullable
  split
  · next h => simp [h]
  · next h =>
    refine iff_of_false ?_ h
    split <;> simp

namespace Draft

/-- A field of a draft taken from a directive, and the same field as a rule about lines. -/
theorem settled_map_iff {α : Type} {mode : MissingFields} {directive : Option Line}
    {f : Line → α} {inherited value : α} :
    settled mode (directive.map f) inherited = some value ↔
      FieldOf mode directive (fun line => value = f line) (value = inherited) := by
  cases directive with
  | some line => simp [FieldOf, eq_comm]
  | none => cases mode <;> simp [FieldOf, eq_comm]

theorem required_eq_ok_iff {α : Type} {mode : MissingFields} {field : ColumnField}
    {written : Option α} {inherited value : α} :
    required mode field written inherited = .ok value ↔
      settled mode written inherited = some value := by
  unfold required
  split
  · next h => simp [h]
  · next h => simp [h]

theorem complete_eq_ok {mode : MissingFields} {previous c : Column} {d : Draft} {name : String}
    (h : d.complete mode previous name = .ok c) :
    settled mode d.heading ⟨previous.chineseName, previous.fixedLength⟩ =
        some ⟨c.chineseName, c.fixedLength⟩ ∧
      settled mode d.columnType previous.columnType = some c.columnType ∧
      settled mode d.length previous.length = some c.length ∧
      settled mode d.nullable previous.nullable = some c.nullable ∧
      c.structName = Naming.structName name ∧ c.jsonName = Naming.jsonName name := by
  simp only [complete, bind, Except.bind, pure, Except.pure] at h
  split at h
  · cases h
  · next heading hheading =>
    split at h
    · cases h
    · next columnType htype =>
      split at h
      · cases h
      · next length hlength =>
        split at h
        · cases h
        · next nullable hnullable =>
          cases h
          exact ⟨required_eq_ok_iff.mp hheading, required_eq_ok_iff.mp htype,
            required_eq_ok_iff.mp hlength, required_eq_ok_iff.mp hnullable, rfl, rfl⟩

end Draft

theorem FieldOf.imp {mode : MissingFields} {directive : Option Line} {said said' : Line → Prop}
    {inherited inherited' : Prop} (h : FieldOf mode directive said inherited)
    (hsaid : ∀ line, directive = some line → said line → said' line)
    (hinherited : inherited → inherited') : FieldOf mode directive said' inherited' := by
  cases directive with
  | some line => exact hsaid line rfl h
  | none => exact ⟨h.1, hinherited h.2⟩

/-- The name a completed column shows is the one its type was classified by. -/
theorem Draft.chineseName_eq_nameInForce {settings : ScanSettings} {previous : Column}
    {lines : List Line} {heading : Heading}
    (h : settled settings.missingFields (ofWindow settings previous lines).heading
      ⟨previous.chineseName, previous.fixedLength⟩ = some heading) :
    heading.chineseName = nameInForce settings.missingFields previous lines := by
  rw [ofWindow, settled_map_iff] at h
  unfold nameInForce
  cases hlast : lastLine .columnDescription lines with
  | some line =>
    rw [hlast] at h
    rw [show heading = _ from h]
    simp
  | none =>
    rw [hlast] at h
    obtain ⟨hmode, rfl⟩ := h
    simp [hmode]

/-- The draft of a window, completed, is the column of the window. -/
theorem Draft.columnOf_complete {settings : ScanSettings} {previous c : Column}
    {lines : List Line} {name : Line} {value : String} (hname : name.Says .name value)
    (hvalues : ∀ line ∈ lines, ∀ k, line.carries k = true → line.Says k line.value)
    (h : (ofWindow settings previous lines).complete settings.missingFields previous value =
      .ok c) : ColumnOf settings previous lines name c := by
  obtain ⟨hheading, htype, hlength, hnullable, hstruct, hjson⟩ := complete_eq_ok h
  have hforce := chineseName_eq_nameInForce hheading
  have hsaid : ∀ {k : Keyword} {line : Line}, lastLine k lines = some line →
      extractValue line.text = .ok line.value.toList := by
    intro k line hline
    obtain ⟨hmem, hcarries⟩ := mem_of_lastLine hline
    exact (hvalues line hmem k hcarries).value
  rw [ofWindow, settled_map_iff] at hheading htype hlength hnullable
  refine ⟨⟨value.toList, hname.value, ?_, ?_⟩, ?_, ?_, ?_, ?_⟩
  · rw [hstruct, String.ofList_toList]
  · rw [hjson, String.ofList_toList]
  · refine hheading.imp (fun line hline heq => ?_) fun heq => ?_
    · rw [Heading.mk.injEq] at heq
      rw [heq.1, heq.2]
      exact ⟨hsaid hline, Scanner.saysFixed_iff⟩
    · rw [Heading.mk.injEq] at heq
      exact heq
  · refine htype.imp (fun line hline heq => ⟨line.value.toList, hsaid hline, ?_⟩) id
    rw [heq, show c.chineseName = _ from hforce]
    exact ColumnType.kindOf_classify _ _ _
  · refine hlength.imp (fun line hline heq => ?_) id
    rw [heq]
    exact hsaid hline
  · refine hnullable.imp (fun line hline heq => ⟨line.value.toList, hsaid hline, ?_⟩) id
    rw [heq]
    exact Scanner.readNullable_iff

/-! ### The columns of a run -/

theorem Schema.window_subset {lines : List Line} {line : Line} (h : line ∈ window lines) :
    line ∈ lines := by
  have hsince : ∀ l ∈ sinceName lines, l ∈ lines := fun l hl =>
    (List.rtakeWhile_suffix _ lines).subset hl
  unfold window at h
  split at h
  · next description hd =>
    rcases List.mem_cons.mp h with rfl | h
    · exact hsince line (mem_of_lastLine hd).1
    · exact hsince line ((List.rtakeWhile_suffix _ _).subset h)
  · exact hsince line h

namespace Scanner
variable {settings : ScanSettings} {names : RenderSettings} {clock : Clock}

/-- A directive adds a column when it is a name that closes one, and else leaves them be. -/
theorem Becomes.columns {s t : Scanner} {value : String} {k : Keyword} (h : s.Becomes value k t) :
    t.table.columns = s.table.columns ∨ k = .name ∧
      ∃ column, (s.draft.getD {}).complete s.settings.missingFields s.previous value = .ok column ∧
        t.table.columns = s.table.columns ++ [column] := by
  cases h with
  | adding hcolumn => exact .inr ⟨rfl, _, hcolumn, rfl⟩
  | drafting | naming | describing | ending => exact .inl rfl

theorem columns_prefix (s : Scanner) (lines : List Line) :
    s.table.columns <+: (s.feedAll lines).table.columns := by
  refine feedAll_invariant (fun t => s.table.columns <+: t.table.columns)
    (fun t line value k ht _ _ => ?_) (List.prefix_refl _) lines
  rcases (becomes_obey t line value k).columns with h | ⟨-, column, -, h⟩
  · rw [h]
    exact ht
  · rw [h]
    exact ht.trans (List.prefix_append _ _)

/-- A name that passes adds the column of its window. -/
theorem columns_name {earlier : List Line} {name : Line}
    (h : (Scanner.start settings names clock).PassesAll earlier)
    (hname : (after settings names clock earlier).Passes name)
    (hk : name.carries .name = true) :
    ∃ column, (after settings names clock (earlier ++ [name])).table.columns =
        (after settings names clock earlier).table.columns ++ [column] ∧
      ColumnOf settings (after settings names clock earlier).previous (window earlier) name
        column := by
  have hdone : (after settings names clock earlier).isDone = false := isDone_feedAll rfl h
  have hsettings : (after settings names clock earlier).settings = settings :=
    settings_feedAll _ earlier
  have hsketch := draft_after h
  have hkeyword := Line.carries_iff.mp hk
  obtain ⟨value, hv, column, hcolumn⟩ : ∃ value, name.Says .name value ∧
      (after settings names clock earlier).Admits value .name := by
    rcases (passes_iff hdone).mp hname with hp | ⟨k, value, hv, ha⟩
    · rw [hp] at hkeyword
      cases hkeyword
    · obtain rfl := hv.keyword_unique hkeyword
      exact ⟨value, hv, ha⟩
  have hvalues : ∀ line ∈ window earlier, ∀ k, line.carries k = true → line.Says k line.value := by
    intro line hmem k hcarries
    obtain ⟨front, later, rfl⟩ := List.append_of_mem (window_subset hmem)
    obtain ⟨hfront, hline, -⟩ := passesAll_append.mp h
    obtain ⟨chars, hchars⟩ :=
      ((passes_after_iff hfront).mp hline).1.valued k (Line.carries_iff.mp hcarries)
    refine ⟨Line.carries_iff.mp hcarries, ?_⟩
    rw [Line.value, hchars, String.toList_ofList]
  have hfed : (after settings names clock (earlier ++ [name])).table.columns =
      ((after settings names clock earlier).obey name value .name).scanner.table.columns := by
    rw [after, feedAll_concat, (feed_directive hdone hv).1]
  refine ⟨column, ?_, ?_⟩
  · rw [hfed, obey, closeColumn, hcolumn]
    rfl
  · rw [Sketches, hsettings] at hsketch
    rw [hsketch, hsettings] at hcolumn
    exact Draft.columnOf_complete hv hvalues hcolumn

/-- There are as many columns as names have passed. -/
theorem length_columns {lines : List Line}
    (h : (Scanner.start settings names clock).PassesAll lines) :
    (after settings names clock lines).table.columns.length =
      lines.countP (Line.carries .name) := by
  induction lines using List.reverseRecOn with
  | nil => rfl
  | append_singleton lines line ih =>
    obtain ⟨hlines, hline⟩ := passesAll_concat.mp h
    rw [List.countP_append, ← ih hlines]
    cases hk : line.carries .name with
    | true =>
      obtain ⟨column, hcolumns, -⟩ := columns_name hlines hline hk
      rw [hcolumns]
      simp [hk]
    | false =>
      rw [after, feedAll_concat]
      rcases feed_scanner_cases (after settings names clock lines) line with
        hs | ⟨k, value, -, hv, hs⟩
      · rw [hs]
        simp [hk]
      · rcases (becomes_obey (after settings names clock lines) line value k).columns with
          hc | ⟨rfl, -⟩
        · rw [hs, hc]
          simp [hk]
        · rw [hv.carries] at hk
          cases hk

/-- Lines that pass leave the columns they describe. -/
theorem columnsOf_after {lines : List Line}
    (h : (Scanner.start settings names clock).PassesAll lines) :
    ColumnsOf settings lines (after settings names clock lines).table.columns := by
  refine ⟨length_columns h, ?_⟩
  intro earlier name later hlines hk
  subst hlines
  obtain ⟨hearlier, hname, -⟩ := passesAll_append.mp h
  obtain ⟨column, hcolumns, hcolumn⟩ := columns_name hearlier hname hk
  have hcount := length_columns hearlier
  obtain ⟨more, hmore⟩ : (after settings names clock earlier).table.columns ++ [column] <+:
      (after settings names clock (earlier ++ name :: later)).table.columns := by
    have hsplit : after settings names clock (earlier ++ name :: later) =
        (after settings names clock (earlier ++ [name])).feedAll later := by
      rw [List.append_cons, ← feedAll_append]
    rw [hsplit, ← hcolumns]
    exact columns_prefix _ later
  -- the columns so far are a prefix, so the place and what is inherited can be read off there
  refine ⟨column, ?_, ?_⟩
  · rw [← hmore, ← hcount]
    simp
  · have htake : (after settings names clock (earlier ++ name :: later)).table.columns.take
        (earlier.countP (Line.carries .name)) =
        (after settings names clock earlier).table.columns := by
      rw [← hmore, ← hcount]
      simp
    rw [htake]
    exact hcolumn

end Scanner

/-- **The table has a column for every name before the primary keys, in their order, and each
is the column of its window.** -/
theorem scanSource_columns {settings : ScanSettings} {names : RenderSettings} {clock : Clock}
    {source : String} {output : ScanOutput}
    (h : (scanSource settings names clock source).result = .ok output) :
    ∃ before last rest, sourceLines source = before ++ last :: rest ∧
      last.keyword = .ok (some .primaryKeys) ∧
      (∀ line ∈ before, line.keyword ≠ .ok (some .primaryKeys)) ∧
      ColumnsOf settings before output.table.columns := by
  obtain ⟨before, last, rest, value, hlines, hpass, hv, rfl⟩ := scanSource_eq_ok_iff.mp h
  refine ⟨before, last, rest, hlines, hv.keyword, fun line hmem => ?_,
    Scanner.columnsOf_after hpass⟩
  obtain ⟨earlier, later, rfl⟩ := List.append_of_mem hmem
  obtain ⟨hearlier, hline, -⟩ := Scanner.passesAll_append.mp hpass
  exact ((Scanner.passes_after_iff hearlier).mp hline).2.1

/-- Two columns, of which the second has no more than a type and a name. -/
def sparseSchema : String :=
  "-description:单价，不定长\ntype:Number\nlength:12\nnullable:YES\nname:unit_price\n" ++
    "type:number\nname:total\nprimary-keys:total\n"

set_option maxRecDepth 4000 in
/-- The second column takes over its name, and with it what kind of number it is. -/
theorem scanSource_columns_sparse : ∃ output,
    (scanSource { missingFields := .inherit } {} (.ofList ⟨2024, 5, 6, 7, 8, 9⟩ [])
      sparseSchema).result = .ok output ∧
    output.table.columns =
      [⟨"单价", .float, ⟨"12"⟩, false, true, "UnitPrice", "unitPrice"⟩,
        ⟨"单价", .float, ⟨"12"⟩, false, true, "Total", "total"⟩] ∧
    ∃ before last rest, sourceLines sparseSchema = before ++ last :: rest ∧
      last.keyword = .ok (some .primaryKeys) ∧
      (∀ line ∈ before, line.keyword ≠ .ok (some .primaryKeys)) ∧
      ColumnsOf { missingFields := .inherit } before output.table.columns := by
  have hany : (scanSource { missingFields := .inherit } {} (.ofList ⟨2024, 5, 6, 7, 8, 9⟩ [])
      sparseSchema).result.toOption.any (fun output => output.table.columns ==
        [⟨"单价", .float, ⟨"12"⟩, false, true, "UnitPrice", "unitPrice"⟩,
          ⟨"单价", .float, ⟨"12"⟩, false, true, "Total", "total"⟩]) = true := by
    decide
  obtain ⟨output, hresult, hcolumns⟩ := exists_ok_of_any hany
  exact ⟨output, hresult, eq_of_beq hcolumns, scanSource_columns hresult⟩

end SchemaReport
