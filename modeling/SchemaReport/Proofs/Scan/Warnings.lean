import SchemaReport.Proofs.Scan.Columns
import SchemaReport.Proofs.Scan.Ending

/-! Two warnings: a column is dropped, and a table is ignored.

Either is logged at one place only. The scanner warns of a dropped column where primary keys
end the table with a draft still open (`filter_dropped_end`), and a scan of an ignored table
where the lines left over name one. So a description that another one supersedes goes without
a word (`scanSource_dropped`), and so does a table-name that another one overrides before the
primary keys (`scanSource_tables`). -/
namespace SchemaReport
open Text Schema

namespace Event

/-- The warning that a column is dropped, at the line that ends the table. -/
def droppedColumn (number : Nat) : Event :=
  ⟨.warn, "Column without a name directive is dropped", [("line", .number number)], .core⟩

/-- The warning that a table is ignored, at the line that names it. -/
def ignoredTable (number : Nat) : Event :=
  ⟨.warn, "Only the first table of a schema is converted, ignoring the rest",
    [("line", .number number)], .core⟩

/-- Whether an event has the message of the first warning. -/
def saysDropped (e : Event) : Bool := e.message == "Column without a name directive is dropped"

/-- Whether an event has the message of the second. -/
def saysIgnored (e : Event) : Bool :=
  e.message == "Only the first table of a schema is converted, ignoring the rest"

end Event

/-! ### The messages of a step -/

/-- The messages a directive can make the scanner log. -/
def Schema.Keyword.remarks : Keyword → List String
  | .tableName => ["Table name"]
  | .tableDescription => ["Table description appears before table-name, struct will be unnamed"]
  | .columnDescription => []
  | .type => ["Column type"]
  | .length => []
  | .nullable => ["Unrecognized nullable value, treating as not nullable"]
  | .name => ["Column complete"]
  | .primaryKeys => ["Column without a name directive is dropped", "Table complete"]

namespace Scanner

theorem message_obey {s : Scanner} {line : Line} {value : String} {k : Keyword} {e : Event}
    (h : e ∈ (s.obey line value k).events) : e.message ∈ k.remarks := by
  cases k with
  | tableName | type => rw [List.mem_singleton.mp h]; exact List.mem_singleton_self _
  | columnDescription => cases h
  | tableDescription =>
    simp only [obey, setTableDescription, accepted] at h
    split at h
    · rw [List.mem_singleton.mp h]
      exact List.mem_singleton_self _
    · cases h
  | length =>
    simp only [obey, setLength] at h
    split at h <;> cases h
  | nullable =>
    simp only [obey, setNullable, accepted] at h
    split at h
    · cases h
    · rw [List.mem_singleton.mp h]
      exact List.mem_singleton_self _
  | name =>
    simp only [obey, closeColumn] at h
    split at h
    · cases h
    · rw [List.mem_singleton.mp h]
      exact List.mem_singleton_self _
  | primaryKeys =>
    simp only [obey, endTable, accepted] at h
    rcases List.mem_append.mp h with h | h
    · split at h
      · rw [List.mem_singleton.mp h]
        exact List.mem_cons_self
      · cases h
    · rw [List.mem_singleton.mp h]
      exact List.mem_cons_of_mem _ List.mem_cons_self

/-- What a step logs tells how the line is read, or is a remark of its directive. -/
theorem message_feed {s : Scanner} {line : Line} {e : Event} (h : e ∈ (s.feed line).events) :
    e.message ∈ ["Skipping non-directive line", "Directive"] ∨
      ∃ k, line.keyword = .ok (some k) ∧ e.message ∈ k.remarks := by
  rcases events_cases s line with hnone | ⟨fields, hskip⟩ | ⟨k, value, fields, hv, hobey⟩
  · rw [hnone] at h
    cases h
  · rw [hskip] at h
    rw [List.mem_singleton.mp h]
    exact .inl List.mem_cons_self
  · rw [hobey] at h
    rcases List.mem_cons.mp h with rfl | h
    · exact .inl (List.mem_cons_of_mem _ List.mem_cons_self)
    · exact .inr ⟨k, hv.keyword, message_obey h⟩

/-- No step logs a message that neither tells how a line is read nor is a remark of its
directive. -/
theorem filter_message_feed (s : Scanner) {line : Line} {message : String}
    (hread : message ∉ ["Skipping non-directive line", "Directive"])
    (hremarks : ∀ k, line.keyword = .ok (some k) → message ∉ k.remarks) :
    (s.feed line).events.filter (fun e => e.message == message) = [] := by
  rw [List.filter_eq_nil_iff]
  intro e he
  rw [beq_iff_eq]
  rintro rfl
  rcases message_feed he with h | ⟨k, hk, hremark⟩
  · exact hread h
  · exact hremarks k hk hremark

/-- No line before the primary keys makes the scanner warn of a dropped column. -/
theorem filter_dropped_feed (s : Scanner) {line : Line}
    (h : line.keyword ≠ .ok (some .primaryKeys)) :
    (s.feed line).events.filter Event.saysDropped = [] := by
  refine filter_message_feed s (by decide) fun k hk => ?_
  cases k with
  | primaryKeys => exact absurd hk h
  | _ => decide

/-- The end of the table does, when a draft is open. -/
theorem filter_dropped_end {s : Scanner} {line : Line} {value : String} (hs : s.isDone = false)
    (h : line.Says .primaryKeys value) : (s.feed line).events.filter Event.saysDropped =
      if s.draft.isSome then [Event.droppedColumn line.number] else [] := by
  rw [events_directive hs h]
  simp only [obey, endTable, accepted]
  cases s.draft <;> rfl

/-- No line at all makes the scanner itself warn of an ignored table. -/
theorem filter_ignored_feed (s : Scanner) (line : Line) :
    (s.feed line).events.filter Event.saysIgnored = [] :=
  filter_message_feed s (by decide) fun k _ => by cases k <;> decide

end Scanner

/-! ### Drafts that are open -/

/-- Whether a line says something about a column but its name. -/
def Schema.Line.describes (line : Line) : Bool :=
  [Keyword.columnDescription, .type, .length, .nullable].any fun k => line.carries k

theorem Schema.Line.describes_of_keyword {line : Line} {k : Keyword}
    (h : line.keyword = .ok (some k)) :
    line.describes = [Keyword.columnDescription, .type, .length, .nullable].contains k := by
  simp only [describes, carries_of_keyword h]
  cases k <;> rfl

theorem Schema.Line.describes_of_prose {line : Line} (h : line.keyword = .ok none) :
    line.describes = false := by
  simp [describes, carries_of_prose h]

namespace Scanner
variable {settings : ScanSettings} {names : RenderSettings} {clock : Clock}

/-- A directive opens a draft, closes it or leaves it be. -/
theorem draft_obey {s : Scanner} {line : Line} {k : Keyword} {value : String}
    (hv : line.Says k value) (ha : s.Admits value k) :
    (s.obey line value k).scanner.draft.isSome =
      if line.carries .name then false else s.draft.isSome || line.describes := by
  rw [Line.carries_of_keyword hv.keyword, Line.describes_of_keyword hv.keyword]
  cases k with
  | length =>
    obtain ⟨length, hlength⟩ := ha
    simp [obey, setLength, hlength, accepted, sketch]
  | name =>
    obtain ⟨column, hcolumn⟩ := ha
    simp [obey, closeColumn, hcolumn, accepted]
  | columnDescription | type | nullable =>
    simp [obey, openColumn, setType, setNullable, accepted, sketch]
  | tableName | tableDescription =>
    simp [obey, setTableName, setTableDescription, accepted]
  | primaryKeys => exact ha.elim

/-- After lines that pass, a draft is open when one of those since the last name says
something about a column. -/
theorem draft_isSome {lines : List Line}
    (h : (Scanner.start settings names clock).PassesAll lines) :
    (after settings names clock lines).draft.isSome = (sinceName lines).any Line.describes := by
  induction lines using List.reverseRecOn with
  | nil => rfl
  | append_singleton lines line ih =>
    obtain ⟨hlines, hline⟩ := passesAll_concat.mp h
    have hdone := isDone_feedAll rfl hlines
    have hany : (sinceName (lines ++ [line])).any Line.describes =
        if line.carries .name then false
        else (sinceName lines).any Line.describes || line.describes := by
      rw [sinceName_concat]
      cases line.carries .name <;> simp
    rw [hany, after, feedAll_concat, ← ih hlines]
    rcases (passes_iff hdone).mp hline with hp | ⟨k, value, hv, ha⟩
    · rw [(feed_prose hdone hp).1, Line.carries_of_prose hp, Line.describes_of_prose hp,
        Bool.or_false]
      rfl
    · rw [(feed_directive hdone hv).1]
      exact draft_obey hv ha

end Scanner

/-! ### What becomes of a description -/

/-- The first of some lines that names a column or describes another one. -/
def Schema.nextTurn (lines : List Line) : Option Line :=
  lines.find? fun line => line.carries .name || line.carries .columnDescription

theorem Schema.nextTurn_eq_none_iff {lines : List Line} : nextTurn lines = none ↔
    ∀ line ∈ lines, line.carries .name = false ∧ line.carries .columnDescription = false := by
  simp [nextTurn]

/-- The lines before the next turn neither name a column nor describe one. -/
theorem Schema.nextTurn_eq_some {lines : List Line} {turn : Line}
    (h : nextTurn lines = some turn) : ∃ between later, lines = between ++ turn :: later ∧
      nextTurn between = none := by
  obtain ⟨-, between, later, hlines, hbetween⟩ := List.find?_eq_some_iff_append.mp h
  refine ⟨between, later, hlines, nextTurn_eq_none_iff.mpr fun line hline => ?_⟩
  simpa using hbetween line hline

theorem Schema.nextTurn_carries {lines : List Line} {turn : Line}
    (h : nextTurn lines = some turn) :
    turn.keyword = .ok (some .name) ∨ turn.keyword = .ok (some .columnDescription) := by
  have hturn := List.find?_some (p := fun line : Line =>
    line.carries .name || line.carries .columnDescription) h
  rwa [Bool.or_eq_true, Line.carries_iff, Line.carries_iff] at hturn

/-- A description begins the window up to the next turn. -/
theorem Schema.window_description {between : List Line} {description : Line}
    (hd : description.keyword = .ok (some .columnDescription)) (h : nextTurn between = none)
    (earlier : List Line) :
    window (earlier ++ description :: between) = description :: between := by
  rw [List.append_cons, window_append_others _ (nextTurn_eq_none_iff.mp h),
    window_concat_description hd]
  rfl

theorem Schema.lastLine_description {between : List Line} {description : Line}
    (hd : description.keyword = .ok (some .columnDescription)) (h : nextTurn between = none) :
    lastLine .columnDescription (description :: between) = some description := by
  rw [lastLine, List.reverse_cons, List.find?_append, List.find?_eq_none.mpr, Option.none_or]
  · simp [Line.carries_iff.mpr hd]
  · intro line hline
    rw [(nextTurn_eq_none_iff.mp h line (List.mem_reverse.mp hline)).2]
    decide

/-- Names left out, what stands at the end of some lines is what stands since the last name. -/
theorem Schema.sinceName_append (lines : List Line) {more : List Line}
    (h : ∀ line ∈ more, line.carries .name = false) :
    sinceName (lines ++ more) = sinceName lines ++ more := by
  induction more using List.reverseRecOn with
  | nil => simp
  | append_singleton more line ih =>
    rw [← List.append_assoc, sinceName_concat, h line (by simp), if_neg Bool.false_ne_true,
      ih fun l hl => h l (by simp [hl]), List.append_assoc]

/-- Where a description waits for its name, a line since the last name describes a column. -/
theorem Schema.describes_of_waiting {earlier later : List Line} {description : Line}
    (hd : description.keyword = .ok (some .columnDescription)) (h : nextTurn later = none) :
    (sinceName (earlier ++ description :: later)).any Line.describes = true := by
  have hdescribes : description.describes = true := by
    rw [Line.describes_of_keyword hd]
    rfl
  rw [List.append_cons,
    sinceName_append _ fun line hline => (nextTurn_eq_none_iff.mp h line hline).1,
    sinceName_concat, Line.carries_of_keyword hd]
  simp [hdescribes]

/-- A description whose next turn is a name is the display name of the column that is named. -/
theorem ColumnsOf.described {settings : ScanSettings} {earlier later : List Line}
    {description turn : Line} {columns : List Column}
    (h : ColumnsOf settings (earlier ++ description :: later) columns)
    (hd : description.keyword = .ok (some .columnDescription)) (hturn : nextTurn later = some turn)
    (hname : turn.keyword = .ok (some .name)) :
    ∃ column, columns[earlier.countP (Line.carries .name)]? = some column ∧
      extractValue description.text = .ok column.chineseName.toList := by
  obtain ⟨between, after, rfl, hbetween⟩ := nextTurn_eq_some hturn
  have hnone : (description :: between).countP (Line.carries .name) = 0 := by
    rw [List.countP_eq_zero, List.forall_mem_cons, Line.carries_of_keyword hd]
    refine ⟨by decide, fun line hline => ?_⟩
    rw [(nextTurn_eq_none_iff.mp hbetween line hline).1]
    decide
  have hcount : (earlier ++ description :: between).countP (Line.carries .name) =
      earlier.countP (Line.carries .name) := by
    rw [List.countP_append, hnone, Nat.add_zero]
  obtain ⟨column, hcolumn, hof⟩ := h.each (earlier ++ description :: between) turn after
    (by simp) (Line.carries_iff.mpr hname)
  have hheading := hof.heading
  rw [window_description hd hbetween, lastLine_description hd hbetween] at hheading
  exact ⟨column, hcount ▸ hcolumn, hheading.1⟩

section Scan
variable {settings : ScanSettings} {names : RenderSettings} {clock : Clock} {source : String}
variable {before rest : List Line} {last : Line} {output : ScanOutput}

/-- The warnings of dropped columns in a whole log. -/
theorem scanSource_filter_dropped (hends : EndsAt (sourceLines source) before last rest)
    (h : (scanSource settings names clock source).result = .ok output) :
    (scanSource settings names clock source).events.filter Event.saysDropped =
      if (sinceName before).any Line.describes then [Event.droppedColumn last.number] else [] := by
  obtain ⟨value, hpass, hv, -⟩ := scanSource_endsAt hends h
  have hfurther : (furtherTable rest).filter Event.saysDropped = [] := by
    unfold furtherTable
    split <;> rfl
  have hlogged := Scanner.filter_logged
    (fun s line hline => Scanner.filter_dropped_feed s (hends.before line hline))
    (.start settings names clock)
  rw [scanSource_events hends hpass hv, List.filter_append, List.filter_append, hlogged, hfurther,
    Scanner.filter_dropped_end (Scanner.isDone_feedAll rfl hpass) hv, Scanner.draft_isSome hpass,
    List.nil_append, List.append_nil]

/-- **A column is lost without a warning only where the next description supersedes its own.**
Every other description before the primary keys is the display name of a column, the one its
next name closes, or it still waits for its name at the end of the table, and that is what the
warning is about: it is logged once, at the primary keys, when lines since the last name
describe a column, and never otherwise. -/
theorem scanSource_dropped (hends : EndsAt (sourceLines source) before last rest)
    (h : (scanSource settings names clock source).result = .ok output) :
    (∀ earlier description later, before = earlier ++ description :: later →
      description.keyword = .ok (some .columnDescription) →
      (∀ again, nextTurn later = some again → again.keyword ≠ .ok (some .columnDescription)) →
      (∃ name column, nextTurn later = some name ∧ name.keyword = .ok (some .name) ∧
        output.table.columns[earlier.countP (Line.carries .name)]? = some column ∧
        extractValue description.text = .ok column.chineseName.toList) ∨
      Event.droppedColumn last.number ∈ (scanSource settings names clock source).events) ∧
    (scanSource settings names clock source).events.filter Event.saysDropped =
      if (sinceName before).any Line.describes then [Event.droppedColumn last.number] else [] := by
  have hlog := scanSource_filter_dropped hends h
  refine ⟨fun earlier description later hbefore hd hnext => ?_, hlog⟩
  subst hbefore
  cases hturn : nextTurn later with
  | none =>
    -- the draft of the description is still open at the primary keys
    rw [describes_of_waiting hd hturn, if_pos rfl] at hlog
    exact .inr (List.mem_of_mem_filter (hlog ▸ List.mem_singleton_self _))
  | some turn =>
    have hname : turn.keyword = .ok (some .name) :=
      (nextTurn_carries hturn).resolve_right (hnext turn hturn)
    obtain ⟨value, hpass, -, rfl⟩ := scanSource_endsAt hends h
    obtain ⟨column, hcolumn, hvalue⟩ :=
      (Scanner.columnsOf_after hpass).described hd hturn hname
    exact .inl ⟨turn, column, rfl, hname, hcolumn, hvalue⟩

end Scan

/-- A column, and the description of another one. -/
def pendingSchema : String := "-description:名称\nname:title\n-description:编号\nprimary-keys:title\n"

/-- The second description waits for its name in vain, and is warned about. -/
theorem scanSource_dropped_pending : ∃ output,
    (scanSource { missingFields := .inherit } {} (.ofList ⟨2024, 5, 6, 7, 8, 9⟩ [])
      pendingSchema).result = .ok output ∧
    EndsAt (sourceLines pendingSchema) [⟨1, "-description:名称"⟩, ⟨2, "name:title"⟩,
      ⟨3, "-description:编号"⟩] ⟨4, "primary-keys:title"⟩ [] ∧
    Line.keyword ⟨3, "-description:编号"⟩ = .ok (some .columnDescription) ∧
    Event.droppedColumn 4 ∈ (scanSource { missingFields := .inherit } {}
      (.ofList ⟨2024, 5, 6, 7, 8, 9⟩ []) pendingSchema).events := by
  have hany : (scanSource { missingFields := .inherit } {} (.ofList ⟨2024, 5, 6, 7, 8, 9⟩ [])
      pendingSchema).result.toOption.any (fun _ => true) = true := by decide
  obtain ⟨output, hresult, -⟩ := exists_ok_of_any hany
  have hends : EndsAt (sourceLines pendingSchema) [⟨1, "-description:名称"⟩, ⟨2, "name:title"⟩,
      ⟨3, "-description:编号"⟩] ⟨4, "primary-keys:title"⟩ [] := by decide
  have hkeyword : Line.keyword ⟨3, "-description:编号"⟩ = .ok (some .columnDescription) := rfl
  refine ⟨output, hresult, hends, hkeyword, ?_⟩
  rcases (scanSource_dropped hends hresult).1 [_, _] _ [] rfl hkeyword nofun with
    ⟨name, column, hnone, -⟩ | hdropped
  · cases hnone
  · exact hdropped

/-- Two descriptions, and a name for the second only. -/
def supersededSchema : String :=
  "-description:编号\n-description:名称\ntype:String\nlength:8\nnullable:no\nname:title\n" ++
    "primary-keys:title\n"

/-- Nothing is logged about the first description, whose column is lost. -/
theorem scanSource_dropped_superseded : ∃ output again later last,
    (scanSource {} {} (.ofList ⟨2024, 5, 6, 7, 8, 9⟩ []) supersededSchema).result = .ok output ∧
    EndsAt (sourceLines supersededSchema) (⟨1, "-description:编号"⟩ :: later) last [] ∧
    Line.keyword ⟨1, "-description:编号"⟩ = .ok (some .columnDescription) ∧
    nextTurn later = some again ∧ again.keyword = .ok (some .columnDescription) ∧
    output.table.columns.map Column.chineseName = ["名称"] ∧
    (scanSource {} {} (.ofList ⟨2024, 5, 6, 7, 8, 9⟩ [])
      supersededSchema).events.filter Event.saysDropped = [] := by
  have hscan : ((scanSource {} {} (.ofList ⟨2024, 5, 6, 7, 8, 9⟩ [])
      supersededSchema).result.toOption.any (fun output =>
        output.table.columns.map Column.chineseName == ["名称"]) &&
      (scanSource {} {} (.ofList ⟨2024, 5, 6, 7, 8, 9⟩ [])
        supersededSchema).events.filter Event.saysDropped == []) = true := by decide
  obtain ⟨hany, hlog⟩ := Bool.and_eq_true_iff.mp hscan
  obtain ⟨output, hresult, hnames⟩ := exists_ok_of_any hany
  exact ⟨output, ⟨2, "-description:名称"⟩, [⟨2, "-description:名称"⟩, ⟨3, "type:String"⟩,
      ⟨4, "length:8"⟩, ⟨5, "nullable:no"⟩, ⟨6, "name:title"⟩], ⟨7, "primary-keys:title"⟩, hresult,
    by decide, rfl, rfl, rfl, eq_of_beq hnames, eq_of_beq hlog⟩

/-! ### The names of the table -/

/-- The table has the names that a table-name with this value gives. -/
structure Table.Titled (t : Table) (value : String) : Prop where
  sourceName : t.sourceName = value
  structName : t.structName = Naming.structName value
  jsonName : t.jsonName = Naming.jsonName value

namespace Scanner

/-- Only a table-name changes the names of the table. -/
theorem Becomes.titled {s t : Scanner} {value title : String} {k : Keyword}
    (h : s.Becomes value k t) (hs : s.table.Titled title) (hk : k ≠ .tableName) :
    t.table.Titled title := by
  cases h with
  | drafting => exact hs
  | naming => exact absurd rfl hk
  | describing | adding | ending => exact ⟨hs.sourceName, hs.structName, hs.jsonName⟩

/-- A table-name gives the names as long as no other one follows. -/
theorem titled_feedAll {s : Scanner} {named : Line} {title : String} (hs : s.isDone = false)
    (hv : named.Says .tableName title) {later : List Line}
    (hlater : ∀ line ∈ later, line.keyword ≠ .ok (some .tableName)) :
    (s.feedAll (named :: later)).table.Titled title := by
  have hnamed : (s.feed named).scanner.table.Titled title := by
    rw [(feed_directive hs hv).1]
    exact ⟨rfl, rfl, rfl⟩
  show ((s.feed named).scanner.feedAll later).table.Titled title
  apply feedAll_keeps (fun t => t.table.Titled title) hnamed
  intro t line hline value k ht _ hv
  exact (becomes_obey t line value k).titled ht fun hk => hlater line hline (hk ▸ hv.keyword)

end Scanner

theorem Schema.Line.namesTable_iff {line : Line} :
    line.namesTable = true ↔ line.keyword = .ok (some .tableName) := by
  unfold namesTable
  split
  · next h => simp [h]
  · next h => simpa using h

/-- The warning tells the first line left over that names a table. -/
theorem furtherTable_append {earlier later : List Line} {further : Line}
    (hearlier : ∀ line ∈ earlier, line.keyword ≠ .ok (some .tableName))
    (hfurther : further.keyword = .ok (some .tableName)) :
    furtherTable (earlier ++ further :: later) = [Event.ignoredTable further.number] := by
  have hfind : (earlier ++ further :: later).find? Line.namesTable = some further := by
    rw [List.find?_eq_some_iff_append]
    refine ⟨Line.namesTable_iff.mpr hfurther, earlier, later, rfl, fun line hline => ?_⟩
    rw [Bool.not_eq_true', ← Bool.not_eq_true, Line.namesTable_iff]
    exact hearlier line hline
  rw [furtherTable, hfind]
  rfl

theorem furtherTable_eq_nil {rest : List Line}
    (hrest : ∀ line ∈ rest, line.keyword ≠ .ok (some .tableName)) : furtherTable rest = [] := by
  have hfind : rest.find? Line.namesTable = none := by
    rw [List.find?_eq_none]
    intro line hline
    rw [Line.namesTable_iff]
    exact hrest line hline
  rw [furtherTable, hfind]

section Scan
variable {settings : ScanSettings} {names : RenderSettings} {clock : Clock} {source : String}
variable {before rest : List Line} {last : Line} {output : ScanOutput}

/-- The warnings of ignored tables in a whole log. -/
theorem scanSource_filter_ignored (hends : EndsAt (sourceLines source) before last rest)
    (h : (scanSource settings names clock source).result = .ok output) :
    (scanSource settings names clock source).events.filter Event.saysIgnored =
      furtherTable rest := by
  obtain ⟨value, hpass, hv, -⟩ := scanSource_endsAt hends h
  have hfurther : (furtherTable rest).filter Event.saysIgnored = furtherTable rest := by
    unfold furtherTable
    split <;> rfl
  rw [scanSource_events hends hpass hv, List.filter_append, List.filter_append,
    Scanner.filter_logged (fun s line _ => Scanner.filter_ignored_feed s line),
    Scanner.filter_ignored_feed, hfurther, List.nil_append, List.nil_append]

/-- **The last table-name before the primary keys gives the table its names, and only tables
after the primary keys are warned about.** So where a table-name comes once before the primary
keys, a further one is warned about, at the first line that has it, and changes nothing; but
of several that come before, the last one overrides the others without a warning. -/
theorem scanSource_tables (hends : EndsAt (sourceLines source) before last rest)
    (h : (scanSource settings names clock source).result = .ok output) :
    (∀ earlier named later, before = earlier ++ named :: later →
      named.keyword = .ok (some .tableName) →
      (∀ line ∈ later, line.keyword ≠ .ok (some .tableName)) →
      ∃ value, extractValue named.text = .ok value.toList ∧ output.table.sourceName = value ∧
        output.table.structName = Naming.structName value ∧
        output.table.jsonName = Naming.jsonName value) ∧
    (∀ earlier further later, rest = earlier ++ further :: later →
      further.keyword = .ok (some .tableName) →
      (∀ line ∈ earlier, line.keyword ≠ .ok (some .tableName)) →
      (scanSource settings names clock source).events.filter Event.saysIgnored =
        [Event.ignoredTable further.number]) ∧
    ((∀ line ∈ rest, line.keyword ≠ .ok (some .tableName)) →
      (scanSource settings names clock source).events.filter Event.saysIgnored = []) := by
  rw [scanSource_filter_ignored hends h]
  refine ⟨?_, ?_, ?_⟩
  · intro earlier named later hbefore hnamed hlater
    obtain ⟨primaryKeys, hpass, -, rfl⟩ := scanSource_endsAt hends h
    subst hbefore
    obtain ⟨hearlier, hpasses, -⟩ := Scanner.passesAll_append.mp hpass
    obtain ⟨chars, hchars⟩ :=
      ((Scanner.passes_after_iff hearlier).mp hpasses).1.valued _ hnamed
    have hv : named.Says .tableName (String.ofList chars) :=
      ⟨hnamed, by rw [hchars, String.toList_ofList]⟩
    have htitled := Scanner.titled_feedAll (Scanner.isDone_feedAll rfl hearlier) hv hlater
    rw [← Scanner.feedAll_append] at htitled
    exact ⟨_, hv.value, htitled.sourceName, htitled.structName, htitled.jsonName⟩
  · intro earlier further later hrest hfurther hearlier
    rw [hrest]
    exact furtherTable_append hearlier hfurther
  · exact furtherTable_eq_nil

end Scan

/-- A table, and another one after it. -/
def twoTableSchema : String := "table-name:t_order\nprimary-keys:id\ntable-name:t_user\n"

/-- The second table is warned about and left out. -/
theorem scanSource_tables_two : ∃ output,
    (scanSource {} {} (.ofList ⟨2024, 5, 6, 7, 8, 9⟩ []) twoTableSchema).result = .ok output ∧
    EndsAt (sourceLines twoTableSchema) [⟨1, "table-name:t_order"⟩] ⟨2, "primary-keys:id"⟩
      [⟨3, "table-name:t_user"⟩] ∧
    (∃ value, extractValue (Line.text ⟨1, "table-name:t_order"⟩) = .ok value.toList ∧
      output.table.sourceName = value) ∧
    Event.ignoredTable 3 ∈
      (scanSource {} {} (.ofList ⟨2024, 5, 6, 7, 8, 9⟩ []) twoTableSchema).events := by
  have hany : (scanSource {} {} (.ofList ⟨2024, 5, 6, 7, 8, 9⟩ [])
      twoTableSchema).result.toOption.any (fun _ => true) = true := by decide
  obtain ⟨output, hresult, -⟩ := exists_ok_of_any hany
  have hends : EndsAt (sourceLines twoTableSchema) [⟨1, "table-name:t_order"⟩]
      ⟨2, "primary-keys:id"⟩ [⟨3, "table-name:t_user"⟩] := by decide
  obtain ⟨hnames, hfurther, -⟩ := scanSource_tables hends hresult
  obtain ⟨value, hvalue, hsource, -, -⟩ := hnames [] _ [] rfl rfl nofun
  have hlog := hfurther [] _ [] rfl rfl nofun
  exact ⟨output, hresult, hends, ⟨value, hvalue, hsource⟩,
    List.mem_of_mem_filter (hlog ▸ List.mem_singleton_self _)⟩

/-- Two tables that run into one another. -/
def mergedSchema : String := "table-name:t_order\ntable-name:t_user\nprimary-keys:id\n"

/-- The second table-name overrides the first, and nothing is logged about it. -/
theorem scanSource_tables_merged : ∃ output,
    (scanSource {} {} (.ofList ⟨2024, 5, 6, 7, 8, 9⟩ []) mergedSchema).result = .ok output ∧
    EndsAt (sourceLines mergedSchema) [⟨1, "table-name:t_order"⟩, ⟨2, "table-name:t_user"⟩]
      ⟨3, "primary-keys:id"⟩ [] ∧
    Line.keyword ⟨1, "table-name:t_order"⟩ = .ok (some .tableName) ∧
    Line.keyword ⟨2, "table-name:t_user"⟩ = .ok (some .tableName) ∧
    output.table.sourceName = "t_user" ∧ output.table.structName = "TUser" ∧
    output.table.jsonName = "tUser" ∧
    (scanSource {} {} (.ofList ⟨2024, 5, 6, 7, 8, 9⟩ [])
      mergedSchema).events.filter Event.saysIgnored = [] := by
  have hscan : ((scanSource {} {} (.ofList ⟨2024, 5, 6, 7, 8, 9⟩ [])
      mergedSchema).result.toOption.any (fun output => output.table.sourceName == "t_user" &&
        output.table.structName == "TUser" && output.table.jsonName == "tUser") &&
      (scanSource {} {} (.ofList ⟨2024, 5, 6, 7, 8, 9⟩ [])
        mergedSchema).events.filter Event.saysIgnored == []) = true := by decide
  obtain ⟨hany, hlog⟩ := Bool.and_eq_true_iff.mp hscan
  obtain ⟨output, hresult, hnames⟩ := exists_ok_of_any hany
  simp only [Bool.and_eq_true, beq_iff_eq] at hnames
  exact ⟨output, hresult, by decide, rfl, rfl, hnames.1.1, hnames.1.2, hnames.2,
    eq_of_beq hlog⟩

end SchemaReport
