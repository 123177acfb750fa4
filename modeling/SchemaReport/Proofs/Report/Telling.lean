import SchemaReport.Proofs.Report.Calls

/-! What a scanner tells its builder.

A scanner tells its builder of a table when the table is described, and of a column when its
name completes it; `told` lists these calls for any lines, refused ones among them. The
builder is what the calls make of it and the columns of the table are those of the calls
(`tells_feedAll`), wherever the scanner stands. So sections and table never part
(`inStep_after`). -/
namespace SchemaReport
open Text Schema

/-- Whether the call opens the struct of a table. -/
def Call.opensTable : Call → Bool
  | opens _ _ => true
  | adds _ => false

/-- Without the heads of tables, the texts of calls are the fields of their columns. -/
theorem Call.structTexts_columns (calls : List Call) :
    (calls.filter fun call => !call.opensTable).map structText =
      (calls.filterMap column?).map Entry.field := by
  induction calls with
  | nil => rfl
  | cons call rest ih =>
    cases call with
    | opens description structName => exact ih
    | adds column => exact congrArg (Entry.field column :: ·) ih

namespace Scanner

/-- What the scanner tells its builder when it obeys a directive. -/
def tells (s : Scanner) (value : String) : Keyword → List Call
  | .tableDescription => [.opens value s.table.structName]
  | .name =>
    match (s.draft.getD {}).complete s.settings.missingFields s.previous value with
    | .ok column => [.adds column]
    | .error _ => []
  | _ => []

/-- What it tells it at a line. A line that is refused or skipped, or comes after the table,
makes it tell nothing. -/
def tellsAt (s : Scanner) (line : Line) : List Call :=
  if s.isDone then []
  else match line.keyword, extractValue line.text with
    | .ok (some k), .ok chars => s.tells (String.ofList chars) k
    | _, _ => []

theorem tellsAt_done {s : Scanner} (hs : s.isDone = true) (line : Line) : s.tellsAt line = [] := by
  rw [tellsAt, if_pos hs]

theorem tellsAt_unreadable {line : Line} {cause : ValueError} (h : line.Unreadable cause)
    (s : Scanner) : s.tellsAt line = [] := by
  rw [tellsAt]
  rcases h with h | ⟨k, hk, h⟩
  · rw [h, ite_self]
  · rw [hk, h, ite_self]

theorem tellsAt_prose {line : Line} (h : line.keyword = .ok none) (s : Scanner) :
    s.tellsAt line = [] := by
  rw [tellsAt, h, ite_self]

theorem tellsAt_directive {s : Scanner} {line : Line} {k : Keyword} {value : String}
    (hs : s.isDone = false) (h : line.Says k value) : s.tellsAt line = s.tells value k := by
  have hd : ¬ s.isDone = true := by simp [hs]
  rw [tellsAt, if_neg hd, h.keyword, h.value]
  simp only [String.ofList_toList]

/-- What it tells it at all of some lines. -/
def told (s : Scanner) : List Line → List Call
  | [] => []
  | line :: rest => s.tellsAt line ++ (s.feed line).scanner.told rest

/-- The calls are all that lies between two scanners, as far as builder and columns go. -/
structure Tells (s t : Scanner) (calls : List Call) : Prop where
  builder : t.builder = s.builder.takeAll calls
  columns : t.table.columns = s.table.columns ++ calls.filterMap Call.column?

theorem Tells.nothing {s t : Scanner} (hbuilder : t.builder = s.builder)
    (htable : t.table.columns = s.table.columns) : s.Tells t [] :=
  ⟨hbuilder, by rw [htable]; exact (List.append_nil _).symm⟩

theorem Tells.trans {s t u : Scanner} {calls more : List Call} (h : s.Tells t calls)
    (h' : t.Tells u more) : s.Tells u (calls ++ more) where
  builder := by rw [ReportBuilder.takeAll_append, ← h.builder, h'.builder]
  columns := by rw [List.filterMap_append, ← List.append_assoc, ← h.columns, h'.columns]

theorem tells_obey (s : Scanner) (line : Line) (value : String) (k : Keyword) :
    s.Tells (s.obey line value k).scanner (s.tells value k) := by
  cases k with
  | tableDescription => exact ⟨rfl, (List.append_nil _).symm⟩
  | name =>
    simp only [obey, closeColumn, tells]
    cases (s.draft.getD {}).complete s.settings.missingFields s.previous value with
    | error field => exact .nothing rfl rfl
    | ok column => exact ⟨rfl, rfl⟩
  | length =>
    simp only [obey, setLength, tells]
    split
    · exact .nothing rfl rfl
    · exact .nothing rfl rfl
  | tableName | columnDescription | type | nullable | primaryKeys => exact .nothing rfl rfl

theorem tells_feed (s : Scanner) (line : Line) :
    s.Tells (s.feed line).scanner (s.tellsAt line) := by
  cases hs : s.isDone with
  | true =>
    rw [feed_done hs, tellsAt_done hs]
    exact .nothing rfl rfl
  | false =>
    rcases line.reads with ⟨cause, hu⟩ | hp | ⟨k, value, hv⟩
    · rw [feed_unreadable hs hu, tellsAt_unreadable hu]
      exact .nothing rfl rfl
    · rw [(feed_prose hs hp).1, tellsAt_prose hp]
      exact .nothing rfl rfl
    · rw [(feed_directive hs hv).1, tellsAt_directive hs hv]
      exact tells_obey s line value k

/-- Whatever lines it is fed, the scanner tells its builder what it adds to its table. -/
theorem tells_feedAll (s : Scanner) (lines : List Line) :
    s.Tells (s.feedAll lines) (s.told lines) := by
  induction lines generalizing s with
  | nil => exact .nothing rfl rfl
  | cons line rest ih => exact (tells_feed s line).trans (ih _)

/-! ### Sections and table -/

/-- The report, if there is one, counts the columns of the table. -/
def Counted (s : Scanner) : Prop :=
  ∀ report, s.report = some report → report.columnCount = s.table.columns.length

theorem Becomes.counted {s t : Scanner} {value : String} {k : Keyword} (h : s.Becomes value k t)
    (hc : s.Counted) (hr : s.Reported) (hl : s.builder.Lists s.table.columns)
    (hs : s.isDone = false) : t.Counted := by
  cases h with
  | drafting | naming | describing => exact hc
  | adding =>
    -- there is no report yet, or the table would be complete
    intro report hreport
    have hsome : s.report.isSome = true := Option.isSome_of_eq_some hreport
    rw [show s.report.isSome = s.isDone from hr, hs] at hsome
    cases hsome
  | ending =>
    intro report hreport
    rw [← Option.some.inj hreport]
    exact hl.columnCount

theorem counted_feedAll {s : Scanner} (hc : s.Counted) (hr : s.Reported)
    (hl : s.builder.Lists s.table.columns) (lines : List Line) : (s.feedAll lines).Counted :=
  (feedAll_invariant
    (fun t => t.Counted ∧ t.Reported ∧ t.builder.Lists t.table.columns)
    (fun t line value k ht hd _ => ⟨(becomes_obey t line value k).counted ht.1 ht.2.1 ht.2.2 hd,
      (becomes_obey t line value k).reported ht.2.1 hd, (becomes_obey t line value k).lists ht.2.2⟩)
    ⟨hc, hr, hl⟩ lines).1

/-- A scanner whose builder has been told this and no more, and whose sections show the columns
of its table: the five that list columns list these, the struct section apart from the heads
of tables. -/
structure InStep (s : Scanner) (names : RenderSettings) (startedAt : Timestamp)
    (calls : List Call) : Prop where
  builder : s.builder = (ReportBuilder.start names startedAt).takeAll calls
  columnCount : s.builder.columnCount = s.table.columns.length
  json : s.builder.body .json = String.intercalate ",\n" (s.table.columns.map Entry.member)
  validation : s.builder.body .validation =
    String.join (s.table.columns.map (Entry.check names))
  assignment : s.builder.body .assignment =
    String.join (s.table.columns.map (Entry.assignment names))
  doc : s.builder.body .doc = String.join (s.table.columns.map Entry.doc)
  struct : s.builder.body .struct = String.join (calls.map Call.structText)
  fields : (calls.filter fun call => !call.opensTable).map Call.structText =
    s.table.columns.map Entry.field
  report : ∀ report, s.report = some report → report.columnCount = s.table.columns.length

end Scanner

/-- **The sections of the report keep in step with the table**, in every state that a scanner
comes to from its start, whatever lines it is fed and whichever of them it refuses. -/
theorem Scanner.inStep_after (settings : ScanSettings) (names : RenderSettings) (clock : Clock)
    (lines : List Line) : (Scanner.after settings names clock lines).InStep names clock.now
      ((Scanner.start settings names clock).told lines) := by
  have htells := Scanner.tells_feedAll (.start settings names clock) lines
  have hstart : (Scanner.start settings names clock).builder.Lists [] :=
    ReportBuilder.lists_start names clock.now
  have hlists := Scanner.lists_feedAll hstart lines
  have hcounted := Scanner.counted_feedAll (s := .start settings names clock) (fun _ => nofun) rfl
    hstart lines
  have hnames : (Scanner.after settings names clock lines).builder.names = names := by
    rw [Scanner.after, htells.builder, ReportBuilder.names_takeAll]
    rfl
  have hcolumns : (Scanner.after settings names clock lines).table.columns =
      ((Scanner.start settings names clock).told lines).filterMap Call.column? :=
    htells.columns.trans (List.nil_append _)
  exact {
    builder := htells.builder
    columnCount := hlists.columnCount
    json := hlists.json
    validation := hlists.checks.trans (by rw [hnames])
    assignment := hlists.assignments.trans (by rw [hnames])
    doc := hlists.docs
    struct := by
      rw [ReportBuilder.body, Scanner.after, htells.builder, ReportBuilder.structs_takeAll]
      exact String.empty_append
    fields := by rw [hcolumns, Call.structTexts_columns]
    report := hcounted }

end SchemaReport
