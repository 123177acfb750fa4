import SchemaReport.Proofs.Report.Calls

/-! How a report is laid out.

A report is a banner, a header and a body for each section, and another banner (`Report.layout`).
What the bodies are is told by the calls the builder has taken and by the primary keys
(`Report.bodyFrom`); `finish_takeAll` says that the finished report is just that. The names that
generated code uses appear in two of the bodies only (`bodyFrom_names`). -/
namespace SchemaReport

namespace Report

/-- The text of a report with the given bodies. -/
def layout (started finished : Timestamp) (body : Section → String) : String :=
  startBanner started ++ String.join (Section.all.map fun s => sectionText s (body s)) ++
    endBanner finished

/-- What a report shows in each of its sections when its builder has taken the calls. -/
def bodyFrom (names : RenderSettings) (calls : List Call) (primaryKeys : String) :
    Section → String
  | .tableName => String.join ((calls.filterMap Call.description?).map Entry.tableName)
  | .primaryKeys => keysBody primaryKeys
  | .struct => structBody (String.join (calls.map Call.structText))
  | .json => jsonBody (members (calls.filterMap Call.column?))
  | .validation => String.join ((calls.filterMap Call.column?).map (Entry.check names))
  | .assignment => String.join ((calls.filterMap Call.column?).map (Entry.assignment names))
  | .doc => String.join ((calls.filterMap Call.column?).map Entry.doc)

/-- Only checks and assignments have a name of the settings in them. -/
theorem bodyFrom_names (names names' : RenderSettings) (calls : List Call) (primaryKeys : String)
    {s : Section} (hs : s ∉ [Section.validation, .assignment]) :
    bodyFrom names' calls primaryKeys s = bodyFrom names calls primaryKeys s := by
  cases s with
  | validation | assignment => exact absurd (by decide) hs
  | tableName | primaryKeys | struct | json | doc => rfl

end Report

namespace ReportBuilder

/-- A builder whose sections show these calls and these columns, and nothing else. -/
structure Holds (b : ReportBuilder) (names : RenderSettings) (calls : List Call)
    (columns : List Column) : Prop where
  tableName : b.body .tableName =
    String.join ((calls.filterMap Call.description?).map Entry.tableName)
  primaryKeys : b.body .primaryKeys = ""
  struct : b.body .struct = String.join (calls.map Call.structText)
  json : b.body .json = String.intercalate ",\n" (columns.map Entry.member)
  validation : b.body .validation = String.join (columns.map (Entry.check names))
  assignment : b.body .assignment = String.join (columns.map (Entry.assignment names))
  doc : b.body .doc = String.join (columns.map Entry.doc)
  columnCount : b.columnCount = columns.length

theorem holds_takeAll (names : RenderSettings) (started : Timestamp) (calls : List Call) :
    ((start names started).takeAll calls).Holds names calls (calls.filterMap Call.column?) := by
  have hlists := lists_takeAll (lists_start names started) calls
  have hnames : ((start names started).takeAll calls).names = names := names_takeAll _ _
  rw [List.nil_append] at hlists
  exact {
    tableName := (tableNames_takeAll _ calls).trans String.empty_append
    primaryKeys := rfl
    struct := (structs_takeAll _ calls).trans String.empty_append
    json := hlists.json
    validation := hlists.checks.trans (by rw [hnames])
    assignment := hlists.assignments.trans (by rw [hnames])
    doc := hlists.docs
    columnCount := hlists.columnCount }

/-- A builder finishes with the report its calls come to. -/
theorem finish_takeAll (names : RenderSettings) (started : Timestamp)
    (calls : List Call) (primaryKeys : String) (finished : Timestamp) :
    ((start names started).takeAll calls).finish primaryKeys finished =
      ⟨Report.layout started finished (Report.bodyFrom names calls primaryKeys),
        (calls.filterMap Call.column?).length⟩ := by
  have hholds := holds_takeAll names started calls
  have hstarted : ((start names started).takeAll calls).startedAt = started :=
    startedAt_takeAll _ _
  have hbody : ∀ s, ((start names started).takeAll calls).closedBody primaryKeys s =
      Report.bodyFrom names calls primaryKeys s := by
    intro s
    cases s with
    | tableName => exact hholds.tableName
    | primaryKeys => rfl
    | struct => exact congrArg Report.structBody hholds.struct
    | json => exact congrArg Report.jsonBody hholds.json
    | validation => exact hholds.validation
    | assignment => exact hholds.assignment
    | doc => exact hholds.doc
  rw [finish, hholds.columnCount, hstarted, Report.layout]
  simp only [hbody]

end ReportBuilder
end SchemaReport
