import SchemaReport.Clock
import SchemaReport.Report.Section

/-! Reports and how they are put together. A builder takes the columns one by one and adds
an entry to each of the five sections that list columns, so that these always hold equally
many; a report is what its bodies look like between their headers, with the struct and the
JSON block closed and a banner at either end. -/
namespace SchemaReport

/-- The text appended to a report file by one conversion. -/
structure Report where
  text : String
  columnCount : Nat
  deriving DecidableEq, Repr

/-- The bodies of the sections as far as they are filled. -/
structure ReportBuilder where
  names : RenderSettings
  startedAt : Timestamp
  tableNames : String
  structs : String
  json : String
  checks : String
  assignments : String
  docs : String
  columnCount : Nat
  deriving DecidableEq, Repr

namespace ReportBuilder

/-- A builder without entries. -/
def start (names : RenderSettings) (startedAt : Timestamp) : ReportBuilder :=
  ⟨names, startedAt, "", "", "", "", "", "", 0⟩

/-- Records the description of the table and opens its struct. -/
def openTable (b : ReportBuilder) (description structName : String) : ReportBuilder :=
  { b with
    tableNames := b.tableNames ++ Entry.tableName description
    structs := b.structs ++ Entry.structHead description structName }

/-- Adds a column to every section that lists columns. Members of the JSON block are
separated by a comma and a line feed. -/
def push (b : ReportBuilder) (c : Column) : ReportBuilder :=
  { b with
    structs := b.structs ++ Entry.field c
    json := b.json ++ (if 0 < b.columnCount then ",\n" else "") ++ Entry.member c
    checks := b.checks ++ Entry.check b.names c
    assignments := b.assignments ++ Entry.assignment b.names c
    docs := b.docs ++ Entry.doc c
    columnCount := b.columnCount + 1 }

/-- The body of a section so far, without what `finish` adds to it. -/
def body (b : ReportBuilder) : Section → String
  | .tableName => b.tableNames
  | .primaryKeys => ""
  | .struct => b.structs
  | .json => b.json
  | .validation => b.checks
  | .assignment => b.assignments
  | .doc => b.docs

end ReportBuilder

namespace Report

/-- The line that opens a report. -/
def startBanner (time : Timestamp) : String :=
  "\n--------------------------------生成时间：" ++ time.text ++
    "--------------------------------\n"

/-- The line that ends a report. -/
def endBanner (time : Timestamp) : String :=
  "\n================================信息提取结束 " ++ time.text ++
    "================================\n"

/-- The primary keys take a line of their own. -/
def keysBody (primaryKeys : String) : String := "\t" ++ primaryKeys ++ "\n"

/-- The struct block is closed by a brace. -/
def structBody (fields : String) : String := fields ++ "\t\x7d\n"

/-- The JSON block: an object with a comment and the data, whose members are given. -/
def jsonBody (members : String) : String :=
  "\t\x7b\n\t\t\"com\":\"\",\n\t\t\"data\":\x7b\n" ++ members ++ "\n\t\t\x7d\n\t\x7d\n"

/-- A section: an empty line, its header and its body. -/
def sectionText (s : Section) (body : String) : String := "\n" ++ s.header ++ "\n" ++ body

end Report

namespace ReportBuilder

/-- The body of a section as the finished report shows it. -/
def closedBody (b : ReportBuilder) (primaryKeys : String) : Section → String
  | .primaryKeys => Report.keysBody primaryKeys
  | .struct => Report.structBody b.structs
  | .json => Report.jsonBody b.json
  | other => b.body other

/-- The report on the columns so far. The builder can go on afterwards. -/
def finish (b : ReportBuilder) (primaryKeys : String) (finishedAt : Timestamp) : Report :=
  { text := Report.startBanner b.startedAt ++
      String.join (Section.all.map fun s => Report.sectionText s (b.closedBody primaryKeys s)) ++
      Report.endBanner finishedAt
    columnCount := b.columnCount }

end ReportBuilder
end SchemaReport
