import SchemaReport.Log
import SchemaReport.Report.Builder
import SchemaReport.Scan.Draft
import SchemaReport.Schema.Directive
import SchemaReport.Text.Case

/-! The scanner: a machine that reads a schema line by line. A column is what stands between
its description and its name, and goes into the table and into every section of the report
at once; the first line with primary keys ends the table, and nothing after it counts.

`feed` is one step. It answers with the scanner after the line, what the step logs, and
the phase reached or the error. An error leaves the scanner as it was, but for the draft of
a column that could not be completed, which is dropped. -/
namespace SchemaReport
open Text Schema

/-- How far a scan has come. -/
inductive Phase
  | awaitingTable
  | readingTableHeader
  | readingColumn
  | done
  deriving DecidableEq, Repr

structure Scanner where
  settings : ScanSettings
  clock : Clock
  builder : ReportBuilder
  phase : Phase
  table : Table
  draft : Option Draft
  report : Option Report

/-- What one step answers. -/
structure Fed where
  scanner : Scanner
  events : List Event
  outcome : Except ScanError Phase

/-- The table and the report of a complete scan. -/
structure ScanOutput where
  table : Table
  report : Report
  deriving DecidableEq, Repr

namespace Scanner

/-- A scanner before its first line. It looks at the clock once, for the report's start. -/
def start (settings : ScanSettings) (names : RenderSettings) (clock : Clock) : Scanner where
  settings := settings
  clock := clock.tick
  builder := .start names clock.now
  phase := .awaitingTable
  table := .empty
  draft := none
  report := none

def isDone (s : Scanner) : Bool := s.phase == .done

/-- The words of a description that tell the length of a column is fixed, and that it is
not. The second contains the first. -/
def fixedWord : List Char := ['定', '长']

def variableWord : List Char := ['不', '定', '长']

/-- Whether a description, a whole canonical line, says the length is fixed. -/
def saysFixed (text : List Char) : Bool := occurs fixedWord text && !occurs variableWord text

/-- What a nullability says: `yes` and `no` in any case, and nothing else. -/
def readNullable (value : String) : Option Bool :=
  if lower value.toList = ['y', 'e', 's'] then some true
  else if lower value.toList = ['n', 'o'] then some false
  else none

/-- The column a new one inherits from: the last of the table, or the blank one. -/
def previous (s : Scanner) : Column := s.table.columns.getLastD .blank

/-- The display name in force: the one the draft has, or where columns inherit the one of
the column before. -/
def currentName (s : Scanner) : String :=
  match Draft.settled s.settings.missingFields ((s.draft.bind Draft.heading).map Heading.chineseName)
    s.previous.chineseName with
  | some name => name
  | none => ""

/-- The scanner with its draft changed; a draft begins with the first directive of a column. -/
def sketch (s : Scanner) (change : Draft → Draft) : Scanner :=
  { s with draft := some (change (s.draft.getD {})) }

/-- The answer to a line that was accepted. -/
def accepted (s : Scanner) (events : List Event) : Fed := ⟨s, events, .ok s.phase⟩

/-- The answer to a line that was refused. -/
def refused (s : Scanner) (line : Line) (fault : LineFault) : Fed :=
  ⟨s, [], .error (.atLine line.number line.raw fault)⟩

/-! ### What each directive does -/

def setTableName (s : Scanner) (value : String) : Fed :=
  let structName := Naming.structName value
  accepted
    { s with
      table := { s.table with
        sourceName := value
        structName := structName
        jsonName := Naming.jsonName value }
      phase := .readingTableHeader }
    [⟨.debug, "Table name", [("table", .text value), ("struct_name", .text structName)], .core⟩]

def setTableDescription (s : Scanner) (line : Line) (value : String) : Fed :=
  accepted
    { s with
      table := { s.table with description := value }
      builder := s.builder.openTable value s.table.structName }
    (if s.table.structName = "" then
      [⟨.warn, "Table description appears before table-name, struct will be unnamed",
        [("line", .number line.number)], .core⟩]
    else [])

def openColumn (s : Scanner) (line : Line) (value : String) : Fed :=
  accepted
    { s with
      draft := some { heading := some ⟨value, saysFixed line.text⟩ }
      phase := .readingColumn }
    []

def setType (s : Scanner) (value : String) : Fed :=
  let columnType := ColumnType.classify value s.currentName s.settings.floatKeywords
  accepted (s.sketch fun d => { d with columnType := some columnType })
    [⟨.debug, "Column type",
      [("column", .text s.currentName), ("raw", .text value),
        ("column_type", .text columnType.label)], .core⟩]

def setLength (s : Scanner) (line : Line) (value : String) : Fed :=
  match Length.parse? value with
  | some length => accepted (s.sketch fun d => { d with length := some length }) []
  | none => refused s line (.invalidLength value)

def setNullable (s : Scanner) (line : Line) (value : String) : Fed :=
  accepted (s.sketch fun d => { d with nullable := some ((readNullable value).getD false) })
    (match readNullable value with
    | some _ => []
    | none =>
      [⟨.warn, "Unrecognized nullable value, treating as not nullable",
        [("line", .number line.number), ("value", .text (String.ofList (lower value.toList)))],
        .core⟩])

/-- The name of a column closes it. Its draft is gone afterwards, completed or not. -/
def closeColumn (s : Scanner) (line : Line) (value : String) : Fed :=
  match (s.draft.getD {}).complete s.settings.missingFields s.previous value with
  | .error field => refused { s with draft := none } line (.missingField value field)
  | .ok column =>
    accepted
      { s with
        draft := none
        table := { s.table with columns := s.table.columns ++ [column] }
        builder := s.builder.push column }
      [⟨.debug, "Column complete",
        [("ordinal", .number (s.table.columns.length + 1)), ("column", .text column.structName),
          ("column_type", .text column.columnType.label)], .core⟩]

/-- Primary keys end the table. The clock is looked at for the report's end. -/
def endTable (s : Scanner) (line : Line) (value : String) : Fed :=
  accepted
    { s with
      table := { s.table with primaryKeys := value }
      report := some (s.builder.finish value s.clock.now)
      clock := s.clock.tick
      phase := .done }
    ((match s.draft with
      | some _ =>
        [⟨.warn, "Column without a name directive is dropped", [("line", .number line.number)],
          .core⟩]
      | none => []) ++
      [⟨.debug, "Table complete", [("columns", .number s.table.columns.length)], .core⟩])

/-- What a directive with its value does. -/
def obey (s : Scanner) (line : Line) (value : String) : Keyword → Fed
  | .tableName => s.setTableName value
  | .tableDescription => s.setTableDescription line value
  | .columnDescription => s.openColumn line value
  | .type => s.setType value
  | .length => s.setLength line value
  | .nullable => s.setNullable line value
  | .name => s.closeColumn line value
  | .primaryKeys => s.endTable line value

/-! ### Steps and runs -/

/-- Reads one line. -/
def feed (s : Scanner) (line : Line) : Fed :=
  if s.isDone then ⟨s, [], .ok s.phase⟩
  else match line.keyword with
    | .error cause => refused s line (.unreadable cause)
    | .ok none =>
      accepted s [⟨.trace, "Skipping non-directive line",
        [("line", .number line.number), ("text", .text line.raw)], .core⟩]
    | .ok (some keyword) =>
      match extractValue line.text with
      | .error cause => refused s line (.unreadable cause)
      | .ok chars =>
        let value := String.ofList chars
        let fed := s.obey line value keyword
        { fed with
          events := ⟨.trace, "Directive",
            [("line", .number line.number), ("keyword", .text keyword.label),
              ("value", .text value)], .core⟩ :: fed.events }

/-- The table and its report, if the primary keys have been seen. -/
def finish (s : Scanner) : Except ScanError ScanOutput :=
  match s.report with
  | some report => .ok ⟨s.table, report⟩
  | none => .error .missingPrimaryKeys

/-- Feeds all the lines, whatever the answers. -/
def feedAll (s : Scanner) : List Line → Scanner
  | [] => s
  | line :: rest => feedAll (s.feed line).scanner rest

theorem feedAll_append (s : Scanner) (a b : List Line) :
    s.feedAll (a ++ b) = (s.feedAll a).feedAll b := by
  induction a generalizing s with
  | nil => rfl
  | cons line rest ih => exact ih _

end Scanner
end SchemaReport
