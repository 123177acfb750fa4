/-! Settings of a run, with their defaults. -/
namespace SchemaReport

/-- Which schema files are read. -/
structure InputSettings where
  /-- The extension of schema files, without the dot. -/
  extension : String := "yaml"
  deriving DecidableEq, Repr

/-- Where reports go. -/
structure OutputSettings where
  /-- The directory of the reports; beside their schemas when there is none. -/
  directory : Option String := none
  /-- The extension of reports, without the dot. -/
  extension : String := "txt"
  deriving DecidableEq, Repr

/-- The names that appear in generated snippets. -/
structure RenderSettings where
  /-- The function every validation line calls. -/
  checkCall : String := "util.CheckParam"
  /-- The variable whose fields are validated. -/
  checkReceiver : String := "structNeededToCheck"
  /-- The variable whose fields are assigned. -/
  assignSource : String := "dataSource"
  deriving DecidableEq, Repr

/-- What becomes of a column that closes without its type, length or nullability. -/
inductive MissingFields
  /-- The schema is refused. -/
  | error
  /-- The column takes them over from the column before it. -/
  | inherit
  deriving DecidableEq, Repr

/-- How schemas are read. -/
structure ScanSettings where
  missingFields : MissingFields := .error
  /-- A number whose Chinese name contains one of these words is a float. -/
  floatKeywords : List String := ["价", "金", "额", "系数"]
  deriving DecidableEq, Repr

/-- How directories are converted. -/
structure BatchSettings where
  /-- Whether the files of a directory are converted side by side. -/
  parallel : Bool := false
  deriving DecidableEq, Repr

structure Settings where
  input : InputSettings := {}
  output : OutputSettings := {}
  render : RenderSettings := {}
  scan : ScanSettings := {}
  batch : BatchSettings := {}
  deriving DecidableEq, Repr

end SchemaReport
