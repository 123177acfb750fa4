import SchemaReport.Text.Search

/-! Columns and tables: what a schema says once it has been read. -/
namespace SchemaReport
open Text

/-- The kinds of column the generated code distinguishes. -/
inductive ColumnType
  | string
  | int
  | float
  deriving DecidableEq, Repr

namespace ColumnType

/-- The kind of a column whose type is written `raw`. Only `number`, in any case, is a
number; it is a float when the Chinese name contains one of the keywords, which a schema
uses for prices, amounts and the like. Every other type is a string. -/
def classify (raw chineseName : String) (floatKeywords : List String) : ColumnType :=
  if raw.toList.map Char.toLower ≠ "number".toList then string
  else if floatKeywords.any fun k => k ≠ "" && occurs k.toList chineseName.toList then float
  else int

/-- The name of the kind. -/
def label : ColumnType → String
  | string => "string"
  | int => "int"
  | float => "float"

/-- The type of a struct field. -/
def goType : ColumnType → String
  | string => "string"
  | int => "int"
  | float => "float64"

/-- The value that stands for a column in the JSON template. -/
def placeholder : ColumnType → String
  | string => "\"\""
  | int => "0"
  | float => "0"

end ColumnType

/-- The storage length of a column, as written. A schema admits digits only. -/
structure Length where
  text : String
  deriving DecidableEq, Repr

namespace Length

/-- What counts as a length in a schema: a run of ASCII digits, not empty. -/
def isDigits (text : String) : Bool := !text.toList.isEmpty && text.toList.all Char.isDigit

def parse? (text : String) : Option Length := if isDigits text then some ⟨text⟩ else none

/-- The length of a column that was given none. -/
def unspecified : Length := ⟨"0"⟩

end Length

/-- A column of a table. -/
structure Column where
  /-- The display name. -/
  chineseName : String
  columnType : ColumnType
  length : Length
  fixedLength : Bool
  nullable : Bool
  /-- The name of the struct field. -/
  structName : String
  /-- The key in JSON. -/
  jsonName : String
  deriving DecidableEq, Repr

/-- The column of which nothing is known. -/
def Column.blank : Column := ⟨"", .string, .unspecified, false, false, "", ""⟩

/-- Everything a schema says about its table. -/
structure Table where
  /-- The name as written. -/
  sourceName : String
  structName : String
  jsonName : String
  description : String
  columns : List Column
  primaryKeys : String
  deriving DecidableEq, Repr

namespace Table

/-- The table of which nothing has been read yet. -/
def empty : Table := ⟨"", "", "", "", [], ""⟩

/-- The first column with the given key. -/
def column? (table : Table) (jsonName : String) : Option Column :=
  table.columns.find? fun c => c.jsonName == jsonName

end Table
end SchemaReport
