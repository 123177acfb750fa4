import SchemaReport.Schema.Value

/-! Why a schema is refused. All faults but one lie in a line, and then the error tells the
line's number and the line as written. -/
namespace SchemaReport
open Text Schema

/-- The directives a column cannot do without. -/
inductive ColumnField
  | description
  | type
  | length
  | nullable
  deriving DecidableEq, Repr

def ColumnField.label : ColumnField → String
  | description => "description"
  | type => "type"
  | length => "length"
  | nullable => "nullable"

/-- What is wrong with a line. `missingField` stands at the line that closes the column. -/
inductive LineFault
  | unreadable (cause : ValueError)
  | invalidLength (value : String)
  | missingField (column : String) (field : ColumnField)
  deriving DecidableEq

def LineFault.message : LineFault → String
  | unreadable cause => cause.message
  | invalidLength value => s!"length {quoteText value} is not a non-negative integer"
  | missingField column field =>
    s!"column {quoteText column} is missing its {field.label} directive"

inductive ScanError
  | atLine (line : Nat) (raw : String) (fault : LineFault)
  | missingPrimaryKeys
  deriving DecidableEq

namespace ScanError

def message : ScanError → String
  | atLine line raw fault => s!"line {line} ({raw}): {fault.message}"
  | missingPrimaryKeys => "schema ended without a primary-keys directive"

/-- The number of the line at fault. -/
def line? : ScanError → Option Nat
  | atLine line _ _ => some line
  | missingPrimaryKeys => none

end ScanError
end SchemaReport
