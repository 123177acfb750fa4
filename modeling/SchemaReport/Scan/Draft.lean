import SchemaReport.Column
import SchemaReport.Scan.Error
import SchemaReport.Settings
import SchemaReport.Naming

/-! Columns in the making. A draft collects what the directives of a column have said so
far, in whatever order they come; the line that names the column completes it. What the
draft does not say is missing, or is taken over from the column before, as the settings
have it. -/
namespace SchemaReport

/-- What the description of a column says: its display name, and whether its length is
fixed. -/
structure Heading where
  chineseName : String
  fixedLength : Bool
  deriving DecidableEq, Repr

/-- A column as far as it has been described. -/
structure Draft where
  heading : Option Heading := none
  columnType : Option ColumnType := none
  length : Option Length := none
  nullable : Option Bool := none
  deriving DecidableEq, Repr

namespace Draft

/-- A value a draft may lack: the one written, or where columns inherit the given one. -/
def settled (mode : MissingFields) (written : Option α) (inherited : α) : Option α :=
  match written, mode with
  | some value, _ => some value
  | none, .inherit => some inherited
  | none, .error => none

/-- The same, with the field to complain about when the value is missing. -/
def required (mode : MissingFields) (field : ColumnField) (written : Option α) (inherited : α) :
    Except ColumnField α :=
  match settled mode written inherited with
  | some value => .ok value
  | none => .error field

/-- The column the draft makes under the given name. `previous` is what it inherits from.
Of several missing fields the first in the order description, type, length, nullable is
reported. -/
def complete (mode : MissingFields) (previous : Column) (d : Draft) (name : String) :
    Except ColumnField Column := do
  let heading ← required mode .description d.heading ⟨previous.chineseName, previous.fixedLength⟩
  let columnType ← required mode .type d.columnType previous.columnType
  let length ← required mode .length d.length previous.length
  let nullable ← required mode .nullable d.nullable previous.nullable
  return ⟨heading.chineseName, columnType, length, heading.fixedLength, nullable,
    Naming.structName name, Naming.jsonName name⟩

@[simp] theorem settled_some (mode : MissingFields) (value inherited : α) :
    settled mode (some value) inherited = some value := by cases mode <;> rfl

@[simp] theorem settled_inherit (written : Option α) (inherited : α) :
    settled .inherit written inherited = some (written.getD inherited) := by cases written <;> rfl

@[simp] theorem settled_error (written : Option α) (inherited : α) :
    settled .error written inherited = written := by cases written <;> rfl

end Draft
end SchemaReport
