import SchemaReport.CommandLine.Invocation
import SchemaReport.Json.Table

/-! Tables as the command line shows them: as JSON, or for a person to read, with the
columns of the table as numbered lines. There a text is fitted into a column of fixed width:
widths count characters, and a text that is already as wide as the column is left as it is. -/
namespace SchemaReport

/-! ### Columns of fixed width -/

namespace Text

/-- `width` blanks. -/
def blanks (width : Nat) : String := String.ofList (List.replicate width ' ')

/-- The text at the left of its column. -/
def padRight (width : Nat) (text : String) : String := text ++ blanks (width - text.length)

/-- The text at the right of its column. -/
def padLeft (width : Nat) (text : String) : String := blanks (width - text.length) ++ text

/-- The text in the middle of its column, an odd blank going to the right. -/
def centre (width : Nat) (text : String) : String :=
  let room := width - text.length
  blanks (room / 2) ++ text ++ blanks (room - room / 2)

/-- The first `width` characters of the text. -/
def cut (width : Nat) (text : String) : String := String.ofList (text.toList.take width)

example : padRight 4 "ab" = "ab  " ∧ padLeft 4 "ab" = "  ab" ∧ centre 5 "ab" = " ab  " := by decide
example : cut 2 "abc" = "ab" ∧ padRight 2 "abc" = "abc" := by decide

end Text

/-! ### Tables -/

open Text

/-- The line of a column. -/
def Column.viewLine (number : Nat) (c : Column) : String :=
  "  " ++ padLeft 2 (toString number) ++ ". " ++ padRight 24 c.jsonName ++ " " ++
    padRight 8 c.columnType.label ++ " len " ++ padRight 5 c.length.text ++ " " ++
    (if c.fixedLength then "fixed " else "") ++ (if c.nullable then "nullable" else "required") ++
    " //" ++ c.chineseName ++ "\n"

/-- The lines of columns, numbered from `first`. -/
def viewLines (first : Nat) : List Column → String
  | [] => ""
  | c :: rest => c.viewLine first ++ viewLines (first + 1) rest

namespace Table

/-- A table for a person to read. -/
def view (t : Table) : String :=
  s!"\n=== {t.sourceName} ({t.structName}) ===\n\n" ++
    s!"Description:  {t.description}\n" ++
    s!"Primary keys: {t.primaryKeys}\n" ++
    s!"Columns:      {t.columns.length}\n\n" ++
    viewLines 1 t.columns

/-- A table in the format asked for. -/
def shown (t : Table) : InspectFormat → String
  | .pretty => t.view
  | .json => Json.tableText t

end Table
end SchemaReport
