import SchemaReport.Proofs.Report.Lockstep

/-! Builders by what they have been told.

A builder is told two things only: that a table is described, and that a column is complete.
After any such calls the five sections that list columns list those of the calls
(`lists_takeAll`); the other two are the texts of the calls, one after the other
(`structs_takeAll`, `tableNames_takeAll`). -/
namespace SchemaReport
open Schema

/-- What a builder is told. -/
inductive Call
  | opens (description structName : String)
  | adds (column : Column)

namespace Call

/-- The description of a table the call brings. -/
def description? : Call → Option String
  | opens description _ => some description
  | adds _ => none

/-- The column the call brings. -/
def column? : Call → Option Column
  | opens _ _ => none
  | adds column => some column

/-- What the call adds to the struct section. -/
def structText : Call → String
  | opens description structName => Entry.structHead description structName
  | adds column => Entry.field column

variable (description structName : String) (column : Column) (rest : List Call)

@[simp] theorem descriptions_opens : (opens description structName :: rest).filterMap description? =
    description :: rest.filterMap description? := rfl

@[simp] theorem descriptions_adds :
    (adds column :: rest).filterMap description? = rest.filterMap description? := rfl

@[simp] theorem columns_opens :
    (opens description structName :: rest).filterMap column? = rest.filterMap column? := rfl

@[simp] theorem columns_adds :
    (adds column :: rest).filterMap column? = column :: rest.filterMap column? := rfl

end Call

namespace ReportBuilder

def take (b : ReportBuilder) : Call → ReportBuilder
  | .opens description structName => b.openTable description structName
  | .adds column => b.push column

def takeAll (b : ReportBuilder) : List Call → ReportBuilder
  | [] => b
  | call :: rest => takeAll (b.take call) rest

theorem takeAll_append (b : ReportBuilder) (calls more : List Call) :
    b.takeAll (calls ++ more) = (b.takeAll calls).takeAll more := by
  induction calls generalizing b with
  | nil => rfl
  | cons call rest ih => exact ih _

@[simp] theorem names_takeAll (b : ReportBuilder) (calls : List Call) :
    (b.takeAll calls).names = b.names := by
  induction calls generalizing b with
  | nil => rfl
  | cons call rest ih =>
    rw [takeAll, ih]
    cases call <;> rfl

@[simp] theorem startedAt_takeAll (b : ReportBuilder) (calls : List Call) :
    (b.takeAll calls).startedAt = b.startedAt := by
  induction calls generalizing b with
  | nil => rfl
  | cons call rest ih =>
    rw [takeAll, ih]
    cases call <;> rfl

/-- The struct section holds the texts of the calls, one after the other. -/
theorem structs_takeAll (b : ReportBuilder) (calls : List Call) :
    (b.takeAll calls).structs = b.structs ++ String.join (calls.map Call.structText) := by
  induction calls generalizing b with
  | nil => simp [takeAll]
  | cons call rest ih =>
    have htake : (b.take call).structs = b.structs ++ call.structText := by cases call <;> rfl
    rw [takeAll, ih, htake, List.map_cons, String.join_cons, String.append_assoc]

/-- The section of table names holds the descriptions, a line each. -/
theorem tableNames_takeAll (b : ReportBuilder) (calls : List Call) : (b.takeAll calls).tableNames =
    b.tableNames ++ String.join ((calls.filterMap Call.description?).map Entry.tableName) := by
  induction calls generalizing b with
  | nil => simp [takeAll]
  | cons call rest ih =>
    rw [takeAll, ih]
    cases call with
    | opens description structName =>
      rw [Call.descriptions_opens, List.map_cons, String.join_cons, ← String.append_assoc]
      rfl
    | adds column =>
      rw [Call.descriptions_adds]
      rfl

/-- The other sections list the columns. -/
theorem lists_takeAll {b : ReportBuilder} {columns : List Column} (h : b.Lists columns)
    (calls : List Call) : (b.takeAll calls).Lists (columns ++ calls.filterMap Call.column?) := by
  induction calls generalizing b columns with
  | nil => simpa [takeAll] using h
  | cons call rest ih =>
    rw [takeAll]
    cases call with
    | opens description structName =>
      rw [Call.columns_opens]
      exact ih (h.openTable description structName)
    | adds column =>
      rw [Call.columns_adds, List.append_cons]
      exact ih (h.push column)

end ReportBuilder
end SchemaReport
