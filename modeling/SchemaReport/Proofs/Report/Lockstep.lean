import SchemaReport.Proofs.Scan.Reading

/-! Tables and their reports grow together.

Wherever a scan stands, the sections of the builder that list columns list those of the
table (`lists_feedAll`). It takes a step of the scanner for each directive; only the name of
a column touches either, and then it adds the same column to both. -/
namespace SchemaReport
open Schema

/-- The members of the JSON block, separated by a comma and a line feed. -/
def Report.members (columns : List Column) : String :=
  String.intercalate ",\n" (columns.map Entry.member)

namespace ReportBuilder

/-- The builder lists the columns in every section that lists columns alone. -/
structure Lists (b : ReportBuilder) (columns : List Column) : Prop where
  columnCount : b.columnCount = columns.length
  json : b.json = Report.members columns
  checks : b.checks = String.join (columns.map (Entry.check b.names))
  assignments : b.assignments = String.join (columns.map (Entry.assignment b.names))
  docs : b.docs = String.join (columns.map Entry.doc)

theorem lists_start (names : RenderSettings) (startedAt : Timestamp) :
    (start names startedAt).Lists [] :=
  ⟨rfl, String.intercalate_nil.symm, String.join_nil.symm, String.join_nil.symm,
    String.join_nil.symm⟩

theorem Lists.openTable {b : ReportBuilder} {columns : List Column} (h : b.Lists columns)
    (description structName : String) : (b.openTable description structName).Lists columns :=
  ⟨h.columnCount, h.json, h.checks, h.assignments, h.docs⟩

/-- The separator goes before every member but the first. -/
theorem members_concat (columns : List Column) (c : Column) :
    Report.members (columns ++ [c]) =
      Report.members columns ++ (if 0 < columns.length then ",\n" else "") ++ Entry.member c := by
  cases columns with
  | nil => simp [Report.members]
  | cons first rest =>
    have hne : (first :: rest).map Entry.member ≠ [] := by simp
    rw [Report.members, List.map_append, List.map_singleton,
      String.intercalate_append_of_ne_nil hne (by simp), String.intercalate_singleton]
    rfl

theorem join_concat (entry : Column → String) (columns : List Column) (c : Column) :
    String.join ((columns ++ [c]).map entry) = String.join (columns.map entry) ++ entry c := by
  rw [List.map_append, String.join_append, List.map_singleton, String.join_cons,
    String.join_nil, String.append_empty]

theorem Lists.push {b : ReportBuilder} {columns : List Column} (h : b.Lists columns)
    (c : Column) : (b.push c).Lists (columns ++ [c]) where
  columnCount := by
    rw [List.length_append, ← h.columnCount]
    rfl
  json := by
    rw [members_concat, ← h.json, ← h.columnCount]
    rfl
  checks := by
    rw [join_concat]
    exact congrArg (· ++ Entry.check b.names c) h.checks
  assignments := by
    rw [join_concat]
    exact congrArg (· ++ Entry.assignment b.names c) h.assignments
  docs := by
    rw [join_concat]
    exact congrArg (· ++ Entry.doc c) h.docs

end ReportBuilder

namespace Scanner

theorem Becomes.lists {s t : Scanner} {value : String} {k : Keyword} (h : s.Becomes value k t)
    (hl : s.builder.Lists s.table.columns) : t.builder.Lists t.table.columns := by
  cases h with
  | describing => exact hl.openTable _ _
  | adding => exact hl.push _
  | drafting | naming | ending => exact hl

/-- The builder and the table list the same columns after any lines. -/
theorem lists_feedAll {s : Scanner} (h : s.builder.Lists s.table.columns) (lines : List Line) :
    (s.feedAll lines).builder.Lists (s.feedAll lines).table.columns :=
  feedAll_invariant (fun t => t.builder.Lists t.table.columns)
    (fun t line value k ht _ _ => (becomes_obey t line value k).lists ht) h lines

end Scanner
end SchemaReport
