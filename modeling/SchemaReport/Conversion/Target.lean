import SchemaReport.Conversion.Failure
import SchemaReport.Settings
import SchemaReport.Text.Search

/-! Which file a schema's report goes to. The report is named after the schema, with the
extension of schemas replaced by that of reports, and lies beside it unless there is a
directory for reports. -/
namespace SchemaReport
open Text

/-- The text of a file name without a dot and the given extension at its end. -/
def stemOf? (name extension : String) : Option String :=
  (dropEnd? ('.' :: extension.toList) name.toList).map String.ofList

/-- The name of a schema file without its extension. -/
def schemaStem (path : Path) (extension : String) : Except Failure String :=
  if path.bytes = [] then .error (.invalidPath path "path is empty")
  else match path.fileName? with
    | none => .error (.invalidPath path "path has no file name")
    | some name => match text? name with
      | none => .error (.invalidPath path "file name is not valid UTF-8")
      | some name => match stemOf? name extension with
        | none =>
          let found := (path.extension?.map lossyText).getD ""
          .error (.unsupportedExtension path found extension)
        | some stem =>
          if stem = "" then .error (.invalidPath path "file name has no stem") else .ok stem

/-- The directory of a schema's report. -/
def reportDirectory (output : OutputSettings) (path : Path) : Path :=
  match output.directory with
  | some directory => .ofText directory
  | none => match path.parent? with
    | some parent => if parent.bytes = [] then .ofText "." else parent
    | none => .ofText "."

/-- The report file of a schema. -/
def reportPath (settings : Settings) (path : Path) : Except Failure Path := do
  let stem ← schemaStem path settings.input.extension
  return (reportDirectory settings.output path).join
    (.ofText (stem ++ "." ++ settings.output.extension))

theorem stemOf?_eq_some_iff {name extension stem : String} :
    stemOf? name extension = some stem ↔ name = stem ++ "." ++ extension := by
  unfold stemOf?
  constructor
  · intro h
    obtain ⟨chars, hc, rfl⟩ := Option.map_eq_some_iff.mp h
    rw [dropEnd?_eq_some_iff] at hc
    apply String.toList_injective
    simp [hc]
  · rintro rfl
    refine Option.map_eq_some_iff.mpr ⟨stem.toList, ?_, by simp⟩
    rw [dropEnd?_eq_some_iff]
    simp

end SchemaReport
