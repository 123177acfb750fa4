import SchemaReport.Conversion.Convert

/-! Converting a directory. Its schemas are the files directly in it whose names end in the
extension of schemas, in the order of their names. Each is converted by itself: one that
fails keeps none of the others from being converted. -/
namespace SchemaReport
open Text

/-! ### The schemas of a directory -/

/-- The order of names: by their bytes. -/
def nameLe (a b : Name) : Bool := decide (a ≤ b)

/-- Whether a name is that of a schema. -/
def isSchemaName (extension : String) (name : Name) : Bool :=
  (stemOf? (lossyText name) extension).isSome

/-- The schemas among the names in a directory. -/
def schemasAmong (directory : Path) (extension : String) : List Name → Session (List Path)
  | [] => return []
  | name :: others => do
    let path := directory.join ⟨name⟩
    if ← Session.isFile path then
      if isSchemaName extension name then
        return path :: (← schemasAmong directory extension others)
      else
        Session.say (.plain .debug s!"Skipping {path.quoted}")
        schemasAmong directory extension others
    else schemasAmong directory extension others

/-- The schema files of a directory. A file is a directory without any. -/
def collectSchemas (directory : Path) (extension : String) : Session (List Path) := do
  let failure := Failure.listing directory
  match ← Session.attempt (Session.kind directory) failure with
  | .file => return []
  | .directory =>
    let names ← Session.attempt (Session.list directory) failure
    schemasAmong directory extension (names.mergeSort nameLe)

/-! ### Converting them -/

/-- What becomes of one file; its failure is part of the answer. -/
def convertOne (settings : Settings) (path : Path) : Session Outcome := do
  return ⟨path, ← ExceptT.lift (ExceptT.run (convertFile settings path))⟩

/-- What becomes of some files, one after the other. -/
def convertAll (settings : Settings) : List Path → Session (List Outcome)
  | [] => return []
  | path :: others => do
    let outcome ← convertOne settings path
    return outcome :: (← convertAll settings others)

/-- What is said about files that failed. -/
def failureWarnings (report : BatchReport) : List Event :=
  report.failures.map fun (path, e) =>
    .plain .warn s!"Failed to convert {path.quoted}: {e.message}"

/-- Converts the schemas of a directory one after the other, also where the settings ask for
conversions side by side: this is one of the ways in which those can go
(`Batch.ends_convertAll`). In each of them there is an outcome for every schema
(`Batch.outcomes_of_ends`), but where reports share a place, what becomes of them may differ. -/
def convertDirectory (settings : Settings) (directory : Path) : Session BatchReport := do
  if ← Session.isDirectory directory then
    let files ← collectSchemas directory settings.input.extension
    Session.say (.plain .info s!"Found {files.length} schema file(s) in {directory.quoted}")
    let report : BatchReport := ⟨directory, ← convertAll settings files⟩
    Session.log (failureWarnings report)
    Session.say (.plain .info (s!"Batch finished: {report.total} total, " ++
      s!"{report.succeeded} succeeded, {report.failed} failed"))
    return report
  else Session.fail (.invalidPath directory "not a directory")

end SchemaReport
