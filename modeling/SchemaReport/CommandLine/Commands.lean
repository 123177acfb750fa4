import SchemaReport.CommandLine.TableView
import SchemaReport.Conversion.Batch
import SchemaReport.Settings.Loading
import SchemaReport.Settings.Template

/-! What the commands do. `convert` appends reports, `inspect` shows a table and writes
nothing, `init` writes a settings file to start from. -/
namespace SchemaReport
open Text

/-! ### Settings -/

/-- The settings with the directory of reports a command line asks for. -/
def Settings.withOutput (s : Settings) : Option Path → Settings
  | none => s
  | some directory => { s with output := { s.output with directory := some directory.display } }

/-- The settings of a run. What the command line asks for comes before what a file says. -/
def Invocation.settings (i : Invocation) : Session Settings := do
  let settings := (← Settings.load i.config).withOutput i.output
  match i.output with
  | some directory =>
    Session.say (.spoken .info s!"Output directory overridden to {directory.quoted}")
  | none => pure ()
  Session.say (.spoken .debug s!"Effective configuration: {settings.digest}")
  return settings

/-! ### Converting -/

/-- The severity with which a batch is summed up. -/
def summaryLevel (report : BatchReport) : Level := if report.failed = 0 then .info else .error

/-- Converts the schemas of a directory; fails when one of them does. -/
def convertBatch (settings : Settings) (directory : Path) : Session Unit := do
  let report ← convertDirectory settings directory
  Session.say (.spoken (summaryLevel report) report.summary)
  Session.ofExcept report.ensureSuccess

/-- Converts one schema. -/
def convertSingle (settings : Settings) (path : Path) : Session Unit := do
  let converted ← convertFile settings path
  Session.say (.spoken .info (s!"Extracted {converted.table.columns.length} columns of " ++
    s!"{converted.source.display} into {converted.output.display}"))

/-- Converts what a path leads to, a schema or a directory of schemas. -/
def convertPath (settings : Settings) (path : Path) : Session Unit := do
  match ← Session.attempt (Session.kind path) (.fileAccess path) with
  | .directory => convertBatch settings path
  | .file => convertSingle settings path

/-- The settings with files converted side by side, if that is asked for. -/
def Settings.sideBySide (s : Settings) (asked : Bool) : Settings :=
  if asked then { s with batch := { s.batch with parallel := true } } else s

/-! ### A new settings file -/

/-- Where a new settings file goes. -/
def Settings.newFile : Path := (Path.ofText ".").join (.ofText fileName)

/-- Writes a new settings file. One that is there is replaced only by `force`. -/
def writeTemplate (force : Bool) : Session Unit := do
  let path := Settings.newFile
  if (← Session.exists? path) && !force then
    Session.say (.spoken .error
      s!"{Settings.fileName} already exists. Use --force to overwrite.")
    Session.fail (.config s!"{path.display} already exists")
  else
    Session.attempt (Session.write path (bytesOf Settings.template)) (.fileAccess path)
    Session.log
      [.spoken .info s!"Created {path.display}",
        .spoken .info "Next steps:",
        .spoken .info s!"  1. Edit {Settings.fileName} to match your project's naming",
        .spoken .info "  2. Run 'yamlstruct convert <schema.yaml | directory>'"]

/-! ### Commands -/

/-- Does what a command line asks for. -/
def Invocation.run (i : Invocation) : Session Unit :=
  match i.command with
  | .convert path parallel => do
    let settings ← i.settings
    convertPath (settings.sideBySide parallel) path
  | .inspect path format => do
    let settings ← i.settings
    let scanned ← inspectFile settings path
    Session.print (scanned.table.shown format ++ "\n")
  | .init force => writeTemplate force

end SchemaReport
