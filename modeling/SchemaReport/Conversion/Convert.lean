import SchemaReport.Conversion.BatchReport
import SchemaReport.Conversion.Target
import SchemaReport.Scan.Source
import SchemaReport.Script

/-! Converting one schema. Its path is checked, its text is read and scanned, and only a
schema that has been scanned to its end has a report appended. The steps stand by
themselves, so that runs can be compared step by step. -/
namespace SchemaReport
open Text

/-- Scans the text of a schema at the time the clock shows. -/
def scanText (settings : Settings) (path : Path) (source : String) : Session ScanOutput := do
  let scanned := scanSource settings.scan settings.render (← Session.clock) source
  Session.setClock scanned.clock
  Session.log scanned.events
  Session.ofExcept (scanned.result.mapError (.scan path))

/-- Reads and scans a schema whose path has been checked. -/
def readSchema (settings : Settings) (path : Path) : Session ScanOutput := do
  let source ← Session.readText path fun fault =>
    s!"Failed to read schema {path.quoted}: {fault.message}"
  Session.say (.plain .debug s!"Read {source.utf8ByteSize} bytes from {path.quoted}")
  scanText settings path source

/-- What a schema says and the report on it. Nothing is written. -/
def inspectFile (settings : Settings) (path : Path) : Session ScanOutput := do
  let _ ← Session.ofExcept (schemaStem path settings.input.extension)
  readSchema settings path

/-- Makes the directory of a report where it is missing. -/
def makeReportDirectory (output : Path) : Session Unit := do
  match output.parent? with
  | none => return
  | some directory =>
    if directory.bytes = [] then return
    else if ← Session.exists? directory then return
    else
      Session.say (.plain .debug s!"Creating output directory {directory.quoted}")
      Session.attempt (Session.makeDirectories directory) (.fileAccess directory)

/-- Appends a report to its file. -/
def appendReport (output : Path) (report : Report) : Session Unit :=
  Session.attempt (Session.append output (bytesOf report.text)) (.fileAccess output)

/-- Appends the report on a schema to the file it belongs to. -/
def convertFile (settings : Settings) (path : Path) : Session Converted := do
  Session.say (.plain .info s!"Converting schema {path.quoted}")
  let output ← Session.ofExcept (reportPath settings path)
  let scanned ← inspectFile settings path
  makeReportDirectory output
  appendReport output scanned.report
  Session.say (.plain .info
    s!"Converted {path.quoted} ({scanned.report.columnCount} columns) into {output.quoted}")
  return ⟨path, output, scanned.report.text.utf8ByteSize, scanned.table⟩

end SchemaReport
