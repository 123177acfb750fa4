import SchemaReport.Files.Fault
import SchemaReport.Files.Path
import SchemaReport.Scan.Error

/-! Why a run fails: the schema, the settings, the paths or the files are not as they
should be. -/
namespace SchemaReport
open Text

inductive Failure
  | io (fault : FileFault)
  /-- A directory could not be listed. -/
  | listing (path : Path) (fault : FileFault)
  | fileAccess (path : Path) (fault : FileFault)
  | invalidPath (path : Path) (reason : String)
  | unsupportedExtension (path : Path) (extension expected : String)
  | scan (path : Path) (error : ScanError)
  /-- A JSON text that is not legal or does not say what it should. -/
  | json
  /-- A TOML text that is not legal or does not say what it should. -/
  | toml
  | config (reason : String)
  | variableNotSet (name : String)
  | batchFailed (failed total : Nat)
  deriving DecidableEq

namespace Failure

def message : Failure → String
  | io fault => s!"IO error: {fault.message}"
  | listing path fault =>
    s!"IO error: IO error for operation on {path.display}: {fault.message}"
  | fileAccess path fault => s!"Cannot access {path.display}: {fault.message}"
  | invalidPath path reason => s!"Invalid path {path.display}: {reason}"
  | unsupportedExtension path extension expected =>
    s!"Unsupported file type {quoteText extension} for {path.display}, expected .{expected}"
  | scan path error => s!"Failed to convert {path.display}: {error.message}"
  | json => "JSON error: the text is not what was expected"
  | toml => "TOML error: the text is not what was expected"
  | config reason => s!"Configuration error: {reason}"
  | variableNotSet name => s!"Environment variable not set: {name}"
  | batchFailed failed total => s!"{failed} of {total} schema files failed to convert"

/-- Whether the text of a schema is to blame. -/
def isParseFailure : Failure → Bool
  | scan _ _ => true
  | _ => false

end Failure
end SchemaReport
