import SchemaReport.Environment.VariableFile
import SchemaReport.Script
import SchemaReport.Settings.Reading

/-! The settings of a run. First a file of variables is applied to the environment, then
the settings are read from the file the caller chose, or from the nearest settings file, or
else are the default ones. The nearest file is the one in the working directory or in the
closest directory above it. -/
namespace SchemaReport

/-! ### The file of variables -/

namespace VariableFile

def fileName : Path := .ofText ".env"

/-- The first file of variables in a list of directories. Anything but a missing file
ends the search. -/
def find : List Path → Session (Option Path)
  | [] => return none
  | directory :: others => do
    let candidate := directory.join fileName
    match ← Session.kind candidate with
    | .ok .file => return some candidate
    | .ok .directory | .error (.os .notFound) => find others
    | .error _ => return none

/-- Applies a file of variables to the environment. One that cannot be read is as good as
missing. -/
def applyFile (path : Path) : Session Unit := do
  match ← Session.read path with
  | .error _ => return
  | .ok content =>
    let env ← Session.environment
    Session.setEnvironment (load env content)

/-- Applies the nearest file of variables to the environment, if there is one. -/
def applyNearest : Session Unit := do
  match ← Session.workingDirectory with
  | .error _ => return
  | .ok directory =>
    match ← find directory.ancestors with
    | none => return
    | some path => applyFile path

end VariableFile

/-! ### The settings file -/

namespace Settings

def fileName : String := "yamlstruct.toml"

/-- The first settings file in a list of directories. -/
def find : List Path → Session (Option Path)
  | [] => return none
  | directory :: others => do
    let candidate := directory.join (.ofText fileName)
    Session.say (.plain .trace s!"Checking for config at: {candidate.quoted}")
    if ← Session.isFile candidate then return some candidate else find others

/-- The nearest settings file. -/
def findNearest : Session (Option Path) := do
  let directory ← Session.attempt Session.workingDirectory .io
  Session.say (.plain .debug s!"Starting config file search from: {directory.quoted}")
  find directory.ancestors

/-- The settings in a file. -/
def ofFile (path : Path) : Session Settings := do
  let text ← Session.readText path fun fault =>
    s!"Failed to read configuration file: {fault.message}"
  Session.say (.plain .debug s!"Configuration file size: {text.utf8ByteSize} bytes")
  Session.ofLogged (ofText (← Session.environment) text)

/-- The file the settings are to be read from. -/
def fileOf : Option Path → Session (Option Path)
  | some path => return some path
  | none => findNearest

/-- The settings of a run. -/
def load (chosen : Option Path) : Session Settings := do
  Session.say (.plain .info "Loading yamlstruct configuration")
  VariableFile.applyNearest
  Session.say (.plain .debug "Environment variables loaded from .env if present")
  match ← fileOf chosen with
  | some path =>
    Session.say (.plain .info s!"Found configuration file at: {path.quoted}")
    ofFile path
  | none =>
    Session.say (.plain .info s!"No {fileName} found, using defaults")
    return {}

end Settings
end SchemaReport
