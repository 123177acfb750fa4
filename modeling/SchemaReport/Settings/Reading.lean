import SchemaReport.Settings.Decode
import SchemaReport.Settings.Expansion
import SchemaReport.Toml.Reader

/-! Settings from the text of a settings file. The text is read as a whole; then references
to environment variables are replaced in the directory of reports and in the names that
appear in snippets, and nowhere else. -/
namespace SchemaReport

namespace Settings

/-- What a text says, before references are replaced. -/
def parse? (text : String) : Option Settings :=
  (Toml.parse? text).bind (ofDocument? .toml)

def expandDirectory (env : Environment) : Option String → Logged (Option String)
  | none => return none
  | some directory => do return some (← Expansion.expand env directory)

/-- The settings with their references replaced, in a fixed order up to the first error. -/
def expand (env : Environment) (s : Settings) : Logged Settings := do
  let directory ← expandDirectory env s.output.directory
  let checkCall ← Expansion.expand env s.render.checkCall
  let checkReceiver ← Expansion.expand env s.render.checkReceiver
  let assignSource ← Expansion.expand env s.render.assignSource
  return { s with
    output := { s.output with directory := directory }
    render := ⟨checkCall, checkReceiver, assignSource⟩ }

/-- A run without an extension of schemas could not tell them from other files. -/
def checkExtension (s : Settings) : Logged Unit :=
  if s.input.extension = "" then .fail (.config "input.extension must not be empty") else return

end Settings

/-- The choice as logs show it. -/
def MissingFields.label : MissingFields → String
  | error => "Error"
  | inherit => "Inherit"

namespace Settings

/-- The settings in short. -/
def digest (s : Settings) : String :=
  s!"Input extension: {s.input.extension}, output extension: {s.output.extension}, " ++
    s!"missing fields: {s.scan.missingFields.label}, parallel: {s.batch.parallel}"

/-- The settings a text describes. -/
def ofText (env : Environment) (text : String) : Logged Settings :=
  match parse? text with
  | none => do
    Logged.tell (.plain .error "Failed to parse TOML configuration")
    Logged.fail .toml
  | some written => do
    Logged.tell (.plain .debug "Expanding environment references in configuration")
    let s ← written.expand env
    s.checkExtension
    Logged.tell (.plain .debug s.digest)
    return s

end Settings
end SchemaReport
