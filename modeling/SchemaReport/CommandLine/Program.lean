import SchemaReport.CommandLine.Arguments
import SchemaReport.CommandLine.Commands
import SchemaReport.CommandLine.LogFilter

/-! A run of the program, from its arguments to its exit code. The log goes to standard
error, so that standard output holds nothing but what was asked for. -/
namespace SchemaReport
open Text

/-! ### Refused command lines -/

/-- The name and the version of the program or of a command. -/
def versionText (command : Option CommandName) : String :=
  match command with
  | none => "yamlstruct 0.1.0\n"
  | some name => s!"yamlstruct-{name.word} 0.1.0\n"

def usageText : String :=
  "Usage: yamlstruct [OPTIONS] <COMMAND>\n\nCommands:\n" ++
  "  convert  Convert a schema file, or every schema file directly inside a directory\n" ++
  "  inspect  Parse a schema file and print its table definition without writing anything\n" ++
  "  init     Initialize a new yamlstruct.toml configuration file\n"

/-- What is wrong with a command line, in short. -/
def UsageError.words : UsageError → String
  | help => ""
  | version _ => ""
  | nothingGiven => ""
  | missingSubcommand => "error: a command is missing\n\n"
  | missingArgument => "error: a required argument is missing\n\n"
  | invalidValue => "error: an argument has an invalid value\n\n"
  | unknownArgument => "error: there is an unexpected argument\n\n"
  | invalidSubcommand => "error: there is no such command\n\n"
  | repeatedOption => "error: an option cannot be used multiple times\n\n"
  | needlessValue => "error: an option takes no value\n\n"

/-- Answers a command line that asks for nothing to be run. Help and versions are what was
asked for, everything else is a complaint. -/
def UsageError.report : UsageError → Script Unit
  | .version command => Script.request (.print (versionText command))
  | .help => Script.request (.print usageText)
  | e => Script.request (.complain (e.words ++ usageText))

/-! ### Runs -/

/-- The exit code a session ends with, and the event that says how it ended. -/
def ending : Except Failure Unit → Nat × Event
  | .ok () => (0, .spoken .info "Done")
  | .error e => (1, .spoken .error e.message)

/-- Runs a command and comes to its exit code. -/
def Invocation.perform (i : Invocation) : Script Nat := do
  Script.request (.log [.spoken .debug s!"Command line: {i.command.name.word}"])
  let (code, event) := ending (← ExceptT.run i.run)
  Script.request (.log [event])
  return code

/-- Runs the program with the given arguments and comes to its exit code. -/
def program (arguments : List Bytes) : Script Nat := do
  let env ← Script.request .environment
  match Invocation.ofArguments env arguments with
  | .error e =>
    e.report
    return e.exitCode
  | .ok i => i.perform.withLog (LogFilter.ofRun env i).admits

end SchemaReport
