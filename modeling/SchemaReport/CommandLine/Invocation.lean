import SchemaReport.Files.Path

/-! What a command line asks for, once it has been read: a command with its arguments, and
the options every command takes. A command line that is refused, or that asks for help or
the version, asks for nothing else. -/
namespace SchemaReport

inductive CommandName
  | convert
  | inspect
  | init
  deriving DecidableEq, Repr

namespace CommandName

def all : List CommandName := [convert, inspect, init]

def word : CommandName → String
  | convert => "convert"
  | inspect => "inspect"
  | init => "init"

end CommandName

/-- How a table is shown. -/
inductive InspectFormat
  | pretty
  | json
  deriving DecidableEq, Repr

inductive Command
  | convert (path : Path) (parallel : Bool)
  | inspect (path : Path) (format : InspectFormat)
  | init (force : Bool)
  deriving DecidableEq, Repr

def Command.name : Command → CommandName
  | convert _ _ => .convert
  | inspect _ _ => .inspect
  | init _ => .init

structure Invocation where
  /-- The settings file to read. -/
  config : Option Path
  /-- The directory of reports, whatever the settings say. -/
  output : Option Path
  /-- How often more words were asked for, 255 at most. -/
  verbose : Nat
  quiet : Bool
  command : Command
  deriving DecidableEq, Repr

/-- Why a command line yields no invocation. -/
inductive UsageError
  | help
  /-- The version was asked for, of the program or of a command. -/
  | version (command : Option CommandName)
  /-- Nothing was given at all. -/
  | nothingGiven
  | missingSubcommand
  | missingArgument
  | invalidValue
  | unknownArgument
  | invalidSubcommand
  | repeatedOption
  /-- A value was given to an option that takes none. -/
  | needlessValue
  deriving DecidableEq, Repr

namespace UsageError

/-- Help and versions are answers, everything else is a mistake. -/
def exitCode : UsageError → Nat
  | help | version _ => 0
  | _ => 2

end UsageError

/-- The log a run keeps unless the environment says otherwise: the name of its severity. -/
def Invocation.logLevel (i : Invocation) : String :=
  if i.quiet then "error"
  else match i.verbose with
    | 0 => "info"
    | 1 => "debug"
    | _ => "trace"

end SchemaReport
