import SchemaReport.CommandLine.Options
import SchemaReport.Environment

/-! Reading the arguments of a command line. They are taken one by one, first those before
the command, then those of the command. An option that takes a value may have to wait for
it; whether what it got will do is settled when the next option or argument that is known
comes, or at the end. So of several mistakes the one that is noticed first counts. -/
namespace SchemaReport
open Text

/-- What the arguments on one side of the command have said. -/
structure Given where
  config : Option Path := none
  output : Option Path := none
  verbose : Option Nat := none
  quiet : Bool := false
  parallel : Bool := false
  format : Option InspectFormat := none
  force : Bool := false
  path : Option Path := none
  deriving DecidableEq

/-- What a value is for. -/
inductive Slot
  | option (name : OptionName)
  | path
  deriving DecidableEq

/-- How far one side of the command has been read. -/
structure Reading where
  command : Option CommandName
  given : Given := {}
  /-- A value that has come, or has yet to come, and has not been looked at. -/
  pending : Option (Slot × Option Bytes) := none
  /-- Whether two dashes have been seen, after which nothing is an option. -/
  trailing : Bool := false

namespace Given

/-- Whether nothing has been said. -/
def isEmpty (g : Given) : Bool := g == {}

/-- A path is any run of bytes but the empty one. -/
def readPath (value : Bytes) : Except UsageError Path :=
  if value = [] then .error .invalidValue else .ok ⟨value⟩

def readFormat (value : Bytes) : Except UsageError InspectFormat :=
  if value = bytesOf "pretty" then .ok .pretty
  else if value = bytesOf "json" then .ok .json
  else .error .invalidValue

/-- Fills in a value that may be given once. -/
def once (old : Option α) (value : Except UsageError α) : Except UsageError (Option α) :=
  match old with
  | some _ => .error .repeatedOption
  | none => value.map some

def setOption (g : Given) (value : Bytes) : OptionName → Except UsageError Given
  | .config => do return { g with config := ← once g.config (readPath value) }
  | .output => do return { g with output := ← once g.output (readPath value) }
  | .format => do return { g with format := ← once g.format (readFormat value) }
  | _ => .error .needlessValue

def setValue (g : Given) (value : Bytes) : Slot → Except UsageError Given
  | .option name => g.setOption value name
  | .path => do return { g with path := some (← readPath value) }

/-- Fills in an option that takes no value. -/
def setFlag (g : Given) (command : Option CommandName) : OptionName → Except UsageError Given
  | .verbose => .ok { g with verbose := some (min 255 (g.verbose.getD 0 + 1)) }
  | .quiet => if g.quiet then .error .repeatedOption else .ok { g with quiet := true }
  | .parallel => if g.parallel then .error .repeatedOption else .ok { g with parallel := true }
  | .force => if g.force then .error .repeatedOption else .ok { g with force := true }
  | .help => .error .help
  | .version => .error (.version command)
  | .config | .output | .format => .error .invalidValue

end Given

namespace Reading

/-- Looks at the value that is pending, if there is one. -/
def settle (r : Reading) : Except UsageError Reading :=
  match r.pending with
  | none => .ok r
  | some (_, none) => .error .invalidValue
  | some (slot, some value) => do
    return { r with given := ← r.given.setValue value slot, pending := none }

/-- Takes an option without a value. -/
def takeFlag (r : Reading) (name : OptionName) : Except UsageError Reading := do
  let r ← r.settle
  return { r with given := ← r.given.setFlag r.command name }

/-- Takes an option whose value is written together with it. -/
def takeAttached (r : Reading) (name : OptionName) (value : Bytes) : Except UsageError Reading := do
  let r ← r.settle
  return { r with given := ← r.given.setOption value name }

/-- Takes an option whose value is the next argument. -/
def awaitValue (r : Reading) (name : OptionName) : Except UsageError Reading := do
  let r ← r.settle
  return { r with pending := some (.option name, none) }

def dash : UInt8 := 0x2D

def equalsSign : UInt8 := 0x3D

/-- Takes an argument that starts with two dashes, given what follows them. -/
def takeLong (r : Reading) (text : Bytes) : Except UsageError Reading :=
  let name := text.takeWhile (· ≠ equalsSign)
  let value := (text.drop name.length).tail?
  match OptionName.ofLong? r.command name, value with
  | none, _ => .error .unknownArgument
  | some o, some value => if o.takesValue then r.takeAttached o value else .error .needlessValue
  | some o, none => if o.takesValue then r.awaitValue o else r.takeFlag o

/-- Takes an argument that starts with one dash, given what follows it. The letters are
options until one takes a value, which is the rest of the argument or the next one. -/
def takeLetters (r : Reading) : Bytes → Except UsageError Reading
  | [] => .ok r
  | letter :: rest =>
    match OptionName.ofLetter? r.command letter with
    | none => .error .unknownArgument
    | some o =>
      if o.takesValue then
        match rest with
        | [] => r.awaitValue o
        | b :: value => r.takeAttached o (if b = equalsSign then value else b :: value)
      else do (← r.takeFlag o).takeLetters rest

/-- Whether the argument after an option is its value, if it is not itself an option. -/
def awaitsValue (r : Reading) : Bool :=
  match r.pending with
  | some (.option _, none) => !r.trailing
  | _ => false

/-- The command an argument names where a command may stand. -/
def commandOf? (argument : Bytes) : Option CommandName :=
  CommandName.all.find? fun c => bytesOf c.word == argument

def helpWord : Bytes := bytesOf "help"

/-- Takes an argument that is no option. -/
def takePlain (r : Reading) (argument : Bytes) : Except UsageError Reading :=
  match r.pending, r.awaitsValue with
  | some (slot, _), true => .ok { r with pending := some (slot, some argument) }
  | pending, _ =>
    let pathTaken := r.given.path.isSome || pending.any fun p => p.1 == .path
    match r.command with
    | some .convert | some .inspect =>
      if pathTaken then .error .unknownArgument
      else do
        let r ← r.settle
        return { r with pending := some (.path, some argument) }
    | some .init => .error .unknownArgument
    | none =>
      if r.trailing && (commandOf? argument != none || argument == helpWord) then
        .error .unknownArgument
      else .error .invalidSubcommand

/-- Takes any argument. -/
def take (r : Reading) (argument : Bytes) : Except UsageError Reading :=
  if r.trailing then r.takePlain argument
  else match argument with
    | [a, b] =>
      if a = dash ∧ b = dash then .ok { r with trailing := true }
      else if a = dash then r.takeLetters [b]
      else r.takePlain argument
    | a :: b :: rest =>
      if a = dash ∧ b = dash then r.takeLong rest
      else if a = dash then r.takeLetters (b :: rest)
      else r.takePlain argument
    | _ => r.takePlain argument

/-- The variable that names a settings file when the command line does not. -/
def configVariable : String := "YAMLSTRUCT_CONFIG"

/-- What one side of the command says when its arguments have ended. Each side looks at the
environment by itself. -/
def finish (env : Environment) (r : Reading) : Except UsageError Given := do
  let r ← r.settle
  match r.given.config, env.value? configVariable with
  | none, some value => do
    let _ ← Given.readPath value
    return r.given
  | _, _ => return r.given

end Reading

namespace Invocation

/-- The command that has been given its arguments. -/
def commandOf (name : CommandName) (g : Given) : Except UsageError Command :=
  match name, g.path with
  | .convert, some path => .ok (.convert path g.parallel)
  | .inspect, some path => .ok (.inspect path (g.format.getD .pretty))
  | .init, _ => .ok (.init g.force)
  | _, none => .error .missingArgument

/-- The arguments of a command. -/
def readCommand (env : Environment) (name : CommandName) (arguments : List Bytes) :
    Except UsageError (Given × Command) := do
  let r ← arguments.foldlM Reading.take { command := some name }
  let g ← r.finish env
  return (g, ← commandOf name g)

/-- The invocation that the two sides of a command make. What stands after the command
counts for more, and the environment for less than either. -/
def combine (env : Environment) (before after : Given) (command : Command) : Invocation where
  config := after.config <|> before.config <|>
    (env.value? Reading.configVariable).map Path.mk
  output := after.output <|> before.output
  verbose := (after.verbose <|> before.verbose).getD 0
  quiet := after.quiet || before.quiet
  command := command

/-- What asking for help on something leads to. -/
def readHelp : List Bytes → UsageError
  | [] => .help
  | [topic] =>
    if Reading.commandOf? topic != none || topic == Reading.helpWord then .help
    else .invalidSubcommand
  | _ => .invalidSubcommand

/-- The arguments from before the command on. -/
def readFrom (env : Environment) (r : Reading) : List Bytes → Except UsageError Invocation
  | [] => do
    let g ← r.finish env
    if g.isEmpty && env.value? Reading.configVariable == none then .error .nothingGiven
    else .error .missingSubcommand
  | argument :: rest =>
    if r.trailing || r.awaitsValue then do readFrom env (← r.take argument) rest
    else if argument == Reading.helpWord then .error (readHelp rest)
    else match Reading.commandOf? argument with
      | some name => do
        let (after, command) ← readCommand env name rest
        let before ← r.finish env
        return combine env before after command
      | none => do readFrom env (← r.take argument) rest

/-- The invocation that the arguments of a command line make. -/
def ofArguments (env : Environment) (arguments : List Bytes) : Except UsageError Invocation :=
  readFrom env { command := none } arguments

end Invocation
end SchemaReport
