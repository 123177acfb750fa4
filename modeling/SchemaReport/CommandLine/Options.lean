import SchemaReport.CommandLine.Invocation

/-! The options of the command line. An option has a long name and perhaps a letter; it
takes a value or it does not; and it belongs to one command or may stand anywhere. -/
namespace SchemaReport
open Text

inductive OptionName
  | config
  | verbose
  | quiet
  | output
  | help
  | version
  | parallel
  | format
  | force
  deriving DecidableEq, Repr

namespace OptionName

def all : List OptionName :=
  [config, verbose, quiet, output, help, version, parallel, format, force]

def long : OptionName → String
  | config => "config"
  | verbose => "verbose"
  | quiet => "quiet"
  | output => "output"
  | help => "help"
  | version => "version"
  | parallel => "parallel"
  | format => "format"
  | force => "force"

def letter? : OptionName → Option Char
  | config => some 'c'
  | verbose => some 'v'
  | quiet => some 'q'
  | output => some 'o'
  | help => some 'h'
  | version => some 'V'
  | parallel => none
  | format => none
  | force => some 'f'

def takesValue : OptionName → Bool
  | config | output | format => true
  | _ => false

/-- The only command an option may be given to, if there is just one. -/
def owner? : OptionName → Option CommandName
  | parallel => some .convert
  | format => some .inspect
  | force => some .init
  | _ => none

/-- Whether an option may stand among the arguments of a command, or before the command
when there is none yet. -/
def allowedIn (command : Option CommandName) (o : OptionName) : Bool :=
  match o.owner? with
  | none => true
  | some owner => command == some owner

/-- The option with a long name. -/
def ofLong? (command : Option CommandName) (name : Bytes) : Option OptionName :=
  all.find? fun o => o.allowedIn command && bytesOf o.long == name

/-- The option with a letter. -/
def ofLetter? (command : Option CommandName) (letter : UInt8) : Option OptionName :=
  all.find? fun o => o.allowedIn command &&
    match o.letter? with
    | some c => c.toNat == letter.toNat
    | none => false

end OptionName
end SchemaReport
