import SchemaReport.Environment
import SchemaReport.Text.Alphanumeric
import SchemaReport.Text.Characters
import SchemaReport.Text.Search

/-! Files of environment variables. A line gives one variable a value, unless it is blank or
a comment; a variable that is already set keeps the value it has. The lines are taken in
order, each in the environment the lines before it made, and the first that is not legal
ends the reading: what came before it stays. -/
namespace SchemaReport.VariableFile
open Text

/-! ### Values -/

/-- What the next character of a value is taken for. `quoted` tells whether a double quote
is open, and so what the value goes on with. -/
inductive Mode
  /-- Outside of quotes. -/
  | bare
  /-- Between single quotes, where every other character stands for itself. -/
  | single
  /-- Between double quotes. -/
  | double
  /-- After a backslash. -/
  | escaped (quoted : Bool)
  /-- After a dollar sign and the beginning of a name. -/
  | name (quoted : Bool) (begun : List Char)
  /-- The same with the name in braces. -/
  | braced (quoted : Bool) (begun : List Char)
  /-- After the blank that ends a value. -/
  | ended
  deriving DecidableEq, Repr

/-- The text a value goes on with, inside of double quotes or outside of quotes. -/
def Mode.text (quoted : Bool) : Mode := if quoted then .double else .bare

/-- The value of a variable, empty when it is not set. -/
def valueOf (env : Environment) (name : List Char) : List Char :=
  ((env.text? (String.ofList name)).getD "").toList

/-- What a character after a backslash stands for. -/
def escape? (c : Char) : Option Char :=
  if c = 'n' then some '\n'
  else if c ∈ ['\\', '\'', '"', '$', ' '] then some c
  else none

/-- What a value adds at its end, if it may end there. A name that is still open does not
close a double quote. -/
def atEnd? (env : Environment) : Mode → Option (List Char)
  | .bare | .ended | .escaped false => some []
  | .name false begun => some (valueOf env begun)
  | _ => none

/-- The value some text stands for. -/
def value? (env : Environment) (mode : Mode) : List Char → Option (List Char)
  | [] => atEnd? env mode
  | c :: rest =>
    match mode with
    | .ended =>
      if c = ' ' ∨ c = '\t' then value? env .ended rest else if c = '#' then some [] else none
    | .escaped quoted => do
      let e ← escape? c
      let later ← value? env (.text quoted) rest
      return e :: later
    | .single =>
      if c = '\'' then value? env .bare rest
      else (value? env .single rest).map (c :: ·)
    | .name quoted begun =>
      if isAlphanumeric c then value? env (.name quoted (begun ++ [c])) rest
      else if c = '\x7b' ∧ begun = [] then value? env (.braced quoted []) rest
      else if c = '$' then (value? env (.name quoted []) rest).map (valueOf env begun ++ ·)
      else (value? env (.text quoted) rest).map (valueOf env begun ++ c :: ·)
    | .braced quoted begun =>
      if c = '\x7d' then (value? env (.text quoted) rest).map (valueOf env begun ++ ·)
      else value? env (.braced quoted (begun ++ [c])) rest
    | .double =>
      if c = '$' then value? env (.name true []) rest
      else if c = '"' then value? env .bare rest
      else if c = '\\' then value? env (.escaped true) rest
      else (value? env .double rest).map (c :: ·)
    | .bare =>
      if c = '$' then value? env (.name false []) rest
      else if c = '\'' then value? env .single rest
      else if c = '"' then value? env .double rest
      else if c = '\\' then value? env (.escaped false) rest
      else if c = ' ' ∨ c = '\t' then value? env .ended rest
      else (value? env .bare rest).map (c :: ·)

/-! ### Lines -/

/-- What a line asks for. -/
inductive Assignment
  | none
  | set (name value : String)
  deriving DecidableEq, Repr

/-- Whether a name may begin with a character. -/
def startsName (c : Char) : Bool := c.isAlpha || c == '_'

/-- Whether a name may go on with a character. -/
def inName (c : Char) : Bool := c.isAlphanum || c == '_' || c == '.'

/-- The name a text begins with, and the text after it and the blanks that follow. -/
def name? (text : List Char) : Option (List Char × List Char) :=
  if text.head?.any startsName then
    some (text.takeWhile inName, (text.dropWhile inName).dropWhile isBlank)
  else none

/-- The text after an equals sign. -/
def afterEquals? : List Char → Option (List Char)
  | '=' :: rest => some rest
  | _ => none

/-- The name of a line and the text after its equals sign. The word `export` may stand in
front of the name, and is a name itself when an equals sign follows. -/
def target? (text : List Char) : Option (List Char × List Char) := do
  let (name, rest) ← name? text
  match afterEquals? rest with
  | some value => return (name, value)
  | none =>
    if name = "export".toList then
      let (name, rest) ← name? rest
      return (name, ← afterEquals? rest)
    else failure

/-- Whether nothing is said any more: the text ends, or a comment begins. -/
def isSilent (text : List Char) : Bool := text.head?.all (· == '#')

/-- What a line asks for, if it is legal. -/
def assignment? (env : Environment) (line : List Char) : Option Assignment :=
  let text := strip isBlank line
  if isSilent text then some .none
  else do
    let (name, rest) ← target? text
    let rest := rest.dropWhile isBlank
    let value ← if isSilent rest then some [] else value? env .bare rest
    return .set (String.ofList name) (String.ofList value)

/-! ### Files -/

/-- The environment after some lines. -/
def apply (env : Environment) : List Bytes → Environment
  | [] => env
  | line :: rest =>
    match (text? line).bind fun text => assignment? env text.toList with
    | none => env
    | some .none => apply env rest
    | some (.set name value) => apply (env.setMissing name value) rest

/-- The byte that ends a line. -/
def lineFeed : UInt8 := 0x0A

/-- The environment after a file. -/
def load (env : Environment) (content : Bytes) : Environment := apply env (parts lineFeed content)

example : assignment? .empty "export A = 'b c' # d".toList = some (.set "A" "b c") := by
  decide +kernel
example : assignment? .empty "A=b#c".toList = some (.set "A" "b#c") ∧
    assignment? .empty "A=b c".toList = none ∧
    assignment? .empty "A= # b".toList = some (.set "A" "") := by decide +kernel
example : assignment? ⟨[("A", bytesOf "x")]⟩ "B=$A-$\x7bA\x7d\\n".toList =
    some (.set "B" "x-x\n") := by decide +kernel

end SchemaReport.VariableFile
