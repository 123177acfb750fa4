import SchemaReport.CommandLine.Program
import Std.Time.Zoned

/-! The program itself: its script, with the system answering the requests. Variables that
a run sets are kept beside the system's own, which stay as they are. -/
namespace SchemaReport
open Text

/-! ### Faults -/

/-- What the system says in refusing, with the number of the refusal. -/
def refusal? : IO.Error → Option (UInt32 × String)
  | .noFileOrDirectory _ code words | .alreadyExists _ code words
  | .permissionDenied _ code words | .inappropriateType _ code words
  | .invalidArgument _ code words | .resourceExhausted _ code words
  | .noSuchThing _ code words | .interrupted _ code words
  | .otherError code words | .resourceBusy code words | .resourceVanished code words
  | .unsupportedOperation code words | .hardwareFault code words
  | .unsatisfiedConstraints code words | .illegalOperation code words
  | .protocolError code words | .timeExpired code words => some (code, words)
  | .unexpectedEof | .userError _ => none

/-- The number of a refusal, which some calls give as its negative. -/
def refusalNumber (code : UInt32) : Nat :=
  if code < 0x80000000 then code.toNat else (0 - code).toNat

def faultOf (e : IO.Error) : FileFault :=
  match refusal? e with
  | some (code, words) =>
    .os ((OsError.ofCode? (refusalNumber code)).getD (.other (refusalNumber code) words))
  | none => .os (.other 0 (toString e))

/-- The outcome of an action on files. -/
def attempted (action : IO α) : IO (Except FileFault α) := do
  try
    return .ok (← action)
  catch e =>
    return .error (faultOf e)

/-! ### The environment -/

/-- A variable as the system lists it: its name, an equals sign and its value. -/
def listedVariable? (entry : Bytes) : Option (String × Bytes) :=
  match parts 0x3D entry with
  | name :: first :: others =>
    some (lossyText name, List.intercalate [0x3D] (first :: others))
  | _ => none

/-- The variables in the system's list of them, which a zero byte ends each. -/
def listedEnvironment (list : Bytes) : Environment :=
  ((parts 0 list).filterMap listedVariable?).foldl
    (fun env (name, value) => env.set name value) .empty

/-- The variables the run was started with. -/
def startingEnvironment : IO Environment := do
  try
    return listedEnvironment (← IO.FS.readBinFile "/proc/self/environ").data.toList
  catch _ =>
    return .empty

/-! ### The clock -/

/-- The local time of day. -/
def localTime : IO Timestamp := do
  let now ← Std.Time.PlainDateTime.now
  return ⟨now.date.year, now.date.month.val.toNat, now.date.day.val.toNat,
    now.time.hour.val.toNat, now.time.minute.val.toNat, now.time.second.val.toNat⟩

/-! ### Files -/

/-- What is at a path. A directory is what can be listed. -/
def kindAt (path : String) : IO FileKind := do
  let place := (← IO.currentDir) / path
  let here ← place.metadata
  return match here.type with
    | .dir => .directory
    | _ => .file

def namesIn (path : String) : IO (List Name) := do
  let entries ← ((← IO.currentDir) / path).readDir
  return entries.toList.map fun entry => bytesOf entry.fileName

/-- Lets a directory that could not be made pass if it is there. -/
def unlessThere (path : String) (e : IO.Error) : IO Unit := do
  let there ← try pure ((← kindAt path) == .directory) catch _ => pure false
  if there then return else throw e

/-- Makes the first directory of a list, after those behind it where they are missing. -/
def makeAlong : List Path → IO Unit
  | [] => return
  | path :: others => do
    if path.bytes = [] then return
    try IO.FS.createDir path.display
    catch e =>
      if faultOf e = .os .notFound then
        makeAlong others
        try IO.FS.createDir path.display
        catch e => unlessThere path.display e
      else unlessThere path.display e

/-- Writes to a file opened in a certain way. -/
def writeTo (path : String) (mode : IO.FS.Mode) (content : Bytes) : IO Unit := do
  let file ← IO.FS.Handle.mk path mode
  file.write ⟨content.toArray⟩
  file.flush

/-- Asks something of a path. An empty path leads nowhere, and one with a zero byte in it
cannot be asked for. -/
def asked (path : Path) (action : String → IO α) : IO (Except FileFault α) :=
  if path.bytes = [] then return .error (.os .notFound)
  else if path.bytes.contains 0 then return .error .zeroByte
  else attempted (action path.display)

/-! ### Running -/

/-- Answers a request; `held` holds the environment. -/
def perform (held : IO.Ref Environment) : (r : Request) → IO r.Answer
  | .kind path => asked path kindAt
  | .read path => asked path fun path => do return (← IO.FS.readBinFile path).data.toList
  | .list path => asked path namesIn
  | .makeDirectories path => asked path fun _ => makeAlong path.ancestors
  | .append path content => asked path fun path => writeTo path .append content
  | .write path content => asked path fun path => writeTo path .write content
  | .workingDirectory =>
    attempted do return Path.ofText (← IO.currentDir).toString
  | .environment => held.get
  | .setEnvironment env => held.set env
  | .clock => do return Clock.ofList (← localTime) []
  | .setClock _ => return ()
  | .log _ => return ()
  | .print text => do
    let out ← IO.getStdout
    out.putStr text
    out.flush
  | .complain text => do
    let err ← IO.getStderr
    err.putStr text
    err.flush

/-- Runs a script, the system answering. -/
def Script.perform (held : IO.Ref Environment) : Script α → IO α
  | done value => return value
  | ask r next => do
    let answer ← SchemaReport.perform held r
    (next answer).perform held

end SchemaReport

/-- Runs the program with the arguments of the process. -/
def main (arguments : List String) : IO UInt32 := do
  let held ← IO.mkRef (← SchemaReport.startingEnvironment)
  let code ← (SchemaReport.program (arguments.map SchemaReport.Text.bytesOf)).perform held
  return code.toUInt32
