import SchemaReport.Clock
import SchemaReport.Conversion.Failure
import SchemaReport.Environment
import SchemaReport.Files.Tree
import SchemaReport.Log
import SchemaReport.Logged

/-! Scripts: what a run asks of the system around it. A script is finished, or it makes a
request and goes on with the answer; nothing else can happen on the way. Who answers is
left open, so that the same script can be run on the files of the system and on a tree of
files that is a value. -/
namespace SchemaReport
open Text

/-- What can be asked of the system. -/
inductive Request
  /-- What a path leads to. -/
  | kind (path : Path)
  | read (path : Path)
  /-- The names in a directory, in no particular order. -/
  | list (path : Path)
  /-- A directory and those above it. -/
  | makeDirectories (path : Path)
  | append (path : Path) (content : Bytes)
  | write (path : Path) (content : Bytes)
  | workingDirectory
  | environment
  | setEnvironment (env : Environment)
  | clock
  | setClock (clock : Clock)
  | log (events : List Event)
  /-- Text for standard output. -/
  | print (text : String)
  /-- Text for standard error. -/
  | complain (text : String)

/-- What a request is answered with. -/
def Request.Answer : Request → Type
  | kind _ => Except FileFault FileKind
  | read _ => Except FileFault Bytes
  | list _ => Except FileFault (List Name)
  | makeDirectories _ => Except FileFault Unit
  | append _ _ => Except FileFault Unit
  | write _ _ => Except FileFault Unit
  | workingDirectory => Except FileFault Path
  | environment => Environment
  | clock => Clock
  | setEnvironment _ | setClock _ | log _ | print _ | complain _ => Unit

inductive Script (α : Type)
  | done (value : α)
  | ask (request : Request) (next : request.Answer → Script α)

namespace Script

/-- Goes on with what a script comes to. -/
def bind : Script α → (α → Script β) → Script β
  | done value, k => k value
  | ask request next, k => ask request fun answer => (next answer).bind k

instance : Monad Script where
  pure := done
  bind := bind

/-- A single request. -/
def request (r : Request) : Script r.Answer := ask r done

@[simp] theorem pure_bind (value : α) (k : α → Script β) : (done value).bind k = k value := rfl

@[simp] theorem ask_bind (r : Request) (next : r.Answer → Script α) (k : α → Script β) :
    (ask r next).bind k = ask r fun answer => (next answer).bind k := rfl

theorem bind_done (s : Script α) : s.bind done = s := by
  induction s with
  | done value => rfl
  | ask r next ih => simp only [ask_bind, ih]

theorem bind_assoc (s : Script α) (k : α → Script β) (l : β → Script γ) :
    (s.bind k).bind l = s.bind fun value => (k value).bind l := by
  induction s with
  | done value => rfl
  | ask r next ih => simp only [ask_bind, ih]

instance : LawfulMonad Script :=
  .mk' Script bind_done (fun _ _ => rfl) bind_assoc

/-- The script with its events turned into lines of standard error, as far as they are
`admitted`. -/
def withLog (admitted : Event → Bool) : Script α → Script α
  | done value => done value
  | ask (.log events) next =>
    ask (.complain (String.join ((events.filter admitted).map Event.line))) fun answer =>
      (next answer).withLog admitted
  | ask request next => ask request fun answer => (next answer).withLog admitted

end Script

/-- A script that may fail. -/
abbrev Session := ExceptT Failure Script

namespace Session

/-- A request whose answer is no failure of the script. -/
def request (r : Request) : Session r.Answer := ExceptT.lift (Script.request r)

def fail (e : Failure) : Session α := ExceptT.mk (.done (.error e))

/-- A result that is already known. -/
def ofExcept (result : Except Failure α) : Session α := ExceptT.mk (.done result)

/-! ### Requests -/

/-- What a path leads to. -/
def kind (path : Path) : Session (Except FileFault FileKind) := request (.kind path)

/-- The content of a file. -/
def read (path : Path) : Session (Except FileFault Bytes) := request (.read path)

/-- The names in a directory, in no particular order. -/
def list (path : Path) : Session (Except FileFault (List Name)) := request (.list path)

/-- Makes a directory and those above it. -/
def makeDirectories (path : Path) : Session (Except FileFault Unit) :=
  request (.makeDirectories path)

/-- Appends to a file. -/
def append (path : Path) (content : Bytes) : Session (Except FileFault Unit) :=
  request (.append path content)

/-- Replaces the content of a file. -/
def write (path : Path) (content : Bytes) : Session (Except FileFault Unit) :=
  request (.write path content)

/-- Where relative paths start. -/
def workingDirectory : Session (Except FileFault Path) := request .workingDirectory

def environment : Session Environment := request .environment

def setEnvironment (env : Environment) : Session Unit := request (.setEnvironment env)

def clock : Session Clock := request .clock

def setClock (clock : Clock) : Session Unit := request (.setClock clock)

/-- Writes text to standard output. -/
def print (text : String) : Session Unit := request (.print text)

def log (events : List Event) : Session Unit := request (.log events)

/-! ### Combinations -/

def say (event : Event) : Session Unit := log [event]

/-- A result with the events that led to it. -/
def ofLogged (l : Logged α) : Session α := do
  log l.events
  ofExcept l.result

/-- A request to a file; a fault fails the script. -/
def attempt (answer : Session (Except FileFault α)) (failure : FileFault → Failure) :
    Session α := do
  match ← answer with
  | .ok value => return value
  | .error fault => fail (failure fault)

/-- Whether a path leads to a directory. -/
def isDirectory (path : Path) : Session Bool := do
  match ← kind path with
  | .ok .directory => return true
  | _ => return false

/-- Whether a path leads to a file. -/
def isFile (path : Path) : Session Bool := do
  match ← kind path with
  | .ok .file => return true
  | _ => return false

/-- Whether a path leads to anything. -/
def exists? (path : Path) : Session Bool := do
  match ← kind path with
  | .ok _ => return true
  | .error _ => return false

/-- What a file says, if it is text. -/
def asText (content : Except FileFault Bytes) : Except FileFault String := do
  match text? (← content) with
  | some text => return text
  | none => .error .notText

/-- The text of a file. A fault is complained about and fails the script. -/
def readText (path : Path) (complaint : FileFault → String) : Session String := do
  match asText (← read path) with
  | .ok text => return text
  | .error fault =>
    say (.plain .error (complaint fault))
    fail (.fileAccess path fault)

end Session
end SchemaReport
