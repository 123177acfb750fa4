import SchemaReport.Script

/-! A world scripts can be run in: a tree of files and everything else a script can ask
for, as one value. Running a script answers its requests one after the other, each in the
world the one before it left. -/
namespace SchemaReport
open Text

structure World where
  files : FileTree
  /-- Where relative paths start. -/
  directory : Location
  environment : Environment
  clock : Clock
  /-- What has been logged, in order. -/
  events : List Event
  /-- What has gone to standard output. -/
  printed : String
  /-- What has gone to standard error. -/
  complaints : String

namespace World

/-- The absolute path of a location. -/
def pathOf (location : Location) : Path := ⟨Path.slash :: Path.glue location⟩

/-- The world after a change of its files that may be refused. -/
def changed (w : World) : Except FileFault FileTree → World × Except FileFault Unit
  | .ok files => ({ w with files := files }, .ok ())
  | .error fault => (w, .error fault)

/-- Answers a request. -/
def answer (w : World) : (r : Request) → World × r.Answer
  | .kind path => (w, w.files.kind w.directory path)
  | .read path => (w, w.files.read w.directory path)
  | .list path => (w, w.files.list w.directory path)
  | .makeDirectories path =>
    let (files, made) := w.files.makeDirectories w.directory path
    ({ w with files := files }, made)
  | .append path content => w.changed (w.files.append w.directory path content)
  | .write path content => w.changed (w.files.write w.directory path content)
  | .workingDirectory =>
    (w, if w.files.node? w.directory = some .directory then .ok (pathOf w.directory)
      else .error (.os .notFound))
  | .environment => (w, w.environment)
  | .setEnvironment env => ({ w with environment := env }, ())
  | .clock => (w, w.clock)
  | .setClock clock => ({ w with clock := clock }, ())
  | .log events => ({ w with events := w.events ++ events }, ())
  | .print text => ({ w with printed := w.printed ++ text }, ())
  | .complain text => ({ w with complaints := w.complaints ++ text }, ())

end World

/-- Runs a script in a world. -/
def Script.run : Script α → World → World × α
  | done value, w => (w, value)
  | ask r next, w =>
    let (w, answer) := w.answer r
    (next answer).run w

/-- Runs a script that may fail. -/
def Session.run (s : Session α) (w : World) : World × Except Failure α :=
  Script.run (ExceptT.run s) w

namespace Script

@[simp] theorem run_done (value : α) (w : World) : (done value).run w = (w, value) := rfl

@[simp] theorem run_ask (r : Request) (next : r.Answer → Script α) (w : World) :
    (ask r next).run w = (next (w.answer r).2).run (w.answer r).1 := rfl

@[simp] theorem run_request (r : Request) (w : World) : (request r).run w = w.answer r := rfl

/-- What follows runs in the world the first part leaves. -/
theorem run_bind (s : Script α) (k : α → Script β) (w : World) :
    (s.bind k).run w = (k (s.run w).2).run (s.run w).1 := by
  induction s generalizing w with
  | done value => rfl
  | ask r next ih => simp only [ask_bind, run_ask, ih]

end Script

namespace Session

@[simp] theorem run_pure (value : α) (w : World) :
    (pure value : Session α).run w = (w, .ok value) := rfl

@[simp] theorem run_fail (e : Failure) (w : World) :
    (fail e : Session α).run w = (w, .error e) := rfl

@[simp] theorem run_ofExcept (result : Except Failure α) (w : World) :
    (ofExcept result).run w = (w, result) := rfl

@[simp] theorem run_kind (path : Path) (w : World) :
    (kind path).run w = (w, .ok (w.files.kind w.directory path)) := rfl

@[simp] theorem run_read (path : Path) (w : World) :
    (read path).run w = (w, .ok (w.files.read w.directory path)) := rfl

@[simp] theorem run_list (path : Path) (w : World) :
    (list path).run w = (w, .ok (w.files.list w.directory path)) := rfl

@[simp] theorem run_makeDirectories (path : Path) (w : World) :
    (makeDirectories path).run w =
      ({ w with files := (w.files.makeDirectories w.directory path).1 },
        .ok (w.files.makeDirectories w.directory path).2) := rfl

@[simp] theorem run_append (path : Path) (content : Bytes) (w : World) :
    (append path content).run w =
      ((w.changed (w.files.append w.directory path content)).1,
        .ok (w.changed (w.files.append w.directory path content)).2) := rfl

@[simp] theorem run_write (path : Path) (content : Bytes) (w : World) :
    (write path content).run w =
      ((w.changed (w.files.write w.directory path content)).1,
        .ok (w.changed (w.files.write w.directory path content)).2) := rfl

@[simp] theorem run_workingDirectory (w : World) :
    workingDirectory.run w =
      (w, .ok (if w.files.node? w.directory = some .directory then .ok (World.pathOf w.directory)
        else .error (.os .notFound))) := rfl

@[simp] theorem run_environment (w : World) : environment.run w = (w, .ok w.environment) := rfl

@[simp] theorem run_setEnvironment (env : Environment) (w : World) :
    (setEnvironment env).run w = ({ w with environment := env }, .ok ()) := rfl

@[simp] theorem run_clock (w : World) : clock.run w = (w, .ok w.clock) := rfl

@[simp] theorem run_setClock (clock : Clock) (w : World) :
    (setClock clock).run w = ({ w with clock := clock }, .ok ()) := rfl

@[simp] theorem run_print (text : String) (w : World) :
    (print text).run w = ({ w with printed := w.printed ++ text }, .ok ()) := rfl

@[simp] theorem run_log (events : List Event) (w : World) :
    (log events).run w = ({ w with events := w.events ++ events }, .ok ()) := rfl

@[simp] theorem run_say (event : Event) (w : World) :
    (say event).run w = ({ w with events := w.events ++ [event] }, .ok ()) := rfl

/-- What follows a failure is not run. -/
theorem run_bind (s : Session α) (k : α → Session β) (w : World) :
    (s >>= k).run w =
      match s.run w with
      | (w, .ok value) => (k value).run w
      | (w, .error e) => (w, .error e) := by
  show Script.run (Script.bind (ExceptT.run s) (ExceptT.bindCont k)) w = _
  rw [Script.run_bind]
  unfold Session.run
  rcases Script.run (ExceptT.run s) w with ⟨v, result⟩
  cases result <;> rfl

theorem run_attempt (answer : Session (Except FileFault α)) (failure : FileFault → Failure)
    (w : World) :
    (attempt answer failure).run w =
      ((answer.run w).1, (answer.run w).2.bind fun given => given.mapError failure) := by
  rw [attempt, run_bind]
  rcases answer.run w with ⟨v, _ | _ | _⟩ <;> rfl

/-- Looking whether something is at a path leaves the world as it is. -/
theorem run_exists? (path : Path) (w : World) :
    (exists? path).run w = (w, .ok (w.files.kind w.directory path).isOk) := by
  rw [exists?, run_bind, run_kind]
  dsimp only
  cases w.files.kind w.directory path <;> rfl

/-- The text of a file, or a failure; only the log may grow. -/
theorem run_readText (path : Path) (complaint : FileFault → String) (w : World) :
    (readText path complaint).run w =
      match asText (w.files.read w.directory path) with
      | .ok text => (w, .ok text)
      | .error fault =>
        ({ w with events := w.events ++ [.plain .error (complaint fault)] },
          .error (.fileAccess path fault)) := by
  rw [readText, run_bind, run_read]
  dsimp only
  cases asText (w.files.read w.directory path) <;> rfl

end Session
end SchemaReport
