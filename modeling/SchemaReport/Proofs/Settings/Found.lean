import SchemaReport.CommandLine.Commands
import SchemaReport.Proofs.Conversion.Collecting
import SchemaReport.Proofs.Script.Logging

/-! What loading comes to where there are settings.

Loading changes the environment, by a file of variables, and the log, and nothing else. Which
environment it makes does not depend on the log (`World.fullEnvironment`), and which settings file it
finds depends on the files alone (`World.settingsFile?`). What the file says is then read in that
environment, and the command line has the last word (`run_settings_found`). -/
namespace SchemaReport

/-- A script that may fail comes to the same whatever has been logged before. -/
theorem Session.run_relogged {α : Type} (s : Session α) (w : World) (events : List Event)
    (complaints : String) : ∃ events' complaints', s.run (w.relogged events complaints) =
      ((s.run w).1.relogged events' complaints', (s.run w).2) :=
  Script.run_relogged (ExceptT.run s) w events complaints

namespace World

/-- The environment once the nearest file of variables has been applied. -/
def fullEnvironment (w : World) : Environment := (VariableFile.applyNearest.run w).1.environment

/-- The settings file that is read: the one that was chosen or else the nearest. -/
def settingsFile? (w : World) : Option Path → Except Failure (Option Path)
  | some path => .ok (some path)
  | none =>
    if w.files.node? w.directory = some .directory then
      .ok (((pathOf w.directory).ancestors.map fun directory =>
        directory.join (.ofText Settings.fileName)).find? (w.files.isFile w.directory))
    else .error (.io (.os .notFound))

end World

section
variable {w : World}

theorem run_findVariables (directories : List Path) :
    ∃ found, (VariableFile.find directories).run w = (w, .ok found) := by
  induction directories with
  | nil => exact ⟨none, rfl⟩
  | cons directory others ih =>
    rw [VariableFile.find, Session.run_bind, Session.run_kind]
    dsimp only
    split
    · exact ⟨_, rfl⟩
    · exact ih
    · exact ih
    · exact ⟨none, rfl⟩

/-- A file of variables changes the environment at most. -/
theorem run_applyFile (path : Path) :
    ∃ env, (VariableFile.applyFile path).run w = ({ w with environment := env }, .ok ()) := by
  rw [VariableFile.applyFile, Session.run_bind, Session.run_read]
  cases w.files.read w.directory path with
  | error fault => exact ⟨w.environment, rfl⟩
  | ok content =>
    dsimp only
    rw [Session.run_bind, Session.run_environment]
    exact ⟨_, rfl⟩

theorem run_applyNearest : VariableFile.applyNearest.run w =
    ({ w with environment := w.fullEnvironment }, .ok ()) := by
  suffices h : ∃ env, VariableFile.applyNearest.run w = ({ w with environment := env }, .ok ()) by
    obtain ⟨env, h⟩ := h
    rw [World.fullEnvironment, h]
  rw [VariableFile.applyNearest, Session.run_bind, Session.run_workingDirectory]
  by_cases hdirectory : w.files.node? w.directory = some .directory
  · rw [if_pos hdirectory]
    dsimp only
    obtain ⟨found, hfound⟩ := run_findVariables (w := w) (World.pathOf w.directory).ancestors
    rw [Session.run_bind, hfound]
    cases found with
    | none => exact ⟨w.environment, rfl⟩
    | some path => exact run_applyFile path
  · rw [if_neg hdirectory]
    exact ⟨w.environment, rfl⟩

/-- The log makes no difference to the environment. -/
theorem World.fullEnvironment_logged (events : List Event) :
    ({ w with events := events } : World).fullEnvironment = w.fullEnvironment := by
  obtain ⟨events', complaints', h⟩ :=
    Session.run_relogged VariableFile.applyNearest w events w.complaints
  exact congrArg (fun outcome => outcome.1.environment) h

theorem run_findSettings (directories : List Path) : ∃ events,
    (Settings.find directories).run w = ({ w with events := events },
      .ok ((directories.map fun directory => directory.join (.ofText Settings.fileName)).find?
        (w.files.isFile w.directory))) := by
  induction directories generalizing w with
  | nil => exact ⟨w.events, rfl⟩
  | cons directory others ih =>
    rw [Settings.find, Session.run_bind, Session.run_say]
    dsimp only
    rw [Session.run_bind, run_isFile]
    dsimp only
    rw [List.map_cons]
    cases hfile : w.files.isFile w.directory (directory.join (.ofText Settings.fileName)) with
    | true =>
      rw [List.find?_cons_of_pos hfile]
      exact ⟨_, rfl⟩
    | false =>
      rw [List.find?_cons_of_neg (by rw [hfile]; exact Bool.false_ne_true)]
      exact ih

theorem run_fileOf (config : Option Path) : ∃ events,
    (Settings.fileOf config).run w = ({ w with events := events }, w.settingsFile? config) := by
  cases config with
  | some path => exact ⟨w.events, rfl⟩
  | none =>
    rw [Settings.fileOf, Settings.findNearest, Session.run_bind, Session.run_attempt,
      Session.run_workingDirectory, World.settingsFile?]
    by_cases hdirectory : w.files.node? w.directory = some .directory
    · rw [if_pos hdirectory, if_pos hdirectory]
      exact run_findSettings _
    · rw [if_neg hdirectory, if_neg hdirectory]
      exact ⟨w.events, rfl⟩

/-- Neither the environment nor the log makes a difference to it. -/
theorem run_fileOf_found {config found : Option Path} (h : w.settingsFile? config = .ok found)
    (env : Environment) (log : List Event) : ∃ events,
    (Settings.fileOf config).run { w with environment := env, events := log } =
      ({ w with environment := env, events := events }, .ok found) := by
  obtain ⟨events, hrun⟩ := run_fileOf (w := { w with environment := env, events := log }) config
  exact ⟨events, hrun.trans (congrArg (Prod.mk _) h)⟩

/-- Settings are read from a file, and this is its text. -/
def World.Configured (w : World) (config : Option Path) (text : String) : Prop :=
  ∃ path, w.settingsFile? config = .ok (some path) ∧
    Session.asText (w.files.read w.directory path) = .ok text

theorem run_load_found {config : Option Path} {text : String} (h : w.Configured config text) :
    ∃ events, (Settings.load config).run w =
      ({ w with environment := w.fullEnvironment, events := events },
        (Settings.ofText w.fullEnvironment text).result) := by
  obtain ⟨path, hfile, hread⟩ := h
  rw [Settings.load, Session.run_bind, Session.run_say]
  dsimp only
  rw [Session.run_bind, run_applyNearest, World.fullEnvironment_logged]
  dsimp only
  rw [Session.run_bind, Session.run_say]
  dsimp only
  obtain ⟨events, hfound⟩ := run_fileOf_found hfile w.fullEnvironment _
  rw [Session.run_bind, hfound]
  dsimp only
  rw [Session.run_bind, Session.run_say]
  dsimp only
  rw [Settings.ofFile, Session.run_bind, Session.run_readText, hread]
  exact ⟨_, rfl⟩

/-- What the command line asks for is put in at the end. -/
theorem run_settings_found {i : Invocation} {text : String} (h : w.Configured i.config text) :
    ∃ events, i.settings.run w =
      ({ w with environment := w.fullEnvironment, events := events },
        (Settings.ofText w.fullEnvironment text).result.map (·.withOutput i.output)) := by
  obtain ⟨events, hload⟩ := run_load_found h
  rw [Invocation.settings, Session.run_bind, hload]
  cases (Settings.ofText w.fullEnvironment text).result with
  | error e => exact ⟨events, rfl⟩
  | ok s =>
    cases i.output with
    | none => exact ⟨_, rfl⟩
    | some directory => exact ⟨_, rfl⟩

end
end SchemaReport
