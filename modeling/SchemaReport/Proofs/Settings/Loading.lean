import SchemaReport.CommandLine.Commands
import SchemaReport.Proofs.Conversion.Collecting

/-! What loading the settings comes to.

Loading looks for two files, in the working directory and in the directories above it. Where it
finds neither, the settings are the default ones, and nothing but the log has changed
(`run_load_missing`). -/
namespace SchemaReport

section
variable {w : World} {directories : List Path}

theorem run_findVariables_missing (h : ∀ directory ∈ directories,
    w.files.kind w.directory (directory.join VariableFile.fileName) = .error (.os .notFound)) :
    (VariableFile.find directories).run w = (w, .ok none) := by
  induction directories with
  | nil => rfl
  | cons directory others ih =>
    rw [VariableFile.find, Session.run_bind, Session.run_kind, h directory List.mem_cons_self]
    exact ih fun other hother => h other (List.mem_cons_of_mem directory hother)

theorem run_findSettings_missing (h : ∀ directory ∈ directories,
    w.files.isFile w.directory (directory.join (.ofText Settings.fileName)) = false) :
    ∃ events, (Settings.find directories).run w = ({ w with events := events }, .ok none) := by
  induction directories generalizing w with
  | nil => exact ⟨w.events, rfl⟩
  | cons directory others ih =>
    rw [Settings.find, Session.run_bind, Session.run_say]
    dsimp only
    rw [Session.run_bind, run_isFile]
    dsimp only
    rw [h directory List.mem_cons_self]
    exact ih fun other hother => h other (List.mem_cons_of_mem directory hother)

/-- Neither the working directory nor one above it has a file that loading looks for. -/
structure World.Unconfigured (w : World) : Prop where
  directory : w.files.node? w.directory = some .directory
  noVariables : ∀ directory ∈ (pathOf w.directory).ancestors,
    w.files.kind w.directory (directory.join VariableFile.fileName) = .error (.os .notFound)
  noSettings : ∀ directory ∈ (pathOf w.directory).ancestors,
    w.files.isFile w.directory (directory.join (.ofText Settings.fileName)) = false

/-- The log makes no difference. -/
theorem World.Unconfigured.logged (h : w.Unconfigured) (events : List Event) :
    { w with events := events }.Unconfigured := ⟨h.directory, h.noVariables, h.noSettings⟩

theorem run_applyNearest_missing (h : w.Unconfigured) :
    VariableFile.applyNearest.run w = (w, .ok ()) := by
  rw [VariableFile.applyNearest, Session.run_bind, Session.run_workingDirectory, if_pos h.directory]
  dsimp only
  rw [Session.run_bind, run_findVariables_missing h.noVariables]
  rfl

theorem run_findNearest_missing (h : w.Unconfigured) :
    ∃ events, Settings.findNearest.run w = ({ w with events := events }, .ok none) := by
  rw [Settings.findNearest, Session.run_bind, Session.run_attempt, Session.run_workingDirectory,
    if_pos h.directory]
  exact run_findSettings_missing h.noSettings

/-- Without a settings file and without a file of variables the settings are the default ones. -/
theorem run_load_missing (h : w.Unconfigured) :
    ∃ events, (Settings.load none).run w = ({ w with events := events }, .ok {}) := by
  rw [Settings.load, Session.run_bind, Session.run_say]
  dsimp only
  rw [Session.run_bind, run_applyNearest_missing (h.logged _)]
  dsimp only
  rw [Session.run_bind, Session.run_say]
  dsimp only
  rw [Session.run_bind, Settings.fileOf]
  obtain ⟨events, hnearest⟩ := run_findNearest_missing (h.logged _)
  rw [hnearest]
  exact ⟨_, rfl⟩

/-- Nor does a command line change them that says nothing of settings. -/
theorem run_settings_missing {i : Invocation} (h : w.Unconfigured) (hconfig : i.config = none)
    (houtput : i.output = none) :
    ∃ events, i.settings.run w = ({ w with events := events }, .ok {}) := by
  obtain ⟨events, hload⟩ := run_load_missing h
  rw [Invocation.settings, hconfig, Session.run_bind, hload, houtput]
  exact ⟨_, rfl⟩

end
end SchemaReport
