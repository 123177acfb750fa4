import SchemaReport.Proofs.Conversion.Sources
import SchemaReport.Proofs.Settings.Expanding
import SchemaReport.Proofs.Settings.Found
import SchemaReport.Proofs.Settings.Loading

/-! What a directory asked for on the command line overrides.

The directory of reports that a command line asks for is put in after the settings have been read.
So it hides which directory a settings file names, but not that the file names a variable that is
not set: such a file is refused before the command line has its say. And it is put in as text, so
bytes that are no text do not arrive as they were. But for these two things the directory in the
settings makes no difference (`convert_overrides`). -/
namespace SchemaReport
open Text Expansion

namespace Settings

/-- The settings with another directory of reports. -/
def withDirectory (s : Settings) (directory : Option String) : Settings :=
  { s with output := { s.output with directory := directory } }

end Settings

/-- A directory in the settings cannot do without a variable that is not set. -/
def Environment.Lacks (env : Environment) (directory : Option String) (name : String) : Prop :=
  ∃ text ∈ directory, Expands env text.toList (.error name)

section
variable {env : Environment} {directory : Option String} {base : Settings} {text : String}

/-! ### Settings -/

theorem Environment.Lacks.result_expandDirectory {name : String} (h : env.Lacks directory name) :
    (Settings.expandDirectory env directory).result = .error (.variableNotSet name) := by
  obtain ⟨text, rfl, hexpands⟩ := h
  rw [Settings.expandDirectory, Logged.result_bind, expands_iff.mp hexpands]
  rfl

theorem exists_result_expandDirectory (h : ∀ name, ¬ env.Lacks directory name) :
    ∃ expanded, (Settings.expandDirectory env directory).result = .ok expanded := by
  cases directory with
  | none => exact ⟨none, rfl⟩
  | some text =>
    have hexpands := expands_outcome env text.toList
    cases houtcome : outcome env (segments text.toList) with
    | error name => exact absurd ⟨text, rfl, houtcome ▸ hexpands⟩ (h name)
    | ok expanded =>
      rw [houtcome] at hexpands
      rw [Settings.expandDirectory, Logged.result_bind, expands_iff.mp hexpands]
      exact ⟨_, rfl⟩

theorem Environment.lacks_of_result {name : String}
    (h : (expand env text).result = .error (.variableNotSet name)) : env.Lacks (some text) name :=
  ⟨text, rfl, expands_iff.mpr h⟩

theorem Environment.not_lacks_of_result {v : String} (h : (expand env text).result = .ok v)
    (name : String) : ¬ env.Lacks (some text) name := by
  rintro ⟨other, hother, hexpands⟩
  cases hother
  rw [expands_iff.mp hexpands] at h
  cases h

/-- References in the directory are replaced first, and on their own. -/
theorem result_expand_withDirectory (env : Environment) (base : Settings)
    (directory : Option String) : ((base.withDirectory directory).expand env).result =
      (Settings.expandDirectory env directory).result.bind fun expanded =>
        ((base.withDirectory none).expand env).result.map (·.withDirectory expanded) := by
  cases hdirectory : (Settings.expandDirectory env directory).result with
  | error e =>
    rw [Settings.expand, Logged.result_bind]
    show (Settings.expandDirectory env directory).result.bind _ = _
    rw [hdirectory]
    rfl
  | ok expanded =>
    simp only [Settings.expand, Logged.result_bind, Settings.withDirectory, hdirectory]
    cases (expand env base.render.checkCall).result <;>
      cases (expand env base.render.checkReceiver).result <;>
        cases (expand env base.render.assignSource).result <;> rfl

theorem result_ofText_of_lacks {name : String}
    (h : Settings.parse? text = some (base.withDirectory directory))
    (hlacks : env.Lacks directory name) :
    (Settings.ofText env text).result = .error (.variableNotSet name) := by
  rw [Settings.result_ofText h, result_expand_withDirectory, hlacks.result_expandDirectory]
  rfl

/-- What a directory asked for makes of settings, whichever directory they name. -/
def Settings.overridden (env : Environment) (base : Settings) (output : Path) :
    Except Failure Settings :=
  ((base.withDirectory none).expand env).result.bind fun s =>
    s.checkExtension.result.map fun _ => s.withOutput (some output)

theorem result_ofText_withOutput
    (h : Settings.parse? text = some (base.withDirectory directory))
    (hlacks : ∀ name, ¬ env.Lacks directory name) (output : Path) :
    (Settings.ofText env text).result.map (·.withOutput (some output)) =
      base.overridden env output := by
  obtain ⟨expanded, hexpanded⟩ := exists_result_expandDirectory hlacks
  rw [Settings.result_ofText h, result_expand_withDirectory, hexpanded, Settings.overridden]
  cases ((base.withDirectory none).expand env).result with
  | error e => rfl
  | ok s =>
    by_cases hempty : s.input.extension = ""
    · simp [Except.bind, Except.map, Settings.checkExtension, Settings.withDirectory, hempty,
        Logged.fail]
    · simp [Except.bind, Except.map, Settings.checkExtension, Settings.withDirectory, hempty,
        Settings.withOutput]

/-- The directory asked for stands in the settings as text; but for it and the names of snippets
they are as written. -/
theorem overridden_eq_ok {output : Path} {settings : Settings}
    (h : base.overridden env output = .ok settings) :
    settings.input = base.input ∧
      settings.output = ⟨some output.display, base.output.extension⟩ ∧
      settings.scan = base.scan ∧ settings.batch = base.batch := by
  unfold Settings.overridden at h
  cases hexpand : ((base.withDirectory none).expand env).result with
  | error e =>
    rw [hexpand] at h
    cases h
  | ok s =>
    rw [hexpand] at h
    obtain ⟨-, -, hextension, hinput, hscan, hbatch⟩ := Settings.rewrites_of_expand hexpand
    have hsettings : settings = s.withOutput (some output) := by
      cases hcheck : s.checkExtension.result with
      | error e => simp [Except.bind, Except.map, hcheck] at h
      | ok => simpa [Except.bind, Except.map, hcheck] using h.symm
    rw [hsettings]
    exact ⟨hinput, congrArg (OutputSettings.mk _) hextension, hscan, hbatch⟩

end

/-! ### Runs -/

section
variable {w : World} {i : Invocation} {path : Path} {parallel : Bool} {text : String}

/-- A conversion runs with the settings once they are known. -/
theorem run_convert_found (h : w.Configured i.config text)
    (hcommand : i.command = .convert path parallel) : ∃ events, i.run.run w =
      match (Settings.ofText w.fullEnvironment text).result.map (·.withOutput i.output) with
      | .error e => ({ w with environment := w.fullEnvironment, events := events }, .error e)
      | .ok settings => (convertPath (settings.sideBySide parallel) path).run
          { w with environment := w.fullEnvironment, events := events } := by
  obtain ⟨events, hsettings⟩ := run_settings_found h
  refine ⟨events, ?_⟩
  rw [Invocation.run, hcommand, Session.run_bind, hsettings]
  cases (Settings.ofText w.fullEnvironment text).result.map (·.withOutput i.output) <;> rfl

theorem run_convertPath_file (settings : Settings)
    (h : w.files.kind w.directory path = .ok .file) : ∃ events clock,
      (convertPath settings path).run w =
        ({ w with
            files := (conversion settings w.files w.directory w.clock path).1
            events := events
            clock := clock },
          (conversion settings w.files w.directory w.clock path).2.map fun _ => ()) := by
  rw [convertPath, Session.run_bind, Session.run_attempt, Session.run_kind, h]
  dsimp only [Except.bind, Except.mapError]
  obtain ⟨events, clock, hrun⟩ := run_convertFile settings path w
  rw [convertSingle, Session.run_bind, hrun]
  cases (conversion settings w.files w.directory w.clock path).2 <;> exact ⟨_, _, rfl⟩

theorem input_sideBySide (settings : Settings) (asked : Bool) :
    (settings.sideBySide asked).input = settings.input := by
  cases asked <;> rfl

theorem output_sideBySide (settings : Settings) (asked : Bool) :
    (settings.sideBySide asked).output = settings.output := by
  cases asked <;> rfl

/-- What schemas say has nothing to do with how they are converted. -/
theorem inspection_sideBySide (settings : Settings) (asked : Bool) :
    inspection (settings.sideBySide asked) = inspection settings := by
  cases asked <;> rfl

/-- A conversion that is asked for and succeeds appends a report where the settings say. -/
theorem records_convertPath {settings : Settings} (h : w.files.kind w.directory path = .ok .file)
    (hok : ((convertPath settings path).run w).2 = .ok ()) :
    ∃ stem scanned location, schemaStem path settings.input.extension = .ok stem ∧
      inspection settings w.files w.directory w.clock path = .ok scanned ∧
      Records w.files ((convertPath settings path).run w).1.files w.directory
        ((reportDirectory settings.output path).join
          (.ofText (stem ++ "." ++ settings.output.extension)))
        location (bytesOf scanned.report.text) := by
  obtain ⟨events, clock, hrun⟩ := run_convertPath_file settings h
  rw [hrun] at hok ⊢
  rcases conversion_cases settings w.files w.directory w.clock path with
    ⟨e, -, hc⟩ | ⟨output, scanned, hpath, hscan, ⟨e, files', hc, -⟩ |
      ⟨files', location, hc, hrecords⟩⟩
  · rw [hc] at hok
    cases hok
  · rw [hc] at hok
    cases hok
  · unfold reportPath at hpath
    cases hstem : schemaStem path settings.input.extension with
    | error e =>
      rw [hstem] at hpath
      cases hpath
    | ok stem =>
      rw [hstem] at hpath
      cases hpath
      refine ⟨stem, scanned, location, rfl, hscan, ?_⟩
      rw [hc]
      exact hrecords

end

/-- Settings that are read from a file before references are replaced. -/
def World.Reads (w : World) (config : Option Path) (s : Settings) : Prop :=
  ∃ text, w.Configured config text ∧ Settings.parse? text = some s

theorem display_ofText (text : String) : Path.ofText (Path.ofText text).display = .ofText text := by
  show Path.ofText (lossyText (bytesOf text)) = _
  rw [lossyText_of_text? (text?_bytesOf text)]

section
variable {w : World} {base : Settings} {directory directory' : Option String}
  {i i' : Invocation} {output path : Path} {parallel : Bool}

/-- Two conversions that are asked for with one directory of reports. -/
theorem same_of_withOutput (hreads : w.Reads i.config (base.withDirectory directory))
    (hreads' : w.Reads i'.config (base.withDirectory directory'))
    (houtput : i.output = some output) (houtput' : i'.output = some output)
    (hcommand : i.command = .convert path parallel)
    (hcommand' : i'.command = .convert path parallel)
    (hnone : ∀ name, ¬ w.fullEnvironment.Lacks directory name)
    (hnone' : ∀ name, ¬ w.fullEnvironment.Lacks directory' name) :
    (i'.run.run w).2 = (i.run.run w).2 ∧
      ∃ events complaints, (i'.run.run w).1 = (i.run.run w).1.relogged events complaints := by
  obtain ⟨text, htext, hparse⟩ := hreads
  obtain ⟨text', htext', hparse'⟩ := hreads'
  obtain ⟨events, hrun⟩ := run_convert_found htext hcommand
  obtain ⟨events', hrun'⟩ := run_convert_found htext' hcommand'
  rw [hrun, hrun', houtput, houtput', result_ofText_withOutput hparse hnone,
    result_ofText_withOutput hparse' hnone']
  cases base.overridden w.fullEnvironment output with
  | error e => exact ⟨rfl, events', w.complaints, rfl⟩
  | ok settings =>
    obtain ⟨more, complaints, h⟩ := Session.run_relogged
      (convertPath (settings.sideBySide parallel) path)
      { w with environment := w.fullEnvironment, events := events } events' w.complaints
    have hanswer := congrArg Prod.snd h
    have hworld := congrArg Prod.fst h
    exact ⟨hanswer, more, complaints, hworld⟩

theorem refused_of_lacks (hreads : w.Reads i.config (base.withDirectory directory))
    (hcommand : i.command = .convert path parallel) {name : String}
    (hlacks : w.fullEnvironment.Lacks directory name) :
    (i.run.run w).2 = .error (.variableNotSet name) ∧ (i.run.run w).1.files = w.files := by
  obtain ⟨text, htext, hparse⟩ := hreads
  obtain ⟨events, hrun⟩ := run_convert_found htext hcommand
  rw [hrun, result_ofText_of_lacks hparse hlacks]
  exact ⟨rfl, rfl⟩

/-- The settings a conversion that succeeds has run with. -/
theorem settings_of_ok (hreads : w.Reads i.config (base.withDirectory directory))
    (houtput : i.output = some output) (hcommand : i.command = .convert path parallel)
    (hok : (i.run.run w).2 = .ok ()) :
    ∃ settings events, base.overridden w.fullEnvironment output = .ok settings ∧
      (i.settings.run w).2 = .ok settings ∧
      i.run.run w = (convertPath (settings.sideBySide parallel) path).run
        { w with environment := w.fullEnvironment, events := events } := by
  have hnone : ∀ name, ¬ w.fullEnvironment.Lacks directory name := fun name hlacks => by
    rw [(refused_of_lacks hreads hcommand hlacks).1] at hok
    cases hok
  obtain ⟨text, htext, hparse⟩ := hreads
  obtain ⟨events, hrun⟩ := run_convert_found htext hcommand
  obtain ⟨events', hsettings⟩ := run_settings_found htext
  rw [houtput, result_ofText_withOutput hparse hnone] at hrun hsettings
  cases hoverridden : base.overridden w.fullEnvironment output with
  | error e =>
    rw [hrun, hoverridden] at hok
    cases hok
  | ok settings =>
    rw [hoverridden] at hrun hsettings
    exact ⟨settings, events, rfl, by rw [hsettings], hrun⟩

/-- A report goes to the directory asked for, as far as that is text. -/
theorem records_of_ok (hreads : w.Reads i.config (base.withDirectory directory))
    (houtput : i.output = some output) (hcommand : i.command = .convert path parallel)
    (hfile : w.files.kind w.directory path = .ok .file) (hok : (i.run.run w).2 = .ok ()) :
    ∃ settings stem scanned location, (i.settings.run w).2 = .ok settings ∧
      schemaStem path base.input.extension = .ok stem ∧
      ((inspectFile settings path).run w).2 = .ok scanned ∧
      Records w.files (i.run.run w).1.files w.directory
        ((Path.ofText output.display).join (.ofText (stem ++ "." ++ base.output.extension)))
        location (bytesOf scanned.report.text) := by
  obtain ⟨settings, events, hoverridden, hsettings, hrun⟩ :=
    settings_of_ok hreads houtput hcommand hok
  obtain ⟨hinput, hout, -, -⟩ := overridden_eq_ok hoverridden
  rw [hrun] at hok ⊢
  obtain ⟨stem, scanned, location, hstem, hscan, hrecords⟩ := records_convertPath
    (w := { w with environment := w.fullEnvironment, events := events }) hfile hok
  rw [input_sideBySide, hinput] at hstem
  rw [output_sideBySide, hout] at hrecords
  rw [inspection_sideBySide] at hscan
  obtain ⟨events', clock', hinspect⟩ := run_inspectFile settings path w
  exact ⟨settings, stem, scanned, location, hsettings, hstem, by rw [hinspect]; exact hscan,
    hrecords⟩

/-- **What a directory asked for overrides.** Two command lines ask for one conversion and one
directory of reports, and the settings they are read with differ in the directory alone. If
neither directory needs a variable that is not set, the answers are the same and so are the worlds,
but for the log. A directory that needs one is not overridden: the run is refused for the variable
and the files stay as they are. A schema whose conversion succeeds has its report, and nothing
else, appended to one file: it is named after the schema, with the extension of reports, and lies
where the directory asked for leads to when it is read as text, which is where it leads to itself
if it is text and another path if it is not. -/
theorem convert_overrides (hreads : w.Reads i.config (base.withDirectory directory))
    (hreads' : w.Reads i'.config (base.withDirectory directory'))
    (houtput : i.output = some output) (houtput' : i'.output = some output)
    (hcommand : i.command = .convert path parallel)
    (hcommand' : i'.command = .convert path parallel) :
    ((∀ name, ¬ w.fullEnvironment.Lacks directory name) →
      (∀ name, ¬ w.fullEnvironment.Lacks directory' name) →
      (i'.run.run w).2 = (i.run.run w).2 ∧
        ∃ events complaints, (i'.run.run w).1 = (i.run.run w).1.relogged events complaints) ∧
    (∀ name, w.fullEnvironment.Lacks directory name →
      (i.run.run w).2 = .error (.variableNotSet name) ∧ (i.run.run w).1.files = w.files) ∧
    (w.files.kind w.directory path = .ok .file → (i.run.run w).2 = .ok () →
      ∃ settings stem scanned location, (i.settings.run w).2 = .ok settings ∧
        schemaStem path base.input.extension = .ok stem ∧
        ((inspectFile settings path).run w).2 = .ok scanned ∧
        Records w.files (i.run.run w).1.files w.directory
          ((Path.ofText output.display).join (.ofText (stem ++ "." ++ base.output.extension)))
          location (bytesOf scanned.report.text)) ∧
    (Path.ofText output.display = output ↔ ∃ text, output = .ofText text) := by
  refine ⟨same_of_withOutput hreads hreads' houtput houtput' hcommand hcommand',
    fun name hlacks => refused_of_lacks hreads hcommand hlacks,
    records_of_ok hreads houtput hcommand, fun h => ⟨_, h.symm⟩, ?_⟩
  rintro ⟨text, rfl⟩
  exact display_ofText text

end
/-! ### Two settings files -/

/-- A schema, a directory whose name is no text, and two settings files. The directory in one of
them is that of a variable. -/
def World.configured (env : Environment) : World :=
  { World.ofNodes [([bytesOf "a.yaml"], .file (bytesOf keysOnly)), ([[0x6F, 0xFF]], .directory),
      ([bytesOf "needy.toml"], .file (bytesOf "[output]\ndirectory = \"$\x7bREPORTS\x7d\"\n")),
      ([bytesOf "plain.toml"], .file (bytesOf "[output]\ndirectory = \"reports\"\n"))] with
    environment := env }

/-- A command line that asks for a settings file and a directory of reports. -/
def convertInto (config : String) (output : Path) : Invocation :=
  ⟨some (.ofText config), some output, 0, false, .convert (.ofText "a.yaml") false⟩

section
variable {env : Environment} {output : Path}

theorem World.configured_unconfigured (env : Environment) : (configured env).Unconfigured := by
  have hroot : (pathOf (configured env).directory).ancestors = [.ofText "/"] := by
    show (pathOf []).ancestors = _
    decide
  -- The files are the same whatever the environment is.
  refine ⟨rfl, ?_, ?_⟩
  · rw [hroot, List.forall_mem_singleton]
    show (configured ⟨[]⟩).files.kind [] _ = _
    decide
  · rw [hroot, List.forall_mem_singleton]
    show (configured ⟨[]⟩).files.isFile [] _ = _
    decide

theorem World.fullEnvironment_configured (env : Environment) :
    (configured env).fullEnvironment = env := by
  rw [fullEnvironment, run_applyNearest_missing (configured_unconfigured env)]
  rfl

/-- What the two settings files say. -/
theorem World.configured_reads (env : Environment) :
    (configured env).Reads (some (.ofText "needy.toml"))
      (({} : Settings).withDirectory (some "$\x7bREPORTS\x7d")) ∧
    (configured env).Reads (some (.ofText "plain.toml"))
      (({} : Settings).withDirectory (some "reports")) := by
  have hneedy : Session.asText ((configured ⟨[]⟩).files.read [] (.ofText "needy.toml")) =
      .ok "[output]\ndirectory = \"$\x7bREPORTS\x7d\"\n" := by decide
  have hplain : Session.asText ((configured ⟨[]⟩).files.read [] (.ofText "plain.toml")) =
      .ok "[output]\ndirectory = \"reports\"\n" := by decide
  exact ⟨⟨_, ⟨_, rfl, hneedy⟩, by decide +kernel⟩, ⟨_, ⟨_, rfl, hplain⟩, by decide +kernel⟩⟩

/-- Here the schema is converted, wherever its report is to go. -/
theorem run_convertInto {config : String} {directory : Option String} (output : Path)
    (made : FileTree) (location : Location)
    (hreads : (World.configured env).Reads (some (.ofText config))
      (({} : Settings).withDirectory directory))
    (hnone : ∀ name, ¬ env.Lacks directory name)
    (hoverridden : ({} : Settings).overridden env output =
      .ok { output := ⟨some output.display, "txt"⟩ })
    (hseen : directorySeenTo (World.configured env).files []
      ((Path.ofText output.display).join (.ofText "a.txt")) = (made, .ok ()))
    (hdestination : made.destination [] ((Path.ofText output.display).join (.ofText "a.txt")) =
      .ok location) :
    ∃ report, ((convertInto config output).run.run (World.configured env)).2 = .ok () ∧
      ((convertInto config output).run.run (World.configured env)).1.files =
        made.appendAt location report := by
  have hstem : schemaStem (.ofText "a.yaml") "yaml" = .ok "a" := by decide
  have hpath : reportPath { output := ⟨some output.display, "txt"⟩ } (.ofText "a.yaml") =
      .ok ((Path.ofText output.display).join (.ofText "a.txt")) := by
    rw [reportPath, hstem]
    rfl
  have hread : (World.configured env).files.read [] (.ofText "a.yaml") =
      .ok (bytesOf keysOnly) := by
    show (World.configured ⟨[]⟩).files.read [] _ = _
    decide
  obtain ⟨scanned, hscan⟩ := exists_scan_keysOnly (World.configured env).clock
  have happend := FileTree.append_eq_map_destination made []
    ((Path.ofText output.display).join (.ofText "a.txt")) (bytesOf scanned.report.text)
  rw [hdestination] at happend
  have hconversion := conversion_eq_ok hpath (inspection_eq_ok hstem hread hscan) hseen happend
  obtain ⟨text, htext, hparse⟩ := hreads
  obtain ⟨events, hrun⟩ := run_convert_found (i := convertInto config output) htext rfl
  rw [World.fullEnvironment_configured, convertInto,
    result_ofText_withOutput hparse hnone, hoverridden] at hrun
  have hfile : (World.configured env).files.kind [] (.ofText "a.yaml") = .ok .file := by
    show (World.configured ⟨[]⟩).files.kind [] _ = _
    decide
  obtain ⟨events', clock', hconvert⟩ := run_convertPath_file
    (w := { World.configured env with environment := env, events := events })
    { output := ⟨some output.display, "txt"⟩ } hfile
  have hchange := hrun.trans hconvert
  have hanswer := congrArg (fun c => c.2.map fun _ => ()) hconversion
  have hfiles := congrArg Prod.fst hconversion
  exact ⟨bytesOf scanned.report.text, (congrArg Prod.snd hchange).trans hanswer,
    (congrArg (fun change => change.1.files) hchange).trans hfiles⟩

/-- The tree with a directory more. -/
def World.configuredWith (directory : String) : FileTree :=
  (World.configured ⟨[]⟩).files.put [bytesOf directory] .directory

/-- The variable the directory is that of. -/
def reportsSet : Environment := ⟨[("REPORTS", bytesOf "elsewhere")]⟩

/-- With the variable set it makes no difference which of the settings files is read. -/
theorem convert_overrides_set :
    (World.configured reportsSet).Reads (some (.ofText "needy.toml"))
      (({} : Settings).withDirectory (some "$\x7bREPORTS\x7d")) ∧
    (World.configured reportsSet).Reads (some (.ofText "plain.toml"))
      (({} : Settings).withDirectory (some "reports")) ∧
    ((convertInto "needy.toml" (.ofText "out")).run.run (World.configured reportsSet)).2 = .ok () ∧
    ((convertInto "plain.toml" (.ofText "out")).run.run (World.configured reportsSet)).2 =
      ((convertInto "needy.toml" (.ofText "out")).run.run (World.configured reportsSet)).2 ∧
    ∃ location report, Records (World.configured reportsSet).files
      ((convertInto "needy.toml" (.ofText "out")).run.run (World.configured reportsSet)).1.files []
      (.ofText "out/a.txt") location report := by
  obtain ⟨hreads, hreads'⟩ := World.configured_reads reportsSet
  have hneedy : ∀ name, ¬ reportsSet.Lacks (some "$\x7bREPORTS\x7d") name :=
    Environment.not_lacks_of_result (v := "elsewhere") (by decide +kernel)
  have hplain : ∀ name, ¬ reportsSet.Lacks (some "reports") name :=
    Environment.not_lacks_of_result (v := "reports") (by decide +kernel)
  obtain ⟨-, hok, -⟩ := run_convertInto (.ofText "out") (World.configuredWith "out")
    [bytesOf "out", bytesOf "a.txt"] hreads hneedy (by decide +kernel) (by decide) (by decide)
  have houtput : ∀ config, (convertInto config (.ofText "out")).output = some (.ofText "out") :=
    fun _ => rfl
  have hcommand : ∀ config, (convertInto config (.ofText "out")).command =
      .convert (.ofText "a.yaml") false := fun _ => rfl
  obtain ⟨hsame, -, hrecords, -⟩ := convert_overrides hreads hreads' (houtput "needy.toml")
    (houtput "plain.toml") (hcommand "needy.toml") (hcommand "plain.toml")
  rw [World.fullEnvironment_configured] at hsame
  obtain ⟨_, stem, scanned, location, -, hstem, -, hrecorded⟩ := hrecords (by decide) hok
  obtain rfl : stem = "a" := by
    have ha : schemaStem (.ofText "a.yaml") "yaml" = .ok "a" := by decide
    exact Except.ok.inj (hstem.symm.trans ha)
  exact ⟨hreads, hreads', hok, (hsame hneedy hplain).1, location, _, hrecorded⟩

/-- A variable that is not set is missed though nobody asks for the directory it stands in. And a
report that is to go to a directory whose name is no text does not go there. -/
theorem convert_not_overridden :
    (World.configured ⟨[]⟩).Reads (some (.ofText "needy.toml"))
      (({} : Settings).withDirectory (some "$\x7bREPORTS\x7d")) ∧
    (World.configured ⟨[]⟩).Reads (some (.ofText "plain.toml"))
      (({} : Settings).withDirectory (some "reports")) ∧
    ((convertInto "needy.toml" (.ofText "out")).run.run (World.configured ⟨[]⟩)).2 =
      .error (.variableNotSet "REPORTS") ∧
    ((convertInto "plain.toml" (.ofText "out")).run.run (World.configured ⟨[]⟩)).2 = .ok () ∧
    ((convertInto "plain.toml" ⟨[0x6F, 0xFF]⟩).run.run (World.configured ⟨[]⟩)).2 = .ok () ∧
    ((convertInto "plain.toml" ⟨[0x6F, 0xFF]⟩).run.run (World.configured ⟨[]⟩)).1.files.node?
      [[0x6F, 0xFF], bytesOf "a.txt"] = none := by
  obtain ⟨hreads, hreads'⟩ := World.configured_reads ⟨[]⟩
  have hnone : ∀ name, ¬ (⟨[]⟩ : Environment).Lacks (some "reports") name :=
    Environment.not_lacks_of_result (v := "reports") (by decide +kernel)
  obtain ⟨report, hok, -⟩ := run_convertInto (.ofText "out") (World.configuredWith "out")
    [bytesOf "out", bytesOf "a.txt"] hreads' hnone (by decide +kernel) (by decide) (by decide)
  obtain ⟨report', hok', hfiles⟩ := run_convertInto ⟨[0x6F, 0xFF]⟩
    (World.configuredWith "o\uFFFD") [bytesOf "o\uFFFD", bytesOf "a.txt"] hreads' hnone
    (by decide +kernel) (by decide +kernel) (by decide +kernel)
  refine ⟨hreads, hreads', ?_, hok, hok', ?_⟩
  · refine (refused_of_lacks hreads rfl ?_).1
    rw [World.fullEnvironment_configured]
    exact Environment.lacks_of_result (by decide +kernel)
  · rw [hfiles, FileTree.node?_appendAt_of_ne (by decide)]
    decide

end
end SchemaReport
