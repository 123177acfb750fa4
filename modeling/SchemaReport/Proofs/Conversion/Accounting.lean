import SchemaReport.CommandLine.Program
import SchemaReport.Proofs.Conversion.AnyOrder
import SchemaReport.Proofs.Script.Logging
import SchemaReport.Proofs.Settings.Loading

/-! What a batch says about itself.

A batch report is read in five ways: it counts, it lists its failures, it is summed up, it is a
success or not, and in the end it is an exit code. All five are readings of one list of outcomes
(`BatchReport.accounts`), which has one outcome for every schema of the directory, in their order,
in whatever order the conversions make their requests (`Batch.outcomes_of_ends`); so a run of the
program ends with zero exactly when every schema has been converted
(`convertDirectory_accounts`). -/
namespace SchemaReport
open Text

/-! ### Reports -/

namespace BatchReport

/-- The first line of a summary. -/
def heading (b : BatchReport) : String :=
  s!"Converted {b.total} file(s) in {b.directory.display}" ++
    if b.failed = 0 then ", all succeeded" else s!", {b.succeeded} succeeded, {b.failed} failed:"

/-- What a summary says of a failure: on a line of its own its number, what the file is called
and the message. A file whose path does not end in a name is called by the path. -/
def entry (number : Nat) (path : Path) (e : Failure) : String :=
  let called := match path.fileName? with
    | some name => lossyText name
    | none => path.display
  s!"\n\t{number}. {called}: {e.message}"

/-- An entry for each failure, numbered from one. -/
def entries (b : BatchReport) : List String :=
  (b.failures.zipIdx 1).map fun ((path, e), number) => entry number path e

/-- No file of the batch failed. -/
def AllConverted (b : BatchReport) : Prop := ∀ o ∈ b.outcomes, o.result.isOk = true

instance (b : BatchReport) : Decidable b.AllConverted :=
  inferInstanceAs (Decidable (∀ o ∈ b.outcomes, o.result.isOk = true))

/-- A report all readings of which tell the same. -/
structure Accounts (b : BatchReport) : Prop where
  total : b.total = b.outcomes.length
  succeeded : b.succeeded = b.outcomes.countP fun o => o.result.isOk
  failed : b.succeeded + b.failed = b.total
  /-- The failures are the outcomes that are errors, in their order. -/
  failures : b.failures.map (fun (path, e) => (⟨path, .error e⟩ : Outcome)) =
    b.outcomes.filter fun o => !o.result.isOk
  summary : b.summary = b.heading ++ String.join b.entries
  entries : b.entries.length = b.failed
  success : b.ensureSuccess = .ok () ↔ b.AllConverted
  failure : ¬ b.AllConverted → b.ensureSuccess = .error (.batchFailed b.failed b.total)

theorem isSuccess_eq : Outcome.isSuccess = fun o => o.result.isOk := by
  funext o
  obtain ⟨path, result⟩ := o
  cases result <;> rfl

theorem failureLine_eq : failureLine = entry := by
  funext number path e
  rfl

theorem failureLines_eq_join (first : Nat) (failures : List (Path × Failure)) :
    failureLines first failures = String.join
      ((failures.zipIdx first).map fun ((path, e), number) => entry number path e) := by
  induction failures generalizing first with
  | nil => rfl
  | cons failure rest ih =>
    rw [failureLines, ih, failureLine_eq, List.zipIdx_cons, List.map_cons, String.join_cons]

theorem outcomes_of_failures (outcomes : List Outcome) :
    (outcomes.filterMap Outcome.failure?).map (fun (path, e) => (⟨path, .error e⟩ : Outcome)) =
      outcomes.filter fun o => !o.result.isOk := by
  induction outcomes with
  | nil => rfl
  | cons o rest ih =>
    obtain ⟨path, result⟩ := o
    cases result with
    | ok converted => exact ih
    | error e => exact congrArg (⟨path, .error e⟩ :: ·) ih

theorem failed_eq_zero_iff (b : BatchReport) : b.failed = 0 ↔ b.AllConverted := by
  have htotal := b.succeeded_add_failed
  have hall : b.succeeded = b.total ↔ b.AllConverted := by
    rw [succeeded, isSuccess_eq]
    exact List.countP_eq_length
  rw [← hall]
  omega

/-- **All readings of a batch report agree.** -/
theorem accounts (b : BatchReport) : b.Accounts where
  total := rfl
  succeeded := by rw [succeeded, isSuccess_eq]
  failed := b.succeeded_add_failed
  failures := outcomes_of_failures b.outcomes
  summary := by
    rw [summary, heading, entries, ← failureLines_eq_join]
    split
    · next h =>
      rw [List.eq_nil_of_length_eq_zero (b.length_failures.trans h)]
      exact String.append_empty.symm
    · rfl
  entries := by rw [entries, List.length_map, List.length_zipIdx, b.length_failures]
  success := by
    rw [← b.failed_eq_zero_iff, ensureSuccess]
    split <;> simp [*]
  failure h := by rw [ensureSuccess, if_neg (mt b.failed_eq_zero_iff.mp h)]

example : BatchReport.summary ⟨.ofText "in", [⟨.ofText "in/a.yaml", .error (.config "empty")⟩,
    ⟨.ofText "in/b.yaml", .error (.variableNotSet "HOME")⟩]⟩ =
      "Converted 2 file(s) in in, 0 succeeded, 2 failed:" ++
        "\n\t1. a.yaml: Configuration error: empty" ++
        "\n\t2. b.yaml: Environment variable not set: HOME" := by decide

end BatchReport

/-! ### Directories -/

section
variable {settings loaded : Settings} {directory : Path} {w v : World} {report : BatchReport}

theorem isDirectory_of_run (h : (convertDirectory settings directory).run w = (v, .ok report)) :
    w.files.isDirectory w.directory directory = true := by
  cases hdirectory : w.files.isDirectory w.directory directory with
  | true => rfl
  | false =>
    rw [run_convertDirectory_of_not settings hdirectory] at h
    cases h

/-- The outcomes of conversions are those of their files, in order. -/
theorem Converts.map_path {start : Location} {t t' : FileTree} {paths : List Path}
    {outcomes : List Outcome} (h : Converts settings start t paths outcomes t') :
    outcomes.map Outcome.path = paths := by
  induction h with
  | none => rfl
  | next clock _ ih => exact congrArg _ ih

/-- A directory is converted schema by schema. -/
theorem outcomes_of_run (h : (convertDirectory settings directory).run w = (v, .ok report)) :
    report.outcomes.map Outcome.path = w.schemas settings directory ∧
    (∃ u, (collectSchemas directory settings.input.extension).run w =
      (u, .ok (w.schemas settings directory))) ∧
    Converts settings w.directory w.files (w.schemas settings directory) report.outcomes
      v.files := by
  have hdirectory := isDirectory_of_run h
  obtain ⟨events, hcollect⟩ := run_collectSchemas settings hdirectory
  obtain ⟨_, _, v', outcomes, -, hconverts, hrun⟩ := run_convertDirectory settings hdirectory
  rw [hrun] at h
  cases h
  exact ⟨hconverts.map_path, ⟨_, hcollect⟩, hconverts⟩

/-! ### The command and the program -/

/-- The command says how the batch went, and fails when the batch does. -/
theorem run_convertPath (h : (convertDirectory settings directory).run w = (v, .ok report)) :
    ((convertPath settings directory).run w).2 = report.ensureSuccess := by
  have hkind : w.files.kind w.directory directory = .ok .directory :=
    FileTree.kind_eq_directory_iff.mpr (FileTree.isDirectory_iff.mp (isDirectory_of_run h))
  rw [convertPath, Session.run_bind, Session.run_attempt, Session.run_kind, hkind]
  dsimp only [Except.bind, Except.mapError]
  rw [convertBatch, Session.run_bind, h]
  rfl

/-- Once the settings are there, the command comes to what the batch comes to. -/
theorem run_convert {i : Invocation} {parallel : Bool} {start : World}
    (hcommand : i.command = .convert directory parallel)
    (hloaded : i.settings.run start = (w, .ok loaded))
    (h : (convertDirectory (loaded.sideBySide parallel) directory).run w = (v, .ok report)) :
    (i.run.run start).2 = report.ensureSuccess := by
  rw [Invocation.run, hcommand]
  dsimp only
  rw [Session.run_bind, hloaded]
  exact run_convertPath h

/-- The exit code tells how the command ended. -/
theorem run_perform (i : Invocation) (start : World) :
    (i.perform.run start).2 = (ending (i.run.run start).2).1 := by
  obtain ⟨events, complaints, h⟩ := Script.run_relogged (ExceptT.run i.run) start
    (start.events ++ [.spoken .debug s!"Command line: {i.command.name.word}"]) start.complaints
  show (Script.run (Script.bind (ExceptT.run i.run) _) (start.relogged _ _)).2 = _
  rw [Script.run_bind, h]
  rfl

theorem run_program {i : Invocation} {start : World} {arguments : List Bytes}
    (h : Invocation.ofArguments start.environment arguments = .ok i) :
    ((program arguments).run start).2 = (ending (i.run.run start).2).1 := by
  obtain ⟨events, complaints, hlog⟩ := i.perform.run_withLog
    (LogFilter.ofRun start.environment i).admits start start.events start.complaints
  show (Script.run (Script.bind (Script.request .environment) _) start).2 = _
  rw [Script.run_bind, Script.run_request]
  dsimp only [World.answer]
  rw [h, ← run_perform]
  exact (congrArg Prod.snd hlog :)

/-- **A batch accounts for every schema of its directory.** Whatever the files: when a directory is
converted to a report, its outcomes are those of the schemas collected, in their order, each
converted in its turn; if they are converted side by side instead, there is still an outcome for
each of them, in their order, whatever became of it; all readings of such a report agree; and the
command that converts the directory, once its settings are there, succeeds exactly when every
schema has been converted, so that the program ends with zero then, and else with one. -/
theorem convertDirectory_accounts
    (h : (convertDirectory settings directory).run w = (v, .ok report)) :
    (∃ files u, (collectSchemas directory settings.input.extension).run w = (u, .ok files) ∧
      report.outcomes.map Outcome.path = files ∧
      Converts settings w.directory w.files files report.outcomes v.files ∧
      (w.files.Listed → files.Nodup) ∧
      ∀ v' values, (Batch.pool settings files u).Ends v' values →
        ∃ outcomes, values = outcomes.map .ok ∧ outcomes.map Outcome.path = files ∧
          (⟨directory, outcomes⟩ : BatchReport).Accounts) ∧
    report.Accounts ∧
    ∀ (i : Invocation) (parallel : Bool) (loaded : Settings) (start : World),
      i.command = .convert directory parallel → i.settings.run start = (w, .ok loaded) →
      loaded.sideBySide parallel = settings →
      ((i.run.run start).2 = .ok () ↔ report.AllConverted) ∧
      ∀ arguments, Invocation.ofArguments start.environment arguments = .ok i →
        ((program arguments).run start).2 = if report.AllConverted then 0 else 1 := by
  obtain ⟨hpaths, ⟨u, hcollect⟩, hconverts⟩ := outcomes_of_run h
  refine ⟨⟨_, u, hcollect, hpaths, hconverts, fun hlisted => hlisted.nodup_schemasIn, ?_⟩,
    report.accounts, ?_⟩
  · intro v' values hends
    obtain ⟨outcomes, hvalues, hpaths'⟩ := Batch.outcomes_of_ends hends
    exact ⟨outcomes, hvalues, hpaths', BatchReport.accounts _⟩
  intro i parallel loaded start hcommand hloaded hsettings
  subst hsettings
  have hrun := run_convert hcommand hloaded h
  refine ⟨by rw [hrun, report.accounts.success], fun arguments harguments => ?_⟩
  rw [run_program harguments, hrun]
  split
  · next hall => rw [report.accounts.success.mpr hall]; rfl
  · next hall => rw [report.accounts.failure hall]; rfl

end

/-! ### A batch that fails -/

/-- A schema that is no good, and one that is. -/
def World.mixed : World := .ofNodes
  [([bytesOf "b.yaml"], .file (bytesOf keysOnly)),
    ([bytesOf "a.yaml"], .file (bytesOf "typeNumber\n"))]

/-- A command line that asks for the working directory to be converted. -/
def convertHere : Invocation := ⟨none, none, 0, false, .convert (.ofText ".") false⟩

theorem World.mixed_unconfigured : mixed.Unconfigured := by
  have hroot : (pathOf mixed.directory).ancestors = [.ofText "/"] := by decide
  refine ⟨rfl, ?_, ?_⟩
  · rw [hroot, List.forall_mem_singleton]
    decide
  · rw [hroot, List.forall_mem_singleton]
    decide

/-- Why the schema that is no good is refused: for its only line. -/
def refusedLine : Failure :=
  .scan (.ofText "./a.yaml") (.atLine 1 "typeNumber" (.unreadable .malformedLine))

theorem conversion_mixed_bad (clock : Clock) :
    conversion {} World.mixed.files [] clock (.ofText "./a.yaml") =
      (World.mixed.files, .error refusedLine) := by
  have hpath : reportPath {} (.ofText "./a.yaml") = .ok (.ofText "./a.txt") := by decide
  have hstem : schemaStem (.ofText "./a.yaml") "yaml" = .ok "a" := by decide
  have hread : Session.asText (World.mixed.files.read [] (.ofText "./a.yaml")) =
      .ok "typeNumber\n" := by decide
  have hscan : (scanSource {} {} clock "typeNumber\n").result =
      .error (.atLine 1 "typeNumber" (.unreadable .malformedLine)) := rfl
  simp only [conversion, hpath, inspection, hstem, hread, hscan]
  rfl

theorem conversion_mixed_good (clock : Clock) : ∃ converted,
    (conversion {} World.mixed.files [] clock (.ofText "./b.yaml")).2 = .ok converted := by
  obtain ⟨scanned, hscan⟩ := exists_scan_keysOnly clock
  have hpath : reportPath {} (.ofText "./b.yaml") = .ok (.ofText "./b.txt") := by decide
  have hstem : schemaStem (.ofText "./b.yaml") "yaml" = .ok "b" := by decide
  have hread : World.mixed.files.read [] (.ofText "./b.yaml") = .ok (bytesOf keysOnly) := by decide
  have hseen : directorySeenTo World.mixed.files [] (.ofText "./b.txt") =
      (World.mixed.files, .ok ()) := by decide
  have hdestination : World.mixed.files.destination [] (.ofText "./b.txt") =
      .ok [bytesOf "b.txt"] := by decide
  have happend := FileTree.append_eq_map_destination World.mixed.files [] (.ofText "./b.txt")
    (bytesOf scanned.report.text)
  rw [hdestination] at happend
  rw [conversion_eq_ok hpath (inspection_eq_ok hstem hread hscan) hseen happend]
  exact ⟨_, rfl⟩

/-- Converted one after the other, the first fails and the second does not. -/
theorem Converts.outcomes_mixed {outcomes : List Outcome} {t : FileTree}
    (h : Converts {} [] World.mixed.files [.ofText "./a.yaml", .ofText "./b.yaml"] outcomes t) :
    ∃ converted, outcomes = [⟨.ofText "./a.yaml", .error refusedLine⟩,
      ⟨.ofText "./b.yaml", .ok converted⟩] := by
  cases h with
  | next clock h =>
    rw [conversion_mixed_bad] at h ⊢
    cases h with
    | next clock h =>
      obtain ⟨converted, hconverted⟩ := conversion_mixed_good clock
      rw [hconverted]
      cases h
      exact ⟨converted, rfl⟩

theorem summary_mixed (converted : Converted) : BatchReport.summary ⟨.ofText ".",
    [⟨.ofText "./a.yaml", .error refusedLine⟩, ⟨.ofText "./b.yaml", .ok converted⟩]⟩ =
      "Converted 2 file(s) in ., 1 succeeded, 1 failed:\n\t1. a.yaml: " ++
        "Failed to convert ./a.yaml: line 1 (typeNumber): directive has no ':' delimiter" := by
  -- The report on the second schema is not looked at.
  show "Converted " ++ toString 2 ++ " file(s) in " ++ (Path.ofText ".").display ++
    (", " ++ toString 1 ++ " succeeded, " ++ toString 1 ++ " failed:") ++
    BatchReport.failureLines 1 [(.ofText "./a.yaml", refusedLine)] = _
  decide

theorem World.mixed_listed : mixed.files.Listed := ⟨by decide, by decide⟩

/-- One of two schemas is refused: both have an outcome, the summary has an entry for the one, and
the program ends with one. -/
theorem convertDirectory_accounts_mixed : ∃ w v report,
    convertHere.settings.run World.mixed = (w, .ok {}) ∧
    (convertDirectory {} (.ofText ".")).run w = (v, .ok report) ∧
    report.outcomes.map Outcome.path = [.ofText "./a.yaml", .ofText "./b.yaml"] ∧
    (report.outcomes.map Outcome.path).Nodup ∧
    report.summary = "Converted 2 file(s) in ., 1 succeeded, 1 failed:\n\t1. a.yaml: " ++
      "Failed to convert ./a.yaml: line 1 (typeNumber): directive has no ':' delimiter" ∧
    ¬ report.AllConverted ∧
    (convertHere.run.run World.mixed).2 ≠ .ok () ∧
    ((program [bytesOf "convert", bytesOf "."]).run World.mixed).2 = 1 := by
  obtain ⟨events, hloaded⟩ :=
    run_settings_missing (i := convertHere) World.mixed_unconfigured rfl rfl
  have hdirectory : World.mixed.files.isDirectory World.mixed.directory (.ofText ".") = true := by
    decide
  have hschemas : World.mixed.schemas {} (.ofText ".") =
      [.ofText "./a.yaml", .ofText "./b.yaml"] :=
    (schemasIn_eq [bytesOf "b.yaml", bytesOf "a.yaml"] [bytesOf "a.yaml", bytesOf "b.yaml"]
      (by decide) (by decide) (by decide)).trans (by decide)
  obtain ⟨_, _, v, outcomes, -, -, hrun⟩ :=
    run_convertDirectory {} (w := { World.mixed with events := events }) hdirectory
  obtain ⟨⟨files, u, hcollect, hpaths, hconverts, hnodup, -⟩, -, hcommand⟩ :=
    convertDirectory_accounts hrun
  obtain ⟨events', hcollected⟩ :=
    run_collectSchemas {} (w := { World.mixed with events := events }) hdirectory
  obtain rfl : files = [.ofText "./a.yaml", .ofText "./b.yaml"] := by
    rw [hcollected] at hcollect
    cases hcollect
    exact hschemas
  obtain ⟨converted, houtcomes⟩ : ∃ converted, outcomes = _ := hconverts.outcomes_mixed
  have hfailed : ¬ BatchReport.AllConverted ⟨.ofText ".", outcomes⟩ := by
    intro hall
    have hfirst := hall _ (houtcomes ▸ List.mem_cons_self)
    cases hfirst
  obtain ⟨hok, hexit⟩ := hcommand convertHere false {} World.mixed rfl hloaded rfl
  refine ⟨_, _, _, hloaded, hrun, hpaths, ?_, ?_, hfailed, fun h => hfailed (hok.mp h), ?_⟩
  · rw [hpaths]
    exact hnodup World.mixed_listed
  · rw [houtcomes]
    exact summary_mixed converted
  · rw [hexit _ (by decide), if_neg hfailed]

end SchemaReport
