import SchemaReport.Proofs.Conversion.Appending
import SchemaReport.Proofs.Conversion.Collecting
import SchemaReport.Proofs.Conversion.ReportNames
import SchemaReport.Settings.Reading

/-! What becomes of schemas that are converted.

A conversion changes one file, the one its report goes to. So a schema stays as it is unless a
report goes to its own file, and in a plain tree that takes a report that has the name of the
schema (`name_of_report_on`). Nothing keeps settings from giving reports such names: then the
report is appended to the schema (`convertFile_into_schema`). Where neither extension ends in the
other, and that of reports holds no slash, schemas are safe. -/
namespace SchemaReport
open Text

/-- Two paths lead to one place. -/
def FileTree.OnePlace (t : FileTree) (start : Location) (p q : Path) : Prop :=
  ∃ location, t.locate start .find p = .ok (.present location) ∧
    t.locate start .find q = .ok (.present location)

section
variable {settings : Settings} {files files' : FileTree} {start location : Location}
  {clock : Clock} {path output : Path}

/-! ### The name of a file -/

/-- A file has the name that the path to it ends in. -/
theorem getLast?_of_locate_file (hroot : files.Rooted)
    (hstart : files.node? start = some .directory)
    (hl : files.locate start .find path = .ok (.present location)) {content : Bytes}
    (hfile : files.node? location = some (.file content)) :
    ∃ n, path.turns.getLast? = some (.name n) ∧ location.getLast? = some n := by
  have horigin := FileTree.node?_origin hstart path
  rcases (FileTree.locate_eq_ok_iff.mp hl).2.end_cases hroot rfl horigin with
    henter | ⟨front, n, there, _, hsteps, -, rfl, -⟩
  · rw [FileTree.node?_of_enter hroot horigin henter] at hfile
    cases hfile
  · rw [FileTree.filter_stepsOf] at hsteps
    exact ⟨n, by simp [hsteps], by simp⟩

/-- A report that goes to a file has the name of that file. -/
theorem name_of_report_on (hroot : files.Rooted) (hstart : files.node? start = some .directory)
    (hslash : '/' ∉ settings.output.extension.toList)
    (hpath : reportPath settings path = .ok output)
    (hl : files.locate start .find output = .ok (.present location)) {content : Bytes}
    (hfile : files.node? location = some (.file content)) : ∃ stem,
    path.fileName? = some (nameWith stem settings.input.extension) ∧
      location.getLast? = some (nameWith stem settings.output.extension) := by
  obtain ⟨stem, hne, hname, rfl⟩ := reportPath_eq_ok hpath
  obtain ⟨n, hturns, hlast⟩ := getLast?_of_locate_file hroot hstart hl hfile
  refine ⟨stem, hname, ?_⟩
  rw [Path.turns_join _ (slash_not_mem_reportName hslash hname),
    Path.turnsOf_of_busy (isIdle_nameWith _ hne), List.getLast?_concat] at hturns
  split at hturns
  · cases hturns
  · cases hturns
    exact hlast

/-! ### Trees that stay plain -/

theorem directorySeenTo_rooted (hroot : files.Rooted) (hstart : files.node? start = some .directory)
    (output : Path) : (directorySeenTo files start output).1.Rooted := by
  unfold directorySeenTo
  split
  · exact hroot
  · next directory hparent =>
    split
    · exact hroot
    · exact hroot.makeDirectories hstart directory

theorem conversion_rooted (hroot : files.Rooted) (hstart : files.node? start = some .directory)
    (settings : Settings) (clock : Clock) (path : Path) :
    (conversion settings files start clock path).1.Rooted := by
  unfold conversion
  split
  · exact hroot
  · exact hroot
  · next output scanned _ _ =>
    have hseen := directorySeenTo_rooted hroot hstart output
    have hstart' := (directorySeenTo_fills files start output).grows.directory hstart
    dsimp only
    unfold reportWritten
    generalize directorySeenTo files start output = seen at hseen hstart' ⊢
    rcases seen with ⟨made, e | _⟩
    · exact hseen
    · dsimp only
      unfold reportAppended
      split
      · exact hseen
      · next happend => exact hseen.append hstart' happend

/-! ### One conversion after the other -/

theorem Converts.grows {paths : List Path} {outcomes : List Outcome}
    (h : Converts settings start files paths outcomes files') : files.Grows files' := by
  induction h with
  | none => exact .refl _
  | next clock _ ih => exact (conversion_grows settings _ start clock _).trans ih

theorem Converts.rooted {paths : List Path} {outcomes : List Outcome}
    (h : Converts settings start files paths outcomes files') (hroot : files.Rooted)
    (hstart : files.node? start = some .directory) : files'.Rooted := by
  induction h with
  | none => exact hroot
  | next clock _ ih =>
    exact ih (conversion_rooted hroot hstart settings clock _)
      ((conversion_grows settings _ start clock _).directory hstart)

/-- A file changes only in a conversion whose report goes there. -/
theorem conversion_keeps (settings : Settings) (clock : Clock) (path : Path) {content : Bytes}
    (hfile : files.node? location = some (.file content)) :
    (conversion settings files start clock path).1.node? location = some (.file content) ∨
    ∃ output converted, reportPath settings path = .ok output ∧ converted.output = output ∧
      (conversion settings files start clock path).2 = .ok converted ∧
      (conversion settings files start clock path).1.locate start .find output =
        .ok (.present location) := by
  rcases conversion_cases settings files start clock path with
    ⟨e, -, h⟩ | ⟨output, scanned, hpath, -, ⟨e, files', h, hfills⟩ | ⟨files', there, h, hrecords⟩⟩
  · rw [h]
    exact .inl hfile
  · rw [h]
    rcases hfills.filled location with hsame | ⟨hnone, -⟩
    · exact .inl (hsame.trans hfile)
    · rw [hnone] at hfile
      cases hfile
  · rw [h]
    by_cases heq : location = there
    · subst heq
      exact .inr ⟨output, _, hpath, rfl, rfl, hrecords.leads⟩
    · rcases hrecords.others location heq with hsame | ⟨hnone, -⟩
      · exact .inl (hsame.trans hfile)
      · rw [hnone] at hfile
        cases hfile

theorem Converts.keeps {paths : List Path} {outcomes : List Outcome}
    (h : Converts settings start files paths outcomes files') {content : Bytes}
    (hfile : files.node? location = some (.file content)) :
    files'.node? location = some (.file content) ∨
    ∃ outcome ∈ outcomes, ∃ converted, outcome.path ∈ paths ∧ outcome.result = .ok converted ∧
      reportPath settings outcome.path = .ok converted.output ∧
      files'.locate start .find converted.output = .ok (.present location) := by
  induction h with
  | none => exact .inl hfile
  | @next t t' path others outcomes clock hothers ih =>
    rcases conversion_keeps settings clock path hfile with
      hsame | ⟨_, converted, hpath, rfl, hresult, hl⟩
    · refine (ih hsame).imp id ?_
      rintro ⟨outcome, hmem, converted, hsource, hreport⟩
      exact ⟨outcome, List.mem_cons_of_mem _ hmem, converted, List.mem_cons_of_mem _ hsource,
        hreport⟩
    · exact .inr ⟨_, List.mem_cons_self, converted, List.mem_cons_self, hresult, hpath,
        FileTree.locate_grows hl hothers.grows⟩

/-! ### Schemas -/

/-- Neither extension ends in the other. -/
def Settings.Distinct (s : Settings) : Prop :=
  ¬ '.' :: s.input.extension.toList <:+ '.' :: s.output.extension.toList ∧
  ¬ '.' :: s.output.extension.toList <:+ '.' :: s.input.extension.toList

instance (s : Settings) : Decidable s.Distinct := inferInstanceAs (Decidable (_ ∧ _))

/-- A report on one schema has not the name of another. -/
theorem Settings.Distinct.name_ne (h : settings.Distinct) {stem : String} {n : Name}
    (hn : isSchemaName settings.input.extension n = true) :
    n ≠ nameWith stem settings.output.extension := by
  rintro rfl
  obtain ⟨other, hother⟩ := Option.isSome_iff_exists.mp hn
  rw [nameWith, lossyText_of_text? (text?_bytesOf _), stemOf?_eq_some_iff] at hother
  have hchars := congrArg String.toList hother
  simp only [String.toList_append, List.append_assoc] at hchars
  have hout : '.' :: settings.output.extension.toList <:+
      stem.toList ++ (".".toList ++ settings.output.extension.toList) := List.suffix_append _ _
  have hin : '.' :: settings.input.extension.toList <:+
      stem.toList ++ (".".toList ++ settings.output.extension.toList) := by
    rw [hchars]
    exact List.suffix_append _ _
  rcases List.suffix_or_suffix_of_suffix hin hout with hends | hends
  · exact h.1 hends
  · exact h.2 hends

/-- A file that has been read is where its path leads to, whatever has grown since. -/
theorem name_of_source (hroot : files.Rooted) (hstart : files.node? start = some .directory)
    (hl : files.locate start .find path = .ok (.present location)) {content : Bytes}
    (hfile : files.node? location = some (.file content)) {n : Name}
    (hname : path.fileName? = some n) : location.getLast? = some n := by
  obtain ⟨m, hturns, hlast⟩ := getLast?_of_locate_file hroot hstart hl hfile
  rw [Path.getLast?_turns_of_fileName? hname] at hturns
  cases hturns
  exact hlast

/-- A report that goes to a schema that could be read has the name of that schema. -/
theorem name_of_report_on_source (hgrows : files.Grows files') (hroot : files.Rooted)
    (hroot' : files'.Rooted) (hstart : files.node? start = some .directory)
    (hslash : '/' ∉ settings.output.extension.toList)
    (hpath : reportPath settings path = .ok output) {schema : Path} {content : Bytes}
    (hread : files.read start schema = .ok content)
    (hone : files'.OnePlace start output schema) {n : Name} (hname : schema.fileName? = some n) :
    ∃ stem, path.fileName? = some (nameWith stem settings.input.extension) ∧
      n = nameWith stem settings.output.extension := by
  obtain ⟨location, hl, hfile⟩ := FileTree.read_eq_ok_iff.mp hread
  obtain ⟨there, houtput, hschema⟩ := hone
  rw [FileTree.locate_grows hl hgrows] at hschema
  cases hschema
  obtain ⟨_, hfile', hmore⟩ := hgrows _ _ hfile
  cases hmore
  obtain ⟨stem, hpathName, hlast⟩ := name_of_report_on hroot' (hgrows.directory hstart) hslash hpath
    houtput hfile'
  refine ⟨stem, hpathName, ?_⟩
  rw [name_of_source hroot hstart hl hfile hname] at hlast
  exact Option.some.inj hlast

theorem convertFile_keeps (settings : Settings) {w : World} {content : Bytes}
    (hread : w.files.read w.directory path = .ok content) :
    ((convertFile settings path).run w).1.files.read w.directory path = .ok content ∨
    ∃ converted, ((convertFile settings path).run w).2 = .ok converted ∧
      reportPath settings path = .ok converted.output ∧
      ((convertFile settings path).run w).1.files.OnePlace w.directory converted.output path := by
  obtain ⟨events, clock, hrun⟩ := run_convertFile settings path w
  obtain ⟨location, hl, hfile⟩ := FileTree.read_eq_ok_iff.mp hread
  have hl' := FileTree.locate_grows hl (conversion_grows settings w.files w.directory w.clock path)
  rw [hrun]
  rcases conversion_keeps settings w.clock path hfile with
    hsame | ⟨_, converted, hpath, rfl, hresult, houtput⟩
  · exact .inl (FileTree.read_eq_ok_iff.mpr ⟨location, hl', hsame⟩)
  · exact .inr ⟨converted, hresult, hpath, location, houtput, hl'⟩

theorem convertDirectory_keeps (settings : Settings) (directory : Path) {schema : Path} {w : World}
    {content : Bytes} (hread : w.files.read w.directory schema = .ok content) :
    ((convertDirectory settings directory).run w).1.files.read w.directory schema = .ok content ∨
    ∃ report, ((convertDirectory settings directory).run w).2 = .ok report ∧
      ∃ outcome ∈ report.outcomes, ∃ converted, outcome.result = .ok converted ∧
      reportPath settings outcome.path = .ok converted.output ∧
      ((convertDirectory settings directory).run w).1.files.OnePlace w.directory
        converted.output schema := by
  cases hdir : w.files.isDirectory w.directory directory with
  | false =>
    rw [run_convertDirectory_of_not settings hdir]
    exact .inl hread
  | true =>
    obtain ⟨events, events', v, outcomes, -, hconverts, hrun⟩ := run_convertDirectory settings hdir
    obtain ⟨location, hl, hfile⟩ := FileTree.read_eq_ok_iff.mp hread
    have hl' := FileTree.locate_grows hl hconverts.grows
    rw [hrun]
    rcases hconverts.keeps hfile with hsame | ⟨outcome, hmem, converted, -, hresult, hpath, houtput⟩
    · exact .inl (FileTree.read_eq_ok_iff.mpr ⟨location, hl', hsame⟩)
    · exact .inr ⟨_, rfl, outcome, hmem, converted, hresult, hpath, location, houtput, hl'⟩

theorem convertDirectory_grows_rooted (settings : Settings) (directory : Path) {w : World}
    (hroot : w.files.Rooted) (hstart : w.files.node? w.directory = some .directory) :
    w.files.Grows ((convertDirectory settings directory).run w).1.files ∧
      ((convertDirectory settings directory).run w).1.files.Rooted := by
  cases hdir : w.files.isDirectory w.directory directory with
  | false =>
    rw [run_convertDirectory_of_not settings hdir]
    exact ⟨.refl _, hroot⟩
  | true =>
    obtain ⟨events, events', v, outcomes, -, hconverts, hrun⟩ := run_convertDirectory settings hdir
    rw [hrun]
    exact ⟨hconverts.grows, hconverts.rooted hroot hstart⟩

/-- **A schema changes only when a report goes to it.** On a tree as it stands on a disk, the
schema a conversion reads is left as it is, unless the conversion succeeds and its report path
leads to the schema itself; and every schema of a directory is left as it is when the directory
is converted, unless the report path of a conversion that succeeded leads to it. With an extension
of reports that holds no slash, the first cannot be if it is another extension than that of
schemas, and the second cannot be if neither extension ends in the other. -/
theorem convert_keeps_schemas (settings : Settings) (w : World) (hplain : w.files.Plain)
    (hstart : w.files.node? w.directory = some .directory) :
    (∀ path content, w.files.read w.directory path = .ok content →
      ((convertFile settings path).run w).1.files.read w.directory path = .ok content ∨
      ∃ converted, ((convertFile settings path).run w).2 = .ok converted ∧
        ((convertFile settings path).run w).1.files.OnePlace w.directory converted.output path) ∧
    (∀ directory, ∀ schema ∈ w.schemas settings directory,
      ∀ content, w.files.read w.directory schema = .ok content →
      ((convertDirectory settings directory).run w).1.files.read w.directory schema = .ok content ∨
      ∃ report, ((convertDirectory settings directory).run w).2 = .ok report ∧
        ∃ outcome ∈ report.outcomes, ∃ converted, outcome.result = .ok converted ∧
        ((convertDirectory settings directory).run w).1.files.OnePlace w.directory
          converted.output schema) ∧
    ('/' ∉ settings.output.extension.toList →
      (settings.output.extension ≠ settings.input.extension → ∀ path content,
        w.files.read w.directory path = .ok content →
        ((convertFile settings path).run w).1.files.read w.directory path = .ok content) ∧
      (settings.Distinct → ∀ directory,
        ∀ schema ∈ w.schemas settings directory,
        ∀ content, w.files.read w.directory schema = .ok content →
        ((convertDirectory settings directory).run w).1.files.read w.directory schema =
          .ok content)) := by
  refine ⟨fun path content hread => ?_, fun directory schema _ content hread => ?_, fun hslash =>
    ⟨fun hne path content hread => ?_, fun hdistinct directory schema hschema content hread => ?_⟩⟩
  · exact (convertFile_keeps settings hread).imp id fun ⟨converted, hresult, _, hone⟩ =>
      ⟨converted, hresult, hone⟩
  · refine (convertDirectory_keeps settings directory hread).imp id ?_
    rintro ⟨report, hrun, outcome, hmem, converted, hresult, -, hone⟩
    exact ⟨report, hrun, outcome, hmem, converted, hresult, hone⟩
  · refine (convertFile_keeps settings hread).resolve_right ?_
    rintro ⟨converted, -, hpath, hone⟩
    obtain ⟨events, clock, hrun⟩ := run_convertFile settings path w
    rw [hrun] at hone
    obtain ⟨stem, -, hname, -⟩ := reportPath_eq_ok hpath
    obtain ⟨stem', hname', hsame⟩ := name_of_report_on_source
      (conversion_grows settings w.files w.directory w.clock path) hplain.toRooted
      (conversion_rooted hplain.toRooted hstart settings w.clock path) hstart hslash hpath hread
      hone hname
    rw [hname'] at hname
    rw [← Option.some.inj hname] at hsame
    exact hne (nameWith_injective_right hsame).symm
  · refine (convertDirectory_keeps settings directory hread).resolve_right ?_
    rintro ⟨report, -, outcome, -, converted, -, hpath, hone⟩
    obtain ⟨hgrows, hroot'⟩ :=
      convertDirectory_grows_rooted settings directory hplain.toRooted hstart
    obtain ⟨n, hn, hext, rfl, -⟩ := exists_name_of_mem_schemasIn hplain hschema
    obtain ⟨stem, -, hsame⟩ := name_of_report_on_source hgrows hplain.toRooted hroot' hstart hslash
      hpath hread hone (Path.fileName?_join directory hn)
    exact hdistinct.name_ne hext hsame

end

/-! ### Schemas on a disk -/

/-- A world that has files, and a clock that stands still. -/
def World.ofNodes (nodes : List (Location × Node)) : World where
  files := ⟨nodes⟩
  directory := []
  environment := ⟨[]⟩
  clock := .ofList ⟨2024, 5, 6, 7, 8, 9⟩ []
  events := []
  printed := ""
  complaints := ""

/-- The shortest schema: it names a key. -/
def keysOnly : String := "primary-keys:id\n"

/-- Two schemas in one directory. -/
def World.twoSchemas : World := .ofNodes
  [([bytesOf "b.yaml"], .file (bytesOf keysOnly)), ([bytesOf "a.yaml"], .file (bytesOf keysOnly))]

theorem World.schemas_twoSchemas :
    twoSchemas.schemas {} (.ofText ".") = [.ofText "./a.yaml", .ofText "./b.yaml"] :=
  (schemasIn_eq [bytesOf "b.yaml", bytesOf "a.yaml"] [bytesOf "a.yaml", bytesOf "b.yaml"]
    (by decide) (by decide) (by decide)).trans (by decide)

theorem World.twoSchemas_plain : twoSchemas.files.Plain :=
  FileTree.plain_of_nodes (by decide) (by decide)

/-- Neither a conversion nor the conversion of the directory changes a schema here. -/
theorem convert_keeps_schemas_two :
    World.twoSchemas.files.Plain ∧
    World.twoSchemas.files.node? World.twoSchemas.directory = some .directory ∧
    ((convertFile {} (.ofText "a.yaml")).run World.twoSchemas).1.files.read [] (.ofText "a.yaml") =
      .ok (bytesOf keysOnly) ∧
    ∀ schema ∈ [Path.ofText "./a.yaml", Path.ofText "./b.yaml"],
      ((convertDirectory {} (.ofText ".")).run World.twoSchemas).1.files.read [] schema =
        .ok (bytesOf keysOnly) := by
  have h := convert_keeps_schemas {} World.twoSchemas World.twoSchemas_plain rfl
  have hslash : '/' ∉ "txt".toList := by decide
  have hfile : World.twoSchemas.files.read [] (.ofText "a.yaml") = .ok (bytesOf keysOnly) := by
    decide
  have hread : ∀ schema ∈ [Path.ofText "./a.yaml", Path.ofText "./b.yaml"],
      World.twoSchemas.files.read [] schema = .ok (bytesOf keysOnly) := by
    rw [List.forall_mem_cons, List.forall_mem_singleton]
    exact ⟨by decide, by decide⟩
  refine ⟨World.twoSchemas_plain, rfl, (h.2.2 hslash).1 (by decide) _ _ hfile,
    fun schema hschema => (h.2.2 hslash).2 (by decide) _ schema ?_ _ (hread schema hschema)⟩
  exact World.schemas_twoSchemas ▸ hschema

/-! ### Reports that are named like schemas -/

section
variable {settings : Settings} {files made files' : FileTree} {start : Location} {clock : Clock}
  {path output : Path} {scanned : ScanOutput}

theorem inspection_eq_ok {stem source : String}
    (hstem : schemaStem path settings.input.extension = .ok stem)
    (hread : files.read start path = .ok (bytesOf source))
    (hscan : (scanSource settings.scan settings.render clock source).result = .ok scanned) :
    inspection settings files start clock path = .ok scanned := by
  have htext : Session.asText (.ok (bytesOf source)) = .ok source := by
    simp [Session.asText, bind, Except.bind, text?_bytesOf, pure, Except.pure]
  rw [inspection, hstem]
  dsimp only
  rw [hread, htext]
  dsimp only
  rw [hscan]
  rfl

/-- A conversion all of whose parts go well. -/
theorem conversion_eq_ok (hpath : reportPath settings path = .ok output)
    (hscan : inspection settings files start clock path = .ok scanned)
    (hseen : directorySeenTo files start output = (made, .ok ()))
    (happend : made.append start output (bytesOf scanned.report.text) = .ok files') :
    conversion settings files start clock path =
      (files', .ok (convertedTo path output scanned)) := by
  simp only [conversion, hpath, hscan, reportWritten, hseen, reportAppended, happend]
  rfl

end

/-- Settings that give reports the extension of schemas. -/
def sameExtension : Settings := { output := { extension := "yaml" } }

/-- The shortest schema can be scanned at any time. -/
theorem exists_scan_keysOnly (clock : Clock) :
    ∃ scanned, (scanSource {} {} clock keysOnly).result = .ok scanned := by
  have h : (scanSource {} {} clock keysOnly).result.isOk = true := rfl
  cases hscan : (scanSource {} {} clock keysOnly).result with
  | ok scanned => exact ⟨scanned, rfl⟩
  | error e =>
    rw [hscan] at h
    cases h

/-- The report on the shortest schema is not empty. -/
theorem exists_report_keysOnly (clock : Clock)
    (h : (scanSource {} {} clock keysOnly).result.toOption.any
      (fun scanned => scanned.report.text ≠ "") = true) :
    ∃ scanned, (scanSource {} {} clock keysOnly).result = .ok scanned ∧
      bytesOf scanned.report.text ≠ [] := by
  cases hscan : (scanSource {} {} clock keysOnly).result with
  | error e =>
    rw [hscan] at h
    cases h
  | ok scanned =>
    rw [hscan] at h
    exact ⟨scanned, rfl, fun hnil =>
      by simpa using (decide_eq_true_iff.mp h) (eq_nil_of_bytesOf hnil)⟩

/-- Settings may give a report the name of its schema: the report then goes into the schema. -/
theorem convertFile_into_schema :
    (Settings.ofText ⟨[]⟩ "[output]\nextension = \"yaml\"\n").result = .ok sameExtension ∧
    World.twoSchemas.files.Plain ∧
    World.twoSchemas.files.node? World.twoSchemas.directory = some .directory ∧
    World.twoSchemas.files.read World.twoSchemas.directory (.ofText "a.yaml") =
      .ok (bytesOf keysOnly) ∧
    ((convertFile sameExtension (.ofText "a.yaml")).run World.twoSchemas).1.files.read
      World.twoSchemas.directory (.ofText "a.yaml") ≠ .ok (bytesOf keysOnly) := by
  have hread : World.twoSchemas.files.read [] (.ofText "a.yaml") = .ok (bytesOf keysOnly) := by
    decide
  refine ⟨by decide +kernel, World.twoSchemas_plain, rfl, hread, ?_⟩
  obtain ⟨scanned, hscan, hreport⟩ :=
    exists_report_keysOnly World.twoSchemas.clock (by decide +kernel)
  have hpath : reportPath sameExtension (.ofText "a.yaml") = .ok (.ofText "./a.yaml") := by
    decide
  have hstem : schemaStem (.ofText "a.yaml") "yaml" = .ok "a" := by decide
  have hseen : directorySeenTo World.twoSchemas.files [] (.ofText "./a.yaml") =
      (World.twoSchemas.files, .ok ()) := by decide
  have hdestination : World.twoSchemas.files.destination [] (.ofText "./a.yaml") =
      .ok [bytesOf "a.yaml"] := by decide
  have happend := FileTree.append_eq_map_destination World.twoSchemas.files [] (.ofText "./a.yaml")
    (bytesOf scanned.report.text)
  rw [hdestination] at happend
  obtain ⟨events, clock, hrun⟩ := run_convertFile sameExtension (.ofText "a.yaml") World.twoSchemas
  have hconversion := conversion_eq_ok hpath (inspection_eq_ok hstem hread hscan) hseen happend
  have hl : World.twoSchemas.files.locate [] .find (.ofText "a.yaml") =
      .ok (.present [bytesOf "a.yaml"]) := by decide
  have hcontent : World.twoSchemas.files.contentAt [bytesOf "a.yaml"] = bytesOf keysOnly := by
    decide
  rw [hrun, show World.twoSchemas.directory = [] from rfl, hconversion]
  show (World.twoSchemas.files.appendAt [bytesOf "a.yaml"] _).read [] _ ≠ _
  rw [FileTree.read_appendAt (FileTree.open_of_destination hdestination) hl, hcontent]
  simpa using hreport

end SchemaReport
