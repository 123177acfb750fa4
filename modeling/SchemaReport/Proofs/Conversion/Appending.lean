import SchemaReport.Proofs.Conversion.Running

/-! Conversions only append, and a conversion that fails writes nothing.

What a conversion does to the files is told by where it ends (`conversion_cases`): a fault of the
path or the schema leaves them as they are, a fault of the directory or the report file leaves
directories at most, and a success is one append to the file the report path leads to
(`Records`). So files only grow in a conversion, and by induction in any number of them. -/
namespace SchemaReport
open Text

/-- The paths above a report. -/
def pathsAbove (output : Path) : List Path :=
  match output.parent? with
  | none => []
  | some directory => directory.ancestors

/-- What writing a report does to the files. At the place the report path leads to there was a
file or nothing; the report now stands at its end. Beside it only directories are new, each of
them where a path above the report leads to. -/
structure Records (t t' : FileTree) (start : Location) (output : Path) (location : Location)
    (report : Bytes) : Prop where
  leads : t'.locate start .find output = .ok (.present location)
  free : t.Open location
  content : t'.node? location = some (.file (t.contentAt location ++ report))
  others : ∀ other ≠ location, t'.node? other = t.node? other ∨
    (t.node? other = none ∧ t'.node? other = some .directory ∧
      ∃ above ∈ pathsAbove output, t'.locate start .find above = .ok (.present other))

section
variable {settings : Settings} {files files' made : FileTree} {start location : Location}
  {clock : Clock} {path output : Path}

/-! ### Steps -/

theorem pathsAbove_of_reportParent? {directory : Path} (h : reportParent? output = some directory) :
    pathsAbove output = directory.ancestors := by
  rw [pathsAbove, (Option.filter_eq_some_iff.mp h).1]

theorem directorySeenTo_fills (files : FileTree) (start : Location) (output : Path) :
    files.Fills (directorySeenTo files start output).1 start (pathsAbove output) := by
  unfold directorySeenTo
  split
  · exact .refl files start _
  · next directory hparent =>
    split
    · exact .refl files start _
    · rw [pathsAbove_of_reportParent? hparent]
      exact FileTree.makeDirectories_fills files start directory

/-- An append to what the directories have been made for. -/
theorem records_appendAt {report : Bytes} (hfills : files.Fills made start (pathsAbove output))
    (hopen : made.Open location)
    (hl : (made.appendAt location report).locate start .find output = .ok (.present location)) :
    Records files (made.appendAt location report) start output location report := by
  have hnode : made.node? location = files.node? location := by
    rcases hfills.filled location with hsame | ⟨-, hdir, -⟩
    · exact hsame
    · rcases hopen.2 with hnone | ⟨content, hfile⟩
      · rw [hdir] at hnone
        cases hnone
      · rw [hdir] at hfile
        cases hfile
  have hcontent : made.contentAt location = files.contentAt location := by
    unfold FileTree.contentAt
    rw [hnode]
  refine ⟨hl, ⟨hopen.1, hnode ▸ hopen.2⟩, ?_, fun other hne => ?_⟩
  · rw [FileTree.node?_appendAt_self hopen.1, hcontent]
  · rw [FileTree.node?_appendAt_of_ne hne]
    refine (hfills.filled other).imp id ?_
    rintro ⟨hnone, hdir, above, habove, hl'⟩
    exact ⟨hnone, hdir, above, habove, FileTree.locate_grows hl' (hopen.grows report)⟩

/-- A report is either written, or some of the directories above it are all that is new. -/
theorem reportWritten_cases (files : FileTree) (start : Location) (output : Path)
    (report : Report) :
    (∃ e, (reportWritten files start output report).2 = .error e ∧
      files.Fills (reportWritten files start output report).1 start (pathsAbove output)) ∨
    ((reportWritten files start output report).2 = .ok () ∧ ∃ location,
      Records files (reportWritten files start output report).1 start output location
        (bytesOf report.text)) := by
  have hfills := directorySeenTo_fills files start output
  unfold reportWritten
  generalize directorySeenTo files start output = seen at hfills ⊢
  rcases seen with ⟨made, e | _⟩
  · exact .inl ⟨e, rfl, hfills⟩
  · dsimp only at hfills ⊢
    unfold reportAppended
    cases happend : made.append start output (bytesOf report.text) with
    | error fault => exact .inl ⟨_, rfl, hfills⟩
    | ok files' =>
      obtain ⟨location, hopen, rfl, hl⟩ := FileTree.append_eq_ok happend
      exact .inr ⟨rfl, location, records_appendAt hfills hopen hl⟩

/-- The ways a conversion ends. -/
theorem conversion_cases (settings : Settings) (files : FileTree) (start : Location)
    (clock : Clock) (path : Path) :
    (∃ e, (reportPath settings path = .error e ∨
        inspection settings files start clock path = .error e) ∧
      conversion settings files start clock path = (files, .error e)) ∨
    ∃ output scanned, reportPath settings path = .ok output ∧
      inspection settings files start clock path = .ok scanned ∧
      ((∃ e files', conversion settings files start clock path = (files', .error e) ∧
        files.Fills files' start (pathsAbove output)) ∨
      ∃ files' location,
        conversion settings files start clock path =
          (files', .ok (convertedTo path output scanned)) ∧
        Records files files' start output location (bytesOf scanned.report.text)) := by
  unfold conversion
  cases hpath : reportPath settings path with
  | error e => exact .inl ⟨e, .inl rfl, rfl⟩
  | ok output =>
    cases hscan : inspection settings files start clock path with
    | error e => exact .inl ⟨e, .inr rfl, rfl⟩
    | ok scanned =>
      refine .inr ⟨output, scanned, rfl, rfl, ?_⟩
      dsimp only
      rcases reportWritten_cases files start output scanned.report with
        ⟨e, he, hfills⟩ | ⟨hok, location, hrecords⟩
      · exact .inl ⟨e, _, by rw [he]; rfl, hfills⟩
      · exact .inr ⟨_, location, by rw [hok]; rfl, hrecords⟩

/-- A path that no report can be named after belongs to no schema that can be read. -/
theorem inspection_of_reportPath {e : Failure} (h : reportPath settings path = .error e) :
    inspection settings files start clock path = .error e := by
  unfold reportPath at h
  unfold inspection
  cases hstem : schemaStem path settings.input.extension with
  | error e' =>
    rw [hstem] at h
    exact congrArg _ (Except.error.inj h)
  | ok stem =>
    rw [hstem] at h
    cases h

theorem conversion_of_reportPath {e : Failure} (h : reportPath settings path = .error e) :
    conversion settings files start clock path = (files, .error e) := by
  rw [conversion, h]

theorem conversion_of_inspection {e : Failure}
    (h : inspection settings files start clock path = .error e) :
    conversion settings files start clock path = (files, .error e) := by
  cases hpath : reportPath settings path with
  | error e' =>
    rw [inspection_of_reportPath hpath] at h
    cases h
    exact conversion_of_reportPath hpath
  | ok output => rw [conversion, hpath, h]

theorem Records.grows {t t' : FileTree} {report : Bytes}
    (h : Records t t' start output location report) : t.Grows t' := by
  intro other node hnode
  by_cases heq : other = location
  · subst heq
    refine ⟨_, h.content, ?_⟩
    rcases h.free.2 with hnone | ⟨content, hfile⟩
    · rw [hnone] at hnode
      cases hnode
    · rw [hfile] at hnode
      cases hnode
      rw [FileTree.contentAt, hfile]
      exact .file content report
  · rcases h.others other heq with hsame | ⟨hnone, -⟩
    · exact ⟨node, hsame.trans hnode, .refl node⟩
    · rw [hnone] at hnode
      cases hnode

/-- Nothing is lost in a conversion. -/
theorem conversion_grows (settings : Settings) (files : FileTree) (start : Location)
    (clock : Clock) (path : Path) :
    files.Grows (conversion settings files start clock path).1 := by
  rcases conversion_cases settings files start clock path with
    ⟨e, -, h⟩ | ⟨output, scanned, -, -, ⟨e, files', h, hfills⟩ | ⟨files', location, h, hrecords⟩⟩
  · rw [h]
    exact .refl files
  · rw [h]
    exact hfills.grows
  · rw [h]
    exact hrecords.grows

end

/-! ### Runs -/

/-- A conversion that is asked for: with which settings, of what, and by which clock. -/
structure Order where
  settings : Settings
  path : Path
  clock : Clock

namespace World

/-- The world after a conversion, whatever the conversion answered. -/
def fulfilled (w : World) (order : Order) : World :=
  ((convertFile order.settings order.path).run { w with clock := order.clock }).1

/-- The world after conversions, one after the other. -/
def fulfilledAll (w : World) : List Order → World
  | [] => w
  | order :: others => (w.fulfilled order).fulfilledAll others

theorem files_fulfilled (w : World) (order : Order) : (w.fulfilled order).files =
    (conversion order.settings w.files w.directory order.clock order.path).1 := by
  obtain ⟨events, clock, h⟩ :=
    run_convertFile order.settings order.path { w with clock := order.clock }
  rw [fulfilled, h]

/-- Nothing is lost in any number of conversions. -/
theorem fulfilledAll_grows (w : World) (orders : List Order) :
    w.files.Grows (w.fulfilledAll orders).files := by
  induction orders generalizing w with
  | nil => exact .refl w.files
  | cons order others ih =>
    have hfirst := conversion_grows order.settings w.files w.directory order.clock order.path
    rw [← files_fulfilled] at hfirst
    exact hfirst.trans (ih _)

end World

theorem length_bytesOf (text : String) : (bytesOf text).length = text.utf8ByteSize := by
  rw [bytesOf, Array.length_toList]
  rfl

/-- **A conversion appends its report or leaves no trace of one.** If the path or the schema is
at fault, the answer is that fault and the files are as before. If the conversion fails later,
no file has changed, and all that can be new is directories. If it succeeds, the
report is the one an inspection would have given, and it stands at the end of the file its path
leads to; nothing else is new but directories above it; the answer tells how many bytes it has,
and the table. So what a file holds stays at its beginning through any number of conversions,
of whatever schemas, with whatever settings and clocks. -/
theorem convertFile_append_only (settings : Settings) (path : Path) (w : World) :
    (∀ e, reportPath settings path = .error e →
      ((convertFile settings path).run w).2 = .error e ∧
      ((convertFile settings path).run w).1.files = w.files) ∧
    (∀ e, ((inspectFile settings path).run w).2 = .error e →
      ((convertFile settings path).run w).2 = .error e ∧
      ((convertFile settings path).run w).1.files = w.files) ∧
    (∀ e, ((convertFile settings path).run w).2 = .error e → ∀ location,
      ((convertFile settings path).run w).1.files.node? location = w.files.node? location ∨
      (w.files.node? location = none ∧
        ((convertFile settings path).run w).1.files.node? location = some .directory)) ∧
    (∀ converted, ((convertFile settings path).run w).2 = .ok converted →
      ∃ scanned output location, ((inspectFile settings path).run w).2 = .ok scanned ∧
        reportPath settings path = .ok output ∧
        converted = ⟨path, output, (bytesOf scanned.report.text).length, scanned.table⟩ ∧
        Records w.files ((convertFile settings path).run w).1.files w.directory output location
          (bytesOf scanned.report.text)) ∧
    ∀ (orders : List Order) (file : Path) (content : Bytes),
      w.files.read w.directory file = .ok content →
      ∃ more, (w.fulfilledAll orders).files.read w.directory file = .ok (content ++ more) := by
  obtain ⟨events, clock, hrun⟩ := run_convertFile settings path w
  obtain ⟨events', clock', hinspect⟩ := run_inspectFile settings path w
  rw [hrun, hinspect]
  refine ⟨fun e h => ?_, fun e h => ?_, fun e h location => ?_, fun converted h => ?_,
    fun orders file content h => ?_⟩
  · rw [conversion_of_reportPath h]
    exact ⟨rfl, rfl⟩
  · rw [conversion_of_inspection h]
    exact ⟨rfl, rfl⟩
  · rcases conversion_cases settings w.files w.directory w.clock path with
      ⟨e', -, hc⟩ | ⟨output, scanned, -, -, ⟨e', files', hc, hfills⟩ | ⟨files', location', hc, -⟩⟩
    · rw [hc]
      exact .inl rfl
    · rw [hc]
      exact (hfills.filled location).imp id fun ⟨hnone, hdir, _⟩ => ⟨hnone, hdir⟩
    · rw [hc] at h
      cases h
  · rcases conversion_cases settings w.files w.directory w.clock path with
      ⟨e', -, hc⟩ | ⟨output, scanned, hpath, hscan, ⟨e', files', hc, -⟩ |
        ⟨files', location, hc, hrecords⟩⟩
    · rw [hc] at h
      cases h
    · rw [hc] at h
      cases h
    · rw [hc] at h ⊢
      cases h
      refine ⟨scanned, output, location, hscan, hpath, ?_, hrecords⟩
      rw [convertedTo, length_bytesOf]
  · exact FileTree.read_grows h (w.fulfilledAll_grows orders)

end SchemaReport
