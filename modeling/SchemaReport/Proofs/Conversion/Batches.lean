import SchemaReport.Proofs.Conversion.Sources
import SchemaReport.Proofs.Files.Making
import SchemaReport.Proofs.Scan.Still

/-! The files while a batch is converted.

All reports of a batch go to one directory, each under a name of its own. So there is only one
directory to be seen to, and whoever does so first settles what becomes of it (`Batch.made`,
`Batch.answer`): whoever comes later finds it settled (`Batch.Sound.kind_ok`,
`Batch.Sound.makeDirectories_answer`). From then on the files are those with the directory seen to,
and at their ends the reports that have been written by now (`Batch.After`), whichever these are
and in whatever order they came. -/
namespace SchemaReport
open Text

/-- How far a conversion has come. -/
inductive Stage
  /-- It has not asked for anything that could change a file. -/
  | early
  /-- It has seen to the directory of its report. -/
  | seen
  /-- It has written its report. -/
  | written
  deriving DecidableEq, Repr

/-- Files to be converted side by side, and what seeing to the directory of their reports leads
to. -/
structure Batch where
  settings : Settings
  before : FileTree
  start : Location
  clock : Clock
  paths : List Path
  made : FileTree
  answer : Except Failure Unit

namespace Batch

/-- Where the report on a file goes, and what it says. -/
def Filed (b : Batch) (path : Path) (location : Location) (content : Bytes) : Prop :=
  ∃ output scanned, reportPath b.settings path = .ok output ∧
    inspection b.settings b.before b.start b.clock path = .ok scanned ∧ b.answer = .ok () ∧
    b.made.destination b.start output = .ok location ∧ content = bytesOf scanned.report.text

/-- A batch whose conversions cannot come in each other's way. -/
structure Sound (b : Batch) : Prop where
  rooted : b.before.Rooted
  begins : b.before.node? b.start = some .directory
  noSlash : '/' ∉ b.settings.output.extension.toList
  nonempty : b.settings.output.extension ≠ ""
  still : ∃ time, b.clock.Still time
  files : ∀ path ∈ b.paths, b.before.isFile b.start path = true
  /-- No two reports have one name. -/
  names : ∀ (i j : Nat) (path other output output' : Path),
    b.paths[i]? = some path → b.paths[j]? = some other →
    reportPath b.settings path = .ok output → reportPath b.settings other = .ok output' →
    output.fileName? = output'.fileName? → i = j
  /-- There is one directory for all reports. -/
  seen : ∀ path ∈ b.paths, ∀ output, reportPath b.settings path = .ok output →
    directorySeenTo b.before b.start output = (b.made, b.answer)
  /-- The directory can be had, or its path does not lead up. -/
  sure : ∀ path ∈ b.paths, ∀ output, reportPath b.settings path = .ok output →
    b.answer = .ok () ∨ FileTree.Step.above ∉ output.turns
  /-- No report goes to a schema. -/
  apart : ∀ path ∈ b.paths, ∀ schema ∈ b.paths, ∀ output,
    reportPath b.settings path = .ok output → ∀ location,
    b.made.locate b.start .find output = .ok (.present location) →
    b.before.locate b.start .find schema ≠ .ok (.present location)

variable {b : Batch} {stages : List Stage} {t t' : FileTree} {i : Nat}
  {path output directory : Path} {location : Location} {content : Bytes}

/-! ### The directory of the reports -/

/-- A report path ends in the name of the report. -/
theorem Sound.output_eq (hb : b.Sound) (h : reportPath b.settings path = .ok output) :
    ∃ x, Path.IsName x ∧ output = (reportDirectory b.settings.output path).join ⟨x⟩ := by
  obtain ⟨stem, hne, hname, rfl⟩ := reportPath_eq_ok h
  exact ⟨_, isName_reportName hb.noSlash hb.nonempty hne hname, rfl⟩

theorem Sound.made_rooted (hb : b.Sound) (hpath : path ∈ b.paths)
    (h : reportPath b.settings path = .ok output) : b.made.Rooted := by
  have := directorySeenTo_rooted hb.rooted hb.begins output
  rwa [hb.seen path hpath output h] at this

theorem Sound.made_fills (hb : b.Sound) (hpath : path ∈ b.paths)
    (h : reportPath b.settings path = .ok output) :
    b.before.Fills b.made b.start (pathsAbove output) := by
  have := directorySeenTo_fills b.before b.start output
  rwa [hb.seen path hpath output h] at this

/-- Without a directory to be seen to nothing is made. -/
theorem Sound.settled_of_none (hb : b.Sound) (hpath : path ∈ b.paths)
    (h : reportPath b.settings path = .ok output) (hparent : reportParent? output = none) :
    b.made = b.before ∧ b.answer = .ok () := by
  have hseen := hb.seen path hpath output h
  rw [directorySeenTo, hparent] at hseen
  exact ⟨(Prod.mk.inj hseen).1.symm, (Prod.mk.inj hseen).2.symm⟩

/-- Where the directory is there already nothing is made. -/
theorem Sound.settled_of_kind (hb : b.Sound) (hpath : path ∈ b.paths)
    (h : reportPath b.settings path = .ok output) (hparent : reportParent? output = some directory)
    (hkind : (b.before.kind b.start directory).isOk = true) :
    b.made = b.before ∧ b.answer = .ok () := by
  have hseen := hb.seen path hpath output h
  rw [directorySeenTo, hparent] at hseen
  dsimp only at hseen
  rw [if_pos hkind] at hseen
  exact ⟨(Prod.mk.inj hseen).1.symm, (Prod.mk.inj hseen).2.symm⟩

/-- Where it is not, it is made. -/
theorem Sound.settled_of_not_kind (hb : b.Sound) (hpath : path ∈ b.paths)
    (h : reportPath b.settings path = .ok output) (hparent : reportParent? output = some directory)
    (hkind : (b.before.kind b.start directory).isOk = false) :
    ∃ answer, b.before.makeDirectories b.start directory = (b.made, answer) ∧
      b.answer = answer.mapError (.fileAccess directory) := by
  have hseen := hb.seen path hpath output h
  rw [directorySeenTo, hparent] at hseen
  dsimp only at hseen
  rw [if_neg (by simp [hkind])] at hseen
  exact ⟨_, Prod.ext (Prod.mk.inj hseen).1 rfl, (Prod.mk.inj hseen).2.symm⟩

theorem bytes_ne_nil_of_reportParent? (h : reportParent? output = some directory) :
    output.parent? = some directory ∧ directory.bytes ≠ [] := by
  obtain ⟨hparent, hne⟩ := Option.filter_eq_some_iff.mp h
  exact ⟨hparent, by simpa using hne⟩

/-- Directories that were refused are refused in the same way ever after. -/
theorem Sound.refused (hb : b.Sound) (hpath : path ∈ b.paths)
    (h : reportPath b.settings path = .ok output) (hparent : reportParent? output = some directory)
    (hanswer : b.answer ≠ .ok ()) :
    (b.before.kind b.start directory).isOk = false ∧
    (b.made.kind b.start directory).isOk = false ∧ ∃ fault,
      b.made.makeDirectories b.start directory = (b.made, .error fault) ∧
      b.answer = .error (.fileAccess directory fault) := by
  have hkind : (b.before.kind b.start directory).isOk = false := by
    rw [Bool.eq_false_iff]
    exact fun hkind => hanswer (hb.settled_of_kind hpath h hparent hkind).2
  obtain ⟨answer, hmade, heq⟩ := hb.settled_of_not_kind hpath h hparent hkind
  obtain ⟨hparent', hne⟩ := bytes_ne_nil_of_reportParent? hparent
  have hup : FileTree.Step.above ∉ directory.turns := fun hmem =>
    ((hb.sure path hpath output h).resolve_left hanswer)
      ((Path.prefix_turns_parent? hparent').subset hmem)
  cases answer with
  | ok u => exact absurd heq hanswer
  | error fault =>
    obtain ⟨hagain, hsame⟩ := FileTree.makeDirectories_refused hb.rooted hb.begins
      (Path.parent?_trim hparent') hup hne hmade
    refine ⟨hkind, ?_, fault, hagain, heq⟩
    rcases hsame with hsame | hnot
    · rw [hsame]
      exact hkind
    · exact hnot

/-- Once the directory has been seen to, it can be entered, or is a file. -/
theorem Sound.entered (hb : b.Sound) (hpath : path ∈ b.paths)
    (h : reportPath b.settings path = .ok output) (hanswer : b.answer = .ok ()) : ∃ front x,
    Path.IsName x ∧ output.fileName? = some x ∧
    FileTree.stepsOf output = front ++ [.name x] ∧
    b.made.enter (FileTree.origin b.start output) front ≠ .error .notFound := by
  obtain ⟨x, hx, heq⟩ := hb.output_eq h
  obtain ⟨front, hsteps, hfront⟩ :=
    FileTree.stepsOf_join (reportDirectory b.settings.output path) hx
  obtain ⟨q, hq⟩ := (reportDirectory b.settings.output path).parent?_join
  obtain ⟨hparent, hturns⟩ := hq x hx
  have hroot := hb.made_rooted hpath h
  have hbegins := (hb.made_fills hpath h).grows.directory hb.begins
  rw [← heq] at hsteps hparent hturns
  have hqturns : front.filter FileTree.Step.isTurn = q.turns := by
    rw [← FileTree.filter_stepsOf, hsteps, List.filter_append] at hturns
    exact (List.append_inj' hturns rfl).1
  refine ⟨front, x, hx, by rw [heq, Path.fileName?_join _ hx], hsteps, ?_⟩
  rw [← FileTree.enter_filter, hqturns]
  by_cases hne : q.bytes = []
  · rw [show q = ⟨[]⟩ from congrArg Path.mk hne]
    simp [Path.turns, Path.turnsOf, Path.split, parts, Path.turn?, Path.isIdle, FileTree.enter]
  · have hreport : reportParent? output = some q := by
      rw [reportParent?, hparent]
      exact Option.filter_eq_some_iff.mpr ⟨rfl, by simpa using hne⟩
    have hkind : (b.made.kind b.start q).isOk = true := by
      cases hkind : (b.before.kind b.start q).isOk with
      | true => rw [(hb.settled_of_kind hpath h hreport hkind).1, hkind]
      | false =>
        obtain ⟨answer, hmade, hanswer'⟩ := hb.settled_of_not_kind hpath h hreport hkind
        rw [hanswer] at hanswer'
        cases answer with
        | error fault => cases hanswer'
        | ok u =>
          have hdir := FileTree.isDirectory_of_makeDirectories hne hmade
          exact FileTree.kind_isOk_of_isDirectory hdir
    have horigin : FileTree.origin b.start q = FileTree.origin b.start output := by
      rw [FileTree.origin, FileTree.origin, Path.isAbsolute_parent? hparent hne]
    rw [← horigin]
    exact FileTree.enter_of_kind hroot hbegins hkind

/-! ### The files while reports are written -/

/-- The reports that have been written stand at the ends of their files; everything else is as it
was when the directory had been seen to. -/
structure After (b : Batch) (stages : List Stage) (t : FileTree) : Prop where
  grows : b.made.Grows t
  refused : b.answer ≠ .ok () → t = b.made
  written : ∀ (i : Nat) (path : Path) location content, b.paths[i]? = some path →
    stages[i]? = some .written → b.Filed path location content →
    t.node? location = some (.file (b.made.contentAt location ++ content))
  others : ∀ location, (∀ (i : Nat) (path : Path) content, b.paths[i]? = some path →
    stages[i]? = some .written → ¬ b.Filed path location content) →
    t.node? location = b.made.node? location

/-- No conversion has written its report yet. -/
theorem after_made (h : Stage.written ∉ stages) : b.After stages b.made where
  grows := .refl b.made
  refused := fun _ => rfl
  written := fun _ _ _ _ _ hstage => absurd (List.mem_of_getElem? hstage) h
  others := fun _ _ => rfl

/-- Another conversion has seen to the directory. -/
theorem After.set_seen (h : b.After stages t) (hi : stages[i]? ≠ some .written) :
    b.After (stages.set i .seen) t := by
  have hsame : ∀ {j : Nat}, (stages.set i .seen)[j]? = some Stage.written ↔
      stages[j]? = some .written := by
    intro j
    by_cases hj : i = j
    · subst hj
      rw [List.getElem?_set_self']
      constructor
      · intro hset
        cases hstage : stages[i]? <;> simp [hstage] at hset
      · exact fun hstage => absurd hstage hi
    · rw [List.getElem?_set_ne hj]
  exact ⟨h.grows, h.refused,
    fun j path location content hpath hstage => h.written j path location content hpath
      (hsame.mp hstage),
    fun location hfree => h.others location fun j path content hpath hstage =>
      hfree j path content hpath (hsame.mpr hstage)⟩

theorem After.unlinked (hroot : b.made.Rooted) (h : b.After stages t) : t.Unlinked := by
  intro location target hlink
  by_cases hfree : ∀ (i : Nat) (path : Path) content, b.paths[i]? = some path →
      stages[i]? = some .written → ¬ b.Filed path location content
  · exact hroot.unlinked location target (h.others location hfree ▸ hlink)
  · push Not at hfree
    obtain ⟨i, path, content, hpath, hstage, hfiled⟩ := hfree
    rw [h.written i path location content hpath hstage hfiled] at hlink
    cases hlink

/-- A report lies under its own name. -/
theorem Sound.name_of_filed (hb : b.Sound) (hpath : path ∈ b.paths)
    (h : b.Filed path location content) : ∃ output, reportPath b.settings path = .ok output ∧
      output.fileName? = location.getLast? := by
  obtain ⟨output, scanned, hreport, -, hanswer, hdestination, -⟩ := h
  obtain ⟨front, x, -, hname, hsteps, -⟩ := hb.entered hpath hreport hanswer
  obtain ⟨there, -, rfl⟩ := FileTree.destination_name (hb.made_rooted hpath hreport).unlinked hsteps
    hdestination
  exact ⟨output, hreport, by rw [hname, List.getLast?_concat]⟩

/-- The report on a file is one text in one place. -/
theorem Filed.unique {location' : Location} {content' : Bytes} (h : b.Filed path location content)
    (h' : b.Filed path location' content') : location' = location ∧ content' = content := by
  obtain ⟨output, scanned, hreport, hscan, -, hdestination, rfl⟩ := h
  obtain ⟨output', scanned', hreport', hscan', -, hdestination', rfl⟩ := h'
  cases hreport.symm.trans hreport'
  cases hscan.symm.trans hscan'
  cases hdestination.symm.trans hdestination'
  exact ⟨rfl, rfl⟩

/-- No two reports go to one file. -/
theorem Sound.filed_injective (hb : b.Sound) {j : Nat} {other : Path} {content' : Bytes}
    (hi : b.paths[i]? = some path) (hj : b.paths[j]? = some other)
    (h : b.Filed path location content) (h' : b.Filed other location content') : i = j := by
  obtain ⟨output, hreport, hname⟩ := hb.name_of_filed (List.mem_of_getElem? hi) h
  obtain ⟨output', hreport', hname'⟩ := hb.name_of_filed (List.mem_of_getElem? hj) h'
  exact hb.names i j path other output output' hi hj hreport hreport' (hname.trans hname'.symm)

/-- A report that has not been written is opened where it would be opened at first. -/
theorem Sound.destination_after (hb : b.Sound) (h : b.After stages t) (hi : b.paths[i]? = some path)
    (hstage : stages[i]? ≠ some .written) (hreport : reportPath b.settings path = .ok output)
    (hanswer : b.answer = .ok ()) :
    t.destination b.start output = b.made.destination b.start output := by
  have hpath := List.mem_of_getElem? hi
  have hroot := hb.made_rooted hpath hreport
  obtain ⟨front, x, -, hname, hsteps, hentered⟩ := hb.entered hpath hreport hanswer
  refine FileTree.destination_grows hroot.unlinked (h.unlinked hroot) h.grows hsteps hentered
    fun there _ => h.others _ fun j other content hj hwritten hfiled => ?_
  obtain ⟨output', hreport', hname'⟩ := hb.name_of_filed (List.mem_of_getElem? hj) hfiled
  rw [List.getLast?_concat] at hname'
  have hsame := hb.names i j path other output output' hi hj hreport hreport'
    (hname.trans hname'.symm)
  exact hstage (hsame ▸ hwritten)

/-- One more report has been written. -/
theorem Sound.after_append (hb : b.Sound) (h : b.After stages t) (hi : b.paths[i]? = some path)
    (hlength : i < stages.length) (hstage : stages[i]? ≠ some .written)
    (hfiled : b.Filed path location content) :
    b.After (stages.set i .written) (t.appendAt location content) := by
  obtain ⟨output, scanned, hreport, -, hanswer, hdestination, -⟩ := id hfiled
  have hopen : t.Open location := by
    have := hb.destination_after h hi hstage hreport hanswer
    exact FileTree.open_of_destination (this.trans hdestination)
  -- Nobody else writes there, so the file is as it was at first.
  have hsame : t.node? location = b.made.node? location :=
    h.others location fun j other content' hj hwritten hfiled' => by
      have := hb.filed_injective hi hj hfiled hfiled'
      exact hstage (this ▸ hwritten)
  refine ⟨h.grows.trans (hopen.grows content), fun hrefused => absurd hanswer hrefused, ?_, ?_⟩
  · intro j other location' content' hj hwritten hfiled'
    by_cases hj' : i = j
    · subst hj'
      rw [hi] at hj
      cases hj
      obtain ⟨rfl, rfl⟩ := hfiled.unique hfiled'
      rw [FileTree.node?_appendAt_self hopen.1, FileTree.contentAt, hsame, FileTree.contentAt]
    · rw [List.getElem?_set_ne hj'] at hwritten
      have hne : location' ≠ location := by
        rintro rfl
        exact hj' (hb.filed_injective hi hj hfiled hfiled')
      rw [FileTree.node?_appendAt_of_ne hne]
      exact h.written j other location' content' hj hwritten hfiled'
  · intro location' hfree
    have hne : location' ≠ location := by
      rintro rfl
      exact hfree i path content hi (List.getElem?_set_self hlength) hfiled
    rw [FileTree.node?_appendAt_of_ne hne]
    refine h.others location' fun j other content' hj hwritten => hfree j other content' hj ?_
    by_cases hj' : i = j
    · subst hj'
      exact absurd hwritten hstage
    · rwa [List.getElem?_set_ne hj']

/-- All schemas are as they were. -/
theorem Sound.read_after (hb : b.Sound) (hpath : path ∈ b.paths)
    (hreport : reportPath b.settings path = .ok output) (h : b.After stages t) {schema : Path}
    (hschema : schema ∈ b.paths) : t.read b.start schema = b.before.read b.start schema := by
  obtain ⟨location, content, hl, hfile⟩ : ∃ location content,
      b.before.locate b.start .find schema = .ok (.present location) ∧
        b.before.node? location = some (.file content) := by
    have hisFile := hb.files schema hschema
    unfold FileTree.isFile FileTree.kind at hisFile
    cases hnode : b.before.nodeAt b.start schema with
    | error e => simp [hnode, bind, Except.bind] at hisFile
    | ok node =>
      obtain ⟨location, hl, hn⟩ := FileTree.nodeAt_eq_ok_iff.mp hnode
      cases node with
      | file content => exact ⟨location, content, hl, hn⟩
      | directory => simp [hnode, bind, Except.bind, pure, Except.pure] at hisFile
      | link target => exact absurd hn (hb.rooted.unlinked _ _)
  have hfills := hb.made_fills hpath hreport
  have hmade : b.made.node? location = some (.file content) := by
    rcases hfills.filled location with hsame | ⟨hnone, -⟩
    · exact hsame.trans hfile
    · rw [hfile] at hnone
      cases hnone
  have hafter : t.node? location = some (.file content) := by
    refine (h.others location fun j other content' hj _ hfiled => ?_).trans hmade
    obtain ⟨output', scanned, hreport', -, -, hdestination, -⟩ := hfiled
    have hother := List.mem_of_getElem? hj
    exact hb.apart other hother schema hschema output' hreport' location
      (FileTree.locate_of_destination hdestination (by simp [hmade])) hl
  have hread := FileTree.read_eq_ok_iff.mpr ⟨location, hl, hfile⟩
  rw [hread]
  exact FileTree.read_eq_ok_iff.mpr
    ⟨location, FileTree.locate_grows hl (hfills.grows.trans h.grows), hafter⟩

/-! ### What conversions side by side keep -/

/-- What holds of the world at any time: the files are as they were, or the directory has been
seen to and some reports have been written. -/
structure Holds (b : Batch) (stages : List Stage) (w : World) : Prop where
  directory : w.directory = b.start
  clock : ∃ time, b.clock.Still time ∧ w.clock.Still time
  files : (w.files = b.before ∧ ∀ stage ∈ stages, stage = .early) ∨
    ((∃ stage ∈ stages, stage ≠ .early) ∧ b.After stages w.files)

variable {w : World} {stage : Stage}

/-- Before the first conversion has begun. -/
theorem Sound.holds_begin (hb : b.Sound) (hdirectory : w.directory = b.start)
    (hfiles : w.files = b.before) (hclock : w.clock.readings = b.clock.readings) (count : Nat) :
    b.Holds (List.replicate count .early) w := by
  obtain ⟨time, htime⟩ := hb.still
  exact ⟨hdirectory, ⟨time, htime, fun n => (congrFun hclock n).trans (htime n)⟩,
    .inl ⟨hfiles, fun stage hstage => List.eq_of_mem_replicate hstage⟩⟩

theorem set_getElem? (h : stages[i]? = some stage) : stages.set i stage = stages := by
  obtain ⟨hi, rfl⟩ := List.getElem?_eq_some_iff.mp h
  exact List.set_getElem_self hi

/-- A request that changes no file leaves holding what holds, at the same stage. -/
theorem Holds.unchanged (h : b.Holds stages w) (hi : stages[i]? = some stage) {w' : World}
    (hfiles : w'.files = w.files) (hdirectory : w'.directory = w.directory)
    (hclock : ∃ time, b.clock.Still time ∧ w'.clock.Still time) :
    b.Holds (stages.set i stage) w' := by
  rw [set_getElem? hi]
  exact ⟨hdirectory.trans h.directory, hclock, hfiles ▸ h.files⟩

/-- From the time the directory has been seen to. -/
theorem Holds.of_after (h : b.Holds stages w) (hi : i < stages.length) (hstage : stage ≠ .early)
    {w' : World} (hafter : b.After (stages.set i stage) w'.files)
    (hdirectory : w'.directory = w.directory) (hclock : w'.clock = w.clock) :
    b.Holds (stages.set i stage) w' := by
  refine ⟨hdirectory.trans h.directory, hclock ▸ h.clock, .inr ⟨⟨stage, ?_, hstage⟩, hafter⟩⟩
  exact List.mem_of_getElem? (List.getElem?_set_self hi)

/-- While all are at an early stage, no report has been written. -/
theorem after_of_early (hsettled : b.made = b.before) (hearly : ∀ stage ∈ stages, stage = .early)
    (hfiles : w.files = b.before) : b.After stages w.files := by
  rw [hfiles, ← hsettled]
  exact after_made fun hmem => absurd (hearly _ hmem) (by simp)

theorem Holds.after (h : b.Holds stages w) (hi : stages[i]? = some stage)
    (hready : stage = .early → b.made = b.before) : b.After stages w.files := by
  rcases h.files with ⟨hfiles, hearly⟩ | ⟨-, hafter⟩
  · exact after_of_early (hready (hearly _ (List.mem_of_getElem? hi))) hearly hfiles
  · exact hafter

section
variable (hb : b.Sound) (hpath : path ∈ b.paths) (hreport : reportPath b.settings path = .ok output)
  (hparent : reportParent? output = some directory) (h : b.Holds stages w)
  (hi : stages[i]? = some .early)
include hb hpath hreport hparent h hi

/-- Who finds the directory there has seen to it: nothing has to be made. -/
theorem Sound.kind_ok (hkind : (w.files.kind w.directory directory).isOk = true) :
    b.answer = .ok () ∧ b.Holds (stages.set i .seen) w := by
  rw [h.directory] at hkind
  have hlength := (List.getElem?_eq_some_iff.mp hi).1
  have hnot : stages[i]? ≠ some .written := by simp [hi]
  rcases h.files with ⟨hfiles, hearly⟩ | ⟨-, hafter⟩
  · rw [hfiles] at hkind
    obtain ⟨hmade, hanswer⟩ := hb.settled_of_kind hpath hreport hparent hkind
    exact ⟨hanswer, h.of_after hlength (by simp)
      ((after_of_early hmade hearly hfiles).set_seen hnot) rfl rfl⟩
  · refine ⟨?_, h.of_after hlength (by simp) (hafter.set_seen hnot) rfl rfl⟩
    by_contra hanswer
    rw [hafter.refused hanswer, (hb.refused hpath hreport hparent hanswer).2.1] at hkind
    cases hkind

omit hi in
/-- Who finds it missing would have found it missing from the beginning. -/
theorem Sound.kind_not_ok (hkind : (w.files.kind w.directory directory).isOk = false) :
    (b.before.kind b.start directory).isOk = false := by
  rw [h.directory] at hkind
  rcases h.files with ⟨hfiles, -⟩ | ⟨-, hafter⟩
  · rwa [hfiles] at hkind
  · rw [Bool.eq_false_iff]
    intro hok
    have hmade := (hb.settled_of_kind hpath hreport hparent hok).1
    rw [FileTree.kind_isOk_grows (hmade ▸ hok) hafter.grows] at hkind
    cases hkind

/-- Who makes it is answered as the first to make it is. -/
theorem Sound.makeDirectories_answer (hkind : (b.before.kind b.start directory).isOk = false) :
    (w.files.makeDirectories w.directory directory).2.mapError (.fileAccess directory) = b.answer ∧
    b.Holds (stages.set i .seen)
      { w with files := (w.files.makeDirectories w.directory directory).1 } := by
  have hlength := (List.getElem?_eq_some_iff.mp hi).1
  have hnot : stages[i]? ≠ some .written := by simp [hi]
  obtain ⟨answer, hmade, hanswer⟩ := hb.settled_of_not_kind hpath hreport hparent hkind
  rcases h.files with ⟨hfiles, hearly⟩ | ⟨-, hafter⟩
  · have heq : w.files.makeDirectories w.directory directory = (b.made, answer) := by
      rw [hfiles, h.directory, hmade]
    have hafter : b.After stages b.made :=
      after_made fun hmem => absurd (hearly _ hmem) (by simp)
    rw [heq]
    exact ⟨hanswer.symm, h.of_after hlength (by simp) (hafter.set_seen hnot) rfl rfl⟩
  · have heq : w.files.makeDirectories w.directory directory = (w.files, answer) := by
      rw [h.directory]
      cases answer with
      | ok u =>
        have hne := (bytes_ne_nil_of_reportParent? hparent).2
        have hdir := FileTree.isDirectory_of_makeDirectories hne hmade
        exact FileTree.makeDirectories_of_isDirectory
          (hafter.unlinked (hb.made_rooted hpath hreport))
          (FileTree.isDirectory_grows hdir hafter.grows)
      | error fault =>
        have hne : b.answer ≠ .ok () := by
          rw [hanswer]
          exact fun hok => by cases hok
        obtain ⟨-, -, fault', hagain, hanswer'⟩ := hb.refused hpath hreport hparent hne
        rw [hafter.refused hne, hagain]
        rw [hanswer] at hanswer'
        cases hanswer'
        rfl
    rw [heq]
    exact ⟨hanswer.symm, h.of_after hlength (by simp) (hafter.set_seen hnot) rfl rfl⟩

end

/-- Whoever appends its report is answered as if it were alone. -/
theorem Sound.append_answer (hb : b.Sound) (hi : b.paths[i]? = some path)
    (hreport : reportPath b.settings path = .ok output) {scanned : ScanOutput}
    (hscan : inspection b.settings b.before b.start b.clock path = .ok scanned)
    (hanswer : b.answer = .ok ()) (h : b.Holds stages w) (hstage : stages[i]? = some stage)
    (hnot : stage ≠ .written) (hready : stage = .early → b.made = b.before) :
    (w.changed (w.files.append w.directory output (bytesOf scanned.report.text))).2 =
      (b.made.append b.start output (bytesOf scanned.report.text)).map (fun _ => ()) ∧
    b.Holds
      (stages.set i (if (b.made.destination b.start output).isOk then .written else .seen))
      (w.changed (w.files.append w.directory output (bytesOf scanned.report.text))).1 := by
  have hlength := (List.getElem?_eq_some_iff.mp hstage).1
  have hafter := h.after hstage hready
  have hnot' : stages[i]? ≠ some .written := by simp [hstage, hnot]
  have hdestination := hb.destination_after hafter hi hnot' hreport hanswer
  rw [h.directory, FileTree.append_eq_map_destination, FileTree.append_eq_map_destination,
    hdestination]
  cases hplace : b.made.destination b.start output with
  | error e =>
    exact ⟨rfl, h.of_after hlength (by simp [Except.isOk, Except.toBool])
      (hafter.set_seen hnot') rfl rfl⟩
  | ok location =>
    have hfiled : b.Filed path location (bytesOf scanned.report.text) :=
      ⟨output, scanned, hreport, hscan, hanswer, hplace, rfl⟩
    exact ⟨rfl, h.of_after hlength (by simp [Except.isOk, Except.toBool])
      (hb.after_append hafter hi hlength hnot' hfiled) rfl rfl⟩

end Batch
end SchemaReport
