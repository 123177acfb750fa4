import SchemaReport.Proofs.Conversion.Batches
import SchemaReport.Proofs.Script.SideBySide

/-! Conversions in any order.

The conversions of a directory run side by side, each making its next request whenever it likes.
Request by request each of them keeps what holds of the files (`Batch.keeps_convertOne`), and is
answered as if it were alone. So every file has the outcome it would have had by itself
(`Batch.Sound.ends`), and what the files are in the end is settled by how far the conversions have
come (`Batch.Holds.node?_eq`). Only where the directory of the reports cannot be had and its path
leads up does it show who came first (`refusals_depend_on_order`). -/
namespace SchemaReport
open Text

namespace Batch
variable {b : Batch} {i : Nat} {path output : Path} {stage : Stage}

/-- A conversion as script, following what holds. -/
abbrev Keeps {α : Type} (b : Batch) (i : Nat) (Post : Stage → Except Failure α → Prop)
    (s : Session α) (stage : Stage) : Prop :=
  Session.Follows b.Holds i Post s stage

/-- A conversion is ready to write: the directory has been seen to, or there is none to be. -/
def Ready (b : Batch) (stage : Stage) : Prop :=
  stage ≠ .written ∧ (stage = .early → b.made = b.before ∧ b.answer = .ok ())

theorem ready_seen : b.Ready .seen := ⟨by simp, fun h => by cases h⟩

/-- A conversion that is ready and was refused its directory has asked for it. -/
theorem Ready.eq_seen (h : b.Ready stage) (hanswer : b.answer ≠ .ok ()) : stage = .seen := by
  cases stage with
  | early => exact absurd (h.2 rfl).2 hanswer
  | seen => rfl
  | written => exact absurd rfl h.1

/-- A request that changes neither files nor clock. -/
theorem keeps_request {r : Request} {Post : Stage → Except Failure r.Answer → Prop}
    (hsame : ∀ w : World, (w.answer r).1.files = w.files ∧
      (w.answer r).1.directory = w.directory ∧ (w.answer r).1.clock = w.clock)
    (hpost : ∀ stages w, stages[i]? = some stage → b.Holds stages w →
      Post stage (.ok (w.answer r).2)) :
    b.Keeps i Post (Session.request r) stage :=
  Session.follows_request fun stages w hi h => by
    obtain ⟨hfiles, hdirectory, hclock⟩ := hsame w
    exact ⟨stage, h.unchanged hi hfiles hdirectory (hclock ▸ h.clock), hpost stages w hi h⟩

theorem keeps_log (events : List Event) :
    b.Keeps i (fun stage' result => stage' = stage ∧ result = .ok ()) (Session.log events) stage :=
  keeps_request (fun _ => ⟨rfl, rfl, rfl⟩) fun _ _ _ _ => ⟨rfl, rfl⟩

/-- What is said on the way makes no difference. -/
theorem keeps_log_bind {α : Type} {Post : Stage → Except Failure α → Prop} (events : List Event)
    {k : Unit → Session α} (h : b.Keeps i Post (k ()) stage) :
    b.Keeps i Post (Session.log events >>= k) stage :=
  (keeps_log events).bind (fun _ _ hmid => by obtain ⟨rfl, -⟩ := hmid; exact h)
    fun _ _ hmid => by cases hmid.2

theorem keeps_say_bind {α : Type} {Post : Stage → Except Failure α → Prop} (event : Event)
    {k : Unit → Session α} (h : b.Keeps i Post (k ()) stage) :
    b.Keeps i Post (Session.say event >>= k) stage :=
  keeps_log_bind [event] h

/-- A result that is known goes on at the same stage. -/
theorem keeps_ofExcept_bind {α β : Type} {Post : Stage → Except Failure β → Prop}
    (result : Except Failure α) {k : α → Session β}
    (hok : ∀ value, result = .ok value → b.Keeps i Post (k value) stage)
    (herror : ∀ e, result = .error e → Post stage (.error e)) :
    b.Keeps i Post (Session.ofExcept result >>= k) stage :=
  Session.Follows.bind (M := fun stage' given => stage' = stage ∧ given = result)
    (Session.follows_ofExcept ⟨rfl, rfl⟩)
    (fun _ value hmid => by obtain ⟨rfl, hvalue⟩ := hmid; exact hok value hvalue.symm)
    fun _ e hmid => by obtain ⟨rfl, he⟩ := hmid; exact herror e he.symm

/-! ### Reading and scanning -/

section
variable (hb : b.Sound) (hi : b.paths[i]? = some path)
  (hreport : reportPath b.settings path = .ok output)
include hb hi hreport

/-- A schema reads as it did at first. -/
theorem Sound.read_holds {stages : List Stage} {w : World} (h : b.Holds stages w) :
    w.files.read w.directory path = b.before.read b.start path := by
  have hpath := List.mem_of_getElem? hi
  rw [h.directory]
  rcases h.files with ⟨hfiles, -⟩ | ⟨-, hafter⟩
  · rw [hfiles]
  · exact hb.read_after hpath hreport hafter hpath

theorem keeps_readText (complaint : FileFault → String) :
    b.Keeps i (fun stage' result => stage' = stage ∧
        result = (Session.asText (b.before.read b.start path)).mapError (.fileAccess path))
      (Session.readText path complaint) stage := by
  refine Session.Follows.bind (M := fun stage' (result : Except Failure (Except FileFault Bytes)) =>
    stage' = stage ∧ result = .ok (b.before.read b.start path))
    (Session.follows_request fun stages w hs h => ⟨stage, h.unchanged hs rfl rfl h.clock, rfl,
      congrArg Except.ok (hb.read_holds hi hreport h)⟩)
    (fun stage' value hmid => ?_) fun _ _ hmid => by cases hmid.2
  obtain ⟨rfl, hvalue⟩ := hmid
  cases hvalue
  cases Session.asText (b.before.read b.start path) with
  | ok text => exact Session.follows_pure ⟨rfl, rfl⟩
  | error fault => exact keeps_say_bind _ (Session.follows_fail ⟨rfl, rfl⟩)

omit hb hi hreport in
/-- By a clock that stands still a schema is scanned to what it is scanned to at first. -/
theorem keeps_scanText (source : String) :
    b.Keeps i (fun stage' result => stage' = stage ∧
        result = ((scanSource b.settings.scan b.settings.render b.clock source).result.mapError
          (.scan path)))
      (scanText b.settings path source) stage := by
  refine Session.Follows.bind (M := fun stage' (result : Except Failure Clock) => stage' = stage ∧
    ∃ clock time, result = .ok clock ∧ b.clock.Still time ∧ clock.Still time)
    (Session.follows_request fun stages w hs h => ⟨stage, h.unchanged hs rfl rfl h.clock, rfl, ?_⟩)
    (fun stage' clock hmid => ?_) (fun _ _ hmid => ?_)
  · obtain ⟨time, hbefore, hnow⟩ := h.clock
    exact ⟨w.clock, time, rfl, hbefore, hnow⟩
  · obtain ⟨rfl, _, time, hclock, hbefore, hnow⟩ := hmid
    cases hclock
    refine Session.Follows.bind (M := fun stage'' (result : Except Failure Unit) =>
      stage'' = stage' ∧ result = .ok ())
      (Session.follows_request fun stages w hs h => ⟨stage', h.unchanged hs rfl rfl
        ⟨time, hbefore, still_scanSource hnow _ _ source⟩, rfl, rfl⟩)
      (fun stage'' u hmid => ?_) fun _ _ hmid => by cases hmid.2
    obtain ⟨rfl, -⟩ := hmid
    refine keeps_log_bind _ (Session.follows_ofExcept ⟨rfl, ?_⟩)
    rw [scanSource_still hbefore hnow]
  · obtain ⟨-, _, _, h, -⟩ := hmid
    cases h

/-- A schema is inspected to what it is inspected to at first. -/
theorem keeps_inspectFile :
    b.Keeps i (fun stage' result => stage' = stage ∧
        result = inspection b.settings b.before b.start b.clock path)
      (inspectFile b.settings path) stage := by
  refine keeps_ofExcept_bind _ (fun stem hstem => ?_) fun e hstem => ⟨rfl, ?_⟩
  · have hinspection : inspection b.settings b.before b.start b.clock path =
        ((Session.asText (b.before.read b.start path)).mapError (.fileAccess path)).bind
          fun source =>
            (scanSource b.settings.scan b.settings.render b.clock source).result.mapError
              (.scan path) := by
      rw [inspection, hstem]
      dsimp only
      cases Session.asText (b.before.read b.start path) <;> rfl
    rw [hinspection]
    refine (keeps_readText hb hi hreport _).bind (fun stage' source hmid => ?_) fun _ _ hmid => ?_
    · obtain ⟨rfl, hsource⟩ := hmid
      rw [← hsource]
      exact keeps_say_bind _ (keeps_scanText source)
    · obtain ⟨rfl, hfault⟩ := hmid
      rw [← hfault]
      exact ⟨rfl, rfl⟩
  · rw [inspection, hstem]

/-! ### Writing -/

/-- The directory is found, and so seen to, or it was missing from the beginning. -/
theorem keeps_exists? {directory : Path} (hparent : reportParent? output = some directory) :
    b.Keeps i (fun stage' result =>
        (result = .ok true ∧ stage' = .seen ∧ b.answer = .ok ()) ∨
        (result = .ok false ∧ stage' = .early ∧ (b.before.kind b.start directory).isOk = false))
      (Session.exists? directory) .early := by
  have hpath := List.mem_of_getElem? hi
  refine Session.Follows.bind
    (M := fun stage' (result : Except Failure (Except FileFault FileKind)) =>
      ∃ kind, result = .ok kind ∧
        ((kind.isOk = true ∧ stage' = .seen ∧ b.answer = .ok ()) ∨
        (kind.isOk = false ∧ stage' = .early ∧ (b.before.kind b.start directory).isOk = false)))
    (Session.follows_request fun stages w hs h => ?_) (fun stage' kind hmid => ?_) ?_
  · cases hkind : (w.files.kind w.directory directory).isOk with
    | true =>
      obtain ⟨hanswer, hholds⟩ := hb.kind_ok hpath hreport hparent h hs hkind
      exact ⟨.seen, hholds, _, rfl, .inl ⟨hkind, rfl, hanswer⟩⟩
    | false =>
      exact ⟨.early, h.unchanged hs rfl rfl h.clock, _, rfl, .inr ⟨hkind, rfl,
        hb.kind_not_ok hpath hreport hparent h hkind⟩⟩
  · obtain ⟨_, hresult, hcases⟩ := hmid
    cases hresult
    cases kind with
    | ok k =>
      rcases hcases with ⟨-, hrest⟩ | ⟨hkind, -⟩
      · exact Session.follows_pure (.inl ⟨rfl, hrest⟩)
      · cases hkind
    | error fault =>
      rcases hcases with ⟨hkind, -⟩ | ⟨-, hrest⟩
      · cases hkind
      · exact Session.follows_pure (.inr ⟨rfl, hrest⟩)
  · rintro _ _ ⟨_, hresult, -⟩
    cases hresult

/-- A directory that was missing from the beginning is made, or refused as it is at first. -/
theorem keeps_makeDirectories {directory : Path} (hparent : reportParent? output = some directory)
    (hkind : (b.before.kind b.start directory).isOk = false) :
    b.Keeps i (fun stage' result => stage' = .seen ∧ result = b.answer)
      (Session.attempt (Session.makeDirectories directory) (.fileAccess directory)) .early := by
  refine Session.Follows.bind
    (M := fun stage' (result : Except Failure (Except FileFault Unit)) =>
      stage' = .seen ∧ ∃ made, result = .ok made ∧
        made.mapError (.fileAccess directory) = b.answer)
    (Session.follows_request fun stages w hs h => ?_) (fun stage' made hmid => ?_) ?_
  · obtain ⟨hanswer, hholds⟩ :=
      hb.makeDirectories_answer (List.mem_of_getElem? hi) hreport hparent h hs hkind
    exact ⟨.seen, hholds, rfl, _, rfl, hanswer⟩
  · obtain ⟨rfl, _, hresult, hanswer⟩ := hmid
    cases hresult
    cases made with
    | ok u => exact Session.follows_pure ⟨rfl, hanswer⟩
    | error fault => exact Session.follows_fail ⟨rfl, hanswer⟩
  · rintro _ _ ⟨-, _, hresult, -⟩
    cases hresult

/-- Whoever sees to the directory is answered as the first to do so. -/
theorem keeps_makeReportDirectory :
    b.Keeps i (fun stage' result => b.Ready stage' ∧ result = b.answer)
      (makeReportDirectory output) .early := by
  have hnone : reportParent? output = none →
      b.Ready .early ∧ (Except.ok () : Except Failure Unit) = b.answer := fun hparent => by
    obtain ⟨hmade, hanswer⟩ := hb.settled_of_none (List.mem_of_getElem? hi) hreport hparent
    exact ⟨⟨by simp, fun _ => ⟨hmade, hanswer⟩⟩, hanswer.symm⟩
  unfold makeReportDirectory
  cases hp : output.parent? with
  | none => exact Session.follows_pure (hnone (by rw [reportParent?, hp]; rfl))
  | some directory =>
    dsimp only
    by_cases hempty : directory.bytes = []
    · rw [if_pos hempty]
      refine Session.follows_pure (hnone ?_)
      rw [reportParent?, hp]
      simp [Option.filter, hempty]
    · rw [if_neg hempty]
      have hparent : reportParent? output = some directory := by
        rw [reportParent?, hp]
        exact Option.filter_eq_some_iff.mpr ⟨rfl, by simpa using hempty⟩
      refine (keeps_exists? hb hi hreport hparent).bind (fun stage' found hmid => ?_) ?_
      · rcases hmid with ⟨hfound, rfl, hanswer⟩ | ⟨hfound, rfl, hkind⟩
        · cases hfound
          exact Session.follows_pure ⟨ready_seen, hanswer.symm⟩
        · cases hfound
          refine keeps_say_bind _ ((keeps_makeDirectories hb hi hreport hparent hkind).imp ?_)
          rintro _ result ⟨rfl, hresult⟩
          exact ⟨ready_seen, hresult⟩
      · rintro _ _ (⟨hresult, -⟩ | ⟨hresult, -⟩) <;> cases hresult

/-- Whoever appends its report is answered as if it were alone. -/
theorem keeps_appendReport {scanned : ScanOutput}
    (hscan : inspection b.settings b.before b.start b.clock path = .ok scanned)
    (hanswer : b.answer = .ok ()) (hready : b.Ready stage) :
    b.Keeps i (fun stage' result =>
        stage' = (if (b.made.destination b.start output).isOk then .written else .seen) ∧
        result = (reportAppended b.made b.start output scanned.report).2)
      (appendReport output scanned.report) stage := by
  refine Session.Follows.bind
    (M := fun stage' (result : Except Failure (Except FileFault Unit)) =>
      stage' = (if (b.made.destination b.start output).isOk then .written else .seen) ∧
      result = .ok ((b.made.append b.start output (bytesOf scanned.report.text)).map fun _ => ()))
    (Session.follows_request fun stages w hs h => ?_) (fun stage' given hmid => ?_) ?_
  · obtain ⟨heq, hholds⟩ := hb.append_answer hi hreport hscan hanswer h hs hready.1
      fun hearly => (hready.2 hearly).1
    exact ⟨_, hholds, rfl, congrArg Except.ok heq⟩
  · obtain ⟨rfl, hgiven⟩ := hmid
    cases hgiven
    unfold reportAppended
    cases b.made.append b.start output (bytesOf scanned.report.text) with
    | ok files => exact Session.follows_pure ⟨rfl, rfl⟩
    | error fault => exact Session.follows_fail ⟨rfl, rfl⟩
  · rintro _ _ ⟨-, hresult⟩
    cases hresult

end

/-! ### Whole conversions -/

/-- The stage a conversion ends at. -/
def lastStage (b : Batch) (path : Path) : Stage :=
  match reportPath b.settings path, inspection b.settings b.before b.start b.clock path with
  | .ok output, .ok _ =>
    if b.answer = .ok () ∧ (b.made.destination b.start output).isOk then .written else .seen
  | _, _ => .early

section
variable {scanned : ScanOutput} (hreport : reportPath b.settings path = .ok output)
  (hscan : inspection b.settings b.before b.start b.clock path = .ok scanned)
include hreport hscan

theorem lastStage_eq : b.lastStage path = if b.answer = .ok () ∧
    (b.made.destination b.start output).isOk = true then .written else .seen := by
  rw [lastStage, hreport, hscan]

/-- A schema that could be scanned is answered as its directory and its report are. -/
theorem Sound.conversion_eq (hb : b.Sound) (hpath : path ∈ b.paths) :
    (conversion b.settings b.before b.start b.clock path).2 =
      (b.answer.bind fun _ => (reportAppended b.made b.start output scanned.report).2).map
        fun _ => convertedTo path output scanned := by
  simp only [conversion, hreport, hscan, reportWritten, hb.seen path hpath output hreport]
  cases b.answer <;> rfl

end

/-- A conversion comes to what it would come to alone. -/
theorem keeps_convertFile (hb : b.Sound) (hi : b.paths[i]? = some path) :
    b.Keeps i (fun stage' result => stage' = b.lastStage path ∧
        result = (conversion b.settings b.before b.start b.clock path).2)
      (convertFile b.settings path) .early := by
  refine keeps_say_bind _ (keeps_ofExcept_bind _ (fun output hreport => ?_) fun e hreport => ?_)
  · refine (keeps_inspectFile hb hi hreport).bind (fun stage' scanned hmid => ?_) fun _ e hmid => ?_
    · obtain ⟨rfl, hscan⟩ := hmid
      have hscan := hscan.symm
      rw [lastStage_eq hreport hscan, hb.conversion_eq hreport hscan (List.mem_of_getElem? hi)]
      refine (keeps_makeReportDirectory hb hi hreport).bind (fun stage'' u hmid => ?_)
        fun stage'' e hmid => ?_
      · obtain ⟨hready, hanswer⟩ := hmid
        have hanswer := hanswer.symm
        rw [hanswer]
        refine (keeps_appendReport hb hi hreport hscan hanswer hready).bind
          (fun stage₃ u hmid => ?_) fun stage₃ e hmid => ?_
        · obtain ⟨rfl, hresult⟩ := hmid
          refine keeps_say_bind _ (Session.follows_pure ⟨?_, ?_⟩)
          · simp
          · simp only [Except.bind, ← hresult]
            rfl
        · obtain ⟨rfl, hresult⟩ := hmid
          refine ⟨by simp, ?_⟩
          simp only [Except.bind, ← hresult]
          rfl
      · obtain ⟨hready, hanswer⟩ := hmid
        have hanswer := hanswer.symm
        have hne : b.answer ≠ .ok () := by
          rw [hanswer]
          exact fun hok => by cases hok
        refine ⟨?_, by rw [hanswer]; rfl⟩
        rw [hready.eq_seen hne, if_neg fun h => hne h.1]
    · obtain ⟨rfl, hscan⟩ := hmid
      rw [lastStage, hreport, ← hscan, conversion, hreport, ← hscan]
      exact ⟨rfl, rfl⟩
  · rw [lastStage, hreport, conversion, hreport]
    exact ⟨rfl, rfl⟩

/-- What becomes of one file is what would become of it alone. -/
theorem keeps_convertOne (hb : b.Sound) (hi : b.paths[i]? = some path) :
    b.Keeps i (fun stage' result => stage' = b.lastStage path ∧
        result = .ok ⟨path, (conversion b.settings b.before b.start b.clock path).2⟩)
      (convertOne b.settings path) .early := by
  refine Session.Follows.bind
    (M := fun stage' (result : Except Failure (Except Failure Converted)) =>
      stage' = b.lastStage path ∧
        result = .ok (conversion b.settings b.before b.start b.clock path).2)
    (Script.Follows.bind (keeps_convertFile hb hi) fun stage' result hmid => ?_)
    (fun stage' result hmid => ?_) fun _ _ hmid => by cases hmid.2
  · obtain ⟨rfl, rfl⟩ := hmid
    exact ⟨rfl, rfl⟩
  · obtain ⟨rfl, hresult⟩ := hmid
    cases hresult
    exact Session.follows_pure ⟨rfl, rfl⟩

/-! ### Whole batches -/

/-- The conversions of a batch, none of which has begun. -/
def pool (settings : Settings) (paths : List Path) (w : World) :
    Pool (Except Failure Outcome) :=
  ⟨w, paths.map fun path => ExceptT.run (convertOne settings path)⟩

/-- What becomes of the files of a batch, each by itself. -/
def outcomes (b : Batch) : List Outcome :=
  b.paths.map fun path => ⟨path, (conversion b.settings b.before b.start b.clock path).2⟩

/-- A pool that has not begun keeps what holds of the batch, and each of its scripts ends with the
outcome its file would have alone. -/
theorem Sound.follows_pool (hb : b.Sound) {w : World} (hdirectory : w.directory = b.start)
    (hfiles : w.files = b.before) (hclock : w.clock.readings = b.clock.readings) :
    (pool b.settings b.paths w).Follows b.Holds
      (fun i stage result => ∀ path, b.paths[i]? = some path → stage = b.lastStage path ∧
        result = .ok ⟨path, (conversion b.settings b.before b.start b.clock path).2⟩)
      (List.replicate b.paths.length .early) := by
  refine ⟨by simp [pool], hb.holds_begin hdirectory hfiles hclock _, fun i s stage hs hstage => ?_⟩
  obtain ⟨path, hi, rfl⟩ := List.getElem?_map .. ▸ hs |> Option.map_eq_some_iff.mp
  rw [List.getElem?_replicate] at hstage
  split at hstage
  · cases hstage
    refine Script.Follows.imp (keeps_convertOne hb hi) fun stage' result hpost other hother => ?_
    rw [hi] at hother
    cases hother
    exact hpost
  · cases hstage

/-- In whatever order the conversions make their requests, each file has the outcome it would have
alone, and what holds in the end is settled. -/
theorem Sound.ends (hb : b.Sound) {w v : World} {values : List (Except Failure Outcome)}
    (hdirectory : w.directory = b.start) (hfiles : w.files = b.before)
    (hclock : w.clock.readings = b.clock.readings)
    (h : (pool b.settings b.paths w).Ends v values) :
    values = b.outcomes.map .ok ∧ b.Holds (b.paths.map b.lastStage) v := by
  have hlength : values.length = b.paths.length := by simpa [pool] using h.length_eq
  obtain ⟨stages, hstages, hholds, hall⟩ :=
    h.follows (hb.follows_pool hdirectory hfiles hclock)
  have hpost : ∀ i (hv : i < values.length) (hs : i < stages.length) (hi : i < b.paths.length),
      stages[i] = b.lastStage b.paths[i] ∧ values[i] =
        .ok ⟨b.paths[i], (conversion b.settings b.before b.start b.clock b.paths[i]).2⟩ :=
    fun i hv hs hi => hall i _ _ (List.getElem?_eq_getElem hv) (List.getElem?_eq_getElem hs) _
      (List.getElem?_eq_getElem hi)
  have hsettled : stages = b.paths.map b.lastStage := by
    refine List.ext_getElem (by rw [List.length_map]; omega) fun i hs hi => ?_
    rw [List.length_map] at hi
    rw [List.getElem_map, (hpost i (by omega) hs hi).1]
  refine ⟨?_, hsettled ▸ hholds⟩
  rw [outcomes, List.map_map]
  refine List.ext_getElem (by rw [List.length_map, hlength]) fun i hv hi => ?_
  rw [List.length_map] at hi
  rw [List.getElem_map, (hpost i hv (by omega) hi).2]
  rfl

/-- The files are settled by the stages all conversions have reached. -/
theorem Holds.node?_eq {stages : List Stage} {w v : World} (h : b.Holds stages w)
    (h' : b.Holds stages v) (location : Location) :
    w.files.node? location = v.files.node? location := by
  rcases h.files, h'.files with
    ⟨⟨hfiles, hearly⟩ | ⟨⟨stage, hmem, hstage⟩, hafter⟩,
      ⟨hfiles', hearly'⟩ | ⟨⟨stage', hmem', hstage'⟩, hafter'⟩⟩
  · rw [hfiles, hfiles']
  · exact absurd (hearly stage' hmem') hstage'
  · exact absurd (hearly' stage hmem) hstage
  · by_cases hfree : ∀ (i : Nat) (path : Path) content, b.paths[i]? = some path →
        stages[i]? = some .written → ¬ b.Filed path location content
    · rw [hafter.others location hfree, hafter'.others location hfree]
    · push Not at hfree
      obtain ⟨i, path, content, hpath, hwritten, hfiled⟩ := hfree
      rw [hafter.written i path location content hpath hwritten hfiled,
        hafter'.written i path location content hpath hwritten hfiled]

/-- Converting files one after the other is one way of converting them side by side. -/
theorem ends_convertAll (settings : Settings) (paths : List Path) (w : World) :
    ∃ v outcomes, (convertAll settings paths).run w = (v, .ok outcomes) ∧
      (pool settings paths w).Ends v (outcomes.map .ok) := by
  have hrun : ∀ w : World, ∃ outcomes, (convertAll settings paths).run w =
      ((Pool.runAll (pool settings paths w).scripts w).1, .ok outcomes) ∧
      (Pool.runAll (pool settings paths w).scripts w).2 = outcomes.map .ok := by
    induction paths with
    | nil => exact fun w => ⟨[], rfl, rfl⟩
    | cons path others ih =>
      intro w
      obtain ⟨events, clock, hone⟩ := run_convertOne settings path w
      obtain ⟨outcomes, hothers, hvalues⟩ := ih ((convertOne settings path).run w).1
      refine ⟨⟨path, (conversion settings w.files w.directory w.clock path).2⟩ :: outcomes, ?_, ?_⟩
      · rw [convertAll, Session.run_bind, hone]
        dsimp only
        rw [hone] at hothers
        rw [Session.run_bind, hothers]
        show _ = ((Pool.runAll _ ((convertOne settings path).run w).1).1, _)
        rw [hone]
        rfl
      · show ((convertOne settings path).run w).2 ::
          (Pool.runAll _ ((convertOne settings path).run w).1).2 = _
        rw [hone] at hvalues ⊢
        exact congrArg _ hvalues
  obtain ⟨outcomes, hall, hvalues⟩ := hrun w
  exact ⟨_, outcomes, hall, hvalues ▸ Pool.steps_runAll _ w⟩

/-- Whatever the others do meanwhile, a conversion ends with an outcome of its own file. -/
theorem follows_convertOne (settings : Settings) (path : Path) (i : Nat) :
    Session.Follows (fun (_ : List Unit) _ => True) i
      (fun _ result => ∃ answer, result = .ok ⟨path, answer⟩) (convertOne settings path) () := by
  refine Session.Follows.bind
    (M := fun _ (result : Except Failure (Except Failure Converted)) =>
      ∃ answer, result = .ok answer)
    (Script.Follows.bind (Script.follows_trivial _) fun _ answer _ => ⟨answer, rfl⟩)
    (fun _ answer _ => Session.follows_pure ⟨answer, rfl⟩) ?_
  rintro _ e ⟨answer, h⟩
  cases h

theorem exists_outcomes {paths : List Path} {values : List (Except Failure Outcome)}
    (h : List.Forall₂ (fun path value => ∃ answer, value = .ok ⟨path, answer⟩) paths values) :
    ∃ outcomes : List Outcome, values = outcomes.map .ok ∧ outcomes.map Outcome.path = paths := by
  induction h with
  | nil => exact ⟨[], rfl, rfl⟩
  | @cons path value paths values hvalue _ ih =>
    obtain ⟨answer, rfl⟩ := hvalue
    obtain ⟨outcomes, rfl, rfl⟩ := ih
    exact ⟨⟨path, answer⟩ :: outcomes, rfl, rfl⟩

/-- However files are converted side by side, there is an outcome for each of them in the
end, in their order. -/
theorem outcomes_of_ends {settings : Settings} {paths : List Path} {w v : World}
    {values : List (Except Failure Outcome)} (h : (pool settings paths w).Ends v values) :
    ∃ outcomes : List Outcome, values = outcomes.map .ok ∧ outcomes.map Outcome.path = paths := by
  have hlength : values.length = paths.length := by simpa [pool] using h.length_eq
  have hfollows : (pool settings paths w).Follows (fun _ _ => True)
      (fun i _ result => ∀ path, paths[i]? = some path → ∃ answer, result = .ok ⟨path, answer⟩)
      (List.replicate paths.length ()) := by
    refine ⟨by simp [pool], trivial, fun i s _ hs _ => ?_⟩
    obtain ⟨path, hi, rfl⟩ := List.getElem?_map .. ▸ hs |> Option.map_eq_some_iff.mp
    refine Script.Follows.imp (follows_convertOne settings path i) fun _ _ hpost other hother => ?_
    rw [hi] at hother
    cases hother
    exact hpost
  obtain ⟨stages, hstages, -, hall⟩ := h.follows hfollows
  refine exists_outcomes (List.forall₂_iff_get.mpr ⟨hlength.symm, fun i hpath hvalue => ?_⟩)
  have hstage : i < stages.length := hstages ▸ hvalue
  exact hall i _ _ (List.getElem?_eq_getElem hvalue) (List.getElem?_eq_getElem hstage) _
    (List.getElem?_eq_getElem hpath)

end Batch

/-! ### Directories -/

section
variable {settings : Settings} {files : FileTree} {start : Location} {directory path other : Path}
  {output output' : Path}

/-- The schemas of a directory have one directory for their reports. -/
theorem reportDirectory_eq (hplain : files.Plain) {extension : String}
    (hpath : path ∈ schemasIn files start directory extension)
    (hother : other ∈ schemasIn files start directory extension) :
    reportDirectory settings.output path = reportDirectory settings.output other := by
  obtain ⟨n, hn, -, rfl, -⟩ := exists_name_of_mem_schemasIn hplain hpath
  obtain ⟨m, hm, -, rfl, -⟩ := exists_name_of_mem_schemasIn hplain hother
  obtain ⟨q, hq⟩ := directory.parent?_join
  rw [reportDirectory, reportDirectory, (hq n hn).1, (hq m hm).1]

theorem directorySeenTo_congr (h : output.parent? = output'.parent?) :
    directorySeenTo files start output = directorySeenTo files start output' := by
  rw [directorySeenTo, directorySeenTo, reportParent?, reportParent?, h]

/-- The reports on the schemas of a directory lie in one directory. -/
theorem parent?_eq_of_reportPath (hplain : files.Plain)
    (hslash : '/' ∉ settings.output.extension.toList) (hempty : settings.output.extension ≠ "")
    {extension : String} (hpath : path ∈ schemasIn files start directory extension)
    (hother : other ∈ schemasIn files start directory extension)
    (h : reportPath settings path = .ok output) (h' : reportPath settings other = .ok output') :
    output.parent? = output'.parent? := by
  obtain ⟨stem, hne, hname, rfl⟩ := reportPath_eq_ok h
  obtain ⟨stem', hne', hname', rfl⟩ := reportPath_eq_ok h'
  rw [reportDirectory_eq hplain hpath hother]
  obtain ⟨q, hq⟩ := (reportDirectory settings.output other).parent?_join
  rw [(hq _ (isName_reportName hslash hempty hne hname)).1,
    (hq _ (isName_reportName hslash hempty hne' hname')).1]

/-- The reports on the schemas of a directory have names of their own. -/
theorem eq_of_reportName (hplain : files.Plain) (hslash : '/' ∉ settings.output.extension.toList)
    (hempty : settings.output.extension ≠ "") {extension : String}
    (hpath : path ∈ schemasIn files start directory extension)
    (hother : other ∈ schemasIn files start directory extension)
    (h : reportPath settings path = .ok output) (h' : reportPath settings other = .ok output')
    (hsame : output.fileName? = output'.fileName?) : path = other := by
  obtain ⟨stem, hne, hname, rfl⟩ := reportPath_eq_ok h
  obtain ⟨stem', hne', hname', rfl⟩ := reportPath_eq_ok h'
  rw [Path.fileName?_join _ (isName_reportName hslash hempty hne hname),
    Path.fileName?_join _ (isName_reportName hslash hempty hne' hname')] at hsame
  rw [nameWith_injective (Option.some.inj hsame)] at hname
  obtain ⟨n, hn, -, rfl, -⟩ := exists_name_of_mem_schemasIn hplain hpath
  obtain ⟨m, hm, -, rfl, -⟩ := exists_name_of_mem_schemasIn hplain hother
  rw [Path.fileName?_join directory hn] at hname
  rw [Path.fileName?_join directory hm] at hname'
  rw [Option.some.inj hname, Option.some.inj hname']

/-- Schemas whose reports have one name stand at one place in the list of schemas. -/
theorem index_eq_of_reportName (hplain : files.Plain)
    (hslash : '/' ∉ settings.output.extension.toList) (hempty : settings.output.extension ≠ "")
    {extension : String} (i j : Nat) (path other output output' : Path)
    (hi : (schemasIn files start directory extension)[i]? = some path)
    (hj : (schemasIn files start directory extension)[j]? = some other)
    (h : reportPath settings path = .ok output) (h' : reportPath settings other = .ok output')
    (hsame : output.fileName? = output'.fileName?) : i = j := by
  have heq := eq_of_reportName hplain hslash hempty (List.mem_of_getElem? hi)
    (List.mem_of_getElem? hj) h h' hsame
  obtain ⟨hi, hvalue⟩ := List.getElem?_eq_some_iff.mp hi
  obtain ⟨hj, hvalue'⟩ := List.getElem?_eq_some_iff.mp hj
  exact (nodup_schemasIn hplain).getElem_inj_iff.mp (hvalue.trans (heq.trans hvalue'.symm))

theorem above_mem_of_mem_turns {p : Path} (h : FileTree.Step.above ∈ p.turns) :
    Path.above ∈ Path.split p.bytes := by
  obtain ⟨piece, hmem, hturn⟩ := List.mem_filterMap.mp h
  unfold Path.turn? at hturn
  split at hturn
  · cases hturn
  · split at hturn
    · next habove => exact habove ▸ hmem
    · cases hturn

end

/-- The directory of a report can be had, or its path does not lead up. -/
def Settled (files : FileTree) (start : Location) (output : Path) : Prop :=
  (directorySeenTo files start output).2 = .ok () ∨ Path.above ∉ Path.split output.bytes

/-- The batch of a directory. -/
theorem exists_batch (settings : Settings) (directory : Path) {w : World} (hplain : w.files.Plain)
    (hstart : w.files.node? w.directory = some .directory) (hstill : ∃ time, w.clock.Still time)
    (hempty : settings.output.extension ≠ "") (hslash : '/' ∉ settings.output.extension.toList)
    (hsure : ∀ schema ∈ w.schemas settings directory,
      ∀ output, reportPath settings schema = .ok output → Settled w.files w.directory output)
    (hapart : ∀ schema ∈ w.schemas settings directory,
      ∀ other ∈ w.schemas settings directory,
      ∀ output, reportPath settings schema = .ok output →
      ¬ (directorySeenTo w.files w.directory output).1.OnePlace w.directory output other) :
    ∃ made answer, Batch.Sound ⟨settings, w.files, w.directory, w.clock,
      w.schemas settings directory, made, answer⟩ := by
  have hfiles : ∀ path ∈ w.schemas settings directory,
      w.files.isFile w.directory path = true := fun path hpath =>
    let ⟨_, _, _, _, hfile⟩ := exists_name_of_mem_schemasIn hplain hpath
    hfile
  by_cases hsome : ∃ path ∈ w.schemas settings directory,
      ∃ output, reportPath settings path = .ok output
  · obtain ⟨path, hpath, output, hreport⟩ := hsome
    have hseen : ∀ other ∈ w.schemas settings directory,
        ∀ output', reportPath settings other = .ok output' →
        directorySeenTo w.files w.directory output' = directorySeenTo w.files w.directory output :=
      fun other hother output' hreport' => directorySeenTo_congr
        (parent?_eq_of_reportPath hplain hslash hempty hother hpath hreport' hreport)
    refine ⟨(directorySeenTo w.files w.directory output).1,
      (directorySeenTo w.files w.directory output).2, hplain.toRooted, hstart, hslash, hempty,
      hstill, hfiles, index_eq_of_reportName hplain hslash hempty, hseen,
      fun other hother output' hreport' => ?_,
      fun other hother schema hschema output' hreport' location hl hl' => ?_⟩
    · rw [← hseen other hother output' hreport']
      exact (hsure other hother output' hreport').imp id fun hup hmem =>
        hup (above_mem_of_mem_turns hmem)
    · refine hapart other hother schema hschema output' hreport' ⟨location, ?_, ?_⟩
      · rw [hseen other hother output' hreport']
        exact hl
      · exact FileTree.locate_grows hl' (directorySeenTo_fills w.files w.directory output').grows
  · have hnone : ∀ path ∈ w.schemas settings directory,
        ∀ output, reportPath settings path ≠ .ok output :=
      fun path hpath output hreport => hsome ⟨path, hpath, output, hreport⟩
    exact ⟨w.files, .ok (), hplain.toRooted, hstart, hslash, hempty, hstill, hfiles,
      index_eq_of_reportName hplain hslash hempty,
      fun path hpath output h => absurd h (hnone path hpath output),
      fun path hpath output h => absurd h (hnone path hpath output),
      fun path hpath _ _ output h => absurd h (hnone path hpath output)⟩

/-- **The order of conversions makes no difference.** On a tree as it stands on a disk, by a clock
that stands still and with an extension of reports that is not empty and holds no slash: if no
report goes to the file of a schema, once the directory of the reports has been seen to, and if
that directory can be had or its path does not lead up, then the reports on the schemas of a
directory have paths of their own, each file has the outcome it would have had by itself, and in
whatever order the conversions make their requests, the outcomes and the files are in the end
those of one conversion after the other. -/
theorem convertDirectory_any_order (settings : Settings) (directory : Path) (w : World)
    (hplain : w.files.Plain) (hstart : w.files.node? w.directory = some .directory)
    (hstill : ∃ time, w.clock.Still time)
    (hempty : settings.output.extension ≠ "") (hslash : '/' ∉ settings.output.extension.toList)
    (hdirectory : w.files.isDirectory w.directory directory = true)
    (hsure : ∀ schema ∈ w.schemas settings directory,
      ∀ output, reportPath settings schema = .ok output → Settled w.files w.directory output)
    (hapart : ∀ schema ∈ w.schemas settings directory,
      ∀ other ∈ w.schemas settings directory,
      ∀ output, reportPath settings schema = .ok output →
      ¬ (directorySeenTo w.files w.directory output).1.OnePlace w.directory output other) :
    (w.schemas settings directory).Pairwise
      (fun schema other => ∀ output, reportPath settings schema = .ok output →
        reportPath settings other ≠ .ok output) ∧
    ∃ report, ((convertDirectory settings directory).run w).2 = .ok report ∧
      report.outcomes = (w.schemas settings directory).map
        (fun schema => ⟨schema, ((convertFile settings schema).run w).2⟩) ∧
      ∀ events v outcomes,
        (Batch.pool settings (w.schemas settings directory)
          { w with events := events }).Ends v outcomes →
        outcomes = report.outcomes.map .ok ∧ ∀ location, v.files.node? location =
          ((convertDirectory settings directory).run w).1.files.node? location := by
  obtain ⟨made, answer, hb⟩ :=
    exists_batch settings directory hplain hstart hstill hempty hslash hsure hapart
  refine ⟨?_, ?_⟩
  · refine (nodup_schemasIn hplain).imp_of_mem ?_
    intro schema other hschema hother hne output h h'
    exact hne (eq_of_reportName hplain hslash hempty hschema hother h h' rfl)
  obtain ⟨events, events', v, outcomes, hall, -, hrun⟩ := run_convertDirectory settings hdirectory
  obtain ⟨v', outcomes', hall', hends⟩ := Batch.ends_convertAll settings
    (w.schemas settings directory) { w with events := events }
  rw [hall] at hall'
  cases hall'
  obtain ⟨hvalues, hholds⟩ := hb.ends (w := { w with events := events }) rfl rfl rfl hends
  refine ⟨_, by rw [hrun], ?_, fun events₁ v₁ outcomes₁ hends₁ => ?_⟩
  · have hsame : ∀ schema, ((convertFile settings schema).run w).2 =
        (conversion settings w.files w.directory w.clock schema).2 := fun schema => by
      obtain ⟨_, _, hone⟩ := run_convertFile settings schema w
      rw [hone]
    simp only [hsame]
    exact (List.map_injective_iff.mpr fun _ _ h => Except.ok.inj h) hvalues
  · obtain ⟨hvalues₁, hholds₁⟩ := hb.ends (w := { w with events := events₁ }) rfl rfl rfl hends₁
    refine ⟨hvalues₁.trans hvalues.symm, fun location => ?_⟩
    rw [hrun]
    exact hholds₁.node?_eq hholds location

/-! ### Two schemas on a disk -/

/-- The clock of these worlds stands still. -/
theorem World.ofNodes_still (nodes : List (Location × Node)) :
    (World.ofNodes nodes).clock.Still ⟨2024, 5, 6, 7, 8, 9⟩ := fun n => by
  cases n <;> rfl

/-- Two schemas converted side by side have the outcomes they have alone, and leave the files that
the conversion of their directory leaves. -/
theorem convertDirectory_any_order_two :
    World.twoSchemas.files.Plain ∧ World.twoSchemas.clock.Still ⟨2024, 5, 6, 7, 8, 9⟩ ∧
    World.twoSchemas.schemas {} (.ofText ".") = [.ofText "./a.yaml", .ofText "./b.yaml"] ∧
    ∀ v outcomes, (Batch.pool {} [.ofText "./a.yaml", .ofText "./b.yaml"] World.twoSchemas).Ends
        v outcomes →
      outcomes = [.ok ⟨.ofText "./a.yaml",
          ((convertFile {} (.ofText "./a.yaml")).run World.twoSchemas).2⟩,
        .ok ⟨.ofText "./b.yaml", ((convertFile {} (.ofText "./b.yaml")).run World.twoSchemas).2⟩] ∧
      ∀ location, v.files.node? location =
        ((convertDirectory {} (.ofText ".")).run World.twoSchemas).1.files.node? location := by
  have hschemas := World.schemas_twoSchemas
  have hreports : reportPath {} (.ofText "./a.yaml") = .ok (.ofText "./a.txt") ∧
      reportPath {} (.ofText "./b.yaml") = .ok (.ofText "./b.txt") := by decide
  have hseen : ∀ output ∈ [Path.ofText "./a.txt", Path.ofText "./b.txt"],
      directorySeenTo World.twoSchemas.files World.twoSchemas.directory output =
        (World.twoSchemas.files, .ok ()) ∧
      ∃ location, World.twoSchemas.files.locate World.twoSchemas.directory .find output =
        .ok (.absent location) := by
    rw [List.forall_mem_cons, List.forall_mem_singleton]
    exact ⟨⟨by decide, [bytesOf "a.txt"], by decide⟩, ⟨by decide, [bytesOf "b.txt"], by decide⟩⟩
  have houtput : ∀ schema ∈ World.twoSchemas.schemas {} (.ofText "."), ∀ output,
      reportPath {} schema = .ok output →
      output ∈ [Path.ofText "./a.txt", Path.ofText "./b.txt"] := by
    rw [hschemas, List.forall_mem_cons, List.forall_mem_singleton, hreports.1, hreports.2]
    exact ⟨fun output h => by cases h; simp, fun output h => by cases h; simp⟩
  obtain ⟨-, report, -, houtcomes, hends⟩ := convertDirectory_any_order {} (.ofText ".")
    World.twoSchemas World.twoSchemas_plain rfl ⟨_, World.ofNodes_still _⟩ (by decide)
    (by decide) (by decide)
    (fun schema hschema output h =>
      .inl (congrArg Prod.snd (hseen output (houtput schema hschema output h)).1))
    (fun schema hschema other _ output h => by
      obtain ⟨hsame, location, hl⟩ := hseen output (houtput schema hschema output h)
      rintro ⟨there, hthere, -⟩
      rw [hsame, hl] at hthere
      cases hthere)
  refine ⟨World.twoSchemas_plain, World.ofNodes_still _, hschemas, fun v outcomes h => ?_⟩
  obtain ⟨hvalues, hfiles⟩ := hends World.twoSchemas.events v outcomes (hschemas ▸ h)
  refine ⟨?_, hfiles⟩
  rw [hvalues, houtcomes, hschemas]
  rfl

/-! ### A path that leads up -/

section
variable {settings : Settings} {files made : FileTree} {start : Location} {clock : Clock}
  {path output : Path} {scanned : ScanOutput}

/-- A conversion that is refused its directory. -/
theorem conversion_refused {e : Failure} (hpath : reportPath settings path = .ok output)
    (hscan : inspection settings files start clock path = .ok scanned)
    (hseen : directorySeenTo files start output = (made, .error e)) :
    conversion settings files start clock path = (made, .error e) := by
  simp only [conversion, hpath, hscan, reportWritten, hseen]
  rfl

/-- A conversion whose report cannot be opened. -/
theorem conversion_unopened {fault : FileFault} (hpath : reportPath settings path = .ok output)
    (hscan : inspection settings files start clock path = .ok scanned)
    (hseen : directorySeenTo files start output = (made, .ok ()))
    (hdestination : made.destination start output = .error fault) :
    conversion settings files start clock path = (made, .error (.fileAccess output fault)) := by
  have happend : made.append start output (bytesOf scanned.report.text) = .error fault := by
    rw [FileTree.append_eq_map_destination, hdestination]
    rfl
  simp only [conversion, hpath, hscan, reportWritten, hseen, reportAppended, happend]
  rfl

end

/-- Settings whose directory for reports leads up from a directory that is missing, to a file. -/
def upAgain : Settings := { output := { directory := some "new/../blocker" } }

/-- Two schemas, and a file in the way of their reports. -/
def World.blocked : World := .ofNodes
  [([bytesOf "a.yaml"], .file (bytesOf keysOnly)), ([bytesOf "b.yaml"], .file (bytesOf keysOnly)),
    ([bytesOf "blocker"], .file [])]

/-- The files once a conversion has been refused its directory. -/
def World.blockedOnce : FileTree := World.blocked.files.put [bytesOf "new"] .directory

/-- Whose conversion comes first is refused the directory, and makes half of it; whose conversion
comes later finds it there, and cannot open its report. -/
theorem conversion_blocked (clock : Clock) {path output : Path}
    (h : (path, output) ∈ [(Path.ofText "./a.yaml", Path.ofText "new/../blocker/a.txt"),
      (Path.ofText "./b.yaml", Path.ofText "new/../blocker/b.txt")]) :
    conversion upAgain World.blocked.files [] clock path =
      (World.blockedOnce, .error (.fileAccess (.ofText "new/../blocker") (.os .fileExists))) ∧
    conversion upAgain World.blockedOnce [] clock path =
      (World.blockedOnce, .error (.fileAccess output (.os .notDirectory))) := by
  obtain ⟨scanned, hscan⟩ := exists_scan_keysOnly clock
  have hpath : reportPath upAgain path = .ok output ∧
      ∃ stem, schemaStem path "yaml" = .ok stem := by
    rcases h with _ | ⟨_, _ | ⟨_, ⟨⟩⟩⟩
    · exact ⟨by decide, "a", by decide⟩
    · exact ⟨by decide, "b", by decide⟩
  have hread : World.blocked.files.read [] path = .ok (bytesOf keysOnly) ∧
      World.blockedOnce.read [] path = .ok (bytesOf keysOnly) := by
    rcases h with _ | ⟨_, _ | ⟨_, ⟨⟩⟩⟩ <;> exact ⟨by decide, by decide⟩
  have hseen : directorySeenTo World.blocked.files [] output = (World.blockedOnce,
      .error (.fileAccess (.ofText "new/../blocker") (.os .fileExists))) ∧
      directorySeenTo World.blockedOnce [] output = (World.blockedOnce, .ok ()) ∧
      World.blockedOnce.destination [] output = .error (.os .notDirectory) := by
    rcases h with _ | ⟨_, _ | ⟨_, ⟨⟩⟩⟩ <;> exact ⟨by decide, by decide, by decide⟩
  obtain ⟨hpath, stem, hstem⟩ := hpath
  exact ⟨conversion_refused hpath (inspection_eq_ok hstem hread.1 hscan) hseen.1,
    conversion_unopened hpath (inspection_eq_ok hstem hread.2 hscan) hseen.2.1 hseen.2.2⟩

/-- Of two conversions the one that comes later is refused its report. -/
theorem convertOne_blocked :
    ((convertOne upAgain (.ofText "./a.yaml")).run
      ((convertOne upAgain (.ofText "./b.yaml")).run World.blocked).1).2 =
      .ok ⟨.ofText "./a.yaml",
        .error (.fileAccess (.ofText "new/../blocker/a.txt") (.os .notDirectory))⟩ := by
  obtain ⟨_, clock, hfirst⟩ := run_convertOne upAgain (.ofText "./b.yaml") World.blocked
  rw [show World.blocked.directory = [] from rfl,
    (conversion_blocked _ (.tail _ (.head _))).1] at hfirst
  obtain ⟨_, _, hsecond⟩ := run_convertOne upAgain (.ofText "./a.yaml")
    ((convertOne upAgain (.ofText "./b.yaml")).run World.blocked).1
  rw [hfirst] at hsecond ⊢
  dsimp only at hsecond
  rw [(conversion_blocked clock (.head _)).2] at hsecond
  rw [hsecond]

/-- Where the path of the directory leads up, and the directory cannot be had, it does make a
difference which conversion comes first: it is refused another thing than those after it. -/
theorem refusals_depend_on_order :
    (Settings.ofText ⟨[]⟩ "[output]\ndirectory = \"new/../blocker\"\n").result = .ok upAgain ∧
    World.blocked.files.Plain ∧
    World.blocked.files.node? World.blocked.directory = some .directory ∧
    World.blocked.clock.Still ⟨2024, 5, 6, 7, 8, 9⟩ ∧
    upAgain.output.extension ≠ "" ∧ '/' ∉ upAgain.output.extension.toList ∧
    World.blocked.files.isDirectory World.blocked.directory (.ofText ".") = true ∧
    (∀ schema ∈ World.blocked.schemas upAgain (.ofText "."),
      ∀ other ∈ World.blocked.schemas upAgain (.ofText "."),
      ∀ output, reportPath upAgain schema = .ok output →
      ¬ (directorySeenTo World.blocked.files World.blocked.directory output).1.OnePlace
        World.blocked.directory output other) ∧
    ∃ report, ((convertDirectory upAgain (.ofText ".")).run World.blocked).2 = .ok report ∧
      ∃ v outcomes, (Batch.pool upAgain (World.blocked.schemas upAgain (.ofText "."))
          World.blocked).Ends v outcomes ∧
        outcomes ≠ report.outcomes.map .ok := by
  have hschemas : World.blocked.schemas upAgain (.ofText ".") =
      [.ofText "./a.yaml", .ofText "./b.yaml"] :=
    (schemasIn_eq [bytesOf "a.yaml", bytesOf "b.yaml", bytesOf "blocker"] _ (by decide) (.refl _)
      (by decide)).trans (by decide)
  have hdirectory :
      World.blocked.files.isDirectory World.blocked.directory (.ofText ".") = true := by decide
  have hreports : reportPath upAgain (.ofText "./a.yaml") = .ok (.ofText "new/../blocker/a.txt") ∧
      reportPath upAgain (.ofText "./b.yaml") = .ok (.ofText "new/../blocker/b.txt") := by
    decide +kernel
  refine ⟨by decide +kernel, FileTree.plain_of_nodes (by decide +kernel) (by decide +kernel), rfl,
    World.ofNodes_still _, by decide +kernel, by decide +kernel, hdirectory, ?_, ?_⟩
  · have hastray : ∀ output ∈
        [Path.ofText "new/../blocker/a.txt", Path.ofText "new/../blocker/b.txt"],
        (directorySeenTo World.blocked.files World.blocked.directory output).1.locate
          World.blocked.directory .find output = .error (.os .notDirectory) := by
      rw [List.forall_mem_cons, List.forall_mem_singleton]
      exact ⟨by decide, by decide⟩
    rw [hschemas, List.forall_mem_cons, List.forall_mem_singleton, hreports.1, hreports.2]
    refine ⟨fun other _ output h => ?_, fun other _ output h => ?_⟩
    all_goals
      cases h
      rintro ⟨location, hl, -⟩
      rw [hastray _ (by simp)] at hl
      cases hl
  · obtain ⟨events, events', v, outcomes, -, hconverts, hrun⟩ :=
      run_convertDirectory upAgain hdirectory
    rw [hschemas] at hconverts ⊢
    rw [hrun]
    refine ⟨_, rfl, _, _, Pool.ends_swapped _ _ World.blocked, fun hsame => ?_⟩
    cases hconverts with
    | next clock _ =>
      have hresults := convertOne_blocked.symm.trans (List.cons.inj hsame).1
      rw [show World.blocked.directory = [] from rfl,
        (conversion_blocked clock (.head _)).1] at hresults
      cases hresults

end SchemaReport
