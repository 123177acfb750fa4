import Mathlib.Data.List.Forall2
import SchemaReport.Proofs.Report.Rendering
import SchemaReport.Proofs.Report.Telling
import SchemaReport.Proofs.Scan.Inheriting

/-! What the settings of a scan have a say in.

Two scans of one schema under different float keywords and names differ in nothing but the types of
columns, wherever they stand (`Scanner.Retyped`): a type goes from a line to a draft, from there
into a column and on to the columns that inherit it, and no step looks at it. So whatever relates
the types that the two sets of keywords classify alike relates the tables and what the two builders
are told (`scanSource_retyped`). The names are left to the sections that show them. -/
namespace SchemaReport
open Text Schema

/-! ### The same but for types -/

section Retyped
variable (R : ColumnType → ColumnType → Prop)

/-- The same column but for its type, and the types are related. -/
structure Column.Retyped (c c' : Column) : Prop where
  type : R c.columnType c'.columnType
  same : c' = { c with columnType := c'.columnType }

/-- The same draft but for its type, and the types are related if there are any. -/
structure Draft.Retyped (d d' : Draft) : Prop where
  type : Option.Rel R d.columnType d'.columnType
  same : d' = { d with columnType := d'.columnType }

/-- The same table but for the types of its columns. -/
structure Table.Retyped (t t' : Table) : Prop where
  columns : List.Forall₂ (Column.Retyped R) t.columns t'.columns
  same : t' = { t with columns := t'.columns }

/-- The same call but for the type of the column it brings. -/
inductive Call.Retyped : Call → Call → Prop
  | opens {description structName : String} :
      Retyped (.opens description structName) (.opens description structName)
  | adds {c c' : Column} : c.Retyped R c' → Retyped (.adds c) (.adds c')

/-- Two scanners that are the same for all they do with a line, but for types; and the types their
keywords tell are related, too. -/
structure Scanner.Retyped (s t : Scanner) : Prop where
  mode : t.settings.missingFields = s.settings.missingFields
  kinds : ∀ raw name, R (.classify raw name s.settings.floatKeywords)
    (.classify raw name t.settings.floatKeywords)
  phase : t.phase = s.phase
  table : s.table.Retyped R t.table
  draft : (s.draft.getD {}).Retyped R (t.draft.getD {})

end Retyped

variable {R : ColumnType → ColumnType → Prop}

theorem forall₂_getLastD {α : Type} {P : α → α → Prop} {l l' : List α} {a a' : α}
    (h : List.Forall₂ P l l') (ha : P a a') : P (l.getLastD a) (l'.getLastD a') := by
  induction h generalizing a a' with
  | nil => exact ha
  | cons hfirst _ ih =>
    rw [List.getLastD_cons, List.getLastD_cons]
    exact ih hfirst

/-- Items that differ in nothing a function looks at. -/
theorem map_eq_of_forall₂ {α β : Type} {P : α → α → Prop} {f : α → β} {l l' : List α}
    (hf : ∀ a a', P a a' → f a' = f a) (h : List.Forall₂ P l l') : l'.map f = l.map f := by
  have hmap : List.Forall₂ Eq (l.map f) (l'.map f) :=
    List.rel_map (fun a a' ha => (hf a a' ha).symm) h
  rw [List.forall₂_eq_eq_eq] at hmap
  exact hmap.symm

/-! ### Drafts -/

namespace Draft
variable {d d' : Draft} {previous previous' : Column}

/-- A field that is required is missing in both, or related where it is related in drafts and
columns. -/
theorem required_rel {α : Type} {P : α → α → Prop} {written written' : Option α}
    {inherited inherited' : α} (h : Option.Rel P written written') (h' : P inherited inherited')
    (mode : MissingFields) (field : ColumnField) :
    (required mode field written inherited = .error field ∧
      required mode field written' inherited' = .error field) ∨
    ∃ a a', required mode field written inherited = .ok a ∧
      required mode field written' inherited' = .ok a' ∧ P a a' := by
  cases h with
  | some h => exact .inr ⟨_, _, by simp [required], by simp [required], h⟩
  | none =>
    cases mode with
    | inherit => exact .inr ⟨_, _, rfl, rfl, h'⟩
    | error => exact .inl ⟨rfl, rfl⟩

/-- Drafts that are the same but for types lack the same field, or make the same column but for
its type. -/
theorem Retyped.complete (h : d.Retyped R d') (hp : previous.Retyped R previous')
    (mode : MissingFields) (name : String) :
    (∃ field, d.complete mode previous name = .error field ∧
      d'.complete mode previous' name = .error field) ∨
    ∃ c c', d.complete mode previous name = .ok c ∧ d'.complete mode previous' name = .ok c' ∧
      c.Retyped R c' := by
  obtain ⟨htype, hsame⟩ := h
  obtain ⟨hptype, hpsame⟩ := hp
  rw [hsame, hpsame]
  simp only [Draft.complete]
  cases required mode .description d.heading ⟨previous.chineseName, previous.fixedLength⟩ with
  | error field => exact .inl ⟨field, rfl, rfl⟩
  | ok heading =>
    rcases required_rel htype hptype mode .type with ⟨ht, ht'⟩ | ⟨t, t', ht, ht', hrel⟩
    · exact .inl ⟨.type, by rw [ht]; rfl, by rw [ht']; rfl⟩
    · rw [ht, ht']
      cases required mode .length d.length previous.length with
      | error field => exact .inl ⟨field, rfl, rfl⟩
      | ok length =>
        cases required mode .nullable d.nullable previous.nullable with
        | error field => exact .inl ⟨field, rfl, rfl⟩
        | ok nullable => exact .inr ⟨_, _, rfl, rfl, hrel, rfl⟩

end Draft

/-! ### One step -/

namespace Scanner
variable {s t : Scanner}

theorem Retyped.previous (h : s.Retyped R t) : s.previous.Retyped R t.previous := by
  refine forall₂_getLastD h.table.columns ⟨?_, rfl⟩
  exact h.kinds "" ""

theorem Retyped.currentName (h : s.Retyped R t) : t.currentName = s.currentName := by
  have hheading : t.draft.bind Draft.heading = s.draft.bind Draft.heading := by
    rw [← heading_getD, ← heading_getD, h.draft.same]
  have hprevious : t.previous.chineseName = s.previous.chineseName := by rw [h.previous.same]
  rw [Scanner.currentName, Scanner.currentName, h.mode, hheading, hprevious]

theorem Retyped.isDone (h : s.Retyped R t) : t.isDone = s.isDone := by
  rw [Scanner.isDone, Scanner.isDone, h.phase]

/-- What two scanners answer to a line: the same outcome, and the scanners and what they told their
builders are the same but for types. -/
structure SameFed (R : ColumnType → ColumnType → Prop) (fed fed' : Fed) (calls calls' : List Call) :
    Prop where
  outcome : fed'.outcome = fed.outcome
  scanner : fed.scanner.Retyped R fed'.scanner
  calls : List.Forall₂ (Call.Retyped R) calls calls'

/-- Two scanners whose drafts are changed in the same way, but for types. -/
theorem Retyped.sketch (h : s.Retyped R t) {change change' : Draft → Draft}
    (hchange : ∀ d d', d.Retyped R d' → (change d).Retyped R (change' d'))
    (events events' : List Event) :
    SameFed R (accepted (s.sketch change) events) (accepted (t.sketch change') events') [] [] :=
  ⟨congrArg Except.ok h.phase,
    ⟨h.mode, h.kinds, h.phase, h.table, hchange _ _ h.draft⟩, .nil⟩

/-- Two scanners do the same but for types with a directive. -/
theorem Retyped.obey (h : s.Retyped R t) (line : Line) (value : String) (k : Keyword) :
    SameFed R (s.obey line value k) (t.obey line value k) (s.tells value k) (t.tells value k) := by
  cases k with
  | tableName =>
    refine ⟨rfl, ⟨h.mode, h.kinds, rfl, ⟨h.table.columns, ?_⟩, h.draft⟩, .nil⟩
    simp only [Scanner.obey, setTableName, accepted]
    rw [h.table.same]
  | tableDescription =>
    have hname : t.table.structName = s.table.structName := by rw [h.table.same]
    refine ⟨congrArg Except.ok h.phase, ⟨h.mode, h.kinds, h.phase, ⟨h.table.columns, ?_⟩, h.draft⟩,
      .cons ?_ .nil⟩
    · simp only [Scanner.obey, setTableDescription, accepted]
      rw [h.table.same]
    · rw [hname]
      exact .opens
  | columnDescription =>
    exact ⟨rfl, ⟨h.mode, h.kinds, rfl, h.table, .none, rfl⟩, .nil⟩
  | type =>
    simp only [Scanner.obey, setType, h.currentName]
    refine h.sketch (fun d d' hd => ?_) _ _
    refine ⟨.some (h.kinds _ _), ?_⟩
    rw [hd.same]
  | length =>
    simp only [Scanner.obey, setLength]
    cases Length.parse? value with
    | none => exact ⟨rfl, h, .nil⟩
    | some length =>
      refine h.sketch (fun d d' hd => ?_) _ _
      refine ⟨hd.type, ?_⟩
      rw [hd.same]
  | nullable =>
    simp only [Scanner.obey, setNullable]
    refine h.sketch (fun d d' hd => ?_) _ _
    refine ⟨hd.type, ?_⟩
    rw [hd.same]
  | name =>
    simp only [Scanner.obey, closeColumn, tells, h.mode]
    rcases h.draft.complete h.previous s.settings.missingFields value with
      ⟨field, hc, hc'⟩ | ⟨c, c', hc, hc', hcolumn⟩
    · rw [hc, hc']
      exact ⟨rfl, ⟨h.mode, h.kinds, h.phase, h.table, .none, rfl⟩, .nil⟩
    · rw [hc, hc']
      refine ⟨congrArg Except.ok h.phase, ⟨h.mode, h.kinds, h.phase, ⟨?_, ?_⟩, .none, rfl⟩,
        .cons (.adds hcolumn) .nil⟩
      · exact List.rel_append h.table.columns (.cons hcolumn .nil)
      · simp only [accepted]
        rw [h.table.same]
  | primaryKeys =>
    refine ⟨rfl, ⟨h.mode, h.kinds, rfl, ⟨h.table.columns, ?_⟩, h.draft⟩, .nil⟩
    simp only [Scanner.obey, endTable, accepted]
    rw [h.table.same]

/-- Two scanners do the same but for types with a line. -/
theorem Retyped.feed (h : s.Retyped R t) (line : Line) :
    SameFed R (s.feed line) (t.feed line) (s.tellsAt line) (t.tellsAt line) := by
  cases hs : s.isDone with
  | true =>
    have ht := h.isDone.trans hs
    rw [feed_done hs, feed_done ht, tellsAt_done hs, tellsAt_done ht]
    exact ⟨congrArg Except.ok h.phase, h, .nil⟩
  | false =>
    have ht := h.isDone.trans hs
    rcases line.reads with ⟨cause, hu⟩ | hp | ⟨k, value, hv⟩
    · rw [feed_unreadable hs hu, feed_unreadable ht hu, tellsAt_unreadable hu,
        tellsAt_unreadable hu]
      exact ⟨rfl, h, .nil⟩
    · obtain ⟨hscanner, hout⟩ := feed_prose hs hp
      obtain ⟨hscanner', hout'⟩ := feed_prose ht hp
      rw [tellsAt_prose hp, tellsAt_prose hp]
      exact ⟨by rw [hout, hout', h.phase], by rw [hscanner, hscanner']; exact h, .nil⟩
    · obtain ⟨hscanner, hout⟩ := feed_directive hs hv
      obtain ⟨hscanner', hout'⟩ := feed_directive ht hv
      obtain ⟨houtcome, hretyped, hcalls⟩ := h.obey line value k
      rw [tellsAt_directive hs hv, tellsAt_directive ht hv]
      exact ⟨by rw [hout, hout', houtcome], by rw [hscanner, hscanner']; exact hretyped, hcalls⟩

/-! ### Runs -/

/-- Lines that pass in one scanner pass in the other, and leave the two the same but for types. -/
theorem Retyped.feedAll {lines : List Line} (h : s.Retyped R t) (hpass : s.PassesAll lines) :
    t.PassesAll lines ∧ (s.feedAll lines).Retyped R (t.feedAll lines) ∧
      List.Forall₂ (Call.Retyped R) (s.told lines) (t.told lines) := by
  induction lines generalizing s t with
  | nil => exact ⟨trivial, h, .nil⟩
  | cons line rest ih =>
    obtain ⟨⟨⟨phase, hok⟩, hdone⟩, hrest⟩ := hpass
    obtain ⟨hout, hscanner, hcalls⟩ := h.feed line
    obtain ⟨hpasses, hretyped, hmore⟩ := ih hscanner hrest
    exact ⟨⟨⟨⟨phase, by rw [hout, hok]⟩, by rw [hscanner.isDone, hdone]⟩, hpasses⟩, hretyped,
      List.rel_append hcalls hmore⟩

end Scanner

/-! ### Whole scans -/

/-- Two results are one error, or outputs that are related. -/
inductive Parallel (P : ScanOutput → ScanOutput → Prop) :
    Except ScanError ScanOutput → Except ScanError ScanOutput → Prop
  | error (e : ScanError) : Parallel P (.error e) (.error e)
  | ok {output output' : ScanOutput} : P output output' → Parallel P (.ok output) (.ok output')

theorem Parallel.imp {P Q : ScanOutput → ScanOutput → Prop}
    {result result' : Except ScanError ScanOutput} (hPQ : ∀ o o', P o o' → Q o o')
    (h : Parallel P result result') : Parallel Q result result' := by
  cases h with
  | error e => exact .error e
  | ok h => exact .ok (hPQ _ _ h)

theorem Parallel.eq {result result' : Except ScanError ScanOutput}
    (h : Parallel (fun o o' => o' = o) result result') : result' = result := by
  cases h with
  | error e => rfl
  | ok h => rw [h]

/-- The output of a scan whose builder has taken the calls: between two readings of the clock the
report shows the sections the calls fill, and the columns of the table are those of the calls. -/
structure ScanOutput.Shows (output : ScanOutput) (names : RenderSettings) (clock : Clock)
    (calls : List Call) : Prop where
  text : output.report.text = Report.layout clock.now clock.tick.now
    (Report.bodyFrom names calls output.table.primaryKeys)
  columnCount : output.report.columnCount = output.table.columns.length
  columns : output.table.columns = calls.filterMap Call.column?

/-- A report is told by the calls, and so is an output by the calls and its table. -/
theorem ScanOutput.Shows.unique {output output' : ScanOutput} {names : RenderSettings}
    {clock : Clock} {calls : List Call} (h : output.Shows names clock calls)
    (h' : output'.Shows names clock calls) (htable : output'.table = output.table) :
    output' = output := by
  have htext : output'.report.text = output.report.text := by rw [h'.text, h.text, htable]
  have hcount : output'.report.columnCount = output.report.columnCount := by
    rw [h'.columnCount, h.columnCount, htable]
  obtain ⟨table, text, columnCount⟩ := output
  obtain ⟨table', text', columnCount'⟩ := output'
  obtain rfl : table' = table := htable
  obtain rfl : text' = text := htext
  obtain rfl : columnCount' = columnCount := hcount
  rfl

section Scan
variable {settings : ScanSettings} {names : RenderSettings} {clock : Clock}

/-- A scan shows what it told its builder of before the table ended. -/
theorem shows_output {before : List Line} {value : String}
    (h : (Scanner.start settings names clock).PassesAll before) :
    ((Scanner.after settings names clock before).output value).Shows names clock
      ((Scanner.start settings names clock).told before) := by
  obtain ⟨hbuilder, hcolumns⟩ := Scanner.tells_feedAll (.start settings names clock) before
  have hclock : (Scanner.after settings names clock before).clock = clock.tick :=
    Scanner.clock_feedAll _ (h.keyword_ne rfl)
  have hreport : ((Scanner.after settings names clock before).output value).report =
      ⟨Report.layout clock.now clock.tick.now (Report.bodyFrom names
        ((Scanner.start settings names clock).told before) value),
        (((Scanner.start settings names clock).told before).filterMap Call.column?).length⟩ := by
    rw [← ReportBuilder.finish_takeAll]
    show ReportBuilder.finish _ value _ = _
    rw [hbuilder, hclock]
    rfl
  have hcolumns' := hcolumns.trans (List.nil_append _)
  exact ⟨congrArg Report.text hreport, (congrArg Report.columnCount hreport).trans
    (congrArg List.length hcolumns'.symm), hcolumns'⟩

end Scan

/-- Under settings that tell related types, and whatever names, two scans fail with one error, or
their tables and what they told their builders are the same but for types. -/
theorem scanSource_retyped (settings settings' : ScanSettings) (names names' : RenderSettings)
    (clock : Clock) (source : String) (hmode : settings'.missingFields = settings.missingFields)
    (hkinds : ∀ raw name, R (.classify raw name settings.floatKeywords)
      (.classify raw name settings'.floatKeywords)) :
    Parallel (fun output output' => ∃ calls calls', output.Shows names clock calls ∧
        output'.Shows names' clock calls' ∧ output.table.Retyped R output'.table ∧
        List.Forall₂ (Call.Retyped R) calls calls')
      (scanSource settings names clock source).result
      (scanSource settings' names' clock source).result := by
  have hstart : (Scanner.start settings names clock).Retyped R (.start settings' names' clock) :=
    ⟨hmode, hkinds, rfl, ⟨.nil, rfl⟩, .none, rfl⟩
  rcases scan_cases settings names clock source with
    hpass | ⟨before, line, rest, hlines, hpass, hstop⟩
  · obtain ⟨hpass', -⟩ := hstart.feedAll hpass
    rw [scanSource_passing hpass, scanSource_passing hpass']
    exact .error _
  · obtain ⟨hpass', hretyped, hcalls⟩ := hstart.feedAll hpass
    rcases hstop with ⟨e, he⟩ | ⟨value, hv⟩
    · have he' := (hretyped.feed line).outcome.trans he
      rw [scanSource_refused hlines hpass he, scanSource_refused hlines hpass' he']
      exact .error e
    · rw [scanSource_ended hlines hpass hv, scanSource_ended hlines hpass' hv]
      refine .ok ⟨_, _, shows_output hpass, shows_output hpass', ⟨hretyped.table.columns, ?_⟩,
        hcalls⟩
      simp only [Scanner.output]
      rw [hretyped.table.same]

/-! ### Equal types -/

theorem Column.Retyped.eq {c c' : Column} (h : c.Retyped Eq c') : c' = c := by
  rw [h.same, ← h.type]

theorem Table.Retyped.eq {t t' : Table} (h : t.Retyped Eq t') : t' = t := by
  have hcolumns := map_eq_of_forall₂ (f := id) (fun _ _ hc => Column.Retyped.eq hc) h.columns
  rw [List.map_id, List.map_id] at hcolumns
  rw [h.same, hcolumns]

theorem Call.Retyped.eq {call call' : Call} (h : call.Retyped Eq call') : call' = call := by
  cases h with
  | opens => rfl
  | adds hc => rw [hc.eq]

theorem calls_eq {calls calls' : List Call} (h : List.Forall₂ (Call.Retyped Eq) calls calls') :
    calls' = calls := by
  have hcalls := map_eq_of_forall₂ (f := id) (fun _ _ hcall => Call.Retyped.eq hcall) h
  rwa [List.map_id, List.map_id] at hcalls

/-! ### Types that widen -/

/-- A type stays as it is, or a whole number becomes a float. -/
inductive ColumnType.Widens : ColumnType → ColumnType → Prop
  | same (type : ColumnType) : Widens type type
  | float : Widens .int .float

theorem ColumnType.Widens.placeholder {type type' : ColumnType} (h : type.Widens type') :
    type'.placeholder = type.placeholder := by
  cases h <;> rfl

theorem ColumnType.Widens.antisymm {type type' : ColumnType} (h : type.Widens type')
    (h' : type'.Widens type) : type = type' := by
  cases h with
  | same => rfl
  | float => cases h'

/-- More keywords make more floats of whole numbers, and nothing else. -/
theorem ColumnType.widens_classify {keywords keywords' : List String}
    (h : ∀ k ∈ keywords, k ≠ "" → k ∈ keywords') (raw name : String) :
    Widens (classify raw name keywords) (classify raw name keywords') := by
  unfold classify
  split
  · exact .same _
  · by_cases hany : (keywords.any fun k => k ≠ "" && occurs k.toList name.toList) = true
    · obtain ⟨k, hk, hoccurs⟩ := List.any_eq_true.mp hany
      have hne : k ≠ "" := of_decide_eq_true (Bool.and_eq_true_iff.mp hoccurs).1
      rw [if_pos hany, if_pos (List.any_eq_true.mpr ⟨k, h k hk hne, hoccurs⟩)]
      exact .same _
    · rw [if_neg hany]
      split
      · exact .float
      · exact .same _

/-- Types tell on nothing but the fields of the struct. -/
theorem Report.bodyFrom_widens {calls calls' : List Call}
    (h : List.Forall₂ (Call.Retyped ColumnType.Widens) calls calls') (names : RenderSettings)
    (primaryKeys : String) {s : Section} (hs : s ∉ [Section.struct]) :
    bodyFrom names calls' primaryKeys s = bodyFrom names calls primaryKeys s := by
  have hcolumns : List.Forall₂ (Column.Retyped ColumnType.Widens) (calls.filterMap Call.column?)
      (calls'.filterMap Call.column?) := by
    refine List.rel_filterMap (fun call call' hcall => ?_) h
    cases hcall with
    | opens => exact .none
    | adds hc => exact .some hc
  have hdescriptions : List.Forall₂ Eq (calls.filterMap Call.description?)
      (calls'.filterMap Call.description?) := by
    refine List.rel_filterMap (fun call call' hcall => ?_) h
    cases hcall with
    | opens => exact .some rfl
    | adds _ => exact .none
  rw [List.forall₂_eq_eq_eq] at hdescriptions
  cases s with
  | tableName => rw [bodyFrom, bodyFrom, hdescriptions]
  | primaryKeys => rfl
  | struct => exact absurd (by decide) hs
  | json =>
    rw [bodyFrom, bodyFrom, members, members, map_eq_of_forall₂ (fun c c' hc => ?_) hcolumns]
    rw [Entry.member, Entry.member, hc.type.placeholder, hc.same]
  | validation =>
    rw [bodyFrom, bodyFrom, map_eq_of_forall₂ (fun c c' hc => ?_) hcolumns]
    rw [hc.same]
    rfl
  | assignment =>
    rw [bodyFrom, bodyFrom, map_eq_of_forall₂ (fun c c' hc => ?_) hcolumns]
    rw [hc.same]
    rfl
  | doc =>
    rw [bodyFrom, bodyFrom, map_eq_of_forall₂ (fun c c' hc => ?_) hcolumns]
    rw [hc.same]
    rfl

/-! ### What each of the settings has a say in -/

/-- Two outputs whose reports have their banners in common, and their sections but for some: each is
laid out as its scan has told its builder. -/
def ScanOutput.AgreeBut (differing : List Section) (clock : Clock) (names names' : RenderSettings)
    (output output' : ScanOutput) : Prop :=
  ∃ calls calls', output.Shows names clock calls ∧ output'.Shows names' clock calls' ∧
    ∀ s ∉ differing, Report.bodyFrom names' calls' output'.table.primaryKeys s =
      Report.bodyFrom names calls output.table.primaryKeys s

/-- **Settings have a say in their own outputs only.** Let a schema be scanned twice, in one mode
and by one clock. Under different names for generated code, both scans fail with one error, or they
come to one table, and their reports differ in checks and assignments at most. If every float
keyword of the first but the empty one is a keyword of the second, both fail with one error, or the
table of the second is that of the first with some whole numbers made floats, and the reports differ
in the fields of the struct at most. So with the same keywords, in whatever order and however often,
and with the empty one or without, the result is the same. -/
theorem scanSource_settings (mode : MissingFields) (clock : Clock) (source : String) :
    (∀ keywords names names',
      Parallel (fun output output' => output'.table = output.table ∧
          output.AgreeBut [.validation, .assignment] clock names names' output')
        (scanSource ⟨mode, keywords⟩ names clock source).result
        (scanSource ⟨mode, keywords⟩ names' clock source).result) ∧
    (∀ names keywords keywords', (∀ k ∈ keywords, k ≠ "" → k ∈ keywords') →
      Parallel (fun output output' => output.table.Retyped ColumnType.Widens output'.table ∧
          output.AgreeBut [.struct] clock names names output')
        (scanSource ⟨mode, keywords⟩ names clock source).result
        (scanSource ⟨mode, keywords'⟩ names clock source).result) ∧
    ∀ names keywords keywords', (∀ k ≠ "", k ∈ keywords ↔ k ∈ keywords') →
      (scanSource ⟨mode, keywords'⟩ names clock source).result =
        (scanSource ⟨mode, keywords⟩ names clock source).result := by
  refine ⟨fun keywords names names' => ?_, fun names keywords keywords' hkeywords => ?_,
    fun names keywords keywords' hkeywords => ?_⟩
  · have hretyped := scanSource_retyped (R := Eq) ⟨mode, keywords⟩ ⟨mode, keywords⟩ names names'
      clock source rfl fun _ _ => rfl
    refine hretyped.imp fun output output' h => ?_
    obtain ⟨calls, calls', hshows, hshows', htable, hcalls⟩ := h
    obtain rfl := calls_eq hcalls
    refine ⟨htable.eq, _, _, hshows, hshows', fun s hs => ?_⟩
    rw [htable.eq]
    exact Report.bodyFrom_names names names' _ _ hs
  · have hretyped := scanSource_retyped ⟨mode, keywords⟩ ⟨mode, keywords'⟩ names names clock source
      rfl (ColumnType.widens_classify hkeywords)
    refine hretyped.imp fun output output' h => ?_
    obtain ⟨calls, calls', hshows, hshows', htable, hcalls⟩ := h
    have hkeys : output'.table.primaryKeys = output.table.primaryKeys := by rw [htable.same]
    refine ⟨htable, _, _, hshows, hshows', fun s hs => ?_⟩
    rw [hkeys]
    exact Report.bodyFrom_widens hcalls names _ hs
  · have hkinds : ∀ raw name, ColumnType.classify raw name keywords =
        .classify raw name keywords' := fun raw name =>
      (ColumnType.widens_classify (fun k hk hne => (hkeywords k hne).mp hk) raw name).antisymm
        (ColumnType.widens_classify (fun k hk hne => (hkeywords k hne).mpr hk) raw name)
    have hretyped := scanSource_retyped (R := Eq) ⟨mode, keywords⟩ ⟨mode, keywords'⟩ names names
      clock source rfl hkinds
    refine (hretyped.imp fun output output' h => ?_).eq
    obtain ⟨calls, calls', hshows, hshows', htable, hcalls⟩ := h
    obtain rfl := calls_eq hcalls
    exact hshows.unique hshows' htable.eq

/-- A price that is a number, and a remark that is none. -/
def pricedSchema : String :=
  "table-name:t_order\n-description:价格\ntype:number\nlength:10\nnullable:no\nname:price\n" ++
    "-description:备注\ntype:varchar\nlength:64\nnullable:yes\nname:memo\nprimary-keys:price"

/-- Without keywords the price is a whole number, with one of them it is a float, and it does not
matter how the keywords are listed. -/
theorem scanSource_settings_priced : ∃ output output',
    (scanSource ⟨.error, [""]⟩ {} (.ofList ⟨2024, 5, 6, 7, 8, 9⟩ []) pricedSchema).result =
      .ok output ∧
    (scanSource ⟨.error, ["额", "价"]⟩ {} (.ofList ⟨2024, 5, 6, 7, 8, 9⟩ []) pricedSchema).result =
      .ok output' ∧
    output.table.columns.map Column.columnType = [.int, .string] ∧
    output'.table.columns.map Column.columnType = [.float, .string] ∧
    output.AgreeBut [.struct] (.ofList ⟨2024, 5, 6, 7, 8, 9⟩ []) {} {} output' ∧
    (scanSource ⟨.error, ["价", "", "额", "价"]⟩ {} (.ofList ⟨2024, 5, 6, 7, 8, 9⟩ [])
      pricedSchema).result = .ok output' := by
  obtain ⟨-, hkeywords, hcongr⟩ :=
    scanSource_settings .error (.ofList ⟨2024, 5, 6, 7, 8, 9⟩ []) pricedSchema
  have hwhole : (scanSource ⟨.error, [""]⟩ {} (.ofList ⟨2024, 5, 6, 7, 8, 9⟩ [])
      pricedSchema).result.toOption.any
        (fun output => output.table.columns.map Column.columnType == [.int, .string]) = true := by
    decide +kernel
  have hfloat : (scanSource ⟨.error, ["额", "价"]⟩ {} (.ofList ⟨2024, 5, 6, 7, 8, 9⟩ [])
      pricedSchema).result.toOption.any
        (fun output => output.table.columns.map Column.columnType == [.float, .string]) = true := by
    decide +kernel
  obtain ⟨output, h, htypes⟩ := exists_ok_of_any hwhole
  obtain ⟨output', h', htypes'⟩ := exists_ok_of_any hfloat
  have hparallel := hkeywords {} [""] ["额", "价"] (by decide)
  rw [h, h'] at hparallel
  cases hparallel with
  | ok hagree =>
    refine ⟨output, output', h, h', eq_of_beq htypes, eq_of_beq htypes', hagree.2, ?_⟩
    rw [← h']
    exact hcongr {} ["额", "价"] ["价", "", "额", "价"] (fun k hk => by simp [hk, or_comm])

end SchemaReport
