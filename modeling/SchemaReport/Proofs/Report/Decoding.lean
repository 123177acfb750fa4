import Mathlib.Data.List.Forall2
import SchemaReport.Proofs.Report.Calls
import SchemaReport.Proofs.Scan.Clean
import SchemaReport.Proofs.Scan.Ending

/-! Reading a report back.

A report escapes nothing, but what it shows of a schema is clean. So the lines of the first
three sections, which all begin with a tab, can be told apart (`tabbed_unique`). The fields of
the struct tell the names and the kinds of the columns (`fieldLine_unique`); these settle how
long the JSON block is and how each validation call begins, and the call tells the rest of its
column (`check_unique`). Of two builders that were told clean things only, the finished reports
therefore differ where the descriptions, the keys or the columns do (`finish_unique`), and a
scanner tells its builder nothing else (`records_after`). -/
namespace SchemaReport
open Text Schema

/-! ### Marks and lines -/

namespace Text

/-- A mark that neither text holds ends them both. -/
theorem cut_unique {mark : Char} {text other rest rest' : List Char} (ht : mark ∉ text)
    (ho : mark ∉ other) (h : text ++ mark :: rest = other ++ mark :: rest') :
    text = other ∧ rest = rest' := by
  have hcut : splitOnce mark (text ++ mark :: rest) = some (text, rest) :=
    splitOnce_eq_some_iff.mpr ⟨rfl, ht⟩
  have hcut' : splitOnce mark (text ++ mark :: rest) = some (other, rest') :=
    splitOnce_eq_some_iff.mpr ⟨h, ho⟩
  exact Prod.mk.inj (Option.some.inj (hcut.symm.trans hcut'))

/-- Lines that begin with a tab. -/
def tabbed (lines : List (List Char)) : List Char :=
  lines.flatMap fun line => '\t' :: (line ++ ['\n'])

theorem tabbed_cons (line : List Char) (lines : List (List Char)) (rest : List Char) :
    tabbed (line :: lines) ++ rest = '\t' :: (line ++ '\n' :: (tabbed lines ++ rest)) := by
  simp [tabbed]

/-- Tabbed lines are told apart, up to the first line that is not tabbed. -/
theorem tabbed_unique {lines others : List (List Char)} {rest rest' : List Char}
    (hlines : ∀ line ∈ lines, '\n' ∉ line) (hothers : ∀ line ∈ others, '\n' ∉ line)
    (hrest : rest.head? ≠ some '\t') (hrest' : rest'.head? ≠ some '\t')
    (h : tabbed lines ++ rest = tabbed others ++ rest') : lines = others ∧ rest = rest' := by
  induction lines generalizing others with
  | nil =>
    cases others with
    | nil => exact ⟨rfl, h⟩
    | cons other others =>
      rw [tabbed_cons] at h
      exact absurd (congrArg List.head? h) hrest
  | cons line lines ih =>
    cases others with
    | nil =>
      rw [tabbed_cons] at h
      exact absurd (congrArg List.head? h).symm hrest'
    | cons other others =>
      rw [tabbed_cons, tabbed_cons] at h
      obtain ⟨hline, hmore⟩ := cut_unique (hlines line List.mem_cons_self)
        (hothers other List.mem_cons_self) (List.cons.inj h).2
      obtain ⟨hmore, hrests⟩ := ih (fun l hl => hlines l (List.mem_cons_of_mem line hl))
        (fun l hl => hothers l (List.mem_cons_of_mem other hl)) hmore
      exact ⟨by rw [hline, hmore], hrests⟩

theorem Clean.newline_not_mem {text : String} (h : Clean text) : '\n' ∉ text.toList :=
  h.not_mem (by decide)

theorem Clean.tab_not_mem {text : String} (h : Clean text) : '\t' ∉ text.toList :=
  h.not_mem (by decide)

end Text

theorem Timestamp.newline_not_mem_digits (width n : Nat) : '\n' ∉ (digits width n).toList := by
  rw [digits, String.toList_append, String.toList_ofList, List.mem_append]
  rintro (h | h)
  · exact absurd (List.eq_of_mem_replicate h) (by decide)
  · rw [show toString n = n.repr from rfl, Nat.toList_repr] at h
    exact absurd (Nat.isDigit_of_mem_toDigits (by decide) (by decide) h) (by decide)

theorem Timestamp.newline_not_mem_text (time : Timestamp) : '\n' ∉ time.text.toList := by
  have hyear : '\n' ∉ (yearText time.year).toList := by
    unfold yearText
    split_ifs <;> simp [newline_not_mem_digits]
  simp [text, newline_not_mem_digits, hyear]

/-! ### Fields of the struct -/

/-- The line of a column in the struct, without its first tab. -/
def Column.fieldLine (c : Column) : List Char :=
  '\t' :: (c.structName.toList ++ '\t' :: (c.columnType.goType.toList ++ '\t' ::
    ("\x60json:\"".toList ++ c.jsonName.toList ++ "\"\x60".toList ++ '\t' ::
      ("//".toList ++ c.chineseName.toList))))

/-- Two columns with the same names and of one kind. -/
structure Column.Alike (c d : Column) : Prop where
  structName : c.structName = d.structName
  columnType : c.columnType = d.columnType
  jsonName : c.jsonName = d.jsonName
  chineseName : c.chineseName = d.chineseName

theorem ColumnType.goType_injective {k l : ColumnType} (h : k.goType = l.goType) : k = l := by
  revert h
  cases k <;> cases l <;> decide

theorem ColumnType.clean_goType (k : ColumnType) : Clean k.goType := by
  cases k <;> decide

namespace Column

/-- A field tells the names and the kind of its column. -/
theorem fieldLine_unique {c d : Column} (hc : c.Clean) (hd : d.Clean)
    (h : c.fieldLine = d.fieldLine) : c.Alike d := by
  have hkey : ∀ {e : Column}, e.Clean →
      '\t' ∉ "\x60json:\"".toList ++ e.jsonName.toList ++ "\"\x60".toList := by
    intro e he
    simp [he.jsonName.tab_not_mem]
  obtain ⟨hstruct, h⟩ := cut_unique hc.structName.tab_not_mem hd.structName.tab_not_mem
    (List.cons.inj h).2
  obtain ⟨htype, h⟩ :=
    cut_unique c.columnType.clean_goType.tab_not_mem d.columnType.clean_goType.tab_not_mem h
  obtain ⟨hjson, h⟩ := cut_unique (hkey hc) (hkey hd) h
  rw [List.append_assoc, List.append_assoc] at hjson
  exact
    { structName := String.toList_inj.mp hstruct
      columnType := ColumnType.goType_injective (String.toList_inj.mp htype)
      jsonName := String.toList_inj.mp (List.append_cancel_right (List.append_cancel_left hjson))
      chineseName := String.toList_inj.mp (List.append_cancel_left h) }

theorem newline_not_mem_fieldLine {c : Column} (hc : c.Clean) : '\n' ∉ c.fieldLine := by
  simp [fieldLine, hc.structName.newline_not_mem, hc.jsonName.newline_not_mem,
    hc.chineseName.newline_not_mem, c.columnType.clean_goType.newline_not_mem]

/-- The same fields list columns that are alike, one by one. -/
theorem alike_of_fieldLines {columns others : List Column} (hc : ∀ c ∈ columns, c.Clean)
    (ho : ∀ c ∈ others, c.Clean) (h : columns.map fieldLine = others.map fieldLine) :
    List.Forall₂ Alike columns others := by
  induction columns generalizing others with
  | nil =>
    rw [List.map_nil, eq_comm, List.map_eq_nil_iff] at h
    rw [h]
    exact .nil
  | cons c rest ih =>
    cases others with
    | nil => cases h
    | cons d more =>
      rw [List.map_cons, List.map_cons, List.cons.injEq] at h
      obtain ⟨hcd, hmore⟩ := h
      refine .cons (fieldLine_unique (hc c List.mem_cons_self) (ho d List.mem_cons_self) hcd) ?_
      exact ih (fun e he => hc e (List.mem_cons_of_mem c he))
        (fun e he => ho e (List.mem_cons_of_mem d he)) hmore

/-- Columns that are alike have the same members in the JSON block. -/
theorem members_of_alike {columns others : List Column} (h : List.Forall₂ Alike columns others) :
    Report.members columns = Report.members others := by
  have hmap : columns.map Entry.member = others.map Entry.member := by
    induction h with
    | nil => rfl
    | cons hcd _ ih =>
      rw [List.map_cons, List.map_cons, ih, Entry.member, Entry.member, hcd.jsonName,
        hcd.columnType]
  rw [Report.members, hmap, Report.members]

end Column

/-! ### Validation calls -/

namespace Entry

/-- A validation call up to the length of its column. -/
def checkHead (names : RenderSettings) (c : Column) : String :=
  "\t" ++ names.checkCall ++ "(" ++ names.checkReceiver ++ "." ++ c.structName ++ ", \"" ++
    c.chineseName ++ "\", "

theorem toList_check (names : RenderSettings) (c : Column) (rest : List Char) :
    (check names c).toList ++ rest = (checkHead names c).toList ++
      (c.length.text.toList ++ ',' :: ' ' :: ((truth c.fixedLength).toList ++ ',' :: ' ' ::
        ((truth c.nullable).toList ++ ')' :: '\n' :: rest))) := by
  unfold check checkHead
  simp

theorem checkHead_of_alike (names : RenderSettings) {c d : Column} (h : c.Alike d) :
    checkHead names c = checkHead names d := by
  unfold checkHead
  rw [h.structName, h.chineseName]

theorem truth_injective {a b : Bool} (h : truth a = truth b) : a = b := by
  revert h
  cases a <;> cases b <;> decide

theorem not_mem_truth (b : Bool) : ',' ∉ (truth b).toList ∧ ')' ∉ (truth b).toList := by
  cases b <;> decide

theorem comma_not_mem_digits {text : String} (h : Length.isDigits text = true) :
    ',' ∉ text.toList := by
  rw [Length.isDigits, Bool.and_eq_true, List.all_eq_true] at h
  exact fun hc => absurd (h.2 ',' hc) (by decide)

/-- A call tells what the field has not told of its column. -/
theorem check_unique (names : RenderSettings) {c d : Column} (hcd : c.Alike d) (hc : c.Clean)
    (hd : d.Clean) {rest rest' : List Char}
    (h : (check names c).toList ++ rest = (check names d).toList ++ rest') :
    c = d ∧ rest = rest' := by
  rw [toList_check, toList_check, checkHead_of_alike names hcd] at h
  obtain ⟨hlength, h⟩ := cut_unique (comma_not_mem_digits hc.length)
    (comma_not_mem_digits hd.length) (List.append_cancel_left h)
  obtain ⟨hfixed, h⟩ := cut_unique (not_mem_truth _).1 (not_mem_truth _).1 (List.cons.inj h).2
  obtain ⟨hnullable, h⟩ := cut_unique (not_mem_truth _).2 (not_mem_truth _).2 (List.cons.inj h).2
  obtain ⟨hstruct, htype, hjson, hchinese⟩ := hcd
  refine ⟨?_, (List.cons.inj h).2⟩
  have hlength' : c.length = d.length := congrArg Length.mk (String.toList_inj.mp hlength)
  have hfixed' := truth_injective (String.toList_inj.mp hfixed)
  have hnullable' := truth_injective (String.toList_inj.mp hnullable)
  cases c
  cases d
  simp_all

/-- The calls tell the columns, when the fields have been read. -/
theorem checks_unique (names : RenderSettings) {columns others : List Column}
    (hcd : List.Forall₂ Column.Alike columns others) (hc : ∀ c ∈ columns, c.Clean)
    (ho : ∀ c ∈ others, c.Clean) {rest rest' : List Char}
    (h : (String.join (columns.map (check names))).toList ++ rest =
      (String.join (others.map (check names))).toList ++ rest') : columns = others := by
  induction hcd with
  | nil => rfl
  | cons hhead htail ih =>
    next c d columns others =>
    simp only [List.map_cons, String.join_cons, String.toList_append, List.append_assoc] at h
    obtain ⟨rfl, hmore⟩ := check_unique names hhead (hc c List.mem_cons_self)
      (ho d List.mem_cons_self) h
    rw [ih (fun e he => hc e (List.mem_cons_of_mem c he))
      (fun e he => ho e (List.mem_cons_of_mem c he)) hmore]

end Entry

/-! ### What a builder was told -/

namespace Call

/-- The lines a call adds to the struct, without their first tabs. -/
def structLines : Call → List (List Char)
  | opens description structName =>
    ["//".toList ++ description.toList,
      "type ".toList ++ structName.toList ++ " struct \x7b".toList]
  | adds column => [column.fieldLine]

/-- A call with clean texts. -/
def Clean : Call → Prop
  | opens description structName => Text.Clean description ∧ Text.Clean structName
  | adds column => column.Clean

theorem toList_structText (call : Call) : call.structText.toList = tabbed call.structLines := by
  cases call with
  | opens description structName => simp [structText, Entry.structHead, structLines, tabbed]
  | adds column => simp [structText, Entry.field, structLines, Column.fieldLine, tabbed]

theorem newline_not_mem_structLines {call : Call} (h : call.Clean) :
    ∀ line ∈ call.structLines, '\n' ∉ line := by
  cases call with
  | opens description structName =>
    simp [structLines, h.1.newline_not_mem, h.2.newline_not_mem]
  | adds column => simpa [structLines] using Column.newline_not_mem_fieldLine h

/-- The fields are the lines of the struct that are tabbed twice. -/
theorem fields_structLines (calls : List Call) :
    (calls.flatMap structLines).filter (fun line => line.head? == some '\t') =
      (calls.filterMap column?).map Column.fieldLine := by
  induction calls with
  | nil => rfl
  | cons call rest ih =>
    rw [List.flatMap_cons, List.filter_append, ih]
    cases call with
    | opens description structName => simp [structLines]
    | adds column => simp [structLines, Column.fieldLine]

theorem clean_columns {calls : List Call} (h : ∀ call ∈ calls, call.Clean) :
    ∀ c ∈ calls.filterMap column?, c.Clean := by
  intro c hc
  obtain ⟨call, hcall, hcolumn⟩ := List.mem_filterMap.mp hc
  cases call with
  | opens description structName => cases hcolumn
  | adds column => exact Option.some.inj hcolumn ▸ h _ hcall

theorem clean_descriptions {calls : List Call} (h : ∀ call ∈ calls, call.Clean) :
    ∀ description ∈ calls.filterMap description?, Text.Clean description := by
  intro d hd
  obtain ⟨call, hcall, hdescription⟩ := List.mem_filterMap.mp hd
  cases call with
  | opens description structName => exact Option.some.inj hdescription ▸ (h _ hcall).1
  | adds column => cases hdescription

theorem newline_not_mem_descriptions {calls : List Call} (h : ∀ call ∈ calls, call.Clean) :
    ∀ line ∈ (calls.filterMap description?).map String.toList, '\n' ∉ line := by
  rw [List.forall_mem_map]
  exact fun d hd => (clean_descriptions h d hd).newline_not_mem

/-- The lines of the struct section, the brace that closes it included. -/
def structBlock (calls : List Call) : List (List Char) :=
  calls.flatMap structLines ++ ["\x7d".toList]

theorem newline_not_mem_structBlock {calls : List Call} (h : ∀ call ∈ calls, call.Clean) :
    ∀ line ∈ structBlock calls, '\n' ∉ line := by
  rw [structBlock, List.forall_mem_append, List.forall_mem_flatMap]
  exact ⟨fun call hcall => newline_not_mem_structLines (h call hcall), by decide⟩

/-- The struct section tells the names and the kinds of the columns. -/
theorem alike_of_structBlock {calls calls' : List Call} (h : ∀ call ∈ calls, call.Clean)
    (h' : ∀ call ∈ calls', call.Clean) (hblock : structBlock calls = structBlock calls') :
    List.Forall₂ Column.Alike (calls.filterMap column?) (calls'.filterMap column?) := by
  have hlines : calls.flatMap structLines = calls'.flatMap structLines :=
    List.append_cancel_right hblock
  refine Column.alike_of_fieldLines (clean_columns h) (clean_columns h') ?_
  rw [← fields_structLines, hlines, fields_structLines]

end Call

/-! ### Finished reports -/

namespace Report

theorem toList_sectionText (s : Section) (body : String) : (sectionText s body).toList =
    '\n' :: (s.header.toList ++ '\n' :: body.toList) := by
  simp [sectionText]

/-- The line at the start of a report. -/
def startLine (time : Timestamp) : List Char :=
  "--------------------------------生成时间：".toList ++
    (time.text.toList ++ "--------------------------------".toList)

theorem toList_startBanner (time : Timestamp) (rest : List Char) :
    (startBanner time).toList ++ rest = '\n' :: (startLine time ++ '\n' :: rest) := by
  unfold startBanner startLine
  rw [String.toList_append, String.toList_append]
  simp

theorem newline_not_mem_startLine (time : Timestamp) : '\n' ∉ startLine time := by
  unfold startLine
  simp [time.newline_not_mem_text]

/-- Whenever a report starts, what follows can be told. -/
theorem startBanner_unique {time time' : Timestamp} {rest rest' : List Char}
    (h : (startBanner time).toList ++ rest = (startBanner time').toList ++ rest') :
    rest = rest' := by
  rw [toList_startBanner, toList_startBanner] at h
  exact (cut_unique (newline_not_mem_startLine time) (newline_not_mem_startLine time')
    (List.cons.inj h).2).2

/-- A section of tabbed lines, followed by another section. -/
theorem sectionText_unique {s next : Section} {body body' : String}
    {lines others : List (List Char)} {following following' : String} {rest rest' : List Char}
    (hbody : body.toList = tabbed lines) (hbody' : body'.toList = tabbed others)
    (hlines : ∀ line ∈ lines, '\n' ∉ line) (hothers : ∀ line ∈ others, '\n' ∉ line)
    (h : (sectionText s body).toList ++ ((sectionText next following).toList ++ rest) =
      (sectionText s body').toList ++ ((sectionText next following').toList ++ rest')) :
    lines = others ∧ (sectionText next following).toList ++ rest =
      (sectionText next following').toList ++ rest' := by
  have hfollows : ∀ (text : String) (more : List Char),
      ((sectionText next text).toList ++ more).head? ≠ some '\t' := by
    intro text more
    rw [toList_sectionText]
    exact fun hhead => absurd (Option.some.inj hhead) (by decide)
  rw [toList_sectionText s, toList_sectionText s, hbody, hbody', List.cons_append,
    List.cons_append, List.append_assoc, List.append_assoc] at h
  have hlists := (List.cons.inj (List.append_cancel_left (List.cons.inj h).2)).2
  exact tabbed_unique hlines hothers (hfollows _ _) (hfollows _ _) hlists

end Report

namespace ReportBuilder

variable {names : RenderSettings} {startedAt finishedAt startedAt' finishedAt' : Timestamp}
variable {calls calls' : List Call} {keys keys' : String}

theorem lists_told (names : RenderSettings) (startedAt : Timestamp) (calls : List Call) :
    ((start names startedAt).takeAll calls).Lists (calls.filterMap Call.column?) :=
  lists_takeAll (lists_start names startedAt) calls

/-- The sections of a finished report up to the validation calls. -/
theorem toList_finish (names : RenderSettings) (startedAt finishedAt : Timestamp)
    (calls : List Call) (keys : String) :
    ∃ rest, (((start names startedAt).takeAll calls).finish keys finishedAt).text.toList =
      (Report.startBanner startedAt).toList ++
      ((Report.sectionText .tableName ((start names startedAt).takeAll calls).tableNames).toList ++
      ((Report.sectionText .primaryKeys (Report.keysBody keys)).toList ++
      ((Report.sectionText .struct
        (Report.structBody ((start names startedAt).takeAll calls).structs)).toList ++
      ((Report.sectionText .json
        (Report.jsonBody (Report.members (calls.filterMap Call.column?)))).toList ++
      ((Report.sectionText .validation
        (String.join ((calls.filterMap Call.column?).map (Entry.check names)))).toList ++
      rest))))) := by
  have hlists := lists_told names startedAt calls
  have hnames : ((start names startedAt).takeAll calls).names = names := names_takeAll _ _
  have hstarted : ((start names startedAt).takeAll calls).startedAt = startedAt :=
    startedAt_takeAll _ _
  have hjson := hlists.json
  have hchecks := hlists.checks
  rw [hnames] at hchecks
  rw [← hjson, ← hchecks]
  generalize (start names startedAt).takeAll calls = b at hstarted ⊢
  subst hstarted
  refine ⟨(Report.sectionText .assignment b.assignments).toList ++
    ((Report.sectionText .doc b.docs).toList ++ (Report.endBanner finishedAt).toList), ?_⟩
  simp only [finish, Section.all, List.map_cons, List.map_nil, String.join_cons, String.join_nil,
    String.toList_append, List.append_assoc, closedBody, body]
  simp

theorem tableNames_tabbed (calls : List Call) :
    ((start names startedAt).takeAll calls).tableNames.toList =
      tabbed ((calls.filterMap Call.description?).map String.toList) := by
  rw [tableNames_takeAll]
  simp [start, String.toList_join, tabbed, List.flatMap_map, Entry.tableName]

theorem keysBody_tabbed (keys : String) : (Report.keysBody keys).toList = tabbed [keys.toList] := by
  simp [Report.keysBody, tabbed]

theorem structBody_tabbed (calls : List Call) :
    (Report.structBody ((start names startedAt).takeAll calls).structs).toList =
      tabbed (Call.structBlock calls) := by
  rw [structs_takeAll]
  simp [Report.structBody, start, String.toList_join, tabbed, List.flatMap_map,
    Call.toList_structText, Call.structBlock, List.flatMap_assoc]

/-- Builders that were told clean things, and finish with the same text, were told of the same
columns and gave the same descriptions. -/
theorem finish_unique (hcalls : ∀ call ∈ calls, call.Clean) (hcalls' : ∀ call ∈ calls', call.Clean)
    (hkeys : Clean keys) (hkeys' : Clean keys')
    (h : (((start names startedAt).takeAll calls).finish keys finishedAt).text =
      (((start names startedAt').takeAll calls').finish keys' finishedAt').text) :
    calls.filterMap Call.description? = calls'.filterMap Call.description? ∧ keys = keys' ∧
      calls.filterMap Call.column? = calls'.filterMap Call.column? := by
  have hkeysLine : ∀ {text : String}, Clean text → ∀ line ∈ [text.toList], '\n' ∉ line := by
    intro text htext
    simp [htext.newline_not_mem]
  obtain ⟨rest, htext⟩ := toList_finish names startedAt finishedAt calls keys
  obtain ⟨rest', htext'⟩ := toList_finish names startedAt' finishedAt' calls' keys'
  rw [h, htext'] at htext
  -- every section starts where the one before has been read to its end
  have hsections := Report.startBanner_unique htext.symm
  obtain ⟨hdescriptions, hsections⟩ := Report.sectionText_unique (tableNames_tabbed calls)
    (tableNames_tabbed calls') (Call.newline_not_mem_descriptions hcalls)
    (Call.newline_not_mem_descriptions hcalls') hsections
  obtain ⟨hkey, hsections⟩ := Report.sectionText_unique (keysBody_tabbed keys)
    (keysBody_tabbed keys') (hkeysLine hkeys) (hkeysLine hkeys') hsections
  obtain ⟨hstruct, hsections⟩ := Report.sectionText_unique (structBody_tabbed calls)
    (structBody_tabbed calls') (Call.newline_not_mem_structBlock hcalls)
    (Call.newline_not_mem_structBlock hcalls') hsections
  have halike := Call.alike_of_structBlock hcalls hcalls' hstruct
  rw [Column.members_of_alike halike] at hsections
  have hchecks := List.append_cancel_left hsections
  rw [Report.toList_sectionText, Report.toList_sectionText, List.cons_append, List.cons_append,
    List.append_assoc, List.append_assoc] at hchecks
  refine ⟨?_, String.toList_inj.mp (List.cons.inj hkey).1, ?_⟩
  · exact List.map_injective_iff.mpr (fun _ _ => String.toList_inj.mp) hdescriptions
  · exact Entry.checks_unique names halike (Call.clean_columns hcalls) (Call.clean_columns hcalls')
      (List.cons.inj (List.append_cancel_left (List.cons.inj hchecks).2)).2

end ReportBuilder

/-! ### Scans -/

namespace Scanner

/-- What the scanner has told its builder. Its table says nothing else of the columns, and
nothing but the last of the descriptions. -/
structure Records (s : Scanner) (names : RenderSettings) (startedAt : Timestamp)
    (calls : List Call) : Prop where
  builder : s.builder = (ReportBuilder.start names startedAt).takeAll calls
  clean : ∀ call ∈ calls, call.Clean
  columns : s.table.columns = calls.filterMap Call.column?
  description : s.table.description = (calls.filterMap Call.description?).getLastD ""

variable {s : Scanner} {names : RenderSettings} {startedAt : Timestamp}

theorem Becomes.records {t : Scanner} {value : String} {k : Keyword} (h : s.Becomes value k t)
    (hs : s.Clean) (hvalue : Text.Clean value) {calls : List Call}
    (hr : s.Records names startedAt calls) : ∃ told, t.Records names startedAt told := by
  have hmore : ∀ call : Call, call.Clean → ∀ told ∈ calls ++ [call], told.Clean := by
    intro call hcall
    rw [List.forall_mem_append]
    exact ⟨hr.clean, by simpa using hcall⟩
  cases h with
  | drafting | naming | ending => exact ⟨calls, hr.builder, hr.clean, hr.columns, hr.description⟩
  | describing =>
    refine ⟨calls ++ [.opens value s.table.structName], ?_,
      hmore (.opens value s.table.structName) ⟨hvalue, hs.table.structName⟩, ?_, ?_⟩
    · rw [ReportBuilder.takeAll_append, ← hr.builder]
      rfl
    · rw [List.filterMap_append, ← hr.columns]
      exact (List.append_nil _).symm
    · rw [List.filterMap_append]
      exact (List.getLastD_concat ..).symm
  | adding hcolumn =>
    next column =>
    refine ⟨calls ++ [.adds column], ?_,
      hmore (.adds column) (hs.draft.complete hs.previous hvalue hcolumn), ?_, ?_⟩
    · rw [ReportBuilder.takeAll_append, ← hr.builder]
      rfl
    · rw [List.filterMap_append, ← hr.columns]
      rfl
    · rw [List.filterMap_append]
      exact hr.description.trans (by simp [Call.description?])

/-- Whatever lines it is fed, a scanner tells its builder clean things. -/
theorem records_after (settings : ScanSettings) (names : RenderSettings) (clock : Clock)
    (lines : List Line) :
    ∃ calls, (after settings names clock lines).Records names clock.now calls :=
  (feedAll_invariant (fun t => t.Clean ∧ ∃ calls, t.Records names clock.now calls)
    (fun t line value k ht _ hv => ⟨clean_obey ht.1 hv,
      (becomes_obey t line value k).records ht.1 hv.clean ht.2.choose_spec⟩)
    ⟨clean_start settings names clock, [], rfl, nofun, rfl, rfl⟩ lines).2

end Scanner

section Scan
variable {settings settings' : ScanSettings} {names : RenderSettings} {clock clock' : Clock}
variable {source source' : String} {output output' : ScanOutput}

/-- **Equal reports are reports on the same columns**, of tables with the same description and
the same primary keys, whatever was scanned, with whatever settings and whenever. Only the
names of the calls have to be the same. -/
theorem scanSource_columns_of_report
    (h : (scanSource settings names clock source).result = .ok output)
    (h' : (scanSource settings' names clock' source').result = .ok output')
    (htext : output.report.text = output'.report.text) :
    output.table.columns = output'.table.columns ∧
      output.table.description = output'.table.description ∧
      output.table.primaryKeys = output'.table.primaryKeys := by
  obtain ⟨lines, last, rest, value, -, -, hv, rfl⟩ := scanSource_eq_ok_iff.mp h
  obtain ⟨lines', last', rest', value', -, -, hv', rfl⟩ := scanSource_eq_ok_iff.mp h'
  obtain ⟨calls, hcalls⟩ := Scanner.records_after settings names clock lines
  obtain ⟨calls', hcalls'⟩ := Scanner.records_after settings' names clock' lines'
  have hreports : (((ReportBuilder.start names clock.now).takeAll calls).finish value
        (Scanner.after settings names clock lines).clock.now).text =
      (((ReportBuilder.start names clock'.now).takeAll calls').finish value'
        (Scanner.after settings' names clock' lines').clock.now).text := by
    rw [← hcalls.builder, ← hcalls'.builder]
    exact htext
  obtain ⟨hdescriptions, hkeys, hcolumns⟩ :=
    ReportBuilder.finish_unique hcalls.clean hcalls'.clean hv.clean hv'.clean hreports
  refine ⟨?_, ?_, hkeys⟩
  · exact hcalls.columns.trans (hcolumns.trans hcalls'.columns.symm)
  · exact hcalls.description.trans (hdescriptions ▸ hcalls'.description.symm)

end Scan

/-- An order with an amount. -/
def amountSchema : String :=
  "table-name:t_order\ndescripion:订单\n-description:金额\ntype:number\nlength:10\n" ++
    "nullable:no\nname:amount\nprimary-keys:amount\n"

/-- The same in other words: the table is spelled differently, the directives stand in another
order, and there is more than has to be. -/
def amountSchemaAgain : String :=
  "# orders\ntable-name:t__order\ndescripion:订单,2024\n-description:金额\nlength:10\n" ++
    "type:NUMBER\nnullable:No\nname:_amount\nprimary-keys:amount\nname:after\n"

/-- The tables may differ in what they are called in the schema, which no report shows. -/
theorem scanSource_columns_of_report_amount : ∃ output output',
    (scanSource {} {} (.ofList ⟨2024, 5, 6, 7, 8, 9⟩ []) amountSchema).result = .ok output ∧
    (scanSource { missingFields := .inherit } {} (.ofList ⟨2024, 5, 6, 7, 8, 9⟩ [])
      amountSchemaAgain).result = .ok output' ∧
    output.report.text = output'.report.text ∧
    output.table.sourceName ≠ output'.table.sourceName ∧
    output.table.columns = output'.table.columns ∧
    output.table.description = output'.table.description ∧
    output.table.primaryKeys = output'.table.primaryKeys := by
  have hany : (scanSource {} {} (.ofList ⟨2024, 5, 6, 7, 8, 9⟩ []) amountSchema).result.toOption.any
      (fun output => (scanSource { missingFields := .inherit } {}
        (.ofList ⟨2024, 5, 6, 7, 8, 9⟩ []) amountSchemaAgain).result.toOption.any fun output' =>
          output.report.text == output'.report.text &&
            output.table.sourceName != output'.table.sourceName) = true := by
    decide +kernel
  obtain ⟨output, h, hany⟩ := exists_ok_of_any hany
  obtain ⟨output', h', hboth⟩ := exists_ok_of_any hany
  rw [Bool.and_eq_true, beq_iff_eq, bne_iff_ne] at hboth
  exact ⟨output, output', h, h', hboth.1, hboth.2, scanSource_columns_of_report h h' hboth.1⟩

end SchemaReport
