import SchemaReport.Proofs.Report.Layout
import SchemaReport.Proofs.Scan.Ending

/-! The report as a rendering of the table.

The scanner fills the sections of its report while lines come in, and the table beside them.
`Report.rendering` writes the seven sections in one go, from a finished table. The two agree
(`scanSource_rendering`) when the head of the schema is in order: the table is named once and
described once, in this order and before any column is named. The invariant is `Renders`,
which holds from the description of the table on: the builder has been told of the table as
it stands, and of nothing else. -/
namespace SchemaReport
open Text Schema

/-! ### One rendering -/

namespace Report

/-- What a report shows of a table in each of its sections. -/
def bodyOf (names : RenderSettings) (t : Table) : Section → String
  | .tableName => Entry.tableName t.description
  | .primaryKeys => keysBody t.primaryKeys
  | .struct => structBody
    (Entry.structHead t.description t.structName ++ String.join (t.columns.map Entry.field))
  | .json => jsonBody (members t.columns)
  | .validation => String.join (t.columns.map (Entry.check names))
  | .assignment => String.join (t.columns.map (Entry.assignment names))
  | .doc => String.join (t.columns.map Entry.doc)

/-- The report on a table, written in one go. -/
def rendering (names : RenderSettings) (t : Table) (started finished : Timestamp) : String :=
  startBanner started ++
    String.join (Section.all.map fun s => sectionText s (bodyOf names t s)) ++ endBanner finished

set_option maxRecDepth 4000 in
/-- The seven sections in full. -/
example : Report.rendering {} ⟨"t_order", "TOrder", "tOrder", "订单",
      [⟨"金额", .float, ⟨"10"⟩, true, false, "Amount", "amount"⟩,
        ⟨"备注", .string, ⟨"64"⟩, false, true, "Memo", "memo"⟩], "amount"⟩
      ⟨2024, 5, 6, 7, 8, 9⟩ ⟨2024, 5, 6, 7, 8, 10⟩ =
    "\n--------------------------------生成时间：2024-05-06 07:08:09" ++
      "--------------------------------\n" ++
      "\n*表名\n\t订单\n" ++
      "\n*主键序列\n\tamount\n" ++
      "\n*结构体定义\n\t//订单\n\ttype TOrder struct \x7b\n" ++
      "\t\tAmount\tfloat64\t\x60json:\"amount\"\x60\t//金额\n" ++
      "\t\tMemo\tstring\t\x60json:\"memo\"\x60\t//备注\n\t\x7d\n" ++
      "\n*对应的json字符串\n\t\x7b\n\t\t\"com\":\"\",\n\t\t\"data\":\x7b\n" ++
      "\t\t\t\"amount\":0,\n\t\t\t\"memo\":\"\"\n\t\t\x7d\n\t\x7d\n" ++
      "\n*数据校验\n" ++
      "\tutil.CheckParam(structNeededToCheck.Amount, \"金额\", 10, true, false)\n" ++
      "\tutil.CheckParam(structNeededToCheck.Memo, \"备注\", 64, false, true)\n" ++
      "\n*初始化对象时给字段赋值用\n" ++
      "\tAmount: dataSource.Amount, //金额\n\tMemo: dataSource.Memo, //备注\n" ++
      "\n*给前端的接口文档用(入参以及出参字段说明)\n\tamount\t\t金额\n\tmemo\t\t备注\n" ++
      "\n================================信息提取结束 2024-05-06 07:08:10" ++
      "================================\n" := by
  decide

end Report

/-- What a builder is told of a table: its description, and all its columns. -/
def Table.calls (t : Table) : List Call :=
  .opens t.description t.structName :: t.columns.map .adds

namespace Table

theorem descriptions_calls (t : Table) : t.calls.filterMap Call.description? = [t.description] := by
  rw [calls, Call.descriptions_opens, List.filterMap_map]
  simp [Call.description?, Function.comp_def]

theorem columns_calls (t : Table) : t.calls.filterMap Call.column? = t.columns := by
  rw [calls, Call.columns_opens, List.filterMap_map]
  exact List.filterMap_some

theorem structTexts_calls (t : Table) : t.calls.map Call.structText =
    Entry.structHead t.description t.structName :: t.columns.map Entry.field := by
  rw [calls, List.map_cons, List.map_map]
  rfl

end Table

/-- A builder that has been told of a table finishes with the rendering of the table. -/
theorem ReportBuilder.finish_calls (names : RenderSettings) (t : Table)
    (started finished : Timestamp) :
    ((start names started).takeAll t.calls).finish t.primaryKeys finished =
      ⟨Report.rendering names t started finished, t.columns.length⟩ := by
  have hbody : Report.bodyFrom names t.calls t.primaryKeys = Report.bodyOf names t := by
    funext s
    cases s with
    | tableName =>
      rw [Report.bodyFrom, t.descriptions_calls]
      simp [Report.bodyOf]
    | primaryKeys => rfl
    | struct =>
      rw [Report.bodyFrom, t.structTexts_calls, String.join_cons]
      rfl
    | json | validation | assignment | doc =>
      rw [Report.bodyFrom, t.columns_calls]
      rfl
  rw [finish_takeAll, hbody, t.columns_calls]
  rfl

/-! ### The head of a schema -/

/-- The table is named once and described once, in this order and before any column is. -/
def HeadedOnce (lines : List Line) : Prop :=
  ∃ front named middle described back,
    lines = front ++ named :: (middle ++ described :: back) ∧
    named.keyword = .ok (some .tableName) ∧ described.keyword = .ok (some .tableDescription) ∧
    (∀ line ∈ front ++ middle ++ back, line.keyword ≠ .ok (some .tableName) ∧
      line.keyword ≠ .ok (some .tableDescription)) ∧
    ∀ line ∈ front ++ middle, line.keyword ≠ .ok (some .name)

namespace Scanner

/-- The builder has been told of the table as it stands. -/
def Renders (s : Scanner) (names : RenderSettings) (startedAt : Timestamp) : Prop :=
  s.builder = (ReportBuilder.start names startedAt).takeAll s.table.calls

/-- The builder has been told nothing, and there are no columns. -/
structure Unwritten (s : Scanner) (names : RenderSettings) (startedAt : Timestamp) : Prop where
  builder : s.builder = .start names startedAt
  columns : s.table.columns = []

variable {s : Scanner} {names : RenderSettings} {startedAt : Timestamp}

theorem Becomes.unwritten {t : Scanner} {value : String} {k : Keyword} (h : s.Becomes value k t)
    (hs : s.Unwritten names startedAt) (hd : k ≠ .tableDescription) (hn : k ≠ .name) :
    t.Unwritten names startedAt := by
  cases h with
  | drafting | naming | ending => exact ⟨hs.builder, hs.columns⟩
  | describing => exact absurd rfl hd
  | adding => exact absurd rfl hn

/-- The description of the table is the first thing that is written. -/
theorem Becomes.described {t : Scanner} {value : String}
    (h : s.Becomes value .tableDescription t) (hs : s.Unwritten names startedAt) :
    t.Renders names startedAt := by
  cases h with
  | drafting hk => exact absurd hk (by decide)
  | describing =>
    have hcalls : Table.calls { s.table with description := value } =
        [.opens value s.table.structName] := by
      rw [Table.calls, hs.columns]
      rfl
    rw [Renders, hcalls, ← hs.builder]
    rfl

theorem Renders.push (h : s.Renders names startedAt) (column : Column) :
    s.builder.push column = (ReportBuilder.start names startedAt).takeAll
      { s.table with columns := s.table.columns ++ [column] }.calls := by
  have hcalls : { s.table with columns := s.table.columns ++ [column] }.calls =
      s.table.calls ++ [.adds column] := by
    rw [Table.calls, Table.calls, List.map_append]
    rfl
  rw [hcalls, ReportBuilder.takeAll_append, ← show s.builder = _ from h]
  rfl

theorem Becomes.renders {t : Scanner} {value : String} {k : Keyword} (h : s.Becomes value k t)
    (hs : s.Renders names startedAt) (ht : k ≠ .tableName) (hd : k ≠ .tableDescription) :
    t.Renders names startedAt := by
  cases h with
  | drafting | ending => exact hs
  | naming => exact absurd rfl ht
  | describing => exact absurd rfl hd
  | adding => exact hs.push _

/-- Before the primary keys the clock is not looked at. -/
theorem Becomes.clock {t : Scanner} {value : String} {k : Keyword} (h : s.Becomes value k t)
    (hk : k ≠ .primaryKeys) : t.clock = s.clock := by
  cases h with
  | drafting | naming | describing | adding => rfl
  | ending => exact absurd rfl hk

theorem clock_feedAll (s : Scanner) {lines : List Line}
    (h : ∀ line ∈ lines, line.keyword ≠ .ok (some .primaryKeys)) :
    (s.feedAll lines).clock = s.clock := by
  refine feedAll_keeps (fun t => t.clock = s.clock) rfl fun t line hline value k ht _ hv => ?_
  rw [(becomes_obey t line value k).clock fun hk => h line hline (hk ▸ hv.keyword), ht]

/-- After the head of a schema in order, and any lines after it, the report renders the table. -/
theorem renders_feedAll (h : s.Unwritten names startedAt) (hs : s.isDone = false)
    {lines : List Line} (hpass : s.PassesAll lines) (hhead : HeadedOnce lines) :
    (s.feedAll lines).Renders names startedAt := by
  obtain ⟨front, named, middle, described, back, hlines, hnamed, hdescribed, honce, hunnamed⟩ :=
    hhead
  -- up to the description nothing is written, whatever the table is called
  have hbefore : ∀ line ∈ front ++ named :: middle,
      line.keyword ≠ .ok (some .tableDescription) ∧ line.keyword ≠ .ok (some .name) := by
    intro line hline
    rw [List.mem_append, List.mem_cons, or_left_comm, ← List.mem_append] at hline
    rcases hline with rfl | hline
    · simp [hnamed]
    · exact ⟨(honce line (List.mem_append_left back hline)).2, hunnamed line hline⟩
  rw [← List.cons_append, ← List.append_assoc] at hlines
  subst hlines
  obtain ⟨hearlier, hpasses, -⟩ := passesAll_append.mp hpass
  have hunwritten : (s.feedAll (front ++ named :: middle)).Unwritten names startedAt := by
    refine feedAll_keeps (fun t => t.Unwritten names startedAt) h
      fun t line hline value k ht _ hv => (becomes_obey t line value k).unwritten ht ?_ ?_
    · exact fun hk => (hbefore line hline).1 (hk ▸ hv.keyword)
    · exact fun hk => (hbefore line hline).2 (hk ▸ hv.keyword)
  have hdone := isDone_feedAll hs hearlier
  have hopened : ((s.feedAll (front ++ named :: middle)).feed described).scanner.Renders names
      startedAt := by
    rcases (passes_iff hdone).mp hpasses with hp | ⟨k, value, hv, -⟩
    · rw [hp] at hdescribed
      cases hdescribed
    · obtain rfl := hv.keyword_unique hdescribed
      rw [(feed_directive hdone hv).1]
      exact (becomes_obey _ described value _).described hunwritten
  rw [feedAll_append]
  refine feedAll_keeps (fun t => t.Renders names startedAt) hopened
    fun t line hline value k ht _ hv => ?_
  obtain ⟨htable, hdescription⟩ := honce line (List.mem_append_right _ hline)
  exact (becomes_obey t line value k).renders ht (fun hk => htable (hk ▸ hv.keyword))
    fun hk => hdescription (hk ▸ hv.keyword)

end Scanner

section Scan
variable {settings : ScanSettings} {names : RenderSettings} {clock : Clock} {source : String}
variable {before rest : List Line} {last : Line} {output : ScanOutput}

/-- **The report of a schema with its head in order is the rendering of its table**, between
the first two readings of the clock, and counts its columns. -/
theorem scanSource_rendering (hends : EndsAt (sourceLines source) before last rest)
    (hhead : HeadedOnce before)
    (h : (scanSource settings names clock source).result = .ok output) :
    output.report.text = Report.rendering names output.table clock.now clock.tick.now ∧
      output.report.columnCount = output.table.columns.length := by
  obtain ⟨value, hpass, -, rfl⟩ := scanSource_endsAt hends h
  have hrenders : (Scanner.after settings names clock before).Renders names clock.now :=
    Scanner.renders_feedAll ⟨rfl, rfl⟩ rfl hpass hhead
  have hclock : (Scanner.after settings names clock before).clock = clock.tick :=
    Scanner.clock_feedAll _ hends.before
  have hreport : ((Scanner.after settings names clock before).output value).report =
      ⟨Report.rendering names ((Scanner.after settings names clock before).output value).table
        clock.now clock.tick.now,
        ((Scanner.after settings names clock before).output value).table.columns.length⟩ := by
    rw [← ReportBuilder.finish_calls]
    show ReportBuilder.finish _ value _ = _
    rw [hrenders, hclock]
    rfl
  rw [hreport]
  exact ⟨rfl, rfl⟩

end Scan

/-- A remark before the head, a column, and a description that comes to nothing. -/
def orderSchema : String :=
  "# orders\ntable-name:t_order\ndescripion:订单\n-description:金额\nname:amount\n" ++
    "-description:备注\nprimary-keys:amount\n"

/-- The report begins at one reading of the clock and ends at the next, and has one column. -/
theorem scanSource_rendering_order : ∃ output,
    (scanSource { missingFields := .inherit } {}
      (.ofList ⟨2024, 5, 6, 7, 8, 9⟩ [⟨2024, 5, 6, 7, 8, 10⟩]) orderSchema).result = .ok output ∧
    EndsAt (sourceLines orderSchema) [⟨1, "# orders"⟩, ⟨2, "table-name:t_order"⟩,
      ⟨3, "descripion:订单"⟩, ⟨4, "-description:金额"⟩, ⟨5, "name:amount"⟩, ⟨6, "-description:备注"⟩]
      ⟨7, "primary-keys:amount"⟩ [] ∧
    HeadedOnce [⟨1, "# orders"⟩, ⟨2, "table-name:t_order"⟩, ⟨3, "descripion:订单"⟩,
      ⟨4, "-description:金额"⟩, ⟨5, "name:amount"⟩, ⟨6, "-description:备注"⟩] ∧
    output.report.text = Report.rendering {} output.table ⟨2024, 5, 6, 7, 8, 9⟩
      ⟨2024, 5, 6, 7, 8, 10⟩ ∧ output.report.columnCount = 1 := by
  have hany : (scanSource { missingFields := .inherit } {}
      (.ofList ⟨2024, 5, 6, 7, 8, 9⟩ [⟨2024, 5, 6, 7, 8, 10⟩]) orderSchema).result.toOption.any
        (fun output => output.table.columns.length == 1) = true := by decide +kernel
  obtain ⟨output, hresult, hlength⟩ := exists_ok_of_any hany
  have hends : EndsAt (sourceLines orderSchema) [⟨1, "# orders"⟩, ⟨2, "table-name:t_order"⟩,
      ⟨3, "descripion:订单"⟩, ⟨4, "-description:金额"⟩, ⟨5, "name:amount"⟩, ⟨6, "-description:备注"⟩]
      ⟨7, "primary-keys:amount"⟩ [] := by decide +kernel
  have hhead : HeadedOnce [⟨1, "# orders"⟩, ⟨2, "table-name:t_order"⟩, ⟨3, "descripion:订单"⟩,
      ⟨4, "-description:金额"⟩, ⟨5, "name:amount"⟩, ⟨6, "-description:备注"⟩] := by
    exact ⟨[⟨1, "# orders"⟩], _, [], _, [⟨4, "-description:金额"⟩, ⟨5, "name:amount"⟩,
      ⟨6, "-description:备注"⟩], rfl, by decide +kernel, by decide +kernel, by decide +kernel,
      by decide +kernel⟩
  obtain ⟨htext, hcount⟩ := scanSource_rendering hends hhead hresult
  exact ⟨output, hresult, hends, hhead, htext, hcount.trans (eq_of_beq hlength)⟩

end SchemaReport
