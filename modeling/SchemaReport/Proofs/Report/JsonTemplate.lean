import SchemaReport.Proofs.Json.Completeness
import SchemaReport.Proofs.Json.Meaning
import SchemaReport.Proofs.Json.Nesting
import SchemaReport.Proofs.Report.Lockstep
import SchemaReport.Proofs.Scan.Clean

/-! When the JSON block of a report is JSON.

The block quotes the keys of the columns as they are. Where all of them are legal bodies it
is a JSON text, and stands for an object with an empty comment and the data
(`isText_jsonBody`). It is not otherwise (`isBody_of_isText`), whatever the keys may hold:
a key that closes its own string would have to open a container to get to a key again,
since it has no comma, and the block ends with two closing braces only. A legal key may
still hold escapes, and then it does not name its member: what does is the text the key
stands for, if it stands for one (`means_template_iff`). -/
namespace SchemaReport
open Text Schema

/-! ### The block as written -/

/-- The JSON block up to its first member. -/
def Report.jsonHead : List Char := "\t\x7b\n\t\t\"com\":\"\",\n\t\t\"data\":\x7b\n".toList

theorem Report.toList_jsonBody (members : String) : (Report.jsonBody members).toList =
    Report.jsonHead ++ (members.toList ++ '\n' :: "\t\t\x7d\n\t\x7d\n".toList) := by
  unfold Report.jsonBody Report.jsonHead
  rw [String.toList_append, String.toList_append, List.append_assoc]
  simp

theorem Entry.toList_member (c : Column) : (Entry.member c).toList =
    '\t' :: '\t' :: '\t' :: '"' :: (c.jsonName.toList ++
      '"' :: ':' :: c.columnType.placeholder.toList) := by
  simp [Entry.member]

namespace Report

@[simp] theorem members_nil : members [] = "" := String.intercalate_nil

@[simp] theorem members_singleton (c : Column) : members [c] = Entry.member c :=
  String.intercalate_singleton

theorem toList_members_cons (c d : Column) (rest : List Column) :
    (members (c :: d :: rest)).toList =
      (Entry.member c).toList ++ ',' :: '\n' :: (members (d :: rest)).toList := by
  rw [members, List.map_cons, List.map_cons, String.intercalate_cons_cons, String.toList_append,
    String.toList_append, List.append_assoc]
  rfl

end Report

namespace Json

/-! ### The document -/

/-- What stands for a column of each kind. -/
def placeholder : ColumnType → Json
  | .string => .string []
  | .int => .number ['0']
  | .float => .number ['0']

/-- The members of the data, in the order of the columns. -/
def dataMembers (columns : List Column) : List (List Char × Json) :=
  columns.map fun c => (c.jsonName.toList, placeholder c.columnType)

/-- The document the JSON block is meant to be. -/
def template (columns : List Column) : Json :=
  .object [(['c', 'o', 'm'], .string []), (['d', 'a', 't', 'a'], .object (dataMembers columns))]

/-! ### Legal keys make a text -/

theorem derives_placeholder (kind : ColumnType) :
    Derives (.value (placeholder kind)) kind.placeholder.toList := by
  have hzero : IsNumeral ([] ++ ['0'] ++ [] ++ []) := .mk (by simp) .zero .absent .absent
  cases kind with
  | string => exact .string .nil
  | int => exact .number hzero
  | float => exact .number hzero

/-- The members of the block, each on a line of its own, up to the line that ends the data. -/
theorem derives_members {columns : List Column} (hne : columns ≠ [])
    (hkeys : ∀ c ∈ columns, IsBody c.jsonName.toList) :
    Derives (.members (dataMembers columns))
      ('\n' :: ((Report.members columns).toList ++ ['\n', '\t', '\t'])) := by
  have hwhite : IsWhite ['\n', '\t', '\t', '\t'] := by simp [IsWhite]
  induction columns with
  | nil => exact absurd rfl hne
  | cons c more ih =>
    have hkey := hkeys c List.mem_cons_self
    have hvalue := derives_placeholder c.columnType
    cases more with
    | nil =>
      have hend : IsWhite ['\n', '\t', '\t'] := by simp [IsWhite]
      have := Derives.member hwhite hkey isWhite_nil isWhite_nil hvalue hend
      simpa [dataMembers, Entry.toList_member] using this
    | cons d rest =>
      have hlater := ih (by simp) fun c' hc' => hkeys c' (List.mem_cons_of_mem c hc')
      have := Derives.moreMembers hwhite hkey isWhite_nil isWhite_nil hvalue isWhite_nil hlater
      simpa [dataMembers, Report.toList_members_cons, Entry.toList_member] using this

/-- With legal keys the block is the document it is meant to be. -/
theorem isText_jsonBody {columns : List Column}
    (hkeys : ∀ c ∈ columns, IsBody c.jsonName.toList) :
    IsText (template columns) (Report.jsonBody (Report.members columns)).toList := by
  have hdata : Derives (.value (.object (dataMembers columns)))
      ('\x7b' ::
        ('\n' :: ((Report.members columns).toList ++ ['\n', '\t', '\t']) ++ ['\x7d'])) := by
    by_cases hne : columns = []
    · subst hne
      exact .emptyObject (w := ['\n', '\n', '\t', '\t']) (by simp [IsWhite])
    · exact .object (derives_members hne hkeys)
  have hcom : IsBody ['c', 'o', 'm'] := by decide
  have hdatakey : IsBody ['d', 'a', 't', 'a'] := by decide
  have hindent : IsWhite ['\n', '\t', '\t'] := by simp [IsWhite]
  have hend : IsWhite ['\n', '\t'] := by simp [IsWhite]
  have hmembers := Derives.moreMembers hindent hcom isWhite_nil isWhite_nil (.string .nil)
    isWhite_nil (.member hindent hdatakey isWhite_nil isWhite_nil hdata hend)
  have htext := Derives.object hmembers
  refine ⟨['\t'], _, ['\n'], ?_, by simp [IsWhite], htext, by simp [IsWhite]⟩
  rw [Report.toList_jsonBody]
  unfold Report.jsonHead
  simp

/-! ### What the document means -/

/-- The value of a column of each kind. -/
def Value.placeholder : ColumnType → Value
  | .string => .string []
  | .int => .number ['0']
  | .float => .number ['0']

/-- An empty comment and the members of the data. -/
def Value.ofData (members : List (List Char × Value)) : Value :=
  .object [(['c', 'o', 'm'], .string []), (['d', 'a', 't', 'a'], .object members)]

/-- The value whose keys are those of the columns, taken as texts. -/
def Value.ofColumns (columns : List Column) : Value :=
  .ofData (columns.map fun c => (c.jsonName.toList, .placeholder c.columnType))

/-- Members for the columns, in their order: the text that the key of a column stands for as
a body, with the value of its kind. -/
def IsData (columns : List Column) (members : List (List Char × Value)) : Prop :=
  List.Forall₂ (fun c m => StandsFor c.jsonName.toList m.1 ∧ m.2 = .placeholder c.columnType)
    columns members

theorem means_placeholder_iff (kind : ColumnType) {value : Value} :
    (placeholder kind).Means value ↔ value = .placeholder kind := by
  cases kind with
  | string =>
    simp [placeholder, Value.placeholder, means_string_iff, standsFor_iff_of_plain .nil]
  | int => exact means_number_iff
  | float => exact means_number_iff

theorem means_dataMembers_iff {columns : List Column} {value : Value} :
    (Json.object (dataMembers columns)).Means value ↔
      ∃ members, value = .object members ∧ IsData columns members := by
  simp only [means_object_iff, dataMembers, List.forall₂_map_left_iff, means_placeholder_iff,
    IsData]

/-- The document means its data under the texts of the keys, and nothing else. -/
theorem means_template_iff {columns : List Column} {value : Value} :
    (template columns).Means value ↔
      ∃ members, value = .ofData members ∧ IsData columns members := by
  have hcom : ∀ key, StandsFor ['c', 'o', 'm'] key ↔ key = ['c', 'o', 'm'] := fun key =>
    standsFor_iff_of_plain (by decide) (by decide)
  have hdata : ∀ key, StandsFor ['d', 'a', 't', 'a'] key ↔ key = ['d', 'a', 't', 'a'] := fun key =>
    standsFor_iff_of_plain (by decide) (by decide)
  have hcomment : ∀ value, (Json.string []).Means value ↔ value = .string [] := fun value =>
    means_placeholder_iff .string
  constructor
  · intro h
    obtain ⟨values, rfl, hvalues⟩ := means_object_iff.mp h
    obtain ⟨com, rest, ⟨hkey, hvalue⟩, hrest, rfl⟩ := List.forall₂_cons_left_iff.mp hvalues
    obtain ⟨data, rest, ⟨hkey', hvalue'⟩, hend, rfl⟩ := List.forall₂_cons_left_iff.mp hrest
    obtain rfl := List.forall₂_nil_left_iff.mp hend
    obtain ⟨members, hmembers, hall⟩ := means_dataMembers_iff.mp hvalue'
    have hcomEq : com = (['c', 'o', 'm'], .string []) :=
      Prod.ext ((hcom _).mp hkey) ((hcomment _).mp hvalue)
    have hdataEq : data = (['d', 'a', 't', 'a'], .object members) :=
      Prod.ext ((hdata _).mp hkey') hmembers
    exact ⟨members, by rw [hcomEq, hdataEq]; rfl, hall⟩
  · rintro ⟨members, rfl, hall⟩
    refine means_object_iff.mpr ⟨_, rfl, .cons ⟨(hcom _).mpr rfl, (hcomment _).mpr rfl⟩ ?_⟩
    exact .cons ⟨(hdata _).mpr rfl, means_dataMembers_iff.mpr ⟨members, rfl, hall⟩⟩ .nil

theorem IsData.unique {columns : List Column} {members members' : List (List Char × Value)}
    (h : IsData columns members) (h' : IsData columns members') : members = members' := by
  refine List.right_unique_forall₂' ?_ h h'
  rintro c m m' ⟨hkey, hvalue⟩ ⟨hkey', hvalue'⟩
  exact Prod.ext (hkey.unique hkey') (hvalue.trans hvalue'.symm)

theorem exists_isData_iff {columns : List Column} :
    (∃ members, IsData columns members) ↔
      ∀ c ∈ columns, ∃ key, StandsFor c.jsonName.toList key := by
  induction columns with
  | nil => simp [IsData]
  | cons c rest ih =>
    rw [List.forall_mem_cons, ← ih]
    constructor
    · rintro ⟨members, h⟩
      obtain ⟨m, more, ⟨hkey, -⟩, hmore, rfl⟩ := List.forall₂_cons_left_iff.mp h
      exact ⟨⟨m.1, hkey⟩, more, hmore⟩
    · rintro ⟨⟨key, hkey⟩, more, hmore⟩
      exact ⟨(key, .placeholder c.columnType) :: more, .cons ⟨hkey, rfl⟩ hmore⟩

/-- It means a value just when every key stands for a text, and then no other value. -/
theorem existsUnique_means_template_iff {columns : List Column} :
    (∃! value, (template columns).Means value) ↔
      ∀ c ∈ columns, ∃ key, StandsFor c.jsonName.toList key := by
  rw [← exists_isData_iff]
  constructor
  · rintro ⟨value, hvalue, -⟩
    obtain ⟨members, -, hall⟩ := means_template_iff.mp hvalue
    exact ⟨members, hall⟩
  · rintro ⟨members, hall⟩
    refine ⟨.ofData members, means_template_iff.mpr ⟨members, rfl, hall⟩, fun value hvalue => ?_⟩
    obtain ⟨members', rfl, hall'⟩ := means_template_iff.mp hvalue
    rw [hall.unique hall']

/-- Its keys are those of the columns just when nothing in them is escaped. -/
theorem means_ofColumns_iff {columns : List Column}
    (hkeys : ∀ c ∈ columns, IsBody c.jsonName.toList) :
    (template columns).Means (.ofColumns columns) ↔ ∀ c ∈ columns, '\\' ∉ c.jsonName.toList := by
  have hself : (template columns).Means (.ofColumns columns) ↔
      ∀ c ∈ columns, StandsFor c.jsonName.toList c.jsonName.toList := by
    rw [means_template_iff]
    constructor
    · rintro ⟨members, heq, hall⟩
      have hmembers : columns.map (fun c => (c.jsonName.toList, Value.placeholder c.columnType)) =
          members := by
        simpa [Value.ofColumns, Value.ofData] using heq
      rw [← hmembers, IsData, List.forall₂_map_right_iff, List.forall₂_same] at hall
      exact fun c hc => (hall c hc).1
    · intro h
      refine ⟨_, rfl, ?_⟩
      rw [IsData, List.forall₂_map_right_iff, List.forall₂_same]
      exact fun c hc => ⟨h c hc, rfl⟩
  rw [hself]
  exact forall₂_congr fun c hc => standsFor_self_iff (hkeys c hc)

/-! ### Only legal keys do -/

namespace Machine

/-- A colon, the value of a column and the end of its line leave no string open. -/
theorem not_survives_colon (kind : ColumnType) {separator : List Char}
    (hplain : ∀ c ∈ separator, c ≠ '"' ∧ c ≠ '\\') (seen : List Char) (s : ReadState)
    (rest : List Char) : ¬ Survives ⟨.inString seen, s⟩
      (':' :: (kind.placeholder.toList ++ (separator ++ '\n' :: rest))) := by
  have hzero : ¬ Survives ⟨.inString seen, s⟩ (':' :: '0' :: separator ++ '\n' :: rest) := by
    refine not_survives_line (fun c hc => ?_) seen s rest
    rcases List.mem_cons.mp hc with rfl | hc
    · decide
    · rcases List.mem_cons.mp hc with rfl | hc
      · decide
      · exact hplain c hc
  cases kind with
  | int => exact hzero
  | float => exact hzero
  | string =>
    intro h
    rw [show ColumnType.string.placeholder.toList = ['"', '"'] from rfl] at h
    obtain ⟨m₁, hcolon, h⟩ := survives_cons_iff.mp h
    rw [advance_plain (by decide) (by decide)] at hcolon
    obtain rfl := Option.some.inj hcolon
    obtain ⟨m₂, hquote, h⟩ := survives_cons_iff.mp h
    rw [advance_quote] at hquote
    obtain ⟨s₂, -, rfl⟩ := Option.map_eq_some_iff.mp hquote
    obtain ⟨m₃, hopen, h⟩ := survives_cons_iff.mp h
    obtain rfl := Option.some.inj hopen
    exact not_survives_line hplain [] s₂ rest h

/-- Where a key has been closed, its value and the end of the line follow only if the reader
has just read a string that it had awaited as a key. -/
theorem survives_closing {m : Machine} {kind : ColumnType} {separator rest : List Char}
    (hseparator : separator = [] ∨ separator = [','])
    (h : m.Survives ('"' :: ':' :: (kind.placeholder.toList ++ (separator ++ '\n' :: rest)))) :
    ∃ seen members frames, m.lexer = .inString seen ∧ IsBody seen.reverse ∧
      AwaitsKey m.state frames ∧
      Survives ⟨.between, .afterMember members frames⟩ (separator ++ '\n' :: rest) := by
  have hplain : ∀ c ∈ separator, c ≠ '"' ∧ c ≠ '\\' := by
    rcases hseparator with rfl | rfl <;> simp
  obtain ⟨l, s⟩ := m
  obtain ⟨m₁, hquote, h₁⟩ := survives_cons_iff.mp h
  cases l with
  | between =>
    obtain rfl := Option.some.inj hquote
    exact absurd h₁ (not_survives_colon kind hplain _ _ rest)
  | escaped seen =>
    obtain rfl := Option.some.inj hquote
    exact absurd h₁ (not_survives_colon kind hplain _ _ rest)
  | inWord seen =>
    obtain ⟨s₁, -, rfl⟩ := Option.map_eq_some_iff.mp hquote
    exact absurd h₁ (not_survives_colon kind hplain _ _ rest)
  | inString seen =>
    rw [advance_quote] at hquote
    obtain ⟨s₁, hkey, rfl⟩ := Option.map_eq_some_iff.mp hquote
    obtain ⟨m₂, hmark, h₂⟩ := survives_cons_iff.mp h₁
    rw [advance_mark (c := ':') rfl] at hmark
    obtain ⟨s₂, hcolon, rfl⟩ := Option.map_eq_some_iff.mp hmark
    obtain ⟨members, frames, hawaits, rfl⟩ := awaitsKey_of_colon hkey hcolon
    obtain ⟨m₃, hvalue, hsettles⟩ :=
      (derives_placeholder kind).read (.object members seen.reverse :: frames)
    have h₃ := hvalue.survives_iff.mp h₂
    refine ⟨seen, (seen.reverse, placeholder kind) :: members, frames, rfl, isBody_of_step hkey,
      hawaits, ?_⟩
    rcases hseparator with rfl | rfl
    · exact hsettles.survives rfl h₃
    · exact hsettles.survives rfl h₃

/-- Past the entry of a column the reader is no less deep, and as deep as before only when
the key was legal. -/
theorem survives_member {s : ReadState} {frames : List Frame} (hs : AwaitsKey s frames)
    {c : Column} (hcomma : ',' ∉ c.jsonName.toList) {separator rest : List Char}
    (hseparator : separator = [] ∨ separator = [','])
    (h : Survives ⟨.between, s⟩ ((Entry.member c).toList ++ (separator ++ '\n' :: rest))) :
    ∃ members frames', frames.length ≤ frames'.length ∧
      (frames.length = frames'.length → IsBody c.jsonName.toList) ∧
      Survives ⟨.between, .afterMember members frames'⟩ (separator ++ '\n' :: rest) := by
  have hindent : Leads ⟨.between, s⟩ ['\t', '\t', '\t', '"'] ⟨.inString [], s⟩ := rfl
  have hentry : (Entry.member c).toList ++ (separator ++ '\n' :: rest) =
      ['\t', '\t', '\t', '"'] ++ (c.jsonName.toList ++
        '"' :: ':' :: (c.columnType.placeholder.toList ++ (separator ++ '\n' :: rest))) := by
    rw [Entry.toList_member]
    simp
  rw [hentry, hindent.survives_iff] at h
  obtain ⟨m, hkey, hclosing⟩ := survives_append_iff.mp h
  obtain ⟨seen, members, frames', hlexer, hlegal, hawaits, hrest⟩ :=
    survives_closing hseparator hclosing
  have hdepth' := hawaits.depth?
  rcases leads_string_cases (.inl rfl) hkey with rfl | rfl | ⟨body, after, s₁, hstep, hafter, hm⟩
  · -- The key is one string: the reader awaits the same key as before it.
    have hseen : c.jsonName.toList.reverse ++ [] = seen := LexState.inString.inj hlexer
    have hdepth : 2 * frames.length + 2 = 2 * frames'.length + 2 :=
      Option.some.inj (hs.depth?.symm.trans hdepth')
    rw [← hseen, List.append_nil, List.reverse_reverse] at hlegal
    exact ⟨members, frames', by omega, fun _ => hlegal, hrest⟩
  · cases hlexer
  · -- The key closed its string, and what follows has no comma.
    have hkeyed := hs.depth?_string hstep
    have hafter' : ',' ∉ after := fun hmem => hcomma (hafter _ hmem)
    obtain ⟨depth, hdepth, hle⟩ := leads_sinks hm hafter' _ hdepth'
    have hsame : 2 * frames.length + 3 = depth := Option.some.inj (hkeyed.symm.trans hdepth)
    exact ⟨members, frames', by omega, fun heq => by omega, hrest⟩

/-- The same for all the entries. -/
theorem survives_members {s : ReadState} {frames : List Frame} (hs : AwaitsKey s frames)
    {columns : List Column} (hne : columns ≠ [])
    (hcomma : ∀ c ∈ columns, ',' ∉ c.jsonName.toList) {rest : List Char}
    (h : Survives ⟨.between, s⟩ ((Report.members columns).toList ++ '\n' :: rest)) :
    ∃ members frames', frames.length ≤ frames'.length ∧
      (frames.length = frames'.length → ∀ c ∈ columns, IsBody c.jsonName.toList) ∧
      Survives ⟨.between, .afterMember members frames'⟩ ('\n' :: rest) := by
  induction columns generalizing s frames with
  | nil => exact absurd rfl hne
  | cons c more ih =>
    have hc := hcomma c List.mem_cons_self
    cases more with
    | nil =>
      rw [Report.members_singleton] at h
      obtain ⟨members, frames', hle, hlegal, hrest⟩ :=
        survives_member hs hc (.inl rfl) h
      refine ⟨members, frames', hle, fun heq c' hc' => ?_, hrest⟩
      rw [List.mem_singleton.mp hc']
      exact hlegal heq
    | cons d others =>
      rw [Report.toList_members_cons, List.append_assoc] at h
      obtain ⟨members, frames', hle, hlegal, hrest⟩ :=
        survives_member hs hc (.inr rfl) h
      have hnext : Leads ⟨.between, .afterMember members frames'⟩ [',', '\n']
          ⟨.between, .nextKey members frames'⟩ := rfl
      have hlater := hnext.survives_iff.mp hrest
      obtain ⟨members', frames'', hle', hlegal', hrest'⟩ :=
        ih (.inr ⟨members, rfl⟩) (by simp) (fun c' hc' => hcomma c' (List.mem_cons_of_mem c hc'))
          hlater
      refine ⟨members', frames'', by omega, fun heq c' hc' => ?_, hrest'⟩
      rcases List.mem_cons.mp hc' with rfl | hc'
      · exact hlegal (by omega)
      · exact hlegal' (by omega) c' hc'

/-- The end of the block closes two objects. -/
theorem length_frames_of_closing {members : List (List Char × Json)} {frames : List Frame}
    (h : Survives ⟨.between, .afterMember members frames⟩
      ('\n' :: "\t\t\x7d\n\t\x7d\n".toList)) : frames.length = 1 := by
  have htext : '\n' :: "\t\t\x7d\n\t\x7d\n".toList =
      ['\n', '\t', '\t', '\x7d', '\n', '\t'] ++ ['\x7d', '\n'] := rfl
  have hfirst : Leads ⟨.between, .afterMember members frames⟩
      ['\n', '\t', '\t', '\x7d', '\n', '\t']
      ⟨.between, completed (.object members.reverse) frames⟩ := rfl
  rw [htext, hfirst.survives_iff] at h
  cases frames with
  | nil =>
    obtain ⟨m, hm, -⟩ := survives_cons_iff.mp h
    cases hm
  | cons frame more =>
    cases frame with
    | array items =>
      obtain ⟨m, hm, -⟩ := survives_cons_iff.mp h
      cases hm
    | object others key =>
      obtain ⟨m, hm, hend⟩ := survives_cons_iff.mp h
      obtain rfl := Option.some.inj hm
      obtain ⟨m', document, hleads, hdocument⟩ := hend
      obtain rfl := Option.some.inj hleads
      cases more with
      | nil => rfl
      | cons frame more => cases frame <;> cases hdocument

end Machine

/-- When the block is a text, all the keys are legal. -/
theorem isBody_of_isText {columns : List Column}
    (hcomma : ∀ c ∈ columns, ',' ∉ c.jsonName.toList) {document : Json}
    (h : IsText document (Report.jsonBody (Report.members columns)).toList) :
    ∀ c ∈ columns, IsBody c.jsonName.toList := by
  have hsurvives := survives_start_iff.mpr ⟨document, parse?_eq_some h⟩
  have hhead : Machine.start.Leads Report.jsonHead
      ⟨.between, .firstKey [.object [(['c', 'o', 'm'], .string [])] ['d', 'a', 't', 'a']]⟩ := rfl
  rw [Report.toList_jsonBody, hhead.survives_iff] at hsurvives
  by_cases hne : columns = []
  · subst hne
    exact fun c hc => nomatch hc
  · obtain ⟨members, frames, -, hlegal, hrest⟩ :=
      Machine.survives_members (.inl rfl) hne hcomma hsurvives
    exact hlegal (Machine.length_frames_of_closing hrest).symm

end Json

/-! ### The block of a scan -/

/-- A report shows a body between the header of a section and the next header. -/
def Report.Shows (report : Report) (s next : Section) (body : String) : Prop :=
  ∃ front back, report.text =
    front ++ "\n" ++ s.header ++ "\n" ++ body ++ "\n" ++ next.header ++ "\n" ++ back

theorem ReportBuilder.finish_shows_json (b : ReportBuilder) (primaryKeys : String)
    (time : Timestamp) : (b.finish primaryKeys time).Shows .json .validation
      (b.closedBody primaryKeys .json) := by
  refine ⟨Report.startBanner b.startedAt ++
      String.join ([Section.tableName, .primaryKeys, .struct].map fun s =>
        Report.sectionText s (b.closedBody primaryKeys s)),
    b.closedBody primaryKeys .validation ++
      String.join ([Section.assignment, .doc].map fun s =>
        Report.sectionText s (b.closedBody primaryKeys s)) ++ Report.endBanner time, ?_⟩
  simp only [finish, Section.all, Report.sectionText, List.map_cons, List.map_nil,
    String.join_cons, String.join_nil, String.append_assoc, String.append_empty]

section Scan
variable {settings : ScanSettings} {names : RenderSettings} {clock : Clock} {source : String}

/-- What the block of a scan is made of: the members of the columns, in whose keys there is
no comma. The report is the builder's, finished. -/
theorem closedBody_json_of_ok {output : ScanOutput}
    (h : (scanSource settings names clock source).result = .ok output) :
    let read := (Scanner.start settings names clock).readThrough (sourceLines source)
    read.scanner.builder.closedBody output.table.primaryKeys .json =
        Report.jsonBody (Report.members output.table.columns) ∧
      (∃ time, output.report = read.scanner.builder.finish output.table.primaryKeys time) ∧
      ∀ c ∈ output.table.columns, ',' ∉ c.jsonName.toList := by
  intro read
  obtain ⟨before, line, rest, value, hlines, hpass, hv, rfl⟩ := scanSource_eq_ok_iff.mp h
  have hscanner := (readThrough_ended hlines hpass hv).2
  have hbuilder : read.scanner.builder = (Scanner.after settings names clock before).builder :=
    (congrArg Scanner.builder hscanner).trans rfl
  have hlists : read.scanner.builder.Lists
      (Scanner.after settings names clock before).table.columns := by
    rw [hbuilder]
    exact Scanner.lists_feedAll (ReportBuilder.lists_start names clock.now) before
  have hfinish : ((Scanner.after settings names clock before).output value).report =
      read.scanner.builder.finish value (Scanner.after settings names clock before).clock.now := by
    rw [hbuilder]
    rfl
  exact ⟨congrArg Report.jsonBody hlists.json, ⟨_, hfinish⟩,
    Scanner.comma_not_mem_jsonName settings names clock before⟩

/-- With legal keys the block of a scan is the document it is meant to be. -/
theorem isText_closedBody {output : ScanOutput}
    (h : (scanSource settings names clock source).result = .ok output)
    (hkeys : ∀ c ∈ output.table.columns, Json.IsBody c.jsonName.toList) :
    Json.IsText (Json.template output.table.columns)
      (((Scanner.start settings names clock).readThrough
        (sourceLines source)).scanner.builder.closedBody
          output.table.primaryKeys .json).toList := by
  rw [(closedBody_json_of_ok h).1]
  exact Json.isText_jsonBody hkeys

/-- **The JSON block is JSON exactly when the keys are legal.** What the report of a scan
shows under the JSON header is a JSON text just when every key of a column may stand between
quotes as it is. The document is then an object with an empty comment and, as the data, the
keys in the order of the columns, an empty string with those of string columns and a zero
with the others. What it means has the texts that the keys stand for in their places: there
is such a value just when every key stands for a text, and its keys are those of the columns
just when none of them holds a backslash. -/
theorem scanSource_json {output : ScanOutput}
    (h : (scanSource settings names clock source).result = .ok output) :
    let read := (Scanner.start settings names clock).readThrough (sourceLines source)
    let body := read.scanner.builder.closedBody output.table.primaryKeys .json
    (∃ time, output.report = read.scanner.builder.finish output.table.primaryKeys time) ∧
      output.report.Shows .json .validation body ∧
      ((∃ document, Json.IsText document body.toList) ↔
        ∀ c ∈ output.table.columns, Json.IsBody c.jsonName.toList) ∧
      ∀ document, Json.IsText document body.toList →
        document = Json.template output.table.columns ∧
        (∀ value, document.Means value ↔
          ∃ members, value = .ofData members ∧ Json.IsData output.table.columns members) ∧
        ((∃! value, document.Means value) ↔
          ∀ c ∈ output.table.columns, ∃ key, Json.StandsFor c.jsonName.toList key) ∧
        (document.Means (.ofColumns output.table.columns) ↔
          ∀ c ∈ output.table.columns, '\\' ∉ c.jsonName.toList) := by
  intro read body
  obtain ⟨hbody, ⟨time, hfinish⟩, hcomma⟩ := closedBody_json_of_ok h
  have hlegal : ∀ document, Json.IsText document body.toList →
      ∀ c ∈ output.table.columns, Json.IsBody c.jsonName.toList := by
    intro document htext
    rw [show body = _ from hbody] at htext
    exact Json.isBody_of_isText hcomma htext
  refine ⟨⟨time, hfinish⟩, ?_, ⟨?_, ?_⟩, ?_⟩
  · rw [hfinish]
    exact ReportBuilder.finish_shows_json _ _ _
  · rintro ⟨document, htext⟩
    exact hlegal document htext
  · intro hkeys
    exact ⟨_, isText_closedBody h hkeys⟩
  · intro document htext
    have hkeys := hlegal document htext
    obtain rfl := htext.unique (isText_closedBody h hkeys)
    exact ⟨rfl, fun value => Json.means_template_iff, Json.existsUnique_means_template_iff,
      Json.means_ofColumns_iff hkeys⟩

end Scan

/-- A column whose key closes its own string and opens an object. -/
def rebalancingSchema : String :=
  "-description:金额，定长\ntype:number\nlength:8\nnullable:no\nname:a\":\x7b\"b,amount\n" ++
    "primary-keys:a\n"

/-- A schema of one string column of the name. -/
def schemaNaming (name : String) : String :=
  "-description:名称\ntype:String\nlength:8\nnullable:no\nname:" ++ name ++
    "\nprimary-keys:id\n"

/-- The block of such a schema, where the name is legal and becomes the key as it is. -/
theorem isText_naming (name : String) (hlegal : Json.IsBody name.toList)
    (hany : (scanSource {} {} (.ofList ⟨2024, 5, 6, 7, 8, 9⟩ [])
      (schemaNaming name)).result.toOption.any (fun output =>
        output.table.columns.map (fun c => (c.jsonName, c.columnType)) == [(name, .string)]) =
      true) : ∃ output c,
    (scanSource {} {} (.ofList ⟨2024, 5, 6, 7, 8, 9⟩ []) (schemaNaming name)).result =
      .ok output ∧ output.table.columns = [c] ∧ c.jsonName = name ∧ c.columnType = .string ∧
    Json.IsText (Json.template [c]) (((Scanner.start {} {}
      (.ofList ⟨2024, 5, 6, 7, 8, 9⟩ [])).readThrough
        (sourceLines (schemaNaming name))).scanner.builder.closedBody
          output.table.primaryKeys .json).toList := by
  obtain ⟨output, hresult, hcolumns⟩ := exists_ok_of_any hany
  obtain ⟨c, hc, hpair⟩ := List.map_eq_singleton_iff.mp (eq_of_beq hcolumns)
  obtain ⟨hname, hkind⟩ := Prod.mk.inj hpair
  have htext := isText_closedBody hresult (by
    intro c' hc'
    rw [hc, List.mem_singleton] at hc'
    rw [hc', hname]
    exact hlegal)
  rw [hc] at htext
  exact ⟨output, c, hresult, hc, hname, hkind, htext⟩

/-- The block of a key that opens an object lacks a brace at its end and is not JSON. That of a
key with an escape is JSON, and means one value, in which the member has another key. -/
theorem scanSource_json_rebalancing :
    (∃ output,
      (scanSource {} {} (.ofList ⟨2024, 5, 6, 7, 8, 9⟩ []) rebalancingSchema).result =
        .ok output ∧
      output.table.columns.map Column.jsonName = ["a\":\x7b\"b"] ∧
      ¬ ∃ document, Json.IsText document
        (((Scanner.start {} {} (.ofList ⟨2024, 5, 6, 7, 8, 9⟩ [])).readThrough
          (sourceLines rebalancingSchema)).scanner.builder.closedBody output.table.primaryKeys
            .json).toList) ∧
    ∃ output document,
      (scanSource {} {} (.ofList ⟨2024, 5, 6, 7, 8, 9⟩ []) (schemaNaming "a\\u0062")).result =
        .ok output ∧
      output.table.columns.map Column.jsonName = ["a\\u0062"] ∧
      Json.IsText document (((Scanner.start {} {} (.ofList ⟨2024, 5, 6, 7, 8, 9⟩ [])).readThrough
        (sourceLines (schemaNaming "a\\u0062"))).scanner.builder.closedBody
          output.table.primaryKeys .json).toList ∧
      (∃! value, document.Means value) ∧ ¬ document.Means (.ofColumns output.table.columns) := by
  constructor
  · have hany : (scanSource {} {} (.ofList ⟨2024, 5, 6, 7, 8, 9⟩ [])
        rebalancingSchema).result.toOption.any (fun output =>
          output.table.columns.map Column.jsonName == ["a\":\x7b\"b"]) = true := by
      decide
    obtain ⟨output, hresult, hkeys⟩ := exists_ok_of_any hany
    have hkeys := eq_of_beq hkeys
    refine ⟨output, hresult, hkeys, fun htext => ?_⟩
    obtain ⟨-, -, hlegal, -⟩ := scanSource_json hresult
    obtain ⟨c, hc, hkey⟩ := List.map_eq_singleton_iff.mp hkeys
    have hbody := hlegal.mp htext c (hc ▸ List.mem_singleton_self c)
    rw [hkey] at hbody
    exact absurd hbody (by decide)
  · obtain ⟨output, c, hresult, hc, hname, -, htext⟩ :=
      isText_naming "a\\u0062" (by decide) (by decide)
    obtain ⟨-, -, -, hmeans⟩ := scanSource_json hresult
    rw [hc] at hmeans
    obtain ⟨-, -, hunique, hself⟩ := hmeans _ htext
    rw [List.forall_mem_singleton, hname] at hunique hself
    refine ⟨output, _, hresult, by rw [hc, List.map_singleton, hname], htext, ?_, ?_⟩
    · exact hunique.mpr ⟨['a', 'b'], Json.unquote?_eq_some_iff.mp (by decide)⟩
    · rw [hc]
      exact mt hself.mp (by decide)

/-- Two legal keys under which the block does not mean an object with the key for its member:
the first names a letter by its code, and the member is named by the letter; the second names
half of a pair, and the block means nothing. -/
theorem scanSource_json_escaped :
    (∃ output document,
      (scanSource {} {} (.ofList ⟨2024, 5, 6, 7, 8, 9⟩ []) (schemaNaming "a\\u0062")).result =
        .ok output ∧
      output.table.columns.map Column.jsonName = ["a\\u0062"] ∧
      Json.IsText document (((Scanner.start {} {} (.ofList ⟨2024, 5, 6, 7, 8, 9⟩ [])).readThrough
        (sourceLines (schemaNaming "a\\u0062"))).scanner.builder.closedBody
          output.table.primaryKeys .json).toList ∧
      document.Means (.ofData [(['a', 'b'], .string [])]) ∧
      ¬ document.Means (.ofColumns output.table.columns)) ∧
    (∃ output document,
      (scanSource {} {} (.ofList ⟨2024, 5, 6, 7, 8, 9⟩ []) (schemaNaming "\\ud83c")).result =
        .ok output ∧
      output.table.columns.map Column.jsonName = ["\\ud83c"] ∧
      Json.IsText document (((Scanner.start {} {} (.ofList ⟨2024, 5, 6, 7, 8, 9⟩ [])).readThrough
        (sourceLines (schemaNaming "\\ud83c"))).scanner.builder.closedBody
          output.table.primaryKeys .json).toList ∧
      ∀ value, ¬ document.Means value) := by
  constructor
  · obtain ⟨output, c, hresult, hc, hname, hkind, htext⟩ :=
      isText_naming "a\\u0062" (by decide) (by decide)
    have hmeans : (Json.template [c]).Means (.ofData [(['a', 'b'], .string [])]) := by
      refine Json.means_template_iff.mpr ⟨_, rfl, .cons ⟨?_, ?_⟩ .nil⟩
      · rw [hname]
        exact Json.unquote?_eq_some_iff.mp (by decide)
      · rw [hkind]
        rfl
    have hescaped : ¬ (Json.template [c]).Means (.ofColumns [c]) := by
      rw [Json.means_ofColumns_iff (by simpa [hname] using by decide)]
      simp [hname]
    refine ⟨output, _, hresult, by rw [hc, List.map_singleton, hname], htext, hmeans, ?_⟩
    rw [hc]
    exact hescaped
  · obtain ⟨output, c, hresult, hc, hname, hkind, htext⟩ :=
      isText_naming "\\ud83c" (by decide) (by decide)
    refine ⟨output, _, hresult, by rw [hc, List.map_singleton, hname], htext, ?_⟩
    intro value hvalue
    obtain ⟨members, -, hall⟩ := Json.means_template_iff.mp hvalue
    obtain ⟨key, hkey⟩ := Json.exists_isData_iff.mp ⟨members, hall⟩ c (List.mem_singleton_self c)
    have hnone : Json.unquote? "\\ud83c".toList = none := by decide
    rw [hname, ← Json.unquote?_eq_some_iff, hnone] at hkey
    cases hkey

end SchemaReport
