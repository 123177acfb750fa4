import SchemaReport.Proofs.Scan.Clean

/-! What a table stores.

Whatever lines a scanner has been fed, refused ones among them, its table holds no white space,
no byte order mark, no comma and no wide punctuation, its spellings hold no underscore, and its
lengths are runs of digits (`stores_clean`). The texts are clean because every value is
(`clean_feedAll`); the spellings are those of names (`spelled_feedAll`). -/
namespace SchemaReport
open Text Schema

/-! ### The texts of a table -/

/-- The spellings a column stores. -/
def Column.spellings (c : Column) : List String := [c.structName, c.jsonName]

def Column.texts (c : Column) : List String := c.chineseName :: c.spellings

/-- The spellings a table stores, those of its columns included. -/
def Table.spellings (t : Table) : List String :=
  [t.structName, t.jsonName] ++ t.columns.flatMap Column.spellings

/-- All the texts a table stores, but for lengths. -/
def Table.texts (t : Table) : List String :=
  [t.sourceName, t.structName, t.jsonName, t.description, t.primaryKeys] ++
    t.columns.flatMap Column.texts

theorem Table.Clean.texts {t : Table} (h : t.Clean) {text : String} (hmem : text ∈ t.texts) :
    Text.Clean text := by
  rcases List.mem_append.mp hmem with hmem | hmem
  · simp only [List.mem_cons, List.not_mem_nil, or_false] at hmem
    rcases hmem with rfl | rfl | rfl | rfl | rfl
    · exact h.sourceName
    · exact h.structName
    · exact h.jsonName
    · exact h.description
    · exact h.primaryKeys
  · obtain ⟨c, hc, hmem⟩ := List.mem_flatMap.mp hmem
    simp only [Column.texts, Column.spellings, List.mem_cons, List.not_mem_nil, or_false] at hmem
    rcases hmem with rfl | rfl | rfl
    · exact (h.columns c hc).chineseName
    · exact (h.columns c hc).structName
    · exact (h.columns c hc).jsonName

theorem Length.isDigits_iff {text : String} : isDigits text = true ↔
    text.toList ≠ [] ∧ ∀ c ∈ text.toList, c.isDigit = true := by
  simp [isDigits]

/-! ### Spellings -/

/-- Every spelling of the table is one of a name. -/
def Table.Spelled (t : Table) : Prop :=
  ∀ text ∈ t.spellings, ∃ name, text = Naming.structName name ∨ text = Naming.jsonName name

/-- The spellings of no name are empty. -/
theorem Table.spelled_empty : empty.Spelled := by
  intro text hmem
  have htext : text = "" := by simpa [spellings, empty] using hmem
  exact ⟨"", .inl (htext.trans (by decide))⟩

/-- The names of a table are replaced by those of its new name. -/
theorem Table.Spelled.named {t : Table} (h : t.Spelled) (value : String) :
    { t with
      sourceName := value
      structName := Naming.structName value
      jsonName := Naming.jsonName value : Table }.Spelled := by
  intro text hmem
  rcases List.mem_append.mp hmem with hmem | hmem
  · simp only [List.mem_cons, List.not_mem_nil, or_false] at hmem
    exact ⟨value, hmem⟩
  · exact h text (List.mem_append_right _ hmem)

/-- A column is spelled as the line that closes it says. -/
theorem Table.Spelled.added {t : Table} (h : t.Spelled) {c : Column} {name : String}
    (hstruct : c.structName = Naming.structName name) (hjson : c.jsonName = Naming.jsonName name) :
    { t with columns := t.columns ++ [c] : Table }.Spelled := by
  intro text hmem
  rw [spellings, List.flatMap_append, ← List.append_assoc] at hmem
  rcases List.mem_append.mp hmem with hmem | hmem
  · exact h text hmem
  · rw [List.flatMap_singleton, Column.spellings, hstruct, hjson] at hmem
    simp only [List.mem_cons, List.not_mem_nil, or_false] at hmem
    exact ⟨name, hmem⟩

theorem Table.Spelled.underscore_not_mem {t : Table} (h : t.Spelled) {text : String}
    (hmem : text ∈ t.spellings) : '_' ∉ text.toList := by
  obtain ⟨name, rfl | rfl⟩ := h text hmem
  · rw [Naming.structName, String.toList_ofList]
    exact Naming.underscore_not_mem_pascal _
  · rw [Naming.jsonName, String.toList_ofList]
    exact Naming.underscore_not_mem_camel _

namespace Scanner

theorem Becomes.spelled {s t : Scanner} {value : String} {k : Keyword} (h : s.Becomes value k t)
    (hs : s.table.Spelled) : t.table.Spelled := by
  cases h with
  | drafting => exact hs
  | naming => exact hs.named value
  | describing => exact hs
  | adding hcomplete =>
    obtain ⟨-, -, -, -, hstruct, hjson⟩ := Draft.complete_eq_ok hcomplete
    exact hs.added hstruct hjson
  | ending => exact hs

/-- The spellings in the table are those of names, after any lines. -/
theorem spelled_feedAll {s : Scanner} (h : s.table.Spelled) (lines : List Line) :
    (s.feedAll lines).table.Spelled :=
  feedAll_invariant (fun t => t.table.Spelled)
    (fun t line value k ht _ _ => (becomes_obey t line value k).spelled ht) h lines

/-- **What a table stores is clean.** Whatever lines a scanner has been fed, refused ones and
lines after the end of the table among them: no text of its table holds white space, a byte order
mark, a comma or wide punctuation; no spelling in it, of the table or of a column, holds an
underscore; and the length of every column is a run of ASCII digits that is not empty. -/
theorem stores_clean (settings : ScanSettings) (names : RenderSettings) (clock : Clock)
    (lines : List Line) :
    (∀ text ∈ (after settings names clock lines).table.texts, ∀ c ∈ text.toList,
      isBlank c = false ∧ c ≠ byteOrderMark ∧ c ∉ [',', '，', '。', '：']) ∧
    (∀ text ∈ (after settings names clock lines).table.spellings, '_' ∉ text.toList) ∧
    ∀ column ∈ (after settings names clock lines).table.columns,
      column.length.text.toList ≠ [] ∧ ∀ c ∈ column.length.text.toList, c.isDigit = true := by
  have hclean := (clean_feedAll (clean_start settings names clock) lines).table
  have hspelled : (after settings names clock lines).table.Spelled :=
    spelled_feedAll Table.spelled_empty lines
  refine ⟨fun text htext c hc => ?_, fun text htext => hspelled.underscore_not_mem htext,
    fun column hcolumn => Length.isDigits_iff.mp (hclean.columns column hcolumn).length⟩
  have hdelimiter := hclean.texts htext c hc
  rw [← Bool.not_eq_true, isDelimiter_iff, not_or, Bool.not_eq_true] at hdelimiter
  obtain ⟨hmarks, hblank⟩ := hdelimiter
  simp only [delimiterMarks, List.mem_cons, List.not_mem_nil, or_false, not_or] at hmarks ⊢
  obtain ⟨hcomma, hwide, hstop, hcolon, hmark⟩ := hmarks
  exact ⟨hblank, hmark, hcomma, hwide, hstop, hcolon⟩

end Scanner
end SchemaReport
