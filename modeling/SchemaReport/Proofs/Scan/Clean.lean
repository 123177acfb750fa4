import SchemaReport.Proofs.Scan.Names
import SchemaReport.Proofs.Schema.Values

/-! What is read from a schema is clean.

A text is clean when it has no delimiter: no comma, no white space, no byte order mark and no
wide punctuation. The values of directives are clean (`Says.clean`) and so are the spellings
of clean names, so that whatever the scanner has taken over from a schema is clean as well,
in its table and in its draft (`clean_feedAll`). -/
namespace SchemaReport
open Text Schema

/-! ### Clean texts -/

namespace Text

/-- A text without delimiters. -/
def Clean (text : String) : Prop := ∀ c ∈ text.toList, inSpans delimiterSpans c = false

instance (text : String) : Decidable (Clean text) :=
  decidable_of_iff (text.toList.all fun c => !inSpans delimiterSpans c) (by simp [Clean])

theorem clean_empty : Clean "" := fun c hc => by cases hc

theorem inSpans_map_iff {marks : List Char} {c : Char} :
    inSpans (marks.map fun d => (d.toNat, d.toNat)) c = true ↔ c ∈ marks := by
  have hchar : ∀ d : Char, (d.toNat ≤ c.toNat ∧ c.toNat ≤ d.toNat) ↔ d = c := by
    intro d
    rw [← Char.toNat_inj]
    omega
  simp [inSpans_iff, hchar]

theorem isDelimiter_iff {c : Char} :
    inSpans delimiterSpans c = true ↔ c ∈ delimiterMarks ∨ isBlank c = true := by
  rw [delimiterSpans, inSpans_append, Bool.or_eq_true, inSpans_map_iff, isBlank]

theorem Clean.not_mem {text : String} (h : Clean text) {c : Char}
    (hc : inSpans delimiterSpans c = true) : c ∉ text.toList := by
  intro hmem
  rw [h c hmem] at hc
  cases hc

end Text

/-- A value is clean. -/
theorem Schema.Line.Says.clean {line : Line} {k : Keyword} {value : String}
    (h : line.Says k value) : Clean value := by
  obtain ⟨hcomma, htext⟩ := extractValue_eq_ok h.value
  intro c hc
  obtain ⟨d, hd, hcd⟩ := List.mem_map.mp (htext c hc)
  obtain ⟨hwide, hstop, hcolon⟩ := narrow_ne_wide d
  have hvisible : isInvisible c = false := by
    rw [← hcd]
    exact isInvisible_narrow d (by simpa using (List.mem_filter.mp hd).2)
  have hne : c ≠ ',' := fun h => hcomma (h ▸ hc)
  rw [hcd] at hwide hstop hcolon
  simp only [isInvisible, Bool.or_eq_false_iff, beq_eq_false_iff_ne] at hvisible
  rw [← Bool.not_eq_true, isDelimiter_iff, delimiterMarks]
  simp [hne, hwide, hstop, hcolon, hvisible]

theorem Naming.clean_structName {name : String} (h : Clean name) : Clean (structName name) := by
  intro c hc
  by_contra hd
  rw [Bool.not_eq_false] at hd
  rw [structName, String.toList_ofList] at hc
  exact h.not_mem hd (delimiter_mem_of_pascal hd hc)

theorem Naming.clean_jsonName {name : String} (h : Clean name) : Clean (jsonName name) := by
  intro c hc
  by_contra hd
  rw [Bool.not_eq_false] at hd
  rw [jsonName, String.toList_ofList] at hc
  exact h.not_mem hd (delimiter_mem_of_camel hd hc)

/-! ### Clean scanners -/

/-- A column whose texts are clean, and whose length is one. -/
structure Column.Clean (c : Column) : Prop where
  chineseName : Text.Clean c.chineseName
  length : Length.isDigits c.length.text = true
  structName : Text.Clean c.structName
  jsonName : Text.Clean c.jsonName

theorem Column.clean_blank : blank.Clean := ⟨clean_empty, rfl, clean_empty, clean_empty⟩

/-- A table whose texts are clean. -/
structure Table.Clean (t : Table) : Prop where
  sourceName : Text.Clean t.sourceName
  structName : Text.Clean t.structName
  jsonName : Text.Clean t.jsonName
  description : Text.Clean t.description
  columns : ∀ c ∈ t.columns, c.Clean
  primaryKeys : Text.Clean t.primaryKeys

/-- A draft whose texts are clean. -/
structure Draft.Clean (d : Draft) : Prop where
  heading : ∀ heading ∈ d.heading, Text.Clean heading.chineseName
  length : ∀ length ∈ d.length, Length.isDigits length.text = true

theorem Draft.clean_empty : Draft.Clean {} := ⟨nofun, nofun⟩

theorem Length.isDigits_of_parse? {text : String} {length : Length}
    (h : parse? text = some length) : isDigits length.text = true := by
  unfold parse? at h
  split at h
  · next hdigits =>
    rw [← Option.some.inj h]
    exact hdigits
  · cases h

/-- A field of a draft is clean when what was written and what is inherited are. -/
theorem Draft.settled_of {α : Type} {p : α → Prop} {mode : MissingFields} {written : Option α}
    {inherited value : α} (h : settled mode written inherited = some value)
    (hwritten : ∀ a ∈ written, p a) (hinherited : p inherited) : p value := by
  cases written with
  | some a =>
    rw [settled_some] at h
    exact hwritten value h
  | none =>
    cases mode with
    | error => cases h
    | inherit => exact Option.some.inj h ▸ hinherited

theorem Draft.Clean.complete {d : Draft} (h : d.Clean) {mode : MissingFields}
    {previous column : Column} (hprevious : previous.Clean) {name : String}
    (hname : Text.Clean name) (hcomplete : d.complete mode previous name = .ok column) :
    column.Clean := by
  obtain ⟨hheading, -, hlength, -, hstruct, hjson⟩ := complete_eq_ok hcomplete
  have hclean := settled_of (p := fun heading : Heading => Text.Clean heading.chineseName)
    hheading h.heading hprevious.chineseName
  have hdigits := settled_of (p := fun length : Length => Length.isDigits length.text = true)
    hlength h.length hprevious.length
  refine ⟨hclean, hdigits, ?_, ?_⟩
  · rw [hstruct]
    exact Naming.clean_structName hname
  · rw [hjson]
    exact Naming.clean_jsonName hname

namespace Scanner

/-- A scanner whose table and draft are clean. -/
structure Clean (s : Scanner) : Prop where
  table : s.table.Clean
  draft : (s.draft.getD {}).Clean

theorem clean_start (settings : ScanSettings) (names : RenderSettings) (clock : Clock) :
    (start settings names clock).Clean :=
  ⟨⟨clean_empty, clean_empty, clean_empty, clean_empty, nofun, clean_empty⟩, Draft.clean_empty⟩

theorem Clean.previous {s : Scanner} (h : s.Clean) : s.previous.Clean := by
  unfold Scanner.previous
  cases hlast : s.table.columns.getLast? with
  | none =>
    rw [List.getLastD_eq_getLast?, hlast]
    exact Column.clean_blank
  | some c =>
    rw [List.getLastD_eq_getLast?, hlast]
    exact h.table.columns c (List.mem_of_getLast? hlast)

/-- A change to the draft that keeps it clean keeps the scanner clean. -/
theorem Clean.sketch {s : Scanner} (h : s.Clean) {change : Draft → Draft}
    (hchange : ∀ d : Draft, d.Clean → (change d).Clean) : (s.sketch change).Clean :=
  ⟨h.table, hchange _ h.draft⟩

theorem clean_obey {s : Scanner} (h : s.Clean) {line : Line} {k : Keyword} {value : String}
    (hv : line.Says k value) : (s.obey line value k).scanner.Clean := by
  have hvalue := hv.clean
  cases k with
  | tableName =>
    exact ⟨{ h.table with
      sourceName := hvalue
      structName := Naming.clean_structName hvalue
      jsonName := Naming.clean_jsonName hvalue }, h.draft⟩
  | tableDescription => exact ⟨{ h.table with description := hvalue }, h.draft⟩
  | columnDescription =>
    refine ⟨h.table, ⟨fun heading hheading => ?_, nofun⟩⟩
    rw [← Option.some.inj hheading]
    exact hvalue
  | type | nullable =>
    simp only [obey, setType, setNullable, accepted]
    refine h.sketch ?_
    intro d hd
    exact ⟨hd.heading, hd.length⟩
  | length =>
    simp only [obey, setLength]
    split
    · next length hlength =>
      simp only [accepted]
      refine h.sketch ?_
      intro d hd
      refine ⟨hd.heading, fun other hother => ?_⟩
      rw [← Option.some.inj hother]
      exact Length.isDigits_of_parse? hlength
    · exact h
  | name =>
    simp only [obey, closeColumn]
    split
    · exact ⟨h.table, Draft.clean_empty⟩
    · next column hcolumn =>
      refine ⟨{ h.table with columns := fun c hc => ?_ }, Draft.clean_empty⟩
      rcases List.mem_append.mp hc with hc | hc
      · exact h.table.columns c hc
      · rw [List.mem_singleton.mp hc]
        exact h.draft.complete h.previous hvalue hcolumn
  | primaryKeys => exact ⟨{ h.table with primaryKeys := hvalue }, h.draft⟩

/-- Whatever lines a scanner is fed, it stays clean. -/
theorem clean_feedAll {s : Scanner} (h : s.Clean) (lines : List Line) : (s.feedAll lines).Clean :=
  feedAll_invariant Clean (fun _ _ _ _ ht _ hv => clean_obey ht hv) h lines

/-- No key of a column has a comma. -/
theorem comma_not_mem_jsonName (settings : ScanSettings) (names : RenderSettings) (clock : Clock)
    (lines : List Line) :
    ∀ c ∈ (after settings names clock lines).table.columns, ',' ∉ c.jsonName.toList :=
  fun c hc => ((clean_feedAll (clean_start settings names clock) lines).table.columns c
    hc).jsonName.not_mem (by decide)

end Scanner
end SchemaReport
