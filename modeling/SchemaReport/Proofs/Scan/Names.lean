import SchemaReport.Proofs.Scan.Columns

/-! The characters of names.

Values end at their first comma, and lines are read without white space, byte order marks
and wide punctuation, so no value holds any of these (`Says.clean`). The upper-case tables
bring none of them in (`upperAvoids`), and so the spellings of a clean name are clean
as well; nor do they bring in the underscore, which joins the segments of a name and is in no
spelling of it (`underscore_not_mem_pascal`). -/
namespace SchemaReport
open Text Schema

namespace Text

/-! ### Upper case -/

/-- A character is mapped to itself or by one of the runs that cover it. -/
theorem mapByRuns_cases (runs : List CaseRun) (c : Char) : mapByRuns runs c = c ∨
    ∃ run ∈ runs, run.covers c = true ∧ mapByRuns runs c = run.map c := by
  unfold mapByRuns
  split
  · next run h =>
    exact .inr ⟨run, List.mem_of_find?_eq_some h,
      List.find?_some (p := fun run : CaseRun => run.covers c) h, rfl⟩
  · exact .inl rfl

/-- What a run maps to lies within its bounds, moved by its shift. -/
theorem CaseRun.map_bounds {run : CaseRun} {c : Char} (h : run.covers c = true) :
    (run.map c).toNat = 0 ∨ (run.first + run.shift ≤ (run.map c).toNat ∧
      (run.map c).toNat ≤ run.last + run.shift) := by
  simp only [covers, Bool.and_eq_true, decide_eq_true_eq] at h
  obtain ⟨⟨hfirst, hlast⟩, -⟩ := h
  rw [CaseRun.map]
  by_cases hvalid : (c.toNat + run.shift).toNat.isValidChar
  · have hcode : (Char.ofNat (c.toNat + run.shift).toNat).toNat = (c.toNat + run.shift).toNat := by
      rw [Char.ofNat, dif_pos hvalid]
      rfl
    omega
  · left
    rw [Char.ofNat, dif_neg hvalid]
    rfl

/-- The comma, which ends a value, the wide punctuation that is narrowed in lines, and the
mark that is left out of them. -/
def delimiterMarks : List Char := [',', '，', '。', '：', byteOrderMark]

/-- Characters that no value holds: the marks and white space. -/
def delimiterSpans : List Span := (delimiterMarks.map fun c => (c.toNat, c.toNat)) ++ blankSpans

/-- Whether the characters a run maps to lie outside of a span. -/
def CaseRun.avoids (run : CaseRun) (span : Span) : Bool :=
  run.last + run.shift < span.1 || span.2 < run.first + run.shift

/-- No character of the spans comes from a different character by the upper-case tables. -/
structure UpperAvoids (spans : List Span) : Prop where
  runs : ∀ run ∈ upperRuns, ∀ span ∈ spans, run.avoids span = true
  expansions : ∀ entry ∈ upperExpansions, entry.2.any (inSpans spans) = false
  positive : ∀ span ∈ spans, 0 < span.1

/-- The mark between the segments of a name. -/
def underscoreSpan : List Span := [('_'.toNat, '_'.toNat)]

theorem upperAvoids : UpperAvoids delimiterSpans ∧ UpperAvoids underscoreSpan :=
  ⟨⟨by decide +kernel, by decide +kernel, by decide⟩,
    ⟨by decide +kernel, by decide +kernel, by decide⟩⟩

theorem mem_of_lookup {c : Char} {expansion : List Char}
    (h : upperExpansions.lookup c = some expansion) : (c, expansion) ∈ upperExpansions := by
  obtain ⟨before, after, hentries, -⟩ := List.lookup_eq_some_iff.mp h
  rw [hentries]
  exact List.mem_append_right before List.mem_cons_self

/-- Upper case brings in no character of the spans. -/
theorem UpperAvoids.eq_of_mem_upper {spans : List Span} (h : UpperAvoids spans) {c d : Char}
    (hmem : d ∈ upper c) (hd : inSpans spans d = true) : d = c := by
  unfold upper at hmem
  split at hmem
  · next expansion hlookup =>
    have havoid := List.any_eq_false.mp (h.expansions _ (mem_of_lookup hlookup)) d hmem
    exact absurd hd havoid
  · rw [List.mem_singleton.mp hmem] at hd ⊢
    rcases mapByRuns_cases upperRuns c with hsame | ⟨run, hrun, hcovers, hmap⟩
    · exact hsame
    · rw [hmap] at hd
      obtain ⟨span, hspan, hlow, hhigh⟩ := inSpans_iff.mp hd
      have havoid := h.runs run hrun span hspan
      have hspan0 := h.positive span hspan
      simp only [CaseRun.avoids, Bool.or_eq_true, decide_eq_true_eq] at havoid
      rcases CaseRun.map_bounds hcovers with h0 | ⟨hfirst, hlast⟩
      · omega
      · omega

end Text

namespace Naming

/-! ### Spellings -/

section
variable {spans : List Span} {d : Char}

theorem mem_of_mem_capitalize (h : UpperAvoids spans) (hd : inSpans spans d = true)
    {segment : List Char} (hmem : d ∈ capitalize segment) : d ∈ segment := by
  cases segment with
  | nil => exact hmem
  | cons c rest =>
    rcases List.mem_append.mp hmem with hmem | hmem
    · rw [← h.eq_of_mem_upper hmem hd]
      exact List.mem_cons_self
    · exact List.mem_cons_of_mem c hmem

/-- What upper case does not bring into a field or type spelling stands in a segment of the name. -/
theorem mem_segment_of_mem_pascal (h : UpperAvoids spans) (hd : inSpans spans d = true)
    {name : List Char} (hmem : d ∈ pascal name) :
    ∃ segment ∈ segments (trimmed name), d ∈ segment := by
  obtain ⟨segment, hsegment, hmem⟩ := List.mem_flatMap.mp hmem
  exact ⟨segment, hsegment, mem_of_mem_capitalize h hd hmem⟩

/-- And so it does in a key. -/
theorem mem_segment_of_mem_camel (h : UpperAvoids spans) (hd : inSpans spans d = true)
    {name : List Char} (hmem : d ∈ camel name) :
    ∃ segment ∈ segments (trimmed name), d ∈ segment := by
  unfold camel at hmem
  split at hmem
  · cases hmem
  · next first others hsegments =>
    rw [hsegments]
    rcases List.mem_append.mp hmem with hmem | hmem
    · exact ⟨first, List.mem_cons_self, hmem⟩
    · obtain ⟨segment, hsegment, hmem⟩ := List.mem_flatMap.mp hmem
      exact ⟨segment, List.mem_cons_of_mem first hsegment, mem_of_mem_capitalize h hd hmem⟩

end

/-- A segment holds characters of the name only. -/
theorem mem_of_mem_segments {name segment : List Char} {c : Char} (hs : segment ∈ segments name)
    (hc : c ∈ segment) : c ∈ name := by
  induction name using segments.induct generalizing segment with
  | case1 =>
    rw [segments, List.mem_singleton] at hs
    rw [hs] at hc
    exact hc
  | case2 rest ih =>
    rw [segments, List.mem_cons] at hs
    rcases hs with rfl | hs
    · cases hc
    · exact List.mem_cons_of_mem _ (ih hs hc)
  | case3 d rest hne hrest ih =>
    rw [segments, hrest, List.mem_singleton] at hs
    · subst hs
      rw [List.mem_singleton.mp hc]
      exact List.mem_cons_self
    · exact hne
  | case4 d rest hne first others hrest ih =>
    rw [segments, hrest, List.mem_cons] at hs
    · rcases hs with rfl | hs
      · rcases List.mem_cons.mp hc with rfl | hc
        · exact List.mem_cons_self
        · exact List.mem_cons_of_mem _ (ih (hrest ▸ List.mem_cons_self) hc)
      · exact List.mem_cons_of_mem _ (ih (hrest ▸ List.mem_cons_of_mem _ hs) hc)
    · exact hne

theorem mem_of_mem_strip {p : Char → Bool} {text : List Char} {c : Char} (h : c ∈ strip p text) :
    c ∈ text := by
  rw [strip, List.mem_reverse] at h
  have := (List.dropWhile_suffix p).subset h
  rw [List.mem_reverse] at this
  exact (List.dropWhile_suffix p).subset this

theorem mem_of_mem_trimmed {name segment : List Char} {c : Char}
    (hs : segment ∈ segments (trimmed name)) (hc : c ∈ segment) : c ∈ name :=
  mem_of_mem_strip (mem_of_mem_segments hs hc)

/-- A field or type spelling has delimiters only where the name has them. -/
theorem delimiter_mem_of_pascal {d : Char} (hd : inSpans delimiterSpans d = true)
    {name : List Char} (h : d ∈ pascal name) : d ∈ name := by
  obtain ⟨segment, hsegment, hmem⟩ := mem_segment_of_mem_pascal upperAvoids.1 hd h
  exact mem_of_mem_trimmed hsegment hmem

/-- And so has a key. -/
theorem delimiter_mem_of_camel {d : Char} (hd : inSpans delimiterSpans d = true)
    {name : List Char} (h : d ∈ camel name) : d ∈ name := by
  obtain ⟨segment, hsegment, hmem⟩ := mem_segment_of_mem_camel upperAvoids.1 hd h
  exact mem_of_mem_trimmed hsegment hmem

/-- The mark between segments is in none of them. -/
theorem underscore_not_mem_segments {name segment : List Char} (hs : segment ∈ segments name) :
    '_' ∉ segment := by
  induction name using segments.induct generalizing segment with
  | case1 =>
    rw [segments, List.mem_singleton] at hs
    rw [hs]
    exact List.not_mem_nil
  | case2 rest ih =>
    rw [segments, List.mem_cons] at hs
    rcases hs with rfl | hs
    · exact List.not_mem_nil
    · exact ih hs
  | case3 d rest hne hrest ih =>
    rw [segments, hrest, List.mem_singleton] at hs
    · rw [hs, List.mem_singleton]
      exact fun h => hne h.symm
    · exact hne
  | case4 d rest hne first others hrest ih =>
    rw [segments, hrest, List.mem_cons] at hs
    · rcases hs with rfl | hs
      · rw [List.mem_cons, not_or]
        exact ⟨fun h => hne h.symm, ih (hrest ▸ List.mem_cons_self)⟩
      · exact ih (hrest ▸ List.mem_cons_of_mem _ hs)
    · exact hne

/-- No spelling of a name has an underscore. -/
theorem underscore_not_mem_pascal (name : List Char) : '_' ∉ pascal name := fun h =>
  have ⟨_, hsegment, hmem⟩ := mem_segment_of_mem_pascal upperAvoids.2 (by decide) h
  underscore_not_mem_segments hsegment hmem

theorem underscore_not_mem_camel (name : List Char) : '_' ∉ camel name := fun h =>
  have ⟨_, hsegment, hmem⟩ := mem_segment_of_mem_camel upperAvoids.2 (by decide) h
  underscore_not_mem_segments hsegment hmem

end Naming

/-! ### Lines -/

theorem Schema.narrow_ne_wide (c : Char) :
    narrow c ≠ '，' ∧ narrow c ≠ '。' ∧ narrow c ≠ '：' := by
  rcases narrow_cases c with (rfl | rfl | rfl) | hsame
  · decide
  · decide
  · decide
  · rw [hsame]
    refine ⟨?_, ?_, ?_⟩ <;> rintro rfl <;> exact absurd hsame (by decide)

end SchemaReport
