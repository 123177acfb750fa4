import SchemaReport.Proofs.Schema.Skipped

/-! The classes of lines.

A line is a directive when its canonical form is a keyword, letter for letter, and a colon, with
or without a list marker before it (`classify_eq_some_iff`); it is malformed when there is no
colon and the line as written is one word glued to a keyword (`classify_eq_error_iff`); every
other line tells nothing. The canonical form is classified like the line itself, but for prose
that is a single word once its white space is gone, and a directive has its value from what
follows its keyword and colon (`classify_exact`). -/
namespace SchemaReport.Schema
open Text

/-! ### What a line may look like -/

/-- The marker of a list item, in a canonical line. -/
def marker (marked : Bool) : List Char := if marked then ['-'] else []

/-- A canonical line that is a directive: perhaps a marker, then the keyword, a colon and the
rest. -/
def Opens (k : Keyword) (text rest : List Char) : Prop :=
  ∃ marked, k.allowed marked = true ∧ text = marker marked ++ k.word.toList ++ ':' :: rest

/-- A line as written that is one word glued to a keyword, without what is invisible around it;
as a list item, without the marker and the white space after it. -/
inductive Glued (raw : List Char) : Prop
  | word {k : Keyword} {word : List Char} (seen : strip isInvisible raw = word)
      (solid : ∀ c ∈ word, isBlank c = false) (begins : k.word.toList <+: word)
      (allowed : k.allowed false = true)
  | item {k : Keyword} {blanks word : List Char} (seen : strip isInvisible raw = '-' :: blanks ++ word)
      (blank : ∀ c ∈ blanks, isBlank c = true) (solid : ∀ c ∈ word, isBlank c = false)
      (begins : k.word.toList <+: word)

/-- What follows the first colon of a line, which its value is cut from. -/
def candidate? (line : List Char) : Option (List Char) := (splitOnce ':' line).map Prod.snd

/-- What a candidate is worth. -/
def valueOf : List Char → Except ValueError (List Char)
  | [] => .error .emptyValue
  | [','] => .error (.invalidValue ',')
  | [':'] => .error (.invalidValue ':')
  | candidate => .ok (cutValue candidate)

/-- A line is worth what its candidate is worth. -/
theorem extractValue_eq (line : List Char) : extractValue line =
    match candidate? line with
    | none => .error .malformedLine
    | some candidate => valueOf candidate := by
  unfold extractValue candidate?
  cases splitOnce ':' line with
  | none => rfl
  | some parts =>
    obtain ⟨key, candidate⟩ := parts
    unfold valueOf
    dsimp only [Option.map_some]
    split <;> simp_all

theorem valueOf_ne_malformed (candidate : List Char) :
    valueOf candidate ≠ .error .malformedLine := by
  unfold valueOf
  split <;> simp

/-! ### Keywords -/

theorem Keyword.word_first (k : Keyword) (rest : List Char) : k.word.toList ≠ '-' :: rest := by
  cases k <;> simp [word]

theorem Keyword.word_solid {k : Keyword} : ∀ c ∈ k.word.toList, isBlank c = false ∧ c ≠ ':' := by
  have hall : (k.word.toList.all fun c => !isBlank c && c != ':') = true := by cases k <;> rfl
  simpa using hall

theorem Keyword.canonical_word (k : Keyword) : canonical k.word.toList = k.word.toList := by
  cases k <;> decide

/-- Behind a marker any keyword may stand. -/
theorem Keyword.allowed_item (k : Keyword) : k.allowed true = true := rfl

theorem splitMarker_append {k : Keyword} (marked : Bool) (rest : List Char) :
    splitMarker (marker marked ++ k.word.toList ++ rest) = (marked, k.word.toList ++ rest) := by
  cases marked with
  | true => rfl
  | false =>
    obtain ⟨c, more, hword, -⟩ := k.word_eq_cons
    have hc : c ≠ '-' := fun h => k.word_first more (by rw [hword, h])
    rw [marker, if_neg Bool.false_ne_true, List.nil_append, hword, List.cons_append]
    unfold splitMarker
    split
    · next h => exact absurd (List.cons.inj h).1 hc
    · rfl

/-- The marker and the rest are the line. -/
theorem eq_marker_append (line : List Char) :
    line = marker (splitMarker line).1 ++ (splitMarker line).2 := by
  unfold splitMarker
  split <;> rfl

/-! ### Directives -/

theorem classify_eq_some_iff {raw : List Char} {k : Keyword} :
    classify raw = .ok (some k) ↔ ∃ rest, Opens k (canonical raw) rest := by
  constructor
  · intro h
    cases hsplit : splitOnce ':' (splitMarker (canonical raw)).2 with
    | none =>
      rw [classify, keywordOf_of_colon_not_mem (splitOnce_eq_none_iff.mp hsplit)] at h
      split at h <;> cases h
    | some parts =>
      obtain ⟨key, rest⟩ := parts
      rw [classify, keywordOf_of_splitOnce hsplit] at h
      obtain ⟨rfl, hallowed⟩ := Keyword.ofKey?_eq_some_iff.mp (Except.ok.inj h)
      refine ⟨rest, (splitMarker (canonical raw)).1, hallowed, ?_⟩
      rw [List.append_assoc, ← (splitOnce_eq_some_iff.mp hsplit).1, ← eq_marker_append]
  · rintro ⟨rest, marked, hallowed, htext⟩
    have hmarker : splitMarker (canonical raw) = (marked, k.word.toList ++ ':' :: rest) := by
      rw [htext, splitMarker_append]
    have hsplit : splitOnce ':' (splitMarker (canonical raw)).2 = some (k.word.toList, rest) := by
      rw [hmarker]
      exact splitOnce_eq_some_iff.mpr ⟨rfl, fun h => (k.word_solid ':' h).2 rfl⟩
    rw [classify, keywordOf_of_splitOnce hsplit, hmarker,
      Keyword.ofKey?_eq_some_iff.mpr ⟨rfl, hallowed⟩]

/-- The candidate of a directive is what follows its keyword and colon. -/
theorem Opens.candidate {k : Keyword} {text rest : List Char} (h : Opens k text rest) :
    candidate? text = some rest := by
  obtain ⟨marked, -, rfl⟩ := h
  have hcolon : ':' ∉ marker marked ++ k.word.toList := by
    rw [List.mem_append, not_or]
    refine ⟨?_, fun h => (k.word_solid ':' h).2 rfl⟩
    cases marked <;> decide
  rw [candidate?, splitOnce_eq_some_iff.mpr ⟨rfl, hcolon⟩]
  rfl

/-! ### Lines that lost their colon -/

theorem dropWhile_blanks {blanks word : List Char} (hblank : ∀ c ∈ blanks, isBlank c = true)
    (hsolid : ∀ c ∈ word, isBlank c = false) : (blanks ++ word).dropWhile isBlank = word := by
  rw [List.dropWhile_append_of_pos hblank]
  cases word with
  | nil => rfl
  | cons c rest => exact List.dropWhile_cons_of_neg (by simp [hsolid c List.mem_cons_self])

/-- What stands in a line that is glued: a word with a keyword at its beginning. -/
theorem glued_iff {raw : List Char} : Glued raw ↔ (∀ c ∈ (item raw).2, isBlank c = false) ∧
    ∃ k : Keyword, k.word.toList <+: (item raw).2 ∧ k.allowed (item raw).1 = true := by
  constructor
  · rintro (⟨seen, solid, ⟨rest, hrest⟩, allowed⟩ | ⟨seen, blank, solid, begins⟩)
    · next k word =>
      have hmarker : splitMarker word = (false, word) := by
        rw [← hrest]
        exact splitMarker_append false rest
      have hitem : item raw = (false, word) := by rw [item, seen, hmarker]; rfl
      rw [hitem]
      exact ⟨solid, k, ⟨rest, hrest⟩, allowed⟩
    · next k blanks word =>
      have hitem : item raw = (true, word) := by
        rw [item, seen]
        exact congrArg (Prod.mk true) (dropWhile_blanks blank solid)
      rw [hitem]
      exact ⟨solid, k, begins, k.allowed_item⟩
  · rintro ⟨hsolid, k, hbegins, hallowed⟩
    have hline := eq_marker_append (strip isInvisible raw)
    unfold item at hsolid hbegins hallowed
    generalize splitMarker (strip isInvisible raw) = split at hline hsolid hbegins hallowed
    obtain ⟨marked, rest⟩ := split
    cases marked with
    | false => exact .word hline hsolid hbegins hallowed
    | true =>
      have hseen : strip isInvisible raw =
          '-' :: rest.takeWhile isBlank ++ rest.dropWhile isBlank := by
        rw [hline, List.cons_append, List.takeWhile_append_dropWhile]
        rfl
      exact .item hseen (fun c hc => List.mem_takeWhile_imp hc) hsolid hbegins

theorem lostColon_iff {raw : List Char} : lostColon raw = true ↔ Glued raw := by
  rw [glued_iff]
  constructor
  · intro h
    rw [lostColon_eq, Bool.and_eq_true, Bool.and_eq_true, Bool.not_eq_true', Bool.not_eq_true'] at h
    obtain ⟨⟨-, hsolid⟩, hany⟩ := h
    obtain ⟨k, -, hk⟩ := List.any_eq_true.mp hany
    rw [Bool.and_eq_true, List.isPrefixOf_iff_prefix] at hk
    exact ⟨fun c hc => by simpa using List.any_eq_false.mp hsolid c hc, k, hk⟩
  · rintro ⟨hsolid, k, hbegins, hallowed⟩
    refine lostColon_of_keyword ?_ hbegins hallowed
    rintro ⟨c, hc, hblank⟩
    rw [hsolid c hc] at hblank
    cases hblank

theorem classify_eq_error_iff {raw : List Char} {e : ValueError} : classify raw = .error e ↔
    e = .malformedLine ∧ ':' ∉ canonical raw ∧ Glued raw := by
  by_cases hcolon : ':' ∈ canonical raw
  · obtain ⟨key, rest, hbody, hkey⟩ := List.eq_append_cons_of_mem (colon_mem_splitMarker hcolon)
    rw [classify, keywordOf_of_splitOnce (splitOnce_eq_some_iff.mpr ⟨hbody, hkey⟩)]
    simp [hcolon]
  · rw [classify, keywordOf_of_colon_not_mem fun h => hcolon (mem_of_mem_splitMarker h),
      ← lostColon_iff]
    cases lostColon raw <;> simp [hcolon, eq_comm]

/-! ### Canonical forms -/

theorem visible_of_mem_canonical {raw : List Char} {c : Char} (h : c ∈ canonical raw) :
    isInvisible c = false := by
  obtain ⟨d, hd, rfl⟩ := List.mem_map.mp h
  exact isInvisible_narrow d (by simpa using (List.mem_filter.mp hd).2)

/-- What is dropped from the ends of a text is of the class. -/
theorem strip_split (p : Char → Bool) (text : List Char) : ∃ front back,
    text = front ++ strip p text ++ back ∧ (∀ c ∈ front, p c = true) ∧ ∀ c ∈ back, p c = true := by
  refine ⟨text.takeWhile p, ((text.dropWhile p).reverse.takeWhile p).reverse, ?_, fun c hc => ?_,
    fun c hc => ?_⟩
  · rw [strip, List.append_assoc, ← List.reverse_append, List.takeWhile_append_dropWhile,
      List.reverse_reverse, List.takeWhile_append_dropWhile]
  · exact List.mem_takeWhile_imp hc
  · exact List.mem_takeWhile_imp (List.mem_reverse.mp hc)

theorem strip_eq_self {p : Char → Bool} {text : List Char} (h : ∀ c ∈ text, p c = false) :
    strip p text = text := by
  have hself : ∀ l : List Char, (∀ c ∈ l, p c = false) → l.dropWhile p = l := by
    intro l hl
    cases l with
    | nil => rfl
    | cons c rest => exact List.dropWhile_cons_of_neg (by simp [hl c List.mem_cons_self])
  rw [strip, hself text h, hself text.reverse fun c hc => h c (List.mem_reverse.mp hc),
    List.reverse_reverse]

/-- What is invisible around a line does not show in its canonical form. -/
theorem canonical_strip (raw : List Char) : canonical (strip isInvisible raw) = canonical raw := by
  obtain ⟨front, back, hraw, hfront, hback⟩ := strip_split isInvisible raw
  calc canonical (strip isInvisible raw)
      = canonical front ++ canonical (strip isInvisible raw) ++ canonical back := by
        rw [canonical_eq_nil hfront, canonical_eq_nil hback, List.nil_append, List.append_nil]
    _ = canonical raw := by rw [← canonical_append, ← canonical_append, ← hraw]

/-- A word keeps the keyword at its beginning in canonical form. -/
theorem prefix_canonical {k : Keyword} {word : List Char} (h : k.word.toList <+: word) :
    k.word.toList <+: canonical word := by
  obtain ⟨rest, rfl⟩ := h
  rw [canonical_append, k.canonical_word]
  exact List.prefix_append _ _

theorem solid_canonical {raw : List Char} : ∀ c ∈ canonical raw, isBlank c = false := by
  intro c hc
  have hvisible := visible_of_mem_canonical hc
  rw [isInvisible, Bool.or_eq_false_iff] at hvisible
  exact hvisible.1

/-- A glued line is glued in canonical form. -/
theorem Glued.canonical {raw : List Char} (h : Glued raw) : Glued (canonical raw) := by
  have hstrip : strip isInvisible (Schema.canonical raw) =
      Schema.canonical (strip isInvisible raw) := by
    rw [canonical_strip, strip_eq_self fun c hc => visible_of_mem_canonical hc]
  cases h with
  | word seen solid begins allowed =>
    rw [seen] at hstrip
    exact .word hstrip solid_canonical (prefix_canonical begins) allowed
  | @item k blanks word seen blank solid begins =>
    have hgap : Schema.canonical ('-' :: blanks ++ word) = '-' :: [] ++ Schema.canonical word := by
      have hblanks : Schema.canonical blanks = [] :=
        canonical_eq_nil fun c hc => by rw [isInvisible, blank c hc, Bool.true_or]
      rw [canonical_append, ← List.singleton_append, canonical_append, hblanks]
      rfl
    rw [seen, hgap] at hstrip
    exact .item hstrip nofun solid_canonical (prefix_canonical begins)

/-! ### The classes -/

/-- **Lines are told apart by exact keys**, for every line. It is a directive exactly when its
canonical form opens with the keyword, and malformed exactly when that form has no colon and the
line as written is one word glued to a keyword; otherwise it tells nothing. The canonical form is
a directive exactly when the line is, with the same keyword, and malformed if the line is. A
directive is never without a candidate for its value: it is what follows the keyword and the
colon. -/
theorem classify_exact (raw : String) :
    (∀ number, (Line.mk number raw).keyword = classify raw.toList) ∧
    (∀ k, classify raw.toList = .ok (some k) ↔ ∃ rest, Opens k (canonical raw.toList) rest) ∧
    (∀ e, classify raw.toList = .error e ↔
      e = .malformedLine ∧ ':' ∉ canonical raw.toList ∧ Glued raw.toList) ∧
    (classify raw.toList = .ok none ↔
      (∀ k rest, ¬ Opens k (canonical raw.toList) rest) ∧
      ¬ (':' ∉ canonical raw.toList ∧ Glued raw.toList)) ∧
    (∀ k, classify raw.toList = .ok (some k) ↔ classify (canonical raw.toList) = .ok (some k)) ∧
    (classify raw.toList = .error .malformedLine →
      classify (canonical raw.toList) = .error .malformedLine) ∧
    ∀ k, classify raw.toList = .ok (some k) →
      extractValue (canonical raw.toList) ≠ .error .malformedLine ∧
      ∀ rest, Opens k (canonical raw.toList) rest →
        candidate? (canonical raw.toList) = some rest ∧
        extractValue (canonical raw.toList) = valueOf rest := by
  refine ⟨fun number => rfl, fun k => classify_eq_some_iff, fun e => classify_eq_error_iff, ?_,
    fun k => ?_, fun h => ?_, fun k h => ?_⟩
  · constructor
    · intro h
      refine ⟨fun k rest hopens => ?_, fun hmalformed => ?_⟩
      · rw [classify_eq_some_iff.mpr ⟨rest, hopens⟩] at h
        cases h
      · rw [classify_eq_error_iff.mpr ⟨rfl, hmalformed⟩] at h
        cases h
    · rintro ⟨hopens, hmalformed⟩
      match h : classify raw.toList with
      | .ok none => rfl
      | .ok (some k) =>
        obtain ⟨rest, hrest⟩ := classify_eq_some_iff.mp h
        exact absurd hrest (hopens k rest)
      | .error e => exact absurd (classify_eq_error_iff.mp h).2 hmalformed
  · rw [classify_eq_some_iff, classify_eq_some_iff, canonical_canonical]
  · obtain ⟨-, hcolon, hglued⟩ := classify_eq_error_iff.mp h
    exact classify_eq_error_iff.mpr ⟨rfl, (canonical_canonical _).symm ▸ hcolon, hglued.canonical⟩
  · obtain ⟨rest, hrest⟩ := classify_eq_some_iff.mp h
    have hvalue : ∀ rest, Opens k (canonical raw.toList) rest →
        extractValue (canonical raw.toList) = valueOf rest := by
      intro rest hopens
      rw [extractValue_eq, hopens.candidate]
    refine ⟨?_, fun rest hopens => ⟨hopens.candidate, hvalue rest hopens⟩⟩
    rw [hvalue rest hrest]
    exact valueOf_ne_malformed rest

end SchemaReport.Schema
