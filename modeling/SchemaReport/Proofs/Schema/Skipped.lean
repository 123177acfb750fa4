import Mathlib.Data.List.TakeWhile
import SchemaReport.Schema.Directive

/-! Lines that are no directives.

Whether a line is a directive, and which, its canonical form tells alone (`classify_congr`);
the line as written is looked at only where the canonical form has no colon. A line that is
blank, a comment or prose, or has a key that is no keyword, is skipped, and no other is
(`skipped_iff`). -/
namespace SchemaReport.Schema
open Text

/-! ### Directives by their canonical form -/

theorem mem_of_mem_splitMarker {line : List Char} {c : Char} (h : c ∈ (splitMarker line).2) :
    c ∈ line := by
  unfold splitMarker at h
  split at h
  · exact List.mem_cons_of_mem _ h
  · exact h

theorem keywordOf_of_splitOnce {text key rest : List Char}
    (h : splitOnce ':' (splitMarker text).2 = some (key, rest)) (raw : List Char) :
    keywordOf text raw = .ok (Keyword.ofKey? (splitMarker text).1 key) := by
  unfold keywordOf
  simp only [h]

theorem keywordOf_of_colon_not_mem {text : List Char} (h : ':' ∉ (splitMarker text).2)
    (raw : List Char) :
    keywordOf text raw = if lostColon raw then .error .malformedLine else .ok none := by
  unfold keywordOf
  simp only [splitOnce_eq_none_iff.mpr h]

/-- A directive is one however it is written. -/
theorem keywordOf_congr {text raw raw' : List Char} {k : Keyword}
    (h : keywordOf text raw = .ok (some k)) : keywordOf text raw' = .ok (some k) := by
  cases hsplit : splitOnce ':' (splitMarker text).2 with
  | none =>
    rw [keywordOf_of_colon_not_mem (splitOnce_eq_none_iff.mp hsplit)] at h
    split at h <;> cases h
  | some parts => rw [← h, keywordOf_of_splitOnce hsplit, keywordOf_of_splitOnce hsplit]

theorem classify_congr {raw raw' : List Char} {k : Keyword}
    (hcanonical : canonical raw' = canonical raw) (h : classify raw = .ok (some k)) :
    classify raw' = .ok (some k) := by
  rw [classify, hcanonical]
  exact keywordOf_congr h

/-- White space and byte order marks are no part of the canonical form. -/
theorem canonical_insert {c : Char} (hc : isInvisible c = true) (front back : List Char) :
    canonical (front ++ c :: back) = canonical (front ++ back) := by
  have hback : canonical (c :: back) = canonical back := by simp [canonical, hc]
  rw [canonical_append, canonical_append, hback]

theorem narrow_of_isInvisible {c : Char} (hc : isInvisible c = true) : narrow c = c := by
  rcases narrow_cases c with (rfl | rfl | rfl) | hsame
  · exact absurd hc (by decide)
  · exact absurd hc (by decide)
  · exact absurd hc (by decide)
  · exact hsame

/-- Nor is it told there how wide a punctuation mark is written. -/
theorem canonical_narrow (c : Char) (front back : List Char) :
    canonical (front ++ narrow c :: back) = canonical (front ++ c :: back) := by
  cases hc : isInvisible c with
  | true => rw [narrow_of_isInvisible hc]
  | false => simp [canonical, hc, isInvisible_narrow c hc, narrow_narrow]

/-! ### Lines that are skipped -/

/-- A line as written, without what is invisible around it: whether it is a list item, and
what stands there. -/
def item (raw : List Char) : Bool × List Char :=
  let (marked, rest) := splitMarker (strip isInvisible raw)
  (marked, if marked then rest.dropWhile isBlank else rest)

/-- Lines that tell nothing. -/
inductive Skipped (raw : List Char) : Prop
  /-- There is nothing to see. -/
  | blank (h : ∀ c ∈ raw, isInvisible c = true)
  /-- The first thing to see is a hash. -/
  | comment {rest : List Char} (h : canonical raw = '#' :: rest)
  /-- There is no colon, and more than one word. -/
  | sentence (hcolon : ':' ∉ canonical raw) (hwords : ∃ c ∈ (item raw).2, isBlank c = true)
  /-- There is no colon, and no keyword at the beginning. -/
  | word (hcolon : ':' ∉ canonical raw)
      (hword : ∀ k : Keyword, k.word.toList <+: (item raw).2 → k.allowed (item raw).1 = false)
  /-- There is a colon, and before it no keyword. -/
  | unknownKey {key rest : List Char} (h : (splitMarker (canonical raw)).2 = key ++ ':' :: rest)
      (hcolon : ':' ∉ key)
      (hkey : ∀ k : Keyword, key = k.word.toList → k.allowed (splitMarker (canonical raw)).1 = false)

theorem lostColon_eq (raw : List Char) : lostColon raw =
    (!(item raw).2.isEmpty && !(item raw).2.any isBlank && Keyword.all.any fun k =>
      k.word.toList.isPrefixOf (item raw).2 && k.allowed (item raw).1) := rfl

theorem lostColon_of_words {raw : List Char} (h : ∃ c ∈ (item raw).2, isBlank c = true) :
    lostColon raw = false := by
  rw [lostColon_eq, List.any_eq_true.mpr h]
  simp

theorem lostColon_of_word {raw : List Char}
    (h : ∀ k : Keyword, k.word.toList <+: (item raw).2 → k.allowed (item raw).1 = false) :
    lostColon raw = false := by
  have hnone : (Keyword.all.any fun k =>
      k.word.toList.isPrefixOf (item raw).2 && k.allowed (item raw).1) = false := by
    rw [List.any_eq_false]
    intro k _ hk
    rw [Bool.and_eq_true, List.isPrefixOf_iff_prefix] at hk
    rw [h k hk.1] at hk
    cases hk.2
  rw [lostColon_eq, hnone, Bool.and_false]

theorem classify_of_lostColon {raw : List Char} (hcolon : ':' ∉ canonical raw)
    (h : lostColon raw = false) : classify raw = .ok none := by
  rw [classify, keywordOf_of_colon_not_mem fun hmem => hcolon (mem_of_mem_splitMarker hmem), h]
  rfl

theorem classify_of_unknownKey {raw key rest : List Char}
    (h : (splitMarker (canonical raw)).2 = key ++ ':' :: rest) (hcolon : ':' ∉ key)
    (hkey : ∀ k : Keyword, key = k.word.toList →
      k.allowed (splitMarker (canonical raw)).1 = false) : classify raw = .ok none := by
  have hnone : Keyword.ofKey? (splitMarker (canonical raw)).1 key = none := by
    rw [Option.eq_none_iff_forall_ne_some]
    intro k hk
    obtain ⟨hword, hallowed⟩ := Keyword.ofKey?_eq_some_iff.mp hk
    rw [hkey k hword] at hallowed
    cases hallowed
  rw [classify, keywordOf_of_splitOnce (splitOnce_eq_some_iff.mpr ⟨h, hcolon⟩), hnone]

theorem canonical_eq_nil {raw : List Char} (h : ∀ c ∈ raw, isInvisible c = true) :
    canonical raw = [] := by
  rw [canonical, List.filter_eq_nil_iff.mpr fun c hc => by simp [h c hc]]
  rfl

theorem Keyword.word_eq_cons (k : Keyword) : ∃ c rest, k.word.toList = c :: rest ∧ c ≠ '#' := by
  cases k <;> exact ⟨_, _, rfl, by decide⟩

theorem strip_eq_cons {p : Char → Bool} {front back : List Char} {c : Char}
    (hfront : ∀ d ∈ front, p d = true) (hc : p c = false) :
    ∃ more, strip p (front ++ c :: back) = c :: more := by
  have hdrop : (c :: back).dropWhile p = c :: back := List.dropWhile_cons_of_neg (by simp [hc])
  rw [strip, List.dropWhile_append_of_pos hfront, hdrop, List.reverse_cons, List.dropWhile_append]
  split
  · exact ⟨[], by rw [List.dropWhile_cons_of_neg (by simp [hc])]; rfl⟩
  · exact ⟨_, List.reverse_concat ..⟩

theorem item_blank {raw : List Char} (h : ∀ c ∈ raw, isInvisible c = true) :
    item raw = (false, []) := by
  rw [item, strip, List.dropWhile_eq_nil_iff.mpr h]
  rfl

theorem eq_hash_of_narrow {c : Char} (h : narrow c = '#') : c = '#' := by
  rcases narrow_cases c with (rfl | rfl | rfl) | hsame
  · exact absurd h (by decide)
  · exact absurd h (by decide)
  · exact absurd h (by decide)
  · exact hsame.symm.trans h

/-- What a line begins with to the eye is there when the invisible around it is dropped. -/
theorem item_comment {raw rest : List Char} (h : canonical raw = '#' :: rest) :
    ∃ more, item raw = (false, '#' :: more) := by
  obtain ⟨c, visible, hvisible, hc, -⟩ := List.map_eq_cons_iff.mp h
  obtain ⟨front, back, rfl, hfront, hseen, -⟩ := List.filter_eq_cons_iff.mp hvisible
  have hblank : ∀ d ∈ front, isInvisible d = true := fun d hd => by simpa using hfront d hd
  have hshown : isInvisible c = false := by simpa using hseen
  obtain ⟨more, hmore⟩ : ∃ more, strip isInvisible (front ++ c :: back) = c :: more :=
    strip_eq_cons hblank hshown
  rw [item, hmore, eq_hash_of_narrow hc]
  exact ⟨more, rfl⟩

/-- Blank lines, comments, prose and unknown keys are no directives, and no errors. -/
theorem Skipped.classify {raw : List Char} (h : Skipped raw) : classify raw = .ok none := by
  cases h with
  | blank h =>
    refine classify_of_lostColon (by simp [canonical_eq_nil h]) (lostColon_of_word fun k hk => ?_)
    obtain ⟨c, rest, hword, -⟩ := k.word_eq_cons
    rw [item_blank h, hword] at hk
    cases List.prefix_nil.mp hk
  | @comment rest h =>
    by_cases hcolon : ':' ∈ canonical raw
    · -- the key begins with the hash, and no keyword does
      obtain ⟨key, after, hsplit, hkey⟩ := List.eq_append_cons_of_mem hcolon
      have hbody : (splitMarker (canonical raw)).2 = key ++ ':' :: after := by
        rw [← hsplit, h]
        rfl
      refine classify_of_unknownKey hbody hkey fun k hword => ?_
      obtain ⟨c, more, hcons, hc⟩ := k.word_eq_cons
      rw [hword, hcons, List.cons_append, h] at hsplit
      exact absurd (List.cons.inj hsplit).1.symm hc
    · obtain ⟨more, hitem⟩ := item_comment h
      refine classify_of_lostColon hcolon (lostColon_of_word fun k hk => ?_)
      obtain ⟨c, rest, hword, hc⟩ := k.word_eq_cons
      rw [hitem, hword, List.cons_prefix_cons] at hk
      exact absurd hk.1 hc
  | sentence hcolon hwords => exact classify_of_lostColon hcolon (lostColon_of_words hwords)
  | word hcolon hword => exact classify_of_lostColon hcolon (lostColon_of_word hword)
  | unknownKey h hcolon hkey => exact classify_of_unknownKey h hcolon hkey

theorem colon_mem_splitMarker {line : List Char} (h : ':' ∈ line) : ':' ∈ (splitMarker line).2 := by
  unfold splitMarker
  split
  · exact (List.mem_cons.mp h).resolve_left (by decide)
  · exact h

/-- A single word with a keyword at its beginning has lost its colon. -/
theorem lostColon_of_keyword {raw : List Char} {k : Keyword}
    (hwords : ¬∃ c ∈ (item raw).2, isBlank c = true) (hk : k.word.toList <+: (item raw).2)
    (hallowed : k.allowed (item raw).1 = true) : lostColon raw = true := by
  have hseen : (item raw).2.isEmpty = false := by
    obtain ⟨c, more, hword, -⟩ := k.word_eq_cons
    obtain ⟨rest, hrest⟩ := hk
    rw [← hrest, hword]
    rfl
  have hany : (Keyword.all.any fun k =>
      k.word.toList.isPrefixOf (item raw).2 && k.allowed (item raw).1) = true :=
    List.any_eq_true.mpr ⟨k, k.mem_all, by rw [List.isPrefixOf_iff_prefix.mpr hk, hallowed]; rfl⟩
  rw [lostColon_eq, hseen, hany, Bool.eq_false_iff.mpr (mt List.any_eq_true.mp hwords)]
  rfl

/-- **The lines that are skipped** are those: every other is a directive or an error. -/
theorem skipped_iff {raw : List Char} : Skipped raw ↔ classify raw = .ok none := by
  refine ⟨Skipped.classify, fun h => ?_⟩
  by_cases hcolon : ':' ∈ canonical raw
  · obtain ⟨key, rest, hbody, hkey⟩ := List.eq_append_cons_of_mem (colon_mem_splitMarker hcolon)
    rw [SchemaReport.Schema.classify,
      keywordOf_of_splitOnce (splitOnce_eq_some_iff.mpr ⟨hbody, hkey⟩)] at h
    refine .unknownKey hbody hkey fun k hword => ?_
    rw [← Bool.not_eq_true]
    intro hallowed
    rw [Keyword.ofKey?_eq_some_iff.mpr ⟨hword, hallowed⟩] at h
    cases h
  · by_cases hwords : ∃ c ∈ (item raw).2, isBlank c = true
    · exact .sentence hcolon hwords
    · refine .word hcolon fun k hk => ?_
      rw [← Bool.not_eq_true]
      intro hallowed
      rw [SchemaReport.Schema.classify,
        keywordOf_of_colon_not_mem fun hmem => hcolon (mem_of_mem_splitMarker hmem),
        lostColon_of_keyword hwords hk hallowed] at h
      cases h

end SchemaReport.Schema
