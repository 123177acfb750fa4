import SchemaReport.Proofs.Schema.Classes

/-! Values as truncations.

A value is cut from its candidate, what follows the first colon of the line: it is the longest
beginning of the candidate that is free of a delimiter, the comma if the candidate has one and
the colon if it has none (`longest_cutValue`). So no value has a comma, and one with a colon was
cut at a comma behind it. Read again behind any key (`extractValue_keyed`), a value without a colon
is read as it is, and one with a colon is cut at it (`valueOf_of_comma_not_mem`). A line without a
value has no candidate, an empty one, or one that is nothing but a delimiter. -/
namespace SchemaReport.Schema
open Text

/-! ### Longest beginnings -/

/-- The longest beginning of a text that is free of a mark. -/
structure LongestFree (mark : Char) (text value : List Char) : Prop where
  begins : value <+: text
  free : mark ∉ value
  longest : ∀ other, other <+: text → mark ∉ other → other.length ≤ value.length

section
variable {mark : Char} {text value other : List Char}

theorem LongestFree.unique (h : LongestFree mark text value) (h' : LongestFree mark text other) :
    value = other := by
  have hle := h'.longest value h.begins h.free
  have hge := h.longest other h'.begins h'.free
  exact (List.prefix_of_prefix_length_le h.begins h'.begins hle).eq_of_length (by omega)

/-- A text that is free of the mark is its own longest free beginning. -/
theorem longestFree_self (h : mark ∉ text) : LongestFree mark text text :=
  ⟨List.prefix_rfl, h, fun _ hother _ => hother.length_le⟩

/-- What stands before the first mark is the longest free beginning. -/
theorem longestFree_before (h : mark ∉ value) (rest : List Char) :
    LongestFree mark (value ++ mark :: rest) value := by
  refine ⟨List.prefix_append _ _, h, fun other hother hfree => ?_⟩
  by_contra hlonger
  -- a longer beginning has the mark that ends the value
  have hmarked : value ++ [mark] <+: value ++ mark :: rest := ⟨rest, by simp⟩
  have hreaches : value ++ [mark] <+: other := by
    refine List.prefix_of_prefix_length_le hmarked hother ?_
    rw [List.length_append, List.length_singleton]
    omega
  exact hfree (hreaches.subset (by simp))

/-! ### Cutting a candidate -/

/-- The delimiter a candidate is cut at: a comma if it has one, else a colon. -/
def delimiterOf (text : List Char) : Char := if ',' ∈ text then ',' else ':'

theorem delimiterOf_of_not_mem (h : ',' ∉ text) : delimiterOf text = ':' := if_neg h

/-- A candidate is cut to its longest beginning without the delimiter. -/
theorem longest_cutValue (text : List Char) :
    LongestFree (delimiterOf text) text (cutValue text) := by
  unfold cutValue
  split
  · next value rest hsplit =>
    obtain ⟨rfl, hfree⟩ := splitOnce_eq_some_iff.mp hsplit
    rw [delimiterOf, if_pos (by simp)]
    exact longestFree_before hfree rest
  · next hsplit =>
    rw [delimiterOf_of_not_mem (splitOnce_eq_none_iff.mp hsplit)]
    split
    · next value rest hcolon =>
      obtain ⟨rfl, hfree⟩ := splitOnce_eq_some_iff.mp hcolon
      exact longestFree_before hfree rest
    · next hcolon => exact longestFree_self (splitOnce_eq_none_iff.mp hcolon)

theorem comma_not_mem_cutValue (text : List Char) : ',' ∉ cutValue text := by
  have hlongest := longest_cutValue text
  by_cases hcomma : ',' ∈ text
  · rw [delimiterOf, if_pos hcomma] at hlongest
    exact hlongest.free
  · exact fun h => hcomma (hlongest.begins.subset h)

/-- A cut that leaves a colon in the value was made at a comma. -/
theorem comma_follows_cutValue (h : ':' ∈ cutValue text) :
    ∃ rest, text = cutValue text ++ ',' :: rest := by
  by_cases hcomma : ',' ∈ text
  · obtain ⟨before, rest, htext, hfree⟩ := List.eq_append_cons_of_mem hcomma
    have hlongest := longest_cutValue text
    rw [delimiterOf, if_pos hcomma] at hlongest
    have hbefore : LongestFree ',' text before := htext ▸ longestFree_before hfree rest
    exact ⟨rest, by rw [hlongest.unique hbefore]; exact htext⟩
  · have hlongest := longest_cutValue text
    rw [delimiterOf_of_not_mem hcomma] at hlongest
    exact absurd h hlongest.free

/-! ### What a candidate is worth -/

theorem valueOf_eq_empty_iff : valueOf text = .error .emptyValue ↔ text = [] := by
  unfold valueOf
  split <;> simp_all

theorem valueOf_eq_invalid_iff {d : Char} :
    valueOf text = .error (.invalidValue d) ↔ (d = ',' ∨ d = ':') ∧ text = [d] := by
  unfold valueOf
  split <;> grind

theorem valueOf_eq_ok_iff : valueOf text = .ok value ↔
    (text ≠ [] ∧ text ≠ [','] ∧ text ≠ [':']) ∧ LongestFree (delimiterOf text) text value := by
  have hcut : cutValue text = value ↔ LongestFree (delimiterOf text) text value :=
    ⟨fun h => h ▸ longest_cutValue text, fun h => (longest_cutValue text).unique h⟩
  rw [← hcut]
  unfold valueOf
  split <;> simp_all

/-! ### Reading lines -/

/-- The candidate of a line is what follows its first colon. -/
theorem candidate?_eq_some_iff {line : List Char} :
    candidate? line = some text ↔ ∃ key, ':' ∉ key ∧ line = key ++ ':' :: text := by
  rw [candidate?, Option.map_eq_some_iff]
  constructor
  · rintro ⟨⟨key, after⟩, hsplit, rfl⟩
    obtain ⟨hline, hkey⟩ := splitOnce_eq_some_iff.mp hsplit
    exact ⟨key, hkey, hline⟩
  · rintro ⟨key, hkey, hline⟩
    exact ⟨(key, text), splitOnce_eq_some_iff.mpr ⟨hline, hkey⟩, rfl⟩

/-- Behind any key a text is worth the same. -/
theorem extractValue_keyed {key : List Char} (h : ':' ∉ key) (text : List Char) :
    extractValue (key ++ ':' :: text) = valueOf text := by
  rw [extractValue_eq, candidate?_eq_some_iff.mpr ⟨key, h, rfl⟩]

theorem extractValue_eq_malformed_iff {line : List Char} :
    extractValue line = .error .malformedLine ↔ ':' ∉ line := by
  constructor
  · intro h hcolon
    obtain ⟨key, text, rfl, hkey⟩ := List.eq_append_cons_of_mem hcolon
    rw [extractValue_keyed hkey] at h
    exact valueOf_ne_malformed text h
  · intro h
    rw [extractValue_eq, candidate?, splitOnce_eq_none_iff.mpr h]
    rfl

/-- Every other answer is what the candidate is worth. -/
theorem extractValue_eq_iff {line : List Char} {answer : Except ValueError (List Char)}
    (h : answer ≠ .error .malformedLine) : extractValue line = answer ↔
      ∃ key text, ':' ∉ key ∧ line = key ++ ':' :: text ∧ valueOf text = answer := by
  constructor
  · intro hanswer
    have hcolon : ':' ∈ line := by
      by_contra hnone
      exact h (hanswer ▸ extractValue_eq_malformed_iff.mpr hnone)
    obtain ⟨key, text, rfl, hkey⟩ := List.eq_append_cons_of_mem hcolon
    exact ⟨key, text, hkey, rfl, extractValue_keyed hkey text ▸ hanswer⟩
  · rintro ⟨key, text, hkey, rfl, hanswer⟩
    rw [extractValue_keyed hkey, hanswer]

/-- A value is cut from the candidate of its line. -/
theorem exists_candidate_of_extractValue {line : List Char} (h : extractValue line = .ok value) :
    ∃ key text, ':' ∉ key ∧ line = key ++ ':' :: text ∧ value = cutValue text := by
  obtain ⟨key, text, hkey, hline, htext⟩ := (extractValue_eq_iff (by simp)).mp h
  obtain ⟨-, hlongest⟩ := valueOf_eq_ok_iff.mp htext
  exact ⟨key, text, hkey, hline, hlongest.unique (longest_cutValue text)⟩

/-- A value is part of its line, and has no comma. -/
theorem extractValue_eq_ok {line : List Char} (h : extractValue line = .ok value) :
    ',' ∉ value ∧ ∀ c ∈ value, c ∈ line := by
  obtain ⟨key, text, -, rfl, rfl⟩ := exists_candidate_of_extractValue h
  exact ⟨comma_not_mem_cutValue text, fun c hc => List.mem_append_right _
    (List.mem_cons_of_mem _ ((longest_cutValue text).begins.subset hc))⟩

/-- A text without a comma is cut at its first colon, unless it is nothing but a colon. -/
theorem valueOf_of_comma_not_mem (hcomma : ',' ∉ value) (hne : value ≠ []) :
    (':' ∉ value → valueOf value = .ok value) ∧
    ∀ before after, value = before ++ ':' :: after → ':' ∉ before → value ≠ [':'] →
      valueOf value = .ok before := by
  have hlone : value ≠ [','] := fun h => hcomma (by simp [h])
  have hcut := delimiterOf_of_not_mem hcomma
  constructor
  · intro hcolon
    have hne' : value ≠ [':'] := fun h => hcolon (by simp [h])
    refine valueOf_eq_ok_iff.mpr ⟨⟨hne, hlone, hne'⟩, ?_⟩
    rw [hcut]
    exact longestFree_self hcolon
  · intro before after hvalue hbefore hne'
    refine valueOf_eq_ok_iff.mpr ⟨⟨hne, hlone, hne'⟩, ?_⟩
    rw [hcut, hvalue]
    exact longestFree_before hbefore after

end

/-! ### Extraction -/

/-- **A value is a truncation, and which one is told exactly**, for every line. The line is
malformed exactly when it has no colon; of what follows its first colon, the value is missing
exactly when that is empty, refused exactly when that is a single delimiter, and otherwise its
longest beginning without commas if it has one, without colons if it has none. So no value has a
comma, and one with a colon ends before a comma. Behind any key, a value without colons is read
again as it is; of any other what stands before its first colon is left, and a lone colon is
refused. -/
theorem extractValue_truncates (line : List Char) :
    (extractValue line = .error .malformedLine ↔ ':' ∉ line) ∧
    (extractValue line = .error .emptyValue ↔ ∃ key, ':' ∉ key ∧ line = key ++ [':']) ∧
    (∀ d, extractValue line = .error (.invalidValue d) ↔
      (d = ',' ∨ d = ':') ∧ ∃ key, ':' ∉ key ∧ line = key ++ [':', d]) ∧
    (∀ value, extractValue line = .ok value ↔ ∃ key text, ':' ∉ key ∧ line = key ++ ':' :: text ∧
      (text ≠ [] ∧ text ≠ [','] ∧ text ≠ [':']) ∧
      LongestFree (if ',' ∈ text then ',' else ':') text value) ∧
    ∀ value, extractValue line = .ok value →
      ',' ∉ value ∧
      (':' ∈ value → ∃ key rest, ':' ∉ key ∧ line = key ++ ':' :: (value ++ ',' :: rest)) ∧
      ∀ key, ':' ∉ key → value ≠ [] →
        (':' ∉ value → extractValue (key ++ ':' :: value) = .ok value) ∧
        (value = [':'] → extractValue (key ++ ':' :: value) = .error (.invalidValue ':')) ∧
        ∀ before after, value = before ++ ':' :: after → ':' ∉ before → value ≠ [':'] →
          extractValue (key ++ ':' :: value) = .ok before := by
  refine ⟨extractValue_eq_malformed_iff, ?_, fun d => ?_, fun value => ?_, fun value hvalue => ?_⟩
  · rw [extractValue_eq_iff (by simp)]
    simp [valueOf_eq_empty_iff]
  · rw [extractValue_eq_iff (by simp)]
    simp only [valueOf_eq_invalid_iff]
    grind
  · rw [extractValue_eq_iff (by simp)]
    simp only [valueOf_eq_ok_iff, delimiterOf]
  · obtain ⟨key, text, hkey, hline, rfl⟩ := exists_candidate_of_extractValue hvalue
    have hcomma := comma_not_mem_cutValue text
    refine ⟨hcomma, fun hcolon => ?_, fun other hother hne => ?_⟩
    · obtain ⟨rest, hrest⟩ := comma_follows_cutValue hcolon
      exact ⟨key, rest, hkey, by rw [← hrest]; exact hline⟩
    · rw [extractValue_keyed hother]
      obtain ⟨hwhole, hfront⟩ := valueOf_of_comma_not_mem hcomma hne
      exact ⟨hwhole, fun hlone => by rw [hlone]; rfl, hfront⟩

example : extractValue "type:a:b,c".toList = .ok "a:b".toList ∧
    extractValue "type:a:b".toList = .ok ['a'] ∧ extractValue "type::,".toList = .ok [':'] ∧
    extractValue "type::".toList = .error (.invalidValue ':') := by decide

end SchemaReport.Schema
