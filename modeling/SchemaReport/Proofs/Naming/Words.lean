import Mathlib.Logic.Relation
import SchemaReport.Proofs.Scan.Names
import SchemaReport.Proofs.Schema.Classes

/-! Spellings and words.

The words of a name are what stands between its underscores, where anything does, and its
spellings tell nothing else of it (`pascal_eq_words`, `camel_eq_words`): underscores at its ends
and beside other underscores make no difference. Capitalised, a key is the field and type spelling
(`pascal_eq_capitalize`), and that is spelled as it is, since upper case begins with a character
that is its own (`upper_settled`). The tables of upper case are compared as sets of code points,
each held as the bits of a number. -/
namespace SchemaReport
open Text

namespace Text

/-! ### Upper case twice -/

/-- The code points a run covers. -/
def CaseRun.points (run : CaseRun) : List Nat :=
  (List.range ((run.last - run.first) / run.stride + 1)).map fun k => run.first + k * run.stride

theorem CaseRun.mem_points {run : CaseRun} {c : Char} (h : run.covers c = true) :
    c.toNat ∈ run.points := by
  simp only [covers, Bool.and_eq_true, decide_eq_true_eq, beq_iff_eq] at h
  obtain ⟨⟨hfirst, hlast⟩, hstride⟩ := h
  refine List.mem_map.mpr ⟨(c.toNat - run.first) / run.stride, List.mem_range.mpr ?_, ?_⟩
  · exact Nat.lt_succ_of_le (Nat.div_le_div_right (by omega))
  · have hdiv := Nat.div_add_mod (c.toNat - run.first) run.stride
    rw [hstride, Nat.add_zero, Nat.mul_comm] at hdiv
    omega

theorem expansions_ne_nil : ∀ entry ∈ upperExpansions, entry.2 ≠ [] := by decide

/-- A set of code points as the bits of a number. -/
def bitsOf (points : List Nat) : Nat := points.foldr (fun n set => set ||| 1 <<< n) 0

theorem testBit_bitsOf {points : List Nat} {n : Nat} (h : n ∈ points) :
    (bitsOf points).testBit n = true := by
  induction points with
  | nil => cases h
  | cons first rest ih =>
    show (bitsOf rest ||| 1 <<< first).testBit n = true
    rw [Nat.testBit_or, Bool.or_eq_true, Nat.one_shiftLeft]
    rcases List.mem_cons.mp h with rfl | h
    · exact .inr Nat.testBit_two_pow_self
    · exact .inl (ih h)

theorem not_mem_of_bitsOf {a b : List Nat} (h : bitsOf a &&& bitsOf b = 0) {n : Nat} (ha : n ∈ a) :
    n ∉ b := by
  intro hb
  have hbit : (bitsOf a &&& bitsOf b).testBit n = true := by
    rw [Nat.testBit_and, testBit_bitsOf ha, testBit_bitsOf hb]
    rfl
  rw [h, Nat.zero_testBit] at hbit
  cases hbit

/-- The characters the tables change. -/
def changedPoints : List Nat :=
  upperRuns.flatMap CaseRun.points ++ upperExpansions.map fun entry => entry.1.toNat

/-- The characters that what they are changed to begins with. -/
def capitalPoints : List Nat :=
  (upperRuns.flatMap fun run => run.points.map fun n : Nat =>
    (Char.ofNat (n + run.shift).toNat).toNat) ++
    upperExpansions.map fun entry => (entry.2.headD 'A').toNat

/-- No capital is changed again. -/
theorem capitals_settled : bitsOf capitalPoints &&& bitsOf changedPoints = 0 := by decide +kernel

theorem upper_of_not_mem {c : Char} (h : c.toNat ∉ changedPoints) : upper c = [c] := by
  rw [changedPoints, List.mem_append, not_or] at h
  have hlookup : upperExpansions.lookup c = none := by
    rw [List.lookup_eq_none_iff]
    intro entry hentry
    rw [bne_iff_ne]
    intro hc
    exact h.2 (List.mem_map.mpr ⟨entry, hentry, congrArg Char.toNat hc.symm⟩)
  have hruns : upperRuns.find? (fun run => run.covers c) = none := by
    rw [List.find?_eq_none]
    intro run hrun hcovers
    exact h.1 (List.mem_flatMap.mpr ⟨run, hrun, CaseRun.mem_points hcovers⟩)
  rw [upper, hlookup]
  show [mapByRuns upperRuns c] = [c]
  rw [mapByRuns, hruns]

theorem upper_of_capital {c : Char} (h : c.toNat ∈ capitalPoints) : upper c = [c] :=
  upper_of_not_mem (not_mem_of_bitsOf capitals_settled h)

/-- Upper case begins with a character that is its own upper case. -/
theorem upper_settled (c : Char) : ∃ d rest, upper c = d :: rest ∧ upper d = [d] := by
  cases hlookup : upperExpansions.lookup c with
  | some expansion =>
    have hentry := mem_of_lookup hlookup
    obtain ⟨d, rest, rfl⟩ := List.exists_cons_of_ne_nil (expansions_ne_nil _ hentry)
    refine ⟨d, rest, by rw [upper, hlookup], upper_of_capital ?_⟩
    exact List.mem_append_right _ (List.mem_map.mpr ⟨_, hentry, rfl⟩)
  | none =>
    have hupper : upper c = [mapByRuns upperRuns c] := by rw [upper, hlookup]
    rcases mapByRuns_cases upperRuns c with hsame | ⟨run, hrun, hcovers, hmap⟩
    · rw [hsame] at hupper
      exact ⟨c, [], hupper, hupper⟩
    · rw [hmap] at hupper
      refine ⟨run.map c, [], hupper, upper_of_capital (List.mem_append_left _ ?_)⟩
      exact List.mem_flatMap.mpr
        ⟨run, hrun, List.mem_map.mpr ⟨c.toNat, CaseRun.mem_points hcovers, rfl⟩⟩

end Text

namespace Naming

/-! ### Words -/

/-- The words of a name: its segments but for those that are empty. -/
def words (name : List Char) : List (List Char) :=
  (name.splitOn '_').filter fun segment => segment ≠ []

theorem segments_eq_splitOn (name : List Char) : segments name = name.splitOn '_' := by
  induction name using segments.induct with
  | case1 => rfl
  | case2 rest ih => rw [segments, ih, List.splitOn_cons_eq_if_modifyHead, if_pos (by rfl)]
  | case3 c rest hc hnil ih =>
    rw [ih] at hnil
    exact absurd hnil (List.splitOn_ne_nil _ _)
  | case4 c rest hc first others hrest ih =>
    rw [segments, hrest, List.splitOn_cons_eq_if_modifyHead, if_neg (by simpa using hc), ← ih,
      hrest]
    · rfl
    · exact hc

/-- Words end at every underscore. -/
theorem words_append_underscore (a b : List Char) :
    words (a ++ '_' :: b) = words a ++ words b := by
  rw [words, List.splitOn_append_cons_self, List.filter_append]
  rfl

theorem words_underscore_cons (name : List Char) : words ('_' :: name) = words name :=
  words_append_underscore [] name

/-- A name that is one segment is one word. -/
theorem words_of_not_mem {name : List Char} (h : '_' ∉ name) (hne : name ≠ []) :
    words name = [name] := by
  rw [words, List.splitOn_eq_singleton h, List.filter_cons_of_pos (by simpa using hne)]
  rfl

theorem words_underscores_append {front : List Char} (h : ∀ c ∈ front, c = '_')
    (name : List Char) : words (front ++ name) = words name := by
  induction front with
  | nil => rfl
  | cons c rest ih =>
    obtain ⟨rfl, hrest⟩ := List.forall_mem_cons.mp h
    rw [List.cons_append, words_underscore_cons, ih hrest]

/-- Underscores are no words. -/
theorem words_of_underscores {name : List Char} (h : ∀ c ∈ name, c = '_') : words name = [] := by
  have hwords := words_underscores_append h []
  rwa [List.append_nil] at hwords

theorem words_append_underscores (name : List Char) {back : List Char} (h : ∀ c ∈ back, c = '_') :
    words (name ++ back) = words name := by
  cases back with
  | nil => rw [List.append_nil]
  | cons c rest =>
    obtain ⟨rfl, hrest⟩ := List.forall_mem_cons.mp h
    rw [words_append_underscore, words_of_underscores hrest, List.append_nil]

/-- A name has the words it has without the underscores at its ends. -/
theorem words_trimmed (name : List Char) : words (trimmed name) = words name := by
  obtain ⟨front, back, hname, hfront, hback⟩ := Schema.strip_split (· == '_') name
  calc words (trimmed name)
      = words (trimmed name ++ back) := (words_append_underscores _ (by simpa using hback)).symm
    _ = words (front ++ (trimmed name ++ back)) :=
        (words_underscores_append (by simpa using hfront) _).symm
    _ = words name := by rw [← List.append_assoc, trimmed, ← hname]

/-! ### Spellings -/

/-- Segments that are empty add nothing. -/
theorem flatMap_capitalize_filter (parts : List (List Char)) :
    (parts.filter fun part => part ≠ []).flatMap capitalize = parts.flatMap capitalize := by
  induction parts with
  | nil => rfl
  | cons part others ih =>
    cases part with
    | nil => exact ih
    | cons c rest => exact congrArg (capitalize (c :: rest) ++ ·) ih

/-- Every word is capitalised. -/
theorem pascal_eq_words (name : List Char) : pascal name = (words name).flatMap capitalize := by
  rw [← words_trimmed, words, flatMap_capitalize_filter, ← segments_eq_splitOn, pascal]

/-- The key of some words: all but the first are capitalised. -/
def keyOf : List (List Char) → List Char
  | [] => []
  | first :: others => first ++ others.flatMap capitalize

/-- Without the underscores at its ends a name is empty or begins with a word. -/
theorem head_trimmed (name : List Char) :
    trimmed name = [] ∨ ∃ c rest, trimmed name = c :: rest ∧ c ≠ '_' := by
  cases hdrop : name.dropWhile (· == '_') with
  | nil =>
    refine .inl ?_
    rw [trimmed, strip, hdrop]
    rfl
  | cons c back =>
    have hc : (c == '_') = false := by
      have hhead := List.head?_dropWhile_not (· == '_') name
      rwa [hdrop] at hhead
    have hfront : ∀ d ∈ name.takeWhile (· == '_'), (d == '_') = true := fun d hd =>
      List.mem_takeWhile_imp (p := (· == '_')) hd
    obtain ⟨more, hmore⟩ := Schema.strip_eq_cons hfront hc
    rw [← hdrop, List.takeWhile_append_dropWhile] at hmore
    exact .inr ⟨c, more, hmore, beq_eq_false_iff_ne.mp hc⟩

theorem segments_cons {c : Char} (h : c ≠ '_') (rest : List Char) :
    ∃ first others, segments (c :: rest) = (c :: first) :: others := by
  rw [segments]
  · split
    · exact ⟨[], [], rfl⟩
    · next first others _ => exact ⟨first, others, rfl⟩
  · exact h

/-- Every word but the first is capitalised. -/
theorem camel_eq_words (name : List Char) : camel name = keyOf (words name) := by
  rw [← words_trimmed, words, ← segments_eq_splitOn]
  show keyOf (segments (trimmed name)) = _
  rcases head_trimmed name with hnil | ⟨c, rest, hcons, hc⟩
  · rw [hnil]
    rfl
  · -- the first segment is not empty, so it is the first word
    obtain ⟨first, others, hsegments⟩ := segments_cons hc rest
    rw [hcons, hsegments, List.filter_cons_of_pos (by simp), keyOf, keyOf,
      flatMap_capitalize_filter]

theorem words_ne_nil {name word : List Char} (h : word ∈ words name) : word ≠ [] := by
  simpa using (List.mem_filter.mp h).2

/-- The field and type spelling is the key, capitalised. -/
theorem pascal_eq_capitalize (name : List Char) : pascal name = capitalize (camel name) := by
  rw [pascal_eq_words, camel_eq_words]
  cases hwords : words name with
  | nil => rfl
  | cons first others =>
    obtain ⟨c, rest, rfl⟩ := List.exists_cons_of_ne_nil
      (words_ne_nil (hwords ▸ List.mem_cons_self : first ∈ words name))
    rw [List.flatMap_cons, keyOf, List.cons_append, capitalize, capitalize, List.append_assoc]

/-- A spelling that begins with a capital is not capitalised further. -/
theorem capitalize_capitalize (text : List Char) :
    capitalize (capitalize text) = capitalize text := by
  cases text with
  | nil => rfl
  | cons c rest =>
    obtain ⟨d, more, hc, hd⟩ := upper_settled c
    rw [capitalize, hc, List.cons_append, capitalize, hd]
    rfl

/-- The field and type spelling is spelled as it is. -/
theorem pascal_pascal (name : List Char) : pascal (pascal name) = pascal name := by
  by_cases hne : pascal name = []
  · rw [hne]
    rfl
  · calc pascal (pascal name)
        = capitalize (pascal name) := by
          rw [pascal_eq_words, words_of_not_mem (underscore_not_mem_pascal name) hne,
            List.flatMap_singleton]
      _ = pascal name := by rw [pascal_eq_capitalize, capitalize_capitalize]

/-! ### Underscores that end no word -/

/-- Names that differ by an underscore that ends no word: at an end or beside another. -/
inductive Respaced : List Char → List Char → Prop
  | front (name : List Char) : Respaced name ('_' :: name)
  | back (name : List Char) : Respaced name (name ++ ['_'])
  | beside (before after : List Char) :
    Respaced (before ++ '_' :: after) (before ++ '_' :: '_' :: after)

theorem Respaced.words_eq {name other : List Char} (h : Respaced name other) :
    words other = words name := by
  cases h with
  | front => exact words_underscore_cons name
  | back => exact words_append_underscores name (by simp)
  | beside before after =>
    rw [words_append_underscore, words_append_underscore]
    exact congrArg _ (words_underscore_cons after)

theorem words_congr {name other : List Char} (h : Relation.EqvGen Respaced name other) :
    words other = words name := by
  induction h with
  | rel a b h => exact h.words_eq
  | refl a => rfl
  | symm a b _ ih => exact ih.symm
  | trans a b c _ _ ihab ihbc => exact ihbc.trans ihab

/-- **The spellings of a name are told by its words**, for every name: every word is capitalised
in fields and types, every word but the first in keys. So underscores that are put in or taken
out at the ends of a name or beside others change neither spelling. The field and type spelling is
the key with its first letter in upper case, neither has an underscore, and the field and type
spelling of a field or type spelling is the same. -/
theorem spellings_of_words (name : String) :
    (structName name).toList = (words name.toList).flatMap capitalize ∧
    (jsonName name).toList = keyOf (words name.toList) ∧
    (∀ other : String, Relation.EqvGen Respaced name.toList other.toList →
      structName other = structName name ∧ jsonName other = jsonName name) ∧
    (structName name).toList = capitalize (jsonName name).toList ∧
    '_' ∉ (structName name).toList ∧ '_' ∉ (jsonName name).toList ∧
    structName (structName name) = structName name := by
  have hstruct : (structName name).toList = pascal name.toList := String.toList_ofList
  have hjson : (jsonName name).toList = camel name.toList := String.toList_ofList
  refine ⟨hstruct.trans (pascal_eq_words _), hjson.trans (camel_eq_words _), fun other h => ?_, ?_,
    ?_, ?_, ?_⟩
  · rw [structName, structName, jsonName, jsonName, pascal_eq_words, camel_eq_words,
      pascal_eq_words name.toList, camel_eq_words name.toList, words_congr h]
    exact ⟨rfl, rfl⟩
  · rw [hstruct, hjson, pascal_eq_capitalize]
  · rw [hstruct]
    exact underscore_not_mem_pascal _
  · rw [hjson]
    exact underscore_not_mem_camel _
  · rw [structName, hstruct, pascal_pascal]
    rfl

end Naming
end SchemaReport
