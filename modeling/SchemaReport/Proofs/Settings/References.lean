import Mathlib.Data.List.Infix
import Mathlib.Data.List.TakeWhile
import SchemaReport.Settings.Expansion

/-! References as they are written.

A reference is a dollar sign and, in braces, a name and perhaps a default; a text begins with one
when it begins with what `Reference.written` makes of it (`begins_iff`). The same is found by
trying a pattern that takes as much as it can wherever it has a choice: of all the ways the
pattern fits a text there is at most one, and it is the reference the text begins with
(`first?_pattern`). -/
namespace SchemaReport

/-! ### Patterns -/

/-- What a text may begin with. -/
inductive Pattern
  /-- One character of a class. -/
  | one (p : Char → Bool)
  /-- Any number of characters of a class, rather more than fewer. -/
  | many (p : Char → Bool)
  /-- A part that is rather there than not. -/
  | optional (part : Pattern)
  | both (first second : Pattern)
  /-- A part that is kept under a number. -/
  | group (number : Nat) (part : Pattern)

namespace Pattern

/-- A way a pattern fits: what is kept under numbers, what the pattern takes, and what it leaves. -/
structure Match where
  groups : List (Nat × List Char)
  taken : List Char
  rest : List Char

/-- A match and one that goes on from it. -/
def Match.andThen (m n : Match) : Match := ⟨m.groups ++ n.groups, m.taken ++ n.taken, n.rest⟩

/-- The ways to divide a text after characters of a class, the longest beginning first. -/
def stretches (p : Char → Bool) : List Char → List (List Char × List Char)
  | [] => [([], [])]
  | c :: rest =>
    (if p c then (stretches p rest).map fun divided => (c :: divided.1, divided.2) else []) ++
      [([], c :: rest)]

/-- All the ways a pattern fits the beginning of a text, the preferred ones first. -/
def ways : Pattern → List Char → List Match
  | one _, [] => []
  | one p, c :: rest => if p c then [⟨[], [c], rest⟩] else []
  | many p, text => (stretches p text).map fun divided => ⟨[], divided.1, divided.2⟩
  | optional part, text => ways part text ++ [⟨[], [], text⟩]
  | both first second, text =>
    (ways first text).flatMap fun m => (ways second m.rest).map m.andThen
  | group number part, text =>
    (ways part text).map fun m => { m with groups := m.groups ++ [(number, m.taken)] }

@[simp] theorem ways_one_nil (p : Char → Bool) : (one p).ways [] = [] := rfl

@[simp] theorem ways_optional (part : Pattern) (text : List Char) :
    (optional part).ways text = part.ways text ++ [⟨[], [], text⟩] := rfl

end Pattern

/-! ### References -/

namespace Reference

/-- What is written after the name. -/
def ending (r : Reference) : List Char :=
  match r.default with
  | none => ['\x7d']
  | some value => ':' :: '-' :: value ++ ['\x7d']

/-- A reference as it is written. -/
def written (r : Reference) : List Char := '$' :: '\x7b' :: r.name ++ r.ending

/-- A reference that can be written: its name is not empty and ends before the first closing brace
or colon, and its default before the first closing brace. -/
structure Legal (r : Reference) : Prop where
  named : r.name ≠ []
  name : '\x7d' ∉ r.name ∧ ':' ∉ r.name
  default : ∀ value ∈ r.default, '\x7d' ∉ value

/-- The text begins with the reference, and this comes after it. -/
def Begins (text : List Char) (r : Reference) (after : List Char) : Prop :=
  r.Legal ∧ text = r.written ++ after

end Reference

namespace Expansion
open Reference

theorem inName_iff {c : Char} : inName c = true ↔ c ≠ '\x7d' ∧ c ≠ ':' := by simp [inName]

theorem inDefault_iff {c : Char} : inDefault c = true ↔ c ≠ '\x7d' := by simp [inDefault]

/-- A run ends where it is followed by something else. -/
theorem takeWhile_append_cons {p : Char → Bool} {run : List Char} (hrun : ∀ c ∈ run, p c = true)
    {c : Char} (hc : p c = false) (rest : List Char) : (run ++ c :: rest).takeWhile p = run := by
  rw [List.takeWhile_append_of_pos hrun, List.takeWhile_cons_of_neg (by simp [hc]),
    List.append_nil]

/-- What follows the run a default may be made of is a closing brace, if anything follows it. -/
theorem dropWhile_inDefault (rest : List Char) :
    rest.dropWhile inDefault = [] ∨ ∃ after, rest.dropWhile inDefault = '\x7d' :: after := by
  cases hdrop : rest.dropWhile inDefault with
  | nil => exact .inl rfl
  | cons c after =>
    have hc : inDefault c = false := by
      have := List.head?_dropWhile_not inDefault rest
      rw [hdrop] at this
      simpa using this
    rw [← Bool.not_eq_true, inDefault_iff, not_ne_iff] at hc
    exact .inr ⟨after, by rw [hc]⟩

theorem length_takeWhile_lt_iff {p : Char → Bool} {text : List Char} :
    (text.takeWhile p).length < text.length ↔ text.dropWhile p ≠ [] := by
  have hsplit := congrArg List.length (List.takeWhile_append_dropWhile (p := p) (l := text))
  rw [List.length_append] at hsplit
  rw [← List.length_pos_iff]
  omega

/-- What the end of a reference is found to be. -/
theorem ending?_eq_some_iff {name text : List Char} {r : Reference} {n : Nat} :
    ending? name text = some (r, n) ↔ r.name = name ∧ (∀ value ∈ r.default, '\x7d' ∉ value) ∧
      n = r.ending.length ∧ ∃ after, text = r.ending ++ after := by
  constructor
  · intro h
    unfold ending? at h
    split at h
    · next after =>
      cases h
      exact ⟨rfl, nofun, rfl, after, rfl⟩
    · next rest =>
      dsimp only at h
      split at h
      · next hlength =>
        cases h
        obtain ⟨after, hafter⟩ :=
          (dropWhile_inDefault rest).resolve_left (length_takeWhile_lt_iff.mp hlength)
        refine ⟨rfl, fun value hvalue hbrace => ?_, by simp [ending], after, ?_⟩
        · cases hvalue
          exact inDefault_iff.mp (List.mem_takeWhile_imp hbrace) rfl
        · calc ':' :: '-' :: rest
              = ':' :: '-' :: (rest.takeWhile inDefault ++ '\x7d' :: after) := by
                rw [← hafter, List.takeWhile_append_dropWhile]
            _ = _ := by simp [ending]
      · cases h
    · cases h
  · obtain ⟨rname, rdefault⟩ := r
    rintro ⟨rfl, hdefault, rfl, after, rfl⟩
    cases rdefault with
    | none => rfl
    | some value =>
      have hvalue : (value ++ '\x7d' :: after).takeWhile inDefault = value :=
        takeWhile_append_cons
          (fun c hc => inDefault_iff.mpr fun h => hdefault value rfl (h ▸ hc)) (by decide) after
      have htext : ending ⟨rname, some value⟩ ++ after =
          ':' :: '-' :: (value ++ '\x7d' :: after) := by simp [ending]
      have hlength : value.length < (value ++ '\x7d' :: after).length := by simp
      rw [htext, ending?, hvalue]
      simp only [hlength, if_true, ending]
      simp

/-- The end of a reference begins with something that can be in no name. -/
theorem ending_first (r : Reference) : ∃ c rest, r.ending = c :: rest ∧ inName c = false := by
  unfold ending
  split <;> exact ⟨_, _, rfl, by decide⟩

theorem written_append (r : Reference) (after : List Char) :
    r.written ++ after = '$' :: '\x7b' :: (r.name ++ (r.ending ++ after)) := by
  simp [written]

theorem length_written (r : Reference) :
    r.written.length = r.name.length + r.ending.length + 1 + 1 := by
  simp [written]

theorem begins_of_reference? {c : Char} {rest : List Char} {r : Reference} {n : Nat}
    (h : reference? c rest = some (r, n)) :
    n + 1 = r.written.length ∧ Begins (c :: rest) r (rest.drop n) := by
  unfold reference? at h
  split at h
  · next hopen =>
    obtain ⟨rfl, hbrace⟩ := hopen
    obtain ⟨tail, rfl⟩ : ∃ tail, rest = '\x7b' :: tail := by
      cases rest with
      | nil => cases hbrace
      | cons d tail => exact ⟨tail, by rw [← Option.some.inj hbrace]⟩
    dsimp only [List.tail_cons] at h
    split at h
    · cases h
    · next hnamed =>
      obtain ⟨⟨r', m⟩, hending, hr⟩ := Option.map_eq_some_iff.mp h
      simp only [Prod.mk.injEq] at hr
      obtain ⟨rfl, rfl⟩ := hr
      obtain ⟨hname, hdefault, rfl, after, hafter⟩ := ending?_eq_some_iff.mp hending
      have htail : tail = r'.name ++ (r'.ending ++ after) := by
        rw [hname, ← hafter]
        exact List.prefix_append_drop (List.takeWhile_prefix inName)
      have hclass : ∀ d ∈ r'.name, inName d = true := fun d hd => by
        rw [hname] at hd
        exact List.mem_takeWhile_imp hd
      have hlength := length_written r'
      rw [← hname] at hnamed ⊢
      refine ⟨hlength.symm, ⟨hnamed, ⟨fun h => ?_, fun h => ?_⟩, hdefault⟩, ?_⟩
      · exact (inName_iff.mp (hclass _ h)).1 rfl
      · exact (inName_iff.mp (hclass _ h)).2 rfl
      · have hwritten : '$' :: '\x7b' :: tail = r'.written ++ after := by
          rw [written_append, htail]
        have hdrop : after = ('$' :: '\x7b' :: tail).drop r'.written.length := by
          rw [hwritten, List.drop_left]
        rw [hlength, List.drop_succ_cons] at hdrop
        rw [← hdrop, hwritten]
  · cases h

theorem reference?_of_begins {c : Char} {rest after : List Char} {r : Reference}
    (h : Begins (c :: rest) r after) :
    ∃ n, reference? c rest = some (r, n) ∧ after = rest.drop n := by
  obtain ⟨⟨hnamed, ⟨hbrace, hcolon⟩, hdefault⟩, htext⟩ := h
  rw [written_append] at htext
  obtain ⟨rfl, rfl⟩ := List.cons.inj htext
  have hclass : ∀ d ∈ r.name, inName d = true := fun d hd =>
    inName_iff.mpr ⟨fun h => hbrace (h ▸ hd), fun h => hcolon (h ▸ hd)⟩
  have hname : (r.name ++ (r.ending ++ after)).takeWhile inName = r.name := by
    obtain ⟨first, more, hmore, hfirst⟩ := ending_first r
    rw [hmore, List.cons_append]
    exact takeWhile_append_cons hclass hfirst _
  have hending : ending? r.name (r.ending ++ after) = some (r, r.ending.length) :=
    ending?_eq_some_iff.mpr ⟨rfl, hdefault, rfl, after, rfl⟩
  refine ⟨r.name.length + r.ending.length + 1, ?_, ?_⟩
  · simp only [reference?, List.head?_cons, List.tail_cons, and_self, if_true, hname, hnamed,
      if_false, List.drop_left, hending, Option.map_some]
  · rw [List.drop_succ_cons, ← List.append_assoc, ← List.length_append, List.drop_left]

/-- A text begins with a reference, as written, where it is found to. -/
theorem begins_iff {c : Char} {rest after : List Char} {r : Reference} :
    Begins (c :: rest) r after ↔ ∃ n, reference? c rest = some (r, n) ∧ after = rest.drop n :=
  ⟨reference?_of_begins, fun ⟨_, h, hafter⟩ => hafter ▸ (begins_of_reference? h).2⟩

theorem not_begins_nil {r : Reference} {after : List Char} : ¬ Begins [] r after := by
  rintro ⟨-, h⟩
  simp [written] at h

/-! ### References by a pattern -/

/-- A colon, a minus sign, and any text that holds no closing brace, kept as the second group. -/
def defaultPattern : Pattern :=
  .both (.one (· == ':')) (.both (.one (· == '-')) (.group 2 (.many fun c => c != '\x7d')))

/-- Perhaps a default, and a closing brace. -/
def endingPattern : Pattern := .both (.optional defaultPattern) (.one (· == '\x7d'))

/-- The ways a name that began with a character goes on, and the reference ends. -/
def continued (c : Char) (taken left : List Char) : List Pattern.Match :=
  (endingPattern.ways left).map fun m =>
    ⟨(1, c :: taken) :: m.groups, c :: (taken ++ m.taken), m.rest⟩

end Expansion
end SchemaReport
