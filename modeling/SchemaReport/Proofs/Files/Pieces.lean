import Mathlib.Data.List.DropRight
import SchemaReport.Files.Tree

/-! Paths as turns.

Of the pieces of a path only some lead anywhere: a name leads down and two dots lead up
(`Path.turns`). The path above a path has its turns but for the last (`turns_parent?`), and a
path that goes on from a directory by a name has the directory's turns and that name
(`turns_join`), whatever slashes and single dots stand between them. -/
namespace SchemaReport
open Text

/-! ### Cutting lists -/

section
variable {α : Type} [DecidableEq α] {mark : α}

theorem parts_append_mark (a b : List α) :
    parts mark (a ++ mark :: b) = parts mark a ++ parts mark b := by
  induction a with
  | nil => simp [parts]
  | cons x rest ih =>
    rw [List.cons_append, parts, parts, ih]
    split
    · rfl
    · cases h : parts mark rest with
      | nil => exact absurd h (parts_ne_nil mark rest)
      | cons first others => rfl

theorem parts_of_not_mem {list : List α} (h : mark ∉ list) : parts mark list = [list] := by
  induction list with
  | nil => rfl
  | cons x rest ih =>
    rw [List.mem_cons, not_or] at h
    rw [parts, if_neg (Ne.symm h.1), ih h.2]

theorem not_mem_of_mem_parts {list part : List α} (h : part ∈ parts mark list) : mark ∉ part := by
  induction list generalizing part with
  | nil =>
    simp only [parts, List.mem_singleton] at h
    simp [h]
  | cons x rest ih =>
    rw [parts] at h
    split at h
    · rcases List.mem_cons.mp h with rfl | h
      · simp
      · exact ih h
    · next hx =>
      cases hp : parts mark rest with
      | nil => exact absurd hp (parts_ne_nil mark rest)
      | cons first others =>
        rw [hp] at h ih
        rcases List.mem_cons.mp h with rfl | h
        · rw [List.mem_cons, not_or]
          exact ⟨Ne.symm hx, ih List.mem_cons_self⟩
        · exact ih (List.mem_cons_of_mem first h)

/-- Pieces that hold no mark are what their join is cut into. -/
theorem parts_intercalate {pieces : List (List α)} (hne : pieces ≠ [])
    (h : ∀ piece ∈ pieces, mark ∉ piece) :
    parts mark (List.intercalate [mark] pieces) = pieces := by
  induction pieces with
  | nil => exact absurd rfl hne
  | cons first rest ih =>
    obtain ⟨hfirst, hrest⟩ := List.forall_mem_cons.mp h
    cases rest with
    | nil => simpa [List.intercalate] using parts_of_not_mem hfirst
    | cons second others =>
      have := ih (by simp) hrest
      rw [List.intercalate_cons_cons, List.append_assoc, List.singleton_append, parts_append_mark,
        parts_of_not_mem hfirst, this]
      rfl

omit [DecidableEq α] in
/-- Joining fewer of some pieces gives a beginning of the whole join. -/
theorem prefix_intercalate (mark : List α) {front pieces : List (List α)} (h : front <+: pieces) :
    List.intercalate mark front <+: List.intercalate mark pieces := by
  induction front generalizing pieces with
  | nil => exact List.nil_prefix
  | cons first rest ih =>
    obtain ⟨others, rfl⟩ := h
    cases rest with
    | nil =>
      cases others with
      | nil => exact List.prefix_rfl
      | cons next more =>
        rw [List.singleton_append, List.intercalate_cons_cons, List.intercalate_singleton,
          List.append_assoc]
        exact List.prefix_append first _
    | cons second more =>
      have := ih (List.prefix_append (second :: more) others)
      rw [List.cons_append, List.cons_append, List.intercalate_cons_cons,
        List.intercalate_cons_cons]
      exact (List.prefix_append_right_inj _).mpr this

end

namespace Path

/-! ### Turns -/

/-- Where a piece leads, if anywhere. -/
def turn? (piece : Bytes) : Option FileTree.Step :=
  if isIdle piece then none else some (if piece = above then .above else .name piece)

/-- Where pieces lead, one after the other. -/
def turnsOf (pieces : List Bytes) : List FileTree.Step := pieces.filterMap turn?

/-- Where a path leads, one turn after the other. -/
def turns (p : Path) : List FileTree.Step := turnsOf (split p.bytes)

/-- A name a file can have: it is a piece that leads down. -/
structure IsName (n : Bytes) : Prop where
  busy : isIdle n = false
  down : n ≠ above
  whole : slash ∉ n

instance (n : Bytes) : Decidable (IsName n) :=
  decidable_of_iff (isIdle n = false ∧ n ≠ above ∧ slash ∉ n)
    ⟨fun h => ⟨h.1, h.2.1, h.2.2⟩, fun h => ⟨h.busy, h.down, h.whole⟩⟩

theorem IsName.turn? {n : Bytes} (h : IsName n) : turn? n = some (.name n) := by
  simp [Path.turn?, h.busy, h.down]

theorem turn?_of_isIdle {piece : Bytes} (h : isIdle piece = true) : turn? piece = none := by
  simp [turn?, h]

@[simp] theorem turnsOf_append (a b : List Bytes) : turnsOf (a ++ b) = turnsOf a ++ turnsOf b :=
  List.filterMap_append

theorem turnsOf_eq_nil_iff {pieces : List Bytes} :
    turnsOf pieces = [] ↔ ∀ piece ∈ pieces, isIdle piece = true := by
  simp [turnsOf, turn?, List.filterMap_eq_nil_iff]

theorem turnsOf_cons_of_isIdle {piece : Bytes} (h : isIdle piece = true) (rest : List Bytes) :
    turnsOf (piece :: rest) = turnsOf rest :=
  List.filterMap_cons_none (turn?_of_isIdle h)

theorem turnsOf_of_busy {piece : Bytes} (h : isIdle piece = false) :
    turnsOf [piece] = [if piece = above then .above else .name piece] :=
  List.filterMap_cons_some (if_neg (by simp [h]))

/-- Idle pieces at the end lead nowhere. -/
theorem turnsOf_settle (pieces : List Bytes) : turnsOf (settle pieces) = turnsOf pieces := by
  induction pieces using List.reverseRecOn with
  | nil => rfl
  | append_singleton front last ih =>
    show turnsOf (List.rdropWhile isIdle (front ++ [last])) = _
    rw [List.rdropWhile_concat]
    split
    · next h =>
      have hidle : turnsOf [last] = [] := turnsOf_eq_nil_iff.mpr (by simpa using h)
      rw [turnsOf_append, hidle, List.append_nil]
      exact ih
    · rfl

theorem settle_concat_of_busy {last : Bytes} (h : isIdle last = false) (front : List Bytes) :
    settle (front ++ [last]) = front ++ [last] :=
  List.rdropWhile_concat_neg isIdle front last (by simp [h])

theorem settle_eq_nil_or (pieces : List Bytes) :
    settle pieces = [] ∨ ∃ front last, settle pieces = front ++ [last] ∧ isIdle last = false := by
  rcases List.eq_nil_or_concat (settle pieces) with h | ⟨front, last, h⟩
  · exact .inl h
  · rw [List.concat_eq_append] at h
    refine .inr ⟨front, last, h, ?_⟩
    have hlast := List.rdropWhile_last_not isIdle pieces (fun hnil => by
      rw [show List.rdropWhile isIdle pieces = settle pieces from rfl, h] at hnil
      simp at hnil)
    simpa [show List.rdropWhile isIdle pieces = settle pieces from rfl, h] using hlast

theorem prefix_settle (pieces : List Bytes) : settle pieces <+: pieces :=
  List.rdropWhile_prefix isIdle pieces

/-! ### Openings -/

theorem turnsOf_split_slash (bytes : Bytes) :
    turnsOf (split (slash :: bytes)) = turnsOf (split bytes) := by
  rw [split, parts, if_pos rfl]
  exact turnsOf_cons_of_isIdle rfl _

theorem turnsOf_split_dot_slash (bytes : Bytes) :
    turnsOf (split (dot :: slash :: bytes)) = turnsOf (split bytes) := by
  rw [split, show dot :: slash :: bytes = [dot] ++ slash :: bytes from rfl, parts_append_mark]
  exact turnsOf_cons_of_isIdle rfl _

/-- The three ways a path opens. -/
theorem opening_cases (p : Path) :
    (p.opening = ([], p.bytes) ∧ ¬ (p.isAbsolute = true)) ∨
    (∃ rest, p.bytes = slash :: rest ∧ p.opening = ([slash], rest)) ∨
    (p.bytes = [dot] ∧ p.opening = ([dot], [])) ∨
    ∃ rest, p.bytes = dot :: slash :: rest ∧ p.opening = ([dot], slash :: rest) := by
  obtain ⟨bytes⟩ := p
  cases bytes with
  | nil => exact .inl ⟨rfl, by simp [isAbsolute]⟩
  | cons b rest =>
    by_cases hslash : b = slash
    · exact .inr (.inl ⟨rest, by rw [hslash], by simp [opening, hslash]⟩)
    · by_cases hdot : b = dot ∧ (rest = [] ∨ rest.head? = some slash)
      · obtain ⟨rfl, rfl | hrest⟩ := hdot
        · exact .inr (.inr (.inl ⟨rfl, by decide⟩))
        · obtain ⟨tail, rfl⟩ : ∃ tail, rest = slash :: tail := by
            cases rest with
            | nil => cases hrest
            | cons c tail => exact ⟨tail, by rw [Option.some.inj hrest]⟩
          exact .inr (.inr (.inr ⟨tail, rfl, by simp [opening, slash, dot]⟩))
      · exact .inl ⟨by simp only [opening, if_neg hslash, if_neg hdot],
          by simp [isAbsolute, hslash]⟩

/-- What a path opens with leads nowhere. -/
theorem turnsOf_opening (p : Path) : turnsOf (split p.opening.2) = p.turns := by
  rw [turns]
  rcases p.opening_cases with ⟨ho, -⟩ | ⟨rest, hb, ho⟩ | ⟨hb, ho⟩ | ⟨rest, hb, ho⟩
  · rw [ho]
  · rw [ho, hb, turnsOf_split_slash]
  · rw [ho, hb]
    decide
  · rw [ho, hb, turnsOf_split_slash, turnsOf_split_dot_slash]

theorem turnsOf_pieces (p : Path) : turnsOf p.pieces = p.turns := by
  rw [pieces, turnsOf_settle, turnsOf_opening]

theorem not_mem_of_mem_pieces {p : Path} {piece : Bytes} (h : piece ∈ p.pieces) : slash ∉ piece :=
  not_mem_of_mem_parts ((prefix_settle _).subset h)

/-- After an opening with a dot the pieces begin with the empty one the slash stands for. -/
theorem exists_of_prefix_split_slash {front : List Bytes} {rest : Bytes}
    (h : front <+: split (slash :: rest)) (hsettled : settle front = front) :
    front = [] ∨ ∃ second more, front = [] :: second :: more := by
  cases front with
  | nil => exact .inl rfl
  | cons first others =>
    rw [split, parts, if_pos rfl, List.cons_prefix_cons] at h
    obtain ⟨rfl, -⟩ := h
    cases others with
    | nil => exact absurd hsettled (by decide)
    | cons second more => exact .inr ⟨second, more, rfl⟩

theorem turns_opening (p : Path) : turns ⟨p.opening.1⟩ = [] := by
  rcases p.opening_cases with ⟨ho, -⟩ | ⟨rest, -, ho⟩ | ⟨-, ho⟩ | ⟨rest, -, ho⟩ <;> rw [ho] <;> rfl

/-- A path put together again from its opening and pieces that it began with is cut into these
pieces again, but for idle ones at the beginning. -/
theorem split_opening_glue {p : Path} {front : List Bytes} (h : front <+: p.pieces)
    (hsettled : settle front = front) (hne : front ≠ []) : ∃ lead skipped rest, rest ≠ [] ∧
      split (p.opening.1 ++ glue front) = lead ++ rest ∧ front = skipped ++ rest ∧
      turnsOf lead = [] ∧ turnsOf skipped = [] := by
  have hslash : ∀ piece ∈ front, slash ∉ piece := fun piece hp =>
    not_mem_of_mem_pieces (h.subset hp)
  have hglue : split (glue front) = front := by rw [split, glue, parts_intercalate hne hslash]
  have hsplit := h.trans (prefix_settle (split p.opening.2))
  rcases p.opening_cases with ⟨ho, -⟩ | ⟨rest, -, ho⟩ | ⟨-, ho⟩ | ⟨rest, -, ho⟩
  · rw [ho]
    exact ⟨[], [], front, hne, hglue, rfl, rfl, rfl⟩
  · rw [ho]
    refine ⟨[[]], [], front, hne, ?_, rfl, rfl, rfl⟩
    rw [List.singleton_append, split, parts, if_pos rfl]
    exact congrArg _ hglue
  · have hpieces : p.pieces = [] := by
      rw [pieces, ho]
      decide
    rw [hpieces, List.prefix_nil] at h
    exact absurd h hne
  · rw [ho] at hsplit ⊢
    obtain ⟨second, more, rfl⟩ :=
      (exists_of_prefix_split_slash hsplit hsettled).resolve_left hne
    refine ⟨[[dot]], [[]], second :: more, by simp, ?_, rfl, rfl, rfl⟩
    rw [glue, List.intercalate_cons_cons, split]
    exact (parts_append_mark [dot] _).trans
      (congrArg _ (parts_intercalate (by simp) (List.forall_mem_cons.mp hslash).2))

theorem turns_opening_glue {p : Path} {front : List Bytes} (h : front <+: p.pieces)
    (hsettled : settle front = front) :
    turns ⟨p.opening.1 ++ glue front⟩ = turnsOf front := by
  by_cases hne : front = []
  · rw [hne, show glue [] = [] from rfl, List.append_nil, turns_opening]
    rfl
  · obtain ⟨lead, skipped, rest, -, hsplit, hfront, hlead, hskipped⟩ :=
      split_opening_glue h hsettled hne
    rw [turns, hsplit, hfront, turnsOf_append, turnsOf_append, hlead, hskipped]

/-! ### The path above -/

theorem parent?_concat {p : Path} {front : List Bytes} {last : Bytes}
    (h : p.pieces = front ++ [last]) :
    p.parent? = some ⟨p.opening.1 ++ glue (settle front)⟩ := by
  rw [parent?, if_neg (by simp [h]), h, List.dropLast_concat]

/-- A path leads where the path above it leads, and on by its last piece. -/
theorem turns_parent? {p q : Path} {front : List Bytes} {last : Bytes}
    (h : p.pieces = front ++ [last]) (hq : p.parent? = some q) :
    p.turns = q.turns ++ turnsOf [last] := by
  rw [parent?_concat h] at hq
  cases hq
  have hbegins : settle front <+: p.pieces := by
    rw [h]
    exact (prefix_settle front).trans (List.prefix_append front [last])
  rw [turns_opening_glue hbegins (List.rdropWhile_idempotent isIdle front), turnsOf_settle,
    ← turnsOf_append, ← h, turnsOf_pieces]

theorem prefix_turns_parent? {p q : Path} (hq : p.parent? = some q) : q.turns <+: p.turns := by
  rcases List.eq_nil_or_concat p.pieces with hpieces | ⟨front, last, hpieces⟩
  · rw [parent?, if_pos hpieces] at hq
    split at hq
    · cases hq
      exact List.nil_prefix
    · cases hq
  · rw [List.concat_eq_append] at hpieces
    exact ⟨_, (turns_parent? hpieces hq).symm⟩

theorem prefix_glue {front : List Bytes} {bytes : Bytes} (h : front <+: split bytes) :
    glue front <+: bytes := by
  have hbytes : glue (split bytes) = bytes := intercalate_parts slash bytes
  rw [← hbytes]
  exact prefix_intercalate [slash] h

theorem opening_append (p : Path) : p.opening.1 ++ p.opening.2 = p.bytes := by
  rcases p.opening_cases with ⟨ho, -⟩ | ⟨rest, hb, ho⟩ | ⟨hb, ho⟩ | ⟨rest, hb, ho⟩
  · rw [ho]
    rfl
  · rw [ho]
    exact hb.symm
  · rw [ho]
    exact hb.symm
  · rw [ho]
    exact hb.symm

/-- The path above a path is a beginning of it. -/
theorem prefix_parent? {p q : Path} (hq : p.parent? = some q) : q.bytes <+: p.bytes := by
  unfold parent? at hq
  split at hq
  · split at hq
    · cases hq
      exact List.nil_prefix
    · cases hq
  · cases hq
    rw [← opening_append p]
    exact (List.prefix_append_right_inj _).mpr (prefix_glue
      ((prefix_settle _).trans ((List.dropLast_prefix _).trans (prefix_settle _))))

/-- The path above a path starts where it starts, unless nothing is left of it. -/
theorem isAbsolute_parent? {p q : Path} (hq : p.parent? = some q) (hne : q.bytes ≠ []) :
    q.isAbsolute = p.isAbsolute := by
  obtain ⟨others, hbytes⟩ := prefix_parent? hq
  rw [isAbsolute, isAbsolute, ← hbytes, List.head?_append_of_ne_nil _ hne]

/-- Only above paths that do not start at the root nothing may be left. -/
theorem isAbsolute_of_parent?_nil {p : Path} (hq : p.parent? = some ⟨[]⟩) :
    p.isAbsolute = false := by
  rcases p.opening_cases with ⟨-, h⟩ | ⟨rest, -, ho⟩ | ⟨hb, -⟩ | ⟨rest, hb, -⟩
  · simpa using h
  · unfold parent? at hq
    rw [ho] at hq
    split at hq
    · simp [slash, dot] at hq
    · simp at hq
  · rw [isAbsolute, hb]
    rfl
  · rw [isAbsolute, hb]
    rfl

theorem pieces_ne_nil_of_parent? {p q : Path} (hq : p.parent? = some q) (hne : q.bytes ≠ []) :
    p.pieces ≠ [] := by
  intro hpieces
  rw [parent?, if_pos hpieces] at hq
  split at hq
  · cases hq
    exact hne rfl
  · cases hq

/-- Paths without idle pieces at their ends, but for those that have no others. -/
def Trim (p : Path) : Prop :=
  ∀ last, (split p.bytes).getLast? = some last → isIdle last = true → p.turns = []

/-- The path above a path is trim. -/
theorem parent?_trim {p q : Path} (hq : p.parent? = some q) : q.Trim := by
  unfold parent? at hq
  split at hq
  · split at hq
    · cases hq
      exact fun _ _ _ => by decide
    · cases hq
  · cases hq
    have hbegins : settle p.pieces.dropLast <+: p.pieces :=
      (prefix_settle _).trans (List.dropLast_prefix _)
    have hsettled : settle (settle p.pieces.dropLast) = settle p.pieces.dropLast :=
      List.rdropWhile_idempotent isIdle _
    intro last hlast hidle
    rw [turns_opening_glue hbegins hsettled]
    rcases settle_eq_nil_or p.pieces.dropLast with hnil | ⟨front, last', heq, hbusy⟩
    · rw [hnil]
      rfl
    · obtain ⟨lead, skipped, rest, hne, hsplit, hfront, -⟩ :=
        split_opening_glue hbegins hsettled (by simp [heq])
      rw [hsplit, List.getLast?_append_of_ne_nil _ hne] at hlast
      have hsame : (settle p.pieces.dropLast).getLast? = some last := by
        rw [hfront, List.getLast?_append_of_ne_nil _ hne, hlast]
      rw [heq, List.getLast?_concat] at hsame
      rw [Option.some.inj hsame, hidle] at hbusy
      cases hbusy

/-! ### The file of a path -/

theorem IsName.ne_nil {n : Bytes} (h : IsName n) : n ≠ [] := by
  rintro rfl
  exact absurd h.busy (by decide)

/-- Settled pieces end in one that leads somewhere. -/
theorem busy_of_getLast?_settle (pieces : List Bytes) {last : Bytes}
    (h : (settle pieces).getLast? = some last) : isIdle last = false := by
  rcases settle_eq_nil_or pieces with hnil | ⟨front, last', heq, hbusy⟩
  · rw [hnil] at h
    cases h
  · rw [heq, List.getLast?_concat] at h
    cases h
    exact hbusy

/-- The file name of a path is its last piece, and leads down. -/
theorem fileName?_eq_some {p : Path} {n : Bytes} (h : p.fileName? = some n) :
    IsName n ∧ ∃ front, p.pieces = front ++ [n] := by
  unfold fileName? at h
  cases hlast : p.pieces.getLast? with
  | none => rw [hlast] at h; cases h
  | some last =>
    rw [hlast] at h
    dsimp only at h
    split at h
    · cases h
    · next hdown =>
      cases h
      have hmem := List.mem_of_getLast? hlast
      exact ⟨⟨busy_of_getLast?_settle _ hlast, hdown, not_mem_of_mem_pieces hmem⟩,
        List.getLast?_eq_some_iff.mp hlast⟩

theorem IsName.turnsOf {n : Bytes} (h : IsName n) : turnsOf [n] = [.name n] :=
  List.filterMap_cons_some h.turn?

theorem getLast?_turns_of_fileName? {p : Path} {n : Bytes} (h : p.fileName? = some n) :
    p.turns.getLast? = some (.name n) := by
  obtain ⟨hn, front, hpieces⟩ := fileName?_eq_some h
  rw [← turnsOf_pieces, hpieces, turnsOf_append, hn.turnsOf, List.getLast?_concat]

/-! ### Going on from a path -/

/-- What the bytes of a further path are put after. -/
def stand (p : Path) : Bytes :=
  if p.bytes = [] ∨ p.bytes.getLast? = some slash then p.bytes else p.bytes ++ [slash]

theorem join_eq_stand {p further : Path} (h : further.isAbsolute = false) :
    p.join further = ⟨p.stand ++ further.bytes⟩ := by
  unfold join stand
  rw [h, if_neg Bool.false_ne_true]
  split
  · rfl
  · rw [List.append_assoc]
    rfl

theorem stand_cases (p : Path) :
    (p.stand = [] ∧ p.turns = []) ∨
    ∃ front, p.stand = front ++ [slash] ∧ turnsOf (split front) = p.turns := by
  obtain ⟨bytes⟩ := p
  unfold stand
  split
  · next h =>
    rcases h with h | h
    · rw [show bytes = [] from h]
      exact .inl ⟨rfl, by decide⟩
    · obtain ⟨front, hfront⟩ := List.getLast?_eq_some_iff.mp h
      refine .inr ⟨front, hfront, ?_⟩
      rw [turns, hfront, split, split, parts_append_mark, turnsOf_append]
      exact (List.append_nil _).symm
  · exact .inr ⟨bytes, rfl, rfl⟩

theorem isAbsolute_eq_false_of_not_mem {x : Bytes} (h : slash ∉ x) :
    isAbsolute ⟨x⟩ = false := by
  cases x with
  | nil => rfl
  | cons b rest =>
    rw [List.mem_cons, not_or] at h
    simpa [isAbsolute] using Ne.symm h.1

/-- A path that goes on by a single piece leads on by that piece. -/
theorem turns_join (p : Path) {x : Bytes} (h : slash ∉ x) :
    (p.join ⟨x⟩).turns = p.turns ++ turnsOf [x] := by
  rw [join_eq_stand (isAbsolute_eq_false_of_not_mem h), turns]
  rcases p.stand_cases with ⟨hs, ht⟩ | ⟨front, hs, ht⟩
  · rw [hs, ht, split, List.nil_append, parts_of_not_mem h]
    rfl
  · rw [hs, split, List.append_assoc, List.singleton_append, parts_append_mark, turnsOf_append,
      parts_of_not_mem h, ← ht]
    rfl

theorem isAbsolute_join (p : Path) {x : Bytes} (h : slash ∉ x) :
    (p.join ⟨x⟩).isAbsolute = p.isAbsolute := by
  have hx := isAbsolute_eq_false_of_not_mem h
  rw [join_eq_stand hx]
  obtain ⟨bytes⟩ := p
  cases bytes with
  | nil => exact hx
  | cons b rest =>
    unfold stand
    split <;> rfl

/-- What a path opens with does not depend on what follows a slash in it. -/
theorem opening_append_slash (front : Bytes) : ∃ o,
    (∀ x, opening ⟨front ++ slash :: x⟩ = (o, x)) ∨
    ∃ front', ∀ x, opening ⟨front ++ slash :: x⟩ = (o, front' ++ slash :: x) := by
  cases front with
  | nil => exact ⟨[slash], .inl fun x => by simp [opening]⟩
  | cons b rest =>
    by_cases hslash : b = slash
    · exact ⟨[slash], .inr ⟨rest, fun x => by simp [opening, hslash]⟩⟩
    · by_cases hdot : b = dot ∧ (rest = [] ∨ rest.head? = some slash)
      · refine ⟨[dot], .inr ⟨rest, fun x => ?_⟩⟩
        obtain ⟨rfl, rfl | hrest⟩ := hdot
        · simp [opening, hslash]
        · simp [opening, hslash, hrest]
      · refine ⟨[], .inr ⟨b :: rest, fun x => ?_⟩⟩
        have hopen : ¬ (b = dot ∧ (rest ++ slash :: x = [] ∨
            (rest ++ slash :: x).head? = some slash)) := by
          rintro ⟨rfl, h | h⟩
          · simp at h
          · refine hdot ⟨rfl, ?_⟩
            cases rest with
            | nil => exact .inl rfl
            | cons c more => exact .inr h
        simp only [opening, List.cons_append, if_neg hslash, if_neg hopen]

theorem opening_of_isName {x : Bytes} (h : IsName x) : opening ⟨x⟩ = ([], x) := by
  rcases opening_cases ⟨x⟩ with ⟨ho, -⟩ | ⟨rest, hb, -⟩ | ⟨hb, -⟩ | ⟨rest, hb, -⟩
  · exact ho
  · subst hb
    exact absurd List.mem_cons_self h.whole
  · subst hb
    exact absurd h.busy (by decide)
  · subst hb
    exact absurd (by simp) h.whole

theorem settle_split_append_slash (front : Bytes) {x : Bytes} (h : IsName x) :
    settle (split (front ++ slash :: x)) = split front ++ [x] := by
  rw [split, parts_append_mark, parts_of_not_mem h.whole, settle_concat_of_busy h.busy]
  rfl

/-- Paths that go on from one path by a name differ in their last pieces only. -/
theorem pieces_join (p : Path) : ∃ o front, ∀ x, IsName x →
    (p.join ⟨x⟩).opening.1 = o ∧ (p.join ⟨x⟩).pieces = front ++ [x] := by
  have hjoin : ∀ {x}, IsName x → p.join ⟨x⟩ = ⟨p.stand ++ x⟩ := fun h =>
    join_eq_stand (isAbsolute_eq_false_of_not_mem h.whole)
  have hsingle : ∀ {x}, IsName x → settle (split x) = [x] := by
    intro x h
    rw [split, parts_of_not_mem h.whole]
    exact settle_concat_of_busy h.busy []
  rcases p.stand_cases with ⟨hs, -⟩ | ⟨front, hs, -⟩
  · refine ⟨[], [], fun x h => ?_⟩
    rw [hjoin h, hs, List.nil_append, pieces, opening_of_isName h]
    exact ⟨rfl, hsingle h⟩
  · obtain ⟨o, ho | ⟨front', ho⟩⟩ := opening_append_slash front
    · refine ⟨o, [], fun x h => ?_⟩
      rw [hjoin h, hs, List.append_assoc, List.singleton_append, pieces, ho]
      exact ⟨rfl, hsingle h⟩
    · refine ⟨o, split front', fun x h => ?_⟩
      rw [hjoin h, hs, List.append_assoc, List.singleton_append, pieces, ho]
      exact ⟨rfl, settle_split_append_slash front' h⟩

theorem fileName?_join (p : Path) {x : Bytes} (h : IsName x) :
    (p.join ⟨x⟩).fileName? = some x := by
  obtain ⟨o, front, hp⟩ := p.pieces_join
  rw [fileName?, (hp x h).2, List.getLast?_concat]
  exact if_neg h.down

/-- The path above does not tell by which name a path goes on. -/
theorem parent?_join (p : Path) : ∃ q, ∀ x, IsName x → (p.join ⟨x⟩).parent? = some q ∧
    (p.join ⟨x⟩).turns = q.turns ++ [.name x] := by
  obtain ⟨o, front, hp⟩ := p.pieces_join
  refine ⟨⟨o ++ glue (settle front)⟩, fun x h => ?_⟩
  obtain ⟨ho, hpieces⟩ := hp x h
  have hparent := parent?_concat hpieces
  rw [ho] at hparent
  refine ⟨hparent, ?_⟩
  rw [turns_parent? hpieces hparent, h.turnsOf]

end Path
end SchemaReport
