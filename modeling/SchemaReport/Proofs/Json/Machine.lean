import SchemaReport.Proofs.Json.Grammar

/-! The reader as one machine that takes a text character by character.

Cutting a text into tokens and reading the tokens are two passes; `parse?_eq` makes one of
them, the lexer and the states of the document advancing together. `Machine.Leads` is a run
of it over a stretch of text, and runs compose. By `parse?_eq_some` the machine reads every
text of the grammar, as the very document the grammar derives it for. -/
namespace SchemaReport.Json

/-! ### One character at a time -/

/-- The tokens a character completes, and the lexer after it. -/
def LexState.next : LexState → Char → List Token × LexState
  | .between, c => beginToken c
  | .inWord seen, c =>
    if endsWord c then (.word seen.reverse :: (beginToken c).1, (beginToken c).2)
    else ([], .inWord (c :: seen))
  | .inString seen, c =>
    if c = '"' then ([.string seen.reverse], .between)
    else if c = '\\' then ([], .escaped (c :: seen))
    else ([], .inString (c :: seen))
  | .escaped seen, c => ([], .inString (c :: seen))

/-- The tokens the end of a text completes, if a text may end here. -/
def LexState.last : LexState → Option (List Token)
  | .between => some []
  | .inWord seen => some [.word seen.reverse]
  | .inString _ => none
  | .escaped _ => none

theorem tokens_nil (l : LexState) : tokens l [] = l.last := by
  cases l <;> rfl

theorem tokens_cons (l : LexState) (c : Char) (rest : List Char) :
    tokens l (c :: rest) = (tokens (l.next c).2 rest).map ((l.next c).1 ++ ·) := by
  cases l with
  | between => rfl
  | inWord seen =>
    by_cases h : endsWord c = true
    · simp only [tokens, LexState.next, h, if_true, List.cons_append]
    · simp only [tokens, LexState.next, h, Bool.false_eq_true, if_false]
      exact Option.map_id'.symm
  | inString seen =>
    by_cases hq : c = '"'
    · simp only [tokens, LexState.next, hq, if_true]
      rfl
    · by_cases hb : c = '\\'
      · simp only [tokens, LexState.next, hb, if_true]
        exact Option.map_id'.symm
      · simp only [tokens, LexState.next, hq, hb, if_false]
        exact Option.map_id'.symm
  | escaped seen => exact Option.map_id'.symm

/-- The document, if nothing is lacking. -/
def ReadState.document? : ReadState → Option Json
  | .finished document => some document
  | _ => none

/-- The lexer and what the document still lacks. -/
structure Machine where
  lexer : LexState
  state : ReadState

namespace Machine

/-- The machine before a text. -/
def start : Machine := ⟨.between, .value []⟩

/-- Takes one character. -/
def advance (m : Machine) (c : Char) : Option Machine :=
  ((m.lexer.next c).1.foldlM step m.state).map fun state => ⟨(m.lexer.next c).2, state⟩

/-- The document, if the text may end here. -/
def document? (m : Machine) : Option Json :=
  (m.lexer.last.bind fun found => found.foldlM step m.state).bind ReadState.document?

/-- A stretch of text leads from one machine to another. -/
def Leads (m : Machine) (text : List Char) (m' : Machine) : Prop := text.foldlM advance m = some m'

/-- A machine that can read a text to its end. -/
def Survives (m : Machine) (text : List Char) : Prop :=
  ∃ m' document, m.Leads text m' ∧ m'.document? = some document

theorem Leads.nil (m : Machine) : m.Leads [] m := rfl

theorem leads_nil_iff {m m' : Machine} : m.Leads [] m' ↔ m' = m := by
  simp [Leads, eq_comm]

theorem leads_cons_iff {m m' : Machine} {c : Char} {rest : List Char} :
    m.Leads (c :: rest) m' ↔ ∃ m₁, m.advance c = some m₁ ∧ m₁.Leads rest m' := by
  simp [Leads, List.foldlM_cons, Option.bind_eq_some_iff]

theorem leads_append_iff {m m' : Machine} {a b : List Char} :
    m.Leads (a ++ b) m' ↔ ∃ m₁, m.Leads a m₁ ∧ m₁.Leads b m' := by
  simp [Leads, List.foldlM_append, Option.bind_eq_some_iff]

theorem Leads.cons {m m₁ m' : Machine} {c : Char} {rest : List Char} (h : m.advance c = some m₁)
    (hrest : m₁.Leads rest m') : m.Leads (c :: rest) m' :=
  leads_cons_iff.mpr ⟨m₁, h, hrest⟩

theorem Leads.append {m m₁ m' : Machine} {a b : List Char} (ha : m.Leads a m₁)
    (hb : m₁.Leads b m') : m.Leads (a ++ b) m' :=
  leads_append_iff.mpr ⟨m₁, ha, hb⟩

theorem survives_append_iff {m : Machine} {a b : List Char} :
    m.Survives (a ++ b) ↔ ∃ m₁, m.Leads a m₁ ∧ m₁.Survives b := by
  simp only [Survives, leads_append_iff]
  constructor
  · intro h
    obtain ⟨m', document, ⟨m₁, ha, hb⟩, hd⟩ := h
    exact ⟨m₁, ha, m', document, hb, hd⟩
  · intro h
    obtain ⟨m₁, ha, m', document, hb, hd⟩ := h
    exact ⟨m', document, ⟨m₁, ha, hb⟩, hd⟩

theorem survives_cons_iff {m : Machine} {c : Char} {rest : List Char} :
    m.Survives (c :: rest) ↔ ∃ m₁, m.advance c = some m₁ ∧ m₁.Survives rest := by
  rw [show c :: rest = [c] ++ rest from rfl, survives_append_iff]
  simp [leads_cons_iff, leads_nil_iff]

theorem Leads.survives_iff {m m₁ : Machine} {a b : List Char} (h : m.Leads a m₁) :
    m.Survives (a ++ b) ↔ m₁.Survives b := by
  rw [survives_append_iff]
  constructor
  · intro hsurvives
    obtain ⟨m₂, h₂, hb⟩ := hsurvives
    obtain rfl := Option.some.inj (h.symm.trans h₂)
    exact hb
  · exact fun hb => ⟨m₁, h, hb⟩

theorem leads_white {w : List Char} (hw : IsWhite w) (s : ReadState) :
    Leads ⟨.between, s⟩ w ⟨.between, s⟩ := by
  induction w with
  | nil => exact .nil _
  | cons c rest ih =>
    refine .cons ?_ (ih fun d hd => hw d (List.mem_cons_of_mem c hd))
    rcases hw c List.mem_cons_self with rfl | rfl | rfl | rfl <;> rfl

theorem advance_mark {c : Char} {token : Token} (hc : punctuation? c = some token)
    (s : ReadState) :
    advance ⟨.between, s⟩ c = (step s token).map fun s' => ⟨.between, s'⟩ := by
  cases hs : step s token <;> simp [advance, LexState.next, beginToken, hc, hs]

/-- Within a string a character that neither closes it nor escapes the next is collected. -/
theorem advance_plain {c : Char} (hquote : c ≠ '"') (hbackslash : c ≠ '\\') (seen : List Char)
    (s : ReadState) : advance ⟨.inString seen, s⟩ c = some ⟨.inString (c :: seen), s⟩ := by
  simp [advance, LexState.next, hquote, hbackslash]

/-- A quote that is not escaped closes the string. -/
theorem advance_quote (seen : List Char) (s : ReadState) : advance ⟨.inString seen, s⟩ '"' =
    (step s (.string seen.reverse)).map fun s' => ⟨.between, s'⟩ := by
  cases hs : step s (.string seen.reverse) <;> simp [advance, LexState.next, hs]

/-- Cutting a text from a state of the lexer and reading the tokens is one run. -/
theorem tokens_bind (l : LexState) (s : ReadState) (text : List Char) :
    ((tokens l text).bind fun found => found.foldlM step s) =
      (text.foldlM advance ⟨l, s⟩).bind fun m =>
        m.lexer.last.bind fun found => found.foldlM step m.state := by
  induction text generalizing l s with
  | nil => simp [tokens_nil]
  | cons c rest ih =>
    rw [tokens_cons, List.foldlM_cons]
    cases hs : (l.next c).1.foldlM step s with
    | none =>
      cases tokens (l.next c).2 rest <;> simp [advance, hs, List.foldlM_append]
    | some s' =>
      have := ih (l.next c).2 s'
      simp only [advance, hs, Option.map_some, Option.bind_eq_bind, Option.bind_some, ← this]
      cases tokens (l.next c).2 rest <;> simp [hs, List.foldlM_append]

end Machine

/-- Reading a text is running the machine over it. -/
theorem parse?_eq (text : List Char) :
    parse? text = (text.foldlM Machine.advance .start).bind Machine.document? := by
  have hread : parse? text =
      ((tokens .between text).bind fun found => found.foldlM step (.value [])).bind
        ReadState.document? := by
    rw [parse?]
    cases tokens .between text with
    | none => rfl
    | some found =>
      simp only [Option.bind_eq_bind, Option.bind_some]
      cases found.foldlM step (.value []) with
      | none => rfl
      | some s => cases s <;> rfl
  rw [hread, Machine.tokens_bind, Option.bind_assoc]
  rfl

theorem parse?_eq_some_iff {text : List Char} {document : Json} : parse? text = some document ↔
    ∃ m, Machine.start.Leads text m ∧ m.document? = some document := by
  rw [parse?_eq, Option.bind_eq_some_iff]
  rfl

theorem survives_start_iff {text : List Char} :
    Machine.start.Survives text ↔ ∃ document, parse? text = some document := by
  simp only [parse?_eq_some_iff, Machine.Survives]
  exact exists_comm

end SchemaReport.Json
