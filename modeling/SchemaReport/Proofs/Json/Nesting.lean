import SchemaReport.Proofs.Json.Machine

/-! What a stretch of text can do to a reader that still has to come to a document.

A string that has swallowed a line feed is lost (`not_survives_newline`), and a string is
followed by a colon only where a key was awaited (`awaitsKey_of_colon`). And without a comma
nothing goes back to awaiting a key or a value at the depth it had: whatever begins a
container sinks deeper, and a value that is complete only awaits a comma or an end
(`leads_sinks`). So no text without a comma makes the reader await a second key of the same
object. -/
namespace SchemaReport.Json

/-! ### Strings -/

/-- No state takes a string whose body is not legal. -/
theorem isBody_of_step {s s' : ReadState} {body : List Char} (h : step s (.string body) = some s') :
    IsBody body := by
  cases hbody : isBody body with
  | true => exact isBody_iff.mp hbody
  | false => cases s <;> simp [step, beginValue, takeKey, hbody] at h

namespace Machine

theorem not_survives_end {l : LexState} {s : ReadState} (h : l.last = none) :
    ¬ Survives ⟨l, s⟩ [] := by
  intro hsurvives
  obtain ⟨m', document, hm, hd⟩ := hsurvives
  obtain rfl := leads_nil_iff.mp hm
  rw [document?, h] at hd
  cases hd

/-- A line feed that has got into a string makes it illegal however the text goes on. -/
theorem not_survives_newline {seen : List Char} (h : '\n' ∈ seen) (s : ReadState)
    (text : List Char) :
    ¬ Survives ⟨.inString seen, s⟩ text ∧ ¬ Survives ⟨.escaped seen, s⟩ text := by
  induction text generalizing seen with
  | nil => exact ⟨not_survives_end rfl, not_survives_end rfl⟩
  | cons c rest ih =>
    have hmore := ih (List.mem_cons_of_mem c h)
    constructor
    · intro hs
      obtain ⟨m₁, hadvance, hrest⟩ := survives_cons_iff.mp hs
      by_cases hquote : c = '"'
      · subst hquote
        rw [advance_quote] at hadvance
        obtain ⟨s', hstep, -⟩ := Option.map_eq_some_iff.mp hadvance
        exact (isBody_of_step hstep).newline_not_mem (List.mem_reverse.mpr h)
      · by_cases hbackslash : c = '\\'
        · have hnext : m₁ = ⟨.escaped (c :: seen), s⟩ := by
            simpa [advance, LexState.next, hbackslash] using hadvance.symm
          rw [hnext] at hrest
          exact hmore.2 hrest
        · rw [advance_plain hquote hbackslash] at hadvance
          obtain rfl := Option.some.inj hadvance
          exact hmore.1 hrest
    · intro hs
      obtain ⟨m₁, hadvance, hrest⟩ := survives_cons_iff.mp hs
      obtain rfl := Option.some.inj hadvance
      exact hmore.1 hrest

/-- Plain characters up to the end of the line leave no string that could still be closed. -/
theorem not_survives_line {line : List Char} (hplain : ∀ c ∈ line, c ≠ '"' ∧ c ≠ '\\')
    (seen : List Char) (s : ReadState) (rest : List Char) :
    ¬ Survives ⟨.inString seen, s⟩ (line ++ '\n' :: rest) := by
  induction line generalizing seen with
  | nil =>
    intro h
    obtain ⟨m₁, hadvance, hrest⟩ := survives_cons_iff.mp h
    rw [advance_plain (by decide) (by decide)] at hadvance
    obtain rfl := Option.some.inj hadvance
    exact (not_survives_newline List.mem_cons_self s rest).1 hrest
  | cons c more ih =>
    intro h
    obtain ⟨hquote, hbackslash⟩ := hplain c List.mem_cons_self
    obtain ⟨m₁, hadvance, hrest⟩ := survives_cons_iff.mp h
    rw [advance_plain hquote hbackslash] at hadvance
    obtain rfl := Option.some.inj hadvance
    exact ih (fun d hd => hplain d (List.mem_cons_of_mem c hd)) _ hrest

/-- A text read within a string stays in it, or closes it with its first quote that is not
escaped. -/
theorem leads_string_cases {l : LexState} {seen text : List Char} {s : ReadState} {m' : Machine}
    (hl : l = .inString seen ∨ l = .escaped seen) (h : Leads ⟨l, s⟩ text m') :
    m' = ⟨.inString (text.reverse ++ seen), s⟩ ∨ m' = ⟨.escaped (text.reverse ++ seen), s⟩ ∨
    ∃ body after s₁, step s (.string body) = some s₁ ∧ (∀ c ∈ after, c ∈ text) ∧
      Leads ⟨.between, s₁⟩ after m' := by
  induction text generalizing l seen with
  | nil =>
    obtain rfl := leads_nil_iff.mp h
    rcases hl with rfl | rfl
    · exact .inl rfl
    · exact .inr (.inl rfl)
  | cons c rest ih =>
    obtain ⟨m₁, hadvance, hrest⟩ := leads_cons_iff.mp h
    have hstay : ∀ l₁, l₁ = .inString (c :: seen) ∨ l₁ = .escaped (c :: seen) → m₁ = ⟨l₁, s⟩ →
        m' = ⟨.inString ((c :: rest).reverse ++ seen), s⟩ ∨
        m' = ⟨.escaped ((c :: rest).reverse ++ seen), s⟩ ∨
        ∃ body after s₁, step s (.string body) = some s₁ ∧ (∀ d ∈ after, d ∈ c :: rest) ∧
          Leads ⟨.between, s₁⟩ after m' := by
      intro l₁ hl₁ hm₁
      subst hm₁
      rw [List.reverse_cons, List.append_assoc]
      rcases ih hl₁ hrest with h | h | ⟨body, after, s₁, hstep, hafter, hleads⟩
      · exact .inl h
      · exact .inr (.inl h)
      · exact .inr (.inr ⟨body, after, s₁, hstep,
          fun d hd => List.mem_cons_of_mem c (hafter d hd), hleads⟩)
    rcases hl with rfl | rfl
    · by_cases hquote : c = '"'
      · subst hquote
        rw [advance_quote] at hadvance
        obtain ⟨s₁, hstep, rfl⟩ := Option.map_eq_some_iff.mp hadvance
        exact .inr (.inr ⟨_, rest, s₁, hstep, fun d hd => List.mem_cons_of_mem _ hd, hrest⟩)
      · by_cases hbackslash : c = '\\'
        · refine hstay (.escaped (c :: seen)) (.inr rfl) ?_
          simpa [advance, LexState.next, hbackslash] using hadvance.symm
        · rw [advance_plain hquote hbackslash] at hadvance
          exact hstay (.inString (c :: seen)) (.inl rfl) (Option.some.inj hadvance).symm
    · exact hstay (.inString (c :: seen)) (.inl rfl) (Option.some.inj hadvance).symm

end Machine

/-! ### Keys -/

/-- The reader awaits a key of an object that is open within the frames. -/
def AwaitsKey (s : ReadState) (frames : List Frame) : Prop :=
  s = .firstKey frames ∨ ∃ members, s = .nextKey members frames

/-- A string where a key is awaited is the key. -/
theorem AwaitsKey.step_string {s s₁ : ReadState} {frames : List Frame} {body : List Char}
    (h : AwaitsKey s frames) (hstep : step s (.string body) = some s₁) :
    ∃ members, s₁ = .afterKey members body frames := by
  have hbody : isBody body = true := isBody_iff.mpr (isBody_of_step hstep)
  rcases h with rfl | ⟨members, rfl⟩
  · rw [step, takeKey, if_pos hbody] at hstep
    · exact ⟨[], (Option.some.inj hstep).symm⟩
    · exact fun h => nomatch h
  · rw [step, takeKey, if_pos hbody] at hstep
    exact ⟨members, (Option.some.inj hstep).symm⟩

/-- After a string that is a value no colon is taken. -/
theorem step_completed_colon (value : Json) (frames : List Frame) :
    step (completed value frames) .colon = none := by
  cases frames with
  | nil => rfl
  | cons frame frames => cases frame <;> rfl

/-- Only a key leads to its colon. -/
theorem awaitsKey_of_colon {s s₁ s₂ : ReadState} {body : List Char}
    (hkey : step s (.string body) = some s₁) (hcolon : step s₁ .colon = some s₂) :
    ∃ members frames, AwaitsKey s frames ∧ s₂ = .value (.object members body :: frames) := by
  have hbody : isBody body = true := isBody_iff.mpr (isBody_of_step hkey)
  have hawaits : ∀ {frames}, AwaitsKey s frames →
      ∃ members frames, AwaitsKey s frames ∧ s₂ = .value (.object members body :: frames) := by
    intro frames h
    obtain ⟨members, rfl⟩ := h.step_string hkey
    exact ⟨members, frames, h, (Option.some.inj hcolon).symm⟩
  have hvalue : ∀ {frames}, s₁ ≠ completed (.string body) frames := by
    intro frames heq
    rw [heq, step_completed_colon] at hcolon
    cases hcolon
  cases s with
  | firstKey frames => exact hawaits (.inl rfl)
  | nextKey members frames => exact hawaits (.inr ⟨members, rfl⟩)
  | value frames =>
    rw [step, beginValue, if_pos hbody] at hkey
    exact absurd (Option.some.inj hkey).symm hvalue
  | firstItem frames =>
    rw [step, beginValue, if_pos hbody] at hkey
    · exact absurd (Option.some.inj hkey).symm hvalue
    · exact fun h => nomatch h
  | _ => cases hkey

/-! ### Depth -/

/-- How deep a state is that awaits a key, its colon or a value, in half steps: a key whose
value is awaited counts for one. A state after a complete value has no depth. -/
def ReadState.depth? : ReadState → Option Nat
  | .value frames => some (2 * frames.length + 1)
  | .firstItem frames => some (2 * frames.length + 2)
  | .firstKey frames => some (2 * frames.length + 2)
  | .nextKey _ frames => some (2 * frames.length + 2)
  | .afterKey _ _ frames => some (2 * frames.length + 3)
  | .afterItem _ _ => none
  | .afterMember _ _ => none
  | .finished _ => none

theorem AwaitsKey.depth? {s : ReadState} {frames : List Frame} (h : AwaitsKey s frames) :
    s.depth? = some (2 * frames.length + 2) := by
  rcases h with rfl | ⟨members, rfl⟩ <;> rfl

theorem AwaitsKey.depth?_string {s s₁ : ReadState} {frames : List Frame} {body : List Char}
    (h : AwaitsKey s frames) (hstep : step s (.string body) = some s₁) :
    s₁.depth? = some (2 * frames.length + 3) := by
  obtain ⟨members, rfl⟩ := h.step_string hstep
  rfl

/-- The machine never gets less deep and does not come back from a complete value. -/
def Sinks (s s' : ReadState) : Prop :=
  ∀ depth', s'.depth? = some depth' → ∃ depth, s.depth? = some depth ∧ depth ≤ depth'

theorem Sinks.refl (s : ReadState) : Sinks s s := fun depth h => ⟨depth, h, Nat.le_refl depth⟩

theorem Sinks.of_le {s s' : ReadState} {depth depth' : Nat} (hs : s.depth? = some depth)
    (hs' : s'.depth? = some depth') (hle : depth ≤ depth') : Sinks s s' := by
  intro d hd
  obtain rfl := Option.some.inj (hs'.symm.trans hd)
  exact ⟨depth, hs, hle⟩

theorem Sinks.trans {s₁ s₂ s₃ : ReadState} (h : Sinks s₁ s₂) (h' : Sinks s₂ s₃) : Sinks s₁ s₃ := by
  intro depth₃ h₃
  obtain ⟨depth₂, h₂, hle'⟩ := h' depth₃ h₃
  obtain ⟨depth₁, h₁, hle⟩ := h depth₂ h₂
  exact ⟨depth₁, h₁, Nat.le_trans hle hle'⟩

theorem completed_depth? (value : Json) (frames : List Frame) :
    (completed value frames).depth? = none := by
  cases frames with
  | nil => rfl
  | cons frame frames => cases frame <;> rfl

theorem sinks_completed (s : ReadState) (value : Json) (frames : List Frame) :
    Sinks s (completed value frames) := by
  intro depth h
  rw [completed_depth?] at h
  cases h

theorem beginValue_sinks {frames : List Frame} {token : Token} {s' : ReadState}
    (h : beginValue frames token = some s') : Sinks (.value frames) s' := by
  cases token with
  | openBrace =>
    obtain rfl := Option.some.inj h
    exact .of_le rfl rfl (by omega)
  | openBracket =>
    obtain rfl := Option.some.inj h
    exact .of_le rfl rfl (by omega)
  | string body =>
    rw [beginValue] at h
    split at h
    · obtain rfl := Option.some.inj h
      exact sinks_completed _ _ _
    · cases h
  | word chars =>
    obtain ⟨value, -, rfl⟩ := Option.map_eq_some_iff.mp h
    exact sinks_completed _ _ _
  | _ => cases h

theorem takeKey_sinks {members : List (List Char × Json)} {frames : List Frame} {token : Token}
    {s s' : ReadState} (hs : s.depth? = some (2 * frames.length + 2))
    (h : takeKey members frames token = some s') : Sinks s s' := by
  cases token with
  | string body =>
    rw [takeKey] at h
    split at h
    · obtain rfl := Option.some.inj h
      exact .of_le hs rfl (by omega)
    · cases h
  | _ => cases h

/-- Only a comma makes the reader await something once more. -/
theorem step_sinks {s s' : ReadState} {token : Token} (h : step s token = some s')
    (hcomma : token ≠ .comma) : Sinks s s' := by
  cases s with
  | value frames => exact beginValue_sinks h
  | firstItem frames =>
    by_cases hclose : token = .closeBracket
    · subst hclose
      obtain rfl := Option.some.inj h
      exact sinks_completed _ _ _
    · have hbegin : beginValue (.array [] :: frames) token = some s' := by
        cases token with
        | closeBracket => exact absurd rfl hclose
        | _ => exact h
      have hvalue : Sinks (.firstItem frames) (.value (.array [] :: frames)) := by
        exact .of_le rfl rfl (by simp only [List.length_cons]; omega)
      exact hvalue.trans (beginValue_sinks hbegin)
  | firstKey frames =>
    by_cases hclose : token = .closeBrace
    · subst hclose
      obtain rfl := Option.some.inj h
      exact sinks_completed _ _ _
    · have hkey : takeKey [] frames token = some s' := by
        cases token with
        | closeBrace => exact absurd rfl hclose
        | _ => exact h
      exact takeKey_sinks rfl hkey
  | nextKey members frames => exact takeKey_sinks rfl h
  | afterKey members key frames =>
    cases token with
    | colon =>
      obtain rfl := Option.some.inj h
      exact .of_le rfl rfl (by simp only [List.length_cons]; omega)
    | _ => cases h
  | afterItem items frames =>
    cases token with
    | comma => exact absurd rfl hcomma
    | closeBracket =>
      obtain rfl := Option.some.inj h
      exact sinks_completed _ _ _
    | _ => cases h
  | afterMember members frames =>
    cases token with
    | comma => exact absurd rfl hcomma
    | closeBrace =>
      obtain rfl := Option.some.inj h
      exact sinks_completed _ _ _
    | _ => cases h
  | finished document => cases h

theorem foldlM_sinks {found : List Token} {s s' : ReadState} (h : found.foldlM step s = some s')
    (hcomma : Token.comma ∉ found) : Sinks s s' := by
  induction found generalizing s with
  | nil =>
    obtain rfl := Option.some.inj h
    exact .refl s
  | cons token rest ih =>
    rw [List.foldlM_cons, Option.bind_eq_bind, Option.bind_eq_some_iff] at h
    obtain ⟨s₁, hstep, hrest⟩ := h
    rw [List.mem_cons, not_or] at hcomma
    exact (step_sinks hstep (Ne.symm hcomma.1)).trans (ih hrest hcomma.2)

theorem eq_of_punctuation?_comma {c : Char} (h : punctuation? c = some .comma) : c = ',' := by
  grind [punctuation?]

/-- The lexer makes commas of commas only. -/
theorem comma_not_mem_beginToken {c : Char} (hc : c ≠ ',') : Token.comma ∉ (beginToken c).1 := by
  unfold beginToken
  split
  · next token h =>
    intro hmem
    obtain rfl := List.mem_singleton.mp hmem
    exact hc (eq_of_punctuation?_comma h)
  · repeat' split
    all_goals simp

theorem comma_not_mem_next (l : LexState) {c : Char} (hc : c ≠ ',') :
    Token.comma ∉ (l.next c).1 := by
  have hbegin := comma_not_mem_beginToken hc
  cases l with
  | between => exact hbegin
  | inWord seen =>
    rw [LexState.next]
    split
    · simpa using hbegin
    · simp
  | inString seen =>
    rw [LexState.next]
    repeat' split
    all_goals simp
  | escaped seen => simp [LexState.next]

/-- **Without a comma the reader only sinks.** -/
theorem Machine.leads_sinks {m m' : Machine} {text : List Char} (h : m.Leads text m')
    (hcomma : ',' ∉ text) : Sinks m.state m'.state := by
  induction text generalizing m with
  | nil =>
    obtain rfl := leads_nil_iff.mp h
    exact .refl _
  | cons c rest ih =>
    obtain ⟨m₁, hadvance, hrest⟩ := leads_cons_iff.mp h
    obtain ⟨s₁, hfound, rfl⟩ := Option.map_eq_some_iff.mp hadvance
    rw [List.mem_cons, not_or] at hcomma
    have hfirst := foldlM_sinks hfound (comma_not_mem_next m.lexer (Ne.symm hcomma.1))
    exact hfirst.trans (ih hrest hcomma.2)

end SchemaReport.Json
