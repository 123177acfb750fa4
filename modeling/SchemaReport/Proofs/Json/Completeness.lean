import SchemaReport.Proofs.Json.Machine

/-! The reader reads every text of the grammar, as the document it is derived for.

The induction is on derivations, and what it carries is `Phrase.Read`: a phrase takes the
machine from where it may stand to where it is done, whatever containers are open around
it. A number that is not yet followed by anything is still in the lexer then, which is what
`Machine.Settles` allows for. -/
namespace SchemaReport.Json

/-! ### Characters -/

theorem endsWord_iff {c : Char} : endsWord c = true ↔
    c ∈ [' ', '\t', '\n', '\r', '"', '\x7b', '\x7d', '[', ']', ':', ','] := by
  constructor
  · intro h
    refine Decidable.byContradiction fun hne => ?_
    simp only [List.mem_cons, List.not_mem_nil, or_false, not_or] at hne
    simp [endsWord, isSpace, punctuation?, hne] at h
  · intro h
    simp only [List.mem_cons, List.not_mem_nil, or_false] at h
    rcases h with rfl | rfl | rfl | rfl | rfl | rfl | rfl | rfl | rfl | rfl | rfl <;> rfl

theorem endsWord_of_white {w : List Char} (hw : IsWhite w) {c : Char} (hc : c ∈ w) :
    endsWord c = true := by
  rcases hw c hc with rfl | rfl | rfl | rfl <;> rfl

theorem head?_white {w : List Char} (hw : IsWhite w) {c : Char} {rest : List Char}
    (hc : endsWord c = true) : ∀ d ∈ (w ++ c :: rest).head?, endsWord d = true := by
  intro d hd
  cases w with
  | nil =>
    obtain rfl := Option.some.inj hd
    exact hc
  | cons a w =>
    obtain rfl := Option.some.inj hd
    exact endsWord_of_white hw List.mem_cons_self

theorem endsWord_digit {c : Char} (h : c.isDigit = true) : endsWord c = false := by
  refine Bool.eq_false_iff.mpr fun hc => ?_
  simp only [endsWord_iff, List.mem_cons, List.not_mem_nil, or_false] at hc
  rcases hc with rfl | rfl | rfl | rfl | rfl | rfl | rfl | rfl | rfl | rfl | rfl <;>
    exact absurd h (by decide)

theorem IsDigits.no_end {text : List Char} (h : IsDigits text) : ∀ c ∈ text, endsWord c = false :=
  fun c hc => endsWord_digit (h.2 c hc)

theorem IsInteger.no_end {text : List Char} (h : IsInteger text) :
    ∀ c ∈ text, endsWord c = false := by
  cases h with
  | zero =>
    intro c hc
    rw [List.mem_singleton.mp hc]
    rfl
  | digits hdigits => exact hdigits.no_end

theorem IsFractional.no_end {text : List Char} (h : IsFractional text) :
    ∀ c ∈ text, endsWord c = false := by
  intro c hc
  cases h with
  | absent => cases hc
  | present hdigits =>
    rcases List.mem_cons.mp hc with rfl | hc
    · rfl
    · exact hdigits.no_end c hc

theorem IsScale.no_end {text : List Char} (h : IsScale text) :
    ∀ c ∈ text, endsWord c = false := by
  intro c hc
  cases h with
  | absent => cases hc
  | present he hsign hdigits =>
    simp only [List.mem_cons, List.not_mem_nil, or_false] at he hsign
    rcases List.mem_cons.mp hc with rfl | hc
    · rcases he with rfl | rfl <;> rfl
    · rcases List.mem_append.mp hc with hc | hc
      · rcases hsign with rfl | rfl | rfl
        · cases hc
        · rw [List.mem_singleton.mp hc]
          rfl
        · rw [List.mem_singleton.mp hc]
          rfl
      · exact hdigits.no_end c hc

/-- A number is one word. -/
theorem IsNumeral.no_end {text : List Char} (h : IsNumeral text) :
    ∀ c ∈ text, endsWord c = false := by
  obtain @⟨minus, whole, fraction, scale, hminus, hwhole, hfraction, hscale⟩ := h
  intro c hc
  rw [List.mem_append, List.mem_append, List.mem_append] at hc
  rcases hc with ((hc | hc) | hc) | hc
  · simp only [List.mem_cons, List.not_mem_nil, or_false] at hminus
    rcases hminus with rfl | rfl
    · cases hc
    · rw [List.mem_singleton.mp hc]
      rfl
  · exact hwhole.no_end c hc
  · exact hfraction.no_end c hc
  · exact hscale.no_end c hc

theorem IsNumeral.ne_nil {text : List Char} (h : IsNumeral text) : text ≠ [] := by
  intro heq
  subst heq
  exact absurd h.isNumber (by decide)

theorem ofWord?_number {text : List Char} (h : IsNumeral text) :
    ofWord? text = some (.number text) := by
  have hread := h.isNumber
  have hword : ∀ word, Json.isNumber word = false → text ≠ word := by
    intro word hw heq
    rw [← heq, hread] at hw
    cases hw
  rw [ofWord?, if_neg (hword _ (by decide)), if_neg (hword _ (by decide)),
    if_neg (hword _ (by decide)), hread, if_pos rfl]

/-! ### Runs over words and bodies -/

namespace Machine

/-- A character that ends no word begins one. -/
theorem advance_word {c : Char} (h : endsWord c = false) (s : ReadState) :
    advance ⟨.between, s⟩ c = some ⟨.inWord [c], s⟩ := by
  simp only [endsWord, Bool.or_eq_false_iff] at h
  obtain ⟨⟨hspace, hquote⟩, hmark⟩ := h
  have hnone : punctuation? c = none := by simpa using hmark
  have hbegin : beginToken c = ([], .inWord [c]) := by
    simp only [beginToken, hnone, hspace, Bool.false_eq_true, if_false]
    rw [if_neg (by simpa using hquote)]
  simp [advance, LexState.next, hbegin]

theorem leads_word {text : List Char} (h : ∀ c ∈ text, endsWord c = false) (seen : List Char)
    (s : ReadState) : Leads ⟨.inWord seen, s⟩ text ⟨.inWord (text.reverse ++ seen), s⟩ := by
  induction text generalizing seen with
  | nil => exact .nil _
  | cons c rest ih =>
    have hmore := ih (fun d hd => h d (List.mem_cons_of_mem c hd)) (c :: seen)
    rw [List.reverse_cons, List.append_assoc]
    refine .cons ?_ hmore
    simp [advance, LexState.next, h c List.mem_cons_self]

theorem advance_hexDigit {c : Char} (h : IsHexDigit c) (seen : List Char) (s : ReadState) :
    advance ⟨.inString seen, s⟩ c = some ⟨.inString (c :: seen), s⟩ :=
  advance_plain (h.ne (by decide)) (h.ne (by decide)) seen s

/-- Within a string a legal body is only collected. -/
theorem leads_body {body : List Char} (h : IsBody body) (seen : List Char) (s : ReadState) :
    Leads ⟨.inString seen, s⟩ body ⟨.inString (body.reverse ++ seen), s⟩ := by
  induction h generalizing seen with
  | nil => exact .nil _
  | @plain c rest hcontrol hquote hbackslash hrest ih =>
    rw [List.reverse_cons, List.append_assoc]
    exact .cons (advance_plain hquote hbackslash seen s) (ih (c :: seen))
  | @escape c rest hc hrest ih =>
    rw [List.reverse_cons, List.reverse_cons, List.append_assoc, List.append_assoc]
    exact .cons rfl (.cons rfl (ih (c :: '\\' :: seen)))
  | @unicode a b c d rest ha hb hc hd hrest ih =>
    have hmore := ih (d :: c :: b :: a :: 'u' :: '\\' :: seen)
    simp only [List.reverse_cons, List.append_assoc, List.cons_append, List.nil_append]
    refine .cons rfl (.cons rfl (.cons (advance_hexDigit ha _ s) ?_))
    refine .cons (advance_hexDigit hb _ s) (.cons (advance_hexDigit hc _ s) ?_)
    exact .cons (advance_hexDigit hd _ s) hmore

end Machine

/-! ### Runs that settle -/

/-- A machine that is in a state, or will be once the word it reads ends. -/
def Machine.Settles (m : Machine) (s : ReadState) : Prop :=
  m = ⟨.between, s⟩ ∨ ∃ seen, m.lexer = .inWord seen ∧ step m.state (.word seen.reverse) = some s

/-- A stretch of text takes the machine from one state to another. -/
def Reads (s : ReadState) (text : List Char) (s' : ReadState) : Prop :=
  ∃ m, Machine.Leads ⟨.between, s⟩ text m ∧ m.Settles s'

theorem Machine.Settles.advance {m : Machine} {s : ReadState} (h : m.Settles s) {c : Char}
    (hc : endsWord c = true) : m.advance c = Machine.advance ⟨.between, s⟩ c := by
  rcases h with rfl | ⟨seen, hl, hs⟩
  · rfl
  · have hnext : m.lexer.next c =
        (.word seen.reverse :: (beginToken c).1, (beginToken c).2) := by
      rw [hl, LexState.next, if_pos hc]
    rw [Machine.advance, hnext, List.foldlM_cons, hs]
    rfl

/-- What follows and ends the word goes on from the state. -/
theorem Machine.Settles.survives {m : Machine} {s : ReadState} (h : m.Settles s) {c : Char}
    {rest : List Char} (hc : endsWord c = true) (hm : m.Survives (c :: rest)) :
    Machine.Survives ⟨.between, s⟩ (c :: rest) := by
  obtain ⟨m₁, hadvance, hrest⟩ := Machine.survives_cons_iff.mp hm
  rw [h.advance hc] at hadvance
  exact Machine.survives_cons_iff.mpr ⟨m₁, hadvance, hrest⟩

namespace Reads
variable {s s₁ s' : ReadState} {t u w : List Char}

theorem nil (s : ReadState) : Reads s [] s := ⟨_, .nil _, .inl rfl⟩

/-- What follows a value, once it begins with a character that ends words, is read from the
state the value leads to. -/
theorem trans (ht : Reads s t s₁) (hu : Reads s₁ u s') (hend : ∀ c ∈ u.head?, endsWord c = true) :
    Reads s (t ++ u) s' := by
  obtain ⟨m, hm, hsettles⟩ := ht
  cases u with
  | nil =>
    obtain ⟨m', hm', hsettles'⟩ := hu
    obtain rfl := Machine.leads_nil_iff.mp hm'
    have hs : s₁ = s' := by
      rcases hsettles' with h | ⟨seen, h, -⟩
      · exact congrArg Machine.state h
      · cases h
    subst hs
    rw [List.append_nil]
    exact ⟨m, hm, hsettles⟩
  | cons c rest =>
    obtain ⟨m', hm', hsettles'⟩ := hu
    obtain ⟨m₁, hm₁, hrest⟩ := Machine.leads_cons_iff.mp hm'
    rw [← hsettles.advance (hend c rfl)] at hm₁
    exact ⟨m', hm.append (.cons hm₁ hrest), hsettles'⟩

theorem mark {c : Char} {token : Token} (hc : punctuation? c = some token)
    (hs : step s token = some s₁) (h : Reads s₁ t s') : Reads s (c :: t) s' := by
  obtain ⟨m, hm, hsettles⟩ := h
  refine ⟨m, .cons ?_ hm, hsettles⟩
  rw [Machine.advance_mark hc, hs]
  rfl

theorem white (hw : IsWhite w) (h : Reads s t s') : Reads s (w ++ t) s' := by
  obtain ⟨m, hm, hsettles⟩ := h
  exact ⟨m, (Machine.leads_white hw s).append hm, hsettles⟩

theorem white_right (h : Reads s t s') (hw : IsWhite w) : Reads s (t ++ w) s' := by
  have hend : Reads s' w s' := by
    have := Reads.white hw (Reads.nil s')
    rwa [List.append_nil] at this
  exact h.trans hend fun c hc => endsWord_of_white hw (List.mem_of_mem_head? hc)

theorem string {body : List Char} (hb : IsBody body) (hs : step s (.string body) = some s₁)
    (h : Reads s₁ t s') : Reads s ('"' :: (body ++ '"' :: t)) s' := by
  obtain ⟨m, hm, hsettles⟩ := h
  have hclose : Machine.advance ⟨.inString (body.reverse ++ []), s⟩ '"' = some ⟨.between, s₁⟩ := by
    rw [Machine.advance_quote, List.append_nil, List.reverse_reverse, hs]
    rfl
  exact ⟨m, .cons rfl ((Machine.leads_body hb [] s).append (.cons hclose hm)), hsettles⟩

theorem word (hne : t ≠ []) (hchars : ∀ c ∈ t, endsWord c = false)
    (hs : step s (.word t) = some s') : Reads s t s' := by
  cases t with
  | nil => exact absurd rfl hne
  | cons c rest =>
    have hfirst := Machine.advance_word (hchars c List.mem_cons_self) s
    have hmore := Machine.leads_word (fun d hd => hchars d (List.mem_cons_of_mem c hd)) [c] s
    refine ⟨_, .cons hfirst hmore, .inr ⟨_, rfl, ?_⟩⟩
    rw [List.reverse_append, List.reverse_reverse]
    exact hs

end Reads

/-! ### Before the first item or key -/

/-- A container that is still empty goes on like one that awaits its next item or key, but
for that it may also be closed. -/
inductive Fresh : ReadState → ReadState → Prop
  | same (s : ReadState) : Fresh s s
  | item (frames : List Frame) : Fresh (.firstItem frames) (.value (.array [] :: frames))
  | key (frames : List Frame) : Fresh (.firstKey frames) (.nextKey [] frames)

namespace Fresh
variable {s₁ s₂ s' : ReadState}

theorem step_eq (h : Fresh s₁ s₂) {token : Token} (hs : step s₂ token = some s') :
    step s₁ token = some s' := by
  cases h with
  | same => exact hs
  | item frames =>
    cases token with
    | closeBracket => cases hs
    | _ => exact hs
  | key frames =>
    cases token with
    | closeBrace => cases hs
    | _ => exact hs

theorem foldlM_step (h : Fresh s₁ s₂) {found : List Token} (hs : found.foldlM step s₂ = some s') :
    ∃ s, found.foldlM step s₁ = some s ∧ Fresh s s' := by
  cases found with
  | nil =>
    obtain rfl := Option.some.inj hs
    exact ⟨s₁, rfl, h⟩
  | cons token rest =>
    rw [List.foldlM_cons, Option.bind_eq_bind, Option.bind_eq_some_iff] at hs
    obtain ⟨s, hstep, hrest⟩ := hs
    exact ⟨s', by rw [List.foldlM_cons, h.step_eq hstep]; exact hrest, .same s'⟩

theorem leads (h : Fresh s₁ s₂) {l : LexState} {text : List Char} {m' : Machine}
    (hm : Machine.Leads ⟨l, s₂⟩ text m') :
    ∃ s, Machine.Leads ⟨l, s₁⟩ text ⟨m'.lexer, s⟩ ∧ Fresh s m'.state := by
  induction text generalizing l s₁ s₂ with
  | nil =>
    obtain rfl := Machine.leads_nil_iff.mp hm
    exact ⟨s₁, .nil _, h⟩
  | cons c rest ih =>
    obtain ⟨m₁, hfirst, hrest⟩ := Machine.leads_cons_iff.mp hm
    obtain ⟨s₃, hfound, rfl⟩ := Option.map_eq_some_iff.mp hfirst
    obtain ⟨s₄, hfound', hfresh⟩ := h.foldlM_step hfound
    obtain ⟨s, hlater, hs⟩ := ih hfresh hrest
    exact ⟨s, .cons (by simp [Machine.advance, hfound']) hlater, hs⟩

/-- A run that has left the first item or key behind starts as well from the fresh state. -/
theorem reads (h : Fresh s₁ s₂) {text : List Char} (hr : Reads s₂ text s')
    (hsame : ∀ s, Fresh s s' → s = s') : Reads s₁ text s' := by
  obtain ⟨m, hm, hsettles⟩ := hr
  obtain ⟨s, hleads, hfresh⟩ := h.leads hm
  refine ⟨_, hleads, ?_⟩
  rcases hsettles with rfl | ⟨seen, hl, hstep⟩
  · obtain rfl := hsame s hfresh
    exact .inl rfl
  · exact .inr ⟨seen, hl, hfresh.step_eq hstep⟩

end Fresh

/-! ### Derivations -/

/-- What reading a phrase does, whatever is open around it. -/
def Phrase.Read : Phrase → List Char → Prop
  | .value document, text => ∀ frames, Reads (.value frames) text (completed document frames)
  | .items list, text => ∀ done frames,
      Reads (.value (.array done :: frames)) text (.afterItem (list.reverse ++ done) frames)
  | .members list, text => ∀ done frames,
      Reads (.nextKey done frames) text (.afterMember (list.reverse ++ done) frames)

theorem read_array {vs : List Json} {t : List Char} (h : (Phrase.items vs).Read t) :
    (Phrase.value (.array vs)).Read ('[' :: (t ++ [']'])) := by
  intro frames
  have hitems : Reads (.firstItem frames) t (.afterItem (vs.reverse ++ []) frames) := by
    refine (Fresh.item frames).reads (h [] frames) ?_
    intro s hfresh
    cases hfresh
    rfl
  have hclose : step (.afterItem (vs.reverse ++ []) frames) .closeBracket =
      some (completed (.array vs) frames) := by
    rw [List.append_nil, step, List.reverse_reverse]
  have hend : Reads (.afterItem (vs.reverse ++ []) frames) [']'] (completed (.array vs) frames) :=
    .mark (c := ']') rfl hclose (.nil _)
  exact .mark (c := '[') rfl rfl (hitems.trans hend (by simp [endsWord_iff]))

theorem read_object {ms : List (List Char × Json)} {t : List Char}
    (h : (Phrase.members ms).Read t) :
    (Phrase.value (.object ms)).Read ('\x7b' :: (t ++ ['\x7d'])) := by
  intro frames
  have hmembers : Reads (.firstKey frames) t (.afterMember (ms.reverse ++ []) frames) := by
    refine (Fresh.key frames).reads (h [] frames) ?_
    intro s hfresh
    cases hfresh
    rfl
  have hclose : step (.afterMember (ms.reverse ++ []) frames) .closeBrace =
      some (completed (.object ms) frames) := by
    rw [List.append_nil, step, List.reverse_reverse]
  have hend : Reads (.afterMember (ms.reverse ++ []) frames) ['\x7d']
      (completed (.object ms) frames) := .mark (c := '\x7d') rfl hclose (.nil _)
  exact .mark (c := '\x7b') rfl rfl (hmembers.trans hend (by simp [endsWord_iff]))

/-- A key and its colon, up to the value. -/
theorem Reads.key {done : List (List Char × Json)} {key w₂ w₃ t : List Char}
    {frames : List Frame} {s' : ReadState} (hkey : IsBody key) (hw₂ : IsWhite w₂)
    (hw₃ : IsWhite w₃) (h : Reads (.value (.object done key :: frames)) t s') :
    Reads (.nextKey done frames) ('"' :: (key ++ '"' :: (w₂ ++ ':' :: (w₃ ++ t)))) s' := by
  have hcolon : Reads (.afterKey done key frames) (w₂ ++ ':' :: (w₃ ++ t)) s' :=
    .white hw₂ (.mark rfl rfl (.white hw₃ h))
  refine .string hkey ?_ hcolon
  rw [step, takeKey, if_pos (isBody_iff.mpr hkey)]

/-- The reader follows every derivation. -/
theorem Derives.read {phrase : Phrase} {text : List Char} (h : Derives phrase text) :
    phrase.Read text := by
  induction h with
  | null => exact fun frames => .word (by simp) (by simp [endsWord, isSpace, punctuation?]) rfl
  | true => exact fun frames => .word (by simp) (by simp [endsWord, isSpace, punctuation?]) rfl
  | false => exact fun frames => .word (by simp) (by simp [endsWord, isSpace, punctuation?]) rfl
  | number hlexeme =>
    refine fun frames => .word hlexeme.ne_nil hlexeme.no_end ?_
    rw [step, beginValue, ofWord?_number hlexeme]
    rfl
  | string hbody =>
    refine fun frames => .string hbody ?_ (.nil _)
    rw [step, beginValue, if_pos (isBody_iff.mpr hbody)]
  | emptyArray hw =>
    exact fun frames => .mark (c := '[') rfl rfl (.white hw (.mark (c := ']') rfl rfl (.nil _)))
  | array ht ih => exact read_array ih
  | emptyObject hw =>
    exact fun frames => .mark (c := '\x7b') rfl rfl
      (.white hw (.mark (c := '\x7d') rfl rfl (.nil _)))
  | object ht ih => exact read_object ih
  | item hw₁ ht hw₂ ih =>
    intro done frames
    exact .white hw₁ ((ih (.array done :: frames)).white_right hw₂)
  | @moreItems v vs w₁ t w₂ u hw₁ ht hw₂ hu ihv ihvs =>
    intro done frames
    have hlater : Reads (.afterItem (v :: done) frames) (w₂ ++ ',' :: u)
        (.afterItem ((v :: vs).reverse ++ done) frames) := by
      refine .white hw₂ (.mark (c := ',') rfl rfl ?_)
      rw [List.reverse_cons, List.append_assoc]
      exact ihvs (v :: done) frames
    exact .white hw₁ ((ihv (.array done :: frames)).trans hlater (head?_white hw₂ rfl))
  | member hw₁ hkey hw₂ hw₃ ht hw₄ ih =>
    intro done frames
    exact .white hw₁ (.key hkey hw₂ hw₃ ((ih (.object done _ :: frames)).white_right hw₄))
  | @moreMembers key v ms w₁ w₂ w₃ t w₄ u hw₁ hkey hw₂ hw₃ ht hw₄ hu ihv ihms =>
    intro done frames
    have hlater : Reads (.afterMember ((key, v) :: done) frames) (w₄ ++ ',' :: u)
        (.afterMember (((key, v) :: ms).reverse ++ done) frames) := by
      refine .white hw₄ (.mark (c := ',') rfl rfl ?_)
      rw [List.reverse_cons, List.append_assoc]
      exact ihms ((key, v) :: done) frames
    have hvalue := (ihv (.object done key :: frames)).trans hlater (head?_white hw₄ rfl)
    exact .white hw₁ (.key hkey hw₂ hw₃ hvalue)

/-- **The reader knows the grammar.** Whatever is a JSON text is read, as what it stands for. -/
theorem parse?_eq_some {document : Json} {text : List Char} (h : IsText document text) :
    parse? text = some document := by
  obtain ⟨w₁, t, w₂, rfl, hw₁, ht, hw₂⟩ := h
  have hr : Reads (.value []) (w₁ ++ (t ++ w₂)) (.finished document) :=
    .white hw₁ ((ht.read []).white_right hw₂)
  obtain ⟨m, hm, rfl | ⟨seen, hl, hs⟩⟩ := hr
  · exact parse?_eq_some_iff.mpr ⟨_, hm, rfl⟩
  · refine parse?_eq_some_iff.mpr ⟨m, hm, ?_⟩
    rw [Machine.document?, hl, LexState.last]
    simp [hs, ReadState.document?]

/-- A text stands for one document at most. -/
theorem IsText.unique {d₁ d₂ : Json} {text : List Char} (h₁ : IsText d₁ text)
    (h₂ : IsText d₂ text) : d₁ = d₂ :=
  Option.some.inj ((parse?_eq_some h₁).symm.trans (parse?_eq_some h₂))

end SchemaReport.Json
