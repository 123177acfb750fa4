import SchemaReport.Json.Reader

/-! The grammar of JSON texts.

`Derives` is the grammar of RFC 8259, with the document a text stands for: six structural
characters, white space around them and around values, literals, numbers, strings whose
bodies are legal. The reader's own tests agree with it on bodies (`isBody_iff`) and accept
every number of it (`IsNumeral.isNumber`). -/
namespace SchemaReport.Json

/-! ### The grammar -/

/-- White space between tokens: blank, tab, line feed and carriage return. -/
def IsWhite (text : List Char) : Prop := ∀ c ∈ text, c = ' ' ∨ c = '\t' ∨ c = '\n' ∨ c = '\r'

theorem isWhite_nil : IsWhite [] := by simp [IsWhite]

/-- A digit to base sixteen, in either case. -/
def IsHexDigit (c : Char) : Prop :=
  ('0' ≤ c ∧ c ≤ '9') ∨ ('a' ≤ c ∧ c ≤ 'f') ∨ ('A' ≤ c ∧ c ≤ 'F')

/-- What may stand between the quotes of a string. -/
inductive IsBody : List Char → Prop
  | nil : IsBody []
  | plain {c rest} : 0x20 ≤ c.toNat → c ≠ '"' → c ≠ '\\' → IsBody rest → IsBody (c :: rest)
  | escape {c rest} : c ∈ ['"', '\\', '/', 'b', 'f', 'n', 'r', 't'] → IsBody rest →
      IsBody ('\\' :: c :: rest)
  | unicode {a b c d rest} : IsHexDigit a → IsHexDigit b → IsHexDigit c → IsHexDigit d →
      IsBody rest → IsBody ('\\' :: 'u' :: a :: b :: c :: d :: rest)

/-- One decimal digit or more. -/
def IsDigits (text : List Char) : Prop := text ≠ [] ∧ ∀ c ∈ text, c.isDigit = true

/-- The integer part of a number: no zero leads another digit. -/
inductive IsInteger : List Char → Prop
  | zero : IsInteger ['0']
  | digits {text} : IsDigits text → text.head? ≠ some '0' → IsInteger text

inductive IsFractional : List Char → Prop
  | absent : IsFractional []
  | present {digits} : IsDigits digits → IsFractional ('.' :: digits)

inductive IsScale : List Char → Prop
  | absent : IsScale []
  | present {e sign digits} : e ∈ ['e', 'E'] → sign ∈ [[], ['+'], ['-']] → IsDigits digits →
      IsScale (e :: (sign ++ digits))

/-- A number: a minus sign if any, the integer part, a fraction and an exponent if any. -/
inductive IsNumeral : List Char → Prop
  | mk {minus whole fraction scale} : minus ∈ [[], ['-']] → IsInteger whole →
      IsFractional fraction → IsScale scale → IsNumeral (minus ++ whole ++ fraction ++ scale)

/-- The phrases of the grammar, each with what it stands for. -/
inductive Phrase
  | value (document : Json)
  /-- The items of an array that is not empty. -/
  | items (list : List Json)
  /-- The members of an object that is not empty. -/
  | members (list : List (List Char × Json))

/-- The texts of a phrase. -/
inductive Derives : Phrase → List Char → Prop
  | null : Derives (.value .null) ['n', 'u', 'l', 'l']
  | true : Derives (.value (.bool true)) ['t', 'r', 'u', 'e']
  | false : Derives (.value (.bool false)) ['f', 'a', 'l', 's', 'e']
  | number {lexeme} : IsNumeral lexeme → Derives (.value (.number lexeme)) lexeme
  | string {body} : IsBody body → Derives (.value (.string body)) ('"' :: (body ++ ['"']))
  | emptyArray {w} : IsWhite w → Derives (.value (.array [])) ('[' :: (w ++ [']']))
  | array {vs t} : Derives (.items vs) t → Derives (.value (.array vs)) ('[' :: (t ++ [']']))
  | emptyObject {w} : IsWhite w → Derives (.value (.object [])) ('\x7b' :: (w ++ ['\x7d']))
  | object {ms t} : Derives (.members ms) t →
      Derives (.value (.object ms)) ('\x7b' :: (t ++ ['\x7d']))
  | item {v w₁ t w₂} : IsWhite w₁ → Derives (.value v) t → IsWhite w₂ →
      Derives (.items [v]) (w₁ ++ (t ++ w₂))
  | moreItems {v vs w₁ t w₂ u} : IsWhite w₁ → Derives (.value v) t → IsWhite w₂ →
      Derives (.items vs) u → Derives (.items (v :: vs)) (w₁ ++ (t ++ (w₂ ++ ',' :: u)))
  | member {key v w₁ w₂ w₃ t w₄} : IsWhite w₁ → IsBody key → IsWhite w₂ → IsWhite w₃ →
      Derives (.value v) t → IsWhite w₄ →
      Derives (.members [(key, v)])
        (w₁ ++ '"' :: (key ++ '"' :: (w₂ ++ ':' :: (w₃ ++ (t ++ w₄)))))
  | moreMembers {key v ms w₁ w₂ w₃ t w₄ u} : IsWhite w₁ → IsBody key → IsWhite w₂ → IsWhite w₃ →
      Derives (.value v) t → IsWhite w₄ → Derives (.members ms) u →
      Derives (.members ((key, v) :: ms))
        (w₁ ++ '"' :: (key ++ '"' :: (w₂ ++ ':' :: (w₃ ++ (t ++ (w₄ ++ ',' :: u))))))

/-- A JSON text: a value with white space around it. -/
def IsText (document : Json) (text : List Char) : Prop :=
  ∃ w₁ t w₂, text = w₁ ++ (t ++ w₂) ∧ IsWhite w₁ ∧ Derives (.value document) t ∧ IsWhite w₂

/-! ### Bodies -/

theorem hexValue?_isSome_iff {c : Char} : (hexValue? c).isSome = true ↔ IsHexDigit c := by
  unfold hexValue? IsHexDigit
  split
  · next h => simp [h]
  · next h₁ =>
    split
    · next h => simp [h]
    · next h₂ =>
      split
      · next h => simp [h]
      · next h₃ => simp [h₁, h₂, h₃]

theorem hexFour?_isSome_iff {a b c d : Char} : (hexFour? a b c d).isSome = true ↔
    IsHexDigit a ∧ IsHexDigit b ∧ IsHexDigit c ∧ IsHexDigit d := by
  rw [← hexValue?_isSome_iff, ← hexValue?_isSome_iff, ← hexValue?_isSome_iff,
    ← hexValue?_isSome_iff, hexFour?]
  cases hexValue? a <;> cases hexValue? b <;> cases hexValue? c <;> cases hexValue? d <;> simp

theorem shortEscape?_isSome_iff {c : Char} : (shortEscape? c).isSome = true ↔
    c ∈ ['"', '\\', '/', 'b', 'f', 'n', 'r', 't'] := by
  unfold shortEscape?
  constructor
  · intro h
    refine Decidable.byContradiction fun hne => ?_
    simp only [List.mem_cons, List.not_mem_nil, or_false, not_or] at hne
    simp [hne] at h
  · intro h
    simp only [List.mem_cons, List.not_mem_nil, or_false] at h
    rcases h with rfl | rfl | rfl | rfl | rfl | rfl | rfl | rfl <;> rfl

/-- The reader's notion of a legal body is the grammar's. -/
theorem isBody_iff {body : List Char} : isBody body = true ↔ IsBody body := by
  constructor
  · intro h
    induction body using isBody.induct with
    | case1 => exact .nil
    | case2 a b c d rest ih =>
      simp only [isBody, Bool.and_eq_true, hexFour?_isSome_iff] at h
      exact .unicode h.1.1 h.1.2.1 h.1.2.2.1 h.1.2.2.2 (ih h.2)
    | case3 c rest hne ih =>
      rw [isBody, Bool.and_eq_true, shortEscape?_isSome_iff] at h
      · exact .escape h.1 (ih h.2)
      · exact hne
    | case4 c rest h₁ h₂ ih =>
      rw [isBody] at h
      · simp only [Bool.and_eq_true, bne_iff_ne, Bool.not_eq_true', isControl,
          decide_eq_false_iff_not, Nat.not_lt] at h
        exact .plain h.1.2 h.1.1.2 h.1.1.1 (ih h.2)
      · exact h₁
      · exact h₂
  · intro h
    induction h with
    | nil => rfl
    | @plain c rest hcontrol hquote hbackslash hrest ih =>
      rw [isBody]
      · simp [hbackslash, hquote, isControl, hcontrol, ih]
      · intro a b c' d rest' hc
        exact absurd hc hbackslash
      · intro c' rest' hc
        exact absurd hc hbackslash
    | @escape c rest hc hrest ih =>
      have hsome := shortEscape?_isSome_iff.mpr hc
      rw [isBody]
      · simp [hsome, ih]
      · intro a b c' d rest' hu
        subst hu
        simp at hc
    | @unicode a b c d rest ha hb hc hd hrest ih =>
      simp [isBody, hexFour?_isSome_iff.mpr ⟨ha, hb, hc, hd⟩, ih]

instance (body : List Char) : Decidable (IsBody body) := decidable_of_iff _ isBody_iff

instance (c : Char) : Decidable (IsHexDigit c) := by
  unfold IsHexDigit
  infer_instance

theorem IsHexDigit.ne {c d : Char} (h : IsHexDigit c) (hd : ¬ IsHexDigit d) : c ≠ d := by
  intro heq
  subst heq
  exact hd h

/-- No line ends inside a legal body. -/
theorem IsBody.newline_not_mem {body : List Char} (h : IsBody body) : '\n' ∉ body := by
  induction h with
  | nil => simp
  | plain hcontrol _ _ _ ih =>
    simp only [List.mem_cons, not_or]
    refine ⟨?_, ih⟩
    intro heq
    subst heq
    exact absurd hcontrol (by decide)
  | escape hc _ ih =>
    simp only [List.mem_cons, not_or]
    refine ⟨by decide, ?_, ih⟩
    intro heq
    subst heq
    exact absurd hc (by decide)
  | unicode ha hb hc hd _ ih =>
    have hnewline : ¬ IsHexDigit '\n' := by decide
    simp only [List.mem_cons, not_or]
    exact ⟨by decide, by decide, (ha.ne hnewline).symm, (hb.ne hnewline).symm,
      (hc.ne hnewline).symm, (hd.ne hnewline).symm, ih⟩

/-! ### Numbers -/

theorem digitsThen_append {k : List Char → Bool} {digits rest : List Char} (h : IsDigits digits)
    (hrest : ∀ c ∈ rest.head?, c.isDigit = false) : digitsThen k (digits ++ rest) = k rest := by
  obtain ⟨hne, hall⟩ := h
  cases digits with
  | nil => exact absurd rfl hne
  | cons d more =>
    have hdrop : (more ++ rest).dropWhile Char.isDigit = rest := by
      rw [List.dropWhile_append_of_pos fun c hc => hall c (List.mem_cons_of_mem d hc)]
      cases rest with
      | nil => rfl
      | cons c rest => rw [List.dropWhile_cons, hrest c rfl, if_neg Bool.false_ne_true]
    rw [List.cons_append, digitsThen, hall d List.mem_cons_self, hdrop, Bool.true_and]

theorem IsScale.isExponent {text : List Char} (h : IsScale text) : isExponent text = true := by
  cases h with
  | absent => rfl
  | @present e sign digits he hsign hdigits =>
    have hread : digitsThen List.isEmpty digits = true := by
      rw [← List.append_nil digits, digitsThen_append hdigits (by simp)]
      rfl
    have he' : (e == 'e' || e == 'E') = true := by
      simp only [List.mem_cons, List.not_mem_nil, or_false] at he
      rcases he with rfl | rfl <;> rfl
    simp only [List.mem_cons, List.not_mem_nil, or_false] at hsign
    rcases hsign with rfl | rfl | rfl
    · cases digits with
      | nil => exact absurd rfl hdigits.1
      | cons d more =>
        have hd : d.isDigit = true := hdigits.2 d List.mem_cons_self
        have hplus : d ≠ '+' := by
          intro heq
          subst heq
          exact absurd hd (by decide)
        have hminus : d ≠ '-' := by
          intro heq
          subst heq
          exact absurd hd (by decide)
        rw [List.nil_append, Json.isExponent, he', Bool.true_and]
        · exact hread
        · exact fun _ h => hplus (List.cons.inj h).1
        · exact fun _ h => hminus (List.cons.inj h).1
    · show ((e == 'e' || e == 'E') && digitsThen List.isEmpty digits) = true
      rw [he', hread, Bool.true_and]
    · show ((e == 'e' || e == 'E') && digitsThen List.isEmpty digits) = true
      rw [he', hread, Bool.true_and]

theorem IsScale.head?_not_digit {text : List Char} (h : IsScale text) :
    ∀ c ∈ text.head?, c.isDigit = false := by
  cases h with
  | absent => simp
  | @present e sign digits he =>
    simp only [List.mem_cons, List.not_mem_nil, or_false] at he
    rcases he with rfl | rfl <;> simp

theorem IsFractional.isFraction {fraction scale : List Char} (hf : IsFractional fraction)
    (hs : IsScale scale) : isFraction (fraction ++ scale) = true := by
  cases hf with
  | absent =>
    have hexponent := hs.isExponent
    rw [List.nil_append]
    cases hs with
    | absent => rfl
    | @present e sign digits he =>
      simp only [List.mem_cons, List.not_mem_nil, or_false] at he
      rcases he with rfl | rfl <;> exact hexponent
  | @present digits hdigits =>
    rw [List.cons_append, Json.isFraction, digitsThen_append hdigits hs.head?_not_digit]
    exact hs.isExponent

theorem IsFractional.head?_not_digit {fraction scale : List Char} (hf : IsFractional fraction)
    (hs : IsScale scale) : ∀ c ∈ (fraction ++ scale).head?, c.isDigit = false := by
  cases hf with
  | absent => exact hs.head?_not_digit
  | present hdigits => simp

theorem IsNumeral.isNumber {text : List Char} (h : IsNumeral text) : isNumber text = true := by
  obtain @⟨minus, whole, fraction, scale, hminus, hwhole, hfraction, hscale⟩ := h
  have hread := hfraction.isFraction hscale
  have hunsigned : isUnsigned (whole ++ (fraction ++ scale)) = true := by
    cases hwhole with
    | zero => exact hread
    | digits hdigits hzero =>
      have := digitsThen_append (k := Json.isFraction) hdigits (hfraction.head?_not_digit hscale)
      cases whole with
      | nil => exact absurd rfl hdigits.1
      | cons d more =>
        have hd : d ≠ '0' := fun h => hzero (congrArg some h)
        rw [isUnsigned, this, hread]
        intro rest hrest
        exact absurd (List.cons.inj hrest).1 hd
  simp only [List.mem_cons, List.not_mem_nil, or_false] at hminus
  rw [List.append_assoc, List.append_assoc]
  rcases hminus with rfl | rfl
  · have hd : ∀ rest, whole ++ (fraction ++ scale) ≠ '-' :: rest := by
      intro rest hrest
      rw [hrest] at hunsigned
      exact absurd hunsigned (by simp [isUnsigned, digitsThen])
    rw [List.nil_append, Json.isNumber, hunsigned]
    exact hd
  · exact hunsigned

end SchemaReport.Json
