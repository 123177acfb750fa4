import Mathlib.Data.List.Forall2
import SchemaReport.Proofs.Json.Grammar

/-! What JSON documents mean.

Documents keep strings as bodies. `StandsFor` tells the text of a body by the rules of
RFC 8259, and `unquote?` finds it (`unquote?_eq_some_iff`). A legal body stands for one text at
most: for none if half of a surrogate pair is left alone in it, and for itself just when
nothing in it is escaped (`standsFor_self_iff`). `Means` carries this over to documents. -/
namespace SchemaReport.Json

/-! ### What bodies stand for -/

/-- A digit to base sixteen, in either case, and its value. -/
def DigitIs (c : Char) (n : Nat) : Prop :=
  n < 16 ∧ (c = Nat.digitChar n ∨ c = (Nat.digitChar n).toUpper)

/-- Four digits and the code they make. -/
def CodeIs (a b c d : Char) (code : Nat) : Prop :=
  ∃ w x y z, DigitIs a w ∧ DigitIs b x ∧ DigitIs c y ∧ DigitIs d z ∧
    code = ((w * 16 + x) * 16 + y) * 16 + z

/-- What stands behind the backslash of a two-character escape, and the character meant. -/
def escapes : List (Char × Char) :=
  [('"', '"'), ('\\', '\\'), ('/', '/'), ('b', '\x08'), ('f', '\x0c'), ('n', '\n'), ('r', '\r'),
    ('t', '\t')]

/-- The text a body stands for. No character has a surrogate for its code, so a surrogate
counts only as half of a pair. -/
inductive StandsFor : List Char → List Char → Prop
  | nil : StandsFor [] []
  | plain {c body text} : 0x20 ≤ c.toNat → c ≠ '"' → c ≠ '\\' → StandsFor body text →
      StandsFor (c :: body) (c :: text)
  | escape {e c body text} : (e, c) ∈ escapes → StandsFor body text →
      StandsFor ('\\' :: e :: body) (c :: text)
  | code {a b c d char body text} : CodeIs a b c d char.toNat → StandsFor body text →
      StandsFor ('\\' :: 'u' :: a :: b :: c :: d :: body) (char :: text)
  | pair {a b c d e f g h lead trail char body text} : CodeIs a b c d lead →
      0xD800 ≤ lead → lead < 0xDC00 → CodeIs e f g h trail → 0xDC00 ≤ trail → trail < 0xE000 →
      char.toNat = 0x10000 + (lead - 0xD800) * 0x400 + (trail - 0xDC00) → StandsFor body text →
      StandsFor ('\\' :: 'u' :: a :: b :: c :: d :: '\\' :: 'u' :: e :: f :: g :: h :: body)
        (char :: text)

/-! ### Reading bodies -/

theorem hexValue?_eq_some_iff {c : Char} {n : Nat} : hexValue? c = some n ↔ DigitIs c n := by
  constructor
  · intro h
    have hdigits : ∀ k < 0x80, ∀ n ∈ hexValue? (Char.ofNat k), DigitIs (Char.ofNat k) n := by
      unfold DigitIs
      decide
    have hc : c.toNat < 0x80 := by
      have hle : c ≤ 'f' := by
        rcases hexValue?_isSome_iff.mp (by rw [h]; rfl) with hdigit | hlower | hupper
        · exact Char.le_trans hdigit.2 (by decide)
        · exact hlower.2
        · exact Char.le_trans hupper.2 (by decide)
      exact Nat.lt_of_le_of_lt hle (by decide)
    have := hdigits c.toNat hc n (by rw [Char.ofNat_toNat]; exact h)
    rwa [Char.ofNat_toNat] at this
  · rintro ⟨hn, h⟩
    have hvalues : ∀ n < 16, hexValue? (Nat.digitChar n) = some n ∧
        hexValue? (Nat.digitChar n).toUpper = some n := by decide
    rcases h with rfl | rfl
    · exact (hvalues n hn).1
    · exact (hvalues n hn).2

theorem hexFour?_eq_some_iff {a b c d : Char} {code : Nat} :
    hexFour? a b c d = some code ↔ CodeIs a b c d code := by
  constructor
  · intro h
    simp only [hexFour?, Option.bind_eq_bind, Option.bind_eq_some_iff] at h
    obtain ⟨w, hw, x, hx, y, hy, z, hz, hcode⟩ := h
    exact ⟨w, x, y, z, hexValue?_eq_some_iff.mp hw, hexValue?_eq_some_iff.mp hx,
      hexValue?_eq_some_iff.mp hy, hexValue?_eq_some_iff.mp hz, (Option.some.inj hcode).symm⟩
  · rintro ⟨w, x, y, z, hw, hx, hy, hz, rfl⟩
    rw [hexFour?, hexValue?_eq_some_iff.mpr hw, hexValue?_eq_some_iff.mpr hx,
      hexValue?_eq_some_iff.mpr hy, hexValue?_eq_some_iff.mpr hz]
    rfl

theorem CodeIs.lt {a b c d : Char} {code : Nat} (h : CodeIs a b c d code) : code < 0x10000 := by
  obtain ⟨w, x, y, z, hw, hx, hy, hz, rfl⟩ := h
  have := hw.1
  have := hx.1
  have := hy.1
  have := hz.1
  omega

theorem shortEscape?_eq_some_iff {e c : Char} : shortEscape? e = some c ↔ (e, c) ∈ escapes := by
  constructor
  · intro h
    have he := shortEscape?_isSome_iff.mp (by rw [h]; rfl)
    simp only [List.mem_cons, List.not_mem_nil, or_false] at he
    rcases he with rfl | rfl | rfl | rfl | rfl | rfl | rfl | rfl <;> cases h <;> decide
  · intro h
    have hall : ∀ p ∈ escapes, shortEscape? p.1 = some p.2 := by decide
    exact hall (e, c) h

theorem unquote?_plain {c : Char} (hcontrol : 0x20 ≤ c.toNat) (hquote : c ≠ '"')
    (hbackslash : c ≠ '\\') (rest : List Char) :
    unquote? (c :: rest) = (unquote? rest).map (c :: ·) := by
  have hcontrol : isControl c = false := by simpa [isControl] using hcontrol
  rw [unquote?]
  · simp [hquote, hbackslash, hcontrol]
  all_goals
    intros
    exact hbackslash ‹_›

theorem unquote?_short {c d : Char} (h : shortEscape? c = some d) (rest : List Char) :
    unquote? ('\\' :: c :: rest) = (unquote? rest).map (d :: ·) := by
  have hc : c ≠ 'u' := by
    rintro rfl
    cases h
  rw [unquote?, h]
  all_goals
    intros
    exact hc ‹_›

/-- A code that is no half of a pair stands for its character, whatever follows. -/
theorem unquote?_code {a b c d : Char} {code : Nat} (h : hexFour? a b c d = some code)
    (hlead : ¬ isLeadSurrogate code = true) (htrail : ¬ isTrailSurrogate code = true)
    (rest : List Char) : unquote? ('\\' :: 'u' :: a :: b :: c :: d :: rest) =
      (unquote? rest).map (Char.ofNat code :: ·) := by
  by_cases hpair : ∃ e f g i more, rest = '\\' :: 'u' :: e :: f :: g :: i :: more
  · obtain ⟨e, f, g, i, more, rfl⟩ := hpair
    rw [unquote?]
    simp only [h, hlead, htrail, Bool.false_eq_true, if_false]
  · rw [unquote?]
    · simp [h, hlead, htrail]
    · intro e f g i more hrest
      exact hpair ⟨e, f, g, i, more, hrest⟩

theorem unquote?_pair {a b c d e f g h : Char} {lead trail : Nat}
    (hlead : hexFour? a b c d = some lead) (hl : isLeadSurrogate lead = true)
    (htrail : hexFour? e f g h = some trail) (ht : isTrailSurrogate trail = true)
    (rest : List Char) :
    unquote? ('\\' :: 'u' :: a :: b :: c :: d :: '\\' :: 'u' :: e :: f :: g :: h :: rest) =
      (unquote? rest).map (Char.ofNat (pairCode lead trail) :: ·) := by
  rw [unquote?]
  simp only [hlead, hl, htrail, ht, if_true]

theorem isLeadSurrogate_iff {code : Nat} :
    isLeadSurrogate code = true ↔ 0xD800 ≤ code ∧ code < 0xDC00 := by
  simp [isLeadSurrogate]

theorem isTrailSurrogate_iff {code : Nat} :
    isTrailSurrogate code = true ↔ 0xDC00 ≤ code ∧ code < 0xE000 := by
  simp [isTrailSurrogate]

/-- No character has a half of a pair for its code. -/
theorem not_surrogate (c : Char) :
    ¬ isLeadSurrogate c.toNat = true ∧ ¬ isTrailSurrogate c.toNat = true := by
  have hvalid : c.toNat < 0xD800 ∨ 0xDFFF < c.toNat ∧ c.toNat < 0x110000 := c.valid
  rw [isLeadSurrogate_iff, isTrailSurrogate_iff]
  omega

/-- Every other code below the end of the code space is that of a character. -/
theorem toNat_ofNat_of_not_surrogate {code : Nat} (hlt : code < 0x110000)
    (hlead : ¬ isLeadSurrogate code = true) (htrail : ¬ isTrailSurrogate code = true) :
    (Char.ofNat code).toNat = code := by
  rw [isLeadSurrogate_iff] at hlead
  rw [isTrailSurrogate_iff] at htrail
  have hvalid : code.isValidChar := by
    unfold Nat.isValidChar
    omega
  rw [Char.ofNat, dif_pos hvalid]
  rfl

theorem standsFor_code {a b c d : Char} {code : Nat} (h : hexFour? a b c d = some code)
    (hlead : ¬ isLeadSurrogate code = true) (htrail : ¬ isTrailSurrogate code = true)
    {body text : List Char} (hbody : StandsFor body text) :
    StandsFor ('\\' :: 'u' :: a :: b :: c :: d :: body) (Char.ofNat code :: text) := by
  have hcode := hexFour?_eq_some_iff.mp h
  have hlt := hcode.lt
  refine .code ?_ hbody
  rwa [toNat_ofNat_of_not_surrogate (by omega) hlead htrail]

theorem standsFor_pair {a b c d e f g h : Char} {lead trail : Nat}
    (hlead : hexFour? a b c d = some lead) (hl : isLeadSurrogate lead = true)
    (htrail : hexFour? e f g h = some trail) (ht : isTrailSurrogate trail = true)
    {body text : List Char} (hbody : StandsFor body text) :
    StandsFor ('\\' :: 'u' :: a :: b :: c :: d :: '\\' :: 'u' :: e :: f :: g :: h :: body)
      (Char.ofNat (pairCode lead trail) :: text) := by
  rw [isLeadSurrogate_iff] at hl
  rw [isTrailSurrogate_iff] at ht
  have hcode : 0x10000 ≤ pairCode lead trail ∧ pairCode lead trail < 0x110000 := by
    unfold pairCode
    omega
  have hchar : (Char.ofNat (pairCode lead trail)).toNat = pairCode lead trail := by
    refine toNat_ofNat_of_not_surrogate hcode.2 ?_ ?_
    · rw [isLeadSurrogate_iff]
      omega
    · rw [isTrailSurrogate_iff]
      omega
  exact .pair (hexFour?_eq_some_iff.mp hlead) hl.1 hl.2 (hexFour?_eq_some_iff.mp htrail) ht.1
    ht.2 hchar hbody

/-- The reader finds the text that a body stands for, if there is one. -/
theorem unquote?_eq_some_iff {body text : List Char} :
    unquote? body = some text ↔ StandsFor body text := by
  constructor
  · intro h
    induction body using unquote?.induct generalizing text with
    | case1 =>
      cases h
      exact .nil
    | case4 a b c d e f g i rest lead hlead hl trail htrail ht ih =>
      rw [unquote?_pair hlead hl htrail ht] at h
      obtain ⟨text, htext, rfl⟩ := Option.map_eq_some_iff.mp h
      exact standsFor_pair hlead hl htrail ht (ih htext)
    | case7 a b c d e f g i rest code hcode hlead htrail ih =>
      rw [unquote?_code hcode hlead htrail] at h
      obtain ⟨text, htext, rfl⟩ := Option.map_eq_some_iff.mp h
      exact standsFor_code hcode hlead htrail (ih htext)
    | case10 a b c d rest hne code hcode hsurrogate ih =>
      rw [Bool.or_eq_true, not_or] at hsurrogate
      rw [unquote?_code hcode hsurrogate.1 hsurrogate.2] at h
      obtain ⟨text, htext, rfl⟩ := Option.map_eq_some_iff.mp h
      exact standsFor_code hcode hsurrogate.1 hsurrogate.2 (ih htext)
    | case12 e rest hpair hcode c hc ih =>
      rw [unquote?_short hc] at h
      obtain ⟨text, htext, rfl⟩ := Option.map_eq_some_iff.mp h
      exact .escape (shortEscape?_eq_some_iff.mp hc) (ih htext)
    | case14 c rest hpair hcode hshort hplain ih =>
      simp only [Bool.or_eq_true, decide_eq_true_eq, isControl, not_or, Nat.not_lt] at hplain
      obtain ⟨⟨hbackslash, hquote⟩, hcontrol⟩ := hplain
      rw [unquote?_plain hcontrol hquote hbackslash] at h
      obtain ⟨text, htext, rfl⟩ := Option.map_eq_some_iff.mp h
      exact .plain hcontrol hquote hbackslash (ih htext)
    -- In all other cases the reader finds nothing.
    | _ => simp_all [unquote?]
  · intro h
    induction h with
    | nil => rfl
    | plain hcontrol hquote hbackslash _ ih =>
      rw [unquote?_plain hcontrol hquote hbackslash, ih]
      rfl
    | escape hc _ ih =>
      rw [unquote?_short (shortEscape?_eq_some_iff.mpr hc), ih]
      rfl
    | @code a b c d char body text hcode _ ih =>
      obtain ⟨hlead, htrail⟩ := not_surrogate char
      rw [unquote?_code (hexFour?_eq_some_iff.mpr hcode) hlead htrail, ih, Char.ofNat_toNat]
      rfl
    | @pair a b c d e f g i lead trail char body text hlead hl hl' htrail ht ht' hchar _ ih =>
      have hcode : pairCode lead trail = char.toNat := hchar.symm
      rw [unquote?_pair (hexFour?_eq_some_iff.mpr hlead) (isLeadSurrogate_iff.mpr ⟨hl, hl'⟩)
        (hexFour?_eq_some_iff.mpr htrail) (isTrailSurrogate_iff.mpr ⟨ht, ht'⟩), ih, hcode,
        Char.ofNat_toNat]
      rfl

theorem StandsFor.unique {body text text' : List Char} (h : StandsFor body text)
    (h' : StandsFor body text') : text = text' :=
  Option.some.inj ((unquote?_eq_some_iff.mpr h).symm.trans (unquote?_eq_some_iff.mpr h'))

/-- Escapes are longer than what they stand for. -/
theorem StandsFor.length_le {body text : List Char} (h : StandsFor body text) :
    text.length ≤ body.length ∧ ('\\' ∈ body → text.length < body.length) := by
  induction h with
  | nil => simp
  | plain _ _ hbackslash _ ih =>
    refine ⟨Nat.succ_le_succ ih.1, fun hmem => Nat.succ_lt_succ (ih.2 ?_)⟩
    exact (List.mem_cons.mp hmem).resolve_left hbackslash.symm
  | escape _ _ ih => simp only [List.length_cons]; omega
  | code _ _ ih => simp only [List.length_cons]; omega
  | pair _ _ _ _ _ _ _ _ ih => simp only [List.length_cons]; omega

/-- A legal body stands for itself just when nothing in it is escaped. -/
theorem standsFor_self_iff {body : List Char} (h : IsBody body) :
    StandsFor body body ↔ '\\' ∉ body := by
  constructor
  · intro hself hmem
    exact absurd (hself.length_le.2 hmem) (Nat.lt_irrefl _)
  · intro hplain
    induction h with
    | nil => exact .nil
    | plain hcontrol hquote hbackslash _ ih =>
      rw [List.mem_cons, not_or] at hplain
      exact .plain hcontrol hquote hbackslash (ih hplain.2)
    | escape => exact absurd List.mem_cons_self hplain
    | unicode => exact absurd List.mem_cons_self hplain

/-- A body in which nothing is escaped stands for itself only. -/
theorem standsFor_iff_of_plain {body text : List Char} (h : IsBody body) (hplain : '\\' ∉ body) :
    StandsFor body text ↔ text = body := by
  have hself := (standsFor_self_iff h).mpr hplain
  constructor
  · intro htext
    exact htext.unique hself
  · rintro rfl
    exact hself

/-! ### What documents mean -/

/-- Documents with texts for their strings and keys. -/
inductive Value
  | null
  | bool (value : Bool)
  | number (lexeme : List Char)
  | string (text : List Char)
  | array (items : List Value)
  | object (members : List (List Char × Value))

/-- A document means a value: the same document with every body read. The items and the
members keep their order. -/
inductive Means : Json → Value → Prop
  | null : Means .null .null
  | bool {value} : Means (.bool value) (.bool value)
  | number {lexeme} : Means (.number lexeme) (.number lexeme)
  | string {body text} : StandsFor body text → Means (.string body) (.string text)
  | array {items values} : List.Forall₂ Means items values → Means (.array items) (.array values)
  | object {members values} :
      List.Forall₂ StandsFor (members.map Prod.fst) (values.map Prod.fst) →
      List.Forall₂ Means (members.map Prod.snd) (values.map Prod.snd) →
      Means (.object members) (.object values)

/-- An object means its members, each with the text of its key and the value it means. -/
theorem means_object_iff {members : List (List Char × Json)} {value : Value} :
    (Json.object members).Means value ↔ ∃ values, value = .object values ∧
      List.Forall₂ (fun m v => StandsFor m.1 v.1 ∧ m.2.Means v.2) members values := by
  constructor
  · intro h
    cases h with
    | @object _ values hkeys hvalues =>
      rw [List.forall₂_map_left_iff, List.forall₂_map_right_iff] at hkeys hvalues
      refine ⟨values, rfl, ?_⟩
      induction hkeys with
      | nil => exact .nil
      | cons hkey _ ih =>
        obtain ⟨hvalue, hvalues⟩ := List.forall₂_cons.mp hvalues
        exact .cons ⟨hkey, hvalue⟩ (ih hvalues)
  · rintro ⟨values, rfl, h⟩
    refine .object ?_ ?_
    · rw [List.forall₂_map_left_iff, List.forall₂_map_right_iff]
      exact h.imp fun _ _ hm => hm.1
    · rw [List.forall₂_map_left_iff, List.forall₂_map_right_iff]
      exact h.imp fun _ _ hm => hm.2

theorem means_string_iff {body : List Char} {value : Value} :
    (Json.string body).Means value ↔ ∃ text, value = .string text ∧ StandsFor body text := by
  constructor
  · intro h
    cases h with
    | string htext => exact ⟨_, rfl, htext⟩
  · rintro ⟨text, rfl, htext⟩
    exact .string htext

theorem means_number_iff {lexeme : List Char} {value : Value} :
    (Json.number lexeme).Means value ↔ value = .number lexeme := by
  constructor
  · intro h
    cases h
    rfl
  · rintro rfl
    exact .number

end SchemaReport.Json
