import SchemaReport.Conversion.Target
import SchemaReport.Proofs.Files.Pieces

/-! The names of reports.

The report on a schema lies in the directory for reports under the name of the schema, with
another extension (`reportPath_eq_ok`). As long as the extension of reports holds no slash it is
a single piece of a path (`slash_not_mem_reportName`), and as long as it is not empty either, a
name (`isName_reportName`). -/
namespace SchemaReport
open Text

/-! ### Bytes of texts -/

theorem bytesOf_eq_flatMap (text : String) :
    bytesOf text = text.toList.flatMap String.utf8EncodeChar := by
  have h : text.toUTF8 = (text.toList.flatMap String.utf8EncodeChar).toByteArray :=
    String.utf8Encode_toList.symm
  rw [bytesOf, h, List.data_toByteArray, List.toList_toArray]

theorem bytesOf_append (a b : String) : bytesOf (a ++ b) = bytesOf a ++ bytesOf b := by
  simp [bytesOf_eq_flatMap]

theorem bytesOf_injective : Function.Injective bytesOf := fun a b h => by
  have hb := text?_bytesOf b
  rw [← h, text?_bytesOf] at hb
  exact Option.some.inj hb

theorem eq_nil_of_bytesOf {text : String} (h : bytesOf text = []) : text = "" :=
  bytesOf_injective (h.trans rfl)

/-- Only the slash has the byte of the slash in it. -/
theorem eq_slash_of_mem_utf8EncodeChar {c : Char} (h : Path.slash ∈ String.utf8EncodeChar c) :
    c = '/' := by
  have hbyte : ∀ n : Nat, Path.slash = UInt8.ofNat n → n % 256 = 47 := fun n hn => by
    simpa [Path.slash] using (congrArg UInt8.toNat hn).symm
  unfold String.utf8EncodeChar at h
  dsimp only at h
  split at h
  · next hascii =>
    have := hbyte _ (List.mem_singleton.mp h)
    apply Char.ext
    apply UInt32.toNat_inj.mp
    show c.val.toNat = 47
    omega
  all_goals
    exfalso
    split at h
    · simp only [List.mem_cons, List.not_mem_nil, or_false] at h
      rcases h with h | h <;> have := hbyte _ h <;> omega
    · split at h
      · simp only [List.mem_cons, List.not_mem_nil, or_false] at h
        rcases h with h | h | h <;> have := hbyte _ h <;> omega
      · simp only [List.mem_cons, List.not_mem_nil, or_false] at h
        rcases h with h | h | h | h <;> have := hbyte _ h <;> omega

theorem slash_not_mem_bytesOf {text : String} (h : '/' ∉ text.toList) :
    Path.slash ∉ bytesOf text := by
  rw [bytesOf_eq_flatMap, List.mem_flatMap]
  rintro ⟨c, hc, hslash⟩
  exact h (eq_slash_of_mem_utf8EncodeChar hslash ▸ hc)

/-! ### Names with an extension -/

/-- A file name put together from what stands before its extension, and the extension. -/
def nameWith (stem extension : String) : Name := bytesOf (stem ++ "." ++ extension)

theorem nameWith_eq (stem extension : String) :
    nameWith stem extension = bytesOf stem ++ Path.dot :: bytesOf extension := by
  rw [nameWith, bytesOf_append, bytesOf_append, List.append_assoc]
  rfl

theorem nameWith_injective {stem stem' extension : String}
    (h : nameWith stem extension = nameWith stem' extension) : stem = stem' := by
  rw [nameWith_eq, nameWith_eq] at h
  exact bytesOf_injective (List.append_cancel_right h)

/-- One stem tells extensions apart. -/
theorem nameWith_injective_right {stem extension extension' : String}
    (h : nameWith stem extension = nameWith stem extension') : extension = extension' := by
  rw [nameWith_eq, nameWith_eq] at h
  exact bytesOf_injective (List.cons_injective (List.append_cancel_left h))

theorem two_le_length_nameWith {stem : String} (extension : String) (h : stem ≠ "") :
    2 ≤ (nameWith stem extension).length := by
  have := List.length_pos_of_ne_nil fun e => h (eq_nil_of_bytesOf e)
  rw [nameWith_eq, List.length_append, List.length_cons]
  omega

theorem isIdle_nameWith {stem : String} (extension : String) (h : stem ≠ "") :
    Path.isIdle (nameWith stem extension) = false := by
  have hlength := two_le_length_nameWith extension h
  rw [Path.isIdle, Bool.or_eq_false_iff, beq_eq_false_iff_ne, beq_eq_false_iff_ne]
  constructor <;> intro e <;> simp [e] at hlength

theorem nameWith_ne_above {stem extension : String} (hstem : stem ≠ "")
    (hextension : extension ≠ "") : nameWith stem extension ≠ Path.above := by
  intro e
  have hstem := List.length_pos_of_ne_nil fun e => hstem (eq_nil_of_bytesOf e)
  have hextension := List.length_pos_of_ne_nil fun e => hextension (eq_nil_of_bytesOf e)
  have hlength := congrArg List.length e
  rw [nameWith_eq, List.length_append, List.length_cons] at hlength
  simp only [Path.above, List.length_cons, List.length_nil] at hlength
  omega

/-- Texts without slashes make up a name that leads down. -/
theorem isName_nameWith {stem extension : String} (hextension : extension ≠ "")
    (hmark : '/' ∉ extension.toList) (hstem : stem ≠ "") (hwhole : '/' ∉ stem.toList) :
    Path.IsName (nameWith stem extension) := by
  refine ⟨isIdle_nameWith _ hstem, nameWith_ne_above hstem hextension, ?_⟩
  rw [nameWith_eq, List.mem_append, List.mem_cons, not_or, not_or]
  exact ⟨slash_not_mem_bytesOf hwhole, by decide, slash_not_mem_bytesOf hmark⟩

/-! ### Names of reports -/

section
variable {settings : Settings} {path output : Path} {stem extension : String}

theorem schemaStem_eq_ok (h : schemaStem path extension = .ok stem) :
    stem ≠ "" ∧ path.fileName? = some (nameWith stem extension) := by
  unfold schemaStem at h
  split at h
  · cases h
  · split at h
    · cases h
    · next name hname =>
      split at h
      · cases h
      · next text htext =>
        split at h
        · cases h
        · next found hstem =>
          split at h
          · cases h
          · next hne =>
            cases h
            rw [stemOf?_eq_some_iff] at hstem
            rw [text?_eq_some_iff] at htext
            exact ⟨hne, by rw [hname, htext, hstem, nameWith]⟩

/-- A report has the name of its schema, but for the extension. -/
theorem reportPath_eq_ok (h : reportPath settings path = .ok output) : ∃ stem, stem ≠ "" ∧
    path.fileName? = some (nameWith stem settings.input.extension) ∧
    output = (reportDirectory settings.output path).join
      ⟨nameWith stem settings.output.extension⟩ := by
  unfold reportPath at h
  cases hstem : schemaStem path settings.input.extension with
  | error e =>
    rw [hstem] at h
    cases h
  | ok stem =>
    rw [hstem] at h
    obtain ⟨hne, hname⟩ := schemaStem_eq_ok hstem
    exact ⟨stem, hne, hname, (Except.ok.inj h).symm⟩

theorem slash_not_mem_reportName (hslash : '/' ∉ settings.output.extension.toList)
    (h : path.fileName? = some (nameWith stem extension)) :
    Path.slash ∉ nameWith stem settings.output.extension := by
  have hname := (Path.fileName?_eq_some h).1.whole
  rw [nameWith_eq, List.mem_append, not_or] at hname
  rw [nameWith_eq, List.mem_append, List.mem_cons, not_or, not_or]
  exact ⟨hname.1, by decide, slash_not_mem_bytesOf hslash⟩

/-- The name of a report leads down, if the extension of reports is that of any file. -/
theorem isName_reportName (hslash : '/' ∉ settings.output.extension.toList)
    (hempty : settings.output.extension ≠ "") (hne : stem ≠ "")
    (h : path.fileName? = some (nameWith stem extension)) :
    Path.IsName (nameWith stem settings.output.extension) :=
  ⟨isIdle_nameWith _ hne, nameWith_ne_above hne hempty, slash_not_mem_reportName hslash h⟩

end
end SchemaReport
