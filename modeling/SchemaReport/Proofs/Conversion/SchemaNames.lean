import SchemaReport.Proofs.Conversion.Sources

/-! The names of schemas.

What a schema is called is settled in three places: its stem is taken from its file name
(`schemaStem_eq_ok_iff`), its report lies in a directory under the name of the stem
(`reportPath_of_stem`), and the schemas of a directory are picked by the endings of their names
(`exists_schemaNames`). The three agree (`schemas_agree`): the files picked are those whose
extension is supported, and of these only the one called like the extension alone has no stem. A
name that is not text is picked by the text it is shown as, and refused when its stem is taken. -/
namespace SchemaReport
open Text

/-! ### Stems -/

/-- A path is refused for its extension. -/
def Path.Unsupported (path : Path) (extension : String) : Prop :=
  ∃ p found expected, schemaStem path extension = .error (.unsupportedExtension p found expected)

section
variable {settings : Settings} {path directory : Path} {name : Name} {extension stem text : String}

/-- The stem of a path is that of its file name. -/
theorem schemaStem_of_fileName (h : path.fileName? = some name) : schemaStem path extension =
    match text? name with
    | none => .error (.invalidPath path "file name is not valid UTF-8")
    | some text => match stemOf? text extension with
      | none =>
        .error (.unsupportedExtension path ((path.extension?.map lossyText).getD "") extension)
      | some stem =>
        if stem = "" then .error (.invalidPath path "file name has no stem") else .ok stem := by
  have hne : path.bytes ≠ [] := by
    obtain ⟨bytes⟩ := path
    rintro rfl
    cases h
  rw [schemaStem, if_neg hne]
  generalize path.fileName? = found at h
  cases h
  rfl

/-- A stem with the extension after it is the file name. -/
theorem schemaStem_eq_ok_iff : schemaStem path extension = .ok stem ↔
    stem ≠ "" ∧ ∃ name, path.fileName? = some name ∧
      text? name = some (stem ++ "." ++ extension) := by
  constructor
  · intro h
    obtain ⟨hne, hname⟩ := schemaStem_eq_ok h
    exact ⟨hne, _, hname, text?_bytesOf _⟩
  · rintro ⟨hne, name, hname, htext⟩
    have hstem := stemOf?_eq_some_iff.mpr (rfl : stem ++ "." ++ extension = _)
    rw [schemaStem_of_fileName hname, htext]
    dsimp only
    rw [hstem]
    exact if_neg hne

theorem isSchemaName_iff : isSchemaName extension name = true ↔
    ∃ front, lossyText name = front ++ "." ++ extension := by
  simp only [isSchemaName, Option.isSome_iff_exists, stemOf?_eq_some_iff]

/-- Among names that are text, those of schemas are the ones with a supported extension. -/
theorem isSchemaName_iff_supported (h : path.fileName? = some name)
    (htext : text? name = some text) :
    isSchemaName extension name = true ↔ ¬ path.Unsupported extension := by
  rw [Path.Unsupported, schemaStem_of_fileName h, htext, isSchemaName, lossyText_of_text? htext]
  dsimp only
  cases stemOf? text extension with
  | none => simp
  | some stem => by_cases hstem : stem = "" <;> simp [hstem]

/-- Of the names of schemas that are text, only the extension alone has no stem. -/
theorem refused_iff_bare (h : path.fileName? = some name) (htext : text? name = some text)
    (hschema : isSchemaName extension name = true) :
    (∃ e, schemaStem path extension = .error e) ↔ text = "." ++ extension := by
  rw [isSchemaName, lossyText_of_text? htext, Option.isSome_iff_exists] at hschema
  obtain ⟨stem, hstem⟩ := hschema
  have hbare : text = "." ++ extension ↔ stem = "" := by
    rw [stemOf?_eq_some_iff.mp hstem]
    constructor
    · intro heq
      have hchars := congrArg String.toList heq
      simpa using hchars
    · rintro rfl
      rfl
  rw [schemaStem_of_fileName h, htext, hbare]
  dsimp only
  rw [hstem]
  by_cases hempty : stem = "" <;> simp [hempty]

/-! ### Where reports lie -/

/-- A path leads to a name in a directory. -/
structure Path.Enters (p directory : Path) (n : Name) : Prop where
  fileName : p.fileName? = some n
  turns : p.turns = directory.turns ++ [.name n]
  start : p.isAbsolute = directory.isAbsolute

theorem Path.enters_join (directory : Path) {n : Name} (h : IsName n) :
    (directory.join ⟨n⟩).Enters directory n where
  fileName := fileName?_join directory h
  turns := by rw [turns_join directory h.whole, h.turnsOf]
  start := isAbsolute_join directory h.whole

/-- Without a directory for reports, the directory of a report is that of its schema. -/
theorem enters_reportDirectory {output : OutputSettings} (hown : output.directory = none)
    (h : path.fileName? = some name) : path.Enters (reportDirectory output path) name := by
  obtain ⟨hname, front, hpieces⟩ := Path.fileName?_eq_some h
  have hparent := Path.parent?_concat hpieces
  have hturns := Path.turns_parent? hpieces hparent
  rw [hname.turnsOf] at hturns
  unfold reportDirectory
  rw [hown]
  dsimp only
  generalize (⟨_⟩ : Path) = parent at hparent hturns
  rw [hparent]
  dsimp only
  split
  · -- Nothing is left of the path, and it goes on from where paths start.
    next hempty =>
    obtain rfl : parent = ⟨[]⟩ := congrArg Path.mk hempty
    exact ⟨h, hturns, Path.isAbsolute_of_parent?_nil hparent⟩
  · next hne => exact ⟨h, hturns, (Path.isAbsolute_parent? hparent hne).symm⟩

/-- The report on a schema lies in the directory for reports, or else in that of the schema. -/
theorem reportPath_of_stem (hempty : settings.output.extension ≠ "")
    (hslash : '/' ∉ settings.output.extension.toList)
    (h : schemaStem path settings.input.extension = .ok stem) : ∃ output directory,
      reportPath settings path = .ok output ∧
      output.Enters directory (nameWith stem settings.output.extension) ∧
      match settings.output.directory with
      | some configured => directory = .ofText configured
      | none => path.Enters directory (nameWith stem settings.input.extension) := by
  obtain ⟨hne, hname⟩ := schemaStem_eq_ok h
  refine ⟨_, reportDirectory settings.output path, ?_,
    Path.enters_join _ (isName_reportName hslash hempty hne hname), ?_⟩
  · rw [reportPath, h]
    rfl
  · cases hdirectory : settings.output.directory with
    | some configured =>
      unfold reportDirectory
      rw [hdirectory]
    | none => exact enters_reportDirectory hdirectory hname

end

/-! ### The schemas of a directory -/

section
variable {files : FileTree} {start : Location} {directory : Path} {extension : String}
  {listing : List Name}

/-- Names that differ ascend once they are sorted. -/
theorem pairwise_mergeSort_nameLe (h : listing.Nodup) :
    (listing.mergeSort nameLe).Pairwise (· < ·) := by
  have hnodup : (listing.mergeSort nameLe).Nodup :=
    (List.mergeSort_perm listing nameLe).nodup_iff.mpr h
  exact (pairwise_mergeSort listing).imp₂ (fun a b hab hne =>
    (List.le_iff_lt_or_eq.mp hab).resolve_right hne) hnodup

theorem isFile_iff {p : Path} : files.isFile start p = true ↔ files.kind start p = .ok .file := by
  unfold FileTree.isFile
  split <;> simp_all

/-- The schemas of a directory, by their names. -/
theorem exists_schemaNames (hlisted : files.Listed)
    (hlist : files.list start directory = .ok listing) : ∃ names : List Name,
      schemasIn files start directory extension = names.map (fun n => directory.join ⟨n⟩) ∧
      names.Pairwise (· < ·) ∧
      ∀ n, n ∈ names ↔ n ∈ listing ∧ files.kind start (directory.join ⟨n⟩) = .ok .file ∧
        isSchemaName extension n = true := by
  refine ⟨_, by rw [schemasIn, hlist], ?_, fun n => ?_⟩
  · obtain ⟨location, -, -, rfl⟩ := list_eq_ok_iff.mp hlist
    exact (pairwise_mergeSort_nameLe (hlisted.nodup_namesAt location)).filter _
  · rw [List.mem_filter, List.mem_mergeSort, Bool.and_eq_true, isFile_iff]

/-- **Stems, reports and directories agree on schemas.** For every path and extension, a stem is
what the file name is with a dot and the extension after it; taking it undoes putting a name
together; and the report lies under the stem in the directory for reports, or in that of the
schema. For every directory that is listed, the schemas collected are the files in it, links
followed, whose names as they are shown end in a dot and the extension, ascending by name; so a
file whose name is text is collected unless its extension is not supported, and of these only the
one called like the extension alone has no stem. -/
theorem schemas_agree (settings : Settings) (hempty : settings.output.extension ≠ "")
    (hslash : '/' ∉ settings.output.extension.toList) :
    (∀ path extension stem, schemaStem path extension = .ok stem ↔
      stem ≠ "" ∧ ∃ name, path.fileName? = some name ∧
        text? name = some (stem ++ "." ++ extension)) ∧
    (∀ (directory : Path) extension stem, extension ≠ "" → '/' ∉ extension.toList →
      stem ≠ "" → '/' ∉ stem.toList →
      schemaStem (directory.join (.ofText (stem ++ "." ++ extension))) extension = .ok stem) ∧
    (∀ path stem, schemaStem path settings.input.extension = .ok stem → ∃ output directory,
      reportPath settings path = .ok output ∧
      output.Enters directory (bytesOf (stem ++ "." ++ settings.output.extension)) ∧
      match settings.output.directory with
      | some configured => directory = .ofText configured
      | none => path.Enters directory (bytesOf (stem ++ "." ++ settings.input.extension))) ∧
    ∀ (w : World) (directory : Path) (extension : String) (listing : List Name),
      w.files.Listed → w.files.list w.directory directory = .ok listing →
      ∃ (names : List Name) (events : List Event),
        (collectSchemas directory extension).run w =
          ({ w with events := events }, .ok (names.map fun n => directory.join ⟨n⟩)) ∧
        names.Pairwise (· < ·) ∧
        (∀ n, n ∈ names ↔ n ∈ listing ∧
          w.files.kind w.directory (directory.join ⟨n⟩) = .ok .file ∧
          ∃ front, lossyText n = front ++ "." ++ extension) ∧
        ∀ n ∈ listing, (directory.join ⟨n⟩).Enters directory n ∧
          (w.files.kind w.directory (directory.join ⟨n⟩) = .ok .file →
            ∀ text, text? n = some text →
            (n ∈ names ↔ ¬ (directory.join ⟨n⟩).Unsupported extension) ∧
            (n ∈ names → ((∃ e, schemaStem (directory.join ⟨n⟩) extension = .error e) ↔
              text = "." ++ extension))) := by
  refine ⟨fun path extension stem => schemaStem_eq_ok_iff,
    fun directory extension stem hextension hmark hstem hwhole => ?_,
    fun path stem h => reportPath_of_stem hempty hslash h,
    fun w directory extension listing hlisted hlist => ?_⟩
  · have hname := isName_nameWith hextension hmark hstem hwhole
    exact schemaStem_eq_ok_iff.mpr
      ⟨hstem, _, Path.fileName?_join directory hname, text?_bytesOf _⟩
  · obtain ⟨location, hl, hdirectory, rfl⟩ := list_eq_ok_iff.mp hlist
    obtain ⟨events, hrun⟩ := run_collectSchemas { input := { extension := extension } }
      (FileTree.isDirectory_iff.mpr ⟨location, hl, hdirectory⟩)
    obtain ⟨names, hnames, hascending, hmem⟩ := exists_schemaNames hlisted hlist
    have henters : ∀ n ∈ w.files.namesAt location, (directory.join ⟨n⟩).Enters directory n :=
      fun n hn => Path.enters_join directory (hlisted.isName_of_mem_namesAt hn)
    refine ⟨names, events, by rw [hrun, ← hnames], hascending, fun n => ?_, fun n hn =>
      ⟨henters n hn, fun hkind text htext => ?_⟩⟩
    · rw [hmem, isSchemaName_iff]
    · have hcollected : n ∈ names ↔ isSchemaName extension n = true := by simp [hmem, hn, hkind]
      have hfile := (henters n hn).fileName
      exact ⟨hcollected.trans (isSchemaName_iff_supported hfile htext),
        fun h => refused_iff_bare hfile htext (hcollected.mp h)⟩

end

/-! ### A directory with all kinds of names -/

/-- A name that is not text, but is shown with the extension of schemas. -/
def unreadableName : Name := 0xFF :: bytesOf ".yaml"

/-- Files, a directory and links, most of them called like schemas. -/
def World.assorted : World := .ofNodes
  [([bytesOf "notes.txt"], .file []), ([bytesOf "lost.yaml"], .link (.ofText "nowhere")),
    ([bytesOf "linked.yaml"], .link (.ofText "notes.txt")), ([unreadableName], .file []),
    ([bytesOf "nested.yaml"], .directory), ([bytesOf "a.b.yaml"], .file []),
    ([bytesOf ".yaml"], .file [])]

/-- Files and links to files are collected here if they are called like schemas, also by a name
that is not text. The one called like the extension alone has no stem. -/
theorem schemas_agree_assorted :
    (∃ output directory, reportPath {} (.ofText "s//a.b.yaml/") = .ok output ∧
      output.Enters directory (bytesOf "a.b.txt") ∧
      (Path.ofText "s//a.b.yaml/").Enters directory (bytesOf "a.b.yaml")) ∧
    schemaStem (.ofText "./a.b.yaml") "yaml" = .ok "a.b" ∧
    schemaStem (.ofText "./a.b.tar.gz") "tar.gz" = .ok "a.b" ∧
    ∃ (names : List Name) (events : List Event),
      (collectSchemas (.ofText ".") "yaml").run World.assorted =
        ({ World.assorted with events := events },
          .ok (names.map fun n => (Path.ofText ".").join ⟨n⟩)) ∧
      names.Pairwise (· < ·) ∧
      bytesOf "a.b.yaml" ∈ names ∧ bytesOf "linked.yaml" ∈ names ∧ unreadableName ∈ names ∧
      bytesOf "notes.txt" ∉ names ∧ bytesOf "lost.yaml" ∉ names ∧ bytesOf "nested.yaml" ∉ names ∧
      bytesOf ".yaml" ∈ names ∧ ∃ e, schemaStem (.ofText "./.yaml") "yaml" = .error e := by
  obtain ⟨hstem, hundo, hreport, hcollect⟩ := schemas_agree {} (by decide) (by decide)
  have hab : schemaStem (.ofText "s//a.b.yaml/") "yaml" = .ok "a.b" :=
    (hstem _ _ _).mpr ⟨by decide, bytesOf "a.b.yaml", by decide, by decide⟩
  have hlist : World.assorted.files.list [] (.ofText ".") =
      .ok (World.assorted.files.namesAt []) := by decide
  obtain ⟨names, events, hrun, hascending, hmem, htext⟩ :=
    hcollect World.assorted (.ofText ".") "yaml" _ ⟨by decide, by decide⟩ hlist
  have hbare : bytesOf ".yaml" ∈ World.assorted.files.namesAt [] ∧
      World.assorted.files.kind [] (.ofText "./.yaml") = .ok .file ∧
      ∃ front, lossyText (bytesOf ".yaml") = front ++ "." ++ "yaml" :=
    ⟨by decide, by decide, "", by decide⟩
  refine ⟨hreport _ _ hab, hundo (.ofText ".") "yaml" "a.b" (by decide) (by decide) (by decide)
    (by decide), hundo (.ofText ".") "tar.gz" "a.b" (by decide) (by decide) (by decide)
    (by decide), names, events, hrun, hascending,
    (hmem _).mpr ⟨by decide, by decide, "a.b", by decide⟩,
    (hmem _).mpr ⟨by decide, by decide, "linked", by decide⟩,
    (hmem _).mpr ⟨by decide, by decide, "\uFFFD", by decide +kernel⟩,
    fun h => ?_, fun h => ?_, fun h => ?_,
    (hmem _).mpr hbare, ?_⟩
  · exact absurd (isSchemaName_iff.mpr ((hmem _).mp h).2.2) (by decide)
  · have hlost : World.assorted.files.kind [] (.ofText "./lost.yaml") = .error (.os .notFound) := by
      decide
    exact absurd (hlost.symm.trans ((hmem _).mp h).2.1) (by decide)
  · have hnested : World.assorted.files.kind [] (.ofText "./nested.yaml") = .ok .directory := by
      decide
    exact absurd (hnested.symm.trans ((hmem _).mp h).2.1) (by decide)
  · exact (((htext _ hbare.1).2 hbare.2.1 ".yaml" (by decide)).2 ((hmem _).mpr hbare)).mpr rfl

end SchemaReport
