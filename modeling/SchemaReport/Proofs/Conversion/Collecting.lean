import Mathlib.Data.List.Nodup
import SchemaReport.Conversion.Batch
import SchemaReport.Proofs.Conversion.Running
import SchemaReport.Proofs.Files.Plain

/-! What a directory is converted to.

The schemas of a directory are found without changing a file (`run_collectSchemas`): they are a
function of the tree, `schemasIn`, and on a plain tree each of them goes on from the directory by a
name of its own (`exists_name_of_mem_schemasIn`, `nodup_schemasIn`). Converting them one after the
other never fails as a whole, and leaves what one conversion after the other leaves
(`run_convertDirectory`). -/
namespace SchemaReport
open Text

/-! ### Collecting -/

/-- Whether a path leads to a file. -/
def FileTree.isFile (t : FileTree) (start : Location) (p : Path) : Bool :=
  match t.kind start p with
  | .ok .file => true
  | _ => false

/-- The schemas of a directory, in the order of their names. -/
def schemasIn (files : FileTree) (start : Location) (directory : Path) (extension : String) :
    List Path :=
  match files.list start directory with
  | .error _ => []
  | .ok names => ((names.mergeSort nameLe).filter fun name =>
      files.isFile start (directory.join ⟨name⟩) && isSchemaName extension name).map fun name =>
        directory.join ⟨name⟩

/-- The schemas of a directory of a world. -/
abbrev World.schemas (w : World) (settings : Settings) (directory : Path) : List Path :=
  schemasIn w.files w.directory directory settings.input.extension

theorem pairwise_mergeSort (names : List Name) : (names.mergeSort nameLe).Pairwise (· ≤ ·) := by
  have htrans : ∀ a b c, nameLe a b = true → nameLe b c = true → nameLe a c = true :=
    fun a b c hab hbc =>
      decide_eq_true (List.le_trans (of_decide_eq_true hab) (of_decide_eq_true hbc))
  have htotal : ∀ a b, (nameLe a b || nameLe b a) = true := fun a b => by
    simpa [nameLe] using List.le_total a b
  exact (List.pairwise_mergeSort htrans htotal names).imp of_decide_eq_true

/-- Names that ascend are what comes of sorting them from any order. -/
theorem mergeSort_eq {names sorted : List Name} (hperm : sorted.Perm names)
    (hsorted : sorted.Pairwise (· < ·)) : names.mergeSort nameLe = sorted :=
  List.Perm.eq_of_pairwise (fun _ _ _ _ => List.le_antisymm) (pairwise_mergeSort names)
    (hsorted.imp List.le_of_lt) ((List.mergeSort_perm names nameLe).trans hperm.symm)

/-- The schemas of a directory, where its names are known in their order. -/
theorem schemasIn_eq {files : FileTree} {start : Location} {directory : Path} {extension : String}
    (names sorted : List Name) (hlist : files.list start directory = .ok names)
    (hperm : sorted.Perm names) (hsorted : sorted.Pairwise (· < ·)) :
    schemasIn files start directory extension = (sorted.filter fun name =>
      files.isFile start (directory.join ⟨name⟩) && isSchemaName extension name).map fun name =>
        directory.join ⟨name⟩ := by
  rw [schemasIn, hlist, ← mergeSort_eq hperm hsorted]

section
variable {settings : Settings} {files : FileTree} {start : Location} {directory path : Path}
  {extension : String}

theorem run_isFile (path : Path) (w : World) :
    (Session.isFile path).run w = (w, .ok (w.files.isFile w.directory path)) := by
  rw [Session.isFile, Session.run_bind, Session.run_kind, FileTree.isFile]
  dsimp only
  rcases w.files.kind w.directory path with e | _ | _ <;> rfl

theorem run_isDirectory (path : Path) (w : World) :
    (Session.isDirectory path).run w = (w, .ok (w.files.isDirectory w.directory path)) := by
  rw [Session.isDirectory, Session.run_bind, Session.run_kind, FileTree.isDirectory]
  dsimp only
  rcases w.files.kind w.directory path with e | _ | _ <;> rfl

theorem run_schemasAmong (directory : Path) (extension : String) (names : List Name) (w : World) :
    ∃ events, (schemasAmong directory extension names).run w = ({ w with events := events },
      .ok ((names.filter fun name =>
        w.files.isFile w.directory (directory.join ⟨name⟩) && isSchemaName extension name).map
          fun name => directory.join ⟨name⟩)) := by
  induction names generalizing w with
  | nil => exact ⟨w.events, rfl⟩
  | cons name others ih =>
    rw [schemasAmong, Session.run_bind, run_isFile, List.filter_cons]
    dsimp only
    cases w.files.isFile w.directory (directory.join ⟨name⟩) with
    | false =>
      simp only [Bool.false_eq_true, if_false, Bool.false_and]
      exact ih w
    | true =>
      simp only [if_true, Bool.true_and]
      cases isSchemaName extension name with
      | false =>
        simp only [Bool.false_eq_true, if_false]
        rw [Session.run_bind, Session.run_say]
        exact ih _
      | true =>
        simp only [if_true]
        obtain ⟨events, h⟩ := ih w
        rw [Session.run_bind, h]
        exact ⟨events, rfl⟩

/-- What can be listed is a directory. -/
theorem list_eq_ok_iff {names : List Name} : files.list start directory = .ok names ↔
    ∃ location, files.locate start .find directory = .ok (.present location) ∧
      files.node? location = some .directory ∧ names = files.namesAt location := by
  unfold FileTree.list
  constructor
  · intro h
    cases hl : files.locate start .find directory with
    | error e => simp [hl, bind, Except.bind] at h
    | ok found =>
      cases found with
      | absent location => simp [hl, bind, Except.bind] at h
      | present location =>
        simp only [hl, bind, Except.bind, pure, Except.pure] at h
        split at h
        · next hdirectory => exact ⟨location, rfl, hdirectory, (Except.ok.inj h).symm⟩
        · cases h
  · rintro ⟨location, hl, hdirectory, rfl⟩
    simp [hl, hdirectory, bind, Except.bind, pure, Except.pure]

/-- Collecting the schemas of a directory changes nothing but the log. -/
theorem run_collectSchemas (settings : Settings) {w : World}
    (h : w.files.isDirectory w.directory directory = true) : ∃ events,
    (collectSchemas directory settings.input.extension).run w =
      ({ w with events := events }, .ok (w.schemas settings directory)) := by
  obtain ⟨location, hl, hdir⟩ := FileTree.isDirectory_iff.mp h
  have hkind := FileTree.kind_eq_directory_iff.mpr ⟨location, hl, hdir⟩
  have hlist := list_eq_ok_iff.mpr ⟨location, hl, hdir, rfl⟩
  rw [collectSchemas, Session.run_bind, Session.run_attempt, Session.run_kind, hkind]
  dsimp only [Except.bind, Except.mapError]
  rw [Session.run_bind, Session.run_attempt, Session.run_list, hlist, World.schemas,
    schemasIn, hlist]
  exact run_schemasAmong directory _ _ w

/-! ### The names of the schemas -/

/-- A node that has a name in a directory lies there under that name. -/
theorem key_of_name {key location : Location} {n : Name}
    (h : (match key.getLast? with
      | some name => if key.dropLast = location then some name else none
      | none => none) = some n) : key = location ++ [n] := by
  split at h
  · next name hname =>
    split at h
    · next hfront =>
      cases h
      obtain ⟨front, rfl⟩ := List.getLast?_eq_some_iff.mp hname
      rw [List.dropLast_concat] at hfront
      rw [hfront]
    · cases h
  · cases h

/-- A tree that lists every location once, and by names. There may be links in it. -/
structure FileTree.Listed (t : FileTree) : Prop where
  once : (t.nodes.map Prod.fst).Nodup
  named : ∀ entry ∈ t.nodes, ∀ n ∈ entry.1, Path.IsName n

theorem FileTree.Plain.listed (h : files.Plain) : files.Listed := ⟨h.once, h.named⟩

theorem FileTree.Listed.isName_of_mem_namesAt (h : files.Listed) {location : Location} {n : Name}
    (hn : n ∈ files.namesAt location) : Path.IsName n := by
  obtain ⟨entry, hentry, hname⟩ := List.mem_filterMap.mp hn
  exact h.named entry hentry n (by simp [key_of_name hname])

theorem FileTree.Listed.nodup_namesAt (h : files.Listed) (location : Location) :
    (files.namesAt location).Nodup := by
  refine List.pairwise_filterMap.mpr ((List.pairwise_map.mp h.once).imp ?_)
  intro entry entry' hne n hn n' hn' heq
  exact hne (by rw [key_of_name hn, key_of_name hn', heq])

/-- Every schema of a directory goes on from it by a name. -/
theorem exists_name_of_mem_schemasIn (h : files.Plain)
    (hpath : path ∈ schemasIn files start directory extension) : ∃ n, Path.IsName n ∧
      isSchemaName extension n = true ∧ path = directory.join ⟨n⟩ ∧
      files.isFile start path = true := by
  unfold schemasIn at hpath
  split at hpath
  · cases hpath
  · next names hlist =>
    obtain ⟨location, -, -, rfl⟩ := list_eq_ok_iff.mp hlist
    obtain ⟨n, hn, rfl⟩ := List.mem_map.mp hpath
    obtain ⟨hmem, hkept⟩ := List.mem_filter.mp hn
    rw [Bool.and_eq_true] at hkept
    exact ⟨n, h.listed.isName_of_mem_namesAt (List.mem_mergeSort.mp hmem), hkept.2, rfl, hkept.1⟩

/-- No schema is listed twice. -/
theorem FileTree.Listed.nodup_schemasIn (h : files.Listed) :
    (schemasIn files start directory extension).Nodup := by
  unfold schemasIn
  split
  · exact List.nodup_nil
  · next names hlist =>
    obtain ⟨location, -, -, rfl⟩ := list_eq_ok_iff.mp hlist
    have hnames : ((files.namesAt location).mergeSort nameLe).Nodup :=
      (List.mergeSort_perm _ _).nodup_iff.mpr (h.nodup_namesAt location)
    refine List.Nodup.map_on (fun n hn n' hn' heq => ?_) (hnames.filter _)
    have hname : ∀ n ∈ (files.namesAt location).mergeSort nameLe, Path.IsName n := fun n hn =>
      h.isName_of_mem_namesAt (List.mem_mergeSort.mp hn)
    have hfile := Path.fileName?_join directory (hname n (List.mem_of_mem_filter hn))
    rw [heq, Path.fileName?_join directory (hname n' (List.mem_of_mem_filter hn'))] at hfile
    exact (Option.some.inj hfile).symm

theorem nodup_schemasIn (h : files.Plain) : (schemasIn files start directory extension).Nodup :=
  h.listed.nodup_schemasIn

/-! ### Converting -/

/-- The failure of a script that is part of its answer. -/
theorem run_lift_run (s : Session α) (w : World) :
    Session.run (ExceptT.lift (ExceptT.run s)) w = ((s.run w).1, .ok (s.run w).2) := by
  show Script.run (Script.bind (ExceptT.run s)
    fun result => (.done (.ok result) : Script (Except Failure (Except Failure α)))) w = _
  rw [Script.run_bind]
  rfl

theorem run_convertOne (settings : Settings) (path : Path) (w : World) : ∃ events clock,
    (convertOne settings path).run w =
      ({ w with
          files := (conversion settings w.files w.directory w.clock path).1
          events := events
          clock := clock },
        .ok ⟨path, (conversion settings w.files w.directory w.clock path).2⟩) := by
  obtain ⟨events, clock, h⟩ := run_convertFile settings path w
  refine ⟨events, clock, ?_⟩
  rw [convertOne, Session.run_bind, run_lift_run, h]
  rfl

/-- What conversions of files lead to, one after the other. -/
inductive Converts (settings : Settings) (start : Location) :
    FileTree → List Path → List Outcome → FileTree → Prop
  | none {t : FileTree} : Converts settings start t [] [] t
  | next {t t' : FileTree} {path : Path} {others : List Path} {outcomes : List Outcome}
      (clock : Clock) :
      Converts settings start (conversion settings t start clock path).1 others outcomes t' →
      Converts settings start t (path :: others)
        (⟨path, (conversion settings t start clock path).2⟩ :: outcomes) t'

/-- Converting files one after the other never fails as a whole. -/
theorem run_convertAll (settings : Settings) (paths : List Path) (w : World) : ∃ v outcomes,
    (convertAll settings paths).run w = (v, .ok outcomes) ∧
      Converts settings w.directory w.files paths outcomes v.files := by
  induction paths generalizing w with
  | nil => exact ⟨w, [], rfl, .none⟩
  | cons path others ih =>
    obtain ⟨events, clock, h⟩ := run_convertOne settings path w
    obtain ⟨v, outcomes, hothers, hconverts⟩ := ih ((convertOne settings path).run w).1
    rw [h] at hothers hconverts
    refine ⟨v, _ :: outcomes, ?_, .next w.clock hconverts⟩
    rw [convertAll, Session.run_bind, h]
    dsimp only
    rw [Session.run_bind, hothers]
    rfl

/-- Converting a directory is converting its schemas, and saying so. -/
theorem run_convertDirectory (settings : Settings) {w : World}
    (h : w.files.isDirectory w.directory directory = true) : ∃ events events' v outcomes,
    (convertAll settings (w.schemas settings directory)).run
        { w with events := events } = (v, .ok outcomes) ∧
      Converts settings w.directory w.files
        (w.schemas settings directory) outcomes v.files ∧
      (convertDirectory settings directory).run w =
        ({ v with events := events' }, .ok ⟨directory, outcomes⟩) := by
  obtain ⟨events, hcollect⟩ := run_collectSchemas settings h
  rw [convertDirectory, Session.run_bind, run_isDirectory, h]
  dsimp only
  rw [if_pos rfl, Session.run_bind, hcollect]
  generalize w.schemas settings directory = schemas
  obtain ⟨v, outcomes, hall, hconverts⟩ := run_convertAll settings schemas
    { w with events := events ++
      [.plain .info s!"Found {schemas.length} schema file(s) in {directory.quoted}"] }
  dsimp only
  rw [Session.run_bind, Session.run_say]
  dsimp only
  rw [Session.run_bind, hall]
  exact ⟨_, _, v, outcomes, hall, hconverts, rfl⟩

/-- What is not a directory is not converted. -/
theorem run_convertDirectory_of_not (settings : Settings) {w : World}
    (h : w.files.isDirectory w.directory directory = false) :
    (convertDirectory settings directory).run w =
      (w, .error (.invalidPath directory "not a directory")) := by
  rw [convertDirectory, Session.run_bind, run_isDirectory, h]
  rfl

end
end SchemaReport
