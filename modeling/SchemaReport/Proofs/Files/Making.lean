import SchemaReport.Proofs.Files.Plain

/-! Making directories once more.

Directories that have been made stay, so making them again changes nothing and is answered with
success (`makeDirectories_of_isDirectory`). Where they could not be made, another attempt is
answered with the same refusal, if no piece of the path leads up again
(`makeDirectories_refused`): a path that does may lead somewhere else once a part of it has been
made. -/
namespace SchemaReport

namespace FileTree

section
variable {t t' : FileTree} {start here location : Location} {aim : Aim} {links : Nat}
  {steps : List Step} {p q : Path} {e : FileFault}

/-! ### What a path leads to -/

theorem kind_isOk_iff : (t.kind start p).isOk = true ↔
    ∃ location node, t.locate start .find p = .ok (.present location) ∧
      t.node? location = some node := by
  constructor
  · intro h
    unfold kind at h
    cases hnode : t.nodeAt start p with
    | error e => simp [hnode, bind, Except.bind, Except.isOk, Except.toBool] at h
    | ok node =>
      obtain ⟨location, hl, hn⟩ := nodeAt_eq_ok_iff.mp hnode
      exact ⟨location, node, hl, hn⟩
  · rintro ⟨location, node, hl, hn⟩
    rw [kind, nodeAt_eq_ok_iff.mpr ⟨location, hl, hn⟩]
    cases node <;> rfl

/-- What is there is still there when the tree has grown. -/
theorem kind_isOk_grows (h : (t.kind start p).isOk = true) (hgrows : t.Grows t') :
    (t'.kind start p).isOk = true := by
  obtain ⟨location, node, hl, hn⟩ := kind_isOk_iff.mp h
  obtain ⟨node', hn', -⟩ := hgrows location node hn
  exact kind_isOk_iff.mpr ⟨location, node', locate_grows hl hgrows, hn'⟩

theorem isDirectory_grows (h : t.isDirectory start p = true) (hgrows : t.Grows t') :
    t'.isDirectory start p = true := by
  obtain ⟨location, hl, hdir⟩ := isDirectory_iff.mp h
  exact isDirectory_iff.mpr ⟨location, locate_grows hl hgrows, hgrows.directory hdir⟩

theorem kind_isOk_of_isDirectory (h : t.isDirectory start p = true) :
    (t.kind start p).isOk = true := by
  obtain ⟨location, hl, hdir⟩ := isDirectory_iff.mp h
  exact kind_isOk_iff.mpr ⟨location, _, hl, hdir⟩

/-- What is found where nothing is a link is also in the way of a new directory. -/
theorem Walks.making {found : Found} (hlinks : t.Unlinked)
    (h : Walks t .find links here steps found) (hfound : found = .present location) :
    Walks t .makeDirectory links here steps found := by
  have hadmits : ∀ {n rest}, Admits .find n rest → Admits .makeDirectory n rest :=
    fun h => ⟨by simp, h.2⟩
  induction h with
  | arrived => exact .arrived
  | here _ ih => exact .here (ih hfound)
  | slash _ ih => exact .slash (ih hfound)
  | above _ ih => exact .above (ih hfound)
  | missing => cases hfound
  | directory h hdir _ ih => exact .directory (hadmits h) hdir (ih hfound)
  | file h hfile => exact .file (hadmits h) hfile
  | blocked _ hlink => exact absurd hlink (hlinks _ _)
  | link _ hlink => exact absurd hlink (hlinks _ _)

theorem locate_making (hlinks : t.Unlinked)
    (h : t.locate start .find p = .ok (.present location)) :
    t.locate start .makeDirectory p = .ok (.present location) := by
  obtain ⟨hp, hw⟩ := locate_eq_ok_iff.mp h
  exact locate_eq_ok_iff.mpr ⟨hp, hw.making hlinks rfl⟩

/-- Walks that fail where nothing is a link, step by step. -/
inductive Fails (t : FileTree) : Location → List Step → OsError → Prop
  | here {here rest cause} : Fails t here rest cause → Fails t here (.here :: rest) cause
  | slash {here rest cause} : Fails t here rest cause → Fails t here (.slash :: rest) cause
  | above {here rest cause} : Fails t here.dropLast rest cause →
      Fails t here (.above :: rest) cause
  | long {here n rest} : maxName < n.length → Fails t here (.name n :: rest) .nameTooLong
  | missing {here n rest} : n.length ≤ maxName → t.node? (here ++ [n]) = none →
      Fails t here (.name n :: rest) .notFound
  | directory {here n rest cause} : n.length ≤ maxName →
      t.node? (here ++ [n]) = some .directory → Fails t (here ++ [n]) rest cause →
      Fails t here (.name n :: rest) cause
  | file {here n rest content} : n.length ≤ maxName →
      t.node? (here ++ [n]) = some (.file content) → rest ≠ [] →
      Fails t here (.name n :: rest) .notDirectory

theorem fails_of_walk (hlinks : t.Unlinked) {cause : OsError}
    (h : t.walk .find links here steps = .error cause) : Fails t here steps cause := by
  induction steps generalizing here with
  | nil =>
    rw [walk_nil] at h
    cases h
  | cons step rest ih =>
    cases step with
    | here => rw [walk_here] at h; exact .here (ih h)
    | slash => rw [walk_slash] at h; exact .slash (ih h)
    | above => rw [walk_above] at h; exact .above (ih h)
    | name n =>
      rw [walk_name, if_neg (by simp)] at h
      split at h
      · next hlong => exact Except.error.inj h ▸ .long hlong
      next hshort =>
      have hshort := Nat.le_of_not_lt hshort
      split at h
      · next hnone =>
        split at h
        · cases h
        · exact Except.error.inj h ▸ .missing hshort hnone
      · next hdir => exact .directory hshort hdir (ih h)
      · next content hfile =>
        split at h
        · cases h
        · next hrest => exact Except.error.inj h ▸ .file hshort hfile hrest
      · next target hlink => exact absurd hlink (hlinks _ _)

/-- What keeps a path from being found also keeps a directory from being made there, unless only
something is missing. -/
theorem Fails.making {cause : OsError} (h : Fails t here steps cause) (hcause : cause ≠ .notFound) :
    t.walk .makeDirectory links here steps = .error cause := by
  induction h with
  | here _ ih => rw [walk_here, ih hcause]
  | slash _ ih => rw [walk_slash, ih hcause]
  | above _ ih => rw [walk_above, ih hcause]
  | long hlong => rw [walk_name, if_neg (by simp), if_pos hlong]
  | missing => exact absurd rfl hcause
  | directory hshort hdir _ ih =>
    rw [walk_name, if_neg (by simp), if_neg (Nat.not_lt.mpr hshort), hdir]
    exact ih hcause
  | file hshort hfile hrest =>
    rw [walk_name, if_neg (by simp), if_neg (Nat.not_lt.mpr hshort), hfile]
    exact if_neg hrest

/-- What cannot be found cannot be entered. -/
theorem Fails.enter {cause : OsError} (h : Fails t here steps cause) :
    t.enter here steps = .error cause := by
  induction h with
  | here _ ih => exact ih
  | slash _ ih => exact ih
  | above _ ih => exact ih
  | long hlong => rw [enter_name, if_pos hlong]
  | missing hshort hnone => rw [enter_name, if_neg (Nat.not_lt.mpr hshort), hnone]
  | directory hshort hdir _ ih =>
    rw [enter_name, if_neg (Nat.not_lt.mpr hshort), hdir]
    exact ih
  | file hshort hfile => rw [enter_name, if_neg (Nat.not_lt.mpr hshort), hfile]

theorem locate_making_error (hlinks : t.Unlinked)
    (h : t.locate start .find p = .error e) (he : e ≠ .os .notFound) :
    t.locate start .makeDirectory p = .error e := by
  by_cases hp : Walkable p
  · rw [locate_of_walkable hp] at h ⊢
    cases hw : t.walk .find maxLinks (origin start p) (stepsOf p) with
    | ok found =>
      rw [hw] at h
      cases h
    | error cause =>
      rw [hw] at h
      cases h
      rw [(fails_of_walk hlinks hw).making fun hcause => he (hcause ▸ rfl)]
      rfl
  · obtain ⟨e', he'⟩ := locate_of_not_walkable hp
    rw [he'] at h ⊢
    exact h

/-! ### Directories that are there -/

theorem makeDirectories_eq (t : FileTree) (start : Location) (p : Path) : ∃ others,
    t.makeDirectories start p = t.makeAlong start (p :: others) := ⟨_, rfl⟩

/-- A directory that is there is not made again. -/
theorem makeDirectories_of_isDirectory
    (hlinks : t.Unlinked) (h : t.isDirectory start p = true) :
    t.makeDirectories start p = (t, .ok ()) := by
  obtain ⟨location, hl, -⟩ := isDirectory_iff.mp h
  have hmade : t.makeDirectory start p = .error (.os .fileExists) := by
    rw [makeDirectory, locate_making hlinks hl]
    rfl
  obtain ⟨others, heq⟩ := makeDirectories_eq t start p
  rw [heq, makeAlong, hmade]
  dsimp only
  rw [if_pos h, ite_self]

theorem Makes.isDirectory (h : Makes t start p t' (.ok ())) : t'.isDirectory start p = true := by
  cases h with
  | new hmade =>
    obtain ⟨location, hnone, hne, rfl, -, hl⟩ := makeDirectory_eq_ok hmade
    exact isDirectory_iff.mpr ⟨location, hl, node?_put_self t hne _⟩
  | there _ hdir => exact hdir

theorem MakesAlong.isDirectory {others : List Path} (hne : p.bytes ≠ [])
    (h : MakesAlong t start (p :: others) t' (.ok ())) : t'.isDirectory start p = true := by
  cases h with
  | empty hempty => exact absurd hempty hne
  | first _ _ hmakes => exact hmakes.isDirectory
  | again _ _ _ hmakes => exact hmakes.isDirectory

/-- Directories that have been made are there. -/
theorem isDirectory_of_makeDirectories (hne : p.bytes ≠ [])
    (h : t.makeDirectories start p = (t', .ok ())) : t'.isDirectory start p = true := by
  obtain ⟨others, heq⟩ := makeDirectories_eq t start p
  rw [heq] at h
  exact (makesAlong_of_eq h).isDirectory hne

/-! ### Directories that cannot be made -/

/-- A path that cannot be walked for another reason than a missing name is refused as such. -/
theorem makeDirectories_of_locate_error
    (hlinks : t.Unlinked) (hne : p.bytes ≠ [])
    (h : t.locate start .find p = .error e) (he : e ≠ .os .notFound) :
    t.makeDirectories start p = (t, .error e) := by
  have hmade : t.makeDirectory start p = .error e := by
    rw [makeDirectory, locate_making_error hlinks h he]
    rfl
  have hnot : t.isDirectory start p = false := by
    rw [Bool.eq_false_iff]
    intro hdir
    obtain ⟨location, hl, -⟩ := isDirectory_iff.mp hdir
    rw [hl] at h
    cases h
  obtain ⟨others, heq⟩ := makeDirectories_eq t start p
  rw [heq, makeAlong, if_neg hne, hmade]
  split
  · next hcause => cases hcause
  · next hcause => exact absurd (Except.error.inj hcause) he
  · next cause _ hcause =>
    rw [hnot, if_neg Bool.false_ne_true, Except.error.inj hcause]

/-- Without a way up, steps lead further down. -/
theorem prefix_of_enter (hup : Step.above ∉ steps) (h : t.enter here steps = .ok location) :
    here <+: location := by
  induction steps generalizing here with
  | nil => exact Except.ok.inj h ▸ List.prefix_rfl
  | cons step rest ih =>
    rw [List.mem_cons, not_or] at hup
    cases step with
    | here => exact ih hup.2 h
    | slash => exact ih hup.2 h
    | above => exact absurd rfl hup.1
    | name n =>
      obtain ⟨-, -, hrest⟩ := enter_name_eq_ok_iff.mp h
      exact (List.prefix_append here [n]).trans (ih hup.2 hrest)

theorem Rooted.directory_of_begins (hroot : t.Rooted) {lower : Location} (h : location <+: lower)
    (hdir : t.node? lower = some .directory) : t.node? location = some .directory := by
  obtain ⟨names, rfl⟩ := h
  induction names using List.reverseRecOn with
  | nil => rwa [List.append_nil] at hdir
  | append_singleton front n ih =>
    refine ih ?_
    have := hroot.inDirectory _ _ hdir
    rwa [← List.append_assoc, List.dropLast_concat] at this

/-- A directory that was there before some others were made could be entered before. -/
theorem enter_of_directory (hroot : t.Rooted) (hup : Step.above ∉ steps)
    (h : t'.enter here steps = .ok location) (hdir : t.node? location = some .directory) :
    t.enter here steps = .ok location := by
  induction steps generalizing here with
  | nil => exact h
  | cons step rest ih =>
    rw [List.mem_cons, not_or] at hup
    cases step with
    | here => exact ih hup.2 h
    | slash => exact ih hup.2 h
    | above => exact absurd rfl hup.1
    | name n =>
      obtain ⟨hshort, -, hrest⟩ := enter_name_eq_ok_iff.mp h
      have hhere := hroot.directory_of_begins (prefix_of_enter hup.2 hrest) hdir
      exact enter_name_eq_ok_iff.mpr ⟨hshort, hhere, ih hup.2 hrest⟩

/-- A directory that a path leads to can be entered. -/
theorem enter_of_isDirectory (hroot : t.Rooted) (hstart : t.node? start = some .directory)
    (h : t.isDirectory start p = true) : ∃ location,
    t.enter (origin start p) p.turns = .ok location ∧ t.node? location = some .directory := by
  obtain ⟨location, hl, hdir⟩ := isDirectory_iff.mp h
  rcases (locate_eq_ok_iff.mp hl).2.end_cases hroot rfl (node?_origin hstart p) with
    henter | ⟨_, _, _, content, -, -, -, hfile⟩
  · exact ⟨location, (enter_turns t _ p).trans henter, hdir⟩
  · rw [hdir] at hfile
    cases hfile

/-- On the way to anything that is there nothing is missing. -/
theorem enter_of_kind (hroot : t.Rooted) (hstart : t.node? start = some .directory)
    (h : (t.kind start p).isOk = true) :
    t.enter (origin start p) p.turns ≠ .error .notFound := by
  obtain ⟨location, node, hl, -⟩ := kind_isOk_iff.mp h
  rw [enter_turns]
  rcases (locate_eq_ok_iff.mp hl).2.end_cases hroot rfl (node?_origin hstart p) with
    henter | ⟨front, n, there, content, hsteps, henter, rfl, hfile⟩
  · rw [henter]
    simp
  · rw [← enter_filter, hsteps, enter_append, henter]
    simp only [Except.bind, enter_name, hfile]
    split <;> simp

theorem Walkable.of_begins (h : Walkable p) (hbegins : q.bytes <+: p.bytes) (hne : q.bytes ≠ []) :
    Walkable q := by
  refine ⟨?_, hne, Nat.lt_of_le_of_lt hbegins.length_le h.short⟩
  have hzero := h.noZero
  rw [Bool.eq_false_iff, ne_eq, List.contains_iff_mem] at hzero ⊢
  exact fun hmem => hzero (hbegins.subset hmem)

/-- A trim path that does not lead up ends in a name, and begins with the path above it. -/
theorem stepsOf_below (htrim : p.Trim) (hup : Step.above ∉ p.turns) (hpieces : p.pieces ≠ [])
    (hq : p.parent? = some q) : ∃ front n, stepsOf p = front ++ [.name n] ∧
      front.filter Step.isTurn = q.turns := by
  obtain ⟨others, last', hlast'⟩ := List.eq_nil_or_concat p.pieces |>.resolve_left hpieces
  rw [List.concat_eq_append] at hlast'
  have hbusy' : Path.isIdle last' = false :=
    Path.busy_of_getLast?_settle (Path.split p.opening.2) (by
      rw [show Path.settle _ = p.pieces from rfl, hlast', List.getLast?_concat])
  have hturns := Path.turns_parent? hlast' hq
  rw [Path.turnsOf_of_busy hbusy'] at hturns
  obtain ⟨before, last, hsplit⟩ :=
    List.eq_nil_or_concat (Path.split p.bytes) |>.resolve_left (Text.parts_ne_nil _ _)
  rw [List.concat_eq_append] at hsplit
  have hbusy : Path.isIdle last = false := by
    rw [Bool.eq_false_iff]
    intro hidle
    have := htrim last (by rw [hsplit, List.getLast?_concat]) hidle
    rw [hturns] at this
    simp at this
  rw [Path.isIdle, Bool.or_eq_false_iff, beq_eq_false_iff_ne, beq_eq_false_iff_ne] at hbusy
  have hsteps : stepsOf p = before.filterMap stepOf? ++
      [if last = Path.above then .above else .name last] := by
    have hstep : stepOf? last = some (if last = Path.above then .above else .name last) := by
      rw [stepOf?, if_neg hbusy.1, if_neg hbusy.2]
      split <;> rfl
    rw [stepsOf, hsplit, List.getLast?_concat, if_neg (by simp [hbusy.1]), List.filterMap_append,
      List.filterMap_cons_some hstep, List.filterMap_nil]
  have hfilter := filter_stepsOf p
  have hdown : last ≠ Path.above := by
    intro habove
    rw [hsteps, if_pos habove, List.filter_append] at hfilter
    exact hup (hfilter ▸ List.mem_append_right _ (by simp [Step.isTurn]))
  rw [if_neg hdown] at hsteps
  refine ⟨_, last, hsteps, ?_⟩
  rw [hsteps, List.filter_append, hturns, List.filter_cons_of_pos rfl, List.filter_nil] at hfilter
  exact (List.append_inj' hfilter rfl).1

/-- A path that can be walked and goes on from another one by a name. -/
structure Below (start : Location) (q p : Path) (n : Name) : Prop where
  walkable : Walkable p
  origin_eq : origin start q = origin start p
  steps : ∃ front, stepsOf p = front ++ [.name n] ∧ front.filter Step.isTurn = q.turns

/-- A path goes on from the path above it, if there is one. -/
theorem exists_below (hp : Walkable p) (htrim : p.Trim) (hup : Step.above ∉ p.turns)
    (hq : p.parent? = some q) (hne : q.bytes ≠ []) : ∃ n, Below start q p n := by
  obtain ⟨front, n, hsteps⟩ := stepsOf_below htrim hup (Path.pieces_ne_nil_of_parent? hq hne) hq
  refine ⟨n, hp, ?_, front, hsteps⟩
  rw [origin, origin, Path.isAbsolute_parent? hq hne]

/-- A path in a tree without links, seen from the path it goes on from. -/
theorem Below.locate_eq {n : Name} (h : Below start q p n) (hlinks : t.Unlinked) :
    t.locate start aim p = ((t.enter (origin start q) q.turns).bind fun there =>
      t.walk aim maxLinks there [.name n]).mapError .os := by
  obtain ⟨front, hsteps, hfront⟩ := h.steps
  rw [locate_of_walkable h.walkable, hsteps, walk_enter hlinks, h.origin_eq, ← hfront, enter_filter]

theorem makeDirectory_eq_notFound (h : t.makeDirectory start p = .error (.os .notFound)) :
    t.locate start .makeDirectory p = .error (.os .notFound) := by
  unfold makeDirectory at h
  cases hl : t.locate start .makeDirectory p with
  | error e => simpa [hl, bind, Except.bind] using h
  | ok found => cases found <;> simp [hl, bind, Except.bind, pure, Except.pure] at h

theorem walkable_of_notFound (hne : p.bytes ≠ [])
    (h : t.locate start aim p = .error (.os .notFound)) : Walkable p := by
  refine ⟨?_, hne, ?_⟩
  · rw [Bool.eq_false_iff]
    intro hzero
    rw [locate, if_pos hzero] at h
    cases h
  · refine Nat.lt_of_not_le fun hlong => ?_
    simp only [locate, if_neg hne, if_pos hlong] at h
    split at h <;> cases h

/-- A directory that is refused although the one above it is there has a name that is too long:
nothing else that was in its way before the directories above were made is in its way now. -/
theorem Below.locate_error_of_refused {n : Name} (hbelow : Below start q p n) {u : FileTree}
    {paths : List Path} (hroot : t.Rooted) (hfills : Fills t u start paths) (hrootu : u.Rooted)
    (hstart : u.node? start = some .directory)
    (hup : Step.above ∉ q.turns) (hmissing : t.makeDirectory start p = .error (.os .notFound))
    (hdir : u.isDirectory start q = true) (hrefused : u.makeDirectory start p = .error e)
    (hnot : u.isDirectory start p = false) :
    u.locate start .find p = .error e ∧ e ≠ .os .notFound := by
  obtain ⟨there, henter, hthere⟩ := enter_of_isDirectory hrootu hstart hdir
  have hlocate : ∀ aim, u.locate start aim p = (u.walk aim maxLinks there [.name n]).mapError .os :=
    fun aim => by
      rw [hbelow.locate_eq hrootu.unlinked, henter]
      rfl
  rw [makeDirectory, hlocate, walk_name, if_neg (by simp)] at hrefused
  rw [hlocate, walk_name, if_neg (by simp)]
  by_cases hlong : maxName < n.length
  · rw [if_pos hlong] at hrefused ⊢
    cases hrefused
    exact ⟨rfl, by simp⟩
  · rw [if_neg hlong] at hrefused
    exfalso
    cases hnode : u.node? (there ++ [n]) with
    | none => simp [hnode, bind, Except.bind, Except.mapError, pure, Except.pure] at hrefused
    | some node =>
      cases node with
      | directory =>
        refine Bool.eq_false_iff.mp hnot (isDirectory_iff.mpr ⟨there ++ [n], ?_, hnode⟩)
        rw [hlocate, walk_name, if_neg (by simp), if_neg hlong, hnode]
        simp [Except.mapError]
      | file content =>
        have hold : t.node? (there ++ [n]) = some (.file content) := by
          rcases hfills.filled (there ++ [n]) with hsame | ⟨-, hdir, -⟩
          · exact hsame ▸ hnode
          · rw [hnode] at hdir
            cases hdir
        have habove := hroot.inDirectory _ _ hold
        rw [List.dropLast_concat] at habove
        have hblocked := makeDirectory_eq_notFound hmissing
        rw [hbelow.locate_eq hroot.unlinked, enter_of_directory hroot hup henter habove] at hblocked
        simp [Except.bind, walk_name, hlong, hold, Except.mapError] at hblocked
      | link target => exact hrootu.unlinked _ _ hnode

/-- What keeps the path above from being found keeps a path from being found. -/
theorem locate_error_below (hlinks : t.Unlinked) (hp : Walkable p) (htrim : p.Trim)
    (hup : Step.above ∉ p.turns) (hq : p.parent? = some q)
    (hl : t.locate start .find q = .error e) (he : e ≠ .os .notFound) :
    t.locate start .find p = .error e := by
  have hne : q.bytes ≠ [] := by
    intro hempty
    simp only [locate, hempty, List.contains_nil, Bool.false_eq_true, if_false, if_true] at hl
    exact he (Except.error.inj hl).symm
  obtain ⟨n, hbelow⟩ := exists_below hp htrim hup hq hne
  rw [locate_of_walkable (Walkable.of_begins hp (Path.prefix_parent? hq) hne)] at hl
  rw [hbelow.locate_eq hlinks, enter_turns]
  cases hw : t.walk .find maxLinks (origin start q) (stepsOf q) with
  | ok found =>
    rw [hw] at hl
    cases hl
  | error cause =>
    rw [(fails_of_walk hlinks hw).enter]
    rw [hw] at hl
    exact hl

/-- Either nothing had to be made above a path, or the path above it is a directory now. -/
theorem MakesAlong.made_above {count : Nat}
    (h : MakesAlong t start (Path.ancestorsWithin count q) t' (.ok ())) :
    t' = t ∨ (q.bytes ≠ [] ∧ t'.isDirectory start q = true) := by
  cases count with
  | zero =>
    cases h
    exact .inl rfl
  | succ count =>
    by_cases hempty : q.bytes = []
    · cases h with
      | empty => exact .inl rfl
      | first hne => exact absurd hempty hne
      | again hne => exact absurd hempty hne
    · exact .inr ⟨hempty, h.isDirectory hempty⟩

/-- A directory that is refused after those above it have been made is refused by its path. -/
theorem Makes.refused_below {u v : FileTree} {paths : List Path} (h : Makes u start p v (.error e))
    (hroot : t.Rooted) (hstart : t.node? start = some .directory)
    (hfills : Fills t u start paths) (hrootu : u.Rooted) (htrim : p.Trim)
    (hup : Step.above ∉ p.turns) (hne : p.bytes ≠ []) (hq : p.parent? = some q)
    (hmissing : t.makeDirectory start p = .error (.os .notFound))
    (habove : q.bytes ≠ [] ∧ u.isDirectory start q = true) :
    v.locate start .find p = .error e ∧ e ≠ .os .notFound := by
  have hp := walkable_of_notFound hne (makeDirectory_eq_notFound hmissing)
  have hupq : Step.above ∉ q.turns := fun hmem =>
    hup ((Path.prefix_turns_parent? hq).subset hmem)
  obtain ⟨n, hbelow⟩ := exists_below hp htrim hup hq habove.1
  cases h with
  | refused hrefused hnot =>
    exact hbelow.locate_error_of_refused hroot hfills hrootu (hfills.grows.directory hstart) hupq
      hmissing habove.2 hrefused hnot

/-- What could not be made is refused by its path, as soon as something else has been made. -/
theorem MakesAlong.refused_after (hroot : t.Rooted) (hstart : t.node? start = some .directory)
    (count : Nat) (p : Path) (htrim : p.Trim) (hup : Step.above ∉ p.turns)
    (h : MakesAlong t start (Path.ancestorsWithin count p) t' (.error e)) :
    t' = t ∨ (t'.locate start .find p = .error e ∧ e ≠ .os .notFound) := by
  induction count generalizing p t' with
  | zero => cases h
  | succ count ih =>
    cases h with
    | first _ _ hmakes =>
      cases hmakes with
      | refused => exact .inl rfl
    | refused hne hmissing hothers =>
      cases hq : p.parent? with
      | none =>
        rw [hq] at hothers
        cases hothers
      | some q =>
        rw [hq] at hothers
        have hupq : Step.above ∉ q.turns := fun hmem =>
          hup ((Path.prefix_turns_parent? hq).subset hmem)
        rcases ih q (Path.parent?_trim hq) hupq hothers with hsame | ⟨hl, he⟩
        · exact .inl hsame
        · have hp := walkable_of_notFound hne (makeDirectory_eq_notFound hmissing)
          have hlinks := (hothers.rooted hroot hstart).unlinked
          exact .inr ⟨locate_error_below hlinks hp htrim hup hq hl he, he⟩
    | again hne hmissing hothers hmakes =>
      cases hq : p.parent? with
      | none =>
        -- Nothing is above, so nothing has been made.
        rw [hq] at hothers
        cases hothers
        cases hmakes with
        | refused => exact .inl rfl
      | some q =>
        rw [hq] at hothers
        rcases hothers.made_above with rfl | habove
        · cases hmakes with
          | refused => exact .inl rfl
        · exact .inr (hmakes.refused_below hroot hstart hothers.fills
            (hothers.rooted hroot hstart) htrim hup hne hq hmissing habove)

/-- Directories that were refused once are refused in the same way ever after, if their path does
not lead up. -/
theorem makeDirectories_refused (hroot : t.Rooted) (hstart : t.node? start = some .directory)
    (htrim : p.Trim) (hup : Step.above ∉ p.turns) (hne : p.bytes ≠ [])
    (h : t.makeDirectories start p = (t', .error e)) :
    t'.makeDirectories start p = (t', .error e) ∧
      (t' = t ∨ (t'.kind start p).isOk = false) := by
  rcases (makesAlong_of_eq h).refused_after hroot hstart _ p htrim hup with rfl | ⟨hl, he⟩
  · exact ⟨h, .inl rfl⟩
  · have hroot' := hroot.makeDirectories hstart p
    rw [h] at hroot'
    refine ⟨makeDirectories_of_locate_error hroot'.unlinked hne hl he, .inr ?_⟩
    rw [Bool.eq_false_iff]
    intro hok
    obtain ⟨location, node, hl', -⟩ := kind_isOk_iff.mp hok
    rw [hl'] at hl
    cases hl

end
end FileTree
end SchemaReport
