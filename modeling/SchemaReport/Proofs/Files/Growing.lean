import SchemaReport.Files.Tree

/-! Trees that only grow.

A tree grows when directories and links stay, files are only added to, and anything may be new
(`FileTree.Grows`). Walks that arrive somewhere arrive there in every grown tree, and a walk
that ended at a missing name ends at what has been put there (`Walks.grows`, `Walks.put`). Both
ways of changing a tree that a conversion uses make it grow: appending changes one file
(`append_eq_ok`), making directories fills gaps along one path (`makeDirectories_fills`). -/
namespace SchemaReport
open Text

/-! ### Nodes -/

/-- What may become of a node while nothing is lost: only files change, at their ends. -/
inductive Node.Grows : Node → Node → Prop
  | directory : Grows .directory .directory
  | link (target : Path) : Grows (.link target) (.link target)
  | file (content more : Bytes) : Grows (.file content) (.file (content ++ more))

theorem Node.Grows.refl (node : Node) : node.Grows node := by
  cases node with
  | directory => exact .directory
  | file content => simpa using Node.Grows.file content []
  | link target => exact .link target

theorem Node.Grows.trans {a b c : Node} (h : a.Grows b) (h' : b.Grows c) : a.Grows c := by
  cases h with
  | directory => exact h'
  | link target => exact h'
  | file content more =>
    cases h' with
    | file _ more' =>
      rw [List.append_assoc]
      exact .file content (more ++ more')

namespace FileTree

/-- Nothing of the tree is lost in the other. -/
def Grows (t t' : FileTree) : Prop :=
  ∀ location node, t.node? location = some node →
    ∃ node', t'.node? location = some node' ∧ node.Grows node'

theorem Grows.refl (t : FileTree) : t.Grows t := fun _ node h => ⟨node, h, .refl node⟩

theorem Grows.trans {t u v : FileTree} (h : t.Grows u) (h' : u.Grows v) : t.Grows v := by
  intro location node hnode
  obtain ⟨node', hnode', hgrows⟩ := h location node hnode
  obtain ⟨node'', hnode'', hgrows'⟩ := h' location node' hnode'
  exact ⟨node'', hnode'', hgrows.trans hgrows'⟩

theorem Grows.directory {t t' : FileTree} (h : t.Grows t') {location : Location}
    (hd : t.node? location = some .directory) : t'.node? location = some .directory := by
  obtain ⟨_, hnode, hgrows⟩ := h location _ hd
  cases hgrows
  exact hnode

theorem node?_nil (t : FileTree) : t.node? [] = some .directory := by simp [node?]

theorem ne_nil_of_node? {t : FileTree} {location : Location}
    (h : t.node? location ≠ some .directory) : location ≠ [] := by
  rintro rfl
  exact h t.node?_nil

/-- Putting a node where there is none, or what another has grown to in its place. -/
theorem grows_put {t : FileTree} {location : Location} {node : Node} (hne : location ≠ [])
    (h : ∀ old, t.node? location = some old → old.Grows node) : t.Grows (t.put location node) := by
  intro other old hold
  by_cases heq : other = location
  · subst heq
    exact ⟨node, node?_put_self t hne node, h old hold⟩
  · exact ⟨old, by rw [node?_put_of_ne t heq]; exact hold, .refl old⟩

/-! ### Walks -/

/-- A name may be looked up: it is not too long, and no file is opened by a path with a slash
at its end. -/
def Admits (aim : Aim) (n : Name) (rest : List Step) : Prop :=
  ¬(aim = .openFile ∧ rest = [.slash]) ∧ n.length ≤ maxName

/-- The last name of a path may be missing. -/
def MayMiss (aim : Aim) (rest : List Step) : Prop :=
  rest = [] ∨ (aim = .makeDirectory ∧ rest = [.slash])

/-- A link that is not followed. -/
def Blocks (aim : Aim) (rest : List Step) : Prop :=
  aim = .makeDirectory ∧ (rest = [] ∨ rest = [.slash])

/-- Walks that end well, step by step. -/
inductive Walks (t : FileTree) (aim : Aim) : Nat → Location → List Step → Found → Prop
  | arrived {links here} : Walks t aim links here [] (.present here)
  | here {links here rest found} : Walks t aim links here rest found →
      Walks t aim links here (.here :: rest) found
  | slash {links here rest found} : Walks t aim links here rest found →
      Walks t aim links here (.slash :: rest) found
  | above {links here rest found} : Walks t aim links here.dropLast rest found →
      Walks t aim links here (.above :: rest) found
  | missing {links here n rest} : Admits aim n rest → t.node? (here ++ [n]) = none →
      MayMiss aim rest → Walks t aim links here (.name n :: rest) (.absent (here ++ [n]))
  | directory {links here n rest found} : Admits aim n rest →
      t.node? (here ++ [n]) = some .directory → Walks t aim links (here ++ [n]) rest found →
      Walks t aim links here (.name n :: rest) found
  | file {links here n content} : Admits aim n [] → t.node? (here ++ [n]) = some (.file content) →
      Walks t aim links here [.name n] (.present (here ++ [n]))
  | blocked {links here n rest target} : Admits aim n rest →
      t.node? (here ++ [n]) = some (.link target) → Blocks aim rest →
      Walks t aim links here (.name n :: rest) (.present (here ++ [n]))
  | link {links here n rest target found} : Admits aim n rest →
      t.node? (here ++ [n]) = some (.link target) → ¬ Blocks aim rest →
      Walks t aim links (if target.isAbsolute then [] else here) (stepsOf target ++ rest) found →
      Walks t aim (links + 1) here (.name n :: rest) found

section
variable {t t' : FileTree} {aim : Aim} {links : Nat} {here location : Location}
  {steps : List Step} {found : Found}

theorem walks_of_walk (h : t.walk aim links here steps = .ok found) :
    Walks t aim links here steps found := by
  -- Following a link uses one of the links up, every other step is used up itself.
  induction links using Nat.strongRecOn generalizing here steps with
  | _ links follow =>
    induction steps generalizing here with
    | nil =>
      rw [walk_nil] at h
      exact Except.ok.inj h ▸ .arrived
    | cons step rest ih =>
      cases step with
      | here => exact .here (ih (walk_here .. ▸ h))
      | slash => exact .slash (ih (walk_slash .. ▸ h))
      | above => exact .above (ih (walk_above .. ▸ h))
      | name n =>
        rw [walk_name] at h
        split at h
        · cases h
        next hslash =>
        split at h
        · cases h
        next hlong =>
        have hadmits : Admits aim n rest := ⟨hslash, Nat.le_of_not_lt hlong⟩
        split at h
        · next hnone =>
          split at h
          · next hlast => exact Except.ok.inj h ▸ .missing hadmits hnone hlast
          · cases h
        · next hdir => exact .directory hadmits hdir (ih h)
        · next content hfile =>
          split at h
          · next hlast =>
            subst hlast
            exact Except.ok.inj h ▸ .file hadmits hfile
          · cases h
        · next target hlink =>
          split at h
          · next hblocks => exact Except.ok.inj h ▸ .blocked hadmits hlink hblocks
          · next hblocks =>
            cases links with
            | zero => cases h
            | succ links =>
              exact .link hadmits hlink hblocks (follow links (Nat.lt_succ_self links) h)

theorem Walks.walk (h : Walks t aim links here steps found) :
    t.walk aim links here steps = .ok found := by
  induction h with
  | arrived => rw [walk_nil]
  | here _ ih => rw [walk_here, ih]
  | slash _ ih => rw [walk_slash, ih]
  | above _ ih => rw [walk_above, ih]
  | missing hadmits hnone hlast =>
    rw [walk_name, if_neg hadmits.1, if_neg (Nat.not_lt.mpr hadmits.2), hnone]
    exact if_pos hlast
  | directory hadmits hdir _ ih =>
    rw [walk_name, if_neg hadmits.1, if_neg (Nat.not_lt.mpr hadmits.2), hdir]
    exact ih
  | file hadmits hfile =>
    rw [walk_name, if_neg hadmits.1, if_neg (Nat.not_lt.mpr hadmits.2), hfile]
    exact if_pos rfl
  | blocked hadmits hlink hblocks =>
    rw [walk_name, if_neg hadmits.1, if_neg (Nat.not_lt.mpr hadmits.2), hlink]
    exact if_pos hblocks
  | link hadmits hlink hblocks _ ih =>
    rw [walk_name, if_neg hadmits.1, if_neg (Nat.not_lt.mpr hadmits.2), hlink]
    exact (if_neg hblocks).trans ih

/-- The walks that end well are those of the relation. -/
theorem walk_eq_ok_iff :
    t.walk aim links here steps = .ok found ↔ Walks t aim links here steps found :=
  ⟨walks_of_walk, Walks.walk⟩

/-- What is missing is missing, and would stand in a place below the root. -/
theorem Walks.node?_absent (h : Walks t aim links here steps found)
    (hfound : found = .absent location) : t.node? location = none ∧ location ≠ [] := by
  induction h with
  | missing _ hnone _ =>
    cases hfound
    exact ⟨hnone, by simp⟩
  | arrived => cases hfound
  | file => cases hfound
  | blocked => cases hfound
  | here _ ih => exact ih hfound
  | slash _ ih => exact ih hfound
  | above _ ih => exact ih hfound
  | directory _ _ _ ih => exact ih hfound
  | link _ _ _ _ ih => exact ih hfound

/-- Where a walk has arrived it arrives in every tree that has grown from this one. -/
theorem Walks.grows (h : Walks t aim links here steps found) (hgrows : t.Grows t')
    (hfound : found = .present location) : Walks t' aim links here steps found := by
  induction h with
  | arrived => exact .arrived
  | here _ ih => exact .here (ih hfound)
  | slash _ ih => exact .slash (ih hfound)
  | above _ ih => exact .above (ih hfound)
  | missing => cases hfound
  | directory hadmits hdir _ ih => exact .directory hadmits (hgrows.directory hdir) (ih hfound)
  | file hadmits hfile =>
    obtain ⟨_, hnode, hmore⟩ := hgrows _ _ hfile
    cases hmore
    exact .file hadmits hnode
  | blocked hadmits hlink hblocks =>
    obtain ⟨_, hnode, hmore⟩ := hgrows _ _ hlink
    cases hmore
    exact .blocked hadmits hnode hblocks
  | link hadmits hlink hblocks _ ih =>
    obtain ⟨_, hnode, hmore⟩ := hgrows _ _ hlink
    cases hmore
    exact .link hadmits hnode hblocks (ih hfound)

/-- To find what is there nothing more is asked of a path than to open it. -/
theorem Walks.find (h : Walks t .openFile links here steps found) :
    Walks t .find links here steps found := by
  have hadmits : ∀ {n rest}, Admits .openFile n rest → Admits .find n rest :=
    fun h => ⟨by simp, h.2⟩
  have hblocks : ∀ {rest}, ¬ Blocks .find rest := by simp [Blocks]
  induction h with
  | arrived => exact .arrived
  | here _ ih => exact .here ih
  | slash _ ih => exact .slash ih
  | above _ ih => exact .above ih
  | missing h hnone hlast => exact .missing (hadmits h) hnone (by simpa [MayMiss] using hlast)
  | directory h hdir _ ih => exact .directory (hadmits h) hdir ih
  | file h hfile => exact .file (hadmits h) hfile
  | blocked _ _ h => simp [Blocks] at h
  | link h hlink _ _ ih => exact .link (hadmits h) hlink hblocks ih

/-- What may be put where a walk ended at a missing name: a directory where one was to be made,
and otherwise a file. -/
def Fits (aim : Aim) : Node → Prop
  | .directory => aim = .makeDirectory
  | .file _ => aim ≠ .makeDirectory
  | .link _ => False

/-- Where a walk ended at a missing name it ends at what has been put there. -/
theorem Walks.put (h : Walks t aim links here steps found) (hgrows : t.Grows t')
    (hfound : found = .absent location) {node : Node} (hnode : t'.node? location = some node)
    (hfits : Fits aim node) : Walks t' .find links here steps (.present location) := by
  have hadmits : ∀ {n rest}, Admits aim n rest → Admits .find n rest := fun h => ⟨by simp, h.2⟩
  induction h with
  | arrived => cases hfound
  | file => cases hfound
  | blocked => cases hfound
  | here _ ih => exact .here (ih hfound)
  | slash _ ih => exact .slash (ih hfound)
  | above _ ih => exact .above (ih hfound)
  | missing h hnone hlast =>
    cases hfound
    cases node with
    | directory =>
      refine .directory (hadmits h) hnode ?_
      rcases hlast with rfl | ⟨-, rfl⟩
      · exact .arrived
      · exact .slash .arrived
    | file content =>
      rcases hlast with rfl | ⟨haim, -⟩
      · exact .file (hadmits h) hnode
      · exact absurd haim hfits
    | link target => exact hfits.elim
  | directory h hdir _ ih => exact .directory (hadmits h) (hgrows.directory hdir) (ih hfound)
  | link h hlink _ _ ih =>
    obtain ⟨_, hnode, hmore⟩ := hgrows _ _ hlink
    cases hmore
    exact .link (hadmits h) hnode (by simp [Blocks]) (ih hfound)

end

/-! ### Paths -/

/-- Where the walk along a path begins. -/
def origin (start : Location) (p : Path) : Location := if p.isAbsolute then [] else start

/-- Paths that can be walked at all. -/
structure Walkable (p : Path) : Prop where
  noZero : p.bytes.contains 0 = false
  nonempty : p.bytes ≠ []
  short : p.bytes.length < pathLimit

section
variable {t t' : FileTree} {start location : Location} {aim : Aim} {p : Path} {found : Found}

theorem locate_of_walkable (h : Walkable p) (t : FileTree) (start : Location) (aim : Aim) :
    t.locate start aim p =
      (t.walk aim maxLinks (origin start p) (stepsOf p)).mapError .os := by
  rw [locate, h.noZero, if_neg Bool.false_ne_true, if_neg h.nonempty,
    if_neg (Nat.not_le.mpr h.short)]
  rfl

theorem locate_eq_ok_iff : t.locate start aim p = .ok found ↔
    Walkable p ∧ Walks t aim maxLinks (origin start p) (stepsOf p) found := by
  rw [← walk_eq_ok_iff]
  constructor
  · intro h
    have hp : Walkable p := by
      unfold locate at h
      split at h
      · cases h
      split at h
      · cases h
      split at h
      · cases h
      · next hzero hempty hlong => exact ⟨by simpa using hzero, hempty, Nat.lt_of_not_le hlong⟩
    rw [locate_of_walkable hp] at h
    refine ⟨hp, ?_⟩
    cases hw : t.walk aim maxLinks (origin start p) (stepsOf p) with
    | error e => rw [hw] at h; cases h
    | ok found' => rw [hw] at h; exact congrArg _ (Except.ok.inj h)
  · rintro ⟨hp, hw⟩
    rw [locate_of_walkable hp, hw]
    rfl

theorem locate_grows (h : t.locate start aim p = .ok (.present location)) (hgrows : t.Grows t') :
    t'.locate start aim p = .ok (.present location) := by
  obtain ⟨hp, hw⟩ := locate_eq_ok_iff.mp h
  exact locate_eq_ok_iff.mpr ⟨hp, hw.grows hgrows rfl⟩

theorem locate_find (h : t.locate start .openFile p = .ok found) :
    t.locate start .find p = .ok found := by
  obtain ⟨hp, hw⟩ := locate_eq_ok_iff.mp h
  exact locate_eq_ok_iff.mpr ⟨hp, hw.find⟩

theorem node?_of_locate_absent (h : t.locate start aim p = .ok (.absent location)) :
    t.node? location = none ∧ location ≠ [] := by
  obtain ⟨-, hw⟩ := locate_eq_ok_iff.mp h
  exact hw.node?_absent rfl

theorem locate_put (h : t.locate start aim p = .ok (.absent location)) (hgrows : t.Grows t')
    {node : Node} (hnode : t'.node? location = some node) (hfits : Fits aim node) :
    t'.locate start .find p = .ok (.present location) := by
  obtain ⟨hp, hw⟩ := locate_eq_ok_iff.mp h
  exact locate_eq_ok_iff.mpr ⟨hp, hw.put hgrows rfl hnode hfits⟩

/-! ### Reading -/

theorem nodeAt_eq_ok_iff {node : Node} : t.nodeAt start p = .ok node ↔
    ∃ location, t.locate start .find p = .ok (.present location) ∧
      t.node? location = some node := by
  unfold nodeAt
  cases hl : t.locate start .find p with
  | error e => simp [bind, Except.bind]
  | ok found =>
    cases found with
    | absent location => simp [bind, Except.bind]
    | present location => cases hn : t.node? location <;> simp [bind, Except.bind, hn]

theorem read_eq_ok_iff {content : Bytes} : t.read start p = .ok content ↔
    ∃ location, t.locate start .find p = .ok (.present location) ∧
      t.node? location = some (.file content) := by
  rw [← nodeAt_eq_ok_iff, read]
  rcases t.nodeAt start p with e | node
  · simp [bind, Except.bind]
  · cases node <;> simp [bind, Except.bind, pure, Except.pure]

/-- A file is still there when the tree has grown, with all it held at the beginning. -/
theorem read_grows {content : Bytes} (h : t.read start p = .ok content) (hgrows : t.Grows t') :
    ∃ more, t'.read start p = .ok (content ++ more) := by
  obtain ⟨location, hl, hn⟩ := read_eq_ok_iff.mp h
  obtain ⟨_, hn', hmore⟩ := hgrows _ _ hn
  cases hmore with
  | file _ more => exact ⟨more, read_eq_ok_iff.mpr ⟨location, locate_grows hl hgrows, hn'⟩⟩

theorem kind_eq_directory_iff : t.kind start p = .ok .directory ↔
    ∃ location, t.locate start .find p = .ok (.present location) ∧
      t.node? location = some .directory := by
  rw [← nodeAt_eq_ok_iff, kind]
  rcases t.nodeAt start p with e | node
  · simp [bind, Except.bind]
  · cases node <;> simp [bind, Except.bind, pure, Except.pure]

theorem isDirectory_iff : t.isDirectory start p = true ↔
    ∃ location, t.locate start .find p = .ok (.present location) ∧
      t.node? location = some .directory := by
  rw [← kind_eq_directory_iff, isDirectory]
  cases t.kind start p with
  | error e => simp
  | ok kind => cases kind <;> simp

/-! ### Appending -/

/-- The bytes at a location, none where there is no file. -/
def contentAt (t : FileTree) (location : Location) : Bytes :=
  match t.node? location with
  | some (.file content) => content
  | _ => []

/-- What appending to the file at a location leaves. -/
def appendAt (t : FileTree) (location : Location) (content : Bytes) : FileTree :=
  t.put location (.file (t.contentAt location ++ content))

/-- A place a file can be opened at: there is one, or nothing at all. -/
def Open (t : FileTree) (location : Location) : Prop :=
  location ≠ [] ∧ (t.node? location = none ∨ ∃ content, t.node? location = some (.file content))

theorem Open.grows (h : t.Open location) (content : Bytes) :
    t.Grows (t.appendAt location content) := by
  refine grows_put h.1 fun old hold => ?_
  rcases h.2 with hnone | ⟨content', hfile⟩
  · rw [hnone] at hold
    cases hold
  · rw [hfile] at hold
    cases hold
    simpa [contentAt, hfile] using Node.Grows.file content' content

theorem node?_appendAt_self (h : location ≠ []) (content : Bytes) :
    (t.appendAt location content).node? location =
      some (.file (t.contentAt location ++ content)) := node?_put_self t h _

theorem node?_appendAt_of_ne {other : Location} (h : other ≠ location) (content : Bytes) :
    (t.appendAt location content).node? other = t.node? other := node?_put_of_ne t h _

/-- What is appended is read at the end of the file. -/
theorem read_appendAt (h : t.Open location) (hl : t.locate start .find p = .ok (.present location))
    (content : Bytes) :
    (t.appendAt location content).read start p = .ok (t.contentAt location ++ content) :=
  read_eq_ok_iff.mpr ⟨location, locate_grows hl (h.grows content), node?_appendAt_self h.1 content⟩

/-- An append changes the file its path leads to, and that file alone. -/
theorem append_eq_ok {content : Bytes} (h : t.append start p content = .ok t') :
    ∃ location, t.Open location ∧ t' = t.appendAt location content ∧
      t'.locate start .find p = .ok (.present location) := by
  unfold append modify at h
  cases hl : t.locate start .openFile p with
  | error e => simp [hl, bind, Except.bind] at h
  | ok found =>
    cases found with
    | absent location =>
      obtain ⟨hnone, hne⟩ := node?_of_locate_absent hl
      have hopen : t.Open location := ⟨hne, .inl hnone⟩
      have ht : t' = t.appendAt location content := by
        simpa [hl, bind, Except.bind, appendAt, contentAt, hnone, pure, Except.pure,
          eq_comm] using h
      refine ⟨location, hopen, ht, ?_⟩
      rw [ht]
      exact locate_put hl (hopen.grows content) (node?_appendAt_self hne content) (by simp [Fits])
    | present location =>
      cases hn : t.node? location with
      | none => simp [hl, hn, bind, Except.bind] at h
      | some node =>
        cases node with
        | directory => simp [hl, hn, bind, Except.bind] at h
        | link target => simp [hl, hn, bind, Except.bind] at h
        | file old =>
          have hne : location ≠ [] := ne_nil_of_node? (t := t) (by rw [hn]; simp)
          have hopen : t.Open location := ⟨hne, .inr ⟨old, hn⟩⟩
          have ht : t' = t.appendAt location content := by
            simpa [hl, hn, bind, Except.bind, appendAt, contentAt, pure, Except.pure, eq_comm]
              using h
          refine ⟨location, hopen, ht, ?_⟩
          rw [ht]
          exact locate_grows (locate_find hl) (hopen.grows content)

/-! ### Making directories -/

/-- Gaps in the tree have been filled with directories, each of them where one of the paths
leads to. -/
structure Fills (t t' : FileTree) (start : Location) (paths : List Path) : Prop where
  grows : t.Grows t'
  filled : ∀ location, t'.node? location = t.node? location ∨
    (t.node? location = none ∧ t'.node? location = some .directory ∧
      ∃ p ∈ paths, t'.locate start .find p = .ok (.present location))

theorem Fills.refl (t : FileTree) (start : Location) (paths : List Path) :
    Fills t t start paths := ⟨.refl t, fun _ => .inl rfl⟩

theorem Fills.trans {u v : FileTree} {paths : List Path} (h : Fills t u start paths)
    (h' : Fills u v start paths) : Fills t v start paths := by
  refine ⟨h.grows.trans h'.grows, fun location => ?_⟩
  rcases h'.filled location with hsame | ⟨hnone, hdir, hpath⟩
  · rcases h.filled location with hsame' | ⟨hnone', hdir', p, hp, hl⟩
    · exact .inl (hsame.trans hsame')
    · exact .inr ⟨hnone', hsame.trans hdir', p, hp, locate_grows hl h'.grows⟩
  · rcases h.filled location with hsame' | ⟨-, hdir', -⟩
    · exact .inr ⟨hsame' ▸ hnone, hdir, hpath⟩
    · rw [hdir'] at hnone
      cases hnone

theorem Fills.subset {paths paths' : List Path} (h : Fills t t' start paths)
    (hsub : ∀ p ∈ paths, p ∈ paths') : Fills t t' start paths' := by
  refine ⟨h.grows, fun location => (h.filled location).imp id ?_⟩
  rintro ⟨hnone, hdir, p, hp, hl⟩
  exact ⟨hnone, hdir, p, hsub p hp, hl⟩

theorem makeDirectory_eq_ok (h : t.makeDirectory start p = .ok t') : ∃ location,
    t.node? location = none ∧ location ≠ [] ∧ t' = t.put location .directory ∧
      t.locate start .makeDirectory p = .ok (.absent location) ∧
      t'.locate start .find p = .ok (.present location) := by
  unfold makeDirectory at h
  cases hl : t.locate start .makeDirectory p with
  | error e => simp [hl, bind, Except.bind] at h
  | ok found =>
    cases found with
    | present location => simp [hl, bind, Except.bind] at h
    | absent location =>
      obtain ⟨hnone, hne⟩ := node?_of_locate_absent hl
      have ht : t' = t.put location .directory := by
        simpa [hl, bind, Except.bind, pure, Except.pure, eq_comm] using h
      refine ⟨location, hnone, hne, ht, rfl, ?_⟩
      rw [ht]
      have hgrows : t.Grows (t.put location .directory) :=
        grows_put hne (by simp [hnone])
      exact locate_put hl hgrows (node?_put_self t hne _) rfl

theorem makeDirectory_fills (h : t.makeDirectory start p = .ok t') : Fills t t' start [p] := by
  obtain ⟨location, hnone, hne, rfl, -, hl⟩ := makeDirectory_eq_ok h
  refine ⟨grows_put hne (by simp [hnone]), fun other => ?_⟩
  by_cases heq : other = location
  · subst heq
    exact .inr ⟨hnone, node?_put_self t hne _, p, by simp, hl⟩
  · exact .inl (node?_put_of_ne t heq _)

/-- What comes of making one directory: it is new, or it is refused, which does not matter where
it is there already. -/
inductive Makes (t : FileTree) (start : Location) (p : Path) :
    FileTree → Except FileFault Unit → Prop
  | new {made} : t.makeDirectory start p = .ok made → Makes t start p made (.ok ())
  | there {e} : t.makeDirectory start p = .error e → t.isDirectory start p = true →
      Makes t start p t (.ok ())
  | refused {e} : t.makeDirectory start p = .error e → t.isDirectory start p = false →
      Makes t start p t (.error e)

theorem Makes.fills {answer : Except FileFault Unit} (h : Makes t start p t' answer) :
    Fills t t' start [p] := by
  cases h with
  | new hmade => exact makeDirectory_fills hmade
  | there => exact .refl t start _
  | refused => exact .refl t start _

theorem makes_of_refused {e : FileFault} (h : t.makeDirectory start p = .error e) :
    Makes t start p t (if t.isDirectory start p then .ok () else .error e) := by
  split
  · next hdir => exact .there h hdir
  · next hdir => exact .refused h (Bool.eq_false_iff.mpr hdir)

/-- How directories are made along a list of paths: the first one right away, unless something
is missing above it; then those behind it, and the first one once more. -/
inductive MakesAlong (t : FileTree) (start : Location) :
    List Path → FileTree → Except FileFault Unit → Prop
  | nil : MakesAlong t start [] t (.ok ())
  | empty {p others} : p.bytes = [] → MakesAlong t start (p :: others) t (.ok ())
  | first {p others u answer} : p.bytes ≠ [] →
      t.makeDirectory start p ≠ .error (.os .notFound) → Makes t start p u answer →
      MakesAlong t start (p :: others) u answer
  | refused {p others u e} : p.bytes ≠ [] → t.makeDirectory start p = .error (.os .notFound) →
      MakesAlong t start others u (.error e) → MakesAlong t start (p :: others) u (.error e)
  | again {p others u v answer} : p.bytes ≠ [] →
      t.makeDirectory start p = .error (.os .notFound) → MakesAlong t start others u (.ok ()) →
      Makes u start p v answer → MakesAlong t start (p :: others) v answer

theorem makesAlong (t : FileTree) (start : Location) (paths : List Path) :
    MakesAlong t start paths (t.makeAlong start paths).1 (t.makeAlong start paths).2 := by
  induction paths with
  | nil => exact .nil
  | cons p others ih =>
    rw [makeAlong]
    split
    · next hempty => exact .empty hempty
    next hne =>
    split
    · next made hmade => exact .first hne (by simp [hmade]) (.new hmade)
    · next hmissing =>
      split
      · next u e hothers =>
        rw [hothers] at ih
        exact .refused hne hmissing ih
      · next u hothers =>
        rw [hothers] at ih
        split
        · next made hmade => exact .again hne hmissing ih (.new hmade)
        · next e hrefused => exact .again hne hmissing ih (makes_of_refused hrefused)
    · next e hcause hrefused =>
      exact .first hne (fun hmissing => hcause (Except.error.inj (hrefused.symm.trans hmissing)))
        (makes_of_refused hrefused)

theorem makesAlong_of_eq {paths : List Path} {answer : Except FileFault Unit}
    (h : t.makeAlong start paths = (t', answer)) : MakesAlong t start paths t' answer := by
  have hmakes := makesAlong t start paths
  rwa [h] at hmakes

theorem MakesAlong.fills {paths : List Path} {answer : Except FileFault Unit}
    (h : MakesAlong t start paths t' answer) : Fills t t' start paths := by
  induction h with
  | nil => exact .refl t start _
  | empty => exact .refl t start _
  | first _ _ hmakes => exact hmakes.fills.subset (by simp)
  | refused _ _ _ ih => exact ih.subset (by simp +contextual)
  | again _ _ _ hmakes ih =>
    exact (ih.subset (by simp +contextual)).trans (hmakes.fills.subset (by simp))

/-- Making directories fills the gaps there are along the path, and nothing else. -/
theorem makeDirectories_fills (t : FileTree) (start : Location) (p : Path) :
    Fills t (t.makeDirectories start p).1 start p.ancestors :=
  (makesAlong t start p.ancestors).fills

end
end FileTree
end SchemaReport
