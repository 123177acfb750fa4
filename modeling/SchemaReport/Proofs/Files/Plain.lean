import SchemaReport.Proofs.Files.Growing
import SchemaReport.Proofs.Files.Pieces

/-! Trees without links.

Where no name is a link, a path leads from directory to directory (`enter`) until its last name,
and only there it matters what the path is walked for (`walk_enter`, `Walks.end_cases`). Such
trees stay what they are when files are appended to and directories are made (`Rooted.append`,
`Rooted.makeDirectories`). -/
namespace SchemaReport
open Text

def Node.isLink : Node → Bool
  | .link _ => true
  | .directory | .file _ => false

namespace FileTree

/-- No name is a link. -/
def Unlinked (t : FileTree) : Prop := ∀ location target, t.node? location ≠ some (.link target)

/-- Every node is a file or a directory, and lies in a directory. -/
structure Rooted (t : FileTree) : Prop where
  unlinked : t.Unlinked
  inDirectory : ∀ location node, t.node? location = some node →
    t.node? location.dropLast = some .directory

/-- A tree as it stands on a disk: files and directories, each in its directory, once and by
a name. -/
structure Plain (t : FileTree) : Prop extends Rooted t where
  once : (t.nodes.map Prod.fst).Nodup
  named : ∀ entry ∈ t.nodes, ∀ n ∈ entry.1, Path.IsName n

/-- A tree is plain when its entries are. -/
theorem plain_of_nodes {t : FileTree} (h : ∀ entry ∈ t.nodes, entry.2.isLink = false ∧
      t.node? entry.1.dropLast = some .directory ∧ ∀ n ∈ entry.1, Path.IsName n)
    (once : (t.nodes.map Prod.fst).Nodup) : t.Plain := by
  have hmem : ∀ location node, location ≠ [] → t.node? location = some node →
      (location, node) ∈ t.nodes := by
    intro location node hne hnode
    rw [node?, if_neg hne] at hnode
    obtain ⟨front, rest, hnodes, -⟩ := List.lookup_eq_some_iff.mp hnode
    simp [hnodes]
  refine { once, named := fun entry he => (h entry he).2.2, unlinked := ?_, inDirectory := ?_ }
  · intro location target hnode
    by_cases hne : location = []
    · rw [hne, node?_nil] at hnode
      cases hnode
    · exact absurd (h _ (hmem location _ hne hnode)).1 (by simp [Node.isLink])
  · intro location node hnode
    by_cases hne : location = []
    · rw [hne]
      exact t.node?_nil
    · exact (h _ (hmem location node hne hnode)).2.1

/-! ### Entering directories -/

/-- Whether a step leads anywhere. -/
def Step.isTurn : Step → Bool
  | .name _ | .above => true
  | .here | .slash => false

/-- The directory that steps lead to, by directories only. -/
def enter (t : FileTree) (here : Location) : List Step → Except OsError Location
  | [] => .ok here
  | .here :: rest => t.enter here rest
  | .slash :: rest => t.enter here rest
  | .above :: rest => t.enter here.dropLast rest
  | .name n :: rest =>
    if maxName < n.length then .error .nameTooLong
    else match t.node? (here ++ [n]) with
      | none => .error .notFound
      | some .directory => t.enter (here ++ [n]) rest
      | some _ => .error .notDirectory

theorem enter_name (t : FileTree) (here : Location) (n : Name) (rest : List Step) :
    t.enter here (.name n :: rest) =
      if maxName < n.length then .error .nameTooLong
      else match t.node? (here ++ [n]) with
        | none => .error .notFound
        | some .directory => t.enter (here ++ [n]) rest
        | some _ => .error .notDirectory := rfl

section
variable {t t' : FileTree} {aim : Aim} {links : Nat} {here location : Location} {n : Name}
  {steps rest : List Step}

theorem enter_name_eq_ok_iff : t.enter here (.name n :: rest) = .ok location ↔
    n.length ≤ maxName ∧ t.node? (here ++ [n]) = some .directory ∧
      t.enter (here ++ [n]) rest = .ok location := by
  rw [enter_name]
  constructor
  · intro h
    split at h
    · cases h
    next hshort =>
    split at h
    · cases h
    · next hdir => exact ⟨Nat.le_of_not_lt hshort, hdir, h⟩
    · cases h
  · rintro ⟨hshort, hdir, h⟩
    rw [if_neg (Nat.not_lt.mpr hshort), hdir]
    exact h

/-- The first step is taken before the others. -/
theorem enter_cons (t : FileTree) (here : Location) (step : Step) (rest : List Step) :
    t.enter here (step :: rest) =
      (t.enter here [step]).bind fun there => t.enter there rest := by
  cases step with
  | here => rfl
  | slash => rfl
  | above => rfl
  | name n =>
    rw [enter_name, enter_name]
    split
    · rfl
    · split <;> rfl

theorem enter_append (t : FileTree) (here : Location) (a b : List Step) :
    t.enter here (a ++ b) = (t.enter here a).bind fun there => t.enter there b := by
  induction a generalizing here with
  | nil => rfl
  | cons step rest ih =>
    rw [List.cons_append, enter_cons, enter_cons t here step rest]
    cases t.enter here [step] with
    | error cause => rfl
    | ok there => exact ih there

/-- Steps that lead nowhere may be left out. -/
theorem enter_filter (t : FileTree) (here : Location) (steps : List Step) :
    t.enter here (steps.filter Step.isTurn) = t.enter here steps := by
  induction steps generalizing here with
  | nil => rfl
  | cons step rest ih =>
    cases step with
    | here => exact ih here
    | slash => exact ih here
    | above => exact ih here.dropLast
    | name n =>
      rw [List.filter_cons_of_pos rfl, enter_cons, enter_cons t here (.name n) rest]
      simp only [ih]

/-- What has been entered, or found not to be a directory, stays so while the tree grows. -/
theorem enter_grows (hgrows : t.Grows t') (h : t.enter here steps ≠ .error .notFound) :
    t'.enter here steps = t.enter here steps := by
  induction steps generalizing here with
  | nil => rfl
  | cons step rest ih =>
    cases step with
    | here => exact ih h
    | slash => exact ih h
    | above => exact ih h
    | name n =>
      rw [enter_name] at h ⊢
      rw [enter_name]
      split
      · rfl
      · next hshort =>
        rw [if_neg hshort] at h
        cases hnode : t.node? (here ++ [n]) with
        | none =>
          rw [hnode] at h
          exact absurd rfl h
        | some node =>
          obtain ⟨_, hnode', hmore⟩ := hgrows _ _ hnode
          rw [hnode] at h
          rw [hnode']
          cases hmore with
          | directory => exact ih h
          | link target => rfl
          | file content more => rfl

/-- What is entered is a directory, if one starts in a directory. -/
theorem node?_of_enter (hroot : t.Rooted) (hhere : t.node? here = some .directory)
    (h : t.enter here steps = .ok location) : t.node? location = some .directory := by
  induction steps generalizing here with
  | nil => exact Except.ok.inj h ▸ hhere
  | cons step rest ih =>
    cases step with
    | here => exact ih hhere h
    | slash => exact ih hhere h
    | above => exact ih (hroot.inDirectory here _ hhere) h
    | name n =>
      obtain ⟨-, hdir, hrest⟩ := enter_name_eq_ok_iff.mp h
      exact ih hdir hrest

/-! ### Walks without links -/

/-- Up to a name, only directories matter, and not what the path is walked for. -/
theorem walk_enter (hlinks : t.Unlinked) (here : Location) (steps rest : List Step) (n : Name) :
    t.walk aim links here (steps ++ .name n :: rest) =
      (t.enter here steps).bind fun there => t.walk aim links there (.name n :: rest) := by
  induction steps generalizing here with
  | nil => rfl
  | cons step others ih =>
    cases step with
    | here =>
      rw [List.cons_append, walk_here, ih]
      rfl
    | slash =>
      rw [List.cons_append, walk_slash, ih]
      rfl
    | above =>
      rw [List.cons_append, walk_above, ih]
      rfl
    | name m =>
      have hslash : others ++ .name n :: rest ≠ [.slash] := by cases others <;> simp
      rw [List.cons_append, walk_name, if_neg (by simp [hslash]), enter_name]
      split
      · rfl
      · cases hnode : t.node? (here ++ [m]) with
        | none => simp [hslash, Except.bind]
        | some node =>
          cases node with
          | directory => exact ih (here ++ [m])
          | file content => simp [Except.bind]
          | link target => exact absurd hnode (hlinks _ _)

/-- A walk that finds something has entered a directory, or has come to a file by its last
name. -/
theorem Walks.end_cases {found : Found} (hroot : t.Rooted)
    (h : Walks t .find links here steps found) (hfound : found = .present location)
    (hhere : t.node? here = some .directory) :
    t.enter here steps = .ok location ∨
    ∃ front n there content, steps.filter Step.isTurn = front ++ [.name n] ∧
      t.enter here front = .ok there ∧ location = there ++ [n] ∧
      t.node? location = some (.file content) := by
  induction h with
  | arrived =>
    cases hfound
    exact .inl rfl
  | here _ ih => exact ih hfound hhere
  | slash _ ih => exact ih hfound hhere
  | above _ ih =>
    rcases ih hfound (hroot.inDirectory _ _ hhere) with
      henter | ⟨front, n, there, content, hsteps, henter, hfile⟩
    · exact .inl henter
    · exact .inr ⟨.above :: front, n, there, content, congrArg _ hsteps, henter, hfile⟩
  | missing => cases hfound
  | directory hadmits hdir _ ih =>
    have hstep : ∀ rest, t.enter _ (.name _ :: rest) = t.enter (_ ++ [_]) rest := fun rest => by
      rw [enter_name, if_neg (Nat.not_lt.mpr hadmits.2), hdir]
    rcases ih hfound hdir with henter | ⟨front, m, there, content, hsteps, henter, hfile⟩
    · exact .inl ((hstep _).trans henter)
    · exact .inr ⟨.name _ :: front, m, there, content, congrArg _ hsteps, (hstep _).trans henter,
        hfile⟩
  | file hadmits hfile =>
    cases hfound
    exact .inr ⟨[], _, _, _, rfl, rfl, rfl, hfile⟩
  | blocked _ _ hblocks => exact absurd hblocks.1 (by simp)
  | link _ hlink => exact absurd hlink (hroot.unlinked _ _)

/-- What is missing is missing from a directory. -/
theorem Walks.inDirectory {found : Found} (hroot : t.Rooted)
    (h : Walks t aim links here steps found) (hfound : found = .absent location)
    (hhere : t.node? here = some .directory) : t.node? location.dropLast = some .directory := by
  induction h with
  | arrived => cases hfound
  | file => cases hfound
  | blocked => cases hfound
  | here _ ih => exact ih hfound hhere
  | slash _ ih => exact ih hfound hhere
  | above _ ih => exact ih hfound (hroot.inDirectory _ _ hhere)
  | missing =>
    cases hfound
    rw [List.dropLast_concat]
    exact hhere
  | directory _ hdir _ ih => exact ih hfound hdir
  | link _ hlink => exact absurd hlink (hroot.unlinked _ _)

end

/-! ### Paths -/

theorem isTurn_stepOf? (piece : Bytes) :
    (stepOf? piece).filter Step.isTurn = Path.turn? piece := by
  by_cases hempty : piece = []
  · simp [stepOf?, Path.turn?, Path.isIdle, hempty]
  · by_cases hdot : piece = [Path.dot]
    · simp [stepOf?, Path.turn?, Path.isIdle, hdot, Option.filter, Step.isTurn]
    · by_cases habove : piece = Path.above
      · simp [stepOf?, Path.turn?, Path.isIdle, habove, Path.above, Option.filter, Step.isTurn]
      · simp [stepOf?, Path.turn?, Path.isIdle, hempty, hdot, habove, Option.filter, Step.isTurn]

theorem filter_filterMap_stepOf? (pieces : List Bytes) :
    (pieces.filterMap stepOf?).filter Step.isTurn = Path.turnsOf pieces := by
  rw [List.filter_filterMap]
  exact List.filterMap_congr fun piece _ => isTurn_stepOf? piece

/-- The turns of a path are those of its steps that lead anywhere. -/
theorem filter_stepsOf (p : Path) : (stepsOf p).filter Step.isTurn = p.turns := by
  unfold stepsOf
  dsimp only
  split
  · rw [List.filter_append, filter_filterMap_stepOf?]
    exact List.append_nil _
  · exact filter_filterMap_stepOf? _

theorem enter_turns (t : FileTree) (here : Location) (p : Path) :
    t.enter here p.turns = t.enter here (stepsOf p) := by
  rw [← filter_stepsOf, enter_filter]

theorem stepOf?_of_isName {x : Bytes} (h : Path.IsName x) : stepOf? x = some (.name x) := by
  have hdot : x ≠ [Path.dot] := by
    rintro rfl
    exact absurd h.busy (by decide)
  simp [stepOf?, h.ne_nil, hdot, h.down]

/-- A path that goes on from one path by a name ends in that name. -/
theorem stepsOf_join (p : Path) {x : Bytes} (h : Path.IsName x) : ∃ front,
    stepsOf (p.join ⟨x⟩) = front ++ [.name x] ∧ front.filter Step.isTurn = p.turns := by
  have hx : Path.split x = [x] := parts_of_not_mem h.whole
  have hlast : ∀ front, (front ++ [x]).getLast? ≠ some [] := by simp [h.ne_nil]
  rw [Path.join_eq_stand (Path.isAbsolute_eq_false_of_not_mem h.whole)]
  rcases p.stand_cases with ⟨hs, ht⟩ | ⟨front, hs, ht⟩
  · refine ⟨[], ?_, ht.symm⟩
    simp [stepsOf, hs, hx, stepOf?_of_isName h, h.ne_nil]
  · refine ⟨(Path.split front).filterMap stepOf?, ?_, (filter_filterMap_stepOf? _).trans ht⟩
    have hsplit : Path.split (p.stand ++ x) = Path.split front ++ [x] := by
      rw [hs, List.append_assoc, List.singleton_append, Path.split, parts_append_mark, ← hx]
      rfl
    simp only [stepsOf, hsplit, List.filterMap_append]
    rw [if_neg (by simp [h.ne_nil])]
    simp [stepOf?_of_isName h]

/-! ### Where a file is opened -/

section
variable {t t' : FileTree} {start location : Location} {p : Path} {x : Name}

/-- Where appending to a path puts the content. -/
def destination (t : FileTree) (start : Location) (p : Path) : Except FileFault Location :=
  match t.locate start .openFile p with
  | .error e => .error e
  | .ok (.absent location) => .ok location
  | .ok (.present location) =>
    match t.node? location with
    | some (.file _) => .ok location
    | _ => .error (.os .isDirectory)

theorem append_eq_map_destination (t : FileTree) (start : Location) (p : Path) (content : Bytes) :
    t.append start p content = (t.destination start p).map fun location =>
      t.appendAt location content := by
  unfold append modify destination
  cases hl : t.locate start .openFile p with
  | error e => rfl
  | ok found =>
    cases found with
    | absent location =>
      simp [bind, Except.bind, pure, Except.pure, Except.map, appendAt, contentAt,
        (node?_of_locate_absent hl).1]
    | present location =>
      cases hn : t.node? location with
      | none => simp [hn, bind, Except.bind, Except.map]
      | some node =>
        cases node <;>
          simp [hn, bind, Except.bind, pure, Except.pure, Except.map, appendAt, contentAt]

theorem open_of_destination (h : t.destination start p = .ok location) : t.Open location := by
  unfold destination at h
  split at h
  · cases h
  · next hl =>
    cases h
    obtain ⟨hnone, hne⟩ := node?_of_locate_absent hl
    exact ⟨hne, .inl hnone⟩
  · split at h
    · next content hfile =>
      cases h
      exact ⟨ne_nil_of_node? (t := t) (by rw [hfile]; simp), .inr ⟨content, hfile⟩⟩
    · cases h

/-- What is there is opened where it is found. -/
theorem locate_of_destination (h : t.destination start p = .ok location)
    (hthere : t.node? location ≠ none) : t.locate start .find p = .ok (.present location) := by
  unfold destination at h
  split at h
  · cases h
  · next hl =>
    cases h
    exact absurd (node?_of_locate_absent hl).1 hthere
  · next hl =>
    split at h
    · cases h
      exact locate_find hl
    · cases h

/-- What a path that ends in a name is opened at, once the directory has been entered. -/
def opened (t : FileTree) (there : Location) (x : Name) : Except OsError Location :=
  if maxName < x.length then .error .nameTooLong
  else if t.node? (there ++ [x]) = some .directory then .error .isDirectory
  else .ok (there ++ [x])

theorem destination_eq (hlinks : t.Unlinked) (hp : Walkable p) {front : List Step}
    (hsteps : stepsOf p = front ++ [.name x]) :
    t.destination start p =
      ((t.enter (origin start p) front).bind fun there => t.opened there x).mapError .os := by
  unfold destination
  rw [locate_of_walkable hp, hsteps, walk_enter hlinks]
  cases t.enter (origin start p) front with
  | error e => rfl
  | ok there =>
    simp only [Except.bind]
    rw [walk_name, if_neg (by simp), opened]
    by_cases hlong : maxName < x.length
    · rw [if_pos hlong, if_pos hlong]
      rfl
    · rw [if_neg hlong, if_neg hlong]
      cases hnode : t.node? (there ++ [x]) with
      | none => simp [Except.mapError]
      | some node =>
        cases node with
        | directory => simp [Except.mapError, hnode]
        | file content => simp [Except.mapError, hnode]
        | link target => exact absurd hnode (hlinks _ _)

/-- What keeps a path from being walked does so in every tree. -/
theorem locate_of_not_walkable (hp : ¬ Walkable p) : ∃ e, ∀ (t : FileTree) (start : Location)
    (aim : Aim), t.locate start aim p = .error e := by
  unfold locate
  by_cases hzero : p.bytes.contains 0
  · exact ⟨_, fun _ _ _ => if_pos hzero⟩
  · by_cases hempty : p.bytes = []
    · exact ⟨_, fun _ _ _ => (if_neg hzero).trans (if_pos hempty)⟩
    · have hlong : pathLimit ≤ p.bytes.length :=
        Nat.le_of_not_lt fun hshort => hp ⟨by simpa using hzero, hempty, hshort⟩
      exact ⟨_, fun _ _ _ => (if_neg hzero).trans ((if_neg hempty).trans (if_pos hlong))⟩

theorem destination_of_not_walkable (hp : ¬ Walkable p) (t t' : FileTree) :
    t'.destination start p = t.destination start p := by
  obtain ⟨e, he⟩ := locate_of_not_walkable hp
  rw [destination, destination, he, he]

/-- A file is opened at the same place in a tree that has grown, as long as nothing has become
of its own name. -/
theorem destination_grows (hlinks : t.Unlinked) (hlinks' : t'.Unlinked) (hgrows : t.Grows t')
    {front : List Step} (hsteps : stepsOf p = front ++ [.name x])
    (hentered : t.enter (origin start p) front ≠ .error .notFound)
    (hsame : ∀ there, t.enter (origin start p) front = .ok there →
      t'.node? (there ++ [x]) = t.node? (there ++ [x])) :
    t'.destination start p = t.destination start p := by
  by_cases hp : Walkable p
  · rw [destination_eq hlinks hp hsteps, destination_eq hlinks' hp hsteps,
      enter_grows hgrows hentered]
    cases hthere : t.enter (origin start p) front with
    | error e => rfl
    | ok there => simp only [Except.bind, opened, hsame there hthere]
  · exact destination_of_not_walkable hp t t'

theorem walkable_of_destination (h : t.destination start p = .ok location) : Walkable p := by
  unfold destination at h
  split at h
  · cases h
  · next hl => exact (locate_eq_ok_iff.mp hl).1
  · next hl => exact (locate_eq_ok_iff.mp hl).1

/-- Where a path that ends in a name is opened, that name is the last. -/
theorem destination_name (hlinks : t.Unlinked) {front : List Step}
    (hsteps : stepsOf p = front ++ [.name x]) (h : t.destination start p = .ok location) :
    ∃ there, t.enter (origin start p) front = .ok there ∧ location = there ++ [x] := by
  rw [destination_eq hlinks (walkable_of_destination h) hsteps] at h
  cases hthere : t.enter (origin start p) front with
  | error e =>
    rw [hthere] at h
    cases h
  | ok there =>
    rw [hthere] at h
    simp only [Except.bind, opened] at h
    split at h
    · cases h
    · split at h
      · cases h
      · cases h
        exact ⟨there, rfl, rfl⟩

/-! ### Trees that stay plain -/

/-- A new node, or another content of a file, where there is a directory for it. -/
theorem Rooted.put (h : t.Rooted) {node : Node} (hne : location ≠ [])
    (hlink : ∀ target, node ≠ .link target) (hparent : t.node? location.dropLast = some .directory)
    (hold : t.node? location ≠ some .directory) : (t.put location node).Rooted := by
  have hdir : ∀ other, t.node? other = some .directory →
      (t.put location node).node? other = some .directory := fun other hother => by
    have hne' : other ≠ location := by
      rintro rfl
      exact hold hother
    rw [node?_put_of_ne t hne']
    exact hother
  constructor
  · intro other target hother
    by_cases heq : other = location
    · rw [heq, node?_put_self t hne] at hother
      exact hlink target (Option.some.inj hother)
    · rw [node?_put_of_ne t heq] at hother
      exact h.unlinked other target hother
  · intro other node' hother
    by_cases heq : other = location
    · rw [heq]
      exact hdir _ hparent
    · rw [node?_put_of_ne t heq] at hother
      exact hdir _ (h.inDirectory other node' hother)

theorem node?_origin (hstart : t.node? start = some .directory) (p : Path) :
    t.node? (origin start p) = some .directory := by
  unfold origin
  split
  · exact node?_nil t
  · exact hstart

theorem Rooted.parent_of_absent {aim : Aim} (h : t.Rooted)
    (hstart : t.node? start = some .directory)
    (hl : t.locate start aim p = .ok (.absent location)) :
    t.node? location.dropLast = some .directory :=
  (locate_eq_ok_iff.mp hl).2.inDirectory h rfl (node?_origin hstart p)

theorem Rooted.append (h : t.Rooted) (hstart : t.node? start = some .directory) {content : Bytes}
    (happend : t.append start p content = .ok t') : t'.Rooted := by
  rw [append_eq_map_destination] at happend
  cases hd : t.destination start p with
  | error e =>
    rw [hd] at happend
    cases happend
  | ok location =>
    rw [hd] at happend
    cases happend
    have hopen := open_of_destination hd
    refine h.put hopen.1 (by simp) ?_ (by rcases hopen.2 with hnone | ⟨_, hfile⟩ <;> simp [*])
    rcases hopen.2 with hnone | ⟨old, hfile⟩
    · unfold destination at hd
      split at hd
      · cases hd
      · next hl =>
        cases hd
        exact h.parent_of_absent hstart hl
      · split at hd
        · next hfile =>
          cases hd
          rw [hnone] at hfile
          cases hfile
        · cases hd
    · exact h.inDirectory _ _ hfile

theorem Rooted.makeDirectory (h : t.Rooted) (hstart : t.node? start = some .directory)
    (hmade : t.makeDirectory start p = .ok t') : t'.Rooted := by
  obtain ⟨location, hnone, hne, rfl, hl, -⟩ := makeDirectory_eq_ok hmade
  exact h.put hne (by simp) (h.parent_of_absent hstart hl) (by simp [hnone])

theorem Makes.rooted {answer : Except FileFault Unit} (h : Makes t start p t' answer)
    (hroot : t.Rooted) (hstart : t.node? start = some .directory) : t'.Rooted := by
  cases h with
  | new hmade => exact hroot.makeDirectory hstart hmade
  | there => exact hroot
  | refused => exact hroot

theorem MakesAlong.rooted {paths : List Path} {answer : Except FileFault Unit}
    (h : MakesAlong t start paths t' answer) (hroot : t.Rooted)
    (hstart : t.node? start = some .directory) : t'.Rooted := by
  induction h with
  | nil => exact hroot
  | empty => exact hroot
  | first _ _ hmakes => exact hmakes.rooted hroot hstart
  | refused _ _ _ ih => exact ih
  | again _ _ hothers hmakes ih => exact hmakes.rooted ih (hothers.fills.grows.directory hstart)

theorem Rooted.makeDirectories (h : t.Rooted) (hstart : t.node? start = some .directory)
    (p : Path) : (t.makeDirectories start p).1.Rooted :=
  (makesAlong t start p.ancestors).rooted h hstart

end
end FileTree
end SchemaReport
