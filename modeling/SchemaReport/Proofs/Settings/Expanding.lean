import SchemaReport.Proofs.Settings.References
import SchemaReport.Settings.Reading

/-! What replacing references comes to.

A text is read once, from left to right. Where a reference begins, what it stands for is put in
its place and reading goes on behind it, so nothing that was put in is ever read; any other
character stays (`Expansion.Expands`). The first reference that stands for nothing decides the
outcome. In settings this is done to four of the texts, one after the other, and to nothing else
(`Settings.ofText_expands`). -/
namespace SchemaReport
open Text

/-- A variable is set to a text. -/
def Environment.Holds (env : Environment) (name : List Char) (value : String) : Prop :=
  env.value? (String.ofList name) = some (bytesOf value)

theorem Environment.holds_iff {env : Environment} {name : List Char} {value : String} :
    env.Holds name value ↔ env.text? (String.ofList name) = some value := by
  simp [Holds, text?, Option.bind_eq_some_iff, text?_eq_some_iff]

namespace Expansion
open Reference

/-- One reading of a text: it ends with the text that is left in its place, or with the name of
the variable it cannot do without. -/
inductive Expands (env : Environment) : List Char → Except String (List Char) → Prop
  | done : Expands env [] (.ok [])
  /-- No reference begins here. -/
  | copied {c : Char} {rest : List Char} {outcome : Except String (List Char)}
      (hnone : ∀ r after, ¬ Begins (c :: rest) r after) (hrest : Expands env rest outcome) :
      Expands env (c :: rest) (outcome.map (c :: ·))
  /-- The variable is set, if only to the empty text. -/
  | valued {text after : List Char} {r : Reference} {value : String}
      {outcome : Except String (List Char)} (hbegins : Begins text r after)
      (hvalue : env.Holds r.name value) (hrest : Expands env after outcome) :
      Expands env text (outcome.map (value.toList ++ ·))
  /-- The variable is not set, and the reference says what to use. -/
  | defaulted {text after value : List Char} {r : Reference}
      {outcome : Except String (List Char)} (hbegins : Begins text r after)
      (hunset : ∀ other, ¬ env.Holds r.name other) (hdefault : r.default = some value)
      (hrest : Expands env after outcome) :
      Expands env text (outcome.map (value ++ ·))
  /-- The reference stands for nothing. -/
  | unset {text after : List Char} {r : Reference} (hbegins : Begins text r after)
      (hunset : ∀ other, ¬ env.Holds r.name other) (hdefault : r.default = none) :
      Expands env text (.error (String.ofList r.name))

variable {env : Environment}

/-! ### What a reference stands for -/

theorem resolve?_of_holds {r : Reference} {value : String} (h : env.Holds r.name value) :
    resolve? env r = some value := by
  rw [resolve?, Environment.holds_iff.mp h]

theorem resolve?_of_unset {r : Reference} {default : Option (List Char)}
    (h : ∀ other, ¬ env.Holds r.name other) (hdefault : r.default = default) :
    resolve? env r = default.map String.ofList := by
  have htext : env.text? (String.ofList r.name) = none :=
    Option.eq_none_iff_forall_ne_some.mpr fun other hother =>
      h other (Environment.holds_iff.mpr hother)
  rw [resolve?, htext, hdefault]
  cases default <;> rfl

/-! ### Segments -/

/-- What segments come to. -/
def outcome (env : Environment) (pieces : List Segment) : Except String (List Char) :=
  match pieces.findSome? (unresolved? env) with
  | some name => .error name
  | none => .ok (pieces.flatMap (segmentText env))

/-- How the outcome of a reading is reported. -/
def report : Except String (List Char) → Except Failure String
  | .error name => .error (.variableNotSet name)
  | .ok text => .ok (String.ofList text)

theorem report_inj : ∀ {o o' : Except String (List Char)}, report o = report o' → o = o'
  | .error _, .error _, h => by
    cases h
    rfl
  | .ok _, .ok _, h => congrArg Except.ok (String.ofList_injective (Except.ok.inj h))

theorem result_expand (env : Environment) (text : String) :
    (expand env text).result = report (outcome env (segments text.toList)) := by
  unfold expand outcome missing?
  cases (segments text.toList).findSome? (unresolved? env) <;> rfl

theorem outcome_cons_of_some {piece : Segment} {value : List Char}
    (h : unresolved? env piece = none) (htext : segmentText env piece = value)
    (pieces : List Segment) :
    outcome env (piece :: pieces) = (outcome env pieces).map (value ++ ·) := by
  unfold outcome
  rw [List.findSome?_cons, h]
  cases pieces.findSome? (unresolved? env) <;> simp [htext, Except.map]

theorem outcome_plain (c : Char) (pieces : List Segment) :
    outcome env (.plain c :: pieces) = (outcome env pieces).map (c :: ·) :=
  outcome_cons_of_some rfl rfl pieces

theorem outcome_resolved {r : Reference} {value : String} (h : resolve? env r = some value)
    (pieces : List Segment) :
    outcome env (.reference r :: pieces) = (outcome env pieces).map (value.toList ++ ·) :=
  outcome_cons_of_some (by simp [unresolved?, h]) (by simp [segmentText, h]) pieces

theorem outcome_unresolved {r : Reference} (h : resolve? env r = none) (pieces : List Segment) :
    outcome env (.reference r :: pieces) = .error (String.ofList r.name) := by
  simp [outcome, unresolved?, h]

theorem segments_of_begins {text after : List Char} {r : Reference} (h : Begins text r after) :
    segments text = .reference r :: segments after := by
  cases text with
  | nil => exact absurd h not_begins_nil
  | cons c rest =>
    obtain ⟨n, hreference, rfl⟩ := begins_iff.mp h
    rw [segments, hreference]

theorem segments_of_not_begins {c : Char} {rest : List Char}
    (h : ∀ r after, ¬ Begins (c :: rest) r after) :
    segments (c :: rest) = .plain c :: segments rest := by
  have hnone : reference? c rest = none := Option.eq_none_iff_forall_ne_some.mpr fun found hfound =>
    h found.1 _ (begins_iff.mpr ⟨found.2, hfound, rfl⟩)
  rw [segments, hnone]

/-! ### One reading -/

theorem Expands.outcome_eq {text : List Char} {o : Except String (List Char)}
    (h : Expands env text o) : outcome env (segments text) = o := by
  induction h with
  | done => simp [segments, outcome]
  | copied hnone _ ih => rw [segments_of_not_begins hnone, outcome_plain, ih]
  | valued hbegins hvalue _ ih =>
    rw [segments_of_begins hbegins, outcome_resolved (resolve?_of_holds hvalue), ih]
  | defaulted hbegins hunset hdefault _ ih =>
    rw [segments_of_begins hbegins, outcome_resolved (resolve?_of_unset hunset hdefault),
      ih, String.toList_ofList]
  | unset hbegins hunset hdefault =>
    rw [segments_of_begins hbegins,
      outcome_unresolved (resolve?_of_unset hunset hdefault)]

/-- Every text can be read. -/
theorem expands_outcome (env : Environment) (text : List Char) :
    Expands env text (outcome env (segments text)) := by
  induction text using segments.induct with
  | case1 => simpa [segments, outcome] using Expands.done
  | case2 c rest r n hreference ih =>
    have hbegins : Begins (c :: rest) r (rest.drop n) := begins_iff.mpr ⟨n, hreference, rfl⟩
    rw [segments_of_begins hbegins]
    by_cases hset : ∃ value, env.Holds r.name value
    · obtain ⟨value, hvalue⟩ := hset
      rw [outcome_resolved (resolve?_of_holds hvalue)]
      exact .valued hbegins hvalue ih
    · have hunset := not_exists.mp hset
      cases hdefault : r.default with
      | none =>
        rw [outcome_unresolved (resolve?_of_unset hunset hdefault)]
        exact .unset hbegins hunset hdefault
      | some value =>
        rw [outcome_resolved (resolve?_of_unset hunset hdefault),
          String.toList_ofList]
        exact .defaulted hbegins hunset hdefault ih
  | case3 c rest hreference ih =>
    have hnone : ∀ r after, ¬ Begins (c :: rest) r after := fun r after hbegins => by
      obtain ⟨n, hsome, -⟩ := begins_iff.mp hbegins
      rw [hreference] at hsome
      cases hsome
    rw [segments_of_not_begins hnone, outcome_plain]
    exact .copied hnone ih

theorem expands_iff_outcome {text : List Char} {o : Except String (List Char)} :
    Expands env text o ↔ outcome env (segments text) = o :=
  ⟨Expands.outcome_eq, fun h => h ▸ expands_outcome env text⟩

/-- Replacing the references of a text is reading it once. -/
theorem expands_iff {text : String} {o : Except String (List Char)} :
    Expands env text.toList o ↔ (expand env text).result = report o := by
  rw [expands_iff_outcome, result_expand]
  exact ⟨congrArg report, report_inj⟩

/-- One reading of each of several texts, up to the first that cannot do without a variable. -/
inductive ExpandsAll (env : Environment) : List String → Except String (List String) → Prop
  | nil : ExpandsAll env [] (.ok [])
  | stop {text name : String} {texts : List String} (h : Expands env text.toList (.error name)) :
      ExpandsAll env (text :: texts) (.error name)
  | cons {text : String} {texts : List String} {expanded : List Char}
      {o : Except String (List String)} (h : Expands env text.toList (.ok expanded))
      (hrest : ExpandsAll env texts o) :
      ExpandsAll env (text :: texts) (o.map (String.ofList expanded :: ·))

theorem ExpandsAll.mapM_eq {texts : List String} {o : Except String (List String)}
    (h : ExpandsAll env texts o) :
    texts.mapM (fun text => (expand env text).result) = o.mapError .variableNotSet := by
  induction h with
  | nil => rfl
  | stop h =>
    rw [List.mapM_cons, expands_iff.mp h]
    rfl
  | @cons text texts expanded o h _ ih =>
    rw [List.mapM_cons, expands_iff.mp h, ih]
    cases o <;> rfl

theorem ExpandsAll.unique {texts : List String} {o o' : Except String (List String)}
    (h : ExpandsAll env texts o) (h' : ExpandsAll env texts o') : o = o' := by
  have heq := h.mapM_eq.symm.trans h'.mapM_eq
  cases o <;> cases o' <;> simp_all [Except.mapError]

end Expansion

namespace Settings
open Expansion

/-- The texts in which references are replaced, in the order in which they are read. -/
def references (s : Settings) : List String :=
  s.output.directory.toList ++ [s.render.checkCall, s.render.checkReceiver, s.render.assignSource]

/-- Settings that say what others say, but for these texts. -/
structure Rewrites (written s : Settings) (texts : List String) : Prop where
  references : s.references = texts
  directory : s.output.directory.isSome = written.output.directory.isSome
  outputExtension : s.output.extension = written.output.extension
  input : s.input = written.input
  scan : s.scan = written.scan
  batch : s.batch = written.batch

/-- What the texts come to decides what the settings come to. -/
theorem result_expand (env : Environment) (written : Settings) :
    (∀ e, written.references.mapM (fun text => (Expansion.expand env text).result) = .error e →
      (written.expand env).result = .error e) ∧
    ∀ texts, written.references.mapM (fun text => (Expansion.expand env text).result) = .ok texts →
      ∃ s, (written.expand env).result = .ok s ∧ Rewrites written s texts := by
  obtain ⟨input, ⟨directory, extension⟩, ⟨checkCall, checkReceiver, assignSource⟩, scan, batch⟩ :=
    written
  rcases directory with _ | directory
  all_goals
    simp only [references, Settings.expand, expandDirectory, Logged.result_bind, Logged.result_pure,
      Option.toList, List.nil_append, List.cons_append, List.mapM_cons, List.mapM_nil]
  -- A directory is one text more; after it both cases are the same.
  case' some =>
    rcases (Expansion.expand env directory).result with _ | value
    · exact ⟨fun _ h => by cases h; rfl, nofun⟩
  all_goals
    cases (Expansion.expand env checkCall).result with
    | error => exact ⟨fun _ h => by cases h; rfl, nofun⟩
    | ok =>
      cases (Expansion.expand env checkReceiver).result with
      | error => exact ⟨fun _ h => by cases h; rfl, nofun⟩
      | ok =>
        cases (Expansion.expand env assignSource).result with
        | error => exact ⟨fun _ h => by cases h; rfl, nofun⟩
        | ok => exact ⟨nofun, fun texts h => ⟨_, rfl, Except.ok.inj h, rfl, rfl, rfl, rfl, rfl⟩⟩

theorem rewrites_of_expand {env : Environment} {written s : Settings}
    (h : (written.expand env).result = .ok s) : Rewrites written s s.references := by
  obtain ⟨hstop, hgo⟩ := result_expand env written
  cases htexts : written.references.mapM fun text => (Expansion.expand env text).result with
  | error e =>
    rw [hstop e htexts] at h
    cases h
  | ok texts =>
    obtain ⟨s', hs', hrewrites⟩ := hgo texts htexts
    rw [hs'] at h
    cases h
    exact hrewrites.references ▸ hrewrites

/-- The settings a text describes, once it is known what their references come to. -/
theorem result_ofText {env : Environment} {text : String} {written : Settings}
    (h : parse? text = some written) : (ofText env text).result =
      (written.expand env).result.bind fun s => s.checkExtension.result.map fun _ => s := by
  unfold ofText
  rw [h]
  simp only [Logged.result_bind]
  cases (written.expand env).result with
  | error => rfl
  | ok s =>
    cases hcheck : s.checkExtension.result <;>
      simp [Logged.tell, Except.bind, Except.map, hcheck]

end Settings
end SchemaReport
