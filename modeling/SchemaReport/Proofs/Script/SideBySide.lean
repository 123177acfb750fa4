import Mathlib.Logic.Relation
import SchemaReport.World

/-! Scripts side by side.

Several scripts share one world; at any time one of them, whichever, makes its next request and
goes on with the answer (`Pool.Step`). Running the scripts one after the other is one way of doing
so (`steps_runAll`). What is true of every way is shown script by script: what holds of the world
may speak of a stage that each script has reached, and a script follows it if each of its requests,
made whenever it holds, leaves it holding, at a stage of the script's own choice
(`Script.Follows`). When all scripts do, it holds to the end (`Pool.Steps.follows`). -/
namespace SchemaReport

/-- Scripts that run side by side in one world. -/
structure Pool (α : Type) where
  world : World
  scripts : List (Script α)

namespace Pool
variable {α : Type}

/-- One of the scripts makes its next request. -/
inductive Step : Pool α → Pool α → Prop
  | ask {w : World} {scripts : List (Script α)} {i : Nat} {r : Request}
      {next : r.Answer → Script α} (h : scripts[i]? = some (.ask r next)) :
      Step ⟨w, scripts⟩ ⟨(w.answer r).1, scripts.set i (next (w.answer r).2)⟩

/-- Any number of steps. -/
def Steps : Pool α → Pool α → Prop := Relation.ReflTransGen Step

/-- The scripts are all done with these values, and leave this world. -/
def Ends (p : Pool α) (w : World) (values : List α) : Prop := p.Steps ⟨w, values.map .done⟩

theorem Steps.length_eq {p p' : Pool α} (h : p.Steps p') :
    p'.scripts.length = p.scripts.length := by
  induction h with
  | refl => rfl
  | tail _ hstep ih =>
    cases hstep with
    | ask => simpa using ih

/-- Every script ends with one value. -/
theorem Ends.length_eq {p : Pool α} {w : World} {values : List α} (h : p.Ends w values) :
    values.length = p.scripts.length := by
  simpa using Steps.length_eq h

/-! ### One after the other -/

/-- Runs scripts one after the other. -/
def runAll : List (Script α) → World → World × List α
  | [], w => (w, [])
  | s :: others, w => ((runAll others (s.run w).1).1, (s.run w).2 :: (runAll others (s.run w).1).2)

/-- A script can run to its end while the others wait. -/
theorem steps_run {scripts : List (Script α)} {i : Nat} {s : Script α} (w : World)
    (h : scripts[i]? = some s) :
    Steps ⟨w, scripts⟩ ⟨(s.run w).1, scripts.set i (.done (s.run w).2)⟩ := by
  induction s generalizing w scripts with
  | done value =>
    obtain ⟨hi, hs⟩ := List.getElem?_eq_some_iff.mp h
    rw [show Script.run (.done value) w = (w, value) from rfl, ← hs, List.set_getElem_self]
    exact .refl
  | ask r next ih =>
    have hlength : i < scripts.length := (List.getElem?_eq_some_iff.mp h).1
    have hself : (scripts.set i (next (w.answer r).2))[i]? = some (next (w.answer r).2) :=
      List.getElem?_set_self hlength
    have hnext := ih (w.answer r).2 (w.answer r).1 hself
    rw [List.set_set] at hnext
    exact .head (.ask h) hnext

/-- Steps of some scripts are steps of them among others that are done or wait. -/
theorem Steps.beside {p p' : Pool α} (h : p.Steps p') (first : Script α) :
    Steps ⟨p.world, first :: p.scripts⟩ ⟨p'.world, first :: p'.scripts⟩ := by
  induction h with
  | refl => exact .refl
  | tail _ hstep ih =>
    cases hstep with
    | @ask w scripts i r next hscript => exact .tail ih (.ask (i := i + 1) hscript)

/-- Running one script after the other is one way of running them side by side. -/
theorem steps_runAll (scripts : List (Script α)) (w : World) :
    Ends ⟨w, scripts⟩ (runAll scripts w).1 (runAll scripts w).2 := by
  induction scripts generalizing w with
  | nil => exact .refl
  | cons s others ih =>
    have hfirst : Steps ⟨w, s :: others⟩ ⟨(s.run w).1, .done (s.run w).2 :: others⟩ :=
      steps_run (i := 0) w rfl
    exact Relation.ReflTransGen.trans hfirst ((ih (s.run w).1).beside (.done (s.run w).2))

/-- Two scripts may as well run the other way round. -/
theorem ends_swapped (s s' : Script α) (w : World) :
    Ends ⟨w, [s, s']⟩ (s.run (s'.run w).1).1 [(s.run (s'.run w).1).2, (s'.run w).2] := by
  have hsecond : Steps ⟨w, [s, s']⟩ ⟨(s'.run w).1, [s, .done (s'.run w).2]⟩ :=
    steps_run (i := 1) w rfl
  have hfirst : Steps ⟨(s'.run w).1, [s, .done (s'.run w).2]⟩
      ⟨(s.run (s'.run w).1).1, [.done (s.run (s'.run w).1).2, .done (s'.run w).2]⟩ :=
    steps_run (i := 0) _ rfl
  exact hsecond.trans hfirst

/-- However scripts have begun, they can be brought to an end. -/
theorem exists_ends (p : Pool α) : ∃ w values, p.Ends w values :=
  ⟨_, _, steps_runAll p.scripts p.world⟩

end Pool

/-! ### What every script keeps -/

namespace Script
variable {α β κ : Type} {Holds : List κ → World → Prop} {i : Nat} {stage : κ}

/-- From its stage on, the script keeps what holds, whatever the others do meanwhile, and `Post`
is true of the stage and the value it ends with. -/
def Follows (Holds : List κ → World → Prop) (i : Nat) (Post : κ → α → Prop) :
    Script α → κ → Prop
  | .done value, stage => Post stage value
  | .ask r next, stage => ∀ stages w, stages[i]? = some stage → Holds stages w →
      ∃ stage', Holds (stages.set i stage') (w.answer r).1 ∧
        (next (w.answer r).2).Follows Holds i Post stage'

theorem Follows.bind {M : κ → α → Prop} {Post : κ → β → Prop} {s : Script α} {k : α → Script β}
    (h : s.Follows Holds i M stage)
    (hk : ∀ stage value, M stage value → (k value).Follows Holds i Post stage) :
    (s.bind k).Follows Holds i Post stage := by
  induction s generalizing stage with
  | done value => exact hk stage value h
  | ask r next ih =>
    intro stages w hstage hholds
    obtain ⟨stage', hholds', hnext⟩ := h stages w hstage hholds
    exact ⟨stage', hholds', ih _ hnext⟩

theorem Follows.imp {Post Post' : κ → α → Prop} {s : Script α} (h : s.Follows Holds i Post stage)
    (himp : ∀ stage value, Post stage value → Post' stage value) :
    s.Follows Holds i Post' stage := by
  induction s generalizing stage with
  | done value => exact himp stage value h
  | ask r next ih =>
    intro stages w hstage hholds
    obtain ⟨stage', hholds', hnext⟩ := h stages w hstage hholds
    exact ⟨stage', hholds', ih _ hnext⟩

/-- Where nothing is asked of the world, nothing is asked of the script. -/
theorem follows_trivial (s : Script α) :
    s.Follows (fun (_ : List κ) _ => True) i (fun _ _ => True) stage := by
  induction s generalizing stage with
  | done value => exact trivial
  | ask r next ih => exact fun stages w hstage _ => ⟨stage, trivial, ih _⟩

end Script

/-! ### Scripts that may fail -/

namespace Session
variable {α β κ : Type} {Holds : List κ → World → Prop} {i : Nat} {stage : κ}
  {Post : κ → Except Failure α → Prop}

/-- A script that may fail follows what holds; `Post` speaks of its failure, too. -/
def Follows (Holds : List κ → World → Prop) (i : Nat) (Post : κ → Except Failure α → Prop)
    (s : Session α) (stage : κ) : Prop :=
  Script.Follows Holds i Post (ExceptT.run s) stage

theorem follows_ofExcept {result : Except Failure α} (h : Post stage result) :
    Follows Holds i Post (ofExcept result) stage := h

theorem follows_pure {value : α} (h : Post stage (.ok value)) :
    Follows Holds i Post (pure value) stage := h

theorem follows_fail {e : Failure} (h : Post stage (.error e)) :
    Follows Holds i Post (fail e) stage := h

theorem follows_request {r : Request} {Post : κ → Except Failure r.Answer → Prop}
    (h : ∀ stages w, stages[i]? = some stage → Holds stages w → ∃ stage',
      Holds (stages.set i stage') (w.answer r).1 ∧ Post stage' (.ok (w.answer r).2)) :
    Follows Holds i Post (request r) stage := h

/-- What follows a failure is not run. -/
theorem Follows.bind {M : κ → Except Failure β → Prop} {s : Session β} {k : β → Session α}
    (h : Follows Holds i M s stage)
    (hok : ∀ stage value, M stage (.ok value) → Follows Holds i Post (k value) stage)
    (herror : ∀ stage e, M stage (.error e) → Post stage (.error e)) :
    Follows Holds i Post (s >>= k) stage := by
  refine Script.Follows.bind h fun stage result hmid => ?_
  cases result with
  | ok value => exact hok stage value hmid
  | error e => exact herror stage e hmid

theorem Follows.imp {Post' : κ → Except Failure α → Prop} {s : Session α}
    (h : Follows Holds i Post s stage)
    (himp : ∀ stage result, Post stage result → Post' stage result) :
    Follows Holds i Post' s stage :=
  Script.Follows.imp h himp

end Session

namespace Pool
variable {α κ : Type} {Holds : List κ → World → Prop} {Post : Nat → κ → α → Prop}

/-- Every script of the pool follows what holds, from the stage it has reached. -/
def Follows (Holds : List κ → World → Prop) (Post : Nat → κ → α → Prop) (p : Pool α)
    (stages : List κ) : Prop :=
  stages.length = p.scripts.length ∧ Holds stages p.world ∧
    ∀ i (s : Script α) stage, p.scripts[i]? = some s → stages[i]? = some stage →
      s.Follows Holds i (Post i) stage

theorem Step.follows {p p' : Pool α} (h : p.Step p') {stages : List κ}
    (hfollows : p.Follows Holds Post stages) : ∃ stages', p'.Follows Holds Post stages' := by
  obtain ⟨hlength, hholds, hall⟩ := hfollows
  cases h with
  | @ask w scripts i r next hscript =>
    have hi : i < stages.length := hlength ▸ (List.getElem?_eq_some_iff.mp hscript).1
    obtain ⟨stage', hholds', hnext⟩ := hall i _ stages[i] hscript (List.getElem?_eq_getElem hi)
      stages w (List.getElem?_eq_getElem hi) hholds
    refine ⟨stages.set i stage', by simpa using hlength, hholds', fun j s stage hs hstage => ?_⟩
    by_cases hj : i = j
    · subst hj
      rw [List.getElem?_set_self hi] at hstage
      rw [List.getElem?_set_self (hlength ▸ hi)] at hs
      cases hs
      cases hstage
      exact hnext
    · rw [List.getElem?_set_ne hj] at hs hstage
      exact hall j s stage hs hstage

/-- What every script keeps holds however they are run side by side. -/
theorem Steps.follows {p p' : Pool α} (h : p.Steps p') {stages : List κ}
    (hfollows : p.Follows Holds Post stages) : ∃ stages', p'.Follows Holds Post stages' := by
  induction h with
  | refl => exact ⟨stages, hfollows⟩
  | tail _ hstep ih =>
    obtain ⟨stages', hstages'⟩ := ih
    exact hstep.follows hstages'

/-- When all scripts are done, each of them has ended at its stage with its value. -/
theorem Ends.follows {p : Pool α} {w : World} {values : List α} (h : p.Ends w values)
    {stages : List κ} (hfollows : p.Follows Holds Post stages) :
    ∃ stages', stages'.length = values.length ∧ Holds stages' w ∧
      ∀ i value stage, values[i]? = some value → stages'[i]? = some stage → Post i stage value := by
  obtain ⟨stages', hlength, hholds, hall⟩ := Steps.follows h hfollows
  refine ⟨stages', by simpa using hlength, hholds, fun i value stage hvalue hstage => ?_⟩
  exact hall i (.done value) stage (by simp [hvalue]) hstage

end Pool
end SchemaReport
