import SchemaReport.World

/-! The log has no say.

No answer of a world depends on what has been logged or complained of so far, so a script comes to
the same in two worlds that differ in nothing else (`run_relogged`), and it makes no difference
whether its events are kept in the log or turned into lines of standard error (`run_withLog`). -/
namespace SchemaReport

/-- The world with another log and other complaints. -/
def World.relogged (w : World) (events : List Event) (complaints : String) : World :=
  { w with events := events, complaints := complaints }

/-- A request is answered without a look at the log. -/
theorem World.answer_relogged (w : World) (events : List Event) (complaints : String)
    (r : Request) : ∃ events' complaints', (w.relogged events complaints).answer r =
      ((w.answer r).1.relogged events' complaints', (w.answer r).2) := by
  have hchanged : ∀ result, (w.relogged events complaints).changed result =
      ((w.changed result).1.relogged events complaints, (w.changed result).2) := by
    intro result
    cases result <;> rfl
  cases r with
  | append path content => exact ⟨events, complaints, hchanged _⟩
  | write path content => exact ⟨events, complaints, hchanged _⟩
  | log more => exact ⟨events ++ more, complaints, rfl⟩
  | complain text => exact ⟨events, complaints ++ text, rfl⟩
  | _ => exact ⟨events, complaints, rfl⟩

namespace Script
variable {α : Type}

/-- A script comes to the same whatever has been logged before. -/
theorem run_relogged (s : Script α) (w : World) (events : List Event) (complaints : String) :
    ∃ events' complaints', s.run (w.relogged events complaints) =
      ((s.run w).1.relogged events' complaints', (s.run w).2) := by
  induction s generalizing w events complaints with
  | done value => exact ⟨events, complaints, rfl⟩
  | ask r next ih =>
    obtain ⟨events', complaints', h⟩ := w.answer_relogged events complaints r
    rw [run_ask, h]
    exact ih _ _ events' complaints'

/-- Only events are turned into something else. -/
theorem withLog_ask {r : Request} (h : ∀ events, r ≠ .log events) (admitted : Event → Bool)
    (next : r.Answer → Script α) :
    (ask r next).withLog admitted = ask r fun answer => (next answer).withLog admitted := by
  cases r with
  | log events => exact absurd rfl (h events)
  | _ => rfl

/-- A script comes to the same whether its events are kept or written to standard error. -/
theorem run_withLog (admitted : Event → Bool) (s : Script α) (w : World) (events : List Event)
    (complaints : String) : ∃ events' complaints',
      (s.withLog admitted).run (w.relogged events complaints) =
        ((s.run w).1.relogged events' complaints', (s.run w).2) := by
  induction s generalizing w events complaints with
  | done value => exact ⟨events, complaints, rfl⟩
  | ask r next ih =>
    by_cases hr : ∃ more, r = .log more
    · obtain ⟨more, rfl⟩ := hr
      exact ih () { w with events := w.events ++ more } _ _
    · rw [withLog_ask fun more h => hr ⟨more, h⟩, run_ask, run_ask]
      obtain ⟨events', complaints', h⟩ := w.answer_relogged events complaints r
      rw [h]
      exact ih _ _ events' complaints'

end Script
end SchemaReport
