import SchemaReport.Conversion.Failure
import SchemaReport.Log

/-! Results that come with a log. A computation may fail; what it logged up to then stays. -/
namespace SchemaReport

structure Logged (α : Type) where
  events : List Event
  result : Except Failure α

namespace Logged

def pure (value : α) : Logged α := ⟨[], .ok value⟩

def fail (e : Failure) : Logged α := ⟨[], .error e⟩

/-- Logs an event. -/
def tell (event : Event) : Logged Unit := ⟨[event], .ok ()⟩

/-- Goes on with the value of a result, if there is one; the events add up. -/
def bind (first : Logged α) (next : α → Logged β) : Logged β :=
  match first.result with
  | .error e => ⟨first.events, .error e⟩
  | .ok value => ⟨first.events ++ (next value).events, (next value).result⟩

instance : Monad Logged where
  pure := pure
  bind := bind

@[simp] theorem events_pure (value : α) : (Pure.pure value : Logged α).events = [] := rfl

@[simp] theorem result_pure (value : α) : (Pure.pure value : Logged α).result = .ok value := rfl

theorem result_bind (first : Logged α) (next : α → Logged β) :
    (first >>= next).result = first.result.bind fun value => (next value).result := by
  show (bind first next).result = _
  unfold bind
  cases first.result <;> rfl

end Logged
end SchemaReport
