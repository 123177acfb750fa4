/-! Points in time as reports show them, and clocks that hand them out. A clock is the
sequence of its readings together with the number of readings taken, so that what a
computation learns from the clock, and how often it looks, are both part of its value. -/
namespace SchemaReport

/-- A date and a time of day, without a zone. -/
structure Timestamp where
  year : Int
  month : Nat
  day : Nat
  hour : Nat
  minute : Nat
  second : Nat
  deriving DecidableEq, Repr

namespace Timestamp

/-- A number with zeros in front, `width` digits wide or wider. -/
def digits (width n : Nat) : String :=
  let text := toString n
  String.ofList (List.replicate (width - text.length) '0') ++ text

/-- Four digits at least; a year that has more, or that lies before year zero, shows its
sign. -/
def yearText (year : Int) : String :=
  if year < 0 then "-" ++ digits 4 year.natAbs
  else if 9999 < year then "+" ++ digits 4 year.natAbs
  else digits 4 year.natAbs

/-- Year, month and day, a blank, and the time of day. -/
def text (t : Timestamp) : String :=
  yearText t.year ++ "-" ++ digits 2 t.month ++ "-" ++ digits 2 t.day ++ " " ++
    digits 2 t.hour ++ ":" ++ digits 2 t.minute ++ ":" ++ digits 2 t.second

example : text ⟨2024, 5, 6, 7, 8, 9⟩ = "2024-05-06 07:08:09" := by decide +kernel
example : yearText 10000 = "+10000" ∧ yearText (-1) = "-0001" ∧ yearText 0 = "0000" := by
  decide +kernel

end Timestamp

/-- A clock: its readings in order, and how many of them have been taken. -/
structure Clock where
  readings : Nat → Timestamp
  taken : Nat

namespace Clock

/-- The reading a look at the clock gives. -/
def now (clock : Clock) : Timestamp := clock.readings clock.taken

/-- The clock after one look at it. -/
def tick (clock : Clock) : Clock := { clock with taken := clock.taken + 1 }

/-- A clock that gives the listed readings, and the last of them ever after. -/
def ofList (first : Timestamp) (others : List Timestamp) : Clock :=
  ⟨fun n => (first :: others).getD n ((first :: others).getLastD first), 0⟩

@[simp] theorem readings_tick (clock : Clock) : clock.tick.readings = clock.readings := rfl

@[simp] theorem taken_tick (clock : Clock) : clock.tick.taken = clock.taken + 1 := rfl

end Clock
end SchemaReport
