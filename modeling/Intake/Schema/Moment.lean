import Intake.Schema.Moment.Calendar
import Intake.Schema.Moment.Count

/-!
# Moment fields

A moment is given as a calendar date with or without a time of day, or as a count. The year 0 can be
read and counted, but no moment may lie in it.
-/

namespace Intake
namespace Moment

/-- The moment that a text writes: a date with a time, a count, or a date alone. What is nothing of all
that is reported as a faulty date, except that a whole count is told why it is out of range. -/
def readText (t : Text) (bytes : Octets) : Except Unreadable Moment :=
  match readDateTime bytes with
  | .ok m => .ok m
  | .error _ =>
    match typedCount? t with
    | some (.whole n) => ofCount n
    | some (.real x) =>
      match ofReal x with
      | .ok m => .ok m
      | .error _ => readDay bytes
    | none => readDay bytes

/-- The first second of the year 1. -/
def yearOne : Int := -62135596800

/-- A moment that was read, unless it lies in the year 0. -/
def checked (fault : Text → Fault) : Except Unreadable Moment → Checked Moment
  | .ok m =>
    if m.seconds < yearOne then Checked.fault (.unclearMoment Unreadable.yearZero.reason) else .ok m
  | .error e => Checked.fault (fault e.reason)

/-- The moment that a text writes. -/
def ofText (t : Text) : Checked Moment :=
  match Utf8.encode? t with
  | none => Checked.fault .notUnicode
  | some bytes => checked .unclearDate (readText t bytes)

end Moment

/-- A moment given as a text or as a number. -/
def Schema.moment : Value → Checked Moment
  | .str s => Moment.ofText s
  | .int n =>
    if fitsWord n then Moment.checked .unclearMoment (Moment.ofCount n)
    else if (Binary64.ofInt n).isFinite then
      Moment.checked .unclearMoment (Moment.ofReal (Binary64.ofInt n))
    else Checked.fault .notMoment
  | .real x => Moment.checked .unclearMoment (Moment.ofReal x)
  | _ => Checked.fault .notMoment

end Intake
