import Intake.Schema.Date
import Intake.Text.Basic

/-!
# Points in time

A moment is a reading of the calendar and the clock, with the distance of the zone from Greenwich when
one is known. It is written with a fraction of a second only when there is one, and with an offset only
when the zone is known.

    2024-03-01T09:30:00.500000+00:00
-/

namespace Intake

/-- A calendar and clock reading. -/
structure Moment where
  /-- Seconds from the start of 1970 to the reading, as the clock on the wall counts them. -/
  seconds : Int
  /-- Microseconds within the second. -/
  micros : Nat
  /-- Seconds by which the wall clock is ahead of Greenwich, if known. -/
  offset : Option Int
  deriving DecidableEq

namespace Moment

/-- Digits of a number, filled with zeros on the left to a width. -/
def padded (width n : Nat) : Text :=
  let ds := Text.ofNat n
  List.replicate (width - ds.length) 48 ++ ds

/-- A zone offset: sign, hours and minutes, and seconds when there are any. -/
def renderOffset (o : Int) : Text :=
  let a := o.natAbs
  (if o < 0 then 45 else 43) :: (padded 2 (a / 3600) ++ 58 :: padded 2 (a / 60 % 60) ++
    (if a % 60 = 0 then [] else 58 :: padded 2 (a % 60)))

/-- The written form of a moment. -/
def render (m : Moment) : Text :=
  let d := Date.ofDays (Int.fdiv m.seconds 86400)
  let s := (Int.fmod m.seconds 86400).toNat
  padded 4 d.year.toNat ++ 45 :: padded 2 d.month ++ 45 :: padded 2 d.day ++ 84 ::
    padded 2 (s / 3600) ++ 58 :: padded 2 (s / 60 % 60) ++ 58 :: padded 2 (s % 60) ++
    (if m.micros = 0 then [] else 46 :: padded 6 m.micros) ++
    (match m.offset with
      | some o => renderOffset o
      | none => [])

/-- Why a text or a number is no moment. -/
inductive Unreadable where
  | tooShort
  | extraCharacters
  | separator
  | yearDigit
  | dateSeparator
  | monthDigit
  | dayDigit
  | month
  | day
  | time
  | tooEarly
  | tooLate
  | yearZero
  | notANumber
  deriving DecidableEq

/-- The reason in words. -/
def Unreadable.reason : Unreadable → Text
  | .tooShort => "input is too short"
  | .extraCharacters => "unexpected extra characters at the end of the input"
  | .separator => "invalid datetime separator, expected `T`, `t`, `_` or space"
  | .yearDigit => "invalid character in year"
  | .dateSeparator => "invalid date separator, expected `-`"
  | .monthDigit => "invalid character in month"
  | .dayDigit => "invalid character in day"
  | .month => "month value is outside expected range of 1-12"
  | .day => "day value is outside expected range"
  | .time => "invalid time"
  | .tooEarly => "dates before 0000 are not supported as unix timestamps"
  | .tooLate => "dates after 9999 are not supported as unix timestamps"
  | .yearZero => "year 0 is out of range"
  | .notANumber => "NaN values not permitted"

end Moment
end Intake
