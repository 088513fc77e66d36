import Intake.Schema.Moment.Basic
import Intake.Text.Utf8

/-!
# Moments read from the calendar

A calendar date with a time of day, or alone. The time has hours and minutes, perhaps seconds with a
fraction, and perhaps a zone. The octets of the text are read from left to right; the first thing out of
place is the reason why it is no moment.
-/

namespace Intake.Moment

/-- Two digits as a number. -/
def two? (a b : Octet) : Option Nat :=
  if 48 ≤ a.val ∧ a.val ≤ 57 ∧ 48 ≤ b.val ∧ b.val ≤ 57 then
    some ((a.val - 48) * 10 + (b.val - 48))
  else none

/-- A calendar date at the front of the octets of a text. -/
def readDate : Octets → Except Unreadable (Date × Octets)
  | y1 :: y2 :: y3 :: y4 :: s1 :: m1 :: m2 :: s2 :: d1 :: d2 :: rest =>
    match two? y1 y2, two? y3 y4 with
    | some century, some yearOfCentury =>
      if s1.val ≠ 45 then .error .dateSeparator
      else match two? m1 m2 with
        | none => .error .monthDigit
        | some month =>
          if s2.val ≠ 45 then .error .dateSeparator
          else match two? d1 d2 with
            | none => .error .dayDigit
            | some day =>
              let year : Int := century * 100 + yearOfCentury
              if Date.daysIn year month = 0 then .error .month
              else if day < 1 ∨ Date.daysIn year month < day then .error .day
              else .ok (⟨year, month, day⟩, rest)
    | _, _ => .error .yearDigit
  | _ => .error .tooShort

/-- The digits of a fraction of a second as microseconds; later digits are dropped. -/
def fractionMicros (digits : Octets) : Nat :=
  let six := (digits ++ List.replicate 6 48).take 6
  six.foldl (fun n b => 10 * n + (b.val - 48)) 0

/-- A decimal digit as an octet. -/
def isDigitOctet (b : Octet) : Bool := decide (48 ≤ b.val) && decide (b.val ≤ 57)

/-- Seconds and their fraction, when a colon announces them. -/
def readSeconds : Octets → Option ((Nat × Nat) × Octets)
  | 58 :: a :: b :: rest =>
    match two? a b with
    | none => none
    | some s =>
      if 59 < s then none
      else match rest with
        | p :: more =>
          if p = 46 ∨ p = 44 then
            let digits := more.takeWhile isDigitOctet
            if digits = [] then none
            else some ((s, fractionMicros digits), more.dropWhile isDigitOctet)
          else some ((s, 0), rest)
        | [] => some ((s, 0), [])
  | 58 :: _ => none
  | rest => some ((0, 0), rest)

/-- Hours and minutes of an offset, with or without a colon between them, and nothing after them. -/
def readOffset (sign : Int) : Octets → Option Int
  | h1 :: h2 :: rest =>
    let minutes := match rest with
      | [58, m1, m2] => two? m1 m2
      | [m1, m2] => two? m1 m2
      | _ => none
    match two? h1 h2, minutes with
    | some h, some m =>
      let total := h * 3600 + m * 60
      if m < 60 ∧ total < 86400 then some (sign * total) else none
    | _, _ => none
  | _ => none

/-- What may follow the time of day: nothing, a `Z`, or a signed offset. -/
def readZone : Octets → Option (Option Int)
  | [] => some none
  | [z] => if z = 90 ∨ z = 122 then some (some 0) else none
  | 43 :: rest => (readOffset 1 rest).map some
  | 45 :: rest => (readOffset (-1) rest).map some
  | 226 :: 136 :: 146 :: rest => (readOffset (-1) rest).map some
  | _ => none

/-- A time of day with its zone: seconds of the day, microseconds, offset. -/
def readTime : Octets → Option (Nat × Nat × Option Int)
  | h1 :: h2 :: 58 :: m1 :: m2 :: rest =>
    match two? h1 h2, two? m1 m2 with
    | some h, some m =>
      if 23 < h ∨ 59 < m then none
      else match readSeconds rest with
        | none => none
        | some ((s, micros), rest) =>
          (readZone rest).map fun offset => (h * 3600 + m * 60 + s, micros, offset)
    | _, _ => none
  | _ => none

/-- A date, a separator and a time of day. -/
def readDateTime (bytes : Octets) : Except Unreadable Moment :=
  match readDate bytes with
  | .error e => .error e
  | .ok (date, rest) =>
    match rest with
    | [] => .error .separator
    | s :: rest =>
      if s = 84 ∨ s = 116 ∨ s = 32 ∨ s = 95 then
        match readTime rest with
        | some (seconds, micros, offset) => .ok ⟨date.toDays * 86400 + seconds, micros, offset⟩
        | none => .error .time
      else .error .separator

/-- A date alone: the start of its day. -/
def readDay (bytes : Octets) : Except Unreadable Moment :=
  match readDate bytes with
  | .ok (date, []) => .ok ⟨date.toDays * 86400, 0, none⟩
  | .ok _ => .error .extraCharacters
  | .error e => .error e

end Intake.Moment
