import Intake.Http.RequestId
import Intake.Http.Route

/-!
# The environment

What the service finds outside itself and never changes: a clock that only goes forward, names for the forms
and responses that it stores and for the requests that it answers, and the documents that describe its
interface. The clock dates the rows of the store. The time of day, which names the submissions that failed,
is no part of this: it may stand still or go back, and is set from outside while the service runs.
-/

namespace Intake.Service

/-- The environment of the service. -/
structure Environment where
  /-- The readings of the clock one after the other, in microseconds from the start of 2026. -/
  time : Nat → Nat
  time_lt_succ : ∀ n, time n < time (n + 1)
  forms : Names
  responses : Names
  requests : Names
  documents : Http.Document → Http.Body

namespace Environment

/-- A clock that is read once a second, names with numbers, and documents without content. -/
def standard : Environment where
  time n := 1000000 * n
  time_lt_succ n := by omega
  forms := .numbered "form-" (by decide)
  responses := .numbered "resp-" (by decide)
  requests := RequestId.numbered
  documents _ := .text []

variable (env : Environment)

/-- A later reading shows no earlier time. -/
theorem time_le {m n : Nat} (h : m ≤ n) : env.time m ≤ env.time n := by
  induction h with
  | refl => exact Nat.le_refl _
  | step _ ih => exact Nat.le_trans ih (Nat.le_of_lt (env.time_lt_succ _))

end Environment
end Intake.Service
