import Intake.Text.Basic

/-!
# Punycode

A label of a host name in ASCII: its ASCII code points, a hyphen if there are any, and then, for every
other code point in ascending order, the distance from the insertion before it, as a number of varying
base whose thresholds follow the numbers seen so far. Reading undoes this; it refuses what is no digit,
a number that breaks off and a code point that does not exist.
-/

namespace Intake.Punycode

/-- The digit of a value below thirty-six. -/
def digit (d : Nat) : CodePoint := CodePoint.ofNat (if d < 26 then 97 + d else 22 + d)

/-- The threshold of the digit at a position. -/
def threshold (k bias : Nat) : Nat :=
  if k ≤ bias then 1 else if bias + 26 ≤ k then 26 else k - bias

theorem one_le_threshold (k bias : Nat) : 1 ≤ threshold k bias := by
  unfold threshold; split
  · omega
  · split <;> omega

theorem threshold_le (k bias : Nat) : threshold k bias ≤ 26 := by
  unfold threshold; split
  · omega
  · split <;> omega

/-- Divides a distance down until it is small; the second number counts the divisions by 36. -/
def shrink (delta k : Nat) : Nat × Nat :=
  if _h : 455 < delta then shrink (delta / 35) (k + 36) else (delta, k)
termination_by delta
decreasing_by omega

/-- The bias after a distance. -/
def adapt (delta points : Nat) (first : Bool) : Nat :=
  let d := if first then delta / 700 else delta / 2
  let r := shrink (d + d / points) 0
  r.2 + 36 * r.1 / (r.1 + 38)

/-- The digits of a distance, the lowest first. -/
def digits (bias k q : Nat) : Text :=
  if q < threshold k bias then [digit q]
  else
    digit (threshold k bias + (q - threshold k bias) % (36 - threshold k bias)) ::
      digits bias (k + 36) ((q - threshold k bias) / (36 - threshold k bias))
termination_by q
decreasing_by
  have h1 := one_le_threshold k bias
  calc (q - threshold k bias) / (36 - threshold k bias)
      ≤ q - threshold k bias := Nat.div_le_self _ _
    _ < q := by omega

/-- What is written so far, the distance that is pending, the bias, and how many code points are
placed. -/
structure Progress where
  written : Text
  delta : Nat
  bias : Nat
  placed : Nat

/-- Passes one code point while those with the number `m` are placed. -/
def pass (basic m : Nat) (s : Progress) (c : CodePoint) : Progress :=
  if c.val < m then { s with delta := s.delta + 1 }
  else if c.val = m then
    ⟨s.written ++ digits s.bias 36 s.delta, 0, adapt s.delta (s.placed + 1) (s.placed == basic),
      s.placed + 1⟩
  else s

/-- Places the code points with the given numbers, in ascending order. -/
def place (t : Text) (basic : Nat) : List Nat → Nat → Progress → Progress
  | [], _, s => s
  | m :: ms, n, s =>
    let s := t.foldl (pass basic m) { s with delta := s.delta + (m - n) * (s.placed + 1) }
    place t basic ms (m + 1) { s with delta := s.delta + 1 }

/-- Puts a number into an ascending list, unless it is there. -/
def insert (x : Nat) : List Nat → List Nat
  | [] => [x]
  | y :: ys => if x < y then x :: y :: ys else if x = y then y :: ys else y :: insert x ys

/-- A label in ASCII, without the mark that says so. -/
def encode (t : Text) : Text :=
  let basic := t.filter fun c => decide (c.val < 128)
  let others := (t.filter fun c => decide (128 ≤ c.val)).foldr (fun c ns => insert c.val ns) []
  basic ++ (if basic.isEmpty then [] else [45]) ++
    (place t basic.length others 128 ⟨[], 0, 72, basic.length⟩).written

/-! ### Reading -/

/-- The value of a digit of either case. -/
def digitValue? (c : CodePoint) : Option Nat :=
  if 97 ≤ c.asciiLower.val ∧ c.asciiLower.val ≤ 122 then some (c.asciiLower.val - 97)
  else if c.isDigit then some (c.digitValue + 26)
  else none

/-- A distance at the front of a text, from the digit at position `k` on, whose unit is `unit`. -/
def number? (bias : Nat) : Text → Nat → Nat → Option (Nat × Text)
  | [], _, _ => none
  | c :: rest, k, unit =>
    match digitValue? c with
    | none => none
    | some d =>
      if d < threshold k bias then some (d * unit, rest)
      else (number? bias rest (k + 36) (unit * (36 - threshold k bias))).map fun r =>
        (d * unit + r.1, r.2)

/-- A distance takes at least one digit. -/
theorem number?_length {bias : Nat} {t : Text} {k unit : Nat} {r : Nat × Text}
    (h : number? bias t k unit = some r) : r.2.length < t.length := by
  induction t generalizing k unit r with
  | nil => simp [number?] at h
  | cons c rest ih =>
    rw [number?] at h
    split at h
    · simp at h
    · split at h
      · simp only [Option.some.injEq] at h
        subst h
        simp
      · obtain ⟨s, hs, rfl⟩ := Option.map_eq_some_iff.1 h
        have := ih hs
        simp only [List.length_cons]
        omega

/-- Inserts a code point for each distance in a text. The next place counts on from `at`, with one round
through the placed code points for each number that is passed over from `least` on. -/
def insertAll (placed : Text) (least place bias : Nat) (first : Bool) (t : Text) : Option Text :=
  match hn : number? bias t 36 1 with
  | none => if t.isEmpty then some placed else none
  | some (delta, rest) =>
    let size := placed.length + 1
    let c := least + (place + delta) / size
    let i := (place + delta) % size
    if h : c < 0x110000 then
      insertAll (placed.take i ++ ⟨c, h⟩ :: placed.drop i) c (i + 1) (adapt delta size first) false rest
    else none
termination_by t.length
decreasing_by exact number?_length hn

/-- The label that a text in ASCII writes, without the mark that says so. -/
def decode? (t : Text) : Option Text :=
  match Text.cut 45 t.reverse with
  | (_, none) => insertAll [] 128 0 72 true t
  | (after, some before) => insertAll before.reverse 128 0 72 true after.reverse

end Intake.Punycode
