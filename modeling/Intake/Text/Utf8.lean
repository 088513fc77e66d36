import Intake.Text.Basic

/-!
# UTF-8

A sequence of octets is read by a machine that either stands between two code points or still owes
continuation octets of one that was begun. Every well-formed code point gives itself; every maximal
malformed piece gives one gap. A strict reader refuses a gap, a lenient one shows U+FFFD for it.

        octet:  ASCII                lead               continuation
        between ──▶ between    between ──▶ owing n    owing n ──▶ owing (n-1) … ──▶ between
        anything else ──▶ a gap, and the octet starts afresh
-/

namespace Intake

/-- An octet. -/
abbrev Octet := Fin 256

/-- There are octets at all, so that a number can stand for one. -/
instance Octet.neZeroBound : @NeZero Nat Zero.ofOfNat0 256 := ⟨Nat.succ_ne_zero 255⟩

/-- A sequence of octets. -/
abbrev Octets := List Octet

namespace Utf8

/-- A code point that was begun: how many octets it still needs, the bits read so far, and the
range of the next octet. -/
structure Owing where
  left : Nat
  bits : Nat
  low : Nat
  high : Nat

/-- What a first octet starts. -/
inductive Lead where
  | whole (c : CodePoint)
  | owes (o : Owing)
  | gap

/-- Reads a first octet. `lone` admits encoded surrogates. -/
def lead (lone : Bool) (b : Octet) : Lead :=
  if b.val < 0x80 then .whole (CodePoint.ofNat b.val)
  else if b.val < 0xC2 then .gap
  else if b.val < 0xE0 then .owes ⟨1, b.val - 0xC0, 0x80, 0xBF⟩
  else if b.val = 0xE0 then .owes ⟨2, 0, 0xA0, 0xBF⟩
  else if b.val = 0xED && !lone then .owes ⟨2, 0xD, 0x80, 0x9F⟩
  else if b.val < 0xF0 then .owes ⟨2, b.val - 0xE0, 0x80, 0xBF⟩
  else if b.val = 0xF0 then .owes ⟨3, 0, 0x90, 0xBF⟩
  else if b.val < 0xF4 then .owes ⟨3, b.val - 0xF0, 0x80, 0xBF⟩
  else if b.val = 0xF4 then .owes ⟨3, 4, 0x80, 0x8F⟩
  else .gap

/-- The machine: each entry is a code point, or `none` for a malformed piece. -/
def scan (lone : Bool) : Option Owing → Octets → List (Option CodePoint)
  | none, [] => []
  | some _, [] => [none]
  | none, b :: rest =>
    match lead lone b with
    | .whole c => some c :: scan lone none rest
    | .owes o => scan lone (some o) rest
    | .gap => none :: scan lone none rest
  | some o, b :: rest =>
    if o.low ≤ b.val ∧ b.val ≤ o.high then
      let bits := o.bits * 64 + (b.val - 0x80)
      if o.left ≤ 1 then some (CodePoint.ofNat bits) :: scan lone none rest
      else scan lone (some ⟨o.left - 1, bits, 0x80, 0xBF⟩) rest
    else none :: match lead lone b with
      | .whole c => some c :: scan lone none rest
      | .owes o => scan lone (some o) rest
      | .gap => none :: scan lone none rest

/-- All entries, if none is a gap. -/
def whole? : List (Option CodePoint) → Option Text
  | [] => some []
  | none :: _ => none
  | some c :: rest => (whole? rest).map (c :: ·)

/-- The text that well-formed octets encode. -/
def decode? (bytes : Octets) : Option Text := whole? (scan false none bytes)

/-- The text that octets encode, where surrogates may be encoded alone. -/
def decodeLone? (bytes : Octets) : Option Text := whole? (scan true none bytes)

/-- The text that octets encode, with U+FFFD for every malformed piece. -/
def decodeLenient (bytes : Octets) : Text := (scan false none bytes).map (·.getD 0xFFFD)

/-- The octet with the given low eight bits. -/
def octet (n : Nat) : Octet := ⟨n % 256, Nat.mod_lt _ (by decide)⟩

/-- The octets of one code point. -/
def encodeOne (c : CodePoint) : Octets :=
  if c.val < 0x80 then [octet c.val]
  else if c.val < 0x800 then [octet (0xC0 + c.val / 64), octet (0x80 + c.val % 64)]
  else if c.val < 0x10000 then
    [octet (0xE0 + c.val / 4096), octet (0x80 + c.val / 64 % 64), octet (0x80 + c.val % 64)]
  else
    [octet (0xF0 + c.val / 262144), octet (0x80 + c.val / 4096 % 64),
      octet (0x80 + c.val / 64 % 64), octet (0x80 + c.val % 64)]

/-- The octets of a text. -/
def encode (t : Text) : Octets := t.flatMap encodeOne

/-- The octets of a text; a lone surrogate has none. -/
def encode? (t : Text) : Option Octets := if t.encodable then some (encode t) else none

end Utf8

/-- The Latin-1 octets of a text, if every code point has one. -/
def Text.toLatin1? : Text → Option Octets
  | [] => some []
  | c :: rest => if h : c.val < 256 then (toLatin1? rest).map (⟨c.val, h⟩ :: ·) else none

end Intake
