import Intake.Text.Utf8

/-!
# Percent coding

A path segment that is to stand for any text: the UTF-8 octets of the text, where letters, digits and
the four marks `_ . - ~` stand for themselves and every other octet is written as a percent sign and
two hexadecimal digits. A slash or a question mark never survives, so an encoded segment cannot end
early. Reading it back is percent decoding followed by UTF-8.
-/

namespace Intake.Percent

/-- Octets that stand for themselves. -/
def isUnreserved (b : Octet) : Bool :=
  decide (48 ≤ b.val) && decide (b.val ≤ 57) ||
  decide (65 ≤ b.val) && decide (b.val ≤ 90) ||
  decide (97 ≤ b.val) && decide (b.val ≤ 122) ||
  b.val == 95 || b.val == 46 || b.val == 45 || b.val == 126

/-- The upper-case hexadecimal digit of a value below sixteen. -/
def hexDigit (d : Nat) : CodePoint := CodePoint.ofNat (if d < 10 then 48 + d else 55 + d)

/-- The written form of one octet. -/
def encodeOctet (b : Octet) : Text :=
  if isUnreserved b then [CodePoint.ofNat b.val]
  else [37, hexDigit (b.val / 16), hexDigit (b.val % 16)]

/-- The written form of octets. -/
def encodeOctets (bytes : Octets) : Text := bytes.flatMap encodeOctet

/-- The written form of a text, if it can be encoded at all. -/
def encode? (t : Text) : Option Text := (Utf8.encode? t).map encodeOctets

/-- Reads percent coding back into octets. Anything that is neither an escape nor a Latin-1 code
point is refused. -/
def decodeOctets : Text → Option Octets
  | [] => some []
  | c :: rest =>
    if c = 37 then
      match rest with
      | a :: b :: rest =>
        match a.hexValue?, b.hexValue? with
        | some x, some y => (decodeOctets rest).map (Utf8.octet (16 * x + y) :: ·)
        | _, _ => none
      | _ => none
    else if h : c.val < 256 then (decodeOctets rest).map (⟨c.val, h⟩ :: ·)
    else none

/-- Reads a percent-coded text back. -/
def decode? (t : Text) : Option Text := (decodeOctets t).bind Utf8.decode?

/-- Reads percent coding where a percent sign that begins no escape stands for itself, and octets that
are not UTF-8 for U+FFFD. -/
def octetsOf : Text → Octets
  | [] => []
  | c :: rest =>
    if c = 37 then
      match rest with
      | a :: b :: more =>
        match a.hexValue?, b.hexValue? with
        | some x, some y => Utf8.octet (16 * x + y) :: octetsOf more
        | _, _ => 37 :: octetsOf (a :: b :: more)
      | [a] => 37 :: octetsOf [a]
      | [] => [37]
    else Utf8.encodeOne c ++ octetsOf rest

/-- The text that percent coding stands for, read leniently. -/
def decodeLenient (t : Text) : Text := Utf8.decodeLenient (octetsOf t)

/-- A text in which every code point outside a safe set is escaped. Sets that hold the percent sign
leave escapes as they are. -/
def escape (safe : CodePoint → Bool) (t : Text) : Text :=
  t.flatMap fun c => if safe c then [c] else encodeOctets (Utf8.encodeOne c)

end Intake.Percent
