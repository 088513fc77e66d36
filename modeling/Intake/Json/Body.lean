import Intake.Json.Reader

/-!
# JSON in octets

The body of a message may come in any Unicode encoding. A byte-order mark settles it; without one the
zero octets among the first four do, because a JSON text begins with two ASCII code points. Surrogates
may be encoded alone.
-/

namespace Intake.Json

/-- The encodings of a JSON text. -/
inductive Encoding where
  | utf8
  | utf16 (order : Units.ByteOrder)
  | utf32 (order : Units.ByteOrder)
  deriving DecidableEq

/-- The encoding of a body, and the body without its byte-order mark. -/
def detect (bytes : Octets) : Encoding × Octets :=
  match bytes with
  | 0 :: 0 :: 0xFE :: 0xFF :: rest => (.utf32 .big, rest)
  | 0xFF :: 0xFE :: 0 :: 0 :: rest => (.utf32 .little, rest)
  | 0xFE :: 0xFF :: rest => (.utf16 .big, rest)
  | 0xFF :: 0xFE :: rest => (.utf16 .little, rest)
  | 0xEF :: 0xBB :: 0xBF :: rest => (.utf8, rest)
  | a :: b :: c :: d :: _ =>
    (if a = 0 then (if b = 0 then .utf32 .big else .utf16 .big)
      else if b = 0 then (if c = 0 ∧ d = 0 then .utf32 .little else .utf16 .little)
      else .utf8, bytes)
  | [a, b] => (if a = 0 then .utf16 .big else if b = 0 then .utf16 .little else .utf8, bytes)
  | _ => (.utf8, bytes)

/-- The text of a body. -/
def bodyText? (bytes : Octets) : Option Text :=
  match detect bytes with
  | (.utf8, rest) => Utf8.decodeLone? rest
  | (.utf16 order, rest) => Units.decode16? order rest
  | (.utf32 order, rest) => Units.decode32? order rest

/-- The value that a body holds. -/
def readBody? (bytes : Octets) : Option Value := (bodyText? bytes).bind read?

end Intake.Json
