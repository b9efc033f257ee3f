import Woml.Event.Json

/-!
# What the engine takes from its libraries

The JSON encoders, SHA-256 and the formatting of instants are libraries of the engine; the model
is over any functions in their place.
-/

namespace Woml

class Host where
  /-- Length in bytes of the compact JSON encoding of a value. -/
  jsonBytes : Value → Nat
  /-- The canonical JSON encoding of a value, or the encoder's message. -/
  canonicalJson : Value → Except String (List Nat)
  /-- SHA-256 of a byte string, in lower-case hexadecimal. -/
  sha256 : List Nat → String
  /-- An instant in RFC 3339 form with milliseconds, in UTC. -/
  rfc3339Millis : DateTime → String
  /-- `initial * multiplier.powi(exponent)` in floating point, at most `maximum`, as an integer;
  `none` if that is not finite, below one or beyond 64 bits. -/
  exponentialDelay : Nat → F64 → Nat → Nat → Option Nat

/-- The libraries' values at the empty object and the epoch, whatever the argument. -/
instance : Inhabited Host where
  default := {
    jsonBytes := fun _ => 2
    canonicalJson := fun _ => .ok [123, 125]
    sha256 := fun _ => "44136fa355b3678a1146ad16f7e8649e94fb4fc21fe77e8310c060f61caaff8a"
    rfc3339Millis := fun _ => "1970-01-01T00:00:00.000Z"
    exponentialDelay := fun _ _ _ _ => none }

/-- The UTF-8 bytes of a text. -/
def utf8 (s : String) : List Nat := s.toByteArray.data.toList.map UInt8.toNat

/-- A digest with the engine's `sha256:` prefix. -/
def sha256Prefixed [Host] (bytes : List Nat) : String := "sha256:" ++ Host.sha256 bytes

/-- The libraries on recorded inputs: the digests of the texts in a table, and `encoding` as the
canonical encoding of the one value that is encoded. -/
@[reducible] def Host.recorded (digests : List (String × String)) (encoding : String) : Host :=
  { (default : Host) with
    canonicalJson := fun _ => .ok (utf8 encoding)
    sha256 := fun bytes => ((digests.find? fun (text, _) => utf8 text = bytes).map (·.2)).getD "" }

/-- The bytes of a 32-bit number, the most significant first. -/
def u32BeBytes (n : Nat) : List Nat :=
  [n / 2 ^ 24 % 256, n / 2 ^ 16 % 256, n / 2 ^ 8 % 256, n % 256]

end Woml
