/-!
# Reading octets as UTF-8

`decodeLossy` reads any octets as text: each maximal part that begins a
character but does not finish it, and each octet that begins none, becomes one
replacement character U+FFFD.

The reader keeps, while inside a character, the bits seen so far, the number of
octets still owed, and the window the next octet must fall into.  Only the
octet after the lead has a window narrower than `80..BF`; it excludes the
overlong forms, the surrogates and everything above U+10FFFF.
-/

set_option autoImplicit false

namespace LogProblems.Text.Utf8

/-- A character begun: the bits so far, the octets owed after the next one, and
the least and greatest value the next octet may have. -/
structure Begun where
  bits : Nat
  owed : Nat
  low : UInt8
  high : UInt8
  deriving DecidableEq, Repr

/-- What an octet means between two characters. -/
inductive Lead where
  /-- A whole character by itself. -/
  | whole (c : Char)
  /-- The first octet of a longer character. -/
  | opens (b : Begun)
  /-- No character starts with this octet. -/
  | stray
  deriving DecidableEq, Repr

/-- Reads an octet that stands between two characters. -/
def lead (a : UInt8) : Lead :=
  let n := a.toNat
  if n < 0x80 then .whole (Char.ofNat n)
  else if 0xC2 ≤ n ∧ n ≤ 0xDF then .opens ⟨n - 0xC0, 0, 0x80, 0xBF⟩
  else if n = 0xE0 then .opens ⟨0, 1, 0xA0, 0xBF⟩
  else if n = 0xED then .opens ⟨0xD, 1, 0x80, 0x9F⟩
  else if 0xE1 ≤ n ∧ n ≤ 0xEF then .opens ⟨n - 0xE0, 1, 0x80, 0xBF⟩
  else if n = 0xF0 then .opens ⟨0, 2, 0x90, 0xBF⟩
  else if n = 0xF4 then .opens ⟨4, 2, 0x80, 0x8F⟩
  else if 0xF1 ≤ n ∧ n ≤ 0xF3 then .opens ⟨n - 0xF0, 2, 0x80, 0xBF⟩
  else .stray

/-- The replacement character. -/
def replacement : Char := Char.ofNat 0xFFFD

/-- Reads octets from inside a character (`some`) or between two (`none`). -/
def decodeFrom : Option Begun → List UInt8 → List Char
  | none, [] => []
  | some _, [] => [replacement]
  | none, a :: rest =>
    match lead a with
    | .whole c => c :: decodeFrom none rest
    | .opens b => decodeFrom (some b) rest
    | .stray => replacement :: decodeFrom none rest
  | some b, a :: rest =>
    if b.low ≤ a ∧ a ≤ b.high then
      let bits := b.bits * 64 + (a.toNat - 0x80)
      match b.owed with
      | 0 => Char.ofNat bits :: decodeFrom none rest
      | owed + 1 => decodeFrom (some ⟨bits, owed, 0x80, 0xBF⟩) rest
    else
      match lead a with
      | .whole c => replacement :: c :: decodeFrom none rest
      | .opens b' => replacement :: decodeFrom (some b') rest
      | .stray => replacement :: replacement :: decodeFrom none rest

/-- Reads any octets as text; what is no UTF-8 becomes replacement characters. -/
def decodeLossy (octets : List UInt8) : String :=
  String.ofList (decodeFrom none octets)

/-- Reads octets as text, or not at all when they are no UTF-8. -/
def decode? (octets : List UInt8) : Option String :=
  String.fromUTF8? ⟨octets.toArray⟩

/-- The octets of a text. -/
def encode (s : String) : List UInt8 :=
  s.toUTF8.toList

end LogProblems.Text.Utf8
