/-!
# Numbers in text

Captured positions are signed 64-bit numbers in decimal: `readInt64?` takes an
optional sign and at least one ASCII digit.  The digits themselves are read by
`digitsValue` and `hexDigit?`.
-/

set_option autoImplicit false

namespace LogProblems.Text

/-- The least signed 64-bit number. -/
def int64Min : Int := -9223372036854775808

/-- The greatest signed 64-bit number. -/
def int64Max : Int := 9223372036854775807

/-- An ASCII digit. -/
def isDigit (c : Char) : Bool :=
  '0' ≤ c && c ≤ '9'

/-- The value of a hexadecimal digit. -/
def hexDigit? (c : Char) : Option Nat :=
  if '0' ≤ c ∧ c ≤ '9' then some (c.toNat - '0'.toNat)
  else if 'a' ≤ c ∧ c ≤ 'f' then some (c.toNat - 'a'.toNat + 10)
  else if 'A' ≤ c ∧ c ≤ 'F' then some (c.toNat - 'A'.toNat + 10)
  else none

/-- The value of a list of decimal digits, most significant first. -/
def digitsValue (digits : List Char) : Nat :=
  digits.foldl (fun n c => 10 * n + (c.toNat - '0'.toNat)) 0

/-- The number a non-empty list of ASCII digits writes, if it fits 64 bits when
given the sign. -/
def readDigits? (negative : Bool) (digits : List Char) : Option Int :=
  if digits.isEmpty || !digits.all isDigit then none
  else
    let n : Int := digitsValue digits
    let v := if negative then -n else n
    if int64Min ≤ v ∧ v ≤ int64Max then some v else none

/-- Reads a signed decimal number: an optional `+` or `-`, then digits only. -/
def readInt64? (cs : List Char) : Option Int :=
  match cs with
  | '-' :: digits => readDigits? true digits
  | '+' :: digits => readDigits? false digits
  | digits => readDigits? false digits

/-- A number cut to 64 bits, as a machine word holds it. -/
def wrapInt64 (v : Int) : Int :=
  Int.bmod v 18446744073709551616

end LogProblems.Text
