import LogProblems.Text.Integer

/-!
# Numbers in JSON

A numeral is an optional minus sign, an integer part without superfluous zeros,
an optional fraction and an optional exponent.  Only numerals without sign,
fraction and exponent below `2 ^ 64` are natural numbers; every other numeral is
known by its magnitude alone, which may lie beyond the range of a 64-bit float.
-/

set_option autoImplicit false

namespace LogProblems.Document.Json

open LogProblems.Text

/-- What a numeral stands for. -/
inductive Numeral where
  /-- A natural number below `2 ^ 64`. -/
  | natural (n : Nat)
  /-- Another number within the range of a 64-bit float. -/
  | other
  /-- A number beyond that range. -/
  | beyond
  deriving DecidableEq, Repr

/-- One more than the greatest number that rounds to a finite 64-bit float. -/
def floatBound : Nat := 1 <<< 1024 - 1 <<< 970

/-- `digits * 10 ^ exponent` rounds to no finite 64-bit float. -/
def exceedsFloat (digits : List Char) (exponent : Int) : Bool :=
  let n := digitsValue digits
  let places : Int := (digits.dropWhile (· == '0')).length
  if n == 0 then false
  else if 400 < exponent + places then true
  else if exponent + places < 300 then false
  else
    match exponent with
    | .ofNat e => decide (floatBound ≤ n * Nat.pow 10 e)
    | .negSucc e => decide (floatBound * Nat.pow 10 (e + 1) ≤ n)

/-- The exponent after its `e`: an optional sign and digits. -/
def exponent? (cs : List Char) : Option (Int × List Char) :=
  let (negative, cs) :=
    match cs with
    | '-' :: rest => (true, rest)
    | '+' :: rest => (false, rest)
    | rest => (false, rest)
  let digits := cs.takeWhile isDigit
  if digits.isEmpty then none
  else
    let n : Int := digitsValue digits
    some (if negative then -n else n, cs.drop digits.length)

/-- The integer part: a zero alone, or digits that start with another one. -/
def integerPart? (cs : List Char) : Option (List Char × List Char) :=
  match cs with
  | '0' :: rest =>
    match rest with
    | c :: _ => if isDigit c then none else some (['0'], rest)
    | [] => some (['0'], [])
  | cs =>
    let digits := cs.takeWhile isDigit
    if digits.isEmpty then none else some (digits, cs.drop digits.length)

/-- The fraction, if there is one: a point and at least one digit. -/
def fraction? (cs : List Char) : Option (List Char × List Char) :=
  match cs with
  | '.' :: rest =>
    let digits := rest.takeWhile isDigit
    if digits.isEmpty then none else some (digits, rest.drop digits.length)
  | cs => some ([], cs)

/-- Reads a numeral from the front of `cs`. -/
def numeral? (cs : List Char) : Option (Numeral × List Char) := do
  let (negative, cs) :=
    match cs with
    | '-' :: rest => (true, rest)
    | rest => (false, rest)
  let (whole, cs) ← integerPart? cs
  let (fraction, cs') ← fraction? cs
  let (exponent, rest) ←
    match cs' with
    | 'e' :: rest => exponent? rest
    | 'E' :: rest => exponent? rest
    | rest => some (0, rest)
  let plain := !negative && fraction.isEmpty && rest.length == cs.length
  if plain && digitsValue whole < 1 <<< 64 then
    return (.natural (digitsValue whole), rest)
  else if exceedsFloat (whole ++ fraction) (exponent - fraction.length) then
    return (.beyond, rest)
  else
    return (.other, rest)

end LogProblems.Document.Json
