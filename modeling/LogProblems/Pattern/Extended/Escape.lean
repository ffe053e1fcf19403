import LogProblems.Pattern.Extended.Syntax
import LogProblems.Pattern.Extended.Sets
import LogProblems.Text.Integer

/-!
# Reading escapes of the extended notation

A reader takes a cursor: the rest of the pattern, the number of groups opened so far,
and the names given to groups.  The readers here begin behind a backslash.
-/

set_option autoImplicit false

namespace LogProblems.Pattern.Extended

open LogProblems.Unicode LogProblems.Text

/-- Where a reader stands. -/
structure Cursor where
  rest : List Char
  /-- How many groups have been opened. -/
  groups : Nat := 0
  /-- The groups that have a name, the last one first. -/
  names : List (String × Nat) := []

/-- A reader: from a cursor to a result and the cursor behind it, or nothing. -/
abbrev Reader (α : Type) := StateT Cursor Option α

namespace Reader

/-- What is left to read. -/
def rest : Reader (List Char) := do return (← get).rest

/-- Goes on at another place. -/
def goTo (rest : List Char) : Reader Unit := modify fun s => { s with rest }

/-- The next character, if there is one. -/
def peek? : Reader (Option Char) := do return (← rest).head?

/-- Takes the next character, which must exist. -/
def next : Reader Char := do
  match ← rest with
  | [] => failure
  | c :: cs =>
    goTo cs
    return c

/-- Passes over a character that must come next. -/
def expect (c : Char) : Reader Unit := do
  unless (← next) == c do failure

end Reader

open Reader

/-! ## Numbers -/

/-- An octal digit. -/
def octalDigit? (c : Char) : Option Nat :=
  if '0' ≤ c ∧ c ≤ '7' then some (c.toNat - '0'.toNat) else none

/-- Splits at most `limit` digits off a text: their number, their value, the rest. -/
def digitRun (digit? : Char → Option Nat) (base : Nat) :
    Nat → List Char → Nat × Nat × List Char :=
  let rec go (count value : Nat) : Nat → List Char → Nat × Nat × List Char
    | 0, cs => (count, value, cs)
    | _, [] => (count, value, [])
    | limit + 1, c :: cs =>
      match digit? c with
      | some d => go (count + 1) (value * base + d) limit cs
      | none => (count, value, c :: cs)
  go 0 0

/-- A decimal digit. -/
def decimalDigit? (c : Char) : Option Nat :=
  if c.isDigit then some (c.toNat - '0'.toNat) else none

/-- Splits a decimal number off a text. -/
def decimalRun (cs : List Char) : Nat × Nat × List Char :=
  digitRun decimalDigit? 10 cs.length cs

/-- The greatest number that is read as one. -/
def numberLimit : Nat := 1 <<< 31 - 1

/-- A code point that is one. -/
def codePoint? (n : Nat) : Option Nat :=
  if n < 0xD800 ∨ (0xDFFF < n ∧ n ≤ maxCode) then some n else none

/-! ## Escapes for one character -/

/-- What an escape stands for. -/
inductive Escape where
  /-- A character by itself or by its code point. -/
  | code (n : Nat)
  /-- An octet, written in a base. -/
  | octet (n base : Nat)
  /-- One character of a set. -/
  | set (s : CharSet)
  deriving Repr, Inhabited

/-- The letters that stand for control characters. -/
def controlLetter (c : Char) : Nat :=
  match c with
  | 'n' => 0x0A
  | 't' => 0x09
  | 'r' => 0x0D
  | 'f' => 0x0C
  | 'a' => 0x07
  | 'b' => 0x08
  | 'e' => 0x1B
  | 'v' => 0x0B
  | c => c.toNat

/-- Reads the code of a control or meta character, or of a character that stands for
itself. -/
def escapedCode : Nat → Reader Nat
  | 0 => failure
  | fuel + 1 => do
    let after : Reader Nat := do
      let c ← next
      if c == '\\' then escapedCode fuel else return c.toNat
    let control : Reader Nat := do
      match ← peek? with
      | some '?' =>
        let _ ← next
        return 0x7F
      | _ => return (← after) &&& 0x9F
    match ← next with
    | 'c' => control
    | 'C' => do
      expect '-'
      control
    | 'M' => do
      expect '-'
      return ((← after) &&& 0xFF) ||| 0x80
    | c => return controlLetter c

/-- How code points are written in braces: the letter before them, and the digits. -/
structure BracedCodes where
  letter : Char
  base : Nat
  digit? : Char → Option Nat
  /-- The most digits of a number. -/
  maxDigits : Nat

/-- Code points by hexadecimal digits. -/
def BracedCodes.hex : BracedCodes := ⟨'x', 16, hexDigit?, 8⟩

/-- Code points by octal digits. -/
def BracedCodes.octal : BracedCodes := ⟨'o', 8, octalDigit?, 11⟩

/-- Splits the number at the start of a text off: its digits, its value, the rest.  It
must not have too many digits. -/
def BracedCodes.number? (b : BracedCodes) (cs : List Char) :
    Option (List Char × Nat × List Char) :=
  let (count, value, after) := digitRun b.digit? b.base b.maxDigits cs
  if (after.head?.bind b.digit?).isSome then none else some (cs.take count, value, after)

/-- What is written of a sequence of code points behind its first number. -/
inductive SequencePart where
  | number
  /-- A number that ends a range. -/
  | rangeStop
  | dash
  deriving DecidableEq, Repr

/-- Reads the numbers behind the first one of a sequence in braces up to the closing
brace, at least one, and writes each as an escape of its own.  Blanks and line feeds stand
between them, and in a set also the dashes of ranges.  `last` is what was read last, and
`done` what is written so far, last first. -/
def BracedCodes.further? (b : BracedCodes) (inSet : Bool) :
    Nat → SequencePart → List (List Char) → List Char → Option (List Char × List Char)
  | 0, _, _, _ => none
  | _, _, _, [] => none
  | fuel + 1, last, done, c :: cs =>
    if c == '\x7d' then
      if done.isEmpty || last == .dash then none else some (done.reverse.flatten, cs)
    else if c == ' ' || c == '\n' then b.further? inSet fuel last done cs
    else if c == '-' then
      if inSet && last == .number then b.further? inSet fuel .dash (['-'] :: done) cs else none
    else
      match b.number? (c :: cs) with
      | none => none
      | some (digits, _, after) =>
        if digits.isEmpty then none
        else
          let escape := ['\\', b.letter, '\x7b'] ++ digits ++ ['\x7d']
          let part := if last == .dash then .rangeStop else .number
          b.further? inSet fuel part (escape :: done) after

/-- Reads what follows the letter of an escape for code points in braces.  Without a
number the letter stands for itself. -/
def BracedCodes.read (b : BracedCodes) (inSet : Bool) : Reader Escape := do
  match ← rest with
  | '\x7b' :: cs =>
    let some (digits, value, after) := b.number? cs | failure
    if digits.isEmpty then return .code b.letter.toNat
    match after with
    | '\x7d' :: after => goTo after
    | _ =>
      let some (escapes, after) := b.further? inSet (after.length + 1) .number [] after
        | failure
      goTo (escapes ++ after)
    return .code value
  | _ => return .code b.letter.toNat

/-- Reads what follows an escape with the letter `x`. -/
def hexEscape (inSet : Bool) : Reader Escape := do
  match ← rest with
  | [] => return .code 'x'.toNat
  | '\x7b' :: _ => BracedCodes.hex.read inSet
  | cs =>
    let (_, value, after) := digitRun hexDigit? 16 2 cs
    goTo after
    return .octet value 16

/-- Reads what follows an escape with the letter `u`: four hexadecimal digits. -/
def shortCode : Reader Escape := do
  match ← rest with
  | [] => return .code 'u'.toNat
  | cs =>
    let (count, value, after) := digitRun hexDigit? 16 4 cs
    if count < 4 then failure
    goTo after
    return .code value

/-- Reads at most `limit` octal digits as an octet. -/
def octalOctet (limit : Nat) : Reader Escape := do
  let (_, value, after) := digitRun octalDigit? 8 limit (← rest)
  if 0xFF < value then failure
  goTo after
  return .octet value 8

/-- Reads the name of a property up to the closing brace. -/
def propertyName : List Char → List Char → Option (List Char × List Char)
  | _, [] => none
  | acc, c :: cs =>
    if c == '\x7d' then some (acc.reverse, cs)
    else if c == '(' || c == ')' || c == '\x7b' || c == '|' then none
    else propertyName (c :: acc) cs

/-- Reads a property in braces; without a brace the letter stands for itself. -/
def property (o : Options) (letter : Char) : Reader Escape := do
  match ← rest with
  | '\x7b' :: cs =>
    let (circumflex, cs) :=
      match cs with
      | '^' :: cs => (true, cs)
      | cs => (false, cs)
    let some (name, after) := propertyName [] cs | failure
    let some s := propertySet? o name | failure
    goTo after
    return .set (if (letter == 'P') != circumflex then s.complement else s)
  | _ => return .code letter.toNat

/-- Reads an escape for a character, an octet or a set; `inSet` tells whether it is a
member of a bracketed set. -/
def simpleEscape (o : Options) (inSet : Bool) : Reader Escape := do
  let before ← rest
  let words := if inSet then o.wordMembers else o.words
  match ← next with
  | 'w' => return .set words
  | 'W' => return .set words.complement
  | 'd' => return .set o.digits
  | 'D' => return .set o.digits.complement
  | 's' => return .set o.spaces
  | 'S' => return .set o.spaces.complement
  | 'h' => return .set hexDigits
  | 'H' => return .set hexDigits.complement
  | 'p' => property o 'p'
  | 'P' => property o 'P'
  | 'x' => hexEscape inSet
  | 'u' => shortCode
  | 'o' => BracedCodes.octal.read inSet
  | _ =>
    goTo before
    return .code (← escapedCode before.length)

/-! ## Octets -/

/-- How many octets a character has that begins with the given one. -/
def octetCount (lead : Nat) : Nat :=
  if lead < 0xC2 then 1
  else if lead < 0xE0 then 2
  else if lead < 0xF0 then 3
  else if lead < 0xF5 then 4
  else 1

/-- The code point that some octets encode. -/
def decodeOctets? : List Nat → Option Nat
  | [a] => if a < 0x80 then some a else none
  | lead :: tail =>
    if tail.all fun b => 0x80 ≤ b && b < 0xC0 then
      let bits := if tail.length = 1 then lead - 0xC0 else if tail.length = 2 then lead - 0xE0
        else lead - 0xF0
      let n := tail.foldl (fun n b => n * 64 + (b - 0x80)) bits
      let least := if tail.length = 1 then 0x80 else if tail.length = 2 then 0x800 else 0x10000
      if least ≤ n then codePoint? n else none
    else none
  | [] => none

end LogProblems.Pattern.Extended
