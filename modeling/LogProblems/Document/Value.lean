/-!
# Freely read values

A `Value` is what a settings document says at a place where any kind of value
may stand.  Readers of such a place try one shape after the other; each reader
here answers `none` when the value has another shape.

A record's fields are found by name or, in documents that allow numbers as
keys, by place; a list may stand for a record, its items in declaration order.
-/

set_option autoImplicit false

namespace LogProblems.Document

/-- A freely read value.  Numbers other than natural numbers below `2 ^ 64` are
kept only as being numbers: no field accepts them. -/
inductive Value where
  | null
  | bool (b : Bool)
  | index (n : Nat)
  | number
  | text (s : String)
  | list (items : List Value)
  | record (entries : List (Value × Value))
  deriving Repr, Inhabited

/-- Places entries into `count` slots.  An entry without a place, or with a place
beyond the last slot, is left out; two entries for one slot are refused. -/
def slots {α : Type} (count : Nat) : List (Option Nat × α) → Option (List (Option α))
  | [] => some (List.replicate count none)
  | (place, a) :: rest =>
    match slots count rest with
    | none => none
    | some filled =>
      match place with
      | none => some filled
      | some i =>
        match filled[i]? with
        | none => some filled
        | some none => some (filled.set i (some a))
        | some (some _) => none

/-- Without entries every slot is empty. -/
theorem slots_nil {α : Type} (count : Nat) :
    slots (α := α) count [] = some (List.replicate count none) := rfl

namespace Value

/-- The items as the leading slots of a record with `count` fields; too many
items are refused. -/
def positional {α : Type} (count : Nat) (items : List α) : Option (List (Option α)) :=
  if items.length ≤ count then
    some (items.map some ++ List.replicate (count - items.length) none)
  else none

/-- The place of a record's key among the field names: `some none` for a key that
names no field, `none` for a key that can be no field name. -/
def fieldPlace (names : List String) : Value → Option (Option Nat)
  | .text s => some (names.idxOf? s)
  | .index n => some (if n < names.length then some n else none)
  | _ => none

/-- The fields of a record, one slot for each name. -/
def fields? (names : List String) : Value → Option (List (Option Value))
  | .record entries => do
    let placed ← entries.mapM fun (key, v) => do return (← fieldPlace names key, v)
    slots names.length placed
  | .list items => positional names.length items
  | _ => none

/-- A text. -/
def text? : Value → Option String
  | .text s => some s
  | _ => none

/-- A truth value. -/
def bool? : Value → Option Bool
  | .bool b => some b
  | _ => none

/-- A natural number below `2 ^ 64`. -/
def index? : Value → Option Nat
  | .index n => some n
  | _ => none

/-- A list whose items all are texts. -/
def texts? : Value → Option (List String)
  | .list items => items.mapM text?
  | _ => none

/-- Reads a field that may be left out or null. -/
def optional {α : Type} (read : Value → Option α) : Option Value → Option (Option α)
  | none => some none
  | some .null => some none
  | some v => (read v).map some

end Value

end LogProblems.Document
