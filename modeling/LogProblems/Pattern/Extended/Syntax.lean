import LogProblems.Unicode.CharSet

/-!
# The extended notation

A pattern in the extended notation as it is written, with the options in force
already applied: sets are sets of characters, and texts that match in any letter
case are kept folded.

* `Syntax.repeat'`: a repetition of a repetition is a single one where that says the
  same.
-/

set_option autoImplicit false

namespace LogProblems.Pattern.Extended

open LogProblems.Unicode

/-- A condition on a place in the text. -/
inductive Place where
  /-- At the start of the text. -/
  | textStart
  /-- At the end of the text. -/
  | textEnd
  /-- At the end of the text or before a line feed that ends it. -/
  | lastLineEnd
  /-- At the start of the text, or after a line feed that does not end it. -/
  | lineStart
  /-- At the end of the text or before a line feed. -/
  | lineEnd
  /-- Between a character of the set and one outside it. -/
  | boundary (word : CharSet)
  | noBoundary (word : CharSet)
  /-- Between two grapheme clusters. -/
  | clusterBoundary
  | noClusterBoundary
  deriving DecidableEq, Repr, Inhabited

/-- How often something is repeated, and whether more or fewer times are preferred. -/
structure Count where
  min : Nat
  max : Option Nat
  greedy : Bool
  deriving DecidableEq, Repr, Inhabited

/-- A group whose pattern is matched again. -/
inductive Target where
  | number (group : Nat)
  | name (name : String)
  deriving DecidableEq, Repr, Inhabited

/-- A pattern as written. -/
inductive Syntax where
  | empty
  /-- One character of a set. -/
  | chars (set : CharSet)
  /-- A text whose characters fold to these code points. -/
  | folded (codes : List Nat)
  | place (p : Place)
  /-- The match starts here. -/
  | keep
  /-- The text of the first of some groups that took part; at a level, that of the group
  as it was so many calls further in. -/
  | reference (groups : List Nat) (byName anyCase : Bool) (level : Option Int)
  /-- One of some groups took part, perhaps at a level. -/
  | present (groups : List Nat) (byName : Bool) (level : Option Int)
  | call (target : Target)
  | group (index : Nat) (named : Bool) (body : Syntax)
  | sequence (parts : List Syntax)
  | choice (choices : List Syntax)
  | repeated (body : Syntax) (count : Count)
  /-- Only the preferred match of the body counts. -/
  | atomic (body : Syntax)
  | ahead (negated : Bool) (body : Syntax)
  | behind (negated : Bool) (body : Syntax)
  | conditional (test yes no : Syntax)
  /-- The body, as if the text ended where `stop` first matches. -/
  | absent (stop body : Syntax)
  /-- From here on the text ends where `stop` first matches. -/
  | cut (stop : Syntax)
  /-- From here on the text ends at its end again. -/
  | uncut
  deriving Inhabited

/-! ## Repetitions of repetitions -/

/-- The repetitions with a sign of their own. -/
inductive Sign where
  | option
  | star
  | plus
  | lazyOption
  | lazyStar
  | lazyPlus
  deriving DecidableEq, Repr, Inhabited

/-- How often a sign repeats. -/
def Sign.count : Sign → Count
  | option => ⟨0, some 1, true⟩
  | star => ⟨0, none, true⟩
  | plus => ⟨1, none, true⟩
  | lazyOption => ⟨0, some 1, false⟩
  | lazyStar => ⟨0, none, false⟩
  | lazyPlus => ⟨1, none, false⟩

/-- The sign of a count, if it has one. -/
def Count.sign? (c : Count) : Option Sign :=
  [Sign.option, .star, .plus, .lazyOption, .lazyStar, .lazyPlus].find? (·.count == c)

/-- What becomes of a repetition inside another one. -/
inductive Nesting where
  /-- Both stay. -/
  | both
  /-- The inner one says it all. -/
  | inner
  /-- One repetition takes the place of both. -/
  | single (sign : Sign)
  /-- A lazy option of a greedy repetition of one and more times. -/
  | optionalPlus
  deriving DecidableEq, Repr, Inhabited

/-- What becomes of the first sign's repetition inside the second's. -/
def Sign.inside : Sign → Sign → Nesting
  | option, option => .inner
  | option, star => .single .star
  | option, plus => .single .star
  | option, lazyOption => .single .lazyOption
  | option, lazyStar => .single .lazyStar
  | option, lazyPlus => .both
  | star, lazyOption => .optionalPlus
  | star, lazyStar => .optionalPlus
  | star, _ => .inner
  | plus, option => .single .star
  | plus, star => .single .star
  | plus, plus => .inner
  | plus, lazyOption => .both
  | plus, lazyStar => .optionalPlus
  | plus, lazyPlus => .inner
  | lazyOption, option => .inner
  | lazyOption, lazyOption => .inner
  | lazyOption, _ => .single .lazyStar
  | lazyStar, _ => .inner
  | lazyPlus, option => .both
  | lazyPlus, star => .single .star
  | lazyPlus, plus => .single .plus
  | lazyPlus, lazyOption => .single .lazyStar
  | lazyPlus, lazyStar => .single .lazyStar
  | lazyPlus, lazyPlus => .inner

/-- A repetition; exactly one time is the body itself. -/
def Syntax.repeat' (body : Syntax) (count : Count) : Syntax :=
  if count.min = 1 && count.max == some 1 then body
  else
    match body with
    | .repeated inner innerCount =>
      match innerCount.sign?, count.sign? with
      | some a, some b =>
        match a.inside b with
        | .both => .repeated body count
        | .inner => body
        | .single sign => .repeated inner sign.count
        | .optionalPlus => .repeated (.repeated inner Sign.plus.count) Sign.lazyOption.count
      | _, _ => .repeated body count
    | _ => .repeated body count

/-- Parts in a row. -/
def Syntax.ofParts : List Syntax → Syntax
  | [] => .empty
  | [part] => part
  | parts => .sequence parts

/-- Choices side by side. -/
def Syntax.ofChoices : List Syntax → Syntax
  | [one] => one
  | several => .choice several

end LogProblems.Pattern.Extended
