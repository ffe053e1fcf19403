import LogProblems.Pattern.Extended.Escape

/-!
# Reading bracketed sets of the extended notation

A bracketed set holds characters, intervals, classes and other sets; two ampersands
take what both sides have.  A hyphen stands for itself where it cannot join the ends
of an interval.
-/

set_option autoImplicit false

namespace LogProblems.Pattern.Extended

open LogProblems.Unicode Reader

/-- An end of an interval: a code point, or an octet that is no character and lies
below all others. -/
structure End where
  code : Nat
  octet : Bool
  deriving DecidableEq, Repr, Inhabited

/-- The end is a single octet. -/
def End.isNarrow (e : End) : Bool :=
  e.octet || e.code < 0x80

/-- The characters an end stands for alone. -/
def End.set (e : End) : CharSet :=
  if e.octet then .empty else .single e.code

/-- The characters from one end to another, which must not lie below the first.
Between two single octets lie only characters that are single octets. -/
def End.to? (lo hi : End) : Option CharSet :=
  if hi.code < lo.code then none
  else if lo.isNarrow && hi.isNarrow then some (.range lo.code (Nat.min hi.code 0x7F))
  else some (.range lo.code hi.code)

/-- A piece of a bracketed set. -/
inductive Piece where
  | finish
  | hyphen
  | opening
  | both
  | character (e : End)
  | members (s : CharSet)
  deriving Repr, Inhabited

/-! ## Names in brackets -/

/-- A colon and a closing bracket come before any other closing bracket. -/
def namedEnd : Bool → List Char → Bool
  | _, [] => false
  | true, _ :: cs => namedEnd false cs
  | false, ':' :: ']' :: _ => true
  | false, c :: cs =>
    if c == ']' then false else if c == '\\' then namedEnd true cs else namedEnd false cs

/-- A text without another one at its front. -/
def withoutLead? (lead : String) (cs : List Char) : Option (List Char) :=
  if lead.toList.isPrefixOf cs then some (cs.drop lead.length) else none

/-- The names of sets in brackets. -/
def setNames : List String :=
  ["alnum", "alpha", "blank", "cntrl", "digit", "graph", "lower", "print", "punct", "space",
    "upper", "xdigit", "ascii", "word"]

/-- A named set: a set, no such set although it is written like one, or something
else. -/
inductive Named where
  | found (s : CharSet) (rest : List Char)
  | unknown
  | other

/-- A named set at the front of a text, behind its bracket and colon. -/
def namedMember (o : Options) (cs : List Char) : Named :=
  let (negated, cs) :=
    match cs with
    | '^' :: cs => (true, cs)
    | cs => (false, cs)
  let foreign : Named :=
    -- At most twenty characters are looked at for the end of a name.
    let name := (cs.take 21).takeWhile fun c => c != ':' && c != ']'
    match (if name.length ≤ 20 then cs.drop name.length else []) with
    | ':' :: ']' :: _ => .unknown
    | _ => .other
  if cs.length < 7 then foreign
  else
    match setNames.findSome? fun name => (withoutLead? name cs).map fun rest => (name, rest) with
    | none => foreign
    | some (name, rest) =>
      match withoutLead? ":]" rest, namedSet? o name with
      | some rest, some s => .found (if negated then s.complement else s) rest
      | _, _ => .unknown

/-! ## Pieces -/

/-- Reads the octets of a character that begins with the given one. -/
def moreOctets (o : Options) (base : Nat) : Nat → List Nat → Reader (List Nat)
  | 0, octets => return octets.reverse
  | n + 1, octets => do
    expect '\\'
    let c ← next
    let e ←
      match octalDigit? c with
      | some _ => do
        goTo (c :: (← rest))
        octalOctet 3
      | none => do
        goTo (c :: (← rest))
        simpleEscape o true
    match e with
    | .octet b base' => if base' = base then moreOctets o base n (b :: octets) else failure
    | _ => failure

/-- Reads the next piece of a set. -/
def piece (o : Options) : Reader Piece := do
  let literal (n : Nat) : Reader Piece :=
    match codePoint? n with
    | some n => return .character ⟨n, false⟩
    | none => failure
  match ← next with
  | ']' => return .finish
  | '-' => return .hyphen
  | '&' =>
    if (← peek?) == some '&' then
      let _ ← next
      return .both
    return .character ⟨'&'.toNat, false⟩
  | '[' =>
    match ← rest with
    | ':' :: cs =>
      if namedEnd false cs then
        match namedMember o cs with
        | .found s after =>
          goTo after
          return .members s
        | .unknown => failure
        | .other => return .character ⟨'['.toNat, false⟩
      return .opening
    | _ => return .opening
  | '\\' =>
    let e ←
      match (← peek?).bind octalDigit? with
      | some _ => octalOctet 3
      | none => simpleEscape o true
    match e with
    | .code n => literal n
    | .set s => return .members s
    | .octet b base =>
      let octets ← moreOctets o base (octetCount b - 1) [b]
      match octets with
      | [b] => return .character ⟨b, 0x80 ≤ b⟩
      | _ =>
        let some n := decodeOctets? octets | failure
        return .character ⟨n, false⟩
  | c => literal c.toNat

/-! ## Sets -/

/-- What has been read but not yet put into the set. -/
inductive Pending where
  | start
  /-- A character that may begin an interval. -/
  | character (e : End)
  /-- A class, which may not. -/
  | members
  /-- The start of an interval whose end must follow. -/
  | interval (lo : End)
  /-- An interval or a set has just ended. -/
  | complete
  deriving Repr, Inhabited

/-- A set under way: what stands before the last ampersands, the members after them,
and what is pending. -/
structure Draft where
  before : Option CharSet := none
  members : List CharSet := []
  pending : Pending := .start

/-- The members so far as one set. -/
def Draft.joined (d : Draft) : CharSet :=
  .ofRanges (d.members.flatMap fun s => s.ranges.toList)

/-- Puts a pending character into the set. -/
def Draft.flush (d : Draft) : Draft :=
  match d.pending with
  | .character e => { d with members := e.set :: d.members }
  | _ => d

/-- Adds a character. -/
def Draft.character (d : Draft) (e : End) : Option Draft :=
  match d.pending with
  | .interval lo => do
    let s ← lo.to? e
    return { d with members := s :: d.members, pending := .complete }
  | _ => some { d.flush with pending := .character e }

/-- Adds a class, which cannot end an interval. -/
def Draft.addClass (d : Draft) (s : CharSet) : Option Draft :=
  match d.pending with
  | .interval _ => none
  | _ => some { d.flush with members := s :: d.flush.members, pending := .members }

/-- Begins another side of two ampersands. -/
def Draft.newSide (d : Draft) : Draft :=
  let side := d.flush.joined
  { before := some (d.before.elim side (·.inter side)) }

/-- The whole set. -/
def Draft.total (d : Draft) : CharSet :=
  d.newSide.before.getD .empty

/-- The hyphen as a character. -/
def hyphenEnd : End := ⟨'-'.toNat, false⟩

mutual

/-- Reads a set from behind its opening bracket: whether it is negated, and its members
before negation. -/
def bracketed (o : Options) : Nat → Reader (Bool × CharSet)
  | 0 => failure
  | fuel + 1 => do
    let negated := (← peek?) == some '^'
    if negated then
      let _ ← next
    if (← peek?) == some ']' then
      -- A closing bracket stands for itself at the start, if another one follows.
      let _ ← next
      unless (← rest).contains ']' do failure
      let d ← setMembers o fuel { pending := .character ⟨']'.toNat, false⟩ } none
      return (negated, d.total)
    let d ← setMembers o fuel {} none
    return (negated, d.total)

/-- Reads pieces up to the closing bracket; one may have been read already. -/
def setMembers (o : Options) : Nat → Draft → Option Piece → Reader Draft
  | 0, _, _ => failure
  | fuel + 1, d, early => do
    let p ←
      match early with
      | some p => pure p
      | none => piece o
    let orFail (d : Option Draft) : Reader Draft :=
      match d with
      | some d => return d
      | none => failure
    match p with
    | .finish => return d.flush
    | .character e => setMembers o fuel (← orFail (d.character e)) none
    | .members s => setMembers o fuel (← orFail (d.addClass s)) none
    | .both => setMembers o fuel d.newSide none
    | .opening =>
      let (negated, s) ← bracketed o fuel
      let s := if negated then s.complement else s
      setMembers o fuel { d.flush with members := s :: d.flush.members, pending := .complete } none
    | .hyphen =>
      match d.pending with
      | .character lo =>
        match ← piece o with
        | .finish => setMembers o fuel (← orFail (d.character hyphenEnd)) (some .finish)
        | .both => setMembers o fuel (← orFail (d.character hyphenEnd)) (some .both)
        | p => setMembers o fuel { d with pending := .interval lo } (some p)
      | .members =>
        match ← piece o with
        | .finish => setMembers o fuel (← orFail (d.character hyphenEnd)) (some .finish)
        | .both => setMembers o fuel (← orFail (d.character hyphenEnd)) (some .both)
        | _ => failure
      | _ => setMembers o fuel (← orFail (d.character hyphenEnd)) none

end

end LogProblems.Pattern.Extended
