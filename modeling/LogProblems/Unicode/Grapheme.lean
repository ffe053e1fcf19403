import LogProblems.Unicode.Property

/-!
# Grapheme clusters

What a reader takes for one character may be written with several: letters with marks, the
parts of a Hangul syllable, flags, and pictures joined to one.  The boundaries between such
clusters follow from classes of the characters on both sides, and for pictures and flags
from what stands before them.
-/

set_option autoImplicit false

namespace LogProblems.Unicode.Grapheme

/-- The classes of characters at boundaries. -/
inductive Class where
  | other
  | carriageReturn
  | lineFeed
  | control
  /-- Extends what stands before it. -/
  | extend
  | joiner
  | spacingMark
  /-- Belongs to what stands after it. -/
  | prepend
  | regionalIndicator
  | leading
  | vowel
  | trailing
  /-- A Hangul syllable without trailing consonant. -/
  | openSyllable
  /-- A Hangul syllable with trailing consonant. -/
  | closedSyllable
  deriving DecidableEq, Repr, Inhabited

/-- The names of the classes. -/
def names : List (List String × Class) :=
  [(["CR"], .carriageReturn), (["LF"], .lineFeed), (["CN", "Control"], .control),
    (["EX", "Extend"], .extend), (["ZWJ"], .joiner), (["SM", "SpacingMark"], .spacingMark),
    (["PP", "Prepend"], .prepend), (["RI", "Regional_Indicator"], .regionalIndicator),
    (["L"], .leading), (["V"], .vowel), (["T"], .trailing), (["LV"], .openSyllable),
    (["LVT"], .closedSyllable)]

/-- The control characters and the format characters without a class of their own. -/
def controls : CharSet :=
  .ofTable
    ["0-9 B-C E-1F 7F-9F AD 61C 180E 200B 200E-200F 2028-202E 2060-206F FEFF FFF0-FFFB",
      "13430-1343F 1BCA0-1BCA3 1D173-1D17A E0000-E001F E0080-E00FF E01F0-E0FFF"]

/-- The characters that belong to what stands after them. -/
def prepended : CharSet :=
  .ofTable
    ["600-605 6DD 70F 890-891 8E2 D4E 110BD 110CD 111C2-111C3 1193F 11941 11A3A 11A84-11A89",
      "11D46 11F02"]

/-- The spacing marks. -/
def spacingMarks : CharSet :=
  .ofTable
    ["903 93B 93E-940 949-94C 94E-94F 982-983 9BF-9C0 9C7-9C8 9CB-9CC A03 A3E-A40 A83 ABE-AC0",
      "AC9 ACB-ACC B02-B03 B40 B47-B48 B4B-B4C BBF BC1-BC2 BC6-BC8 BCA-BCC C01-C03 C41-C44",
      "C82-C83 CBE CC0-CC1 CC3-CC4 CC7-CC8 CCA-CCB CF3 D02-D03 D3F-D40 D46-D48 D4A-D4C D82-D83",
      "DD0-DD1 DD8-DDE DF2-DF3 E33 EB3 F3E-F3F F7F 1031 103B-103C 1056-1057 1084 1715 1734 17B6",
      "17BE-17C5 17C7-17C8 1923-1926 1929-192B 1930-1931 1933-1938 1A19-1A1A 1A55 1A57",
      "1A6D-1A72 1B04 1B3B 1B3D-1B41 1B43-1B44 1B82 1BA1 1BA6-1BA7 1BAA 1BE7 1BEA-1BEC 1BEE",
      "1BF2-1BF3 1C24-1C2B 1C34-1C35 1CE1 1CF7 A823-A824 A827 A880-A881 A8B4-A8C3 A952-A953",
      "A983 A9B4-A9B5 A9BA-A9BB A9BE-A9C0 AA2F-AA30 AA33-AA34 AA4D AAEB AAEE-AAEF AAF5",
      "ABE3-ABE4 ABE6-ABE7 ABE9-ABEA ABEC 11000 11002 11082 110B0-110B2 110B7-110B8 1112C",
      "11145-11146 11182 111B3-111B5 111BF-111C0 111CE 1122C-1122E 11232-11233 11235",
      "112E0-112E2 11302-11303 1133F 11341-11344 11347-11348 1134B-1134D 11362-11363",
      "11435-11437 11440-11441 11445 114B1-114B2 114B9 114BB-114BC 114BE 114C1 115B0-115B1",
      "115B8-115BB 115BE 11630-11632 1163B-1163C 1163E 116AC 116AE-116AF 116B6 11726",
      "1182C-1182E 11838 11931-11935 11937-11938 1193D 11940 11942 119D1-119D3 119DC-119DF",
      "119E4 11A39 11A57-11A58 11A97 11C2F 11C3E 11CA9 11CB1 11CB4 11D8A-11D8E 11D93-11D94",
      "11D96 11EF5-11EF6 11F03 11F34-11F35 11F3E-11F3F 11F41 16F51-16F87 16FF0-16FF1 1D166",
      "1D16D"]

/-- The Hangul syllables. -/
def syllables : CharSet := .range 0xAC00 0xD7A3

/-- The number of Hangul syllables that differ in their trailing consonant only. -/
def trailingCount : Nat := 28

/-- The Hangul syllables without trailing consonant. -/
def openSyllables : CharSet :=
  .ofRanges ((List.range 399).map fun i => (0xAC00 + trailingCount * i, 0xAC00 + trailingCount * i))

/-- The characters of a class that has a set of its own. -/
def Class.set : Class → CharSet
  | other => .empty
  | carriageReturn => .single 0x0D
  | lineFeed => .single 0x0A
  | control => controls
  | extend => (Property.named "Grapheme_Extend").union (Property.named "Emoji_Modifier")
  | joiner => .single 0x200D
  | spacingMark => spacingMarks
  | prepend => prepended
  | regionalIndicator => Property.named "Regional_Indicator"
  | leading => .ofLine "1100-115F A960-A97C"
  | vowel => .ofLine "1160-11A7 D7B0-D7C6"
  | trailing => .ofLine "11A8-11FF D7CB-D7FB"
  | openSyllable => openSyllables
  | closedSyllable => syllables.diff openSyllables

/-- The characters of the class with a loosely spelled name. -/
def ofName? (loose : String) : Option CharSet :=
  (names.find? fun row => row.1.any fun name => looseName name == loose).map (·.2.set)

/-- The characters of pictures. -/
def pictures : CharSet := Property.named "Extended_Pictographic"

/-- The classes with their characters. -/
def classes : List (Class × CharSet) :=
  names.map fun row => (row.2, row.2.set)

/-- The class of a character. -/
def classOf (c : Char) : Class :=
  ((classes.find? fun row => row.2.contains c).map (·.1)).getD .other

/-- What is between two characters, as far as their classes tell. -/
inductive Joint where
  | boundary
  | none
  /-- None if a picture stands before, with nothing but extending characters after it. -/
  | afterPicture
  /-- None if an even number of regional indicators stands before the first. -/
  | betweenFlags
  deriving DecidableEq, Repr, Inhabited

/-- A character that ends a cluster and stands alone. -/
def Class.isControl (k : Class) : Bool :=
  k == .control || k == .carriageReturn || k == .lineFeed

/-- What is between characters of two classes. -/
def joint (before after : Class) (picture : Bool) : Joint :=
  if before == .carriageReturn && after == .lineFeed then .none
  else if before.isControl || after.isControl then .boundary
  else
    match before, after with
    | .leading, .leading => .none
    | .leading, .vowel => .none
    | .leading, .openSyllable => .none
    | .leading, .closedSyllable => .none
    | .openSyllable, .vowel => .none
    | .openSyllable, .trailing => .none
    | .vowel, .vowel => .none
    | .vowel, .trailing => .none
    | .closedSyllable, .trailing => .none
    | .trailing, .trailing => .none
    | _, .extend => .none
    | _, .joiner => .none
    | _, .spacingMark => .none
    | .prepend, _ => .none
    | .joiner, _ => if picture then .afterPicture else .boundary
    | .regionalIndicator, .regionalIndicator => .betweenFlags
    | _, _ => .boundary

/-- A boundary is before `after`, where `before` are the characters before it, the last
first. -/
def isBoundary (before : List Char) (after : Option Char) : Bool :=
  match before, after with
  | [], _ => true
  | _, none => true
  | b :: earlier, some a =>
    match joint (classOf b) (classOf a) (pictures.contains a) with
    | .boundary => true
    | .none => false
    | .afterPicture =>
      !(earlier.dropWhile fun c => !pictures.contains c && classOf c == .extend).head?.any
        pictures.contains
    | .betweenFlags =>
      (earlier.takeWhile fun c => classOf c == .regionalIndicator).length % 2 == 1

end LogProblems.Unicode.Grapheme
