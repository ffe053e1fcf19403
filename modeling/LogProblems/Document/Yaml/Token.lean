import LogProblems.Document.Yaml.Cursor

/-!
# Tokens of YAML

A YAML text is a list of tokens: indicators, scalars, and marks for the starts and ends
of blocks, which are seen only by indentation.
-/

set_option autoImplicit false

namespace LogProblems.Document.Yaml

/-- How a scalar is written. -/
inductive Style where
  | plain
  | singleQuoted
  | doubleQuoted
  /-- A block whose line ends are kept. -/
  | literal
  /-- A block whose line ends are folded. -/
  | folded
  deriving DecidableEq, Repr, Inhabited

/-- A part of a YAML text. -/
inductive Token where
  /-- `%YAML` -/
  | version (major minor : Nat)
  /-- `%TAG`: a handle and what it stands for. -/
  | shorthand (handle : String) (meaning : List UInt8)
  /-- `---` -/
  | documentStart
  /-- `...` -/
  | documentEnd
  | blockList
  | blockRecord
  | blockEnd
  | flowList
  | flowListEnd
  | flowRecord
  | flowRecordEnd
  /-- `-` -/
  | item
  /-- `,` -/
  | comma
  /-- `?`, or unwritten before a key on one line. -/
  | key
  /-- `:` -/
  | value
  | alias (name : String)
  | anchor (name : String)
  /-- A tag of which the handle is still to be resolved; without a handle it is whole. -/
  | tag (handle : String) (suffix : List UInt8)
  | scalar (style : Style) (text : String)
  deriving DecidableEq, Repr, Inhabited

end LogProblems.Document.Yaml
