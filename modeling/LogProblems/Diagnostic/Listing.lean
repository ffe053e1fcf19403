import Std.Data.HashMap
import LogProblems.Diagnostic.Record

/-!
# Diagnostics by file

A `Listing` groups records by path.  Paths stand in the order in which their
first record came, records of one path in the order in which they came.  An
index from path to place makes filing a record independent of the number of
files.

* `push_new` and `push_known` say what filing a record does to the files.
-/

set_option autoImplicit false

namespace LogProblems

/-- All records filed under one path, in order. -/
structure FileRecords where
  path : String
  records : Array Record
  deriving DecidableEq, Repr, Inhabited

/-- Records grouped by path, with the place of each path. -/
structure Listing where
  files : Array FileRecords := #[]
  index : Std.HashMap String Nat := ∅
  deriving Inhabited

namespace Listing

/-- The listing without any record. -/
def empty : Listing := {}

/-- Files `record` under `path`, at the end of that path's records. -/
def push (l : Listing) (path : String) (record : Record) : Listing :=
  match l.index[path]? with
  | some i =>
    { l with files := l.files.modify i fun f => { f with records := f.records.push record } }
  | none =>
    { files := l.files.push ⟨path, #[record]⟩, index := l.index.insert path l.files.size }

/-- The records of `path`, or nothing when none was filed there. -/
def get? (l : Listing) (path : String) : Option (Array Record) :=
  (l.index[path]?).bind fun i => (l.files[i]?).map (·.records)

/-- The paths, in order of their first record. -/
def paths (l : Listing) : List String :=
  l.files.toList.map (·.path)

/-- How many paths there are. -/
def size (l : Listing) : Nat :=
  l.files.size

/-- No record was filed. -/
def isEmpty (l : Listing) : Bool :=
  l.files.isEmpty

/-- How many records there are. -/
def total (l : Listing) : Nat :=
  l.files.foldl (fun n f => n + f.records.size) 0

/-- Files emissions one after the other. -/
def file (l : Listing) (emissions : List Emission) : Listing :=
  emissions.foldl (fun l e => l.push e.path e.record) l

/-- The listing of a sequence of emissions. -/
def ofEmissions (emissions : List Emission) : Listing :=
  empty.file emissions

/-- A path not yet known gets a place of its own at the end. -/
theorem push_new {l : Listing} {path : String} {record : Record} (h : l.index[path]? = none) :
    (l.push path record).files = l.files.push ⟨path, #[record]⟩ := by
  simp [push, h]

/-- A known path gets the record at the end of its own. -/
theorem push_known {l : Listing} {path : String} {record : Record} {i : Nat}
    (h : l.index[path]? = some i) :
    (l.push path record).files
      = l.files.modify i fun f => { f with records := f.records.push record } := by
  simp [push, h]

/-- Filing two runs of emissions is filing the first and then the second. -/
theorem file_append (l : Listing) (first second : List Emission) :
    l.file (first ++ second) = (l.file first).file second := by
  simp [file]

end Listing

end LogProblems
