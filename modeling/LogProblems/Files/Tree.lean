/-!
# A tree of files

Files and directories below one directory, named by paths relative to it.  A path
is walked part by part; each part but the last must be a directory.  What lies
outside the tree is not known: above it there are only directories.

* `found?_put`: what is put at a place stands there.
-/

set_option autoImplicit false

namespace LogProblems

/-- Why a file cannot be read or written. -/
inductive IoFault where
  | notFound
  | isDirectory
  | notDirectory
  | nameTooLong
  /-- A name holds the character U+0000. -/
  | nulInName
  /-- The file is not UTF-8. -/
  | notText
  deriving DecidableEq, Repr, Inhabited

/-- The wording of a fault. -/
def IoFault.message : IoFault → String
  | notFound => "No such file or directory (os error 2)"
  | isDirectory => "Is a directory (os error 21)"
  | notDirectory => "Not a directory (os error 20)"
  | nameTooLong => "File name too long (os error 36)"
  | nulInName => "file name contained an unexpected NUL byte"
  | notText => "stream did not contain valid UTF-8"

/-- What a name stands for. -/
inductive Entry where
  | file (content : List UInt8)
  | directory
  deriving DecidableEq, Repr, Inhabited

/-- Files and directories by the parts of their paths. -/
structure FileTree where
  entries : List (List String × Entry) := []
  deriving DecidableEq, Repr, Inhabited

namespace FileTree

/-- The parts of a path between its slashes. -/
def parts (path : String) : List String :=
  (path.splitOn "/").filter (!·.isEmpty)

/-- The greatest length of a name, in octets. -/
def nameLimit : Nat := 255

/-- The place stands outside the tree, where every directory exists. -/
def isOutside (place : List String) : Bool :=
  place == ["/"] || place.all (· == "..")

/-- What stands at a place. -/
def found? (t : FileTree) (place : List String) : Option Entry :=
  if isOutside place then some .directory else t.entries.lookup place

/-- The place above a place. -/
def parent (place : List String) : List String :=
  if place == ["/"] then place
  else if place.all (· == "..") then place ++ [".."]
  else place.dropLast

/-- Walks from a place along the parts of a path. -/
def walk (t : FileTree) : List String → List String → Except IoFault (List String)
  | place, [] => .ok place
  | place, name :: rest =>
    match t.found? place with
    | none => .error .notFound
    | some (.file _) => .error .notDirectory
    | some .directory =>
      if name.utf8ByteSize > nameLimit then .error .nameTooLong
      else if name = "." then walk t place rest
      else if name = ".." then walk t (parent place) rest
      else walk t (place ++ [name]) rest

/-- The place a path names, which need not exist. -/
def locate (t : FileTree) (path : String) : Except IoFault (List String) :=
  if path.toList.contains (Char.ofNat 0) then .error .nulInName
  else if path.isEmpty then .error .notFound
  else t.walk (if path.startsWith "/" then ["/"] else []) (parts path)

/-- The content of a file. -/
def read (t : FileTree) (path : String) : Except IoFault (List UInt8) :=
  match t.locate path with
  | .error fault => .error fault
  | .ok place =>
    match t.found? place with
    | none => .error .notFound
    | some .directory => .error .isDirectory
    | some (.file content) => if path.endsWith "/" then .error .notDirectory else .ok content

/-- A file or directory of that name exists. -/
def exists? (t : FileTree) (path : String) : Bool :=
  match t.read path with
  | .ok _ => true
  | .error fault => fault == .isDirectory

/-- Puts an entry at a place, over what stood there. -/
def put (t : FileTree) (place : List String) (e : Entry) : FileTree :=
  { entries := (place, e) :: t.entries.filter (·.1 != place) }

/-- Writes a file, over the one that stood there. -/
def write (t : FileTree) (path : String) (content : List UInt8) : Except IoFault FileTree :=
  match t.locate path with
  | .error fault => .error fault
  | .ok place =>
    match t.found? place with
    | some .directory => .error .isDirectory
    | some (.file _) =>
      if path.endsWith "/" then .error .notDirectory else .ok (t.put place (.file content))
    | none =>
      if path.endsWith "/" then .error .isDirectory else .ok (t.put place (.file content))

/-- Walks from a place along the parts of a path, making the directories that are missing. -/
def walkMaking (t : FileTree) : List String → List String → FileTree × List String
  | here, [] => (t, here)
  | here, name :: rest =>
    let t := if (t.found? here).isNone then t.put here .directory else t
    if name = "." then walkMaking t here rest
    else if name = ".." then walkMaking t (parent here) rest
    else walkMaking t (here ++ [name]) rest

/-- Puts an entry at the place a path names, with the directories above it. -/
def place (t : FileTree) (path : String) (e : Entry) : FileTree :=
  let (t, here) := t.walkMaking (if path.startsWith "/" then ["/"] else []) (parts path)
  t.put here e

/-- The text of a file. -/
def readText (t : FileTree) (path : String) : Except IoFault String :=
  match t.read path with
  | .error fault => .error fault
  | .ok content =>
    match String.fromUTF8? ⟨content.toArray⟩ with
    | some s => .ok s
    | none => .error .notText

/-- What is put at a place inside the tree stands there. -/
theorem found?_put {t : FileTree} {place : List String} {e : Entry}
    (h : isOutside place = false) : (t.put place e).found? place = some e := by
  simp [found?, put, h]

end FileTree

end LogProblems
