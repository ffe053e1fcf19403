import LogProblems.Document.Json.Printer
import LogProblems.Settings.Document
import LogProblems.Text.Utf8

/-!
# Sessions

A session remembers the last parser, the matchers chosen for each parser, and the last
log.  What the settings no longer define is forgotten when it is asked for.

The titles of the parsers stand in the order of the parsers' names, whatever the order was in
which they were chosen or written; so a session holds nothing but what it remembers.

* `Session.setTitles_ordered`: the order stays when titles are set;
* `Session.lookup_setTitles`: what is remembered for a parser is what was set last.
-/

set_option autoImplicit false

namespace LogProblems

open LogProblems.Document LogProblems.Matcher

/-- The parsers stand in the order of their names, each once. -/
def Session.Ordered (all : List (String × List String)) : Prop :=
  all.Pairwise fun e e' => e.1 < e'.1

instance (all : List (String × List String)) : Decidable (Session.Ordered all) :=
  inferInstanceAs (Decidable (all.Pairwise _))

theorem Session.ordered_nil : Session.Ordered [] :=
  List.Pairwise.nil

/-- The scan history of a host. -/
@[ext]
structure Session where
  parser : Option String := none
  /-- The titles chosen for each parser. -/
  matchers : List (String × List String) := []
  log : Option String := none
  ordered : Session.Ordered matchers := by exact Session.ordered_nil
  deriving DecidableEq, Repr

instance : Inhabited Session := ⟨{}⟩

/-- What is to be scanned. -/
inductive ScanRequest where
  | rescan
  | rescanWith (selection : Selection)
  | scanFile (selection : Selection) (log : String)
  deriving DecidableEq, Repr, Inhabited

/-- A scan that can be run. -/
structure ResolvedScan where
  selection : Selection
  log : String
  definitions : List Definition
  deriving DecidableEq, Repr, Inhabited

namespace Session

/-! ## Titles by parser -/

/-- Sets the titles of one parser. -/
def setTitles (name : String) (titles : List String) :
    List (String × List String) → List (String × List String)
  | [] => [(name, titles)]
  | (n, ts) :: rest =>
    if name = n then (n, titles) :: rest
    else if name < n then (name, titles) :: (n, ts) :: rest
    else (n, ts) :: setTitles name titles rest

/-- Sets the titles of several parsers; of two entries for one parser the last counts. -/
def inOrder (entries : List (String × List String)) : List (String × List String) :=
  entries.foldl (fun all e => setTitles e.1 e.2 all) []

section

variable {name : String} {titles : List String} {all : List (String × List String)}

/-- What is remembered for a parser is what was set last. -/
theorem lookup_setTitles (name : String) (titles : List String)
    (all : List (String × List String)) :
    (setTitles name titles all).lookup name = some titles := by
  induction all with
  | nil => simp [setTitles]
  | cons e rest ih =>
    obtain ⟨n, ts⟩ := e
    by_cases h : name = n
    · simp [setTitles, h]
    · by_cases hlt : name < n
      · simp [setTitles, h, hlt]
      · have hb : (name == n) = false := by simpa using h
        simp [setTitles, h, hlt, List.lookup_cons, hb, ih]

theorem fst_mem_setTitles {e : String × List String} (h : e ∈ setTitles name titles all) :
    e.1 = name ∨ e ∈ all := by
  induction all with
  | nil =>
    rw [setTitles, List.mem_singleton] at h
    exact Or.inl (by rw [h])
  | cons first rest ih =>
    obtain ⟨n, ts⟩ := first
    rw [setTitles] at h
    split at h
    · next heq =>
      rcases List.mem_cons.1 h with rfl | h
      · exact Or.inl heq.symm
      · exact Or.inr (List.mem_cons_of_mem _ h)
    · split at h
      · rcases List.mem_cons.1 h with rfl | h
        · exact Or.inl rfl
        · exact Or.inr h
      · rcases List.mem_cons.1 h with rfl | h
        · exact Or.inr List.mem_cons_self
        · exact (ih h).imp_right (List.mem_cons_of_mem _)

theorem lt_of_not_lt_of_ne {a b : String} (h : ¬ a < b) (hne : a ≠ b) : b < a :=
  Classical.byContradiction fun hlt =>
    hne (String.le_antisymm (String.not_lt.1 hlt) (String.not_lt.1 h))

theorem setTitles_ordered (name : String) (titles : List String) (h : Ordered all) :
    Ordered (setTitles name titles all) := by
  induction all with
  | nil => exact List.pairwise_singleton _ _
  | cons first rest ih =>
    obtain ⟨n, ts⟩ := first
    obtain ⟨hfirst, hrest⟩ := List.pairwise_cons.1 h
    rw [setTitles]
    split
    · exact List.pairwise_cons.2 ⟨hfirst, hrest⟩
    · next hne =>
      split
      · next hlt =>
        refine List.pairwise_cons.2 ⟨fun e he => ?_, h⟩
        rcases List.mem_cons.1 he with rfl | he
        · exact hlt
        · exact String.lt_trans hlt (hfirst e he)
      · next hlt =>
        refine List.pairwise_cons.2 ⟨fun e he => ?_, ih hrest⟩
        rcases fst_mem_setTitles he with heq | he
        · rw [heq]
          exact lt_of_not_lt_of_ne hlt hne
        · exact hfirst e he

theorem inOrder_ordered (entries : List (String × List String)) : Ordered (inOrder entries) :=
  List.foldlRecOn entries _ ordered_nil fun _ h e _ => setTitles_ordered e.1 e.2 h

end

/-! ## Requests -/

/-- Remembers what was scanned. -/
def record (s : Session) (selection : Selection) (log : String) : Session :=
  { parser := some selection.parser
    matchers := setTitles selection.parser selection.matchers s.matchers
    log := some log
    ordered := setTitles_ordered _ _ s.ordered }

/-- The titles remembered for a parser as far as they still exist, or the default ones. -/
def preselected (s : Session) (settings : Settings) (parser : String) :
    Except SelectionFault Selection :=
  match settings.titles parser with
  | .error fault => .error fault
  | .ok titles =>
    let present := ((s.matchers.lookup parser).getD []).filter fun t => titles.contains t
    if present.isEmpty then settings.defaultSelection parser
    else .ok { parser, matchers := present }

/-- The remembered parser if it still has matchers, or the first one. -/
def usualParser (s : Session) (settings : Settings) : Except SelectionFault String :=
  match s.parser with
  | some p =>
    match settings.matchers p with
    | .ok _ => .ok p
    | .error _ => settings.defaultParser
  | none => settings.defaultParser

/-- The remembered log. -/
def rememberedLog (s : Session) : Except SelectionFault String :=
  match s.log with
  | some log => .ok log
  | none => .error .noLogFile

/-- What a request means in this session. -/
def resolve (s : Session) (settings : Settings) (request : ScanRequest) :
    Except SelectionFault ResolvedScan := do
  let (selection, log) ← match request with
    | .rescan => do
      let parser ← s.usualParser settings
      let selection ← s.preselected settings parser
      pure (selection, ← s.rememberedLog)
    | .rescanWith selection => do pure (selection, ← s.rememberedLog)
    | .scanFile selection log => pure (selection, log)
  let definitions ← settings.select selection
  return { selection, log, definitions }

/-! ## Documents -/

/-- Reads the titles of each parser, as they are written. -/
def titlesOfNode? (n : Node) : Option (List (String × List String)) := do
  let entries ← n.entries?
  entries.mapM fun (name, v) => do
    return (name, ← (← v.items?).mapM Node.text?)

/-- Reads a session. -/
def ofNode? (n : Node) : Option Session := do
  match ← n.fields? ["parser", "matchers", "log"] with
  | [parser, matchers, log] =>
    let parser ← Node.optional Node.text? parser
    let entries ← match matchers with
      | none => some []
      | some m => titlesOfNode? m
    let log ← Node.optional Node.text? log
    return { parser, matchers := inOrder entries, log, ordered := inOrder_ordered entries }
  | _ => none

/-- The session as a document. -/
def toTree (s : Session) : Json.Tree :=
  let text (t : Option String) : Json.Tree := t.elim .null .text
  .record
    [("parser", text s.parser),
      ("matchers", .record (s.matchers.map fun (name, titles) =>
        (name, .list (titles.map .text)))),
      ("log", text s.log)]

/-- Loads a session; where there is no file, nothing is remembered. -/
def load (t : FileTree) (path : String) : Except DocumentFault Session :=
  if t.exists? path then
    match t.readText path with
    | .error fault => .error (.io fault)
    | .ok text =>
      match (Json.read text).bind ofNode? with
      | some s => .ok s
      | none => .error .json
  else .ok {}

/-- Saves a session. -/
def save (s : Session) (t : FileTree) (path : String) : Except DocumentFault FileTree :=
  match t.write path (Text.Utf8.encode s.toTree.pretty) with
  | .ok t => .ok t
  | .error fault => .error (.io fault)

end Session

end LogProblems
