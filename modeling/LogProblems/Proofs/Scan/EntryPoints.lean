import LogProblems.Proofs.Scan.InnerLoops
import LogProblems.Proofs.Scan.Interleaving
import LogProblems.Proofs.Text.Utf8

/-!
# Ways to hand a log to a scanner

A log is a file, a stream of octets, a list of lines, or it comes line by line.  A
stream is cut at the octets of its line feeds, and each piece is read by itself.  No
other character has an octet of a line end, so nothing changes when the whole stream is
read first and the text is cut.

* `textLines`: the lines of a text;
* `linesOfOctets_eq`: the lines of a stream are those of the text that is read;
* `lines_of_feedAll`: a scan counts the lines that it is fed;
* `entry_points_agree`: a scan has one outcome, however it is handed the log.
-/

set_option autoImplicit false

namespace LogProblems

open LogProblems.Matcher
open LogProblems.Text

/-! ## The lines of a text -/

section Lines

variable {α : Type} [DecidableEq α]

/-- A list without its last element, if that is the given one. -/
def withoutLast (a : α) (xs : List α) : List α :=
  if xs.getLast? = some a then xs.dropLast else xs

theorem withoutLast_concat (a : α) (xs : List α) : withoutLast a (xs ++ [a]) = xs := by
  simp [withoutLast]

theorem withoutLast_of_ne {a : α} {xs : List α} (h : xs.getLast? ≠ some a) :
    withoutLast a xs = xs :=
  if_neg h

theorem withoutLast_of_notMem {a : α} {xs : List α} (h : a ∉ xs) : withoutLast a xs = xs :=
  withoutLast_of_ne fun hlast => h (List.mem_of_getLast? hlast)

theorem withoutLast_cons {a : α} {xs : List α} (hne : xs ≠ []) (x : α) :
    withoutLast a (x :: xs) = x :: withoutLast a xs := by
  obtain ⟨y, rest, rfl⟩ := List.exists_cons_of_ne_nil hne
  unfold withoutLast
  rw [List.getLast?_cons_cons, List.dropLast_cons_cons]
  split <;> rfl

end Lines

/-- The lines of a text: the pieces between its line feeds, but for the last one if it is
empty, and each without a carriage return at its end. -/
def textLines (text : String) : List String :=
  (withoutLast [] (text.toList.splitOn '\n')).map fun piece =>
    String.ofList (withoutLast '\r' piece)

theorem textLines_of_notMem {text : List Char} (h : '\n' ∉ text) :
    textLines (String.ofList text)
      = if text = [] then [] else [String.ofList (withoutLast '\r' text)] := by
  rw [textLines, String.toList_ofList, List.splitOn_eq_singleton h]
  split
  · next hnil => rw [hnil]; rfl
  · next hne =>
    rw [withoutLast_of_notMem (by simpa using Ne.symm hne)]
    rfl

theorem textLines_append {text : List Char} (h : '\n' ∉ text) (later : List Char) :
    textLines (String.ofList (text ++ '\n' :: later))
      = String.ofList (withoutLast '\r' text) :: textLines (String.ofList later) := by
  rw [textLines, textLines, String.toList_ofList, String.toList_ofList,
    List.splitOn_append_cons_self_of_not_mem h, withoutLast_cons (List.splitOn_ne_nil _ _),
    List.map_cons]

/-! ## The lines of a stream -/

theorem linePiecesFrom_of_notMem {octets : List UInt8} (h : (0x0A : UInt8) ∉ octets)
    {piece : List UInt8} (hne : piece ≠ [] ∨ octets ≠ []) :
    linePiecesFrom piece octets = [piece.reverse ++ octets] := by
  induction octets generalizing piece with
  | nil =>
    have hpiece : piece ≠ [] := by simpa using hne
    simp [linePiecesFrom, hpiece]
  | cons b rest ih =>
    obtain ⟨hb, hrest⟩ := List.ne_and_not_mem_of_not_mem_cons h
    rw [linePiecesFrom, if_neg (Ne.symm hb), ih hrest (.inl (by simp))]
    simp

theorem linePiecesFrom_append {octets : List UInt8} (h : (0x0A : UInt8) ∉ octets)
    (piece later : List UInt8) :
    linePiecesFrom piece (octets ++ 0x0A :: later)
      = (piece.reverse ++ octets ++ [0x0A]) :: linePiecesFrom [] later := by
  induction octets generalizing piece with
  | nil => simp [linePiecesFrom]
  | cons b rest ih =>
    obtain ⟨hb, hrest⟩ := List.ne_and_not_mem_of_not_mem_cons h
    rw [List.cons_append, linePiecesFrom, if_neg (Ne.symm hb), ih hrest]
    simp

theorem stripLineEnd_eq (line : List UInt8) :
    stripLineEnd line = withoutLast 0x0D (withoutLast 0x0A line) :=
  rfl

/-- A line is read without its carriage return as it is read with it, and then without. -/
theorem decodeLossy_withoutLast (octets : List UInt8) :
    Utf8.decodeLossy (withoutLast 0x0D octets)
      = String.ofList (withoutLast '\r' (Utf8.decodeLossy octets).toList) := by
  have hascii : (0x0D : UInt8) < 0x80 := by decide
  by_cases hlast : octets.getLast? = some 0x0D
  · obtain ⟨line, rfl⟩ := List.getLast?_eq_some_iff.1 hlast
    have hline : (Utf8.decodeLossy (line ++ [0x0D])).toList
        = (Utf8.decodeLossy line).toList ++ ['\r'] :=
      Utf8.toList_decodeLossy_append hascii line []
    rw [withoutLast_concat, hline, withoutLast_concat, String.ofList_toList]
  · rw [withoutLast_of_ne hlast, withoutLast_of_ne, String.ofList_toList]
    intro hreturn
    exact hlast ((Utf8.decodes_decodeLossy octets).getLast_ascii hascii hreturn)

theorem linesOfOctets_append {line : List UInt8} (h : (0x0A : UInt8) ∉ line)
    (later : List UInt8) :
    linesOfOctets (line ++ 0x0A :: later)
      = Utf8.decodeLossy (withoutLast 0x0D line) :: linesOfOctets later := by
  rw [linesOfOctets, linePiecesFrom_append h, List.map_cons, stripLineEnd_eq, List.reverse_nil,
    List.nil_append, withoutLast_concat]
  rfl

theorem linesOfOctets_of_notMem {octets : List UInt8} (h : (0x0A : UInt8) ∉ octets) :
    linesOfOctets octets
      = if octets = [] then [] else [Utf8.decodeLossy (withoutLast 0x0D octets)] := by
  by_cases hnil : octets = []
  · rw [if_pos hnil, hnil]
    rfl
  · rw [if_neg hnil, linesOfOctets, linePiecesFrom_of_notMem h (.inr hnil), List.map_singleton,
      stripLineEnd_eq, List.reverse_nil, List.nil_append, withoutLast_of_notMem h]

/-- The lines of a stream are the lines of the text that it is read as. -/
theorem linesOfOctets_eq (octets : List UInt8) :
    linesOfOctets octets = textLines (Utf8.decodeLossy octets) := by
  have hascii : (0x0A : UInt8) < 0x80 := by decide
  have hmem : ∀ octets, '\n' ∈ (Utf8.decodeLossy octets).toList ↔ (0x0A : UInt8) ∈ octets :=
    fun octets => (Utf8.decodes_decodeLossy octets).mem_ascii_iff hascii
  induction hlength : octets.length using Nat.strongRecOn generalizing octets with
  | _ n ih =>
    by_cases hfeed : (0x0A : UInt8) ∈ octets
    · -- The first line and what comes after it are read apart.
      obtain ⟨line, later, rfl, hline⟩ := List.eq_append_cons_of_mem hfeed
      have hshorter : later.length < n := by
        rw [← hlength, List.length_append, List.length_cons]
        omega
      have hwhole : (Utf8.decodeLossy (line ++ 0x0A :: later)).toList
          = (Utf8.decodeLossy line).toList ++ '\n' :: (Utf8.decodeLossy later).toList :=
        Utf8.toList_decodeLossy_append hascii line later
      rw [linesOfOctets_append hline, ih _ hshorter later rfl, decodeLossy_withoutLast,
        ← String.ofList_toList (s := Utf8.decodeLossy (line ++ 0x0A :: later)), hwhole,
        textLines_append (mt (hmem line).1 hline), String.ofList_toList]
    · rw [linesOfOctets_of_notMem hfeed, decodeLossy_withoutLast,
        ← String.ofList_toList (s := Utf8.decodeLossy octets),
        textLines_of_notMem (mt (hmem octets).1 hfeed), String.toList_ofList]
      simp only [(Utf8.decodes_decodeLossy octets).eq_nil_iff]

/-! ## Scans -/

theorem Scan.lines_of_feed {scan next : Scan} {line : String} (h : scan.feed line = .ok next) :
    next.lines = scan.lines + 1 := by
  unfold feed at h
  split at h
  · cases h
  · cases h
    rfl

/-- A scan counts the lines that it is fed. -/
theorem Scan.lines_of_feedAll {lines : List String} {scan after : Scan}
    (h : scan.feedAll lines = .ok after) : after.lines = scan.lines + lines.length := by
  induction lines generalizing scan with
  | nil =>
    cases h
    rfl
  | cons line rest ih =>
    rw [feedAll] at h
    cases hfeed : scan.feed line with
    | error fault =>
      rw [hfeed] at h
      cases h
    | ok next =>
      rw [hfeed] at h
      rw [ih h, lines_of_feed hfeed, List.length_cons, Nat.add_assoc, Nat.add_comm 1]

/-- **A log is scanned in the same way, however it is handed over.**

A stream of octets is read as one text, which `Utf8.Decodes` says: each character that
stands there, and a replacement character for each maximal part that is none.  A scan
of the stream, of the lines of that text, and a scan that is fed these lines one by one
end with the same output; a scan counts the lines that it is fed.  A file is scanned
like its octets by the scanner of the same definitions whose log is that file. -/
theorem entry_points_agree (ds : List Definition) (options : ScanOptions)
    (octets : List UInt8) :
    ∃ (text : String) (output : ScanOutput),
      (∀ chars, Utf8.Decodes octets chars ↔ chars = text.toList) ∧
      linesOfOctets octets = textLines text ∧
      (Scanner.ofDefinitions ds options).scanOctets (fun _ => false) octets = .ok output ∧
      (Scanner.ofDefinitions ds options).scanLines (fun _ => false) (textLines text)
        = .ok output ∧
      (Scanner.ofDefinitions ds options).begin.outcome (textLines text) = .ok output ∧
      output.linesScanned = (textLines text).length ∧
      (∀ fed, ∃ scan, (Scanner.ofDefinitions ds options).begin.feedAll fed = .ok scan ∧
        scan.lines = fed.length) ∧
      ∀ (logPath : Option String) (cancelled : Nat → Bool) (files : FileTree) (path : String),
        files.read path = .ok octets →
          (Scanner.ofDefinitions ds { options with logPath }).scanFile cancelled files path
            = (Scanner.ofDefinitions ds { options with logPath := some path }).scanOctets
                cancelled octets := by
  have hbegin := Scanner.begin_sound ds options
  have hfed : ∀ fed, ∃ scan,
      (Scanner.ofDefinitions ds options).begin.feedAll fed = .ok scan ∧
        scan.lines = fed.length := by
    intro fed
    obtain ⟨scan, hscan, _⟩ := Scan.feedAll_sound fed hbegin
    exact ⟨scan, hscan, (Scan.lines_of_feedAll hscan).trans (Nat.zero_add _)⟩
  obtain ⟨scan, hscan, hlines⟩ := hfed (textLines (Utf8.decodeLossy octets))
  refine ⟨Utf8.decodeLossy octets, scan.finish, fun chars => Utf8.decodes_iff,
    linesOfOctets_eq octets, ?_, ?_, ?_, hlines, hfed, ?_⟩
  · rw [Scanner.scanOctets, Scan.runToEnd, Scan.run_never, linesOfOctets_eq, hscan]
    rfl
  · rw [Scanner.scanLines, Scan.run_never, hscan]
    rfl
  · rw [Scan.outcome, hscan]
    rfl
  · intro logPath cancelled files path hread
    rw [Scanner.scanFile, hread]
    rfl

/-- A file with a character that a line end cuts off, and with an octet that is none at
the end of the file. -/
theorem entry_points_agree_cut :
    ∃ (files : FileTree) (octets : List UInt8) (output : ScanOutput),
      octets = [0x61, 0xE2, 0x82, 0x0D, 0x0A, 0x0D, 0x62, 0xFF] ∧
      files.read "a" = .ok octets ∧
      (Scanner.ofDefinitions [{ pattern := some (.one { regexp := some "^(.*)$" }) }] {}).scanFile
        (fun _ => false) files "a" = .ok output ∧
      (Scanner.ofDefinitions [{ pattern := some (.one { regexp := some "^(.*)$" }) }]
        { logPath := some "a" }).scanLines (fun _ => false) ["a\uFFFD", "\rb\uFFFD"]
          = .ok output ∧
      output.linesScanned = 2 := by
  generalize hoctets : ([0x61, 0xE2, 0x82, 0x0D, 0x0A, 0x0D, 0x62, 0xFF] : List UInt8) = octets
  have hsplit : "a".splitOn "/" = ["a"] := by
    rw [String.splitOn, if_neg (by decide), String.splitOnAux, if_neg (by decide +kernel),
      if_neg (by decide +kernel), String.splitOnAux, if_pos (by decide +kernel)]
    decide +kernel
  have hread : ({ entries := [(["a"], .file octets)] } : FileTree).read "a" = .ok octets := by
    rw [FileTree.read, FileTree.locate, FileTree.parts, hsplit]
    subst hoctets
    decide +kernel
  have hlines : linesOfOctets octets = ["a\uFFFD", "\rb\uFFFD"] := by
    subst hoctets
    decide
  obtain ⟨text, output, _, htext, hscan, hlist, _, hcount, _, hfile⟩ := entry_points_agree
    [{ pattern := some (.one { regexp := some "^(.*)$" }) }] { logPath := some "a" } octets
  rw [htext] at hlines
  rw [hlines] at hlist hcount
  exact ⟨_, octets, output, rfl, hread, (hfile none _ _ _ hread).trans hscan, hlist, hcount⟩

end LogProblems
