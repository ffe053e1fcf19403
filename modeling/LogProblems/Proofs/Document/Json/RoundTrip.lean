import LogProblems.Document.Json.Printer
import LogProblems.Document.Json.Reader

/-!
# Reading JSON that was written

A value that is written over several lines is read as it was written: its texts come
back with every character, the items of its lists and the entries of its records in
their order.  White space between the parts is passed over, and a part is read up to
its end, whatever follows.

* `textBody_quote`: a text between quotes;
* `value?_chars`, `items?_chars` and `entries?_chars`: a value and what follows it;
* `read_pretty`: a whole text.
-/

set_option autoImplicit false

namespace LogProblems.Document.Json

/-! ## Texts -/

/-- A text of which these characters were read, last first. -/
def Draft.of (cs : List Char) : Draft :=
  { chars := cs }

theorem Draft.push_of (cs : List Char) (c : Char) : (Draft.of cs).push c = .of (c :: cs) := rfl

/-- The two last digits of a control character. -/
theorem hexUnit?_hexChar :
    ∀ n < 0x20, hexUnit? '0' '0' (hexChar (n / 16)) (hexChar (n % 16)) = some n := by
  decide

/-- A character that needs no escape. -/
theorem textBody_cons (d : Draft) {c : Char} (hquote : c ≠ '"') (hslash : c ≠ '\\')
    (hplain : 0x20 ≤ c.toNat) (rest : List Char) :
    textBody d (c :: rest) = textBody (d.push c) rest := by
  have hread : (c.toNat < 0x20 || c == '\\') = false := by
    rw [Bool.or_eq_false_iff]
    exact ⟨decide_eq_false (by omega), beq_eq_false_iff_ne.2 hslash⟩
  rw [textBody.eq_def]
  split
  · next h => cases h
  · next h => exact absurd (List.cons.inj h).1 hquote
  · next h => exact absurd (List.cons.inj h).1 hslash
  · next h => exact absurd (List.cons.inj h).1 hslash
  · next h =>
    obtain ⟨rfl, rfl⟩ := List.cons.inj h
    rw [if_neg (by rw [hread]; exact Bool.false_ne_true)]

/-- A character is read as it was written. -/
theorem textBody_escapeChar (seen : List Char) (c : Char) (rest : List Char) :
    textBody (.of seen) (escapeChar c ++ rest) = textBody (.of (c :: seen)) rest := by
  unfold escapeChar
  split
  · next hquote =>
    subst hquote
    rfl
  · next hquote =>
    split
    · next hslash =>
      subst hslash
      rfl
    · next hslash =>
      split
      · next hplain => exact textBody_cons _ hquote hslash hplain rest
      · next hcontrol =>
        have hlow : c.toNat < 0x20 := by omega
        split
        · next h =>
          obtain rfl : c = Char.ofNat 0x08 := by rw [← h, Char.ofNat_toNat]
          rfl
        · next h =>
          obtain rfl : c = Char.ofNat 0x09 := by rw [← h, Char.ofNat_toNat]
          rfl
        · next h =>
          obtain rfl : c = Char.ofNat 0x0A := by rw [← h, Char.ofNat_toNat]
          rfl
        · next h =>
          obtain rfl : c = Char.ofNat 0x0C := by rw [← h, Char.ofNat_toNat]
          rfl
        · next h =>
          obtain rfl : c = Char.ofNat 0x0D := by rw [← h, Char.ofNat_toNat]
          rfl
        · have hunit := hexUnit?_hexChar c.toNat hlow
          have hpush : (Draft.of seen).pushUnit c.toNat = .of (c :: seen) := by
            rw [Draft.pushUnit, if_neg (by omega), if_neg (by omega), Char.ofNat_toNat,
              Draft.push_of]
          simp only [List.cons_append, List.nil_append, textBody, hunit, hpush]

theorem textBody_flatMap (cs seen rest : List Char) :
    textBody (.of seen) (cs.flatMap escapeChar ++ '"' :: rest)
      = some (some (String.ofList (seen.reverse ++ cs)), rest) := by
  induction cs generalizing seen with
  | nil => simp [textBody, Draft.of, Draft.finish]
  | cons c cs ih =>
    rw [List.flatMap_cons, List.append_assoc, textBody_escapeChar, ih]
    simp

/-- A text between quotes is read from behind the first of them. -/
theorem textBody_quote (s : String) (rest : List Char) :
    textBody {} (s.toList.flatMap escapeChar ++ '"' :: rest) = some (some s, rest) := by
  have h := textBody_flatMap s.toList [] rest
  rwa [List.reverse_nil, List.nil_append, String.ofList_toList] at h

/-! ## White space -/

theorem skipSpace_cons {c : Char} (h : isSpace c = false) (cs : List Char) :
    skipSpace (c :: cs) = c :: cs := by
  rw [skipSpace, List.dropWhile_cons_of_neg (by simp [h])]

theorem skipSpace_newline (level : Nat) (cs : List Char) :
    skipSpace (newline level ++ cs) = skipSpace cs := by
  have hspaces : ∀ c ∈ newline level, isSpace c = true := by
    intro c hc
    rcases List.mem_cons.1 hc with rfl | hc
    · rfl
    · rw [List.eq_of_mem_replicate hc]
      rfl
  rw [skipSpace, List.dropWhile_append_of_pos hspaces, skipSpace]

theorem value?_newline (fuel room level : Nat) (cs : List Char) :
    value? fuel room (newline level ++ cs) = value? fuel room cs := by
  cases fuel with
  | zero => rfl
  | succ fuel => rw [value?, value?, skipSpace_newline]

theorem value?_space (fuel room : Nat) (cs : List Char) :
    value? fuel room (' ' :: cs) = value? fuel room cs := by
  have hspace : skipSpace (' ' :: cs) = skipSpace cs := by
    rw [skipSpace, List.dropWhile_cons_of_pos (by decide), skipSpace]
  cases fuel with
  | zero => rfl
  | succ fuel => rw [value?, value?, hspace]

theorem items?_newline (fuel room level : Nat) (cs : List Char) :
    items? fuel room (newline level ++ cs) = items? fuel room cs := by
  cases fuel with
  | zero => rfl
  | succ fuel => rw [items?, items?, value?_newline]

theorem entries?_newline (fuel room level : Nat) (cs : List Char) :
    entries? fuel room (newline level ++ cs) = entries? fuel room cs := by
  cases fuel with
  | zero => rfl
  | succ fuel => rw [entries?, entries?, skipSpace_newline]

/-! ## Values -/

namespace Tree

mutual

/-- The value has no numbers, and is not nested more than `room` deep. -/
def Fits (room : Nat) : Tree → Prop
  | .null => True
  | .bool _ => True
  | .number _ => False
  | .text _ => True
  | .list items => 0 < room ∧ AllFit (room - 1) items
  | .record entries => 0 < room ∧ EntriesFit (room - 1) entries

def AllFit (room : Nat) : List Tree → Prop
  | [] => True
  | t :: ts => Fits room t ∧ AllFit room ts

def EntriesFit (room : Nat) : List (String × Tree) → Prop
  | [] => True
  | (_, t) :: es => Fits room t ∧ EntriesFit room es

end

mutual

/-- What a value is read as. -/
def node : Tree → Node
  | .null => nullNode
  | .bool b => boolNode b
  | .number n => numeralNode (.natural n)
  | .text s => textNode (some s)
  | .list items => .list (nodes items) true
  | .record entries => .record (entryNodes entries)

def nodes : List Tree → List Node
  | [] => []
  | t :: ts => node t :: nodes ts

def entryNodes : List (String × Tree) → List (Node × Node)
  | [] => []
  | (key, t) :: es => (textNode (some key), node t) :: entryNodes es

end

theorem nodes_eq_map (items : List Tree) : nodes items = items.map node := by
  induction items with
  | nil => rfl
  | cons t ts ih => rw [nodes, ih, List.map_cons]

theorem entryNodes_eq_map (entries : List (String × Tree)) :
    entryNodes entries = entries.map fun e => (textNode (some e.1), e.2.node) := by
  induction entries with
  | nil => rfl
  | cons e es ih => rw [entryNodes, ih, List.map_cons]

theorem entries?_node (entries : List (String × Tree)) :
    (node (.record entries)).entries? = some (entries.map fun e => (e.1, e.2.node)) := by
  rw [node, entryNodes_eq_map]
  refine Eq.trans List.mapM_map ?_
  exact List.mapM_pure

theorem items?_node (items : List Tree) : (node (.list items)).items? = some (nodes items) := by
  rw [node]
  rfl

theorem mapM_text?_nodes (texts : List String) :
    (nodes (texts.map .text)).mapM Node.text? = some texts := by
  rw [nodes_eq_map, List.map_map, List.mapM_map]
  refine Eq.trans List.mapM_pure ?_
  rw [List.map_id']
  rfl

/-- A value starts with a character of its own. -/
theorem exists_chars_eq_cons {room : Nat} {t : Tree} (h : t.Fits room) (level : Nat) :
    ∃ c cs, t.chars level = c :: cs ∧ isSpace c = false ∧ c ≠ ']' := by
  match t, h with
  | .null, _ => exact ⟨'n', "ull".toList, by rw [chars]; decide, by decide, by decide⟩
  | .bool true, _ => exact ⟨'t', "rue".toList, by rw [chars]; decide, by decide, by decide⟩
  | .bool false, _ => exact ⟨'f', "alse".toList, by rw [chars]; decide, by decide, by decide⟩
  | .text s, _ => exact ⟨'"', _, rfl, by decide, by decide⟩
  | .list [], _ => exact ⟨'[', _, by rw [chars], by decide, by decide⟩
  | .list (t :: ts), _ => exact ⟨'[', _, by rw [chars], by decide, by decide⟩
  | .record [], _ => exact ⟨'\x7b', _, by rw [chars], by decide, by decide⟩
  | .record ((key, t) :: es), _ => exact ⟨'\x7b', _, by rw [chars], by decide, by decide⟩

end Tree

open LogProblems.Document.Json.Tree

/-! ## One step of the reader -/

section Steps

variable {fuel room : Nat} {cs rest : List Char}

theorem value?_quote (fuel room : Nat) (s : String) (rest : List Char) :
    value? (fuel + 1) room (quote s ++ rest) = some (textNode (some s), rest) := by
  have htext := textBody_quote s rest
  rw [quote, List.cons_append, List.append_assoc, List.singleton_append, value?,
    skipSpace_cons (by decide)]
  simp only [htext]

theorem value?_list {c : Char} {items : List Node} (hroom : 0 < room) (hc : isSpace c = false)
    (hend : c ≠ ']') (h : items? fuel (room - 1) (c :: cs) = some (items, rest)) (level : Nat) :
    value? (fuel + 1) room ('[' :: (newline level ++ c :: cs)) = some (.list items true, rest) := by
  have hnested : ∀ n, nested room n = n := fun n => if_neg (by omega)
  rw [value?, skipSpace_cons (by decide)]
  simp only [skipSpace_newline, skipSpace_cons hc]
  split
  · next heq => exact absurd (List.cons.inj heq).1 hend
  · rw [h]
    simp only [hnested]

theorem value?_record {key : String} {entries : List (Node × Node)} (hroom : 0 < room)
    (h : entries? fuel (room - 1) (quote key ++ cs) = some (entries, rest)) (level : Nat) :
    value? (fuel + 1) room ('\x7b' :: (newline level ++ (quote key ++ cs)))
      = some (.record entries, rest) := by
  have hnested : ∀ n, nested room n = n := fun n => if_neg (by omega)
  have hquote : isSpace '"' = false := by decide
  rw [quote, List.cons_append] at h ⊢
  rw [value?, skipSpace_cons (by decide)]
  simp only [skipSpace_newline, skipSpace_cons hquote]
  split
  · next heq => exact absurd (List.cons.inj heq).1 (by decide)
  · rw [h]
    simp only [hnested]

theorem items?_last {n : Node} {level : Nat}
    (h : value? fuel room cs = some (n, newline level ++ ']' :: rest)) :
    items? (fuel + 1) room cs = some ([n], rest) := by
  have hend : isSpace ']' = false := by decide
  simp only [items?, h, skipSpace_newline, skipSpace_cons hend]

theorem items?_more {n : Node} {ns : List Node} {later : List Char}
    (h : value? fuel room cs = some (n, ',' :: later))
    (hlater : items? fuel room later = some (ns, rest)) :
    items? (fuel + 1) room cs = some (n :: ns, rest) := by
  have hcomma : isSpace ',' = false := by decide
  simp only [items?, h, skipSpace_cons hcomma, hlater]

theorem entries?_last {n : Node} {level : Nat} (key : String)
    (h : value? fuel room cs = some (n, newline level ++ '\x7d' :: rest)) :
    entries? (fuel + 1) room (quote key ++ ':' :: ' ' :: cs)
      = some ([(textNode (some key), n)], rest) := by
  have hcolon : isSpace ':' = false := by decide
  have hend : isSpace '\x7d' = false := by decide
  have htext := textBody_quote key (':' :: ' ' :: cs)
  rw [quote, List.cons_append, List.append_assoc, List.singleton_append, entries?,
    skipSpace_cons (by decide)]
  simp only [htext, skipSpace_cons hcolon, value?_space, h, skipSpace_newline,
    skipSpace_cons hend]

theorem entries?_more {n : Node} {es : List (Node × Node)} {later : List Char} (key : String)
    (h : value? fuel room cs = some (n, ',' :: later))
    (hlater : entries? fuel room later = some (es, rest)) :
    entries? (fuel + 1) room (quote key ++ ':' :: ' ' :: cs)
      = some ((textNode (some key), n) :: es, rest) := by
  have hcolon : isSpace ':' = false := by decide
  have hcomma : isSpace ',' = false := by decide
  have htext := textBody_quote key (':' :: ' ' :: cs)
  rw [quote, List.cons_append, List.append_assoc, List.singleton_append, entries?,
    skipSpace_cons (by decide)]
  simp only [htext, skipSpace_cons hcolon, value?_space, h, skipSpace_cons hcomma, hlater]

end Steps

/-! ## Values -/

mutual

/-- A value is read from what was written, up to its end. -/
theorem value?_chars {room : Nat} (fuel level : Nat) (t : Tree) (h : t.Fits room)
    (hfuel : (t.chars level).length ≤ fuel) (rest : List Char) :
    value? fuel room (t.chars level ++ rest) = some (t.node, rest) := by
  obtain ⟨c, cs, hcons, -, -⟩ := exists_chars_eq_cons h level
  obtain ⟨fuel, rfl⟩ : ∃ n, fuel = n + 1 := ⟨fuel - 1, by
    rw [hcons, List.length_cons] at hfuel
    omega⟩
  match t, h with
  | .null, _ =>
    rw [chars]
    rfl
  | .bool true, _ =>
    rw [chars]
    rfl
  | .bool false, _ =>
    rw [chars]
    rfl
  | .text s, _ =>
    rw [chars, node]
    exact value?_quote fuel room s rest
  | .list [], h =>
    rw [Fits] at h
    have hnested : nested room (.list [] true) = .list [] true := if_neg (by omega)
    rw [chars, node, nodes, ← hnested]
    rfl
  | .list (t :: ts), h =>
    rw [Fits, AllFit] at h
    obtain ⟨hroom, ht, hts⟩ := h
    rw [chars, List.length_cons, List.length_append, List.length_append] at hfuel
    obtain ⟨c, cs, hcons, hspace, hend⟩ := exists_chars_eq_cons ht (level + 1)
    have hitems := items?_chars fuel level t ts ht hts (by omega) rest
    rw [hcons, List.cons_append] at hitems
    have hlist := value?_list hroom hspace hend hitems (level + 1)
    rw [chars, node, nodes, hcons]
    simpa only [List.cons_append, List.append_assoc] using hlist
  | .record [], h =>
    rw [Fits] at h
    have hnested : nested room (.record []) = .record [] := if_neg (by omega)
    rw [chars, node, entryNodes, ← hnested]
    rfl
  | .record ((key, t) :: es), h =>
    rw [Fits, EntriesFit] at h
    obtain ⟨hroom, ht, hes⟩ := h
    rw [chars, List.length_cons, List.length_append, List.length_append, List.length_append,
      List.length_cons, List.length_cons] at hfuel
    have hentries := entries?_chars fuel level key t es ht hes (by omega) rest
    have hrecord := value?_record hroom hentries (level + 1)
    rw [chars, node, entryNodes]
    simpa only [List.cons_append, List.append_assoc] using hrecord

/-- The items of a list are read up to its end. -/
theorem items?_chars {room : Nat} (fuel level : Nat) (t : Tree) (ts : List Tree) (h : t.Fits room)
    (hs : AllFit room ts)
    (hfuel : (t.chars (level + 1)).length + (itemsChars level ts).length ≤ fuel)
    (rest : List Char) :
    items? fuel room (t.chars (level + 1) ++ (itemsChars level ts ++ rest))
      = some (t.node :: nodes ts, rest) := by
  match ts, hs with
  | [], _ =>
    rw [itemsChars, List.length_append, List.length_singleton] at hfuel
    obtain ⟨fuel, rfl⟩ : ∃ n, fuel = n + 1 := ⟨fuel - 1, by omega⟩
    rw [itemsChars, List.append_assoc, List.singleton_append, nodes]
    exact items?_last (value?_chars _ _ t h (by omega) _)
  | t' :: ts, hs =>
    rw [AllFit] at hs
    rw [itemsChars, List.length_cons, List.length_append, List.length_append] at hfuel
    obtain ⟨fuel, rfl⟩ : ∃ n, fuel = n + 1 := ⟨fuel - 1, by omega⟩
    have hvalue := value?_chars fuel (level + 1) t h (by omega)
      (itemsChars level (t' :: ts) ++ rest)
    have hlater := items?_chars fuel level t' ts hs.1 hs.2 (by omega) rest
    rw [itemsChars, List.cons_append, List.append_assoc, List.append_assoc] at hvalue
    rw [itemsChars, nodes, List.cons_append, List.append_assoc, List.append_assoc]
    exact items?_more hvalue ((items?_newline fuel room (level + 1) _).trans hlater)

/-- The entries of a record are read up to its end. -/
theorem entries?_chars {room : Nat} (fuel level : Nat) (key : String) (t : Tree)
    (es : List (String × Tree)) (h : t.Fits room) (hs : EntriesFit room es)
    (hfuel : (t.chars (level + 1)).length + (entriesChars level es).length ≤ fuel)
    (rest : List Char) :
    entries? fuel room
        (quote key ++ ':' :: ' ' :: (t.chars (level + 1) ++ (entriesChars level es ++ rest)))
      = some ((textNode (some key), t.node) :: entryNodes es, rest) := by
  match es, hs with
  | [], _ =>
    rw [entriesChars, List.length_append, List.length_singleton] at hfuel
    obtain ⟨fuel, rfl⟩ : ∃ n, fuel = n + 1 := ⟨fuel - 1, by omega⟩
    rw [entriesChars, List.append_assoc, List.singleton_append, entryNodes]
    exact entries?_last key (value?_chars _ _ t h (by omega) _)
  | (key', t') :: es, hs =>
    rw [EntriesFit] at hs
    rw [entriesChars, List.length_cons, List.length_append, List.length_append,
      List.length_append, List.length_cons, List.length_cons] at hfuel
    obtain ⟨fuel, rfl⟩ : ∃ n, fuel = n + 1 := ⟨fuel - 1, by omega⟩
    have hvalue := value?_chars fuel (level + 1) t h (by omega)
      (entriesChars level ((key', t') :: es) ++ rest)
    have hlater := entries?_chars fuel level key' t' es hs.1 hs.2 (by omega) rest
    rw [entriesChars, List.cons_append, List.append_assoc, List.append_assoc,
      List.append_assoc, List.cons_append, List.cons_append] at hvalue
    rw [entriesChars, entryNodes, List.cons_append, List.append_assoc, List.append_assoc,
      List.append_assoc, List.cons_append, List.cons_append]
    exact entries?_more key hvalue ((entries?_newline fuel room (level + 1) _).trans hlater)

end

/-- A value that was written is read as it was. -/
theorem read_pretty {t : Tree} (h : t.Fits nestingLimit) : read t.pretty = some t.node := by
  have hvalue := value?_chars _ 0 t h (Nat.le_succ _) []
  rw [List.append_nil] at hvalue
  simp only [read, pretty, String.toList_ofList, hvalue]
  rfl

end LogProblems.Document.Json
