import RemoteDisplay.Proofs.Toml.Number
import RemoteDisplay.Proofs.Toml.Text
import RemoteDisplay.Toml.Document

/-!
# Written lines are read back

A line that assigns a text or an integer to a plain name, the header of a section and an empty line
are each read as one statement or none, whatever lines follow. Statements put together section by
section then describe the table of these sections.
-/

namespace RemoteDisplay.Toml

variable {c : Char} {cs name rest : List Char} {v : Value}

/-! ## Names -/

/-- A name that may stand without marks. -/
def Bare (name : List Char) : Prop := (!name.isEmpty && name.all isBareKey) = true

instance : Decidable (Bare name) := inferInstanceAs (Decidable (_ = true))

theorem Bare.ne_nil (h : Bare name) : name ≠ [] := by
  rintro rfl
  exact absurd h (by decide)

theorem Bare.isBareKey (h : Bare name) : ∀ c ∈ name, isBareKey c = true :=
  List.all_eq_true.mp (Bool.and_eq_true_iff.mp h).2

theorem takeWhile_bare (h : ∀ c ∈ name, isBareKey c = true) (hc : isBareKey c = false)
    (cs : List Char) : (name ++ c :: cs).takeWhile isBareKey = name := by
  rw [List.takeWhile_append_of_pos h, List.takeWhile_cons_of_neg (by simp [hc]), List.append_nil]

theorem dropWhile_bare (h : ∀ c ∈ name, isBareKey c = true) (hc : isBareKey c = false)
    (cs : List Char) : (name ++ c :: cs).dropWhile isBareKey = c :: cs := by
  rw [List.dropWhile_append_of_pos h, List.dropWhile_cons_of_neg (by simp [hc])]

/-- A bare name begins with none of the characters that mean something else at that place. -/
theorem head_bare (h : Bare name) (cs : List Char) :
    ∃ d ds, name ++ cs = d :: ds ∧ isBareKey d = true := by
  obtain ⟨d, ds, rfl⟩ := List.exists_cons_of_ne_nil h.ne_nil
  exact ⟨d, ds ++ cs, rfl, h.isBareKey d List.mem_cons_self⟩

theorem skipSpaces_of_head (h : isSpace c = false) (cs : List Char) :
    skipSpaces (c :: cs) = c :: cs := by
  rw [skipSpaces, List.dropWhile_cons_of_neg (by simp [h])]

theorem isSpace_of_isBareKey (h : isBareKey c = true) : isSpace c = false := by
  rw [isSpace, Bool.or_eq_false_iff, decide_eq_false_iff_not, decide_eq_false_iff_not]
  constructor <;> rintro rfl <;> exact absurd h (by decide)

theorem keyPart_bare (h : Bare name) (hc : isBareKey c = false) (cs : List Char) :
    keyPart (name ++ c :: cs) = some (String.ofList name, c :: cs) := by
  obtain ⟨d, ds, heq, hd⟩ := head_bare h (c :: cs)
  unfold keyPart
  split
  · rename_i hhead
    exact absurd (List.cons.inj (heq ▸ hhead)).1 (ne_of_class hd rfl)
  · rename_i hhead
    exact absurd (List.cons.inj (heq ▸ hhead)).1 (ne_of_class hd rfl)
  · simp only [takeWhile_bare h.isBareKey hc, dropWhile_bare h.isBareKey hc, List.isEmpty_iff,
      h.ne_nil, if_false]

/-- A bare name is a key of one part, unless a point follows. -/
theorem key_bare (h : Bare name) (hc : isBareKey c = false)
    (hpoint : ∀ ds, skipSpaces (c :: cs) ≠ '.' :: ds) :
    key (name ++ c :: cs) = some (([], String.ofList name), skipSpaces (c :: cs)) := by
  obtain ⟨d, ds, heq, hd⟩ := head_bare h (c :: cs)
  have hparts : keyParts (nestingLimit - 1) (name ++ c :: cs) =
      some ([String.ofList name], skipSpaces (c :: cs)) := by
    rw [show nestingLimit - 1 = 78 + 1 from rfl, keyParts, heq,
      skipSpaces_of_head (isSpace_of_isBareKey hd), ← heq, keyPart_bare h hc]
    simp only [Option.bind_eq_bind, Option.bind_some]
    rfl
  simp [key, hparts]

/-! ## Values -/

/-- The text is read as the value at the end of a line. -/
def Denotes (cs : List Char) (v : Value) : Prop :=
  ∀ rest, value (nestingLimit - 1) (skipSpaces (cs ++ '\n' :: rest)) = some (v, '\n' :: rest)

theorem valueWith_text (item : Option (Reader Value)) (h : c = '"' ∨ c = '\'') (cs : List Char) :
    valueWith item (c :: cs) =
      (text (c :: cs)).map fun (s, rest) => (.string (String.ofList s), rest) := by
  rcases h with rfl | rfl <;> rfl

theorem valueWith_number (item : Option (Reader Value)) (h : c = '-' ∨ c.isDigit = true)
    (cs : List Char) :
    valueWith item (c :: cs) =
      (dateTime (c :: cs)).or ((float (c :: cs)).or (integer (c :: cs))) := by
  have hne {d : Char} (hd : d ≠ '-' ∧ d.isDigit = false) : c ≠ d := by
    rintro rfl
    rcases h with h | h
    · exact hd.1 h
    · rw [hd.2] at h
      exact Bool.noConfusion h
  unfold valueWith
  split
  · exact absurd (List.cons.inj ‹_›).1 (hne (by decide))
  · exact absurd (List.cons.inj ‹_›).1 (hne (by decide))
  · exact absurd (List.cons.inj ‹_›).1 (hne (by decide))
  · exact absurd (List.cons.inj ‹_›).1 (hne (by decide))
  split
  · exact absurd (List.cons.inj ‹_›).1 (hne (by decide))
  · exact absurd (List.cons.inj ‹_›).1 (hne (by decide))
  · rfl

theorem value_eq_valueWith (depth : Nat) : ∃ item, value depth = valueWith item := by
  cases depth with
  | zero => exact ⟨none, rfl⟩
  | succ depth => exact ⟨some (value depth), rfl⟩

theorem head_writeText (s : List Char) :
    ∃ c cs, writeText s = c :: cs ∧ (c = '"' ∨ c = '\'') := by
  unfold writeText
  split
  · exact ⟨_, _, rfl, .inl rfl⟩
  · exact ⟨_, _, rfl, .inr rfl⟩
  · exact ⟨_, _, rfl, .inl rfl⟩
  · exact ⟨_, _, rfl, .inr rfl⟩
  split
  · exact ⟨_, _, rfl, .inl rfl⟩
  · exact ⟨_, _, rfl, .inl rfl⟩

theorem denotes_text (s : String) : Denotes (writeText s.toList) (.string s) := by
  intro rest
  obtain ⟨c, cs, heq, hc⟩ := head_writeText s.toList
  obtain ⟨item, hitem⟩ := value_eq_valueWith (nestingLimit - 1)
  have hspace : isSpace c = false := by rcases hc with rfl | rfl <;> rfl
  have htext : text (writeText s.toList ++ '\n' :: rest) = some (s.toList, '\n' :: rest) :=
    text_writeText (by simp) (by simp) s.toList
  rw [heq, List.cons_append] at htext ⊢
  rw [skipSpaces_of_head hspace, hitem, valueWith_text item hc, htext]
  simp only [Option.map_some, String.ofList_toList]

theorem head_toString (n : Int) :
    ∃ c cs, (toString n).toList = c :: cs ∧ (c = '-' ∨ c.isDigit = true) := by
  rcases toList_toString n with ⟨-, hlist⟩ | ⟨-, hlist⟩
  · obtain ⟨d, ds, heq, hd⟩ := head_toDigits n.natAbs []
    exact ⟨d, ds, by rw [hlist, ← heq, List.append_nil], .inr hd⟩
  · exact ⟨_, _, hlist, .inl rfl⟩

theorem denotes_number {n : Int} (h : -9223372036854775808 ≤ n ∧ n ≤ 9223372036854775807) :
    Denotes (toString n).toList (.integer n) := by
  intro rest
  obtain ⟨c, cs, heq, hc⟩ := head_toString n
  obtain ⟨item, hitem⟩ := value_eq_valueWith (nestingLimit - 1)
  have hspace : isSpace c = false := by
    rw [isSpace, Bool.or_eq_false_iff, decide_eq_false_iff_not, decide_eq_false_iff_not]
    constructor <;> rintro rfl <;> simp at hc
  have hread := number_toString n rest
  rw [heq, List.cons_append] at hread ⊢
  rw [skipSpaces_of_head hspace, hitem, valueWith_number item hc, hread, ranged, if_pos h]

/-! ## Lines -/

/-- The text is read as the statements, whatever follows. Each statement takes one line at least. -/
def Reads (cs : List Char) (ss : List Statement) : Prop :=
  ∃ lines ≤ cs.length, ∀ n rest,
    statements (n + lines) (cs ++ rest) = (statements n rest).map (ss ++ ·)

theorem reads_nil : Reads [] [] := ⟨0, Nat.le_refl 0, fun n rest => by simp⟩

theorem Reads.append {ds : List Char} {ss ts : List Statement} (h : Reads cs ss)
    (h' : Reads ds ts) : Reads (cs ++ ds) (ss ++ ts) := by
  obtain ⟨k, hk, hread⟩ := h
  obtain ⟨k', hk', hread'⟩ := h'
  refine ⟨k' + k, by rw [List.length_append]; omega, ?_⟩
  intro n rest
  rw [← Nat.add_assoc, List.append_assoc, hread, hread', Option.map_map]
  congr 1
  funext us
  simp

theorem Reads.statements_eq {ss : List Statement} (h : Reads cs ss) :
    statements (cs.length + 1) cs = some ss := by
  obtain ⟨k, hk, hread⟩ := h
  -- The fuel is the length of the text and one more, of which the lines need no more than the length.
  have hend := hread (cs.length - k + 1) []
  have hfuel : cs.length - k + 1 + k = cs.length + 1 := by omega
  rw [List.append_nil, hfuel] at hend
  rw [hend]
  simp [statements, skipSpaces]

theorem Reads.parse {ss : List Statement} (h : Reads cs ss) (hmark : cs.head? ≠ some '\ufeff') :
    parse (String.ofList cs) = tableOf ss := by
  have hskip : skipByteOrderMark cs = cs := by
    unfold skipByteOrderMark
    split
    · exact absurd rfl hmark
    · rfl
  simp only [Toml.parse, String.toList_ofList, hskip, h.statements_eq, Option.bind_eq_bind,
    Option.bind_some]

theorem reads_line {s : Option Statement} (hspace : isSpace c = false)
    (h : ∀ rest, line (c :: (cs ++ rest)) = some (s, rest)) : Reads (c :: cs) s.toList := by
  refine ⟨1, by simp, ?_⟩
  intro n rest
  rw [List.cons_append, statements, skipSpaces_of_head hspace]
  simp only [h, Option.bind_eq_bind, Option.bind_some]
  cases hrest : statements n rest <;> simp

theorem reads_blank : Reads ['\n'] [] := reads_line (s := none) rfl fun _ => rfl

theorem lineEnd?_newline (rest : List Char) : lineEnd? ('\n' :: rest) = some rest := rfl

theorem assignment_bare (h : Bare name) (hv : Denotes cs v) (rest : List Char) :
    assignment (value (nestingLimit - 1)) (name ++ ' ' :: '=' :: ' ' :: (cs ++ '\n' :: rest)) =
      some (([], String.ofList name, v), '\n' :: rest) := by
  have hkey : key (name ++ ' ' :: '=' :: ' ' :: (cs ++ '\n' :: rest)) =
      some (([], String.ofList name), '=' :: ' ' :: (cs ++ '\n' :: rest)) := by
    apply key_bare h rfl
    intro ds heq
    simp [skipSpaces, isSpace] at heq
  have hspaces : skipSpaces (' ' :: (cs ++ '\n' :: rest)) = skipSpaces (cs ++ '\n' :: rest) := rfl
  simp only [assignment, hkey, Option.bind_eq_bind, Option.bind_some, char?, if_true, hspaces,
    hv rest]
  rfl

/-- A name and its value on one line are read as the entry. -/
theorem reads_entry (h : Bare name) (hv : Denotes cs v) :
    Reads (name ++ [' ', '=', ' '] ++ cs ++ ['\n']) [.entry [] (String.ofList name) v] := by
  obtain ⟨d, ds, heq, hd⟩ := head_bare h ([' ', '=', ' '] ++ cs ++ ['\n'])
  have hwhole : name ++ [' ', '=', ' '] ++ cs ++ ['\n'] = d :: ds := by simpa using heq
  rw [hwhole]
  refine reads_line (s := some (.entry [] (String.ofList name) v)) (isSpace_of_isBareKey hd) ?_
  intro rest
  have hread : assignment (value (nestingLimit - 1)) (d :: (ds ++ rest)) =
      some (([], String.ofList name, v), '\n' :: rest) := by
    rw [← assignment_bare h hv, ← List.cons_append, ← hwhole]
    simp
  unfold line
  split
  · exact absurd (List.cons.inj ‹_›).1 (ne_of_class hd rfl)
  · exact absurd (List.cons.inj ‹_›).1 (ne_of_class hd rfl)
  · exact absurd (List.cons.inj ‹_›).1 (ne_of_class hd rfl)
  · have hnewline : newline? (d :: (ds ++ rest)) = none := by
      unfold newline?
      split
      · exact absurd (List.cons.inj ‹_›).1 (ne_of_class hd rfl)
      · exact absurd (List.cons.inj ‹_›).1 (ne_of_class hd rfl)
      · rfl
    simp only [hnewline, hread, Option.bind_eq_bind, Option.bind_some, lineEnd?_newline]
    rfl

/-- A name in brackets is read as the header of a section. -/
theorem reads_header (h : Bare name) :
    Reads ('[' :: (name ++ [']', '\n'])) [.header [] (String.ofList name)] := by
  refine reads_line (s := some (.header [] (String.ofList name))) rfl ?_
  intro rest
  obtain ⟨d, ds, heq, hd⟩ := head_bare h (']' :: '\n' :: rest)
  have hkey : key (name ++ ']' :: '\n' :: rest) =
      some (([], String.ofList name), ']' :: '\n' :: rest) := by
    apply key_bare h rfl
    intro ds heq
    simp [skipSpaces, isSpace] at heq
  have hname : name ++ [']', '\n'] ++ rest = name ++ ']' :: '\n' :: rest := by simp
  rw [hname]
  unfold line
  split
  · rename_i hhead
    exact absurd (List.cons.inj hhead).1 (by decide)
  · rename_i hhead
    have hname := (List.cons.inj hhead).2
    exact absurd (List.cons.inj (heq ▸ hname)).1 (ne_of_class hd rfl)
  · rename_i hhead
    obtain ⟨-, rfl⟩ := List.cons.inj hhead
    simp only [hkey, Option.bind_eq_bind, Option.bind_some, char?, if_true, lineEnd?_newline]
    rfl
  · rename_i hhead
    exact absurd rfl (hhead _)

/-! ## Sections -/

section Sections

variable {es root : Entries} {k : String} {d : Draft}

theorem lookup_of_new (h : k ∉ es.map (·.1)) : es.lookup k = none := by
  rw [List.lookup_eq_none_iff]
  intro p hp
  have hne : k ≠ p.1 := by
    rintro rfl
    exact h (List.mem_map_of_mem hp)
  simpa using hne

theorem putKey_of_new (h : k ∉ es.map (·.1)) (v : Value) :
    es.putKey [] k v = some (es ++ [(k, v)]) := by
  simp [Entries.putKey, Entries.updateAt, Entries.insert?, lookup_of_new h]

/-- Entries with keys of their own come behind those that the current table has. -/
theorem add_entries : ∀ (new : Entries) (d : Draft), ((d.current ++ new).map (·.1)).Nodup →
    (new.map fun e => Statement.entry [] e.1 e.2).foldlM Draft.add d =
      some { d with current := d.current ++ new } := by
  intro new
  induction new with
  | nil =>
    intro d _
    simp
  | cons e new ih =>
    intro d hkeys
    have hnew : e.1 ∉ d.current.map (·.1) := by
      rw [List.map_append, List.map_cons, List.nodup_append] at hkeys
      intro hmem
      exact hkeys.2.2 e.1 hmem e.1 List.mem_cons_self rfl
    have hadd : d.add (.entry [] e.1 e.2) = some { d with current := d.current ++ [e] } := by
      simp [Draft.add, putKey_of_new hnew]
    rw [List.map_cons, List.foldlM_cons, hadd, Option.bind_eq_bind, Option.bind_some,
      ih _ (by simpa using hkeys)]
    simp

theorem close_section (h : k ∉ root.map (·.1)) (es : Entries) :
    Draft.close ⟨root, es, some ([], k, false)⟩ = some (root ++ [(k, .table .header es)]) := by
  simp [Draft.close, Entries.updateAt, lookup_of_new h]

theorem add_header (hclose : d.close = some root) (h : k ∉ root.map (·.1)) :
    d.add (.header [] k) = some ⟨root, [], some ([], k, false)⟩ := by
  simp [Draft.add, Draft.openTable, hclose, Entries.updateAt, lookup_of_new h]

/-- The lines of a section. -/
def sectionOf (s : String × Entries) : List Statement :=
  .header [] s.1 :: s.2.map fun e => .entry [] e.1 e.2

theorem add_section (hclose : d.close = some root) (h : k ∉ root.map (·.1))
    (hkeys : (es.map (·.1)).Nodup) :
    (sectionOf (k, es)).foldlM Draft.add d = some ⟨root, es, some ([], k, false)⟩ := by
  rw [sectionOf, List.foldlM_cons, add_header hclose h, Option.bind_eq_bind, Option.bind_some,
    add_entries es _ (by simpa using hkeys), List.nil_append]

theorem add_sections : ∀ (sections : List (String × Entries)) (d : Draft) (root : Entries),
    d.close = some root → (root.map (·.1) ++ sections.map (·.1)).Nodup →
    (∀ s ∈ sections, (s.2.map (·.1)).Nodup) →
    ∃ d', (sections.flatMap sectionOf).foldlM Draft.add d = some d' ∧
      d'.close = some (root ++ sections.map fun s => (s.1, .table .header s.2)) := by
  intro sections
  induction sections with
  | nil =>
    intro d root hclose _ _
    exact ⟨d, rfl, by simpa using hclose⟩
  | cons s sections ih =>
    intro d root hclose hnames hkeys
    have hnew : s.1 ∉ root.map (·.1) := by
      rw [List.map_cons, List.nodup_append] at hnames
      intro hmem
      exact hnames.2.2 s.1 hmem s.1 List.mem_cons_self rfl
    have hadd := add_section hclose hnew (hkeys s List.mem_cons_self)
    obtain ⟨d', hd', hclose'⟩ := ih _ _ (close_section hnew s.2) (by simpa using hnames)
      fun t ht => hkeys t (List.mem_cons_of_mem s ht)
    refine ⟨d', ?_, by simpa using hclose'⟩
    rw [List.flatMap_cons, List.foldlM_append, hadd, Option.bind_eq_bind, Option.bind_some, hd']

/-- Sections with names of their own, each with keys of its own, make the table of these sections. -/
theorem tableOf_sections {sections : List (String × Entries)}
    (hnames : (sections.map (·.1)).Nodup) (hkeys : ∀ s ∈ sections, (s.2.map (·.1)).Nodup) :
    tableOf (sections.flatMap sectionOf) =
      some (sections.map fun s => (s.1, .table .header s.2)) := by
  obtain ⟨d, hd, hclose⟩ := add_sections sections {} [] rfl (by simpa using hnames) hkeys
  simp [tableOf, hd, hclose]

end Sections

end RemoteDisplay.Toml
