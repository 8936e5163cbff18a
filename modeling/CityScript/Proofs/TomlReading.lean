/-
Plain TOML documents are read as they are spelled.

A plain document is a list of tables, each with a header of one key, and under it lines that
give plain values to keys without quotes. This is the part of the format that settings are
written in. Lines may be empty, they may be indented, and a comment may stand at the end of
each.

While a document is read, the table of the last header is at the end of it, and every value
goes to the end of that table. So what has been read is always a beginning of the document
(`readLines?_of_spellsLines`).
-/
import CityScript.Proofs.TomlValues

set_option autoImplicit false

namespace CityScript.Toml

/-! ## Line ends -/

/-- Blanks within a line only. -/
def IsSpaces (cs : List Char) : Prop := ∀ c ∈ cs, isSpace c = true

theorem isSpaces_nil : IsSpaces [] := fun _ hc => nomatch hc

theorem skipSpace_append {gap rest : List Char} (hgap : IsSpaces gap)
    (hrest : ∀ c ∈ rest.head?, isSpace c = false) : skipSpace (gap ++ rest) = rest :=
  dropWhile_run hgap hrest

theorem isFiller_of_isSpaces {gap : List Char} (hgap : IsSpaces gap) : IsFiller gap :=
  fun c hc => .inl (hgap c hc)

/-- What breaks a line: a line feed, or a carriage return and a line feed. -/
def IsBreak (cs : List Char) : Prop := cs = ['\n'] ∨ cs = ['\r', '\n']

/-- The end of a line with its break, after blanks and a comment if there are any. -/
inductive IsLineEnd : List Char → Prop
  | plain {gap brk : List Char} (hgap : IsSpaces gap) (hbrk : IsBreak brk) : IsLineEnd (gap ++ brk)
  | comment {gap text brk : List Char} (hgap : IsSpaces gap)
    (htext : ∀ c ∈ text, isCommentChar c = true) (hbrk : IsBreak brk) :
    IsLineEnd (gap ++ '#' :: (text ++ brk))

theorem isLineEnd_newline : IsLineEnd ['\n'] := .plain isSpaces_nil (.inl rfl)

section Lines

variable {stop : List Char}

theorem lineEnd?_append (h : IsLineEnd stop) (rest : List Char) :
    lineEnd? (stop ++ rest) = some rest := by
  cases h with
  | plain hgap hbrk =>
    rw [List.append_assoc]
    rcases hbrk with rfl | rfl
    · rw [lineEnd?, skipSpace_append hgap (by rintro c ⟨⟩; decide)]
      rfl
    · rw [lineEnd?, skipSpace_append hgap (by rintro c ⟨⟩; decide)]
      rfl
  | @comment gap text brk hgap htext hbrk =>
    have hcomment : skipComment ('#' :: (text ++ (brk ++ rest))) = brk ++ rest := by
      refine dropWhile_run htext ?_
      rcases hbrk with rfl | rfl <;> (rintro c ⟨⟩; decide)
    rw [List.append_assoc, List.cons_append, List.append_assoc, lineEnd?,
      skipSpace_append hgap (by rintro c ⟨⟩; decide), hcomment]
    rcases hbrk with rfl | rfl
    · rfl
    · rfl

theorem endsValue_of_isLineEnd (h : IsLineEnd stop) (rest : List Char) :
    EndsValue (stop ++ rest) := by
  cases h with
  | plain hgap hbrk =>
    rw [List.append_assoc]
    refine endsValue_append (isFiller_of_isSpaces hgap) ?_
    rcases hbrk with rfl | rfl <;> (rintro c ⟨⟩; decide)
  | comment hgap =>
    rw [List.append_assoc]
    refine endsValue_append (isFiller_of_isSpaces hgap) ?_
    rintro c ⟨⟩
    decide

/-- A line without a key is passed over. -/
theorem readLines?_idle (h : IsLineEnd stop) (header : List String) (root : Entries)
    (rest : List Char) (fuel : Nat) :
    readLines? (fuel + 1) header root (stop ++ rest) = readLines? fuel header root rest := by
  have hend := lineEnd?_append h rest
  cases h with
  | plain hgap hbrk =>
    rw [List.append_assoc] at hend ⊢
    rcases hbrk with rfl | rfl
    · rw [readLines?, skipSpace_append hgap (by rintro c ⟨⟩; decide)]
      rfl
    · rw [readLines?, skipSpace_append hgap (by rintro c ⟨⟩; decide)]
      rfl
  | @comment gap text brk hgap htext hbrk =>
    rw [List.append_assoc, List.cons_append] at hend ⊢
    have hskip : skipSpace (gap ++ '#' :: (text ++ brk ++ rest)) = '#' :: (text ++ brk ++ rest) :=
      skipSpace_append hgap (by rintro c ⟨⟩; decide)
    have hcomment : lineEnd? ('#' :: (text ++ brk ++ rest)) = some rest := by
      rw [lineEnd?, hskip] at hend
      exact hend
    rw [readLines?, hskip]
    change (lineEnd? _).bind _ = _
    rw [hcomment]
    rfl

end Lines

/-! ## Keys -/

/-- A key without quotes. -/
def IsBareKey (key : String) : Prop :=
  key.toList ≠ [] ∧ key.toList.all isBareKeyChar = true

instance (key : String) : Decidable (IsBareKey key) := inferInstanceAs (Decidable (_ ∧ _))

/-- No mark that begins a line or a string may stand in a key. -/
theorem exists_cons_of_isBareKey {key : String} (hkey : IsBareKey key) :
    ∃ c tail, key.toList = c :: tail ∧ isSpace c = false ∧
      c ∉ ['"', '\x27', '#', '\n', '\r', '[', ']'] := by
  obtain ⟨hne, hall⟩ := hkey
  cases hcs : key.toList with
  | nil => exact absurd hcs hne
  | cons c tail =>
    have hothers : [' ', '\t', '"', '\x27', '#', '\n', '\r', '[', ']'].all
        (fun d => !isBareKeyChar d) = true := by decide
    have hc : isBareKeyChar c = true := by
      rw [hcs, List.all_cons, Bool.and_eq_true] at hall
      exact hall.1
    have hnot : c ∉ [' ', '\t', '"', '\x27', '#', '\n', '\r', '[', ']'] :=
      not_mem_run (List.all_eq_true.mp hothers) (by rw [hc, Bool.not_true])
    simp only [List.mem_cons, not_or] at hnot ⊢
    exact ⟨c, tail, rfl, by simp [isSpace, hnot.1, hnot.2.1], hnot.2.2⟩

theorem readKeyPart?_append {key : String} (hkey : IsBareKey key) {rest : List Char}
    (hrest : ∀ c ∈ rest.head?, isBareKeyChar c = false) :
    readKeyPart? (key.toList ++ rest) = some (key.toList, rest) := by
  have hrun : ∀ c ∈ key.toList, isBareKeyChar c = true := List.all_eq_true.mp hkey.2
  have htake := takeWhile_run hrun hrest
  have hdrop := dropWhile_run hrun hrest
  obtain ⟨c, tail, hcs, -, hc⟩ := exists_cons_of_isBareKey hkey
  simp only [List.mem_cons, not_or] at hc
  rw [hcs, List.cons_append] at htake hdrop ⊢
  simp [readKeyPart?, hc.1, hc.2.1, htake, hdrop]

/-- **A key without quotes is read up to the mark behind it**, and it has one part. -/
theorem readSplitKey?_append {key : String} (hkey : IsBareKey key) {before after : List Char}
    (hbefore : IsSpaces before) (hafter : IsSpaces after) {c : Char} (hc : c = '=' ∨ c = ']')
    (rest : List Char) :
    readSplitKey? (before ++ (key.toList ++ (after ++ c :: rest))) =
      some (([], key), c :: rest) := by
  have hfirst : skipSpace (before ++ (key.toList ++ (after ++ c :: rest))) =
      key.toList ++ (after ++ c :: rest) := by
    obtain ⟨d, tail, hcs, hspace, -⟩ := exists_cons_of_isBareKey hkey
    refine skipSpace_append hbefore ?_
    rw [hcs]
    rintro e ⟨⟩
    exact hspace
  have hpart : readKeyPart? (key.toList ++ (after ++ c :: rest)) =
      some (key.toList, after ++ c :: rest) := by
    refine readKeyPart?_append hkey ?_
    cases after with
    | nil =>
      rintro d ⟨⟩
      rcases hc with rfl | rfl <;> decide
    | cons b after =>
      rintro d ⟨⟩
      rcases isSpace_iff.mp (hafter b List.mem_cons_self) with rfl | rfl <;> decide
  have hmark : skipSpace (after ++ c :: rest) = c :: rest := by
    refine skipSpace_append hafter ?_
    rintro d ⟨⟩
    rcases hc with rfl | rfl <;> decide
  have hpoint : c ≠ '.' := by rcases hc with rfl | rfl <;> decide
  have hread : ∀ fuel, readKey? (fuel + 1) (before ++ (key.toList ++ (after ++ c :: rest))) =
      some ([key], c :: rest) := by
    intro fuel
    simp [readKey?, hfirst, hpart, hmark, hpoint]
  have hlimit : depthLimit = 78 + 1 := rfl
  rw [readSplitKey?, hlimit, hread]
  rfl

/-! ## Lines -/

/-- A line that gives a value to a key. -/
inductive SpellsPair : String × Toml → List Char → Prop
  | mk {indent before after cs stop : List Char} {key : String} {v : Toml}
    (hindent : IsSpaces indent) (hkey : IsBareKey key) (hbefore : IsSpaces before)
    (hafter : IsSpaces after) (h : SpellsValue v cs) (hstop : IsLineEnd stop) :
    SpellsPair (key, v)
      (indent ++ (key.toList ++ (before ++ '=' :: (after ++ (cs ++ stop)))))

/-- A line with the header of a table. -/
inductive SpellsHeader : String → List Char → Prop
  | mk {indent before after stop : List Char} {key : String} (hindent : IsSpaces indent)
    (hbefore : IsSpaces before) (hkey : IsBareKey key) (hafter : IsSpaces after)
    (hstop : IsLineEnd stop) :
    SpellsHeader key (indent ++ '[' :: (before ++ (key.toList ++ (after ++ ']' :: stop))))

/-- The value of a line is added to the table of the last header. -/
theorem readLines?_pair {entry : String × Toml} {line : List Char} (h : SpellsPair entry line)
    (header : List String) (root : Entries) (rest : List Char) (fuel : Nat) :
    readLines? (fuel + 1) header root (line ++ rest) =
      (addValueUnder header [] entry.1 entry.2 root).bind fun root =>
        readLines? fuel header root rest := by
  cases h with
  | @mk indent before after cs stop key v hindent hkey hbefore hafter h hstop =>
    have hend := endsValue_of_isLineEnd hstop rest
    have hkeyRead := readSplitKey?_append hkey isSpaces_nil hbefore (.inl rfl)
      (after ++ (cs ++ (stop ++ rest)))
    have hvalue : skipSpace (after ++ (cs ++ (stop ++ rest))) = cs ++ (stop ++ rest) :=
      skipSpace_append hafter (startsValue h _)
    have hlength : cs.length < (after ++ (cs ++ (stop ++ rest))).length + 1 := by
      simp only [List.length_append]
      omega
    have hread : readValue? depthLimit ((after ++ (cs ++ (stop ++ rest))).length + 1)
        (cs ++ (stop ++ rest)) = some (v, stop ++ rest) := readValue?_append h hend 78 hlength
    obtain ⟨c, tail, hcs, hspace, hc⟩ := exists_cons_of_isBareKey hkey
    simp only [List.mem_cons, List.not_mem_nil, or_false, not_or] at hc
    simp only [List.append_assoc, List.cons_append, List.nil_append, hcs] at hkeyRead ⊢
    have hfirst : skipSpace (indent ++ c :: (tail ++ (before ++ '=' ::
        (after ++ (cs ++ (stop ++ rest)))))) =
        c :: (tail ++ (before ++ '=' :: (after ++ (cs ++ (stop ++ rest))))) :=
      skipSpace_append hindent (by rintro d ⟨⟩; exact hspace)
    have hlast := lineEnd?_append hstop rest
    obtain ⟨-, -, hcomment, hfeed, hreturn, hbracket, -⟩ := hc
    rw [readLines?, hfirst]
    -- a key begins with none of the marks of other lines
    split
    · next heq => cases heq
    · next heq => exact absurd (List.cons.inj heq).1 hcomment
    · next heq => exact absurd (List.cons.inj heq).1 hfeed
    · next heq => exact absurd (List.cons.inj heq).1 hreturn
    · next heq => exact absurd (List.cons.inj heq).1 hbracket
    · next heq => exact absurd (List.cons.inj heq).1 hbracket
    · simp only [hkeyRead, hvalue, hread, hlast, Option.bind_eq_bind, Option.bind_some]

/-- A header opens a table. -/
theorem readLines?_header {key : String} {line : List Char} (h : SpellsHeader key line)
    (header : List String) (root : Entries) (rest : List Char) (fuel : Nat) :
    readLines? (fuel + 1) header root (line ++ rest) =
      (openTable [] key root).bind fun root => readLines? fuel [key] root rest := by
  cases h with
  | @mk indent before after stop key hindent hbefore hkey hafter hstop =>
    have hkeyRead := readSplitKey?_append hkey hbefore hafter (.inr rfl) (stop ++ rest)
    have hlast := lineEnd?_append hstop rest
    have hread : readHeader? [']']
        (before ++ (key.toList ++ (after ++ ']' :: (stop ++ rest)))) =
        some (([], key), rest) := by
      rw [readHeader?, hkeyRead]
      simp [hlast]
    simp only [List.append_assoc, List.cons_append]
    rw [readLines?, skipSpace_append hindent (by rintro c ⟨⟩; decide)]
    split
    · next heq => cases heq
    · next heq => exact absurd (List.cons.inj heq).1 (by decide)
    · next heq => exact absurd (List.cons.inj heq).1 (by decide)
    · next heq => exact absurd (List.cons.inj heq).1 (by decide)
    · next tail heq =>
      -- neither a blank nor a key begins with a second bracket
      have htail := (List.cons.inj heq).2
      cases before with
      | nil =>
        obtain ⟨c, more, hcs, -, hc⟩ := exists_cons_of_isBareKey hkey
        rw [hcs] at htail
        rw [(List.cons.inj htail).1] at hc
        exact absurd (by decide) hc
      | cons b before =>
        have hb := hbefore b List.mem_cons_self
        rw [(List.cons.inj htail).1] at hb
        cases hb
    · next heq =>
      rw [← (List.cons.inj heq).2, hread]
      rfl
    · next hnone => exact absurd rfl (hnone _)

/-! ## Tables -/

/-- A table with the name in its header, and its values by their keys. -/
abbrev Table := String × List (String × Toml)

/-- The values of a table that is being read. -/
def valueNodes (entries : List (String × Toml)) : Entries :=
  entries.map fun entry => (entry.1, .value entry.2)

/-- The tables of a document that is being read. -/
def tableNodes (tables : List Table) : Entries :=
  tables.map fun table => (table.1, .table .header (valueNodes table.2))

/-- No table is opened twice, and no key of a table is given two values. -/
structure Distinct (tables : List Table) : Prop where
  names : (tables.map Prod.fst).Nodup
  keys : ∀ table ∈ tables, (table.2.map Prod.fst).Nodup

theorem notMem_of_nodup_append_cons {α : Type} {a : α} {front back : List α}
    (h : (front ++ a :: back).Nodup) : a ∉ front :=
  fun hmem => (List.nodup_append.mp h).2.2 a hmem a List.mem_cons_self rfl

section Entries

variable {entries : Entries} {key : String}

theorem lookup_eq_none (h : key ∉ entries.map Prod.fst) : entries.lookup key = none := by
  refine List.lookup_eq_none_iff.mpr fun entry hentry => ?_
  rw [bne_iff_ne]
  rintro rfl
  exact h (List.mem_map_of_mem hentry)

theorem lookup_append_self (h : key ∉ entries.map Prod.fst) (node : Node) :
    (entries ++ [(key, node)]).lookup key = some node := by
  rw [List.lookup_append, lookup_eq_none h]
  simp

theorem putEntry_of_notMem (h : key ∉ entries.map Prod.fst) (node : Node) :
    putEntry key node entries = entries ++ [(key, node)] := by
  induction entries with
  | nil => rfl
  | cons entry entries ih =>
    rw [List.map_cons, List.mem_cons, not_or] at h
    rw [putEntry, if_neg (Ne.symm h.1), ih h.2]
    rfl

theorem putEntry_append_self (h : key ∉ entries.map Prod.fst) (old new : Node) :
    putEntry key new (entries ++ [(key, old)]) = entries ++ [(key, new)] := by
  induction entries with
  | nil => simp [putEntry]
  | cons entry entries ih =>
    rw [List.map_cons, List.mem_cons, not_or] at h
    rw [List.cons_append, putEntry, if_neg (Ne.symm h.1), ih h.2]
    rfl

/-- A new value goes to the end of its table. -/
theorem addValue_of_notMem (h : key ∉ entries.map Prod.fst) (v : Toml) :
    addValue [] key v entries = some (entries ++ [(key, .value v)]) := by
  simp [addValue, changeAt, lookup_eq_none h, putEntry_of_notMem h]

/-- A new table goes to the end of the document. -/
theorem openTable_of_notMem (h : key ∉ entries.map Prod.fst) :
    openTable [] key entries = some (entries ++ [(key, .table .header [])]) := by
  simp [openTable, changeAt, lookup_eq_none h, putEntry_of_notMem h]

/-- A new value under the last header goes to the end of the last table. -/
theorem addValueUnder_last {name : String} (hname : name ∉ entries.map Prod.fst) {inner : Entries}
    (hkey : key ∉ inner.map Prod.fst) (v : Toml) :
    addValueUnder [name] [] key v (entries ++ [(name, .table .header inner)]) =
      some (entries ++ [(name, .table .header (inner ++ [(key, .value v)]))]) := by
  simp [addValueUnder, changeAt, lookup_append_self hname, addValue_of_notMem hkey,
    putEntry_append_self hname]

end Entries

theorem map_fst_valueNodes (entries : List (String × Toml)) :
    (valueNodes entries).map Prod.fst = entries.map Prod.fst := by
  simp [valueNodes, Function.comp_def]

theorem map_fst_tableNodes (tables : List Table) :
    (tableNodes tables).map Prod.fst = tables.map Prod.fst := by
  simp [tableNodes, Function.comp_def]

theorem finishEntries_valueNodes (entries : List (String × Toml)) :
    finishEntries (valueNodes entries) = entries := by
  induction entries with
  | nil => rfl
  | cons entry entries ih =>
    rw [valueNodes] at ih
    rw [valueNodes, List.map_cons, finishEntries, ih, Node.finish]

theorem finishEntries_tableNodes (tables : List Table) :
    finishEntries (tableNodes tables) = tables.map fun table => (table.1, .table table.2) := by
  induction tables with
  | nil => rfl
  | cons table tables ih =>
    rw [tableNodes] at ih
    rw [tableNodes, List.map_cons, finishEntries, ih, Node.finish, finishEntries_valueNodes]
    rfl

/-! ## Documents -/

/-- Lines spell the further values of the table that is open, and the tables after it. -/
inductive SpellsLines : List (String × Toml) → List Table → List Char → Prop
  | nil : SpellsLines [] [] []
  | idle {stop cs : List Char} {entries : List (String × Toml)} {tables : List Table}
    (hstop : IsLineEnd stop) (h : SpellsLines entries tables cs) :
    SpellsLines entries tables (stop ++ cs)
  | pair {line cs : List Char} {entry : String × Toml} {entries : List (String × Toml)}
    {tables : List Table} (hline : SpellsPair entry line) (h : SpellsLines entries tables cs) :
    SpellsLines (entry :: entries) tables (line ++ cs)
  | header {line cs : List Char} {name : String} {entries : List (String × Toml)}
    {tables : List Table} (hline : SpellsHeader name line) (h : SpellsLines entries tables cs) :
    SpellsLines [] ((name, entries) :: tables) (line ++ cs)

theorem length_pos_of_isLineEnd {stop : List Char} (h : IsLineEnd stop) : 0 < stop.length := by
  cases h with
  | plain hgap hbrk => rcases hbrk with rfl | rfl <;> simp
  | comment => simp

theorem tableNodes_append_singleton (before : List Table) (name : String)
    (given : List (String × Toml)) :
    tableNodes (before ++ [(name, given)]) =
      tableNodes before ++ [(name, .table .header (valueNodes given))] := by
  simp [tableNodes]

/-- **What follows in an open table** is added to it, and then come the tables after it. -/
theorem readLines?_of_spellsLines {entries : List (String × Toml)} {tables : List Table}
    {cs : List Char} (h : SpellsLines entries tables cs) {before : List Table} {name : String}
    {given : List (String × Toml)}
    (hdistinct : Distinct (before ++ (name, given ++ entries) :: tables))
    {fuel : Nat} (hfuel : cs.length < fuel) :
    readLines? fuel [name] (tableNodes (before ++ [(name, given)])) cs =
      some (tableNodes (before ++ (name, given ++ entries) :: tables)) := by
  induction h generalizing before name given fuel with
  | nil =>
    obtain ⟨fuel, rfl⟩ := Nat.exists_eq_add_one.mpr (Nat.zero_lt_of_lt hfuel)
    rw [List.append_nil]
    rfl
  | idle hstop h ih =>
    have hpos := length_pos_of_isLineEnd hstop
    rw [List.length_append] at hfuel
    obtain ⟨fuel, rfl⟩ := Nat.exists_eq_add_one.mpr (Nat.zero_lt_of_lt hfuel)
    rw [readLines?_idle hstop]
    exact ih hdistinct (by omega)
  | @pair line cs entry entries tables hline h ih =>
    have hpos : 0 < line.length := by
      cases hline
      simp
    rw [List.length_append] at hfuel
    obtain ⟨fuel, rfl⟩ := Nat.exists_eq_add_one.mpr (Nat.zero_lt_of_lt hfuel)
    have hname : name ∉ (tableNodes before).map Prod.fst := by
      have hnames := hdistinct.names
      rw [List.map_append, List.map_cons] at hnames
      rw [map_fst_tableNodes]
      exact notMem_of_nodup_append_cons hnames
    have hkey : entry.1 ∉ (valueNodes given).map Prod.fst := by
      have hkeys := hdistinct.keys _ (List.mem_append_right _ List.mem_cons_self)
      rw [List.map_append, List.map_cons] at hkeys
      rw [map_fst_valueNodes]
      exact notMem_of_nodup_append_cons hkeys
    have hadded : tableNodes before ++ [(name, .table .header
        (valueNodes given ++ [(entry.1, .value entry.2)]))] =
        tableNodes (before ++ [(name, given ++ [entry])]) := by
      rw [tableNodes_append_singleton]
      simp [valueNodes]
    have happend : given ++ entry :: entries = given ++ [entry] ++ entries := by simp
    rw [happend] at hdistinct ⊢
    rw [readLines?_pair hline, tableNodes_append_singleton, addValueUnder_last hname hkey,
      Option.bind_some, hadded]
    exact ih hdistinct (by omega)
  | @header line cs next entries tables hline h ih =>
    have hpos : 0 < line.length := by
      cases hline
      simp
    rw [List.length_append] at hfuel
    obtain ⟨fuel, rfl⟩ := Nat.exists_eq_add_one.mpr (Nat.zero_lt_of_lt hfuel)
    have happend : before ++ (name, given ++ []) :: (next, entries) :: tables =
        before ++ [(name, given)] ++ (next, [] ++ entries) :: tables := by simp
    rw [happend] at hdistinct ⊢
    have hname : next ∉ (tableNodes (before ++ [(name, given)])).map Prod.fst := by
      have hnames := hdistinct.names
      rw [List.map_append, List.map_cons] at hnames
      rw [map_fst_tableNodes]
      exact notMem_of_nodup_append_cons hnames
    have hrest := @ih (before ++ [(name, given)]) next [] hdistinct fuel (by omega)
    rw [tableNodes_append_singleton] at hrest
    rw [readLines?_header hline, openTable_of_notMem hname, Option.bind_some]
    exact hrest

/-- Up to the first header there are no values. -/
theorem readLines?_of_spellsLines_nil {entries : List (String × Toml)} {tables : List Table}
    {cs : List Char} (h : SpellsLines entries tables cs) (hentries : entries = [])
    (hdistinct : Distinct tables) {fuel : Nat} (hfuel : cs.length < fuel) :
    readLines? fuel [] [] cs = some (tableNodes tables) := by
  induction h generalizing fuel with
  | nil =>
    obtain ⟨fuel, rfl⟩ := Nat.exists_eq_add_one.mpr (Nat.zero_lt_of_lt hfuel)
    rfl
  | idle hstop h ih =>
    have hpos := length_pos_of_isLineEnd hstop
    rw [List.length_append] at hfuel
    obtain ⟨fuel, rfl⟩ := Nat.exists_eq_add_one.mpr (Nat.zero_lt_of_lt hfuel)
    rw [readLines?_idle hstop]
    exact ih hentries hdistinct (by omega)
  | pair => cases hentries
  | @header line cs name entries tables hline h =>
    have hpos : 0 < line.length := by
      cases hline
      simp
    rw [List.length_append] at hfuel
    obtain ⟨fuel, rfl⟩ := Nat.exists_eq_add_one.mpr (Nat.zero_lt_of_lt hfuel)
    rw [readLines?_header hline, openTable_of_notMem (by simp), Option.bind_some]
    exact @readLines?_of_spellsLines _ _ _ h [] name [] hdistinct fuel (by omega)

/-- A text spells a document of tables. -/
def Spells (tables : List Table) (text : String) : Prop := SpellsLines [] tables text.toList

/-- Values have a line each in front of whatever follows their table. -/
theorem exists_spellsLines_append {entries : List (String × Toml)} {tables : List Table}
    {rest : List Char}
    (hentries : ∀ entry ∈ entries, IsBareKey entry.1 ∧ ∃ cs, SpellsValue entry.2 cs)
    (hrest : SpellsLines [] tables rest) : ∃ cs, SpellsLines entries tables cs := by
  induction entries with
  | nil => exact ⟨rest, hrest⟩
  | cons entry entries ih =>
    obtain ⟨⟨hkey, cs, hcs⟩, hentries⟩ := List.forall_mem_cons.mp hentries
    obtain ⟨more, hmore⟩ := ih hentries
    exact ⟨_, .pair (.mk isSpaces_nil hkey isSpaces_nil isSpaces_nil hcs isLineEnd_newline) hmore⟩

/-- Tables have a spelling if their keys and values have one. -/
theorem exists_spellsLines {tables : List Table} (hnames : ∀ table ∈ tables, IsBareKey table.1)
    (hentries : ∀ table ∈ tables, ∀ entry ∈ table.2,
      IsBareKey entry.1 ∧ ∃ cs, SpellsValue entry.2 cs) :
    ∃ cs, SpellsLines [] tables cs := by
  induction tables with
  | nil => exact ⟨[], .nil⟩
  | cons table tables ih =>
    obtain ⟨hname, hnames⟩ := List.forall_mem_cons.mp hnames
    obtain ⟨hvalues, hentries⟩ := List.forall_mem_cons.mp hentries
    obtain ⟨rest, hrest⟩ := ih hnames hentries
    obtain ⟨cs, hcs⟩ := exists_spellsLines_append hvalues hrest
    exact ⟨_, .header (.mk isSpaces_nil isSpaces_nil hname isSpaces_nil isLineEnd_newline) hcs⟩

/-- Whatever follows a gap in a line, the byte order mark does not begin it. -/
theorem head_append_ne {gap : List Char} (hgap : IsSpaces gap) {c : Char} (hc : c ≠ '\uFEFF')
    (rest : List Char) : ∀ d ∈ (gap ++ c :: rest).head?, d ≠ '\uFEFF' := by
  cases gap with
  | nil =>
    rintro d ⟨⟩
    exact hc
  | cons b gap =>
    rintro d ⟨⟩ rfl
    exact absurd (hgap _ List.mem_cons_self) (by decide)

/-- No document begins with a byte order mark. -/
theorem head_spellsLines {entries : List (String × Toml)} {tables : List Table}
    {cs : List Char} (h : SpellsLines entries tables cs) : ∀ c ∈ cs.head?, c ≠ '\uFEFF' := by
  cases h with
  | nil => rintro c ⟨⟩
  | idle hstop =>
    cases hstop with
    | plain hgap hbrk =>
      rw [List.append_assoc]
      rcases hbrk with rfl | rfl
      · exact head_append_ne hgap (by decide) _
      · exact head_append_ne hgap (by decide) _
    | comment hgap =>
      rw [List.append_assoc]
      exact head_append_ne hgap (by decide) _
  | pair hline =>
    cases hline with
    | mk hindent hkey =>
      obtain ⟨c, tail, hcs, -⟩ := exists_cons_of_isBareKey hkey
      have hbare := List.all_eq_true.mp hkey.2 c (hcs ▸ List.mem_cons_self)
      rw [List.append_assoc, hcs]
      refine head_append_ne hindent ?_ _
      rintro rfl
      exact absurd hbare (by decide)
  | header hline =>
    cases hline with
    | mk hindent =>
      rw [List.append_assoc]
      exact head_append_ne hindent (by decide) _

/-- **Every spelling of a document is read.** -/
theorem read?_of_spells {tables : List Table} {text : String} (h : Spells tables text)
    (hdistinct : Distinct tables) :
    read? text = some (tables.map fun table => (table.1, .table table.2)) := by
  have hread := readLines?_of_spellsLines_nil h rfl hdistinct (Nat.lt_add_one _)
  have hmark : ∀ tail, text.toList ≠ '\uFEFF' :: tail := by
    intro tail heq
    refine head_spellsLines h '\uFEFF' ?_ rfl
    rw [heq]
    rfl
  unfold read?
  split
  · next tail heq => exact absurd heq (hmark tail)
  · dsimp only
    rw [hread, Option.map_some, finishEntries_tableNodes]

end CityScript.Toml
