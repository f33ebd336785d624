import SqlDialects.Catalog.Sqlite
import SqlDialects.Proofs.Definition.ColumnText

/-!
# The lines of a creation

SQLite keeps the text that created a table, and a column is looked up in it by its name. Each column has one line that
begins with its name, the last one of that name, and the line holds the definition up to the blanks at its end.
-/

namespace SqlDialects.Catalog.Sqlite
open Text

/-- The line of an item: indented, with or without a comma. -/
def LineOf (item line : List Char) : Prop :=
  ∃ tail, (tail = [] ∨ tail = [',']) ∧ line = lines.dropReturn ('\t' :: (item ++ tail))

theorem toList_itemLines_singleton (item : String) :
    (Statement.itemLines [item]).toList = '\t' :: (item.toList ++ ['\n']) := by
  simp [Statement.itemLines]

theorem toList_itemLines_cons_cons (item next : String) (items : List String) :
    (Statement.itemLines (item :: next :: items)).toList =
      '\t' :: (item.toList ++ ',' :: '\n' :: (Statement.itemLines (next :: items)).toList) := by
  simp [Statement.itemLines]

theorem lines_itemLines {items : List String} (h : ∀ item ∈ items, '\n' ∉ item.toList) (rest : List Char) :
    ∃ ls, lines ((Statement.itemLines items).toList ++ rest) = ls ++ lines rest ∧
      List.Forall₂ (fun item l => LineOf item.toList l) items ls := by
  induction items with
  | nil => exact ⟨[], rfl, .nil⟩
  | cons item items ih =>
    obtain ⟨hitem, hitems⟩ := List.forall_mem_cons.1 h
    cases items with
    | nil =>
      have hline : '\n' ∉ '\t' :: item.toList := by simp [hitem]
      refine ⟨[lines.dropReturn ('\t' :: item.toList)], ?_, .cons ⟨[], .inl rfl, by simp⟩ .nil⟩
      rw [toList_itemLines_singleton]
      simpa using lines_line hline rest
    | cons next items =>
      obtain ⟨ls, hls, hlines⟩ := ih hitems
      have hline : '\n' ∉ '\t' :: (item.toList ++ [',']) := by simp [hitem]
      refine ⟨lines.dropReturn ('\t' :: (item.toList ++ [','])) :: ls, ?_, .cons ⟨[','], .inr rfl, rfl⟩ hlines⟩
      have hsplit := lines_line hline ((Statement.itemLines (next :: items)).toList ++ rest)
      rw [hls] at hsplit
      rw [toList_itemLines_cons_cons]
      simpa using hsplit

/-- Every item of a creation without line feeds has a line of its own, whatever the other items are. -/
theorem mem_lines_itemLines {items : List String} {item : String} (h : item ∈ items) (hfeed : '\n' ∉ item.toList)
    (rest : List Char) : ∃ l ∈ lines ((Statement.itemLines items).toList ++ rest), LineOf item.toList l := by
  induction items with
  | nil => cases h
  | cons first items ih =>
    cases items with
    | nil =>
      obtain rfl := List.mem_singleton.1 h
      have hline : '\n' ∉ '\t' :: item.toList := by simp [hfeed]
      refine ⟨lines.dropReturn ('\t' :: item.toList), ?_, [], .inl rfl, by simp⟩
      have hlines := lines_line hline rest
      rw [toList_itemLines_singleton]
      simp_all
    | cons next items =>
      have hitems := toList_itemLines_cons_cons first next items
      rcases List.mem_cons.1 h with rfl | h
      · have hline : '\n' ∉ '\t' :: (item.toList ++ [',']) := by simp [hfeed]
        refine ⟨lines.dropReturn ('\t' :: (item.toList ++ [','])), ?_, [','], .inr rfl, rfl⟩
        have hlines := lines_line hline ((Statement.itemLines (next :: items)).toList ++ rest)
        rw [hitems]
        simp_all
      · obtain ⟨l, hl, hline⟩ := ih h
        have hlines := lines_append ('\t' :: (first.toList ++ [',']))
          ((Statement.itemLines (next :: items)).toList ++ rest)
        refine ⟨l, ?_, hline⟩
        rw [hitems]
        simp_all

/-- The characters that are cut off at both ends of a line. -/
def isMargin (c : Char) : Bool :=
  c = ' ' || c = ',' || c = '\t'

/-- The lines that define columns, each with the name of its column. -/
def entries (ls : List (List Char)) : List (String × String) :=
  (ls.map (trimEnds isMargin)).filterMap fun line => (definedName? line).map (·, String.ofList line)

theorem definitionLines_eq (createSql : String) : definitionLines createSql = entries (lines createSql.toList) := rfl

theorem entries_append (ls ms : List (List Char)) : entries (ls ++ ms) = entries ls ++ entries ms := by
  simp [entries]

theorem definedName?_quoted {name : List Char} (hname : '"' ∉ name) (rest : List Char) :
    definedName? ('"' :: (name ++ '"' :: rest)) = some (String.ofList name) := by
  have hcut : cutFirst? ['"'] (name ++ '"' :: rest) = some (name, rest) :=
    cutFirst?_singleton_eq_some_iff.2 ⟨rfl, hname⟩
  simp [definedName?, hcut]

/-- What does not begin with a margin is kept up to its last character that is no margin, a carriage return apart. -/
theorem trimEnds_lineOf {front rest line : List Char} {c : Char} (hc : c ≠ '\r') (hm : isMargin c = false)
    (hstart : ∀ xs, (front ++ c :: xs).dropWhile isMargin = front ++ c :: xs) (h : LineOf (front ++ c :: rest) line) :
    ∃ kept, trimEnds isMargin line = front ++ c :: kept ∧ kept <+: rest ∧
      ∀ most d, rest = most ++ [d] → d ≠ '\r' → isMargin d = false → kept = rest := by
  obtain ⟨tail, htail, rfl⟩ := h
  have hreturn : lines.dropReturn ('\t' :: (front ++ c :: rest ++ tail)) =
      '\t' :: (front ++ c :: lines.dropReturn (rest ++ tail)) := by
    simpa using dropReturn_append hc ('\t' :: front) (rest ++ tail)
  have htrim : trimEnds isMargin ('\t' :: (front ++ c :: lines.dropReturn (rest ++ tail))) =
      front ++ c :: dropEndWhile isMargin (lines.dropReturn (rest ++ tail)) := by
    rw [trimEnds, List.dropWhile_cons_of_pos (by decide), hstart, dropEndWhile_append hm]
  refine ⟨dropEndWhile isMargin (lines.dropReturn (rest ++ tail)), hreturn ▸ htrim, ?_, ?_⟩
  · rcases htail with rfl | rfl
    · rw [List.append_nil]
      exact (dropEndWhile_isPrefix _ _).trans (dropReturn_isPrefix rest)
    · have hcomma : isMargin ',' = true := by decide
      have hline : lines.dropReturn (rest ++ [',']) = rest ++ [','] := dropReturn_append (by decide) rest []
      rw [hline, dropEndWhile_append_of_all hcomma]
      exact dropEndWhile_isPrefix isMargin rest
  · rintro most d rfl hd hm
    rw [List.append_assoc, List.singleton_append, dropReturn_append hd, dropEndWhile_append hm]
    rcases htail with rfl | rfl <;> simp [lines.dropReturn, dropEndWhile, isMargin]

/-- A line that defines a column under its name, with a part of what the definition says. -/
def DefinedIn (definition : ColumnDefinition) (entry : String × String) : Prop :=
  entry.1 = definition.name ∧ ∃ kept, entry.2.toList = '"' :: (definition.name.toList ++ '"' :: kept) ∧
    kept <+: definition.body ∧
    ∀ most d, definition.body = most ++ [d] → d ≠ '\r' → isMargin d = false → kept = definition.body

theorem entries_definitions {definitions : List ColumnDefinition} {ls : List (List Char)}
    (hname : ∀ definition ∈ definitions, '"' ∉ definition.name.toList ∧ '.' ∉ definition.name.toList)
    (h : List.Forall₂ (fun definition l => LineOf (definition.render .sqlite).toList l) definitions ls) :
    List.Forall₂ DefinedIn definitions (entries ls) := by
  induction h with
  | nil => exact .nil
  | @cons definition l definitions ls hline _ ih =>
    obtain ⟨⟨hquote, hdot⟩, hnames⟩ := List.forall_mem_cons.1 hname
    rw [ColumnDefinition.toList_render hquote hdot] at hline
    have hstart (xs : List Char) : ('"' :: definition.name.toList ++ '"' :: xs).dropWhile isMargin =
        '"' :: definition.name.toList ++ '"' :: xs :=
      List.dropWhile_cons_of_neg (by decide)
    obtain ⟨kept, htrim, hprefix, hwhole⟩ := trimEnds_lineOf (by decide) (by decide) hstart hline
    have hentry : entries (l :: ls) =
        (definition.name, String.ofList ('"' :: (definition.name.toList ++ '"' :: kept))) :: entries ls := by
      simp [entries, htrim, definedName?_quoted hquote]
    rw [hentry]
    exact .cons ⟨rfl, kept, String.toList_ofList, hprefix, hwhole⟩ (ih hnames)

theorem mem_entries {ls : List (List Char)} {l : List Char} {entry : String × String} (hl : l ∈ ls)
    (h : entry ∈ entries [l]) : entry ∈ entries ls := by
  obtain ⟨before, after, rfl⟩ := List.append_of_mem hl
  rw [entries_append, List.mem_append]
  right
  rw [← List.singleton_append, entries_append, List.mem_append]
  exact .inl h

/-- The entry of a line of a definition. -/
theorem definedIn_entry {definition : ColumnDefinition} {l : List Char}
    (hname : '"' ∉ definition.name.toList ∧ '.' ∉ definition.name.toList)
    (hline : LineOf (definition.render .sqlite).toList l) :
    (definition.name, String.ofList (trimEnds isMargin l)) ∈ entries [l] ∧
      DefinedIn definition (definition.name, String.ofList (trimEnds isMargin l)) := by
  have hentries := entries_definitions (List.forall_mem_singleton.2 hname) (.cons hline .nil)
  obtain ⟨⟨name, line⟩, rest, hdefined, hnil, hsplit⟩ := List.forall₂_cons_left_iff.1 hentries
  obtain rfl : name = definition.name := hdefined.1
  have hmem : (definition.name, line) ∈ entries [l] := by
    rw [hsplit]
    exact List.mem_cons_self
  obtain rfl : String.ofList (trimEnds isMargin l) = line := by
    obtain ⟨trimmed, htrimmed, hentry⟩ := List.mem_filterMap.1 hmem
    obtain rfl := List.mem_singleton.1 htrimmed
    obtain ⟨_, _, hpair⟩ := Option.map_eq_some_iff.1 hentry
    exact congrArg Prod.snd hpair
  exact ⟨hmem, hdefined⟩

theorem map_fst_of_definedIn {definitions : List ColumnDefinition} {es : List (String × String)}
    (h : List.Forall₂ DefinedIn definitions es) : es.map (·.1) = definitions.map (·.name) := by
  induction h with
  | nil => rfl
  | cons hdefined _ ih => rw [List.map_cons, List.map_cons, ih, hdefined.1]

/-- What does not begin with a quote defines no column. -/
theorem entries_eq_nil {items : List String} {ls : List (List Char)}
    (hitems : ∀ item ∈ items, ∃ rest, item.toList = 'P' :: rest)
    (h : List.Forall₂ (fun item l => LineOf item.toList l) items ls) : entries ls = [] := by
  induction h with
  | nil => rfl
  | @cons item l items ls hline _ ih =>
    obtain ⟨⟨rest, hitem⟩, hitems⟩ := List.forall_mem_cons.1 hitems
    rw [hitem] at hline
    have hstart (xs : List Char) : ([] ++ 'P' :: xs).dropWhile isMargin = [] ++ 'P' :: xs :=
      List.dropWhile_cons_of_neg (by decide)
    obtain ⟨kept, htrim, _⟩ := trimEnds_lineOf (by decide) (by decide) hstart hline
    have hnone : entries (l :: ls) = entries ls := by
      simp [entries, htrim, definedName?]
    rw [hnone, ih hitems]

theorem lookup_of_last {name line : String} {es : List (String × String)} (others : List (String × String))
    (hmem : (name, line) ∈ es) (hnodup : (es.map (·.1)).Nodup) :
    (others ++ es).reverse.lookup name = some line := by
  obtain ⟨before, after, rfl⟩ := List.append_of_mem hmem
  have hafter : ∀ e ∈ after, name ≠ e.1 := by
    rw [List.map_append, List.map_cons] at hnodup
    have hlast := (List.nodup_cons.1 (List.nodup_append.1 hnodup).2.1).1
    intro e he hname
    exact hlast (List.mem_map.2 ⟨e, he, hname.symm⟩)
  refine List.lookup_eq_some_iff.2 ⟨after.reverse, before.reverse ++ others.reverse, by simp, fun e he => ?_⟩
  exact bne_iff_ne.2 (hafter e (List.mem_reverse.1 he))

theorem render_createTable (temporary : Bool) (table : QualifiedName) (definitions : List ColumnDefinition)
    (listed : List String) :
    (Statement.createTable temporary table definitions listed []).render .sqlite =
      (if temporary then "CREATE TEMPORARY TABLE " else "CREATE TABLE ") ++ table.render .sqlite ++ "(\n" ++
        Statement.itemLines (Statement.createItems .sqlite definitions listed) ++ ")" ++ "" ++ ";" := rfl

/-- The text of a creation has the items on lines between others. -/
theorem exists_createSql (temporary : Bool) (table : QualifiedName) (definitions : List ColumnDefinition)
    (listed : List String) :
    ∃ createSql, (Statement.createTable temporary table definitions listed []).render .sqlite = createSql ++ ";" ∧
      ∃ head, createSql.toList =
        head ++ '\n' :: ((Statement.itemLines (Statement.createItems .sqlite definitions listed)).toList ++ [')']) := by
  refine ⟨_, render_createTable temporary table definitions listed, ?_⟩
  generalize (if temporary then "CREATE TEMPORARY TABLE " else "CREATE TABLE ") ++ table.render .sqlite = opening
  exact ⟨opening.toList ++ ['('], by simp⟩

/-- Each definition stands on a line of its own, which is found under its name. -/
theorem definitionLine?_of_statement {definitions : List ColumnDefinition} {listed : List String} {createSql : String}
    {head : List Char}
    (hchars : createSql.toList =
      head ++ '\n' :: ((Statement.itemLines (Statement.createItems .sqlite definitions listed)).toList ++ [')']))
    (hname : ∀ definition ∈ definitions, '"' ∉ definition.name.toList ∧ '.' ∉ definition.name.toList)
    (hitems : ∀ item ∈ Statement.createItems .sqlite definitions listed, '\n' ∉ item.toList)
    (hnodup : (definitions.map (·.name)).Nodup) :
    ∀ definition ∈ definitions, ∃ line, definitionLine? createSql definition.name = some line ∧
      DefinedIn definition (definition.name, line) := by
  obtain ⟨ls, hls, hlines⟩ := lines_itemLines hitems [')']
  obtain ⟨definitionLs, keyLs, rfl, hdefinitions, hkey⟩ := forall₂_left_append hlines
  have hkeyed : entries (keyLs ++ lines [')']) = [] := by
    have hlast : entries (lines [')']) = [] := by decide
    rw [entries_append, hlast, List.append_nil]
    refine entries_eq_nil ?_ hkey
    intro item hitem
    split at hitem
    · exact absurd hitem List.not_mem_nil
    · obtain rfl := List.mem_singleton.1 hitem
      exact ⟨"RIMARY KEY (".toList ++ (Dialect.sqlite.joinIdents listed ", ").toList ++ [')'], by simp⟩
  rw [List.forall₂_map_left_iff] at hdefinitions
  have hdefined := entries_definitions hname hdefinitions
  have hentries : definitionLines createSql =
      entries ((Text.splitAt '\n' head).map lines.dropReturn) ++ entries definitionLs := by
    rw [definitionLines_eq, hchars, lines_append, hls, entries_append, List.append_assoc, entries_append, hkeyed,
      List.append_nil]
  have hnames := map_fst_of_definedIn hdefined
  intro definition hmem
  obtain ⟨⟨name, line⟩, hentry, hline⟩ := exists_mem_of_forall₂ hdefined definition hmem
  obtain rfl : name = definition.name := hline.1
  refine ⟨line, ?_, hline⟩
  rw [definitionLine?, hentries]
  exact lookup_of_last _ hentry (hnames ▸ hnodup)

end SqlDialects.Catalog.Sqlite
