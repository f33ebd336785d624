import SqlDialects.Proofs.Catalog.CreatedTable

/-!
# The key of a table that SQLite creates

The text of a creation, line by line. A key that counts up is marked in the definition of its column, any other key is
listed after the columns, and no key is declared in both ways.
-/

namespace SqlDialects

/-- Items on lines that begin with a tab, with a comma after each but the last. -/
def commaLines : List String → String
  | [] => ""
  | [last] => "\t" ++ last ++ "\n"
  | item :: rest => "\t" ++ item ++ ",\n" ++ commaLines rest

theorem itemLines_eq_commaLines (items : List String) : Statement.itemLines items = commaLines items := by
  refine String.toList_inj.1 ?_
  induction items with
  | nil => rfl
  | cons item items ih =>
    cases items with
    | nil =>
      rw [Catalog.Sqlite.toList_itemLines_singleton]
      simp [commaLines]
    | cons next items =>
      rw [Catalog.Sqlite.toList_itemLines_cons_cons, ih]
      simp [commaLines]

theorem ColumnDefinition.render_asCountingKey (definition : ColumnDefinition) :
    definition.asCountingKey.render .sqlite = definition.render .sqlite ++ " PRIMARY KEY AUTOINCREMENT" := by
  refine String.toList_inj.1 ?_
  simp [render, asCountingKey, Modifier.renderAll, Modifier.render]

namespace Table

/-- Whether a column counts up and is the whole key, or is the first to count up while no column is flagged as key. -/
def MarksKey (t : Table) (c : TableColumn) : Prop :=
  c.autoIncrement = true ∧ c.dataType.isInteger = true ∧
    (t.primaryKey = [c.name] ∨ t.primaryKey = [] ∧ (t.columns.filter (·.countsUp)).head? = some c)

variable {t : Table} {c c' : TableColumn}

theorem countsUp_iff : c.countsUp = true ↔ c.autoIncrement = true ∧ c.dataType.isInteger = true :=
  Bool.and_eq_true_iff

/-- If no column is flagged as key, the first column that counts up is marked. -/
theorem countingKey?_of_primaryKey_nil (h : t.primaryKey = []) :
    t.countingKey? = (t.columns.filter (·.countsUp)).head?.map (·.name) := by
  simp only [countingKey?, h]
  cases t.columns.filter (·.countsUp) <;> rfl

theorem countingKey?_of_primaryKey_singleton {only : String} (h : t.primaryKey = [only]) :
    t.countingKey? = ((t.columns.filter (·.countsUp)).find? (only == ·.name)).map (·.name) := by
  simp only [countingKey?, h]

theorem countingKey?_of_primaryKey_cons_cons {first second : String} {rest : List String}
    (h : t.primaryKey = first :: second :: rest) : t.countingKey? = none := by
  simp only [countingKey?, h]
  simp

theorem map_name_eq_some_iff (hnames : (t.columns.map (·.name)).Nodup) (hc : c ∈ t.columns)
    {found : Option TableColumn} (hfound : ∀ b, found = some b → b ∈ t.columns) :
    found.map (·.name) = some c.name ↔ found = some c := by
  constructor
  · intro h
    obtain ⟨b, rfl, hname⟩ := Option.map_eq_some_iff.1 h
    rw [List.inj_on_of_nodup_map hnames (hfound b rfl) hc hname]
  · rintro rfl
    rfl

/-- Among columns with distinct names, a search for a name finds the column of the name. -/
theorem find_name_eq_some_iff {columns : List TableColumn} (hnames : (columns.map (·.name)).Nodup) {name : String} :
    columns.find? (name == ·.name) = some c ↔ c ∈ columns ∧ name = c.name := by
  constructor
  · intro h
    exact ⟨List.mem_of_find?_eq_some h, by simpa using List.find?_some h⟩
  · rintro ⟨hc, rfl⟩
    obtain ⟨b, hfind⟩ := Option.isSome_iff_exists.1
      (List.find?_isSome (p := fun b : TableColumn => c.name == b.name) |>.2 ⟨c, hc, by simp⟩)
    have hname : c.name = b.name := by simpa using List.find?_some hfind
    rw [hfind, List.inj_on_of_nodup_map hnames (List.mem_of_find?_eq_some hfind) hc hname.symm]

theorem countingKey?_eq_some_iff (hnames : (t.columns.map (·.name)).Nodup) (hc : c ∈ t.columns) :
    t.countingKey? = some c.name ↔ t.MarksKey c := by
  unfold MarksKey
  rcases hkey : t.primaryKey with _ | ⟨only, _ | ⟨second, rest⟩⟩
  · rw [countingKey?_of_primaryKey_nil hkey,
      map_name_eq_some_iff hnames hc fun b hb => List.mem_of_mem_filter (List.mem_of_head? hb)]
    constructor
    · intro h
      obtain ⟨hauto, hinteger⟩ := countsUp_iff.1 (List.mem_filter.1 (List.mem_of_head? h)).2
      exact ⟨hauto, hinteger, .inr ⟨rfl, h⟩⟩
    · rintro ⟨_, _, hone | ⟨_, h⟩⟩
      · cases hone
      · exact h
  · have hcounting : ((t.columns.filter (·.countsUp)).map (·.name)).Nodup :=
      (List.filter_sublist.map _).nodup hnames
    rw [countingKey?_of_primaryKey_singleton hkey,
      map_name_eq_some_iff hnames hc fun b hb => List.mem_of_mem_filter (List.mem_of_find?_eq_some hb),
      find_name_eq_some_iff hcounting, List.mem_filter, countsUp_iff]
    constructor
    · rintro ⟨⟨_, hauto, hinteger⟩, rfl⟩
      exact ⟨hauto, hinteger, .inl rfl⟩
    · rintro ⟨hauto, hinteger, hone | ⟨hnone, _⟩⟩
      · exact ⟨⟨hc, hauto, hinteger⟩, List.head_eq_of_cons_eq hone⟩
      · cases hnone
  · rw [countingKey?_of_primaryKey_cons_cons hkey]
    constructor
    · intro h
      cases h
    · rintro ⟨_, _, hone | ⟨hnone, _⟩⟩
      · cases hone
      · cases hnone

theorem isSome_countingKey?_iff (hnames : (t.columns.map (·.name)).Nodup) :
    t.countingKey?.isSome = true ↔ ∃ c ∈ t.columns, t.MarksKey c := by
  constructor
  · intro h
    obtain ⟨name, hname⟩ := Option.isSome_iff_exists.1 h
    obtain ⟨c, hc, rfl⟩ := List.mem_map.1 (Catalog.Sqlite.mem_names_of_countingKey? hname)
    exact ⟨c, hc, (countingKey?_eq_some_iff hnames hc).1 hname⟩
  · rintro ⟨c, hc, hmarks⟩
    rw [(countingKey?_eq_some_iff hnames hc).2 hmarks]
    rfl

/-- At most one column is marked. -/
theorem MarksKey.eq (hnames : (t.columns.map (·.name)).Nodup) (hc : c ∈ t.columns) (hc' : c' ∈ t.columns)
    (h : t.MarksKey c) (h' : t.MarksKey c') : c = c' := by
  have hname := (countingKey?_eq_some_iff hnames hc).2 h
  rw [(countingKey?_eq_some_iff hnames hc').2 h'] at hname
  exact List.inj_on_of_nodup_map hnames hc hc' (Option.some.inj hname).symm

/-- The line of a column in a creation: its definition, with the key behind it if the column is marked. -/
def LineOf (t : Table) (c : TableColumn) (line : String) : Prop :=
  ∃ definition, ColumnDefinition.ofColumn .sqlite c.toColumn = .ok definition ∧
    (t.MarksKey c ∧ line = definition.render .sqlite ++ " PRIMARY KEY AUTOINCREMENT" ∨
      ¬ t.MarksKey c ∧ line = definition.render .sqlite)

/-- The lines after those of the columns: the whole key, if there is one and no column is marked. -/
def KeyLines (t : Table) (lines : List String) : Prop :=
  (t.primaryKey ≠ [] ∧ ∀ c ∈ t.columns, ¬ t.MarksKey c) ∧
      lines = ["PRIMARY KEY (" ++ ", ".intercalate (t.primaryKey.map Dialect.sqlite.quoteIdent) ++ ")"] ∨
    (t.primaryKey = [] ∨ ∃ c ∈ t.columns, t.MarksKey c) ∧ lines = []

theorem lineOf_definitionIn {definition : ColumnDefinition} (hnames : (t.columns.map (·.name)).Nodup)
    (hc : c ∈ t.columns) (h : t.definitionIn .sqlite c = .ok definition) :
    t.LineOf c (definition.render .sqlite) := by
  obtain ⟨base, hbase, rfl⟩ := except_map_eq_ok.1 h
  refine ⟨base, hbase, ?_⟩
  by_cases hmarks : t.MarksKey c
  · have hkey := (countingKey?_eq_some_iff hnames hc).2 hmarks
    left
    refine ⟨hmarks, ?_⟩
    rw [← ColumnDefinition.render_asCountingKey]
    simp [hkey]
  · have hkey := mt (countingKey?_eq_some_iff hnames hc).1 hmarks
    right
    refine ⟨hmarks, ?_⟩
    simp [hkey]

theorem lines_definitions {definitions : List ColumnDefinition} (hnames : (t.columns.map (·.name)).Nodup)
    (h : t.columns.mapM (t.definitionIn .sqlite) = .ok definitions) :
    List.Forall₂ t.LineOf t.columns (definitions.map (·.render .sqlite)) := by
  have hboth := (List.forall₂_and_left _ _).2 ⟨fun _ hc => hc, mapM_eq_ok_iff.1 h⟩
  rw [List.forall₂_map_right_iff]
  exact hboth.imp fun _ _ h => lineOf_definitionIn hnames h.1 h.2

theorem keyLines_listedKey (hnames : (t.columns.map (·.name)).Nodup) :
    t.KeyLines (Statement.createItems .sqlite [] (t.listedKey .sqlite)) := by
  unfold KeyLines listedKey
  by_cases hmarked : ∃ c ∈ t.columns, t.MarksKey c
  · have hsome := (isSome_countingKey?_iff hnames).2 hmarked
    right
    refine ⟨.inr hmarked, ?_⟩
    rw [hsome]
    rfl
  · have hnone : t.countingKey?.isSome = false := Bool.eq_false_iff.2 (mt (isSome_countingKey?_iff hnames).1 hmarked)
    have hunmarked : ∀ c ∈ t.columns, ¬ t.MarksKey c := fun c hc hmarks => hmarked ⟨c, hc, hmarks⟩
    rw [hnone]
    by_cases hkey : t.primaryKey = []
    · right
      refine ⟨.inl hkey, ?_⟩
      simp [Statement.createItems, hkey]
    · left
      refine ⟨⟨hkey, hunmarked⟩, ?_⟩
      simp [Statement.createItems, Dialect.joinIdents, hkey]

/-- A creation in SQLite is one statement: its head, a line for each column in order, and a line for the key if the key
is not empty and no column is marked. At most one column is marked. -/
theorem create_sqlite_declares_key_once (t : Table) (hnames : (t.columns.map (·.name)).Nodup)
    (statements : List Statement) (h : t.create .sqlite = .ok statements) : ∃ columnLines keyLines : List String,
      Statement.script .sqlite statements =
        (if t.temporary then "CREATE TEMPORARY TABLE " else "CREATE TABLE ") ++ t.qualifiedName.render .sqlite ++
          "(\n" ++ commaLines (columnLines ++ keyLines) ++ ");" ∧
      List.Forall₂ t.LineOf t.columns columnLines ∧ t.KeyLines keyLines ∧
      ∀ c ∈ t.columns, ∀ c' ∈ t.columns, t.MarksKey c → t.MarksKey c' → c = c' := by
  obtain ⟨definitions, hdefinitions, rfl⟩ := Catalog.Sqlite.create_sqlite_eq_ok h
  refine ⟨definitions.map (·.render .sqlite), _, ?_, lines_definitions hnames hdefinitions,
    keyLines_listedKey hnames, fun c hc c' hc' => MarksKey.eq hnames hc hc'⟩
  have hitems : Statement.createItems .sqlite definitions (t.listedKey .sqlite) =
      definitions.map (·.render .sqlite) ++ Statement.createItems .sqlite [] (t.listedKey .sqlite) := rfl
  rw [Statement.script_singleton, Catalog.Sqlite.render_createTable, hitems, itemLines_eq_commaLines]
  refine String.toList_inj.1 ?_
  simp

/-- A column that counts up is marked as the whole key of one table, and is listed with another one as the key of the
other table. -/
theorem create_sqlite_declares_key_once_of_marked_and_listed :
    let id : TableColumn := .ofColumn { name := "id", dataType := .int, primaryKey := true, autoIncrement := true }
    let org : TableColumn := .ofColumn { name := "org", dataType := .int, primaryKey := true }
    let t : Table := { Table.declare "users" with columns := [id] }
    let u : Table := { Table.declare "users" with columns := [id, org] }
    let unmarked : ColumnDefinition := ⟨"id", .bare "integer", [.notNull]⟩
    let creation : List Statement := [.createTable false ⟨none, "users"⟩ [unmarked.asCountingKey] [] []]
    let creation' : List Statement :=
      [.createTable false ⟨none, "users"⟩ [unmarked, ⟨"org", .bare "integer", [.notNull]⟩] ["id", "org"] []]
    (t.columns.map (·.name)).Nodup ∧ t.create .sqlite = .ok creation ∧
      (∃ line, t.LineOf id line ∧
        Statement.script .sqlite creation = "CREATE TABLE \"users\"(\n" ++ commaLines [line] ++ ");") ∧
    (u.columns.map (·.name)).Nodup ∧ u.create .sqlite = .ok creation' ∧
      ∃ line line', u.LineOf id line ∧ u.LineOf org line' ∧ Statement.script .sqlite creation' =
        "CREATE TABLE \"users\"(\n" ++ commaLines [line, line', "PRIMARY KEY (\"id\", \"org\")"] ++ ");" := by
  intro id org t u unmarked creation creation'
  have hcreate : t.create .sqlite = .ok creation := rfl
  have hcreate' : u.create .sqlite = .ok creation' := rfl
  have hkey : t.primaryKey = ["id"] := by decide
  have hkey' : u.primaryKey = ["id", "org"] := by decide
  have hmarks : t.MarksKey id := ⟨rfl, rfl, .inl hkey⟩
  have hunmarked : ∀ c, ¬ u.MarksKey c := by
    rintro c ⟨_, _, hone | ⟨hnone, _⟩⟩
    · simp [hkey'] at hone
    · simp [hkey'] at hnone
  have hhead : (if t.temporary then "CREATE TEMPORARY TABLE " else "CREATE TABLE ") ++
      t.qualifiedName.render .sqlite ++ "(\n" = "CREATE TABLE \"users\"(\n" := by decide
  have hhead' : (if u.temporary then "CREATE TEMPORARY TABLE " else "CREATE TABLE ") ++
      u.qualifiedName.render .sqlite ++ "(\n" = "CREATE TABLE \"users\"(\n" := by decide
  refine ⟨by decide, hcreate, ?_, by decide, hcreate', ?_⟩
  · obtain ⟨columnLines, keyLines, htext, hlines, hlisted, _⟩ :=
      create_sqlite_declares_key_once t (by decide) creation hcreate
    obtain ⟨line, _, hline, hnil, rfl⟩ := List.forall₂_cons_left_iff.1 hlines
    cases hnil
    rcases hlisted with ⟨⟨_, hno⟩, _⟩ | ⟨_, rfl⟩
    · exact absurd hmarks (hno id (by simp [t]))
    · rw [hhead] at htext
      exact ⟨line, hline, htext⟩
  · obtain ⟨columnLines, keyLines, htext, hlines, hlisted, _⟩ :=
      create_sqlite_declares_key_once u (by decide) creation' hcreate'
    obtain ⟨line, _, hline, hrest, rfl⟩ := List.forall₂_cons_left_iff.1 hlines
    obtain ⟨line', _, hline', hnil, rfl⟩ := List.forall₂_cons_left_iff.1 hrest
    cases hnil
    rcases hlisted with ⟨_, rfl⟩ | ⟨hnone | ⟨c, _, hc⟩, _⟩
    · rw [hkey', hhead'] at htext
      exact ⟨line, line', hline, hline', htext⟩
    · simp [hkey'] at hnone
    · exact absurd hc (hunmarked c)

end Table
end SqlDialects
