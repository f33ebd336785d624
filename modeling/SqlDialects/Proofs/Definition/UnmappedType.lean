import SqlDialects.Proofs.Definition.BulkAlteration

/-! # Columns whose type a dialect lacks

A statement that defines columns fails for one reason only: the dialect has no type for one of them. Which columns
these are is decided by their abstract types alone, and the first of them decides the error. -/

namespace SqlDialects

/-- No dialect has polygons with heights, and only MySQL has sets. -/
def Dialect.Lacks (d : Dialect) (t : DataType) : Prop :=
  t = .multiPolygonZ ∨ t = .set ∧ d ≠ .mysql

instance (d : Dialect) (t : DataType) : Decidable (d.Lacks t) :=
  inferInstanceAs (Decidable (_ ∨ _))

/-- The error is that of the first column whose type the dialect lacks, and names this type. -/
def FirstLacking (d : Dialect) (columns : List TableColumn) (e : Error) : Prop :=
  ∃ before c after, columns = before ++ c :: after ∧ (∀ c' ∈ before, ¬ d.Lacks c'.dataType) ∧
    d.Lacks c.dataType ∧ e = .unsupportedDataType c.dataType.name

variable {d : Dialect} {t : Table} {c : TableColumn} {e : Error}

theorem ColumnType.isUnmapped_iff (d : Dialect) (t : DataType) : isUnmapped d t = true ↔ d.Lacks t := by
  cases d <;> cases t <;> decide

theorem ColumnType.ofColumn_eq_error_iff {c : Column} :
    ofColumn d c = .error e ↔ d.Lacks c.dataType ∧ e = .unsupportedDataType c.dataType.name := by
  rw [← isUnmapped_iff, ← ofColumn?_eq_none_iff, ofColumn]
  cases ofColumn? d c with
  | some type => simp
  | none => simp [eq_comm]

theorem exists_firstLacking_iff {columns : List TableColumn} :
    (∃ e, FirstLacking d columns e) ↔ ∃ c ∈ columns, d.Lacks c.dataType := by
  constructor
  · rintro ⟨e, before, c, after, rfl, _, hc, _⟩
    exact ⟨c, by simp, hc⟩
  · intro h
    have hfind : (columns.find? fun c => decide (d.Lacks c.dataType)).isSome := by simpa using h
    obtain ⟨c, hc⟩ := Option.isSome_iff_exists.1 hfind
    obtain ⟨hlacks, before, after, hsplit, hbefore⟩ := List.find?_eq_some_iff_append.1 hc
    exact ⟨_, before, c, after, hsplit, by simpa using hbefore, by simpa using hlacks, rfl⟩

/-- Steps that fail only for the types of their columns fail together for the first of these. -/
theorem mapM_eq_error_iff_firstLacking {β : Type} {f : TableColumn → Except Error β} {columns : List TableColumn}
    (hf : ∀ c ∈ columns, ∀ e, f c = .error e ↔ d.Lacks c.dataType ∧ e = .unsupportedDataType c.dataType.name) :
    columns.mapM f = .error e ↔ FirstLacking d columns e := by
  have hok : ∀ c ∈ columns, (∃ b, f c = .ok b) ↔ ¬ d.Lacks c.dataType := by
    intro c hc
    cases hfc : f c with
    | ok b =>
      refine iff_of_true ⟨b, rfl⟩ fun hlacks => ?_
      cases hfc.symm.trans ((hf c hc _).2 ⟨hlacks, rfl⟩)
    | error e' =>
      obtain ⟨hlacks, _⟩ := (hf c hc e').1 hfc
      exact iff_of_false nofun (not_not_intro hlacks)
  rw [mapM_eq_error_iff]
  refine exists_congr fun before => exists_congr fun c => exists_congr fun after => and_congr_right fun hsplit => ?_
  subst hsplit
  refine and_congr (forall₂_congr fun c' hc' => hok c' (List.mem_append_left _ hc')) (hf c (by simp) e)

theorem Table.definitionIn_eq_error_iff :
    t.definitionIn d c = .error e ↔ d.Lacks c.dataType ∧ e = .unsupportedDataType c.dataType.name := by
  rw [definitionIn, except_map_eq_error, ColumnDefinition.ofColumn, except_map_eq_error,
    ColumnType.ofColumn_eq_error_iff]

theorem Table.create_eq_error_iff : t.create d = .error e ↔ FirstLacking d t.columns e := by
  rw [← mapM_eq_error_iff_firstLacking fun _ _ _ => definitionIn_eq_error_iff, create, except_bind_eq_error]
  refine or_iff_left ?_
  rintro ⟨_, _, hcreated⟩
  cases hcreated

namespace BulkKind

variable {kind : BulkKind}

theorem clauses_eq_error_iff {c : Column} (hd : kind.Possible d) :
    kind.clauses d c = .error e ↔ d.Lacks c.dataType ∧ e = .unsupportedDataType c.dataType.name := by
  rw [← ColumnType.ofColumn_eq_error_iff]
  cases kind with
  | addition => rw [clauses, except_map_eq_error, Table.addedDefinition, except_map_eq_error]
  | modification =>
    cases d with
    | sqlite => exact absurd rfl (hd rfl)
    | mysql =>
      rw [clauses, except_map_eq_error, Table.mysqlAlteration, except_map_eq_error, ColumnDefinition.ofColumn,
        except_map_eq_error]
      rintro ⟨⟩
    | postgres => rw [clauses, Table.postgresAlterations, except_map_eq_error]

theorem one_eq_error_iff_lacks (hnames : (t.columns.map (·.name)).Nodup) (hd : kind.Possible d)
    (hc : c ∈ kind.columns t) :
    kind.one d t c.name = .error e ↔ d.Lacks c.dataType ∧ e = .unsupportedDataType c.dataType.name := by
  rw [one_eq_error_iff hd (findColumn_of_mem hnames hc), pieces, except_map_eq_error, clauses_eq_error_iff hd]

theorem all_eq_error_iff_firstLacking (hnames : (t.columns.map (·.name)).Nodup) (hd : kind.Possible d) :
    kind.all d t = .error e ↔ FirstLacking d (kind.columns t) e := by
  by_cases hsome : kind.columns t = []
  · have hempty := textOfAll_of_columns_nil hd hsome
    obtain ⟨ss, hss, _⟩ := except_map_eq_ok.1 hempty
    rw [hss, hsome]
    refine iff_of_false nofun ?_
    rintro ⟨before, c, after, hsplit, _⟩
    simp at hsplit
  · rw [all_eq_error_iff hnames hd hsome]
    exact mapM_eq_error_iff_firstLacking fun c hc e => one_eq_error_iff_lacks hnames hd hc

end BulkKind

/-- A table cannot be created exactly if the dialect lacks the type of some column, and the first such column decides
the error, whatever else is said of the columns. With distinct names the same holds of the columns that are added or
altered together. -/
theorem fails_iff_firstLacking (d : Dialect) (t : Table) :
    ((∃ e, Command.createTable.text d t = .error e) ↔ ∃ c ∈ t.columns, d.Lacks c.dataType) ∧
      (∀ e, Command.createTable.text d t = .error e ↔ FirstLacking d t.columns e) ∧
      ((t.columns.map (·.name)).Nodup → ∀ kind : BulkKind, kind.Possible d →
        ((∃ e, kind.textOfAll d t = .error e) ↔ ∃ c ∈ kind.columns t, d.Lacks c.dataType) ∧
          ∀ e, kind.textOfAll d t = .error e ↔ FirstLacking d (kind.columns t) e) := by
  have hcreate (e : Error) : Command.createTable.text d t = .error e ↔ FirstLacking d t.columns e := by
    rw [Command.text, except_map_eq_error, Command.statements, Table.create_eq_error_iff]
  refine ⟨?_, hcreate, fun hnames kind hd => ?_⟩
  · simp only [hcreate, exists_firstLacking_iff]
  · have hall (e : Error) : kind.textOfAll d t = .error e ↔ FirstLacking d (kind.columns t) e := by
      rw [BulkKind.textOfAll, except_map_eq_error, BulkKind.all_eq_error_iff_firstLacking hnames hd]
    refine ⟨?_, hall⟩
    simp only [hall, exists_firstLacking_iff]

/-- Of two columns that SQLite has no type for, the first one to be added is named; MySQL lacks only the second. -/
theorem fails_iff_firstLacking_of_set_and_polygon :
    let note : TableColumn := .ofColumn { name := "note", dataType := .text }
    let tags : TableColumn := .ofColumn { name := "tags", dataType := .set, allowedValues := ["a", "b"] }
    let area : TableColumn := .ofColumn { name := "area", dataType := .multiPolygonZ, nullable := true }
    let t : Table := { Table.found "places" with columns := [note, tags, area] }
    BulkKind.addition.textOfAll .sqlite t = .error (.unsupportedDataType "set") ∧
      BulkKind.addition.textOfAll .mysql t = .error (.unsupportedDataType "multiPolygonZ") ∧
      Command.createTable.text .postgres t = .error (.unsupportedDataType "set") := by
  intro note tags area t
  have hadded : BulkKind.addition.columns t = [note, tags, area] := by rfl
  have hsqlite := ((fails_iff_firstLacking .sqlite t).2.2 (by decide) .addition nofun).2
  have hmysql := ((fails_iff_firstLacking .mysql t).2.2 (by decide) .addition nofun).2
  have hpostgres := (fails_iff_firstLacking .postgres t).2.1
  refine ⟨(hsqlite _).2 ?_, (hmysql _).2 ?_, (hpostgres _).2 ?_⟩
  · exact ⟨[note], tags, [area], hadded, by decide, by decide, rfl⟩
  · exact ⟨[note, tags], area, [], hadded, by decide, by decide, rfl⟩
  · exact ⟨[note], tags, [area], rfl, by decide, by decide, rfl⟩

end SqlDialects
