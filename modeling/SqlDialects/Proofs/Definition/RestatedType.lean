import SqlDialects.Proofs.Catalog.ReportedType
import SqlDialects.Proofs.Definition.RestatedDefault

/-! # The type that an alteration states again

To alter a column is to state its type again, whatever was changed of it. So a column keeps its type exactly if the
catalog's report of the type is read as one that is spelled the same. -/

namespace SqlDialects

/-- The type that an alteration states for its column. -/
def Alteration.statedType? : Alteration → Option ColumnType
  | modifyColumn definition => some definition.type
  | changeColumn _ definition => some definition.type
  | setType _ type => some type
  | _ => none

/-- All types that a statement states for the columns it alters. -/
def Statement.statedTypes : Statement → List ColumnType
  | alterTable _ _ alterations => alterations.filterMap Alteration.statedType?
  | _ => []

/-- The arguments have no length and no precision. -/
def TypeArgs.isUnsized : TypeArgs → Bool
  | sizes _ => false
  | _ => true

namespace Table

variable {t : Table} {name : String} {c : TableColumn} {ss : List Statement} {type : ColumnType}

theorem exists_mysqlAlteration {c : Column} (htype : ColumnType.mysql? c = some type) :
    ∃ a, mysqlAlteration c = .ok a ∧ a.statedType? = some type := by
  let definition : ColumnDefinition := ⟨c.name, type, Modifier.ofColumn .mysql c⟩
  have hdefinition : ColumnDefinition.ofColumn .mysql c = .ok definition :=
    except_map_eq_ok.2 ⟨type, (ColumnType.ofColumn_eq_ok_iff (d := .mysql)).2 htype, rfl⟩
  refine ⟨_, except_map_eq_ok.2 ⟨definition, hdefinition, rfl⟩, ?_⟩
  cases c.newName? <;> rfl

/-- An alteration in MySQL states the type of its column. -/
theorem statedTypes_modifyColumn_mysql (hc : t.column? name = some c)
    (htype : ColumnType.mysql? c.toColumn = some type) :
    ∃ ss, t.modifyColumn .mysql name = .ok ss ∧ ss.flatMap Statement.statedTypes = [type] := by
  have hfound : t.findColumn name = .ok c := findColumn_eq_ok_iff.2 hc
  obtain ⟨a, ha, hstated⟩ := exists_mysqlAlteration htype
  refine ⟨_, except_bind_eq_ok.2 ⟨c, hfound, except_bind_eq_ok.2 ⟨a, ha, rfl⟩⟩, ?_⟩
  simp [Statement.statedTypes, hstated]

/-- An alteration in PostgreSQL states the type of its column. -/
theorem statedTypes_modifyColumn_postgres (hc : t.column? name = some c)
    (htype : ColumnType.postgres? c.toColumn = some type) :
    ∃ ss, t.modifyColumn .postgres name = .ok ss ∧ ss.flatMap Statement.statedTypes = [type] := by
  have hfound : t.findColumn name = .ok c := findColumn_eq_ok_iff.2 hc
  let alterations : List Alteration := [.setType c.finalName type, .setNullable c.finalName c.nullable,
    .setDefault c.finalName (Modifier.defaultClause? .postgres c.toColumn)]
  have halters : postgresAlterations c.toColumn = .ok alterations :=
    except_map_eq_ok.2 ⟨type, (ColumnType.ofColumn_eq_ok_iff (d := .postgres)).2 htype, rfl⟩
  have hall : [c].mapM (fun c => postgresAlterations c.toColumn) = .ok [alterations] :=
    mapM_eq_ok_iff.2 (.cons halters .nil)
  have hrenames := flatMap_renameStatements (f := Statement.statedTypes) (fun _ _ _ _ => rfl) t c
  have hcomments := flatMap_commentsOn (f := Statement.statedTypes) (fun _ _ _ => rfl) t Column.finalName [c]
  refine ⟨_, except_bind_eq_ok.2 ⟨c, hfound, except_bind_eq_ok.2 ⟨_, hall, rfl⟩⟩, ?_⟩
  simp [hrenames, hcomments, Statement.statedTypes, Alteration.statedType?, alterations]

end Table

namespace Catalog.Postgres

theorem precision_of_columnOf {r : Row} {c : TableColumn} (h : columnOf r = .ok c) :
    c.precision = r.size "numeric_precision" := by
  obtain ⟨name, _, h⟩ := except_bind_eq_ok.1 h
  by_cases hmembers : (r.text? "enum_values").isSome = true
  · rw [if_pos hmembers] at h
    cases h
    rfl
  · rw [if_neg hmembers] at h
    obtain ⟨typeName, _, h⟩ := except_bind_eq_ok.1 h
    obtain ⟨t, _, h⟩ := except_bind_eq_ok.1 h
    cases h
    rfl

/-- Without a precision there are sizes in the types that always have them, and in no other. -/
theorem isUnsized_postgres? {c : Column} {type : ColumnType} (htype : ColumnType.postgres? c = some type)
    (hprecision : c.precision = 0) (hc : c.dataType ∉ [.char, .string, .decimal, .enum]) :
    type.args.isUnsized = true := by
  have hcounting (names : ColumnType.IntegerNames) : (ColumnType.counting names c).args.isUnsized = true := by
    unfold ColumnType.counting
    cases c.generatedAs <;> cases c.autoIncrement <;> cases c.added <;> rfl
  cases hd : c.dataType with
  | char | string | decimal | enum => simp [hd] at hc
  | set | multiPolygonZ => simp [ColumnType.postgres?, ColumnType.spatialName?, hd] at htype
  | tinyInt | smallInt | mediumInt | int | bigInt | year =>
    simp only [ColumnType.postgres?, hd, Option.some.injEq] at htype
    exact htype ▸ hcounting _
  | _ =>
    simp only [ColumnType.postgres?, ColumnType.spatialName?, ColumnType.zoned, hd, hprecision, if_true,
      Option.map_some, Option.some.injEq] at htype
    exact htype ▸ rfl

/-- A column that was read from a row without a precision has a type again. -/
theorem exists_stated_of_unsized {r : Row} {c : TableColumn} {c' : Column} (hc : columnOf r = .ok c)
    (hnone : r.int? "numeric_precision" = none) (hmapped : ColumnType.isUnmapped .postgres c.dataType = false)
    (hsame : c.SameType c') :
    ∃ stated, ColumnType.postgres? c' = some stated ∧
      (c.dataType ∉ [.char, .string, .decimal, .enum] → stated.args.isUnsized = true) ∧
      (c.dataType = .enum → stated.args = .sizes [255]) := by
  have hprecision : c'.precision = 0 := by
    rw [hsame.precision, precision_of_columnOf hc, Row.size_eq_zero hnone]
  obtain ⟨stated, hstated⟩ : ∃ stated, ColumnType.postgres? c' = some stated :=
    ColumnType.exists_ofColumn? (d := .postgres) (hsame.dataType ▸ hmapped)
  refine ⟨stated, hstated, fun hsized => ?_, fun henum => ?_⟩
  · exact isUnsized_postgres? hstated hprecision (hsame.dataType ▸ hsized)
  · simp only [ColumnType.postgres?, hsame.dataType, henum, Option.some.injEq] at hstated
    exact hstated ▸ rfl

end Catalog.Postgres

/-- To alter a column as it was read is to state its type again. MySQL has the name and the arguments that its row
reports, and for a type that is read as another one the type that it is read as. PostgreSQL has no sizes where the row
has none, except in the types that always have some; among them an enumeration has the length of its text. -/
theorem Table.statedTypes_modify_of_read (t : Table) (name : String) (c : TableColumn) (options : List ColumnOption)
    (hc : t.column? name = some c) (hsame : c.SameType (c.apply options).toColumn) :
    (∀ r type, Catalog.MySql.columnOf r = .ok c → Catalog.MySql.Reports r type →
      ∃ ss stated, (t.modify name options).modifyColumn .mysql name = .ok ss ∧
        ss.flatMap Statement.statedTypes = [stated] ∧ stated.name = type.name ∧ stated.args = type.args) ∧
      (∀ r type, Catalog.MySql.columnOf r = .ok c → Catalog.MySql.Folds r type →
        ∃ ss, (t.modify name options).modifyColumn .mysql name = .ok ss ∧
          ss.flatMap Statement.statedTypes = [type]) ∧
      (∀ r, Catalog.Postgres.columnOf r = .ok c → r.int? "numeric_precision" = none →
        ColumnType.isUnmapped .postgres c.dataType = false →
        ∃ ss stated, (t.modify name options).modifyColumn .postgres name = .ok ss ∧
          ss.flatMap Statement.statedTypes = [stated] ∧
          (c.dataType ∉ [.char, .string, .decimal, .enum] → stated.args.isUnsized = true) ∧
          (c.dataType = .enum → stated.args = .sizes [255])) := by
  have hcolumn : (t.modify name options).column? name = some (c.apply options) := by
    rw [column?_modify, hc]
    rfl
  refine ⟨fun r type hr hreports => ?_, fun r type hr hfolds => ?_, fun r hr hnone hmapped => ?_⟩
  · obtain ⟨stated, hstated, hname, hargs⟩ := Catalog.MySql.exists_stated_of_reports hreports hr hsame
    obtain ⟨ss, hss, htypes⟩ := statedTypes_modifyColumn_mysql hcolumn hstated
    exact ⟨ss, stated, hss, htypes, hname, hargs⟩
  · exact statedTypes_modifyColumn_mysql hcolumn (Catalog.MySql.mysql?_of_folds hfolds hr hsame)
  · obtain ⟨stated, hstated, hunsized, henum⟩ :=
      Catalog.Postgres.exists_stated_of_unsized hr hnone hmapped hsame
    obtain ⟨ss, hss, htypes⟩ := statedTypes_modifyColumn_postgres hcolumn hstated
    exact ⟨ss, stated, hss, htypes, hunsized, henum⟩

/-- A number keeps its sizes, a text with a type of its own in MySQL alone gets another one, and a moment with a time
zone has no sizes. -/
theorem Table.statedTypes_modify_of_three_reads :
    let amount : Row := ⟨[("COLUMN_NAME", .text "amount"), ("DATA_TYPE", .text "decimal"),
      ("COLUMN_TYPE", .text "decimal(10,2) unsigned"), ("NUMERIC_PRECISION", .int 10), ("NUMERIC_SCALE", .int 2)]⟩
    let note : Row := ⟨[("COLUMN_NAME", .text "note"), ("DATA_TYPE", .text "tinytext"),
      ("COLUMN_TYPE", .text "tinytext")]⟩
    let seen : Row := ⟨[("column_name", .text "seen"), ("data_type", .text "timestamptz"), ("size", .null),
      ("numeric_precision", .null)]⟩
    let holding (c : TableColumn) : Table := { Table.found "posts" with columns := [c] }
    (∃ c ss stated, Catalog.MySql.columnOf amount = .ok c ∧
      ((holding c).modify "amount" [.nullable true]).modifyColumn .mysql "amount" = .ok ss ∧
      ss.flatMap Statement.statedTypes = [stated] ∧ stated.name = "decimal" ∧ stated.args = .sizes [10, 2]) ∧
      (∃ c ss, Catalog.MySql.columnOf note = .ok c ∧
        ((holding c).modify "note" [.comment "x"]).modifyColumn .mysql "note" = .ok ss ∧
        ss.flatMap Statement.statedTypes = [.bare "text"]) ∧
      ∃ c ss stated, Catalog.Postgres.columnOf seen = .ok c ∧
        ((holding c).modify "seen" [.comment "x"]).modifyColumn .postgres "seen" = .ok ss ∧
        ss.flatMap Statement.statedTypes = [stated] ∧ stated.args.isUnsized = true := by
  intro amount note seen holding
  refine ⟨?_, ?_, ?_⟩
  · have hname : amount.text? "COLUMN_NAME" = some "amount" := by decide +kernel
    have hread : Catalog.MySql.dataTypeOf amount ((amount.text? "COLUMN_TYPE").getD "") = .ok .decimal := by
      decide +kernel
    obtain ⟨c, hc, hcname, _⟩ := Catalog.MySql.exists_columnOf hname hread (by decide)
    have hnames : Catalog.MySql.Names amount "decimal" ("decimal" ++ "(" ++ toString (10 : UInt32).toNat ++ "," ++
        toString (2 : UInt32).toNat ++ ")" ++ " unsigned") :=
      ⟨by decide +kernel, by decide +kernel⟩
    have hreports : Catalog.MySql.Reports amount { name := "decimal", args := .sizes [10, 2] } :=
      .scale (u := .decimal) (by simp [Catalog.MySql.scaleTypes]) hnames
        (by decide) ⟨10, by decide +kernel, by decide⟩ ⟨2, by decide +kernel, by decide⟩
    have hholding : (holding c).column? "amount" = some c := by simp [holding, column?, hcname]
    obtain ⟨ss, stated, hss, hstated, htype, hargs⟩ := (statedTypes_modify_of_read (holding c) "amount" c
      [.nullable true] hholding ⟨rfl, rfl, rfl, rfl, fun _ => rfl⟩).1 amount _ hc hreports
    exact ⟨c, ss, stated, hc, hss, hstated, htype, hargs⟩
  · have hname : note.text? "COLUMN_NAME" = some "note" := by decide +kernel
    have hread : Catalog.MySql.dataTypeOf note ((note.text? "COLUMN_TYPE").getD "") = .ok .text := by decide +kernel
    obtain ⟨c, hc, hcname, _⟩ := Catalog.MySql.exists_columnOf hname hread (by decide)
    have hfolds : Catalog.MySql.Folds note (.bare "text") :=
      ⟨"tinytext", "", .text, by simp [Catalog.MySql.foldedTypes], by decide +kernel, by decide +kernel⟩
    have hholding : (holding c).column? "note" = some c := by simp [holding, column?, hcname]
    obtain ⟨ss, hss, hstated⟩ := (statedTypes_modify_of_read (holding c) "note" c
      [.comment "x"] hholding ⟨rfl, rfl, rfl, rfl, fun _ => rfl⟩).2.1 note _ hc hfolds
    exact ⟨c, ss, hc, hss, hstated⟩
  · have hname : seen.text? "column_name" = some "seen" := by decide +kernel
    have htypeName : seen.text? "data_type" = some "timestamptz" := by decide +kernel
    have htype : Catalog.dataType .postgres "timestamptz" = .ok .timestampTz := by decide +kernel
    obtain ⟨c, hc, hcname, hctype⟩ := Catalog.Postgres.exists_columnOf hname (by decide +kernel) htypeName htype
      (by decide +kernel)
    have hnone : seen.int? "numeric_precision" = none := by decide +kernel
    have hholding : (holding c).column? "seen" = some c := by simp [holding, column?, hcname]
    obtain ⟨ss, stated, hss, hstated, hunsized, _⟩ := (statedTypes_modify_of_read (holding c) "seen" c
      [.comment "x"] hholding ⟨rfl, rfl, rfl, rfl, fun _ => rfl⟩).2.2 seen hc hnone
      (congrArg (ColumnType.isUnmapped .postgres) hctype)
    exact ⟨c, ss, stated, hc, hss, hstated, hunsized (by rw [hctype]; decide)⟩

/-- A comment on a column of small texts makes it one of texts. -/
theorem Table.tinytext_restated_as_text :
    let row : Row := ⟨[("COLUMN_NAME", .text "note"), ("DATA_TYPE", .text "tinytext"),
      ("COLUMN_TYPE", .text "tinytext"), ("CHARACTER_MAXIMUM_LENGTH", .int 255)]⟩
    let holding (c : TableColumn) : Table := { Table.found "posts" with columns := [c] }
    ∃ c ss stated, Catalog.MySql.columnOf row = .ok c ∧
      ((holding c).modify "note" [.comment "x"]).modifyColumn .mysql "note" = .ok ss ∧
      ss.flatMap Statement.statedTypes = [stated] ∧ stated.name = "text" ∧ stated.name ≠ "tinytext" := by
  intro row holding
  have hname : row.text? "COLUMN_NAME" = some "note" := by decide +kernel
  have hnames : Catalog.MySql.Names row "tinytext" "tinytext" := ⟨by decide +kernel, by decide +kernel⟩
  have hread : Catalog.MySql.dataTypeOf row ((row.text? "COLUMN_TYPE").getD "") = .ok .text := by decide +kernel
  obtain ⟨c, hc, hcname, _⟩ := Catalog.MySql.exists_columnOf hname hread (by decide)
  have hfolds : Catalog.MySql.Folds row (.bare "text") :=
    ⟨"tinytext", "", .text, by simp [Catalog.MySql.foldedTypes], hnames⟩
  have hcolumn : ((holding c).modify "note" [.comment "x"]).column? "note" = some (c.apply [.comment "x"]) := by
    rw [column?_modify]
    simp [holding, column?, hcname]
  have hsame : c.SameType (c.apply [.comment "x"]).toColumn := ⟨rfl, rfl, rfl, rfl, fun _ => rfl⟩
  have htype := Catalog.MySql.mysql?_of_folds hfolds hc hsame
  obtain ⟨ss, hss, hstated⟩ := statedTypes_modifyColumn_mysql hcolumn htype
  exact ⟨c, ss, .bare "text", hc, hss, hstated, rfl, by decide⟩

end SqlDialects
