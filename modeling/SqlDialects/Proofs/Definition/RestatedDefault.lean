import SqlDialects.Definition.Alteration
import SqlDialects.Proofs.Catalog.RowReading
import SqlDialects.Proofs.Definition.PendingColumn

/-! # The default that an alteration states again

To alter a column is to state its default again, whatever was changed of it. So what an alteration says of the
default is what the catalog said, as far as the reading of a row keeps it. -/

namespace SqlDialects

def Modifier.isDefault : Modifier → Bool
  | default _ => true
  | _ => false

/-- Whether a type has a default in it. -/
def ColumnType.hasDefault (t : ColumnType) : Bool :=
  match t.tail with
  | .defaultNow _ => true
  | _ => false

def ColumnDefinition.hasDefault (definition : ColumnDefinition) : Bool :=
  definition.type.hasDefault || definition.modifiers.any Modifier.isDefault

/-- What an alteration of a column says of its default: that there is one, or that there is none. -/
def Alteration.statedDefault? : Alteration → Option Bool
  | modifyColumn definition => some definition.hasDefault
  | changeColumn _ definition => some definition.hasDefault
  | setDefault _ value => some value.isSome
  | _ => none

/-- All that a statement says of the defaults of the columns it alters. -/
def Statement.statedDefaults : Statement → List Bool
  | alterTable _ _ alterations => alterations.filterMap Alteration.statedDefault?
  | _ => []

/-- Whether a column has a default, of its own or because it uses the current moment. -/
def Column.hasDefault (c : Column) : Bool :=
  (c.useCurrent && c.dataType.isMoment) || c.default.isSome

/-- Two states of a column that agree on its default. -/
structure Column.SameDefault (c c' : Column) : Prop where
  dataType : c'.dataType = c.dataType
  default : c'.default = c.default
  useCurrent : c'.useCurrent = c.useCurrent

theorem Column.SameDefault.hasDefault {c c' : Column} (h : c.SameDefault c') : c'.hasDefault = c.hasDefault := by
  rw [Column.hasDefault, h.useCurrent, h.dataType, h.default, Column.hasDefault]

theorem Modifier.isSome_defaultClause?_postgres (c : Column) :
    (Modifier.defaultClause? .postgres c).isSome = c.hasDefault := by
  unfold Modifier.defaultClause? Column.hasDefault
  cases c.useCurrent <;> cases c.dataType.isMoment <;> simp

theorem ColumnType.hasDefault_mysql? {c : Column} {type : ColumnType} (h : ColumnType.mysql? c = some type) :
    type.hasDefault = (c.useCurrent && c.dataType.isMoment && !c.dataType.isDateTime) := by
  cases ht : c.dataType with
  | timestamp | timestampTz =>
    simp only [mysql?, ht] at h
    cases h
    cases c.useCurrent <;> rfl
  | _ =>
    simp only [mysql?, ht] at h
    cases h <;> simp [DataType.isMoment, DataType.isDateTime, hasDefault, bare, sized, withScale, withPrecision]

/-- The only default among the modifiers is that of the column. -/
theorem Modifier.filter_isDefault_mysql (c : Column) :
    (Modifier.mysql c).filter isDefault = ((defaultClause? .mysql c).map default).toList := by
  have hif (p : Prop) [Decidable p] (m : Modifier) (hm : m.isDefault = false) :
      (if p then [m] else []).filter isDefault = [] := by
    split <;> simp [hm]
  have hmap {α : Type} (f : α → Modifier) (hf : ∀ a, (f a).isDefault = false) (o : Option α) :
      (o.map f).toList.filter isDefault = [] := by
    cases o <;> simp [hf]
  have hnullability : (nullability .mysql c).filter isDefault = [] := by
    unfold nullability
    split
    · rfl
    · split <;> rfl
  rw [Modifier.mysql]
  simp only [List.filter_append]
  rw [hif _ unsigned rfl, hmap characterSet fun _ => rfl, hmap collate fun _ => rfl, hmap virtualAs fun _ => rfl,
    hmap storedAs fun _ => rfl, hnullability, hif _ (srid c.srid) rfl, hif _ autoIncrement rfl,
    hmap comment fun _ => rfl, hmap after fun _ => rfl, hif _ first rfl]
  cases defaultClause? .mysql c <;> rfl

theorem Modifier.any_isDefault_mysql (c : Column) :
    (Modifier.mysql c).any isDefault = (defaultClause? .mysql c).isSome := by
  have hfilter := filter_isDefault_mysql c
  rw [Bool.eq_iff_iff, List.any_eq_true]
  simp only [← List.mem_filter, hfilter]
  cases defaultClause? .mysql c <;> simp

theorem ColumnDefinition.hasDefault_mysql {c : Column} {definition : ColumnDefinition}
    (h : ColumnDefinition.ofColumn .mysql c = .ok definition) : definition.hasDefault = c.hasDefault := by
  obtain ⟨type, htype, rfl⟩ := except_map_eq_ok.1 h
  have hsome : ColumnType.mysql? c = some type := ColumnType.ofColumn_eq_ok_iff.1 htype
  have hsubset : c.dataType.isDateTime = true → c.dataType.isMoment = true := by
    cases c.dataType <;> decide
  simp only [hasDefault, Modifier.ofColumn, ColumnType.hasDefault_mysql? hsome, Modifier.any_isDefault_mysql,
    Modifier.defaultClause?, Column.hasDefault]
  grind

namespace Table

variable {d : Dialect} {t : Table} {name : String} {c : TableColumn} {ss : List Statement}

theorem flatMap_renameStatements {α : Type} {f : Statement → List α}
    (h : ∀ table layout old new, f (.alterTable table layout [.renameColumn old new]) = [])
    (t : Table) (c : TableColumn) : (t.renameStatements c).flatMap f = [] := by
  unfold renameStatements
  split
  · simp [h]
  · rfl

theorem flatMap_commentsOn {α : Type} {f : Statement → List α}
    (h : ∀ table column text, f (.commentOnColumn table column text) = []) (t : Table) (nameOf : Column → String)
    (columns : List TableColumn) : (t.commentsOn nameOf columns).flatMap f = [] := by
  refine List.flatMap_eq_nil_iff.2 fun s hs => ?_
  obtain ⟨c, _, hc⟩ := List.mem_filterMap.1 hs
  obtain ⟨text, _, rfl⟩ := Option.map_eq_some_iff.1 hc
  exact h _ _ _

theorem statedDefault?_mysqlAlteration {c : Column} {a : Alteration} (h : mysqlAlteration c = .ok a) :
    a.statedDefault? = some c.hasDefault := by
  obtain ⟨definition, hdefinition, rfl⟩ := except_map_eq_ok.1 h
  have hdefault := ColumnDefinition.hasDefault_mysql hdefinition
  cases c.newName? with
  | none => exact congrArg some hdefault
  | some new => exact congrArg some hdefault

theorem statedDefaults_postgresAlterations {c : Column} {alterations : List Alteration}
    (h : postgresAlterations c = .ok alterations) :
    alterations.filterMap Alteration.statedDefault? = [c.hasDefault] := by
  obtain ⟨type, _, rfl⟩ := except_map_eq_ok.1 h
  simp [List.filterMap_cons, Alteration.statedDefault?, Modifier.isSome_defaultClause?_postgres]

/-- An alteration says once of the default of its column what the column says. -/
theorem statedDefaults_modifyColumn (hc : t.column? name = some c) (h : t.modifyColumn d name = .ok ss) :
    ss.flatMap Statement.statedDefaults = [c.hasDefault] := by
  have hfound : t.findColumn name = .ok c := findColumn_eq_ok_iff.2 hc
  cases d with
  | sqlite => cases h
  | mysql =>
    obtain ⟨c', hc', h⟩ := except_bind_eq_ok.1 h
    cases hfound.symm.trans hc'
    obtain ⟨a, ha, h⟩ := except_bind_eq_ok.1 h
    cases h
    simp [Statement.statedDefaults, statedDefault?_mysqlAlteration ha]
  | postgres =>
    obtain ⟨c', hc', h⟩ := except_bind_eq_ok.1 h
    cases hfound.symm.trans hc'
    obtain ⟨alterations, halts, h⟩ := except_bind_eq_ok.1 h
    cases h
    cases mapM_eq_ok_iff.1 halts with
    | cons hfirst hrest =>
      cases hrest
      have hrenames := flatMap_renameStatements (f := Statement.statedDefaults) (fun _ _ _ _ => rfl) t c
      have hcomments := flatMap_commentsOn (f := Statement.statedDefaults) (fun _ _ _ => rfl) t Column.finalName [c]
      have hstated := statedDefaults_postgresAlterations hfirst
      simp [hrenames, hcomments, Statement.statedDefaults, hstated]

end Table

namespace Catalog

theorem isSome_readDefault (text : String) : (readDefault text).value.isSome = true ↔
    (Text.trimmed text).isEmpty = false ∧ Text.sameIgnoringCase (Text.trimmed text) "null" = false := by
  simp only [readDefault]
  split
  · next h =>
    simp only [Bool.or_eq_true] at h
    rcases h with h | h <;> simp [h]
  · next h =>
    have hnone : (Text.trimmed text).isEmpty = false ∧ Text.sameIgnoringCase (Text.trimmed text) "null" = false := by
      simpa using h
    simp only [hnone, and_self, iff_true]
    split
    · rfl
    · split
      · rfl
      · split <;> rfl

theorem isSome_of_useCurrent {text : String} (h : (readDefault text).useCurrent = true) :
    (readDefault text).value.isSome = true := by
  simp only [readDefault] at h ⊢
  split at h
  · cases h
  · next hnull =>
    rw [if_neg hnull]
    split at h
    · next hnow =>
      rw [if_pos hnow]
      rfl
    · split at h
      · cases h
      · split at h <;> cases h

/-- The catalog has a default for the column that is no counter. -/
def Postgres.HasDefault (r : Row) : Prop :=
  ∃ raw, r.text? "column_default" = some raw ∧ "nextval(".toList.isPrefixOf raw.toList = false ∧
    (Text.trimmed raw).isEmpty = false ∧ Text.sameIgnoringCase (Text.trimmed raw) "null" = false

theorem Postgres.hasDefault_of_columnOf {r : Row} {c : TableColumn} (h : columnOf r = .ok c) :
    c.hasDefault = true ↔ HasDefault r := by
  have hread := isRead_columnOf h
  have hvalue : (defaultOf r).useCurrent = true → (defaultOf r).value.isSome = true := by
    unfold defaultOf
    split
    · split
      · nofun
      · exact isSome_of_useCurrent
    · nofun
  have hdefault : c.hasDefault = true ↔ (defaultOf r).value.isSome = true := by
    simp only [Column.hasDefault, hread.default, hread.useCurrent, Bool.or_eq_true, Bool.and_eq_true]
    exact ⟨fun h => h.elim (fun hnow => hvalue hnow.1) id, .inr⟩
  rw [hdefault, HasDefault, defaultOf]
  cases r.text? "column_default" with
  | none => simp
  | some raw =>
    simp only [Option.some.injEq, exists_eq_left']
    split
    · next hcounter => rw [hcounter]; simp
    · next hcounter => rw [isSome_readDefault, Bool.eq_false_iff.2 hcounter]; simp

/-- The catalog has a default for the column. -/
def MySql.HasDefault (r : Row) : Prop :=
  ∃ text, r.text? "COLUMN_DEFAULT" = some text ∧ Text.sameIgnoringCase text "NULL" = false

theorem MySql.isSome_defaultOf (r : Row) : (defaultOf r).1.isSome = true ↔ HasDefault r := by
  unfold defaultOf HasDefault
  cases r.text? "COLUMN_DEFAULT" with
  | none => simp
  | some text =>
    simp only [Option.some.injEq, exists_eq_left']
    split
    · next hnow =>
      -- The words for the current moment are longer than those for null.
      have hlong : 17 ≤ text.length := by
        simpa [String.toUpper, ← String.length_toList] using (List.isPrefixOf_iff_prefix.1 hnow).length_le
      have hdiffer : Text.sameIgnoringCase text "NULL" = false := by
        refine beq_eq_false_iff_ne.2 fun hsame => ?_
        have hlength : text.length = "NULL".length := by
          simpa only [← String.length_toList, Text.toList_toLower, List.length_map] using congrArg String.length hsame
        have hshort : "NULL".length = 4 := rfl
        omega
      simp [hdiffer]
    · split
      · next hnull => simp [hnull]
      · next hnull => simp [hnull]

theorem MySql.hasDefault_of_columnOf {r : Row} {c : TableColumn} (h : columnOf r = .ok c) :
    c.hasDefault = true ↔ HasDefault r ∨ mentionsNow r = true ∧ c.dataType.isMoment = true := by
  have hread := isRead_columnOf h
  have hvalue : (defaultOf r).2 = true → (defaultOf r).1.isSome = true := by
    unfold defaultOf
    split
    · nofun
    · split
      · exact fun _ => rfl
      · split <;> nofun
  rw [← isSome_defaultOf]
  simp only [Column.hasDefault, hread.default, hread.useCurrent, Bool.or_eq_true, Bool.and_eq_true]
  constructor
  · rintro (⟨hnow | hmentions, hmoment⟩ | hdefault)
    · exact .inl (hvalue hnow)
    · exact .inr ⟨hmentions, hmoment⟩
    · exact .inl hdefault
  · rintro (hdefault | ⟨hmentions, hmoment⟩)
    · exact .inr hdefault
    · exact .inl ⟨.inr hmentions, hmoment⟩

end Catalog

/-- A column that is changed can be altered if the dialect alters columns and has a type for this one. -/
theorem Table.exists_modifyColumn {t : Table} {name : String} {c : TableColumn} {d : Dialect} (hd : d ≠ .sqlite)
    (hc : t.column? name = some c) (options : List ColumnOption)
    (hmapped : ColumnType.isUnmapped d (c.apply options).dataType = false) :
    ∃ ss, (t.modify name options).modifyColumn d name = .ok ss := by
  have hcolumn : (t.modify name options).column? name = some (c.apply options) := by
    rw [column?_modify, hc]
    rfl
  have hfound : (t.modify name options).findColumn name = .ok (c.apply options) := findColumn_eq_ok_iff.2 hcolumn
  obtain ⟨type, htype⟩ := ColumnType.exists_ofColumn? hmapped
  have htype := ColumnType.ofColumn_eq_ok_iff.2 htype
  cases d with
  | sqlite => exact absurd rfl hd
  | mysql =>
    obtain ⟨alteration, halteration⟩ : ∃ a, mysqlAlteration (c.apply options).toColumn = .ok a :=
      ⟨_, except_map_eq_ok.2 ⟨_, except_map_eq_ok.2 ⟨type, htype, rfl⟩, rfl⟩⟩
    exact ⟨_, except_bind_eq_ok.2 ⟨_, hfound, except_bind_eq_ok.2 ⟨alteration, halteration, rfl⟩⟩⟩
  | postgres =>
    obtain ⟨alterations, halterations⟩ : ∃ as, postgresAlterations (c.apply options).toColumn = .ok as :=
      ⟨_, except_map_eq_ok.2 ⟨type, htype, rfl⟩⟩
    exact ⟨_, except_bind_eq_ok.2 ⟨_, hfound, except_bind_eq_ok.2 ⟨_, mapM_eq_ok_iff.2 (.cons halterations .nil), rfl⟩⟩⟩

/-- To alter a column as it was read is to state its default again. PostgreSQL keeps the default but for a counter,
which is dropped. MySQL keeps the default, and adds the current moment to a moment whose further properties mention
it. -/
theorem Table.statedDefaults_modify_of_read (t : Table) (name : String) (c : TableColumn) (options : List ColumnOption)
    (hc : t.column? name = some c) (hsame : c.SameDefault (c.apply options).toColumn) (ss : List Statement) :
    (∀ r, Catalog.Postgres.columnOf r = .ok c → (t.modify name options).modifyColumn .postgres name = .ok ss →
      ∃ states, ss.flatMap Statement.statedDefaults = [states] ∧
        (states = true ↔ Catalog.Postgres.HasDefault r)) ∧
      (∀ r, Catalog.MySql.columnOf r = .ok c → (t.modify name options).modifyColumn .mysql name = .ok ss →
        ∃ states, ss.flatMap Statement.statedDefaults = [states] ∧
          (states = true ↔ Catalog.MySql.HasDefault r ∨
            Catalog.MySql.mentionsNow r = true ∧ c.dataType.isMoment = true)) := by
  have hcolumn : (t.modify name options).column? name = some (c.apply options) := by
    rw [column?_modify, hc]
    rfl
  constructor
  · intro r hr h
    refine ⟨_, statedDefaults_modifyColumn hcolumn h, ?_⟩
    rw [hsame.hasDefault]
    exact Catalog.Postgres.hasDefault_of_columnOf hr
  · intro r hr h
    refine ⟨_, statedDefaults_modifyColumn hcolumn h, ?_⟩
    rw [hsame.hasDefault]
    exact Catalog.MySql.hasDefault_of_columnOf hr

/-- A comment on a column with a counter drops the counter, and one on a column that is updated to the current
moment gives it a default. -/
theorem Table.statedDefaults_modify_of_two_reads :
    let counting : Row := ⟨[("column_name", .text "id"), ("data_type", .text "int4"),
      ("column_default", .text "nextval('posts_id_seq'::regclass)")]⟩
    let updated : Row := ⟨[("COLUMN_NAME", .text "seen"), ("DATA_TYPE", .text "datetime"),
      ("EXTRA", .text "on update CURRENT_TIMESTAMP")]⟩
    let holding (c : TableColumn) : Table := { Table.found "posts" with columns := [c] }
    (∃ c ss, Catalog.Postgres.columnOf counting = .ok c ∧
      ((holding c).modify "id" [.comment "x"]).modifyColumn .postgres "id" = .ok ss ∧
      ss.flatMap Statement.statedDefaults = [false]) ∧
      ∃ c ss, Catalog.MySql.columnOf updated = .ok c ∧ ¬ Catalog.MySql.HasDefault updated ∧
        ((holding c).modify "seen" [.comment "x"]).modifyColumn .mysql "seen" = .ok ss ∧
        ss.flatMap Statement.statedDefaults = [true] := by
  intro counting updated holding
  constructor
  · have hname : counting.text? "column_name" = some "id" := by decide +kernel
    have htypeName : counting.text? "data_type" = some "int4" := by decide +kernel
    have htype : Catalog.dataType .postgres "int4" = .ok .int := by decide +kernel
    obtain ⟨c, hread, hcname, hctype⟩ := Catalog.Postgres.exists_columnOf hname (by decide +kernel) htypeName htype
      (by decide +kernel)
    have hraw : counting.text? "column_default" = some "nextval('posts_id_seq'::regclass)" := by decide +kernel
    have hholding : (holding c).column? "id" = some c := by simp [holding, column?, hcname]
    have hmapped : ColumnType.isUnmapped .postgres c.dataType = false :=
      congrArg (ColumnType.isUnmapped .postgres) hctype
    obtain ⟨ss, hss⟩ := exists_modifyColumn (d := .postgres) (by decide) hholding [.comment "x"] hmapped
    obtain ⟨states, hstates, hiff⟩ :=
      (statedDefaults_modify_of_read (holding c) "id" c [.comment "x"] hholding ⟨rfl, rfl, rfl⟩ ss).1 counting hread hss
    have hdropped : ¬ states = true := by
      rw [hiff]
      rintro ⟨raw, htext, hcounter, _⟩
      cases hraw.symm.trans htext
      exact absurd hcounter (by decide)
    exact ⟨c, ss, hread, hss, Bool.eq_false_iff.2 hdropped ▸ hstates⟩
  · have hname : updated.text? "COLUMN_NAME" = some "seen" := by decide +kernel
    have htype : Catalog.MySql.dataTypeOf updated ((updated.text? "COLUMN_TYPE").getD "") = .ok .dateTime := by
      decide +kernel
    obtain ⟨c, hread, hcname, hctype⟩ := Catalog.MySql.exists_columnOf hname htype (by decide)
    have hnone : updated.text? "COLUMN_DEFAULT" = none := by decide +kernel
    have hmentions : Catalog.MySql.mentionsNow updated = true := by decide +kernel
    have hholding : (holding c).column? "seen" = some c := by simp [holding, column?, hcname]
    have hmapped : ColumnType.isUnmapped .mysql c.dataType = false :=
      congrArg (ColumnType.isUnmapped .mysql) hctype
    obtain ⟨ss, hss⟩ := exists_modifyColumn (d := .mysql) (by decide) hholding [.comment "x"] hmapped
    obtain ⟨states, hstates, hiff⟩ :=
      (statedDefaults_modify_of_read (holding c) "seen" c [.comment "x"] hholding ⟨rfl, rfl, rfl⟩ ss).2 updated hread
        hss
    have hinvented : states = true := hiff.2 (.inr ⟨hmentions, congrArg DataType.isMoment hctype⟩)
    have habsent : ¬ Catalog.MySql.HasDefault updated := by
      rintro ⟨text, htext, _⟩
      exact Option.some_ne_none text (htext.symm.trans hnone)
    exact ⟨c, ss, hread, habsent, hss, hinvented ▸ hstates⟩

end SqlDialects
