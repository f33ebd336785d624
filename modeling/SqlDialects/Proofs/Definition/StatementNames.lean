import SqlDialects.Definition.Alteration
import SqlDialects.Proofs.Outcome

/-!
# Names that statements use and give away

Each statement uses some names of tables and columns and gives some of them away. What the statements of a command
use and give away can be told from the command and the table; and inside one command, a column that got another
name is only used under the new one.
-/

namespace SqlDialects

/-- What a name stands for, and the name. -/
inductive ObjectName where
  | table (name : QualifiedName)
  | column (name : String)
  deriving DecidableEq

namespace Alteration

/-- The columns that are changed, under the names in the text. -/
def columns : Alteration → List String
  | modifyColumn definition => [definition.name]
  | changeColumn old _ => [old]
  | setType column _ => [column]
  | setNullable column _ => [column]
  | setDefault column _ => [column]
  | renameColumn old _ => [old]
  | dropColumn name => [name]
  | _ => []

/-- The names that an alteration of a table gives away. -/
def renamed (table : QualifiedName) : Alteration → List ObjectName
  | changeColumn old definition => if definition.name = old then [] else [.column old]
  | renameColumn old new => if new = old then [] else [.column old]
  | renameTable new => if new = table.name then [] else [.table table]
  | _ => []

end Alteration

namespace Statement

/-- The table that is addressed, if it exists before, and the columns that are changed. An index is created in the
schema of its table. -/
def used : Statement → List ObjectName
  | createTable _ _ _ _ _ => []
  | alterTable table _ alterations => .table table :: (alterations.flatMap Alteration.columns).map .column
  | renameTable table _ => [.table table]
  | dropTable _ name => [.table ⟨none, name⟩]
  | commentOnTable table _ => [.table table]
  | commentOnColumn table column _ => [.table table, .column column]
  | createIndex _ index table _ _ => [.table ⟨table.schema.or index.schema, table.name⟩]
  | dropIndex _ => []
  | renameIndex _ _ => []

/-- The names that are given away. -/
def renamed : Statement → List ObjectName
  | alterTable table _ alterations => alterations.flatMap (Alteration.renamed table)
  | renameTable table new => if new = table.name then [] else [.table table]
  | _ => []

end Statement

/-- No statement uses a name that an earlier one gave away. -/
def InOrder (batch : List Statement) : Prop :=
  batch.Pairwise fun earlier later => earlier.renamed.Disjoint later.used

namespace Command

/-- The names that the statements of a command use. -/
def used (d : Dialect) (t : Table) : Command → List ObjectName
  | createTable => []
  | addColumn name =>
    .table t.qualifiedName :: match d, t.column? name with
      | .postgres, some c => if c.comment.isSome then [.column c.finalName] else []
      | _, _ => []
  | modifyColumn name =>
    .table t.qualifiedName :: .column name :: match d, t.column? name with
      | .postgres, some c => [.column c.finalName]
      | _, _ => []
  | dropColumns names =>
    (if d = .sqlite && names.isEmpty then [] else [.table t.qualifiedName]) ++ names.map .column
  | dropTable name => [.table ⟨none, name⟩]
  | dropTableIfExists name => [.table ⟨none, name⟩]
  | dropIndex _ => if d = .mysql then [.table t.qualifiedName] else []
  | dropSpatialIndex _ => if d = .mysql then [.table t.qualifiedName] else []
  | renameIndex _ _ => if d = .mysql then [.table t.qualifiedName] else []
  | dropUnique _ => if d = .sqlite then [] else [.table t.qualifiedName]
  | _ => [.table t.qualifiedName]

/-- The names that the statements of a command give away. -/
def renamed (t : Table) : Command → List ObjectName
  | renameTable new => if new = t.fullName then [] else [.table t.qualifiedName]
  | modifyColumn name => if ((t.column? name).bind (·.newName?)).isSome then [.column name] else []
  | _ => []

end Command

/-- The names of some statements, which are in order among themselves. -/
structure Names (statements : List Statement) (used renamed : List ObjectName) : Prop where
  used : ∀ x, x ∈ statements.flatMap Statement.used ↔ x ∈ used
  renamed : ∀ x, x ∈ statements.flatMap Statement.renamed ↔ x ∈ renamed
  inOrder : InOrder statements

namespace Names

variable {d : Dialect} {t : Table} {ss : List Statement} {name : String}

theorem singleton {s : Statement} {used renamed : List ObjectName} (hu : ∀ x, x ∈ s.used ↔ x ∈ used)
    (hr : ∀ x, x ∈ s.renamed ↔ x ∈ renamed) : Names [s] used renamed where
  used := by simpa using hu
  renamed := by simpa using hr
  inOrder := List.pairwise_singleton _ _

theorem congr {used used' renamed renamed' : List ObjectName} (h : Names ss used renamed)
    (hu : ∀ x, x ∈ used ↔ x ∈ used') (hr : ∀ x, x ∈ renamed ↔ x ∈ renamed') : Names ss used' renamed' where
  used x := (h.used x).trans (hu x)
  renamed x := (h.renamed x).trans (hr x)
  inOrder := h.inOrder

/-- One more statement before some that rename nothing. -/
theorem cons {s : Statement} {used : List ObjectName} (h : Names ss used []) (hd : s.renamed.Disjoint used) :
    Names (s :: ss) (s.used ++ used) s.renamed where
  used x := by rw [List.flatMap_cons, List.mem_append, List.mem_append, h.used]
  renamed x := by rw [List.flatMap_cons, List.mem_append, h.renamed]; simp
  inOrder := by
    refine List.pairwise_cons.2 ⟨fun later hl x hx hx' => hd hx ?_, h.inOrder⟩
    exact (h.used x).1 (List.mem_flatMap.2 ⟨later, hl, hx'⟩)

/-- One alteration that names no column and renames nothing. -/
theorem of_alter {a : Alteration} (hc : a.columns = []) (hr : a.renamed t.qualifiedName = [])
    (h : t.alter [a] = .ok ss) : Names ss [.table t.qualifiedName] [] := by
  cases h
  exact singleton (by simp [Statement.used, hc]) (by simp [Statement.renamed, hr])

theorem of_addKey {columns : List String} (h : t.addKey d columns = .ok ss) :
    Names ss [.table t.qualifiedName] [] := by
  cases d with
  | mysql =>
    cases h
    exact singleton (by simp [Statement.used, Alteration.columns]) (by simp [Statement.renamed, Alteration.renamed])
  | postgres => exact of_alter rfl rfl h
  | sqlite => exact absurd h nofun

theorem of_dropKey (h : t.dropKey d = .ok ss) : Names ss [.table t.qualifiedName] [] := by
  cases d with
  | mysql => exact of_alter rfl rfl h
  | postgres => exact of_alter rfl rfl h
  | sqlite => exact absurd h nofun

theorem of_createdIndex {index table : QualifiedName} (unique : Bool) (algorithm : Option String)
    (columns : List String) (ht : (⟨table.schema.or index.schema, table.name⟩ : QualifiedName) = t.qualifiedName) :
    Names [.createIndex unique index table algorithm columns] [.table t.qualifiedName] [] :=
  singleton (by simp [Statement.used, ht]) (by simp [Statement.renamed])

theorem of_createIndex {index : Index} (h : t.createIndex d index = .ok ss) :
    Names ss [.table t.qualifiedName] [] := by
  unfold Table.createIndex at h
  cases d with
  | mysql =>
    cases hk : index.kind <;> rw [hk] at h
    case primary => exact of_addKey h
    case gin => exact absurd h nofun
    all_goals exact of_alter rfl rfl h
  | postgres =>
    cases hk : index.kind <;> rw [hk] at h
    case primary => exact of_addKey h
    case unique => exact of_alter rfl rfl h
    case fullText => exact absurd h nofun
    all_goals
      cases h
      exact of_createdIndex _ _ _ (by simp [Table.qualifiedName])
  | sqlite =>
    cases hk : index.kind <;> rw [hk] at h
    case normal => cases h; exact of_createdIndex _ _ _ (by simp [Table.qualifiedName, Table.qualifiedIndex])
    case unique => cases h; exact of_createdIndex _ _ _ (by simp [Table.qualifiedName, Table.qualifiedIndex])
    all_goals exact absurd h nofun

theorem of_removeIndex (h : t.removeIndex d name = .ok ss) :
    Names ss (if d = .mysql then [.table t.qualifiedName] else []) [] := by
  have hdrop : Names [.dropIndex (t.qualifiedIndex name)] [] [] :=
    singleton (by simp [Statement.used]) (by simp [Statement.renamed])
  cases d with
  | mysql => exact of_alter rfl rfl h
  | postgres => cases h; exact hdrop
  | sqlite => cases h; exact hdrop

theorem of_removeUnique (h : t.removeUnique d name = .ok ss) :
    Names ss (if d = .sqlite then [] else [.table t.qualifiedName]) [] := by
  cases d with
  | mysql => exact of_removeIndex (d := .mysql) h
  | postgres => exact of_alter rfl rfl h
  | sqlite => exact of_removeIndex (d := .sqlite) h

theorem of_removeSpatialIndex (h : t.removeSpatialIndex d name = .ok ss) :
    Names ss (if d = .mysql then [.table t.qualifiedName] else []) [] := by
  cases d with
  | sqlite => exact absurd h nofun
  | mysql => exact of_removeIndex (d := .mysql) h
  | postgres => exact of_removeIndex (d := .postgres) h

theorem of_removeForeign (h : t.removeForeign d name = .ok ss) : Names ss [.table t.qualifiedName] [] := by
  cases d with
  | mysql => exact of_alter rfl rfl h
  | postgres => exact of_alter rfl rfl h
  | sqlite => exact absurd h nofun

theorem of_changeIndexName {old new : String} (h : t.changeIndexName d old new = .ok ss) :
    Names ss (if d = .mysql then [.table t.qualifiedName] else []) [] := by
  cases d with
  | mysql => exact of_alter rfl rfl h
  | postgres =>
    cases h
    exact singleton (by simp [Statement.used]) (by simp [Statement.renamed])
  | sqlite => exact absurd h nofun

theorem of_changeName (d : Dialect) (t : Table) (new : String) : Names (t.changeName d new)
    [.table t.qualifiedName] (if new = t.fullName then [] else [.table t.qualifiedName]) := by
  have halter : Names [.alterTable t.qualifiedName .oneLine [.renameTable new]]
      [.table t.qualifiedName] (if new = t.fullName then [] else [.table t.qualifiedName]) :=
    singleton (by simp [Statement.used, Alteration.columns])
      (by simp [Statement.renamed, Alteration.renamed, Table.qualifiedName])
  cases d with
  | mysql => exact singleton (by simp [Statement.used]) fun _ => Iff.rfl
  | postgres => exact halter
  | sqlite => exact halter

theorem of_drop (ifExists : Bool) (name : String) :
    Names [.dropTable ifExists name] [.table ⟨none, name⟩] [] :=
  singleton (by simp [Statement.used]) (by simp [Statement.renamed])

/-- Statements that rename nothing are in order. -/
theorem of_renamed_nil {used : List ObjectName} (hr : ∀ s ∈ ss, s.renamed = [])
    (hu : ∀ x, x ∈ ss.flatMap Statement.used ↔ x ∈ used) : Names ss used [] where
  used := hu
  renamed := by simpa using fun x s hs => by simp [hr s hs]
  inOrder := List.pairwise_iff_forall_sublist.2 fun {a b} hab => by
    have ha : a ∈ ss := hab.subset (by simp)
    rw [hr a ha]
    exact List.disjoint_nil_left _

/-- One alteration for each column, all in one statement. -/
theorem of_dropColumns (t : Table) (layout : Layout) (names : List String) :
    Names [.alterTable t.qualifiedName layout (names.map Alteration.dropColumn)]
      (.table t.qualifiedName :: names.map .column) [] :=
  singleton (by simp [Statement.used, Alteration.columns, List.flatMap_map])
    (by simp [Statement.renamed, Alteration.renamed, List.flatMap_map])

theorem dropColumnsNow_of_ne_sqlite (hd : d ≠ .sqlite) (t : Table) (names : List String) : ∃ layout,
    t.dropColumnsNow d names = [.alterTable t.qualifiedName layout (names.map Alteration.dropColumn)] := by
  cases d with
  | sqlite => exact absurd rfl hd
  | _ =>
    match names with
    | [] => exact ⟨.lines "\t", rfl⟩
    | [_] => exact ⟨.oneLine, rfl⟩
    | _ :: _ :: _ => exact ⟨.lines "\t", rfl⟩

theorem of_dropColumnsNow (d : Dialect) (t : Table) (names : List String) : Names (t.dropColumnsNow d names)
    ((if d = .sqlite && names.isEmpty then [] else [.table t.qualifiedName]) ++ names.map .column) [] := by
  by_cases hd : d = .sqlite
  · subst hd
    refine of_renamed_nil (by simp [Table.dropColumnsNow, Statement.renamed, Alteration.renamed]) fun x => ?_
    cases names with
    | nil => simp [Table.dropColumnsNow]
    | cons name names =>
      have hused : ∀ n, Statement.used (.alterTable t.qualifiedName .oneLine [.dropColumn n]) =
          [.table t.qualifiedName, .column n] := fun _ => rfl
      simp only [Table.dropColumnsNow, List.flatMap_map, hused, List.mem_flatMap, List.mem_cons, List.mem_append,
        List.mem_map, List.isEmpty_cons, Bool.and_false, Bool.false_eq_true, if_false, List.not_mem_nil, or_false]
      constructor
      · rintro ⟨n, hn, rfl | rfl⟩
        · exact .inl rfl
        · exact .inr ⟨n, hn, rfl⟩
      · rintro (rfl | ⟨n, hn, rfl⟩)
        · exact ⟨name, .inl rfl, .inl rfl⟩
        · exact ⟨n, hn, .inr rfl⟩
  · obtain ⟨layout, h⟩ := dropColumnsNow_of_ne_sqlite hd t names
    rw [h]
    simpa [hd] using of_dropColumns t layout names

theorem of_addColumn (h : t.addColumn d name = .ok ss) : Names ss ((Command.addColumn name).used d t) [] := by
  obtain ⟨c, hc, h⟩ := except_bind_eq_ok.1 h
  have hc := Table.findColumn_eq_ok_iff.1 hc
  obtain ⟨definition, _, rfl⟩ := except_map_eq_ok.1 h
  have hnone : Names [.alterTable t.qualifiedName .oneLine [.addColumn definition]] [.table t.qualifiedName] [] :=
    of_alter rfl rfl rfl
  cases d with
  | mysql => exact hnone
  | sqlite => exact hnone
  | postgres =>
    cases hcomment : c.comment with
    | none => simpa [Command.used, hc, hcomment, Table.additionComments, Table.commentsOn] using hnone
    | some text =>
      simp only [Command.used, hc, hcomment, Table.additionComments, Table.commentsOn, List.filterMap_cons,
        List.filterMap_nil, Option.map_some, Option.isSome_some, if_true]
      refine of_renamed_nil (by simp [Statement.renamed, Alteration.renamed]) fun x => ?_
      simp [Statement.used, Alteration.columns]

theorem of_modifyColumn_mysql (h : t.modifyColumn .mysql name = .ok ss) :
    Names ss [.table t.qualifiedName, .column name] ((Command.modifyColumn name).renamed t) := by
  obtain ⟨c, hc, h⟩ := except_bind_eq_ok.1 h
  have hc := Table.findColumn_eq_ok_iff.1 hc
  have hname := Table.name_of_column? hc
  obtain ⟨a, ha, h⟩ := except_bind_eq_ok.1 h
  cases h
  obtain ⟨definition, hdef, rfl⟩ := except_map_eq_ok.1 ha
  obtain ⟨type, _, rfl⟩ := except_map_eq_ok.1 hdef
  cases hnew : c.newName? with
  | none =>
    exact singleton (by simp [Statement.used, Alteration.columns, hname])
      (by simp [Statement.renamed, Alteration.renamed, Command.renamed, hc, hnew])
  | some new =>
    have hne : new ≠ name := hname ▸ Column.newName?_ne hnew
    exact singleton (by simp [Statement.used, Alteration.columns, hname])
      (by simp [Statement.renamed, Alteration.renamed, Command.renamed, hc, hnew, hname, hne])

/-- The statements of PostgreSQL after the renaming use the name to come. -/
theorem of_postgresAlterations {c : TableColumn} {alterations : List Alteration}
    (h : Table.postgresAlterations c.toColumn = .ok alterations) :
    Names (.alterTable t.qualifiedName (.lines "\t") alterations :: t.commentsOn Column.finalName [c])
      [.table t.qualifiedName, .column c.finalName] [] := by
  obtain ⟨type, _, rfl⟩ := except_map_eq_ok.1 h
  cases hcomment : c.comment with
  | none =>
    simp only [Table.commentsOn, hcomment, List.filterMap_cons, List.filterMap_nil, Option.map_none]
    exact singleton (by simp [Statement.used, Alteration.columns]) (by simp [Statement.renamed, Alteration.renamed])
  | some text =>
    simp only [Table.commentsOn, hcomment, List.filterMap_cons, List.filterMap_nil, Option.map_some]
    refine of_renamed_nil (by simp [Statement.renamed, Alteration.renamed]) fun x => ?_
    simp only [Statement.used, Alteration.columns, List.flatMap_cons, List.flatMap_nil, List.map_cons, List.map_nil,
      List.cons_append, List.nil_append, List.mem_cons, List.not_mem_nil, or_false]
    grind

theorem of_modifyColumn_postgres (h : t.modifyColumn .postgres name = .ok ss) :
    Names ss ((Command.modifyColumn name).used .postgres t) ((Command.modifyColumn name).renamed t) := by
  obtain ⟨c, hc, h⟩ := except_bind_eq_ok.1 h
  have hc := Table.findColumn_eq_ok_iff.1 hc
  have hname := Table.name_of_column? hc
  obtain ⟨alterations, halts, h⟩ := except_bind_eq_ok.1 h
  cases h
  cases mapM_eq_ok_iff.1 halts with
  | cons hfirst hrest =>
    cases hrest
    have hlater := of_postgresAlterations (t := t) hfirst
    rw [List.flatten_singleton]
    cases hnew : c.newName? with
    | none =>
      have hfinal : c.finalName = name := by rw [Column.finalName, hnew]; exact hname
      simp only [List.flatMap_cons, List.flatMap_nil, Table.renameStatements, hnew, List.append_nil, List.nil_append]
      exact hlater.congr (by simp [Command.used, hc, hfinal]) (by simp [Command.renamed, hc, hnew])
    -- The renaming comes first, and all that follows uses the new name.
    | some new =>
      have hfinal : c.finalName = new := by rw [Column.finalName, hnew]; rfl
      have hne : new ≠ name := hname ▸ Column.newName?_ne hnew
      simp only [List.flatMap_cons, List.flatMap_nil, Table.renameStatements, hnew, List.append_nil, List.cons_append,
        List.nil_append]
      refine (hlater.cons ?_).congr ?_ ?_
      · simp [Statement.renamed, Alteration.renamed, hname, hne, hfinal, hne.symm]
      · intro x
        simp only [Statement.used, Alteration.columns, Command.used, hc, hfinal, hname, List.flatMap_cons,
          List.flatMap_nil, List.map_cons, List.map_nil, List.append_nil, List.cons_append, List.nil_append,
          List.mem_cons, List.not_mem_nil, or_false]
        grind
      · simp [Statement.renamed, Alteration.renamed, Command.renamed, hc, hnew, hname, hne]

theorem of_modifyColumn (h : t.modifyColumn d name = .ok ss) :
    Names ss ((Command.modifyColumn name).used d t) ((Command.modifyColumn name).renamed t) := by
  cases d with
  | mysql => exact of_modifyColumn_mysql h
  | postgres => exact of_modifyColumn_postgres h
  | sqlite => exact absurd h nofun

theorem of_statements {c : Command} (hc : c ≠ .createTable) (h : c.statements d t = .ok ss) :
    Names ss (c.used d t) (c.renamed t) := by
  cases c with
  | createTable => exact absurd rfl hc
  | addColumn name => exact of_addColumn h
  | modifyColumn name => exact of_modifyColumn h
  | dropColumns names => cases h; exact of_dropColumnsNow d t names
  | renameTable new => cases h; exact of_changeName d t new
  | dropTable name => cases h; exact of_drop false name
  | dropTableIfExists name => cases h; exact of_drop true name
  | addPrimaryKey columns => exact of_addKey h
  | dropPrimaryKey => exact of_dropKey h
  | addIndex index => exact of_createIndex h
  | dropIndex name => exact of_removeIndex h
  | dropUnique name => exact of_removeUnique h
  | dropSpatialIndex name => exact of_removeSpatialIndex h
  | dropForeign name => exact of_removeForeign h
  | renameIndex old new => exact of_changeIndexName h

/-- No statement of the first list gives away what one of the second uses, by the names of the lists. -/
theorem disjoint_iff {ss' : List Statement} {used renamed used' renamed' : List ObjectName}
    (h : Names ss used renamed) (h' : Names ss' used' renamed') :
    renamed.Disjoint used' ↔ ∀ s ∈ ss, ∀ s' ∈ ss', s.renamed.Disjoint s'.used := by
  constructor
  · intro hd s hs s' hs' x hx hx'
    exact hd ((h.renamed x).1 (List.mem_flatMap.2 ⟨s, hs, hx⟩)) ((h'.used x).1 (List.mem_flatMap.2 ⟨s', hs', hx'⟩))
  · intro hd x hx hx'
    obtain ⟨s, hs, hx⟩ := List.mem_flatMap.1 ((h.renamed x).2 hx)
    obtain ⟨s', hs', hx'⟩ := List.mem_flatMap.1 ((h'.used x).2 hx')
    exact hd s hs s' hs' hx hx'

end Names
end SqlDialects
