import SqlDialects.Proofs.Definition.AddedDefinition

/-! # Columns altered together and one by one

A statement for many columns consists of what the statements for the single columns consist of: the renames of all
columns, then one alteration of the table with the clauses of all columns, then the comments of all columns. SQLite
has no such statement and writes those for the single columns one after the other. The first column without a
statement decides the error. -/

namespace SqlDialects

/-- What can be done for one column, or for all columns that call for it. -/
inductive BulkKind where
  /-- To alter a column that was read and changed since. -/
  | modification
  /-- To add a column that was declared. -/
  | addition

/-- What a statement says of columns: renames ahead of the alteration, its clauses, and comments behind it. -/
structure Pieces where
  renames : List Statement
  clauses : List Alteration
  comments : List Statement

namespace Pieces

/-- Renames are statements that only rename a column, comments only comment on one, and no clause renames. -/
structure Sorted (p : Pieces) : Prop where
  renames : ∀ s ∈ p.renames, ∃ table layout old new, s = .alterTable table layout [.renameColumn old new]
  clauses : ∀ a ∈ p.clauses, ∀ old new, a ≠ .renameColumn old new
  comments : ∀ s ∈ p.comments, ∃ table column text, s = .commentOnColumn table column text

/-- The pieces of several columns, each sort in the order of the columns. -/
def concat (ps : List Pieces) : Pieces :=
  ⟨ps.flatMap renames, ps.flatMap clauses, ps.flatMap comments⟩

theorem concat_cons (p : Pieces) (ps : List Pieces) : concat (p :: ps) =
    ⟨p.renames ++ (concat ps).renames, p.clauses ++ (concat ps).clauses, p.comments ++ (concat ps).comments⟩ := rfl

/-- The statements of which these are the pieces. -/
def statements (t : Table) (layout : Layout) (p : Pieces) : List Statement :=
  p.renames ++ .alterTable t.qualifiedName layout p.clauses :: p.comments

end Pieces

namespace BulkKind

/-- The columns that call for it. -/
def columns (t : Table) : BulkKind → List TableColumn
  | modification => t.changedColumns
  | addition => t.addedColumns

/-- The statements for all columns that call for it. -/
def all (d : Dialect) (t : Table) : BulkKind → Except Error (List Statement)
  | modification => t.modifyColumns d
  | addition => t.addColumns d

/-- The statements for one column. -/
def one (d : Dialect) (t : Table) (name : String) : BulkKind → Except Error (List Statement)
  | modification => t.modifyColumn d name
  | addition => t.addColumn d name

/-- The text for all columns that call for it. -/
def textOfAll (d : Dialect) (t : Table) (kind : BulkKind) : Except Error String :=
  (kind.all d t).map (Statement.script d)

def textOfOne (d : Dialect) (t : Table) (name : String) (kind : BulkKind) : Except Error String :=
  (kind.one d t name).map (Statement.script d)

/-- The layout of the clauses of all columns: one on a line. -/
def layoutOfAll : Dialect → Layout
  | .postgres => .lines "\t"
  | _ => .lines ""

/-- The layout of the clauses of one column: only the three clauses that modify it in PostgreSQL take lines. -/
def layoutOfOne (d : Dialect) : BulkKind → Layout
  | modification => if d = .postgres then .lines "\t" else .oneLine
  | addition => .oneLine

def renames (d : Dialect) (t : Table) (c : TableColumn) (kind : BulkKind) : List Statement :=
  match kind, d with
  | modification, .postgres => t.renameStatements c
  | _, _ => []

def clauses (d : Dialect) (c : Column) (kind : BulkKind) : Except Error (List Alteration) :=
  match kind, d with
  | modification, .postgres => Table.postgresAlterations c
  | modification, _ => (Table.mysqlAlteration c).map fun alteration => [alteration]
  | addition, _ => (Table.addedDefinition d c).map fun definition => [.addColumn definition]

/-- The pieces of one column. -/
def pieces (d : Dialect) (t : Table) (kind : BulkKind) (c : TableColumn) : Except Error Pieces :=
  (kind.clauses d c.toColumn).map fun clauses => ⟨kind.renames d t c, clauses, t.additionComments d [c]⟩

/-- Every dialect can add columns, and all but SQLite can modify them. -/
def Possible (d : Dialect) (kind : BulkKind) : Prop :=
  kind = modification → d ≠ .sqlite

variable {d : Dialect} {t : Table} {c : TableColumn} {kind : BulkKind}

theorem columns_subset (hc : c ∈ kind.columns t) : c ∈ t.columns := by
  cases kind with
  | modification => exact List.mem_of_mem_filter hc
  | addition => exact List.mem_of_mem_filter hc

theorem sorted_of_pieces {p : Pieces} (h : kind.pieces d t c = .ok p) : p.Sorted := by
  obtain ⟨as, has, rfl⟩ := except_map_eq_ok.1 h
  refine ⟨fun s hs => ?_, fun a ha old new => ?_, fun s hs => ?_⟩
  · simp only [renames] at hs
    split at hs
    · unfold Table.renameStatements at hs
      split at hs
      · exact ⟨_, _, _, _, List.mem_singleton.1 hs⟩
      · cases hs
    · cases hs
  · unfold clauses at has
    split at has
    · obtain ⟨type, _, rfl⟩ := except_map_eq_ok.1 has
      simp only [List.mem_cons, List.not_mem_nil, or_false] at ha
      rcases ha with rfl | rfl | rfl <;> nofun
    · obtain ⟨alteration, halteration, rfl⟩ := except_map_eq_ok.1 has
      obtain ⟨definition, _, rfl⟩ := except_map_eq_ok.1 halteration
      obtain rfl := List.mem_singleton.1 ha
      split <;> nofun
    · obtain ⟨definition, _, rfl⟩ := except_map_eq_ok.1 has
      obtain rfl := List.mem_singleton.1 ha
      nofun
  · simp only [Table.additionComments] at hs
    split at hs
    · obtain ⟨c', _, hc'⟩ := List.mem_filterMap.1 hs
      obtain ⟨text, _, rfl⟩ := Option.map_eq_some_iff.1 hc'
      exact ⟨_, _, _, rfl⟩
    · cases hs

/-! ## One column -/

theorem one_eq_pieces (hd : kind.Possible d) (hc : t.findColumn c.name = .ok c) :
    kind.one d t c.name = (kind.pieces d t c).map (·.statements t (kind.layoutOfOne d)) := by
  have hfound {β : Type} (f : TableColumn → Except Error β) : (t.findColumn c.name >>= f) = f c := by
    rw [hc]
    rfl
  cases kind with
  | modification =>
    cases d with
    | sqlite => exact absurd rfl (hd rfl)
    | mysql =>
      simp only [one, Table.modifyColumn, hfound, pieces, clauses]
      cases Table.mysqlAlteration c.toColumn <;> rfl
    | postgres =>
      simp only [one, Table.modifyColumn, hfound, Table.postgresModifications, pieces, clauses, List.mapM_cons,
        List.mapM_nil]
      cases halterations : Table.postgresAlterations c.toColumn with
      | error e => rfl
      | ok as =>
        simp [pure, Except.pure, bind, Except.bind, Except.map, Pieces.statements, renames, Table.additionComments,
          layoutOfOne]
  | addition =>
    simp only [one, Table.addColumn, hfound, Table.additionOf, pieces, clauses]
    cases hadded : Table.addedDefinition d c.toColumn with
    | error e => rfl
    | ok definition => cases d <;> rfl

/-! ## All columns -/

theorem additionComments_cons (d : Dialect) (t : Table) (c : TableColumn) (columns : List TableColumn) :
    t.additionComments d (c :: columns) = t.additionComments d [c] ++ t.additionComments d columns := by
  cases d with
  | postgres =>
    rw [Table.additionComments, Table.commentsOn, ← List.singleton_append, List.filterMap_append]
    rfl
  | mysql | sqlite => rfl

theorem flatMap_renames_mysql (kind : BulkKind) (columns : List TableColumn) :
    (columns.flatMap fun c => kind.renames .mysql t c) = [] := by
  refine List.flatMap_eq_nil_iff.2 fun c _ => ?_
  cases kind <;> rfl

theorem flatMap_renames_addition (columns : List TableColumn) :
    (columns.flatMap fun c => addition.renames d t c) = [] :=
  List.flatMap_eq_nil_iff.2 fun _ _ => rfl

/-- The statement for all columns: of their clauses, with the renames ahead of it and the comments behind it. -/
theorem all_eq_clauses (hd : d ≠ .sqlite) (hsome : kind.columns t ≠ []) :
    kind.all d t = (((kind.columns t).mapM fun c => kind.clauses d c.toColumn).map List.flatten).map fun clauses =>
      Pieces.statements t (layoutOfAll d) ⟨(kind.columns t).flatMap fun c => kind.renames d t c, clauses,
        t.additionComments d (kind.columns t)⟩ := by
  have hnil : (kind.columns t).isEmpty = false := Bool.eq_false_iff.2 (mt List.isEmpty_iff.1 hsome)
  cases kind with
  | modification =>
    simp only [columns] at hnil ⊢
    cases d with
    | sqlite => exact absurd rfl hd
    | mysql =>
      -- one clause for a column
      have hclauses := mapM_singleton (fun c : TableColumn => Table.mysqlAlteration c.toColumn) id t.changedColumns
      simp only [id] at hclauses
      rw [flatMap_renames_mysql]
      simp only [all, Table.modifyColumns, hnil, clauses, hclauses, except_map_map, List.map_id]
      rfl
    | postgres =>
      simp only [all, Table.modifyColumns, hnil, Table.postgresModifications, clauses, except_map_map]
      cases t.changedColumns.mapM fun c => Table.postgresAlterations c.toColumn <;> rfl
  | addition =>
    simp only [columns] at hnil ⊢
    have hclauses := mapM_singleton (fun c : TableColumn => Table.addedDefinition d c.toColumn) Alteration.addColumn
      t.addedColumns
    rw [flatMap_renames_addition]
    cases d with
    | sqlite => exact absurd rfl hd
    | mysql | postgres =>
      simp only [all, Table.addColumns, hnil, clauses, hclauses, except_map_map]
      rfl

/-- Only the clauses of a column can fail. -/
theorem mapM_pieces (d : Dialect) (t : Table) (kind : BulkKind) (columns : List TableColumn) :
    (columns.mapM (kind.pieces d t)).map Pieces.concat =
      ((columns.mapM fun c => kind.clauses d c.toColumn).map List.flatten).map fun clauses =>
        ⟨columns.flatMap fun c => kind.renames d t c, clauses, t.additionComments d columns⟩ := by
  induction columns with
  | nil => cases d <;> rfl
  | cons c columns ih =>
    rw [List.mapM_cons, List.mapM_cons, pieces]
    cases kind.clauses d c.toColumn with
    | error e => rfl
    | ok as =>
      cases hrest : columns.mapM fun c => kind.clauses d c.toColumn with
      | error e =>
        rw [hrest] at ih
        rw [except_map_eq_error.1 ih]
        rfl
      | ok ass =>
        rw [hrest] at ih
        obtain ⟨ps, hps, hconcat⟩ := except_map_eq_ok.1 ih
        rw [hps]
        refine congrArg Except.ok ?_
        rw [Pieces.concat_cons, hconcat, additionComments_cons d t c columns]
        rfl

theorem all_eq_pieces (hd : d ≠ .sqlite) (hsome : kind.columns t ≠ []) :
    kind.all d t = ((kind.columns t).mapM (kind.pieces d t)).map
      fun ps => (Pieces.concat ps).statements t (layoutOfAll d) := by
  have hpieces := congrArg (Except.map (Pieces.statements t (layoutOfAll d))) (mapM_pieces d t kind (kind.columns t))
  rw [except_map_map, except_map_map] at hpieces
  rw [all_eq_clauses hd hsome, hpieces]

/-! ## Texts -/

theorem intercalate_eq_empty {sep : String} {texts : List String} (h : sep.intercalate texts = "") :
    ∀ text ∈ texts, text = "" := by
  have hchars : List.intercalate sep.toList (texts.map String.toList) = [] := by
    rw [← String.toList_intercalate, h]
    rfl
  clear h
  induction texts with
  | nil => nofun
  | cons text texts ih =>
    cases texts with
    | nil => simpa using hchars
    | cons next texts =>
      simp only [List.map_cons, List.intercalate_cons_cons, List.append_eq_nil_iff] at hchars
      obtain ⟨⟨htext, _⟩, hrest⟩ := hchars
      exact List.forall_mem_cons.2 ⟨String.toList_eq_nil_iff.1 htext, ih (by simpa using hrest)⟩

theorem script_ne_empty {d : Dialect} {statements : List Statement} {s : Statement} (hs : s ∈ statements)
    (hrender : s.render d ≠ "") : Statement.script d statements ≠ "" := by
  unfold Statement.script
  intro h
  exact hrender (intercalate_eq_empty h _ (List.mem_map_of_mem hs))

theorem render_alterTable (d : Dialect) (table : QualifiedName) (layout : Layout) (alterations : List Alteration) :
    (Statement.alterTable table layout alterations).render d =
      "ALTER TABLE " ++ table.render d ++ " " ++ layout.render (alterations.map (·.render d)) ++ ";" := rfl

theorem script_statements_ne_empty (d : Dialect) (t : Table) (layout : Layout) (p : Pieces) :
    Statement.script d (p.statements t layout) ≠ "" := by
  refine script_ne_empty (s := .alterTable t.qualifiedName layout p.clauses) (by simp [Pieces.statements]) fun h => ?_
  rw [render_alterTable] at h
  exact absurd (String.append_eq_empty_iff.1 h).2 (by decide)

theorem script_flatten {d : Dialect} {sss : List (List Statement)} (h : ∀ ss ∈ sss, ∃ s, ss = [s]) :
    Statement.script d sss.flatten = "\n".intercalate (sss.map (Statement.script d)) := by
  have hrenders : sss.flatten.map (Statement.render d) = sss.map (Statement.script d) := by
    induction sss with
    | nil => rfl
    | cons ss sss ih =>
      obtain ⟨⟨s, rfl⟩, hrest⟩ := List.forall_mem_cons.1 h
      simp [Statement.script_singleton d s, ih hrest]
  rw [Statement.script, hrenders]

/-! ## The two against each other -/

/-- The first column, in their order, that has no statement has this error. -/
def FirstFails (d : Dialect) (t : Table) (kind : BulkKind) (e : Error) : Prop :=
  ∃ before c after, kind.columns t = before ++ c :: after ∧
    (∀ c' ∈ before, ∃ text, kind.textOfOne d t c'.name = .ok text) ∧ kind.textOfOne d t c.name = .error e

/-- The statements for all columns are made of the pieces of those for each, and of nothing else. SQLite writes the
statements for each on lines of their own. -/
def IsAssembled (d : Dialect) (t : Table) (kind : BulkKind) : Prop :=
  match d with
  | .sqlite => ∃ texts, List.Forall₂ (fun c text => kind.textOfOne .sqlite t c.name = .ok text) (kind.columns t) texts ∧
      kind.textOfAll .sqlite t = .ok ("\n".intercalate texts)
  | d => ∃ ps : List Pieces,
      List.Forall₂ (fun c p => p.Sorted ∧ kind.one d t c.name = .ok (p.statements t (kind.layoutOfOne d)))
        (kind.columns t) ps ∧
      kind.all d t = .ok ((Pieces.concat ps).statements t (layoutOfAll d))

theorem findColumn_of_mem (hnames : (t.columns.map (·.name)).Nodup) (hc : c ∈ kind.columns t) :
    t.findColumn c.name = .ok c :=
  Table.findColumn_eq_ok_iff.2 (Table.column?_of_mem hnames (columns_subset hc))

theorem textOfAll_of_columns_nil (hd : kind.Possible d) (h : kind.columns t = []) : kind.textOfAll d t = .ok "" := by
  cases kind with
  | modification =>
    cases d with
    | sqlite => exact absurd rfl (hd rfl)
    | mysql => simp [textOfAll, all, Table.modifyColumns, show t.changedColumns = [] from h, Except.map]
    | postgres => simp [textOfAll, all, Table.modifyColumns, show t.changedColumns = [] from h, Except.map]
  | addition =>
    cases d <;> simp [textOfAll, all, Table.addColumns, show t.addedColumns = [] from h, Except.map, pure, Except.pure]

theorem one_eq_ok_iff (hd : kind.Possible d) (hc : t.findColumn c.name = .ok c) {ss : List Statement} :
    kind.one d t c.name = .ok ss ↔ ∃ p, kind.pieces d t c = .ok p ∧ p.statements t (kind.layoutOfOne d) = ss := by
  rw [one_eq_pieces hd hc, except_map_eq_ok]

theorem one_eq_error_iff (hd : kind.Possible d) (hc : t.findColumn c.name = .ok c) {e : Error} :
    kind.one d t c.name = .error e ↔ kind.pieces d t c = .error e := by
  rw [one_eq_pieces hd hc, except_map_eq_error]

theorem eq_addition_of_possible (hd : kind.Possible .sqlite) : kind = addition := by
  cases kind with
  | modification => exact absurd rfl (hd rfl)
  | addition => rfl

/-- The statements for all columns fail as those for the first column that fails. -/
theorem all_eq_error_iff (hnames : (t.columns.map (·.name)).Nodup) (hd : kind.Possible d)
    (hsome : kind.columns t ≠ []) {e : Error} :
    kind.all d t = .error e ↔ (kind.columns t).mapM (fun c => kind.one d t c.name) = .error e := by
  have hfound : ∀ c ∈ kind.columns t, t.findColumn c.name = .ok c := fun c hc => findColumn_of_mem hnames hc
  by_cases hsqlite : d = .sqlite
  · subst hsqlite
    obtain rfl := eq_addition_of_possible hd
    exact except_map_eq_error
  · rw [all_eq_pieces hsqlite hsome, except_map_eq_error, mapM_eq_error_iff, mapM_eq_error_iff]
    refine exists_congr fun before => exists_congr fun c => exists_congr fun after => and_congr_right fun hsplit => ?_
    rw [hsplit] at hfound
    refine and_congr (forall₂_congr fun c' hc' => ?_) (one_eq_error_iff hd (hfound c (by simp))).symm
    simp only [one_eq_ok_iff hd (hfound c' (List.mem_append_left _ hc'))]
    exact ⟨fun ⟨p, hp⟩ => ⟨_, p, hp, rfl⟩, fun ⟨_, p, hp, _⟩ => ⟨p, hp⟩⟩

theorem all_eq_error_iff_firstFails (hnames : (t.columns.map (·.name)).Nodup) (hd : kind.Possible d)
    (hsome : kind.columns t ≠ []) {e : Error} : kind.all d t = .error e ↔ FirstFails d t kind e := by
  rw [all_eq_error_iff hnames hd hsome, mapM_eq_error_iff, FirstFails]
  simp only [textOfOne, except_map_eq_ok, except_map_eq_error]
  have hwritten (c : TableColumn) : (∃ ss, kind.one d t c.name = .ok ss) ↔
      ∃ text, ∃ ss, kind.one d t c.name = .ok ss ∧ Statement.script d ss = text :=
    ⟨fun ⟨ss, h⟩ => ⟨_, ss, h, rfl⟩, fun ⟨_, ss, h, _⟩ => ⟨ss, h⟩⟩
  simp only [hwritten]

/-- The statements for all columns are made of those for the single columns. -/
theorem isAssembled_of_ok (hnames : (t.columns.map (·.name)).Nodup) (hd : kind.Possible d)
    (hsome : kind.columns t ≠ []) {ss : List Statement} (h : kind.all d t = .ok ss) : IsAssembled d t kind := by
  have hfound : ∀ c ∈ kind.columns t, t.findColumn c.name = .ok c := fun c hc => findColumn_of_mem hnames hc
  unfold IsAssembled
  split
  · obtain rfl := eq_addition_of_possible hd
    obtain ⟨sss, hsss, rfl⟩ := except_map_eq_ok.1 h
    have hall := mapM_eq_ok_iff.1 hsss
    have hsingle : ∀ ss ∈ sss, ∃ s, ss = [s] := by
      refine forall_mem_of_forall₂ hall fun c ss hss => ?_
      obtain ⟨c', _, hss⟩ := except_bind_eq_ok.1 hss
      obtain ⟨definition, _, rfl⟩ := except_map_eq_ok.1 hss
      exact ⟨_, rfl⟩
    refine ⟨sss.map (Statement.script .sqlite), ?_, ?_⟩
    · exact List.forall₂_map_right_iff.2 (hall.imp fun c ss hss => congrArg (Except.map (Statement.script .sqlite)) hss)
    · rw [textOfAll, h]
      exact congrArg Except.ok (script_flatten hsingle)
  · next hsqlite =>
    have hpieces := all_eq_pieces hsqlite hsome
    obtain ⟨ps, hps, _⟩ := except_map_eq_ok.1 (hpieces.symm.trans h)
    refine ⟨ps, ?_, by rw [hpieces, hps]; rfl⟩
    refine ((List.forall₂_and_left _ _).2 ⟨hfound, mapM_eq_ok_iff.1 hps⟩).imp ?_
    rintro c p ⟨hc, hp⟩
    exact ⟨sorted_of_pieces hp, (one_eq_ok_iff hd hc).2 ⟨p, hp, rfl⟩⟩

theorem textOfOne_ne_empty (hd : kind.Possible d) (hc : t.findColumn c.name = .ok c) :
    kind.textOfOne d t c.name ≠ .ok "" := by
  intro h
  obtain ⟨ss, hss, hempty⟩ := except_map_eq_ok.1 h
  obtain ⟨p, _, rfl⟩ := (one_eq_ok_iff hd hc).1 hss
  exact script_statements_ne_empty d t _ p hempty

/-- With a column to alter, there is text. -/
theorem textOfAll_ne_empty (hnames : (t.columns.map (·.name)).Nodup) (hd : kind.Possible d)
    (hsome : kind.columns t ≠ []) : kind.textOfAll d t ≠ .ok "" := by
  intro h
  obtain ⟨ss, hss, hempty⟩ := except_map_eq_ok.1 h
  have hassembled := isAssembled_of_ok hnames hd hsome hss
  unfold IsAssembled at hassembled
  split at hassembled
  · obtain ⟨texts, htexts, hall⟩ := hassembled
    obtain ⟨c, hc⟩ := List.exists_mem_of_ne_nil _ hsome
    obtain ⟨text, htext, hone⟩ := exists_mem_of_forall₂ htexts c hc
    obtain rfl := intercalate_eq_empty (Except.ok.inj (hall.symm.trans h)) text htext
    exact textOfOne_ne_empty hd (findColumn_of_mem hnames hc) hone
  · obtain ⟨ps, _, hall⟩ := hassembled
    obtain rfl := Except.ok.inj (hss.symm.trans hall)
    exact script_statements_ne_empty _ t _ _ hempty

/-- The text for all columns is empty if no column calls for one, fails as the text for the first column that fails,
and is otherwise assembled from the texts for the single columns. -/
theorem textOfAll_of_textOfOne (kind : BulkKind) (d : Dialect) (hd : kind.Possible d) (t : Table)
    (hnames : (t.columns.map (·.name)).Nodup) :
    (kind.textOfAll d t = .ok "" ↔ kind.columns t = []) ∧
      (∀ e, kind.textOfAll d t = .error e ↔ FirstFails d t kind e) ∧
      (kind.columns t ≠ [] → (∀ c ∈ kind.columns t, ∃ text, kind.textOfOne d t c.name = .ok text) →
        IsAssembled d t kind) := by
  refine ⟨⟨fun h => ?_, textOfAll_of_columns_nil hd⟩, fun e => ?_, fun hsome hones => ?_⟩
  · by_contra hsome
    exact textOfAll_ne_empty hnames hd hsome h
  · by_cases hsome : kind.columns t = []
    · rw [textOfAll_of_columns_nil hd hsome]
      refine iff_of_false nofun ?_
      rintro ⟨before, c, after, hsplit, _⟩
      simp [hsome] at hsplit
    · rw [textOfAll, except_map_eq_error, all_eq_error_iff_firstFails hnames hd hsome]
  · cases hall : kind.all d t with
    | ok ss => exact isAssembled_of_ok hnames hd hsome hall
    | error e =>
      obtain ⟨before, c, after, hsplit, _, hc⟩ := (all_eq_error_iff_firstFails hnames hd hsome).1 hall
      obtain ⟨text, htext⟩ := hones c (by simp [hsplit])
      cases hc.symm.trans htext

/-- Two of three columns that were read have changed, one of them its name: the text is made for these two. SQLite has
no type for the second of two columns to add: there is none. -/
theorem textOfAll_of_textOfOne_of_changed_and_added :
    let title := (TableColumn.loaded { name := "title", dataType := .text, added := false }).apply
      [.rename "headline", .comment "shown"]
    let views := (TableColumn.loaded { name := "views", dataType := .int, added := false }).apply [.dataType .bigInt]
    let kept : TableColumn := .loaded { name := "id", dataType := .int, added := false }
    let note : TableColumn := .ofColumn { name := "note", dataType := .text }
    let tags : TableColumn := .ofColumn { name := "tags", dataType := .set }
    let t : Table := { Table.found "posts" with columns := [title, kept, views] }
    let u : Table := { Table.found "posts" with columns := [kept, note, tags] }
    (modification.columns t = [title, views] ∧ modification.textOfAll .postgres t ≠ .ok "" ∧
      IsAssembled .postgres t modification) ∧
    addition.columns u = [note, tags] ∧ addition.textOfAll .sqlite u = .error (.unsupportedDataType "set") := by
  intro title views kept note tags t u
  have htitle : Table.isChanged title = true := by decide +kernel
  have hviews : Table.isChanged views = true := by decide +kernel
  have hchanged : modification.columns t = [title, views] := by
    simp only [columns, Table.changedColumns, t, List.filter, htitle, hviews]
    rfl
  have hadded : addition.columns u = [note, tags] := by rfl
  obtain ⟨hempty, _, hassembled⟩ := textOfAll_of_textOfOne modification .postgres (fun _ => nofun) t (by decide)
  obtain ⟨_, herror, _⟩ := textOfAll_of_textOfOne addition .sqlite nofun u (by decide)
  have hsome : modification.columns t ≠ [] := hchanged ▸ nofun
  refine ⟨⟨hchanged, fun h => hsome (hempty.1 h), hassembled hsome ?_⟩, hadded, (herror _).2 ?_⟩
  · rw [hchanged]
    intro c hc
    obtain rfl | rfl : c = title ∨ c = views := by simpa using hc
    · exact ⟨_, rfl⟩
    · exact ⟨_, rfl⟩
  · refine ⟨[note], tags, [], hadded, fun c hc => ?_, by rfl⟩
    obtain rfl := List.mem_singleton.1 hc
    exact ⟨_, rfl⟩

end BulkKind
end SqlDialects
