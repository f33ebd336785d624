import SqlDialects.Proofs.Catalog.Exchanges
import SqlDialects.Proofs.Catalog.RowReading

/-! # What a load of columns or of a table returns

A catalog lists the columns of a table in rows. A load reads all of them, in their order, or it fails. What it
returns is fresh: no column and no table differs from what was read. Only one thing besides an error can end a load:
a member list of MySQL whose parentheses stand the wrong way round. -/

namespace SqlDialects

/-- A column that is its own snapshot, with nothing changed since. -/
structure TableColumn.IsFresh (c : TableColumn) : Prop where
  notAdded : c.added = false
  notRenamed : c.rename = none
  snapshot : c.snapshot = some c.toColumn
  unchanged : (ColumnDiff.ofColumn? c).map ColumnDiff.isEmpty = some true

/-- A table without anything left to do for it. -/
structure Table.IsFresh (t : Table) : Prop where
  notAdded : t.added = false
  noCommands : t.commands = []
  noAddedColumns : t.addedColumns = []
  noChangedColumns : t.changedColumns = []

theorem ColumnDiff.isEmpty_between_self {c : Column} (hrename : c.rename = none)
    (hdefault : ∀ x, c.default ≠ some (.float x)) : (between c c).isEmpty = true := by
  have hsame : (c.default != c.default) = false := by
    cases hc : c.default with
    | none => rfl
    | some v =>
      have hv : (v == v) = true := DefaultValue.beq_self fun x h => hdefault x (h ▸ hc)
      simp [bne, hv]
  simp [isEmpty, between, Column.newName?, hrename, report, hsame]

theorem TableColumn.IsRead.isFresh {c : TableColumn} {default : Option DefaultValue} {useCurrent : Bool}
    (h : c.IsRead default useCurrent) (hdefault : ∀ x, default ≠ some (.float x)) : c.IsFresh := by
  have hempty := ColumnDiff.isEmpty_between_self h.notRenamed fun x => h.default ▸ hdefault x
  refine ⟨h.notAdded, h.notRenamed, h.snapshot, ?_⟩
  simp [ColumnDiff.ofColumn?, h.snapshot, hempty]

theorem Table.isFresh_of_columns {t : Table} (hadded : t.added = false) (hcommands : t.commands = [])
    (hcolumns : ∀ c ∈ t.columns, c.IsFresh) : t.IsFresh := by
  refine ⟨hadded, hcommands, ?_, ?_⟩
  · refine List.filter_eq_nil_iff.2 fun c hc => ?_
    simp [(hcolumns c hc).notAdded]
  · refine List.filter_eq_nil_iff.2 fun c hc => ?_
    have hunchanged := (hcolumns c hc).unchanged
    obtain ⟨diff, hdiff, hempty⟩ := Option.map_eq_some_iff.1 hunchanged
    simp [isChanged, hdiff, hempty]

namespace Catalog

/-- Both parentheses stand in a text, but all closing ones before all opening ones. -/
def ClosesBeforeOpening (cs : List Char) : Prop :=
  ∃ before after, cs = before ++ '(' :: after ∧ '(' ∉ before ∧ ')' ∈ before ∧ ')' ∉ after

theorem ClosesBeforeOpening.cuts {cs : List Char} (h : ClosesBeforeOpening cs) :
    ∃ opening closing, Text.cutFirst? ['('] cs = some opening ∧ Text.cutLast? [')'] cs = some closing := by
  obtain ⟨before, after, rfl, hfirst, hbefore, _⟩ := h
  obtain ⟨closing, hclosing⟩ := Option.ne_none_iff_exists'.1
    (mt Text.cutLast?_singleton_eq_none_iff.1 (not_not.2 (List.mem_append_left ('(' :: after) hbefore)))
  exact ⟨_, closing, Text.cutFirst?_singleton_eq_some_iff.2 ⟨rfl, hfirst⟩, hclosing⟩

/-- Where both parentheses stand, the last closing one does not stand behind the first opening one. -/
theorem closesBeforeOpening_iff {cs beforeOpening afterOpening beforeClosing afterClosing : List Char}
    (hopening : Text.cutFirst? ['('] cs = some (beforeOpening, afterOpening))
    (hclosing : Text.cutLast? [')'] cs = some (beforeClosing, afterClosing)) :
    ClosesBeforeOpening cs ↔ beforeClosing.length ≤ beforeOpening.length := by
  obtain ⟨hcs, hfirst⟩ := Text.cutFirst?_singleton_eq_some_iff.1 hopening
  obtain ⟨hcs', hlast⟩ := Text.cutLast?_singleton_eq_some_iff.1 hclosing
  rcases Text.splits_of_ne (by decide) (hcs.symm.trans hcs') with ⟨between, rfl, rfl⟩ | ⟨between, rfl, rfl⟩
  · refine iff_of_false ?_ (by simp)
    rintro ⟨before, after, hsplit, hbefore, _, hafter⟩
    have hcut := Text.cutFirst?_singleton_eq_some_iff.2 ⟨hsplit, hbefore⟩
    cases hopening.symm.trans hcut
    exact hafter (by simp)
  · refine iff_of_true ⟨_, afterOpening, hcs, hfirst, by simp, ?_⟩ (by simp)
    rw [List.mem_append, List.mem_cons, not_or, not_or] at hlast
    exact hlast.2.2

namespace MySql

variable {r : Row}

theorem inParentheses_eq_error_iff {cs : List Char} {e : Failure} :
    inParentheses cs = .error e ↔ e = .reversedCut ∧ ClosesBeforeOpening cs := by
  unfold inParentheses
  split
  · next beforeOpening _ beforeClosing _ hopening hclosing =>
    rw [closesBeforeOpening_iff hopening hclosing, cutBetween]
    by_cases hlength : beforeOpening.length + 1 ≤ beforeClosing.length
    · simp [hlength, Except.map, Nat.not_le.2 hlength]
    · simp [hlength, Except.map, Nat.not_lt.1 hlength, eq_comm]
  · next hmissing =>
    refine iff_of_false nofun fun h => ?_
    obtain ⟨opening, closing, hopening, hclosing⟩ := h.2.cuts
    exact hmissing _ _ _ _ hopening hclosing

/-- The row of an enumeration or a set whose members are cut out in reverse. -/
def CutsInReverse (r : Row) : Prop :=
  ∃ c, attributesOf r = .ok c ∧ (c.dataType = .enum ∨ c.dataType = .set) ∧
    ClosesBeforeOpening ((r.text? "COLUMN_TYPE").getD "").toList

theorem membersOf_eq_error_iff {c : Column} {e : Failure} : membersOf r c = .error e ↔
    e = .reversedCut ∧ (c.dataType = .enum ∨ c.dataType = .set) ∧
      ClosesBeforeOpening ((r.text? "COLUMN_TYPE").getD "").toList := by
  unfold membersOf allowedValues
  split
  · next h => simp [except_map_eq_error, inParentheses_eq_error_iff, h]
  · next h => simp [h]

theorem columnOf_eq_reversedCut_iff : columnOf r = .error .reversedCut ↔ CutsInReverse r := by
  rw [columnOf_eq, except_bind_eq_error]
  have hattributes : (attributesOf r).mapError Failure.error ≠ .error .reversedCut := by
    cases attributesOf r <;> simp [Except.mapError]
  simp [hattributes, except_mapError_eq_ok, except_map_eq_error, membersOf_eq_error_iff, CutsInReverse]

/-- The first row that cannot be read is one whose members are cut out in reverse. -/
def FirstCutsInReverse (rows : List Row) : Prop :=
  ∃ before r after, rows = before ++ r :: after ∧ (∀ r' ∈ before, ∃ c, columnOf r' = .ok c) ∧ CutsInReverse r

def columnsCall (table : String) (schema : Option String) : Call :=
  let (sql, args) := tableQuery "columns" table schema
  ⟨.query, sql ++ " order by ORDINAL_POSITION", args⟩

end MySql

namespace Postgres

def versionCall : Call :=
  ⟨.query, "select version()", []⟩

def banner (rows : List Row) : String :=
  ((rows.head?.bind Row.first?).bind Value.text?).getD ""

def columnsCall (version : Number.Decimal) (table : String) (schema : Option String) : Call :=
  ⟨.query, columnsSql (identityTest version) ++ Dialect.postgres.quoteString table ++
    inSchema " AND d.nspname = " schema ++ " ORDER BY a.attnum;", []⟩

end Postgres

namespace Sqlite

def textCall (table : String) : Call :=
  ⟨.query, "select sql from sqlite_master where type = ? and tbl_name = ?", [.text "table", .text table]⟩

def columnsCall (table : String) : Call :=
  ⟨.query, "PRAGMA TABLE_INFO (" ++ Dialect.sqlite.quoteIdent table ++ ")", []⟩

/-- Reads a column from a row, with the text that created its table. -/
def columnOfRow (createSql : String) (r : Row) : Except Error TableColumn := do
  let info ← ColumnInfo.ofRow r
  columnOf info (definitionLine? createSql info.name)

/-- A load reads all rows first and makes the columns after that. For its success that is the same as reading one
row after the other. -/
theorem forall₂_columnOfRow_iff (createSql : String) (rows : List Row) (columns : List TableColumn) :
    List.Forall₂ (fun r c => (columnOfRow createSql r).mapError Failure.error = .ok c) rows columns ↔
      ∃ infos, rows.mapM ColumnInfo.ofRow = .ok infos ∧
        infos.mapM (fun info => columnOf info (definitionLine? createSql info.name)) = .ok columns := by
  simp only [except_mapError_eq_ok, ← mapM_eq_ok_iff]
  exact mapM_bind_eq_ok_iff.symm

end Sqlite

/-- The rows that list the columns of a table, and how a row of them is read. -/
structure Listing where
  rows : List Row
  read : Row → Except Failure TableColumn

/-- A database lists the columns of a table; the calls afterwards end with the one that asked for the listing. -/
inductive Lists (db : Connection) (table : String) (schema : Option String) (calls : List Call) :
    Dialect → Listing → List Call → Prop
  | mysql {rows : List Row} (hrows : db.query calls (MySql.columnsCall table schema) = .ok rows) :
    Lists db table schema calls .mysql ⟨rows, MySql.columnOf⟩ (calls ++ [MySql.columnsCall table schema])
  | postgres {versions rows : List Row} {version : Number.Decimal}
    (hversions : db.query calls Postgres.versionCall = .ok versions)
    (hversion : Postgres.serverVersion (Postgres.banner versions) = .ok version)
    (hrows : db.query (calls ++ [Postgres.versionCall]) (Postgres.columnsCall version table schema) = .ok rows) :
    Lists db table schema calls .postgres ⟨rows, fun r => (Postgres.columnOf r).mapError .error⟩
      (calls ++ [Postgres.versionCall] ++ [Postgres.columnsCall version table schema])
  | sqlite {texts rows : List Row} {createSql : String} {others : List String}
    (htexts : db.query calls (Sqlite.textCall table) = .ok texts)
    (hcreate : texts.mapM Row.string = .ok (createSql :: others))
    (hrows : db.query (calls ++ [Sqlite.textCall table]) (Sqlite.columnsCall table) = .ok rows) :
    Lists db table schema calls .sqlite ⟨rows, fun r => (Sqlite.columnOfRow createSql r).mapError .error⟩
      (calls ++ [Sqlite.textCall table] ++ [Sqlite.columnsCall table])

variable {d : Dialect} {db : Connection} {table : String} {schema : Option String} {calls calls' : List Call}
  {listing : Listing} {c : TableColumn} {r : Row}

theorem Lists.isFresh (h : Lists db table schema calls d listing calls') (hc : listing.read r = .ok c) :
    c.IsFresh := by
  cases h with
  | mysql _ => exact (MySql.isRead_columnOf hc).isFresh (MySql.defaultOf_ne_float r)
  | postgres _ _ _ =>
    have hcolumn := except_mapError_eq_ok.1 hc
    exact (Postgres.isRead_columnOf hcolumn).isFresh (Postgres.defaultOf_ne_float r)
  | sqlite _ _ _ =>
    obtain ⟨info, _, hcolumn⟩ := except_bind_eq_ok.1 (except_mapError_eq_ok.1 hc)
    exact (Sqlite.isRead_columnOf hcolumn).isFresh (Sqlite.defaultOf_ne_float info)

/-- Where there is a listing, a load ends with it: with all columns if all rows can be read, and in a reversed cut
if that is what the first unreadable row leads to. -/
theorem Lists.load (h : Lists db table schema calls d listing calls') :
    ∃ result, loadColumns d table schema db calls = (result, calls') ∧
      (∀ columns, result = .ok columns ↔ List.Forall₂ (fun r c => listing.read r = .ok c) listing.rows columns) ∧
      (result = .error .reversedCut ↔ d = .mysql ∧ MySql.FirstCutsInReverse listing.rows) := by
  have htold {ε : Except Error (List TableColumn)} : ε.mapError Failure.error ≠ .error .reversedCut := by
    cases ε <;> simp [Except.mapError]
  cases h with
  | @mysql rows hrows =>
    have hquery := (Exchange.inContext_query_eq_ok_iff ("loading columns of table '" ++ table ++ "'")).2 ⟨hrows, rfl⟩
    refine ⟨rows.mapM MySql.columnOf, ?_, fun columns => mapM_eq_ok_iff, ?_⟩
    · exact (Exchange.andThen_ok hquery).trans (Exchange.ofResult_eq_iff.2 ⟨rfl, rfl⟩)
    · simp [mapM_eq_error_iff, MySql.columnOf_eq_reversedCut_iff, MySql.FirstCutsInReverse]
  | @postgres versions rows version hversions hversion hrows =>
    have hasked := (Exchange.inContext_query_eq_ok_iff "querying the server version").2 ⟨hversions, rfl⟩
    have hknown (calls : List Call) : Exchange.ofExcept (Postgres.serverVersion (Postgres.banner versions)) db calls =
        (.ok version, calls) :=
      Exchange.ofExcept_eq_iff.2 ⟨except_mapError_eq_ok.2 hversion, rfl⟩
    have hquery := (Exchange.inContext_query_eq_ok_iff ("loading columns of table '" ++ table ++ "'")).2 ⟨hrows, rfl⟩
    refine ⟨(rows.mapM Postgres.columnOf).mapError .error, ?_, fun columns => ?_, ?_⟩
    · refine (Exchange.andThen_ok hasked).trans ((Exchange.andThen_ok (hknown _)).trans ?_)
      exact (Exchange.andThen_ok hquery).trans (Exchange.ofExcept_eq_iff.2 ⟨rfl, rfl⟩)
    · simp only [mapM_eq_ok_iff, except_mapError_eq_ok]
    · simp [htold]
  | @sqlite texts rows createSql others htexts hcreate hrows =>
    have hfirst := (Exchange.inContext_eq_ok_iff ("reading the definition of table '" ++ table ++ "'")).2
      (Exchange.load_eq_ok_iff.2 ⟨texts, htexts, hcreate, rfl⟩)
    have hlisted := Exchange.load_of_query Sqlite.ColumnInfo.ofRow hrows
    have hpasses := Sqlite.forall₂_columnOfRow_iff createSql rows
    cases hinfos : rows.mapM Sqlite.ColumnInfo.ofRow with
    | error told =>
      rw [hinfos] at hlisted
      refine ⟨.error (.error told), (Exchange.andThen_ok hfirst).trans (Exchange.andThen_error hlisted), ?_, by simp⟩
      simp [hpasses, hinfos]
    | ok infos =>
      rw [hinfos] at hlisted
      refine ⟨_, (Exchange.andThen_ok hfirst).trans ((Exchange.andThen_ok hlisted).trans
        (Exchange.ofExcept_eq_iff.2 ⟨rfl, rfl⟩)), ?_, by simp [htold]⟩
      intro columns
      rw [hpasses, except_mapError_eq_ok]
      simp [hinfos]

/-- A load that ends otherwise than with an error has asked for a listing and has got it. -/
theorem lists_of_load {result : Except Failure (List TableColumn)}
    (h : loadColumns d table schema db calls = (result, calls')) (htold : ∀ told, result ≠ .error (.error told)) :
    ∃ listing, Lists db table schema calls d listing calls' := by
  cases d with
  | mysql =>
    obtain ⟨rows, mid, hquery, h⟩ := ((Exchange.tells_query _ _).inContext _).of_bind h htold
    obtain ⟨hrows, rfl⟩ := (Exchange.inContext_query_eq_ok_iff _).1 hquery
    obtain ⟨_, rfl⟩ := Exchange.ofResult_eq_iff.1 h
    exact ⟨_, .mysql hrows⟩
  | postgres =>
    obtain ⟨versions, mid, hquery, h⟩ := ((Exchange.tells_query _ _).inContext _).of_bind h htold
    obtain ⟨hversions, rfl⟩ := (Exchange.inContext_query_eq_ok_iff _).1 hquery
    obtain ⟨version, mid, hversion, h⟩ := (Exchange.tells_ofExcept _).of_bind h htold
    obtain ⟨hknown, rfl⟩ := Exchange.ofExcept_eq_iff.1 hversion
    obtain ⟨rows, mid, hquery, h⟩ := ((Exchange.tells_query _ _).inContext _).of_bind h htold
    obtain ⟨hrows, rfl⟩ := (Exchange.inContext_query_eq_ok_iff _).1 hquery
    obtain ⟨_, rfl⟩ := Exchange.ofExcept_eq_iff.1 h
    exact ⟨_, .postgres hversions (except_mapError_eq_ok.1 hknown) hrows⟩
  | sqlite =>
    obtain ⟨texts, mid, hload, h⟩ := ((Exchange.tells_load _ _ _).inContext _).of_bind h htold
    obtain ⟨rows, htexts, hstrings, rfl⟩ := Exchange.load_eq_ok_iff.1 ((Exchange.inContext_eq_ok_iff _).1 hload)
    cases texts with
    | nil =>
      cases h
      exact absurd rfl (htold _)
    | cons createSql others =>
      obtain ⟨infos, mid, hinfo, h⟩ := (Exchange.tells_load _ _ _).of_bind h htold
      obtain ⟨infoRows, hrows, _, rfl⟩ := Exchange.load_eq_ok_iff.1 hinfo
      obtain ⟨_, rfl⟩ := Exchange.ofExcept_eq_iff.1 h
      exact ⟨_, .sqlite htexts hstrings hrows⟩

theorem isFresh_of_loadColumns {columns : List TableColumn}
    (h : loadColumns d table schema db calls = (.ok columns, calls')) : ∀ c ∈ columns, c.IsFresh := by
  obtain ⟨listing, hlists⟩ := lists_of_load h nofun
  obtain ⟨result, hload, hok, _⟩ := hlists.load
  obtain rfl : Except.ok columns = result := (Prod.mk.inj (h.symm.trans hload)).1
  exact forall_mem_of_forall₂ ((hok columns).1 rfl) fun r c => hlists.isFresh

/-- A table found under a name and in a schema. -/
def foundIn (name : String) (schema : Option String) : Table :=
  match schema with
  | some schema => (Table.found name).setSchema schema
  | none => Table.found name

theorem name_foundIn (name : String) (schema : Option String) : (foundIn name schema).name = name := by
  cases schema <;> rfl

theorem added_foundIn (name : String) (schema : Option String) : (foundIn name schema).added = false := by
  cases schema <;> rfl

theorem commands_foundIn (name : String) (schema : Option String) : (foundIn name schema).commands = [] := by
  cases schema <;> rfl

/-- A found table, its columns as a load of them ends. -/
def withColumns (found : Table) (load : Except Failure (List TableColumn) × List Call) :
    Except Failure Table × List Call :=
  (load.1.map fun columns => { found with columns := columns }, load.2)

theorem withColumns_eq {name : String} (found : Table) (hname : found.name = name)
    (load : String → Option String → Exchange (List TableColumn)) :
    (load name found.schema >>= fun columns => pure { found with columns := columns }) db calls =
      withColumns found (load found.name found.schema db calls) := by
  subst hname
  exact Exchange.bind_pure_eq _ _ db calls

section Found

variable {sql : String} {args : List Value} {what key : String} {rest : Row → String → Exchange Table}

/-- Asks for the rows of a table, takes the name from the first one and goes on. -/
def find (sql : String) (args : List Value) (what key : String) (rest : Row → String → Exchange Table) :
    Exchange Table := do
  let rows ← Exchange.query sql args
  let info ← Exchange.first rows what
  let name ← info.text key
  rest info name

theorem find_eq {info : Row} {others : List Row} {name : String}
    (hrows : db.query calls ⟨.query, sql, args⟩ = .ok (info :: others)) (hname : info.text key = .ok name) :
    find sql args what key rest db calls = rest info name db (calls ++ [⟨.query, sql, args⟩]) := by
  have hquery := Exchange.query_eq_ok_iff.2 ⟨hrows, rfl⟩
  have hfirst (calls : List Call) : Exchange.first (info :: others) what db calls = (.ok info, calls) := rfl
  have hknown (calls : List Call) : Exchange.ofExcept (info.text key) db calls = (.ok name, calls) :=
    Exchange.ofExcept_eq_iff.2 ⟨except_mapError_eq_ok.2 hname, rfl⟩
  exact (Exchange.andThen_ok hquery).trans ((Exchange.andThen_ok (hfirst _)).trans (Exchange.andThen_ok (hknown _)))

theorem found_of_find {result : Except Failure Table} (h : find sql args what key rest db calls = (result, calls'))
    (htold : ∀ told, result ≠ .error (.error told)) :
    ∃ info others name, db.query calls ⟨.query, sql, args⟩ = .ok (info :: others) ∧ info.text key = .ok name := by
  obtain ⟨rows, mid, hquery, h⟩ := (Exchange.tells_query sql args).of_bind h htold
  obtain ⟨info, mid, hfirst, h⟩ := (Exchange.tells_first rows what).of_bind h htold
  obtain ⟨name, mid, hknown, _⟩ := (Exchange.tells_ofExcept (info.text key)).of_bind h htold
  have hrows := (Exchange.query_eq_ok_iff.1 hquery).1
  have hname := except_mapError_eq_ok.1 (Exchange.ofExcept_eq_iff.1 hknown).1
  cases rows with
  | nil => cases hfirst
  | cons r others =>
    cases hfirst
    exact ⟨_, others, name, hrows, hname⟩

end Found

namespace MySql

def tableCall (table : String) (schema : Option String) : Call :=
  let (sql, args) := tableQuery "tables" table schema
  ⟨.query, sql, args⟩

def found (info : Row) (name : String) : Table :=
  { foundIn name (info.text? "TABLE_SCHEMA") with
    engine := info.text? "ENGINE"
    collation := info.text? "TABLE_COLLATION"
    options := (info.text? "CREATE_OPTIONS").filter (!·.isEmpty)
    comment := (info.text? "TABLE_COMMENT").filter (!·.isEmpty) }

end MySql

namespace Postgres

def tableCall (table : String) (schema : Option String) : Call :=
  ⟨.query, tableSql ++ Dialect.postgres.quoteString table ++ inSchema " and ns.nspname = " schema, []⟩

def found (info : Row) (name : String) : Table :=
  { foundIn name (info.text? "table_schema") with comment := info.text? "table_comment" }

end Postgres

/-- A database knows a table; the calls afterwards end with the one that asked for it. SQLite is not asked. -/
inductive Finds (db : Connection) (table : String) (schema : Option String) (calls : List Call) :
    Dialect → Table → List Call → Prop
  | mysql {info : Row} {others : List Row} {name : String}
    (hrows : db.query calls (MySql.tableCall table schema) = .ok (info :: others))
    (hname : info.text "TABLE_NAME" = .ok name) :
    Finds db table schema calls .mysql (MySql.found info name) (calls ++ [MySql.tableCall table schema])
  | postgres {info : Row} {others : List Row} {name : String}
    (hrows : db.query calls (Postgres.tableCall table schema) = .ok (info :: others))
    (hname : info.text "table_name" = .ok name) :
    Finds db table schema calls .postgres (Postgres.found info name) (calls ++ [Postgres.tableCall table schema])
  | sqlite : Finds db table schema calls .sqlite (Table.found table) calls

variable {found : Table} {mid : List Call}

theorem Finds.unchanged (h : Finds db table schema calls d found mid) : found.added = false ∧ found.commands = [] := by
  cases h with
  | mysql _ _ => exact ⟨added_foundIn _ _, commands_foundIn _ _⟩
  | postgres _ _ => exact ⟨added_foundIn _ _, commands_foundIn _ _⟩
  | sqlite => exact ⟨rfl, rfl⟩

/-- Where there is a table, the load of it ends as the load of its columns ends. -/
theorem Finds.load (h : Finds db table schema calls d found mid) :
    loadTable d table schema db calls = withColumns found (loadColumns d found.name found.schema db mid) := by
  cases h with
  | @mysql info _ name hrows hname =>
    refine (find_eq hrows hname).trans ?_
    exact withColumns_eq (MySql.found info name) (name_foundIn name _) MySql.loadColumns
  | @postgres info _ name hrows hname =>
    refine (find_eq hrows hname).trans ?_
    exact withColumns_eq (Postgres.found info name) (name_foundIn name _) Postgres.loadColumns
  | sqlite => exact Exchange.bind_pure_eq (Sqlite.loadColumns table) _ db calls

/-- A load that ends otherwise than with an error has found the table. -/
theorem finds_of_loadTable {result : Except Failure Table} (h : loadTable d table schema db calls = (result, calls'))
    (htold : ∀ told, result ≠ .error (.error told)) : ∃ found mid, Finds db table schema calls d found mid := by
  cases d with
  | mysql =>
    obtain ⟨info, others, name, hrows, hname⟩ := found_of_find h htold
    exact ⟨_, _, .mysql hrows hname⟩
  | postgres =>
    obtain ⟨info, others, name, hrows, hname⟩ := found_of_find h htold
    exact ⟨_, _, .postgres hrows hname⟩
  | sqlite => exact ⟨_, _, .sqlite⟩

theorem isFresh_of_loadTable {t : Table} (h : loadTable d table schema db calls = (.ok t, calls')) : t.IsFresh := by
  obtain ⟨found, mid, hfinds⟩ := finds_of_loadTable h nofun
  obtain ⟨hadded, hcommands⟩ := hfinds.unchanged
  obtain ⟨hok, _⟩ := Prod.mk.inj (hfinds.load.symm.trans h)
  obtain ⟨columns, hload, rfl⟩ := except_map_eq_ok.1 hok
  exact Table.isFresh_of_columns hadded hcommands (isFresh_of_loadColumns (Prod.ext hload rfl))

theorem exists_told {α : Type} {ended : Except Failure α × List Call}
    (h : ¬ ∀ told, ended.1 ≠ .error (.error told)) : ∃ told calls', ended = (.error (.error told), calls') := by
  obtain ⟨told, htold⟩ := not_forall.1 h
  exact ⟨told, ended.2, Prod.ext (not_not.1 htold) rfl⟩

/-- A load of columns returns one column for each row of the listing, in order, all of them fresh. If a row cannot
be read there is no result: the load ends with an error, or in a reversed cut if the first row that cannot be read
has its members cut out in reverse. The load of a table that is found ends as the load of its columns ends, and
returns a fresh table. Where there is no listing or no table, there is an error. -/
theorem load_whole_or_failed (d : Dialect) (table : String) (schema : Option String) (db : Connection)
    (calls : List Call) :
    (∀ listing calls', Lists db table schema calls d listing calls' →
      ∃ result, loadColumns d table schema db calls = (result, calls') ∧
        (∀ columns, result = .ok columns ↔ List.Forall₂ (fun r c => listing.read r = .ok c) listing.rows columns) ∧
        ((∃ r ∈ listing.rows, ∀ c, listing.read r ≠ .ok c) → ∃ e, result = .error e) ∧
        (result = .error .reversedCut ↔ d = .mysql ∧ MySql.FirstCutsInReverse listing.rows)) ∧
      ((∀ listing calls', ¬ Lists db table schema calls d listing calls') →
        ∃ told calls', loadColumns d table schema db calls = (.error (.error told), calls')) ∧
      (∀ columns calls', loadColumns d table schema db calls = (.ok columns, calls') → ∀ c ∈ columns, c.IsFresh) ∧
      (∀ found mid, Finds db table schema calls d found mid →
        loadTable d table schema db calls = withColumns found (loadColumns d found.name found.schema db mid)) ∧
      ((∀ found mid, ¬ Finds db table schema calls d found mid) →
        ∃ told calls', loadTable d table schema db calls = (.error (.error told), calls')) ∧
      ∀ t calls', loadTable d table schema db calls = (.ok t, calls') → t.IsFresh := by
  refine ⟨?_, ?_, fun columns calls' => isFresh_of_loadColumns, fun found mid => Finds.load, ?_,
    fun t calls' => isFresh_of_loadTable⟩
  · intro listing calls' hlists
    obtain ⟨result, hload, hok, hcut⟩ := hlists.load
    refine ⟨result, hload, hok, ?_, hcut⟩
    rintro ⟨r, hr, hunread⟩
    cases hresult : result with
    | error e => exact ⟨e, rfl⟩
    | ok columns =>
      have hread := forall_mem_of_forall₂ (P := fun r => ∃ c, listing.read r = .ok c)
        ((hok columns).1 hresult).flip fun c r h => ⟨c, h⟩
      obtain ⟨c, hc⟩ := hread r hr
      exact absurd hc (hunread c)
  · intro hnone
    refine exists_told fun htold => ?_
    obtain ⟨listing, hlists⟩ := lists_of_load rfl htold
    exact hnone listing _ hlists
  · intro hnone
    refine exists_told fun htold => ?_
    obtain ⟨found, mid, hfinds⟩ := finds_of_loadTable rfl htold
    exact hnone found mid hfinds

/-- A plain table loads. An enumeration whose type has the parentheses the wrong way round ends the load of its
columns, though the row after it is one that must lead to an error. -/
theorem load_whole_or_failed_of_two_tables :
    let plain : Row := ⟨[("sql", .text "create table t (a int)"), ("cid", .int 0), ("name", .text "a"),
      ("type", .text "int")]⟩
    let reversed : Row := ⟨[("COLUMN_NAME", .text "a"), ("DATA_TYPE", .text "enum"), ("COLUMN_TYPE", .text "enum)(")]⟩
    let strange : Row := ⟨[("COLUMN_NAME", .text "b"), ("DATA_TYPE", .text "frobnicate")]⟩
    let answering (rows : List Row) : Connection := ⟨fun _ _ => .ok (), fun _ _ => .ok rows⟩
    (∃ t calls', loadTable .sqlite "t" none (answering [plain]) [] = (.ok t, calls') ∧
      t.columns.map (·.name) = ["a"] ∧ t.IsFresh) ∧
      (∀ c, MySql.columnOf strange ≠ .ok c) ∧
      ∃ calls', loadColumns .mysql "t" none (answering [reversed, strange]) [] = (.error .reversedCut, calls') := by
  intro plain reversed strange answering
  refine ⟨?_, ?_, ?_⟩
  · obtain ⟨hlisted, _, _, hfound, _, hfresh⟩ := load_whole_or_failed .sqlite "t" none (answering [plain]) []
    let info : Sqlite.ColumnInfo := ⟨0, "a", "int", false, none, 0⟩
    have hinfo : Sqlite.ColumnInfo.ofRow plain = .ok info := by decide +kernel
    have htype : dataType .sqlite info.type = .ok .int := by decide +kernel
    obtain ⟨c, hc, hname⟩ := Sqlite.exists_columnOf htype (Sqlite.definitionLine? "create table t (a int)" info.name)
    have hread : Sqlite.columnOfRow "create table t (a int)" plain = .ok c := except_bind_eq_ok.2 ⟨_, hinfo, hc⟩
    have htexts : [plain].mapM Row.string = .ok ["create table t (a int)"] := rfl
    obtain ⟨result, hload, hok, _⟩ := hlisted _ _ (.sqlite rfl htexts rfl)
    have hresult : result = .ok [c] := (hok [c]).2 (.cons (except_mapError_eq_ok.2 hread) .nil)
    have hload : loadColumns .sqlite (Table.found "t").name (Table.found "t").schema (answering [plain]) [] =
        (result, _) := hload
    have htable := hfound _ _ .sqlite
    rw [hload, hresult] at htable
    exact ⟨_, _, htable, congrArg (fun name => [name]) hname, hfresh _ _ htable⟩
  · have hstrange : MySql.dataTypeOf strange ((strange.text? "COLUMN_TYPE").getD "") =
        .error (.invalidValue "unsupported column type 'frobnicate'") := by decide +kernel
    intro c hc
    cases hstrange.symm.trans (MySql.columnOf_eq_ok hc).1
  · have hname : reversed.text? "COLUMN_NAME" = some "a" := by decide +kernel
    have htype : MySql.dataTypeOf reversed ((reversed.text? "COLUMN_TYPE").getD "") = .ok .enum := by decide +kernel
    obtain ⟨c, hread, _, hc⟩ := MySql.exists_attributesOf hname htype
    have hmembers : ((reversed.text? "COLUMN_TYPE").getD "").toList = "enum)".toList ++ ['('] := by decide +kernel
    have hcuts : MySql.FirstCutsInReverse [reversed, strange] := by
      refine ⟨[], reversed, [strange], rfl, by simp, _, hread, .inl hc, "enum)".toList, [], hmembers, ?_⟩
      decide
    obtain ⟨result, hload, _, _, hcut⟩ :=
      (load_whole_or_failed .mysql "t" none (answering [reversed, strange]) []).1 _ _ (.mysql rfl)
    exact ⟨_, hcut.2 ⟨rfl, hcuts⟩ ▸ hload⟩

end Catalog
end SqlDialects
