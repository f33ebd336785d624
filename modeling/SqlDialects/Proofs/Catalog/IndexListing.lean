import SqlDialects.Proofs.Catalog.Loading
import SqlDialects.Proofs.Catalog.Slicing

/-! # What a load of constraints asks SQLite

SQLite lists the indexes of a table and shows the columns of each of them. The listing of the table is asked for at
most once: before the columns of the indexes where an index has no origin, and after them where all have one but none
is the primary key. Up to the foreign keys, a load depends on nothing else.
-/

namespace SqlDialects.Catalog.Sqlite

/-! ## What is asked and what is shown -/

/-- An index, with the columns that are shown for it. -/
structure IndexEntry where
  info : IndexInfo
  parts : List IndexPart
  deriving DecidableEq

namespace IndexEntry

/-- The index as a key or a unique constraint. -/
def key (e : IndexEntry) : KeyConstraint :=
  ⟨e.info.name, e.parts.map (·.name)⟩

/-- The question for the columns of the index. -/
def call (e : IndexEntry) : Call :=
  ⟨.query, "PRAGMA INDEX_INFO (" ++ Dialect.sqlite.quoteString e.info.name ++ ")", []⟩

/-- The origin that is reported, or else the one that is guessed. -/
def origin (columns : List ColumnInfo) (e : IndexEntry) : String :=
  e.info.origin.getD (guessedOrigin columns e.info e.parts)

/-- In effect the index is the primary key. -/
def isKey (columns : List ColumnInfo) (e : IndexEntry) : Bool :=
  e.origin columns = "pk"

/-- In effect the index is a unique constraint. -/
def isUnique (columns : List ColumnInfo) (e : IndexEntry) : Bool :=
  e.origin columns = "u" || (e.origin columns = "c" && e.info.unique)

/-- Enters the index among constraints. -/
def enterIn (columns : List ColumnInfo) (constraints : TableConstraints) (e : IndexEntry) : TableConstraints :=
  enterIndex constraints e.info (e.origin columns) e.parts

end IndexEntry

def indexesCall (table : String) : Call :=
  ⟨.query, "PRAGMA INDEX_LIST (" ++ Dialect.sqlite.quoteString table ++ ")", []⟩

def foreignKeysCall (table : String) : Call :=
  ⟨.query, "PRAGMA FOREIGN_KEY_LIST (" ++ Dialect.sqlite.quoteIdent table ++ ")", []⟩

/-- A call is answered with rows that can be read. -/
def Shows {α : Type} (db : Connection) (read : Row → Except Error α) (calls : List Call) (call : Call) (as : List α) :
    Prop :=
  ∃ rows, db.query calls call = .ok rows ∧ rows.mapM read = .ok as

/-- The columns of some indexes are shown, for one after the other. -/
def ShowsParts (db : Connection) : List Call → List IndexEntry → Prop
  | _, [] => True
  | calls, e :: entries => Shows db IndexPart.ofRow calls e.call e.parts ∧ ShowsParts db (calls ++ [e.call]) entries

/-- The indexes of a table and its listing. -/
structure IndexListing where
  entries : List IndexEntry
  columns : List ColumnInfo

namespace IndexListing

/-- The listing of the table, asked for before the columns of the indexes: where an index has no origin. -/
def early (l : IndexListing) (table : String) : List Call :=
  if l.entries.any (·.info.origin.isNone) then [columnsCall table] else []

/-- The listing of the table, asked for after them: where all have one, but none is the primary key. -/
def late (l : IndexListing) (table : String) : List Call :=
  if l.entries.any (·.info.origin.isNone) || l.entries.any (·.info.origin == some "pk") then []
  else [columnsCall table]

/-- All that is asked before the foreign keys. -/
def asked (l : IndexListing) (table : String) : List Call :=
  indexesCall table :: (l.early table ++ l.entries.map (·.call) ++ l.late table)

/-- A database shows the indexes of a table, and its listing if it is asked for that. -/
structure IsShown (l : IndexListing) (db : Connection) (table : String) (calls : List Call) : Prop where
  indexes : Shows db IndexInfo.ofRow calls (indexesCall table) (l.entries.map (·.info))
  early : l.early table ≠ [] → Shows db ColumnInfo.ofRow (calls ++ [indexesCall table]) (columnsCall table) l.columns
  parts : ShowsParts db (calls ++ [indexesCall table] ++ l.early table) l.entries
  late : l.late table ≠ [] → Shows db ColumnInfo.ofRow
    (calls ++ [indexesCall table] ++ l.early table ++ l.entries.map (·.call)) (columnsCall table) l.columns

/-- The constraints that the indexes and the listing give: the last index that is the key, or else the listed key. -/
def constraints (l : IndexListing) : TableConstraints where
  primaryKey := ((l.entries.filter (·.isKey l.columns)).getLast?.map IndexEntry.key).or (listedKey? l.columns)
  uniques := (l.entries.filter (·.isUnique l.columns)).map IndexEntry.key

end IndexListing

/-- Asks for the foreign keys and adds them. -/
def withForeignKeys (table : String) (constraints : TableConstraints) : Exchange TableConstraints := do
  let rows ← Exchange.inContext ("listing foreign keys of table '" ++ table ++ "'")
    (Exchange.load foreignKeyRow ("PRAGMA FOREIGN_KEY_LIST (" ++ Dialect.sqlite.quoteIdent table ++ ")") [])
  return { constraints with foreignKeys := (TableConstraints.ofRows ConstraintKind.ofSpelling? rows).foreignKeys }

/-! ## The load, step by step -/

variable {db : Connection} {table : String} {calls calls' : List Call} {l : IndexListing} {c : TableConstraints}

theorem Shows.load {α : Type} {read : Row → Except Error α} {sql : String} {args : List Value} {as : List α}
    (h : Shows db read calls ⟨.query, sql, args⟩ as) :
    Exchange.load read sql args db calls = (.ok as, calls ++ [⟨.query, sql, args⟩]) := by
  obtain ⟨rows, hrows, hread⟩ := h
  exact Exchange.load_eq_ok_iff.2 ⟨rows, hrows, hread, rfl⟩

theorem enterIndexes_of_showsParts (columns : List ColumnInfo) {entries : List IndexEntry}
    (h : ShowsParts db calls entries) (constraints : TableConstraints) :
    enterIndexes columns (entries.map (·.info)) constraints db calls =
      (.ok (entries.foldl (IndexEntry.enterIn columns) constraints), calls ++ entries.map (·.call)) := by
  induction entries generalizing calls constraints with
  | nil => simp [enterIndexes, Exchange.pure_eq, Exchange.done]
  | cons e entries ih =>
    obtain ⟨hparts, hrest⟩ := h
    refine (Exchange.andThen_ok hparts.load).trans ((ih hrest _).trans ?_)
    simp [IndexEntry.enterIn, IndexEntry.origin, IndexEntry.call]

theorem showsParts_of_enterIndexes (columns : List ColumnInfo) {infos : List IndexInfo} {start : TableConstraints}
    (h : enterIndexes columns infos start db calls = (.ok c, calls')) :
    ∃ entries, entries.map IndexEntry.info = infos ∧ ShowsParts db calls entries := by
  induction infos generalizing calls start with
  | nil => exact ⟨[], rfl, trivial⟩
  | cons info infos ih =>
    obtain ⟨parts, mid, hload, h⟩ := (Exchange.tells_load _ _ _).of_bind h nofun
    obtain ⟨rows, hrows, hread, rfl⟩ := Exchange.load_eq_ok_iff.1 hload
    obtain ⟨entries, rfl, hshown⟩ := ih h
    exact ⟨⟨info, parts⟩ :: entries, rfl, ⟨rows, hrows, hread⟩, hshown⟩

/-- Completes what was entered from the indexes: with a primary key from the listing of the table where there is none,
and with the foreign keys. -/
def complete (table : String) (early : Option (List ColumnInfo)) (constraints : TableConstraints) :
    Exchange TableConstraints :=
  match constraints.primaryKey with
  | some key => withForeignKeys table { constraints with primaryKey := some key }
  | none =>
    match early with
    | some columns => withForeignKeys table { constraints with primaryKey := listedKey? columns }
    | none => tableInfo table >>= fun columns =>
        withForeignKeys table { constraints with primaryKey := listedKey? columns }

/-- What is left to do when the indexes are listed. -/
def continueWith (table : String) (infos : List IndexInfo) : Exchange TableConstraints :=
  if infos.any (·.origin.isNone) then
    tableInfo table >>= fun columns => enterIndexes columns infos {} >>= complete table (some columns)
  else enterIndexes [] infos {} >>= complete table none

theorem loadConstraints_eq (table : String) : loadConstraints table =
    Exchange.inContext ("listing indexes of table '" ++ table ++ "'")
      (Exchange.load IndexInfo.ofRow (indexesCall table).sql []) >>= continueWith table := by
  unfold loadConstraints
  refine congrArg _ (funext fun infos => ?_)
  unfold continueWith
  dsimp only
  split
  · refine (Exchange.map_bind_eq some _ _).trans ?_
    refine congrArg _ (funext fun columns => ?_)
    refine congrArg _ (funext fun constraints => ?_)
    split <;> next hkey =>
      rw [complete, hkey]
      rfl
  · refine congrArg (enterIndexes _ _ _ >>= ·) (funext fun constraints => ?_)
    split <;> next hkey =>
      rw [complete, hkey]
      rfl

/-- The foreign keys or why they cannot be read, with the other constraints beside them. -/
theorem withForeignKeys_eq (table : String) (start : TableConstraints) (db : Connection) (calls : List Call) :
    withForeignKeys table start db calls =
      (((inContext ("listing foreign keys of table '" ++ table ++ "'")
        (db.query calls (foreignKeysCall table) >>= fun rows => rows.mapM foreignKeyRow)).mapError Failure.error).map
          fun keys => { start with
            foreignKeys := (TableConstraints.ofRows ConstraintKind.ofSpelling? keys).foreignKeys },
        calls ++ [foreignKeysCall table]) := by
  rw [withForeignKeys, Exchange.bind_pure_eq, Exchange.inContext_load_eq]
  rfl

theorem complete_of_listed (table : String) (columns : List ColumnInfo) (c : TableConstraints) :
    complete table (some columns) c =
      withForeignKeys table { c with primaryKey := c.primaryKey.or (listedKey? columns) } := by
  cases hkey : c.primaryKey <;> simp [complete, hkey]

theorem foldl_enterIn (columns : List ColumnInfo) (entries : List IndexEntry) :
    entries.foldl (IndexEntry.enterIn columns) {} =
      { primaryKey := (entries.filter (·.isKey columns)).getLast?.map IndexEntry.key
        uniques := (entries.filter (·.isUnique columns)).map IndexEntry.key } := by
  induction entries using List.reverseRecOn with
  | nil => rfl
  | append_singleton entries e ih =>
    rw [List.foldl_concat, ih, IndexEntry.enterIn, enterIndex]
    by_cases hkey : e.origin columns = "pk"
    · simp [hkey, IndexEntry.isKey, IndexEntry.isUnique, IndexEntry.key]
    · have hother : e.isKey columns = false := by simpa [IndexEntry.isKey] using hkey
      rw [if_neg hkey]
      change (if e.isUnique columns = true then _ else _) = _
      split
      · next hunique => simp [List.filter_append, hother, hunique, IndexEntry.key]
      · next hplain => simp [List.filter_append, hother, hplain]

theorem IndexEntry.origin_eq {e : IndexEntry} {reported : String} (h : e.info.origin = some reported)
    (columns : List ColumnInfo) : e.origin columns = reported := by
  rw [origin, h]
  rfl

/-- Where all origins are reported, the listing of the table says nothing about the indexes. -/
theorem foldl_enterIn_of_reported {entries : List IndexEntry} (h : ∀ e ∈ entries, e.info.origin.isSome)
    (columns columns' : List ColumnInfo) (c : TableConstraints) :
    entries.foldl (IndexEntry.enterIn columns) c = entries.foldl (IndexEntry.enterIn columns') c := by
  induction entries generalizing c with
  | nil => rfl
  | cons e entries ih =>
    obtain ⟨he, hentries⟩ := List.forall_mem_cons.1 h
    obtain ⟨reported, hreported⟩ := Option.isSome_iff_exists.1 he
    have hsame : IndexEntry.enterIn columns c e = IndexEntry.enterIn columns' c e := by
      rw [IndexEntry.enterIn, IndexEntry.enterIn, IndexEntry.origin_eq hreported, IndexEntry.origin_eq hreported]
    rw [List.foldl_cons, List.foldl_cons, hsame, ih hentries]

theorem IndexEntry.isKey_eq {e : IndexEntry} (h : e.info.origin.isSome) (columns : List ColumnInfo) :
    e.isKey columns = (e.info.origin == some "pk") := by
  obtain ⟨reported, hreported⟩ := Option.isSome_iff_exists.1 h
  rw [isKey, origin_eq hreported, hreported, Bool.eq_iff_iff]
  simp

/-- Where all origins are reported, the table is listed late if no index is the key. -/
theorem IndexListing.late_of_reported (h : ∀ e ∈ l.entries, e.info.origin.isSome) (table : String) :
    l.late table = if (l.entries.filter (·.isKey l.columns)).getLast?.isSome then [] else [columnsCall table] := by
  have hreported : l.entries.any (·.info.origin.isNone) = false := by simpa [Option.isSome_iff_ne_none] using h
  have hkeys : l.entries.any (·.info.origin == some "pk") = (l.entries.filter (·.isKey l.columns)).getLast?.isSome := by
    rw [List.filter_congr fun e he => IndexEntry.isKey_eq (h e he) l.columns, Bool.eq_iff_iff, List.getLast?_isSome,
      List.any_eq_true]
    simp [List.filter_eq_nil_iff]
  rw [late, hreported, Bool.false_or, hkeys]

theorem loadConstraints_of_isShown (h : l.IsShown db table calls) :
    loadConstraints table db calls = withForeignKeys table l.constraints db (calls ++ l.asked table) := by
  have hindexes := (Exchange.inContext_eq_ok_iff ("listing indexes of table '" ++ table ++ "'")).2 h.indexes.load
  rw [loadConstraints_eq]
  refine (Exchange.andThen_ok hindexes).trans ?_
  by_cases hlacks : l.entries.any (·.info.origin.isNone) = true
  · have hearly : l.early table = [columnsCall table] := if_pos hlacks
    have hlate : l.late table = [] := if_pos (by simp [hlacks])
    have hcolumns := (h.early (by simp [hearly])).load
    have hparts := enterIndexes_of_showsParts l.columns h.parts {}
    rw [hearly] at hparts
    rw [continueWith, if_pos (by simpa using hlacks)]
    refine (Exchange.andThen_ok hcolumns).trans ((Exchange.andThen_ok hparts).trans ?_)
    rw [complete_of_listed, foldl_enterIn]
    simp [IndexListing.asked, hearly, hlate, IndexListing.constraints, indexesCall]
  · have hearly : l.early table = [] := if_neg hlacks
    have hreported : ∀ e ∈ l.entries, e.info.origin.isSome := by simpa [Option.isSome_iff_ne_none] using hlacks
    have hparts := enterIndexes_of_showsParts [] h.parts {}
    rw [hearly, List.append_nil, foldl_enterIn_of_reported hreported [] l.columns, foldl_enterIn] at hparts
    rw [continueWith, if_neg (by simpa using hlacks)]
    refine (Exchange.andThen_ok hparts).trans ?_
    have hlate := IndexListing.late_of_reported hreported table
    cases hkey : (l.entries.filter (·.isKey l.columns)).getLast? with
    | some e =>
      rw [hkey] at hlate
      have hasked : calls ++ l.asked table = calls ++ [indexesCall table] ++ l.entries.map (·.call) := by
        simp [IndexListing.asked, hearly, hlate]
      rw [hasked, IndexListing.constraints, hkey]
      rfl
    | none =>
      rw [hkey] at hlate
      have hasked : calls ++ l.asked table =
          calls ++ [indexesCall table] ++ l.entries.map (·.call) ++ [columnsCall table] := by
        simp [IndexListing.asked, hearly, hlate]
      have hcolumns := (h.late (by simp [hlate])).load
      rw [hearly, List.append_nil] at hcolumns
      rw [hasked, IndexListing.constraints, hkey]
      exact Exchange.andThen_ok hcolumns

/-- A load that succeeds has been shown the indexes, and the listing if it asked for that. -/
theorem isShown_of_loadConstraints (h : loadConstraints table db calls = (.ok c, calls')) :
    ∃ l : IndexListing, l.IsShown db table calls := by
  rw [loadConstraints_eq] at h
  obtain ⟨infos, mid, hload, h⟩ := ((Exchange.tells_load _ _ _).inContext _).of_bind h nofun
  obtain ⟨rows, hrows, hread, rfl⟩ := Exchange.load_eq_ok_iff.1 ((Exchange.inContext_eq_ok_iff _).1 hload)
  rw [continueWith] at h
  by_cases hlacks : infos.any (·.origin.isNone) = true
  · rw [if_pos hlacks] at h
    obtain ⟨columns, mid, hload, h⟩ := (tells_tableInfo table).of_bind h nofun
    obtain ⟨listed, hlisted, hread', rfl⟩ := Exchange.load_eq_ok_iff.1 hload
    obtain ⟨c₀, mid, henter, _⟩ := (tells_enterIndexes _ _ _).of_bind h nofun
    obtain ⟨entries, rfl, hparts⟩ := showsParts_of_enterIndexes columns henter
    have hlacks : entries.any (·.info.origin.isNone) = true := by simpa using hlacks
    have hearly : IndexListing.early ⟨entries, columns⟩ table = [columnsCall table] := if_pos hlacks
    have hlate : IndexListing.late ⟨entries, columns⟩ table = [] := if_pos (by simp [hlacks])
    refine ⟨⟨entries, columns⟩, ⟨rows, hrows, hread⟩, fun _ => ⟨listed, hlisted, hread'⟩, ?_,
      fun hne => absurd hlate hne⟩
    rw [hearly]
    exact hparts
  · rw [if_neg hlacks] at h
    obtain ⟨c₀, mid, henter, h⟩ := (tells_enterIndexes _ _ _).of_bind h nofun
    obtain ⟨entries, rfl, hparts⟩ := showsParts_of_enterIndexes [] henter
    have hlacks : ¬ entries.any (·.info.origin.isNone) = true := by simpa using hlacks
    have hearly (columns : List ColumnInfo) : IndexListing.early ⟨entries, columns⟩ table = [] := if_neg hlacks
    have hreported : ∀ e ∈ entries, e.info.origin.isSome := by simpa [Option.isSome_iff_ne_none] using hlacks
    have hlate := IndexListing.late_of_reported (l := ⟨entries, []⟩) hreported table
    have hsame := henter.symm.trans (enterIndexes_of_showsParts [] hparts {})
    rw [foldl_enterIn] at hsame
    obtain ⟨hc₀, rfl⟩ := Prod.mk.inj hsame
    obtain rfl := Except.ok.inj hc₀
    cases hkey : (entries.filter (·.isKey [])).getLast? with
    | some e =>
      rw [hkey] at hlate
      refine ⟨⟨entries, []⟩, ⟨rows, hrows, hread⟩, fun hne => absurd (hearly []) hne, ?_, fun hne => absurd hlate hne⟩
      rw [hearly, List.append_nil]
      exact hparts
    | none =>
      rw [hkey] at h
      obtain ⟨columns, mid, hload, _⟩ := (tells_tableInfo table).of_bind h nofun
      obtain ⟨listed, hlisted, hread', rfl⟩ := Exchange.load_eq_ok_iff.1 hload
      refine ⟨⟨entries, columns⟩, ⟨rows, hrows, hread⟩, fun hne => absurd (hearly columns) hne, ?_, fun _ => ?_⟩
      · rw [hearly, List.append_nil]
        exact hparts
      · rw [hearly, List.append_nil]
        exact ⟨listed, hlisted, hread'⟩

end SqlDialects.Catalog.Sqlite
