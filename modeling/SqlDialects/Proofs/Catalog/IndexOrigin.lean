import SqlDialects.Proofs.Catalog.IndexListing

/-! # Origins of indexes, reported and guessed

Old versions of SQLite do not report where an index comes from. A load of constraints then takes every index that
begins with a column of the key for the key itself, and looks at the name only after that. Here a database that reports
the origins is compared with the same database without them.
-/

namespace SqlDialects

/-! ## A column left out of a row -/

/-- The row without the columns of a name. -/
def Row.without (r : Row) (name : String) : Row :=
  ⟨r.cells.filter fun cell => !Text.sameIgnoringCase cell.1 name⟩

theorem Row.get?_without_self (r : Row) (name : String) : (r.without name).get? name = none := by
  simp [Row.without, Row.get?]

theorem Row.get?_without_of_differ {name other : String} (h : Text.sameIgnoringCase other name = false) (r : Row) :
    (r.without name).get? other = r.get? other := by
  simp only [Row.get?, Row.without, List.find?_filter]
  congr 2
  funext cell
  by_cases hcell : Text.sameIgnoringCase cell.1 other = true
  · have hsame : cell.1.toLower = other.toLower := by simpa [Text.sameIgnoringCase] using hcell
    have hkept : Text.sameIgnoringCase cell.1 name = false := by simpa [Text.sameIgnoringCase, hsame] using h
    simp [hcell, hkept]
  · simp [hcell]

namespace Catalog.Sqlite

def IndexInfo.withoutOrigin (info : IndexInfo) : IndexInfo :=
  { info with origin := none }

theorem IndexInfo.ofRow_without (r : Row) :
    IndexInfo.ofRow (r.without "origin") = (IndexInfo.ofRow r).map IndexInfo.withoutOrigin := by
  have hname : (r.without "origin").get? "name" = r.get? "name" := Row.get?_without_of_differ (by decide +kernel) r
  have hunique : (r.without "origin").get? "unique" = r.get? "unique" :=
    Row.get?_without_of_differ (by decide +kernel) r
  have horigin : (r.without "origin").get? "origin" = none := Row.get?_without_self r "origin"
  unfold IndexInfo.ofRow Row.text Row.text? Row.bool?
  rw [hname, hunique, horigin]
  cases (r.get? "name").bind Value.text? <;> rfl

theorem IndexInfo.mapM_ofRow_without {rows : List Row} {infos : List IndexInfo}
    (h : rows.mapM IndexInfo.ofRow = .ok infos) :
    (rows.map (·.without "origin")).mapM IndexInfo.ofRow = .ok (infos.map IndexInfo.withoutOrigin) := by
  rw [mapM_eq_ok_iff, List.forall₂_map_left_iff, List.forall₂_map_right_iff]
  refine (mapM_eq_ok_iff.1 h).imp fun r info hinfo => ?_
  rw [IndexInfo.ofRow_without, hinfo]
  rfl

/-! ## A listing without origins -/

namespace IndexEntry

def withoutOrigin (e : IndexEntry) : IndexEntry :=
  { e with info := e.info.withoutOrigin }

/-- The index begins with a column of the key. -/
def beginsInKey (columns : List ColumnInfo) (e : IndexEntry) : Bool :=
  e.parts.head?.any fun part => columns.any fun c => c.cid == part.cid && c.keyPlace > 0

theorem beginsInKey_iff {columns : List ColumnInfo} {e : IndexEntry} : e.beginsInKey columns = true ↔
    ∃ part, e.parts.head? = some part ∧ ∃ c ∈ columns, c.cid = part.cid ∧ 0 < c.keyPlace := by
  rw [beginsInKey]
  cases e.parts.head? <;> simp

theorem origin_withoutOrigin (columns : List ColumnInfo) (e : IndexEntry) :
    e.withoutOrigin.origin columns =
      if e.beginsInKey columns then "pk"
      else if e.info.unique && "sqlite_".toList.isPrefixOf e.info.name.toList then "u" else "c" := rfl

theorem isKey_withoutOrigin (columns : List ColumnInfo) (e : IndexEntry) :
    e.withoutOrigin.isKey columns = e.beginsInKey columns := by
  rw [isKey, origin_withoutOrigin]
  split
  · next hkey => simp [hkey]
  · next hother => split <;> simp [hother]

theorem isUnique_withoutOrigin (columns : List ColumnInfo) (e : IndexEntry) :
    e.withoutOrigin.isUnique columns = (e.info.unique && !e.beginsInKey columns) := by
  have hunique : e.withoutOrigin.info.unique = e.info.unique := rfl
  rw [isUnique, origin_withoutOrigin, hunique]
  split
  · next hkey => simp [hkey]
  · next hother =>
    split
    · next hnamed => simp [hother, (Bool.and_eq_true_iff.1 hnamed).1]
    · simp [hother]

end IndexEntry

/-! ## Members that a list keeps -/

section Kept

variable {α β : Type} {xs : List α} {p q : α → Bool}

theorem map_filter_eq_iff {f : α → β} (hf : ∀ x ∈ xs, ∀ y ∈ xs, f x = f y → x = y) :
    (xs.filter p).map f = (xs.filter q).map f ↔ ∀ x ∈ xs, p x = q x := by
  have hkept {p q : α → Bool} (h : (xs.filter p).map f = (xs.filter q).map f) {x : α} (hx : x ∈ xs)
      (hp : p x = true) : q x = true := by
    have hmem : f x ∈ (xs.filter q).map f := h ▸ List.mem_map_of_mem (List.mem_filter.2 ⟨hx, hp⟩)
    obtain ⟨y, hy, hsame⟩ := List.mem_map.1 hmem
    obtain ⟨hy, hq⟩ := List.mem_filter.1 hy
    exact hf y hy x hx hsame ▸ hq
  constructor
  · exact fun h x hx => Bool.eq_iff_iff.2 ⟨hkept h hx, hkept h.symm hx⟩
  · exact fun h => congrArg _ (List.filter_congr h)

theorem getLast?_filter_of_imp (h : ∀ x ∈ xs, q x = true → p x = true) {x : α}
    (hlast : (xs.filter p).getLast? = some x) (hq : q x = true) : (xs.filter q).getLast? = some x := by
  obtain ⟨front, hfront⟩ := List.getLast?_eq_some_iff.1 hlast
  have htwice : (xs.filter p).filter q = xs.filter q := by
    rw [List.filter_filter]
    refine List.filter_congr fun y hy => ?_
    cases hy' : q y with
    | true => rw [h y hy hy', Bool.true_and]
    | false => rfl
  rw [← htwice, hfront, List.filter_append, List.filter_singleton, hq]
  simp

end Kept

namespace IndexListing

def withoutOrigins (l : IndexListing) : IndexListing :=
  { l with entries := l.entries.map IndexEntry.withoutOrigin }

/-- Without origins, the last index that begins in the key is the key, and all other unique indexes are constraints. -/
theorem constraints_withoutOrigins (l : IndexListing) : l.withoutOrigins.constraints =
    { primaryKey := ((l.entries.filter (·.beginsInKey l.columns)).getLast?.map IndexEntry.key).or
        (listedKey? l.columns)
      uniques := (l.entries.filter fun e => e.info.unique && !e.beginsInKey l.columns).map IndexEntry.key } := by
  have hkey : IndexEntry.key ∘ IndexEntry.withoutOrigin = IndexEntry.key := rfl
  simp only [constraints, withoutOrigins, List.filter_map, List.getLast?_map, Option.map_map, List.map_map, hkey,
    Function.comp_def, IndexEntry.isKey_withoutOrigin, IndexEntry.isUnique_withoutOrigin]

/-- What SQLite keeps to in the indexes that it lists with their origins. -/
structure IsReported (l : IndexListing) : Prop where
  names : (l.entries.map (·.info.name)).Nodup
  origins : ∀ e ∈ l.entries, e.info.origin = some "c" ∨ e.info.origin = some "u" ∨ e.info.origin = some "pk"
  /-- An index that belongs to a constraint is unique and has a name that SQLite gave it. -/
  automatic : ∀ e ∈ l.entries, e.info.origin ≠ some "c" →
    e.info.unique = true ∧ "sqlite_autoindex_".toList <+: e.info.name.toList
  /-- A statement cannot create an index with such a name. -/
  created : ∀ e ∈ l.entries, e.info.origin = some "c" → ¬ "sqlite_".toList <+: e.info.name.toList
  /-- The index of the key has the columns of the key. -/
  keyed : ∀ e ∈ l.entries, e.info.origin = some "pk" →
    ∀ cid, (∃ part ∈ e.parts, part.cid = cid) ↔ ∃ c ∈ l.columns, c.cid = cid ∧ 0 < c.keyPlace

variable {l : IndexListing}

theorem IsReported.isKey_eq (h : l.IsReported) {e : IndexEntry} (he : e ∈ l.entries) :
    e.isKey l.columns = decide (e.info.origin = some "pk") := by
  rcases h.origins e he with horigin | horigin | horigin <;>
    simp [IndexEntry.isKey, IndexEntry.origin_eq horigin, horigin]

theorem IsReported.isUnique_eq (h : l.IsReported) {e : IndexEntry} (he : e ∈ l.entries) :
    e.isUnique l.columns = (e.info.unique && !decide (e.info.origin = some "pk")) := by
  rcases h.origins e he with horigin | horigin | horigin
  · simp [IndexEntry.isUnique, IndexEntry.origin_eq horigin, horigin]
  · have hunique := (h.automatic e he (by simp [horigin])).1
    simp [IndexEntry.isUnique, IndexEntry.origin_eq horigin, horigin, hunique]
  · simp [IndexEntry.isUnique, IndexEntry.origin_eq horigin, horigin]

theorem IsReported.constraints_eq (h : l.IsReported) : l.constraints =
    { primaryKey := ((l.entries.filter fun e => e.info.origin = some "pk").getLast?.map IndexEntry.key).or
        (listedKey? l.columns)
      uniques := (l.entries.filter fun e => e.info.unique && !decide (e.info.origin = some "pk")).map
        IndexEntry.key } := by
  rw [constraints, List.filter_congr fun e he => h.isKey_eq he, List.filter_congr fun e he => h.isUnique_eq he]

theorem IsReported.eq_of_key_eq (h : l.IsReported) {e e' : IndexEntry} (he : e ∈ l.entries) (he' : e' ∈ l.entries)
    (hkey : e.key = e'.key) : e = e' :=
  List.inj_on_of_nodup_map h.names he he' (congrArg KeyConstraint.name hkey)

/-- The index of the key begins in the key, if the table has one. -/
theorem IsReported.beginsInKey_iff (h : l.IsReported) {e : IndexEntry} (he : e ∈ l.entries)
    (hkey : e.info.origin = some "pk") : e.beginsInKey l.columns = true ↔ ∃ c ∈ l.columns, 0 < c.keyPlace := by
  rw [IndexEntry.beginsInKey_iff]
  constructor
  · rintro ⟨part, _, c, hc, _, hplace⟩
    exact ⟨c, hc, hplace⟩
  · rintro ⟨c, hc, hplace⟩
    obtain ⟨part, hpart, _⟩ := (h.keyed e he hkey c.cid).2 ⟨c, hc, rfl, hplace⟩
    obtain ⟨first, rest, hparts⟩ := List.exists_cons_of_ne_nil (List.ne_nil_of_mem hpart)
    exact ⟨first, by simp [hparts], (h.keyed e he hkey first.cid).1 ⟨first, by simp [hparts], rfl⟩⟩

/-- The last index that begins in the key is the key; or no index is, and the key that the table lists looks like that
index. -/
def LastIsKey (l : IndexListing) : Prop :=
  ∀ e, (l.entries.filter (·.beginsInKey l.columns)).getLast? = some e → e.info.origin = some "pk" ∨
    (∀ e' ∈ l.entries, e'.info.origin ≠ some "pk") ∧ listedKey? l.columns = some e.key

/-- What it takes for guessed origins to give the reported constraints. -/
structure IsGuessable (l : IndexListing) : Prop where
  key : ∀ e ∈ l.entries, e.info.origin = some "pk" → ∃ c ∈ l.columns, 0 < c.keyPlace
  unique : ∀ e ∈ l.entries, e.info.origin ≠ some "pk" → e.info.unique = true → e.beginsInKey l.columns = false
  last : l.LastIsKey

theorem IsReported.uniques_eq_iff (h : l.IsReported) : l.withoutOrigins.constraints.uniques = l.constraints.uniques ↔
    ∀ e ∈ l.entries, e.info.unique = true → e.beginsInKey l.columns = decide (e.info.origin = some "pk") := by
  rw [constraints_withoutOrigins, h.constraints_eq]
  refine (map_filter_eq_iff fun e he e' he' => h.eq_of_key_eq he he').trans (forall₂_congr fun e _ => ?_)
  cases e.info.unique <;> simp

theorem IsReported.primaryKey_eq_iff (h : l.IsReported)
    (hkeys : ∀ e ∈ l.entries, e.info.origin = some "pk" → e.beginsInKey l.columns = true) :
    l.withoutOrigins.constraints.primaryKey = l.constraints.primaryKey ↔ l.LastIsKey := by
  rw [constraints_withoutOrigins, h.constraints_eq, LastIsKey]
  cases hlast : (l.entries.filter (·.beginsInKey l.columns)).getLast? with
  | none =>
    have hnone : (l.entries.filter fun e => e.info.origin = some "pk").getLast? = none := by
      rw [List.getLast?_eq_none_iff, List.filter_eq_nil_iff] at hlast ⊢
      exact fun e he hkey => hlast e he (hkeys e he (of_decide_eq_true hkey))
    simp [hnone]
  | some e =>
    have he : e ∈ l.entries := (List.mem_filter.1 (List.mem_of_getLast? hlast)).1
    by_cases hkey : e.info.origin = some "pk"
    · have hsame := getLast?_filter_of_imp (q := fun e : IndexEntry => decide (e.info.origin = some "pk"))
        (fun e he hkey => hkeys e he (of_decide_eq_true hkey)) hlast (decide_eq_true hkey)
      simp [hsame, hkey]
    · cases hreported : (l.entries.filter fun e => e.info.origin = some "pk").getLast? with
      | none =>
        have hnone : ∀ e' ∈ l.entries, e'.info.origin ≠ some "pk" := by
          simpa [List.filter_eq_nil_iff] using hreported
        simp only [Option.map_some, Option.map_none, Option.some_or, Option.none_or, Option.some.injEq, forall_eq']
        exact ⟨fun hsame => .inr ⟨hnone, hsame.symm⟩, fun hor => (hor.resolve_left hkey).2.symm⟩
      | some e' =>
        obtain ⟨he', hkey'⟩ := List.mem_filter.1 (List.mem_of_getLast? hreported)
        have hother : e.key ≠ e'.key := fun hsame => hkey (h.eq_of_key_eq he he' hsame ▸ of_decide_eq_true hkey')
        simp only [Option.map_some, Option.some_or, Option.some.injEq, forall_eq']
        exact ⟨fun hsame => absurd hsame hother, fun hor =>
          absurd (of_decide_eq_true hkey') ((hor.resolve_left hkey).1 e' he')⟩

theorem IsReported.guesses_iff (h : l.IsReported) :
    l.withoutOrigins.constraints.primaryKey = l.constraints.primaryKey ∧
      l.withoutOrigins.constraints.uniques = l.constraints.uniques ↔ l.IsGuessable := by
  rw [h.uniques_eq_iff]
  constructor
  · rintro ⟨hprimary, huniques⟩
    have hkeys : ∀ e ∈ l.entries, e.info.origin = some "pk" → e.beginsInKey l.columns = true := fun e he hkey => by
      rw [huniques e he (h.automatic e he (by simp [hkey])).1]
      exact decide_eq_true hkey
    constructor
    case key => exact fun e he hkey => (h.beginsInKey_iff he hkey).1 (hkeys e he hkey)
    case unique => exact fun e he hother hunique => (huniques e he hunique).trans (decide_eq_false hother)
    case last => exact (h.primaryKey_eq_iff hkeys).1 hprimary
  · intro hguess
    have hkeys : ∀ e ∈ l.entries, e.info.origin = some "pk" → e.beginsInKey l.columns = true := fun e he hkey =>
      (h.beginsInKey_iff he hkey).2 (hguess.key e he hkey)
    refine ⟨(h.primaryKey_eq_iff hkeys).2 hguess.last, fun e he hunique => ?_⟩
    by_cases hkey : e.info.origin = some "pk"
    · rw [hkeys e he hkey, decide_eq_true hkey]
    · rw [hguess.unique e he hkey hunique, decide_eq_false hkey]

end IndexListing

/-! ## The two loads -/

/-- The database without the origins in the listing of the indexes of a table. -/
def hideOrigins (table : String) (db : Connection) : Connection where
  execute := db.execute
  query calls call :=
    if call.sql = (indexesCall table).sql then (db.query calls call).map (List.map (·.without "origin"))
    else db.query calls call

variable {db : Connection} {table : String}

theorem query_hideOrigins_of_ne {call : Call} (h : call.sql ≠ (indexesCall table).sql) (calls : List Call) :
    (hideOrigins table db).query calls call = db.query calls call :=
  if_neg h

theorem Shows.hideOrigins_of_ne {α : Type} {read : Row → Except Error α} {calls : List Call} {call : Call}
    {as : List α} (h : Shows db read calls call as) (hne : call.sql ≠ (indexesCall table).sql) :
    Shows (hideOrigins table db) read calls call as := by
  obtain ⟨rows, hrows, hread⟩ := h
  exact ⟨rows, (query_hideOrigins_of_ne hne calls).trans hrows, hread⟩

theorem Shows.hideOrigins {calls : List Call} {infos : List IndexInfo}
    (h : Shows db IndexInfo.ofRow calls (indexesCall table) infos) :
    Shows (hideOrigins table db) IndexInfo.ofRow calls (indexesCall table) (infos.map IndexInfo.withoutOrigin) := by
  obtain ⟨rows, hrows, hread⟩ := h
  have hhidden : (Sqlite.hideOrigins table db).query calls (indexesCall table) =
      .ok (rows.map (·.without "origin")) := by
    refine (if_pos rfl).trans ?_
    rw [hrows]
    rfl
  exact ⟨_, hhidden, IndexInfo.mapM_ofRow_without hread⟩

theorem columnsCall_sql_ne (table : String) : (columnsCall table).sql ≠ (indexesCall table).sql := by
  intro h
  have h := congrArg String.toList h
  simp [columnsCall, indexesCall] at h

theorem IndexEntry.call_sql_ne (e : IndexEntry) (table : String) : e.call.sql ≠ (indexesCall table).sql := by
  intro h
  have h := congrArg String.toList h
  simp [IndexEntry.call, indexesCall] at h

theorem foreignKeysCall_sql_ne (table : String) : (foreignKeysCall table).sql ≠ (indexesCall table).sql := by
  intro h
  have h := congrArg String.toList h
  simp [foreignKeysCall, indexesCall] at h

namespace IndexListing

/-- A database shows the indexes of a table and the listing of it whenever it is asked, and its answer to the question
for the foreign keys is always the same. -/
structure IsKept (l : IndexListing) (db : Connection) (table : String) : Prop where
  indexes : ∀ calls, Shows db IndexInfo.ofRow calls (indexesCall table) (l.entries.map (·.info))
  parts : ∀ calls, ∀ e ∈ l.entries, Shows db IndexPart.ofRow calls e.call e.parts
  columns : ∀ calls, Shows db ColumnInfo.ofRow calls (columnsCall table) l.columns
  foreignKeys : ∀ calls calls', db.query calls (foreignKeysCall table) = db.query calls' (foreignKeysCall table)

variable {l : IndexListing}

theorem showsParts_of_forall {entries : List IndexEntry}
    (h : ∀ calls, ∀ e ∈ entries, Shows db IndexPart.ofRow calls e.call e.parts) (calls : List Call) :
    ShowsParts db calls entries := by
  induction entries generalizing calls with
  | nil => trivial
  | cons e entries ih =>
    exact ⟨h calls e List.mem_cons_self, ih (fun calls e he => h calls e (List.mem_cons_of_mem _ he)) _⟩

theorem IsKept.isShown (h : l.IsKept db table) (calls : List Call) : l.IsShown db table calls where
  indexes := h.indexes calls
  early := fun _ => h.columns _
  parts := showsParts_of_forall h.parts _
  late := fun _ => h.columns _

theorem IsKept.hideOrigins (h : l.IsKept db table) : l.withoutOrigins.IsKept (hideOrigins table db) table := by
  constructor
  case indexes =>
    intro calls
    have hinfos : l.withoutOrigins.entries.map (·.info) =
        (l.entries.map (·.info)).map IndexInfo.withoutOrigin := by simp [withoutOrigins, IndexEntry.withoutOrigin]
    exact hinfos ▸ (h.indexes calls).hideOrigins
  case parts =>
    intro calls e he
    obtain ⟨reported, hreported, rfl⟩ := List.mem_map.1 he
    exact (h.parts calls reported hreported).hideOrigins_of_ne (reported.call_sql_ne table)
  case columns => exact fun calls => (h.columns calls).hideOrigins_of_ne (columnsCall_sql_ne table)
  case foreignKeys =>
    intro calls calls'
    have hne := foreignKeysCall_sql_ne table
    rw [query_hideOrigins_of_ne hne, query_hideOrigins_of_ne hne, h.foreignKeys calls calls']

end IndexListing

/-- With the same answer to the question for the foreign keys, other constraints stay apart unless it cannot be read. -/
theorem fst_withForeignKeys_eq_iff {db db' : Connection} {calls calls' : List Call}
    (h : db'.query calls' (foreignKeysCall table) = db.query calls (foreignKeysCall table)) {c c' : TableConstraints}
    (hchecks : c'.checks = c.checks) :
    (withForeignKeys table c' db' calls').1 = (withForeignKeys table c db calls).1 ↔
      (∀ keys, ¬ Shows db foreignKeyRow calls (foreignKeysCall table) keys) ∨
        c'.primaryKey = c.primaryKey ∧ c'.uniques = c.uniques := by
  have hshown (keys : List ConstraintRow) : Shows db foreignKeyRow calls (foreignKeysCall table) keys ↔
      (db.query calls (foreignKeysCall table) >>= fun rows => rows.mapM foreignKeyRow) = .ok keys :=
    except_bind_eq_ok.symm
  rw [withForeignKeys_eq, withForeignKeys_eq, h]
  simp only [hshown]
  cases db.query calls (foreignKeysCall table) >>= fun rows => rows.mapM foreignKeyRow with
  | error e => simp [inContext, Except.mapError, Except.map]
  | ok keys => simp [inContext, Except.mapError, Except.map, hchecks]

/-- Without the origins of the indexes, a load of constraints has the same result if and only if the foreign keys
cannot be read, or the key of the table has columns, no other unique index begins in it, and the last index that does
is the key. -/
theorem loadConstraints_hideOrigins_iff {l : IndexListing} (hl : l.IsReported) (hdb : l.IsKept db table)
    (calls : List Call) :
    (loadConstraints table (hideOrigins table db) calls).1 = (loadConstraints table db calls).1 ↔
      (∀ keys, ¬ Shows db foreignKeyRow calls (foreignKeysCall table) keys) ∨ l.IsGuessable := by
  have hanswers (asked asked' : List Call) : (hideOrigins table db).query asked' (foreignKeysCall table) =
      db.query asked (foreignKeysCall table) :=
    (query_hideOrigins_of_ne (foreignKeysCall_sql_ne table) asked').trans (hdb.foreignKeys asked' asked)
  have hshown (keys : List ConstraintRow) :
      Shows db foreignKeyRow (calls ++ l.asked table) (foreignKeysCall table) keys ↔
        Shows db foreignKeyRow calls (foreignKeysCall table) keys := by
    rw [Shows, Shows, hdb.foreignKeys (calls ++ l.asked table) calls]
  have hchecks : l.withoutOrigins.constraints.checks = l.constraints.checks := rfl
  rw [loadConstraints_of_isShown (hdb.isShown calls), loadConstraints_of_isShown (hdb.hideOrigins.isShown calls),
    fst_withForeignKeys_eq_iff (hanswers _ _) hchecks, hl.guesses_iff]
  simp only [hshown]

/-- A plain index that begins in the key passes for the key; an index of the key and a unique index elsewhere do not
disturb each other. -/
theorem loadConstraints_hideOrigins_iff_of_plain_and_unique_index :
    let column (cid : Int64) (name : String) (place : Int64) : Row :=
      ⟨[("cid", .int cid), ("name", .text name), ("type", .text "text"), ("pk", .int place)]⟩
    let index (name : String) (unique : Int64) (origin : String) : Row :=
      ⟨[("name", .text name), ("unique", .int unique), ("origin", .text origin)]⟩
    let part (cid : Int64) (name : String) : Row := ⟨[("cid", .int cid), ("name", .text name)]⟩
    let answering (answers : List (String × List Row)) : Connection :=
      ⟨fun _ _ => .ok (), fun _ call => .ok ((answers.lookup call.sql).getD [])⟩
    let plain := answering [
      ("PRAGMA INDEX_LIST ('t')", [index "by_id" 0 "c"]),
      ("PRAGMA INDEX_INFO ('by_id')", [part 0 "id", part 1 "name"]),
      ("PRAGMA TABLE_INFO (\"t\")", [column 0 "id" 1, column 1 "name" 0])]
    let unique := answering [
      ("PRAGMA INDEX_LIST ('t')", [index "by_name" 1 "c", index "sqlite_autoindex_t_1" 1 "pk"]),
      ("PRAGMA INDEX_INFO ('by_name')", [part 1 "name"]),
      ("PRAGMA INDEX_INFO ('sqlite_autoindex_t_1')", [part 0 "id"]),
      ("PRAGMA TABLE_INFO (\"t\")", [column 0 "id" 1, column 1 "name" 0])]
    (loadConstraints "t" (hideOrigins "t" plain) []).1 ≠ (loadConstraints "t" plain []).1 ∧
      (loadConstraints "t" (hideOrigins "t" unique) []).1 = (loadConstraints "t" unique []).1 := by
  intro column index part answering plain unique
  let columns : List ColumnInfo := [⟨0, "id", "text", false, none, 1⟩, ⟨1, "name", "text", false, none, 0⟩]
  constructor
  · let l : IndexListing := ⟨[⟨⟨"by_id", false, some "c"⟩, [⟨0, "id"⟩, ⟨1, "name"⟩]⟩], columns⟩
    have hreported : l.IsReported := by
      constructor
      case names => simp [l]
      case origins => simp [l]
      case automatic => simp [l]
      case created => simp [l]
      case keyed => simp [l]
    have hkept : l.IsKept plain "t" := by
      constructor
      case indexes => exact fun calls => ⟨_, rfl, by decide +kernel⟩
      case parts =>
        intro calls e he
        obtain rfl := List.mem_singleton.1 he
        exact ⟨_, rfl, by decide +kernel⟩
      case columns => exact fun calls => ⟨_, rfl, by decide +kernel⟩
      case foreignKeys => exact fun calls calls' => rfl
    have hkeys : Shows plain foreignKeyRow [] (foreignKeysCall "t") [] := ⟨[], rfl, rfl⟩
    refine mt (loadConstraints_hideOrigins_iff hreported hkept []).1 (not_or.2 ⟨fun hnone => hnone [] hkeys, ?_⟩)
    intro hguess
    rcases hguess.last l.entries[0] (by decide +kernel) with hkey | ⟨_, hlisted⟩
    · exact absurd hkey (by decide)
    · have hkey : listedKey? columns = some ⟨"", ["id"]⟩ := by decide +kernel
      exact absurd (congrArg KeyConstraint.name (Option.some.inj (hkey.symm.trans hlisted))) (by decide)
  · let l : IndexListing := ⟨[⟨⟨"by_name", true, some "c"⟩, [⟨1, "name"⟩]⟩,
      ⟨⟨"sqlite_autoindex_t_1", true, some "pk"⟩, [⟨0, "id"⟩]⟩], columns⟩
    have hreported : l.IsReported := by
      constructor
      case names => simp [l]
      case origins => simp [l]
      case automatic => simp [l]
      case created => simp [l]
      case keyed => simp [l, columns]
    have hkept : l.IsKept unique "t" := by
      constructor
      case indexes => exact fun calls => ⟨_, rfl, by decide +kernel⟩
      case parts =>
        intro calls e he
        rcases List.mem_pair.1 he with rfl | rfl
        · exact ⟨_, rfl, by decide +kernel⟩
        · exact ⟨_, rfl, by decide +kernel⟩
      case columns => exact fun calls => ⟨_, rfl, by decide +kernel⟩
      case foreignKeys => exact fun calls calls' => rfl
    refine (loadConstraints_hideOrigins_iff hreported hkept []).2 (.inr ?_)
    constructor
    case key => simp [l, columns]
    case unique => simp [l, columns, IndexEntry.beginsInKey]
    case last =>
      intro e he
      have hlast : (l.entries.filter (·.beginsInKey l.columns)).getLast? = some l.entries[1] := by decide +kernel
      obtain rfl := Option.some.inj (hlast.symm.trans he)
      exact .inl rfl

end Catalog.Sqlite
end SqlDialects
