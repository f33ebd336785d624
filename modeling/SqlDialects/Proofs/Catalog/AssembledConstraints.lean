import SqlDialects.Proofs.Catalog.IndexListing
import SqlDialects.Proofs.Catalog.PairedColumns

/-! # How the constraints of SQLite are put together

Keys and unique constraints are among the indexes of a table, told apart by their origins. A key that has no index is
shown by the listing of the table alone, by the places of columns in it. Foreign keys have numbers and are put together
by them.
-/

namespace SqlDialects.Catalog.Sqlite

variable {db : Connection} {table : String} {calls calls' : List Call} {l : IndexListing} {c : TableConstraints}

/-! ## The listed key -/

/-- The columns of the key, in ascending order of their places in it and else in the order of the listing. -/
structure SortsKey (columns keyed : List ColumnInfo) : Prop where
  ascending : keyed.Pairwise fun a b => a.keyPlace ≤ b.keyPlace
  ofPlace : ∀ place, keyed.filter (·.keyPlace = place) = columns.filter fun c => 0 < c.keyPlace ∧ c.keyPlace = place

theorem sortsKey_mergeSort (columns : List ColumnInfo) :
    SortsKey columns ((columns.filter (·.keyPlace > 0)).mergeSort fun a b => a.keyPlace ≤ b.keyPlace) := by
  let le (a b : ColumnInfo) : Bool := a.keyPlace ≤ b.keyPlace
  have htrans (a b c : ColumnInfo) (hab : le a b = true) (hbc : le b c = true) : le a c = true := by
    have hab := of_decide_eq_true hab
    have hbc := of_decide_eq_true hbc
    exact decide_eq_true (Int64.le_trans hab hbc)
  have htotal (a b : ColumnInfo) : (le a b || le b a) = true := by
    simpa [le] using Int64.le_total a.keyPlace b.keyPlace
  refine ⟨(List.pairwise_mergeSort htrans htotal _).imp of_decide_eq_true, fun place => ?_⟩
  let inKey := columns.filter (·.keyPlace > 0)
  have hequal : (inKey.filter (·.keyPlace = place)).Pairwise fun a b => le a b = true := by
    refine List.pairwise_of_forall_mem_list fun a ha b hb => ?_
    have ha := of_decide_eq_true (List.mem_filter.1 ha).2
    have hb := of_decide_eq_true (List.mem_filter.1 hb).2
    exact decide_eq_true (ha.trans hb.symm ▸ Int64.le_refl _)
  -- The columns of one place are in order already, and a sort keeps their order.
  have hsublist := (List.sublist_mergeSort htrans htotal hequal List.filter_sublist).filter (·.keyPlace = place)
  have hlength := ((List.mergeSort_perm inKey le).filter (·.keyPlace = place)).length_eq
  have htwice : (inKey.filter (·.keyPlace = place)).filter (·.keyPlace = place) =
      inKey.filter (·.keyPlace = place) := by simp
  rw [htwice] at hsublist
  refine (hsublist.eq_of_length hlength.symm).symm.trans (List.filter_filter.trans (List.filter_congr fun c _ => ?_))
  simp [and_comm]

section Sorted

variable {keyed keyed' : List ColumnInfo}

theorem mem_iff_of_filter_keyPlace_eq
    (hplaces : ∀ place : Int64, keyed.filter (·.keyPlace = place) = keyed'.filter (·.keyPlace = place))
    (c : ColumnInfo) : c ∈ keyed ↔ c ∈ keyed' := by
  have hc := congrArg (c ∈ ·) (hplaces c.keyPlace)
  simpa using hc

/-- Sorted columns are told apart by what they hold of each place. -/
theorem eq_of_filter_keyPlace_eq
    (h : keyed.Pairwise fun a b => a.keyPlace ≤ b.keyPlace) (h' : keyed'.Pairwise fun a b => a.keyPlace ≤ b.keyPlace)
    (hplaces : ∀ place : Int64, keyed.filter (·.keyPlace = place) = keyed'.filter (·.keyPlace = place)) :
    keyed = keyed' := by
  have hmem := mem_iff_of_filter_keyPlace_eq hplaces
  induction keyed generalizing keyed' with
  | nil => exact (List.eq_nil_iff_forall_not_mem.2 fun c hc => List.not_mem_nil ((hmem c).2 hc)).symm
  | cons a as ih =>
    cases keyed' with
    | nil => exact absurd ((hmem a).1 List.mem_cons_self) List.not_mem_nil
    | cons b bs =>
      obtain ⟨ha, has⟩ := List.pairwise_cons.1 h
      obtain ⟨hb, hbs⟩ := List.pairwise_cons.1 h'
      -- Each head is among the columns of the other list, so no place is before that of the other.
      have hle : a.keyPlace ≤ b.keyPlace := by
        rcases List.mem_cons.1 ((hmem b).2 List.mem_cons_self) with rfl | hmem
        · exact Int64.le_refl _
        · exact ha b hmem
      have hge : b.keyPlace ≤ a.keyPlace := by
        rcases List.mem_cons.1 ((hmem a).1 List.mem_cons_self) with rfl | hmem
        · exact Int64.le_refl _
        · exact hb a hmem
      have hheads := hplaces a.keyPlace
      rw [List.filter_cons_of_pos (by simp), List.filter_cons_of_pos (by simp [Int64.le_antisymm hge hle])] at hheads
      obtain ⟨rfl, _⟩ := List.cons.inj hheads
      have htails (place : Int64) : as.filter (·.keyPlace = place) = bs.filter (·.keyPlace = place) := by
        have hplace := hplaces place
        by_cases heq : a.keyPlace = place
        · rw [List.filter_cons_of_pos (by simpa using heq), List.filter_cons_of_pos (by simpa using heq)] at hplace
          exact (List.cons.inj hplace).2
        · rw [List.filter_cons_of_neg (by simpa using heq), List.filter_cons_of_neg (by simpa using heq)] at hplace
          exact hplace
      rw [ih has hbs htails (mem_iff_of_filter_keyPlace_eq htails)]

end Sorted

theorem SortsKey.unique {columns keyed keyed' : List ColumnInfo} (h : SortsKey columns keyed)
    (h' : SortsKey columns keyed') : keyed = keyed' :=
  eq_of_filter_keyPlace_eq h.ascending h'.ascending fun place => (h.ofPlace place).trans (h'.ofPlace place).symm

theorem listedKey?_eq (columns : List ColumnInfo) : ∃ keyed, SortsKey columns keyed ∧
    listedKey? columns = if keyed = [] then none else some ⟨"", keyed.map (·.name)⟩ := by
  refine ⟨_, sortsKey_mergeSort columns, ?_⟩
  unfold listedKey?
  simp only [List.isEmpty_iff]

/-! ## Foreign keys by their numbers -/

/-- The numbers of foreign keys, one for each row. -/
def keyIds (rows : List Row) : List Int64 :=
  rows.filterMap (·.int? "id")

/-- The columns that the rows of one number have. -/
def keyColumns (rows : List Row) (id : Int64) : List String :=
  (rows.filter fun r => r.int? "id" = some id).filterMap (·.text? "from")

def keyName (id : Int64) : String :=
  "fk_" ++ Number.intText id

theorem keyName_injective : Function.Injective keyName := by
  intro id id' h
  have htext : toString id.toInt = toString id'.toInt := (String.append_right_inj _).1 h
  have hread := Number.readInt?_toString id.toInt
  rw [htext, Number.readInt?_toString] at hread
  exact Int64.toInt_inj.1 (Option.some.inj hread).symm

theorem foreignKeyRow_eq_ok {r : Row} {row : ConstraintRow} (h : foreignKeyRow r = .ok row) :
    ∃ id, r.int? "id" = some id ∧ r.text? "from" = some row.columnName ∧ row.name = keyName id ∧
      row.type = "FOREIGN KEY" := by
  obtain ⟨id, hid, h⟩ := except_bind_eq_ok.1 h
  obtain ⟨column, hcolumn, h⟩ := except_bind_eq_ok.1 h
  cases h
  refine ⟨id, ?_, Row.text_eq_ok_iff.1 hcolumn, rfl, rfl⟩
  unfold Row.int at hid
  split at hid
  · next hvalue => exact hvalue.trans (congrArg some (Except.ok.inj hid))
  · cases hid

section ForeignKeys

open TableConstraints (namesOf membersOf)

variable {rows : List Row} {keys : List ConstraintRow}

theorem kind_of_foreignKeyRow {r : Row} {row : ConstraintRow} (h : foreignKeyRow r = .ok row) :
    ConstraintKind.ofSpelling? row.type = some .foreignKey := by
  obtain ⟨_, _, _, _, htype⟩ := foreignKeyRow_eq_ok h
  rw [htype]
  decide +kernel

theorem filter_kind_of_keys (h : rows.mapM foreignKeyRow = .ok keys) :
    (keys.filter fun k => ConstraintKind.ofSpelling? k.type = some .foreignKey) = keys :=
  List.filter_eq_self.2 fun k hk =>
    decide_eq_true (forall_mem_of_forall₂ (mapM_eq_ok_iff.1 h) (fun _ _ => kind_of_foreignKeyRow) k hk)

theorem map_name_of_keys (h : rows.mapM foreignKeyRow = .ok keys) : keys.map (·.name) = (keyIds rows).map keyName := by
  induction mapM_eq_ok_iff.1 h with
  | nil => rfl
  | @cons r k rows keys hk hrest ih =>
    obtain ⟨id, hid, _, hname, _⟩ := foreignKeyRow_eq_ok hk
    have hrest := ih (mapM_eq_ok_iff.2 hrest)
    simp [keyIds, hid, hname, hrest]

theorem map_columnName_of_keys (h : rows.mapM foreignKeyRow = .ok keys) (id : Int64) :
    (keys.filter fun k => k.name = keyName id).map (·.columnName) = keyColumns rows id := by
  induction mapM_eq_ok_iff.1 h with
  | nil => rfl
  | @cons r k rows keys hk hrest ih =>
    obtain ⟨own, hid, hcolumn, hname, _⟩ := foreignKeyRow_eq_ok hk
    have hrest := ih (mapM_eq_ok_iff.2 hrest)
    by_cases hsame : own = id
    · simp [keyColumns, hid, hcolumn, hname, hsame, hrest]
    · have hother : keyName own ≠ keyName id := keyName_injective.ne hsame
      simp [keyColumns, hid, hname, hsame, hother, hrest]

theorem foreignKeys_of_keys (h : rows.mapM foreignKeyRow = .ok keys) :
    List.Forall₂ (fun id key => key.name = keyName id ∧ key.columns = (keyColumns rows id).eraseDups)
      (keyIds rows).eraseDups (TableConstraints.ofRows ConstraintKind.ofSpelling? keys).foreignKeys := by
  have hnames : namesOf ConstraintKind.ofSpelling? keys .foreignKey = (keyIds rows).eraseDups.map keyName := by
    rw [namesOf, filter_kind_of_keys h, map_name_of_keys h, eraseDups_map keyName_injective]
  have hmembers (id : Int64) : TableConstraints.columnNames (membersOf ConstraintKind.ofSpelling? keys .foreignKey
      (keyName id)) = (keyColumns rows id).eraseDups := by
    rw [TableConstraints.columnNames_eq, TableConstraints.membersOf_eq, filter_kind_of_keys h,
      map_columnName_of_keys h]
  have hread : (TableConstraints.ofRows ConstraintKind.ofSpelling? keys).foreignKeys =
      (TableConstraints.groupsOf .foreignKey (ConstraintRow.groups ConstraintKind.ofSpelling? keys)).map _ := rfl
  rw [hread, TableConstraints.groupsOf_groups, hnames, List.map_map, List.map_map, List.forall₂_map_right_iff,
    List.forall₂_same]
  exact fun id _ => ⟨rfl, hmembers id⟩

end ForeignKeys

/-! ## All constraints -/

/-- What indexes with their origins, the listing of the table and the rows of foreign keys are put together to. -/
structure IndexListing.Assembles (l : IndexListing) (rows : List Row) (c : TableConstraints) : Prop where
  /-- In the order of the listing, the unique constraints and the unique indexes that a statement created. -/
  uniques : c.uniques = (l.entries.filter fun e =>
    e.info.origin = some "u" ∨ (e.info.origin = some "c" ∧ e.info.unique = true)).map IndexEntry.key
  /-- The last index that is the primary key. -/
  indexed : ∀ e, (l.entries.filter fun e => e.info.origin = some "pk").getLast? = some e → c.primaryKey = some e.key
  /-- If none is, the columns of the listing that are in the key, under no name. -/
  listed : (∀ e ∈ l.entries, e.info.origin ≠ some "pk") → ∃ keyed, SortsKey l.columns keyed ∧
    c.primaryKey = if keyed = [] then none else some ⟨"", keyed.map (·.name)⟩
  foreignKeys : List.Forall₂ (fun id key => key.name = keyName id ∧ key.columns = (keyColumns rows id).eraseDups)
    (keyIds rows).eraseDups c.foreignKeys
  checks : c.checks = []

theorem IndexListing.assembles (hreported : ∀ e ∈ l.entries, e.info.origin.isSome) {rows : List Row}
    {keys : List ConstraintRow} (h : rows.mapM foreignKeyRow = .ok keys) :
    l.Assembles rows { l.constraints with
      foreignKeys := (TableConstraints.ofRows ConstraintKind.ofSpelling? keys).foreignKeys } := by
  have hkeys : l.entries.filter (·.isKey l.columns) = l.entries.filter fun e => e.info.origin = some "pk" :=
    List.filter_congr fun e he => by rw [IndexEntry.isKey_eq (hreported e he), beq_eq_decide]
  constructor
  case uniques =>
    refine congrArg (List.map IndexEntry.key) (List.filter_congr fun e he => ?_)
    obtain ⟨reported, hreported⟩ := Option.isSome_iff_exists.1 (hreported e he)
    simp [IndexEntry.isUnique, IndexEntry.origin_eq hreported, hreported]
  case indexed =>
    intro e he
    rw [← hkeys] at he
    simp [constraints, he]
  case listed =>
    intro hnone
    have hempty : l.entries.filter (·.isKey l.columns) = [] := by
      rw [hkeys]
      exact List.filter_eq_nil_iff.2 fun e he => by simpa using hnone e he
    obtain ⟨keyed, hsorts, hlisted⟩ := listedKey?_eq l.columns
    refine ⟨keyed, hsorts, ?_⟩
    simp [constraints, hempty, hlisted]
  case foreignKeys => exact foreignKeys_of_keys h
  case checks => rfl

theorem withForeignKeys_eq_ok_iff {start : TableConstraints} :
    withForeignKeys table start db calls = (.ok c, calls') ↔ ∃ rows keys,
      db.query calls (foreignKeysCall table) = .ok rows ∧ rows.mapM foreignKeyRow = .ok keys ∧
        calls' = calls ++ [foreignKeysCall table] ∧
        c = { start with foreignKeys := (TableConstraints.ofRows ConstraintKind.ofSpelling? keys).foreignKeys } := by
  rw [withForeignKeys_eq, Prod.mk.injEq, except_map_eq_ok]
  simp only [except_mapError_eq_ok, inContext_eq_ok, except_bind_eq_ok]
  constructor
  · rintro ⟨⟨keys, ⟨rows, hrows, hread⟩, rfl⟩, rfl⟩
    exact ⟨rows, keys, hrows, hread, rfl, rfl⟩
  · rintro ⟨rows, keys, hrows, hread, rfl, rfl⟩
    exact ⟨⟨keys, ⟨rows, hrows, hread⟩, rfl⟩, rfl⟩

theorem length_early_append_late_le (l : IndexListing) (table : String) :
    (l.early table ++ l.late table).length ≤ 1 := by
  unfold IndexListing.early IndexListing.late
  cases l.entries.any (·.info.origin.isNone) with
  | true => simp
  | false => cases l.entries.any (·.info.origin == some "pk") <;> simp

/-- A database shows all that a load of constraints asks for, with rows of foreign keys that can be read. -/
def IndexListing.IsShownWith (l : IndexListing) (rows : List Row) (db : Connection) (table : String)
    (calls : List Call) : Prop :=
  l.IsShown db table calls ∧ Except.ok rows = db.query (calls ++ l.asked table) (foreignKeysCall table) ∧
    ∃ keys, rows.mapM foreignKeyRow = .ok keys

theorem loadConstraints_of_isShownWith {rows : List Row} (h : l.IsShownWith rows db table calls) :
    ∃ c, loadConstraints table db calls = (.ok c, calls ++ l.asked table ++ [foreignKeysCall table]) ∧
      ((∀ e ∈ l.entries, e.info.origin.isSome) → l.Assembles rows c) := by
  obtain ⟨hshown, hrows, keys, hread⟩ := h
  refine ⟨_, ?_, fun hreported => l.assembles hreported hread⟩
  rw [loadConstraints_of_isShown hshown]
  exact withForeignKeys_eq_ok_iff.2 ⟨rows, keys, hrows.symm, hread, rfl, rfl⟩

/-- A load of constraints succeeds if all that it asks for is shown, and only then. It asks for the columns of each
index once, in their order, and for the listing of the table at most once. Where all origins are reported, the
constraints are put together from the indexes, the listing and the rows of foreign keys. -/
theorem loadConstraints_assembles (table : String) (db : Connection) (calls : List Call) :
    (∀ (l : IndexListing) (rows : List Row), l.IsShownWith rows db table calls →
      ∃ c, loadConstraints table db calls = (.ok c, calls ++ l.asked table ++ [foreignKeysCall table]) ∧
        ((∀ e ∈ l.entries, e.info.origin.isSome) → l.Assembles rows c)) ∧
      (∀ c calls', loadConstraints table db calls = (.ok c, calls') →
        ∃ (l : IndexListing) (rows : List Row), l.IsShownWith rows db table calls ∧
          calls' = calls ++ l.asked table ++ [foreignKeysCall table] ∧
          ((∀ e ∈ l.entries, e.info.origin.isSome) → l.Assembles rows c)) ∧
      ∀ l : IndexListing, (l.early table ++ l.late table).length ≤ 1 := by
  refine ⟨fun l rows => loadConstraints_of_isShownWith, fun c calls' h => ?_, fun l =>
    length_early_append_late_le l table⟩
  obtain ⟨l, hshown⟩ := isShown_of_loadConstraints h
  have hkeys := h
  rw [loadConstraints_of_isShown hshown] at hkeys
  obtain ⟨rows, keys, hrows, hread, rfl, _⟩ := withForeignKeys_eq_ok_iff.1 hkeys
  have hall : l.IsShownWith rows db table calls := ⟨hshown, hrows.symm, keys, hread⟩
  obtain ⟨c', hload, hassembles⟩ := loadConstraints_of_isShownWith hall
  cases h.symm.trans hload
  exact ⟨l, rows, hall, rfl, hassembles⟩

/-- A key whose columns stand in another order than in the table and have no index, a unique constraint, a unique index
and a plain one, and two foreign keys whose rows are mixed. -/
theorem loadConstraints_assembles_of_composite_key :
    let column (cid : Int64) (name : String) (place : Int64) : Row :=
      ⟨[("cid", .int cid), ("name", .text name), ("type", .text "text"), ("pk", .int place)]⟩
    let index (name : String) (unique : Int64) (origin : String) : Row :=
      ⟨[("name", .text name), ("unique", .int unique), ("origin", .text origin)]⟩
    let part (cid : Int64) (name : String) : Row := ⟨[("cid", .int cid), ("name", .text name)]⟩
    let pair (id : Int64) (column : String) : Row := ⟨[("id", .int id), ("from", .text column)]⟩
    let script : List (List Row) := [
      [index "sqlite_autoindex_t_1" 1 "u", index "plain" 0 "c", index "reversed" 1 "c"],
      [part 2 "c"], [part 0 "a"], [part 0 "a", part 1 "b"],
      [column 0 "a" 2, column 1 "b" 1, column 2 "c" 0],
      [pair 1 "c", pair 0 "b", pair 1 "a"]]
    let inTurn : Connection := ⟨fun _ _ => .ok (), fun calls _ => .ok (script[calls.length]?.getD [])⟩
    ∃ c calls', loadConstraints "t" inTurn [] = (.ok c, calls') ∧
      c.uniques = [⟨"sqlite_autoindex_t_1", ["c"]⟩, ⟨"reversed", ["a", "b"]⟩] ∧
      c.primaryKey = some ⟨"", ["b", "a"]⟩ ∧
      c.foreignKeys.map (fun key => (key.name, key.columns)) = [("fk_1", ["c", "a"]), ("fk_0", ["b"])] := by
  intro column index part pair script inTurn
  let columns : List ColumnInfo := [⟨0, "a", "text", false, none, 2⟩, ⟨1, "b", "text", false, none, 1⟩,
    ⟨2, "c", "text", false, none, 0⟩]
  let l : IndexListing := ⟨[⟨⟨"sqlite_autoindex_t_1", true, some "u"⟩, [⟨2, "c"⟩]⟩,
    ⟨⟨"plain", false, some "c"⟩, [⟨0, "a"⟩]⟩, ⟨⟨"reversed", true, some "c"⟩, [⟨0, "a"⟩, ⟨1, "b"⟩]⟩], columns⟩
  have hshown : l.IsShown inTurn "t" [] := by
    constructor
    case indexes => exact ⟨_, rfl, by decide +kernel⟩
    case early => exact fun hne => absurd rfl hne
    case parts => exact ⟨⟨_, rfl, by decide +kernel⟩, ⟨_, rfl, by decide +kernel⟩, ⟨_, rfl, by decide +kernel⟩, trivial⟩
    case late => exact fun _ => ⟨_, rfl, by decide +kernel⟩
  let pairs : List Row := [pair 1 "c", pair 0 "b", pair 1 "a"]
  have hread : ∃ keys, pairs.mapM foreignKeyRow = .ok keys := by
    have hok : (pairs.mapM foreignKeyRow).isOk = true := by decide +kernel
    cases hkeys : pairs.mapM foreignKeyRow with
    | ok keys => exact ⟨keys, rfl⟩
    | error e => cases hkeys ▸ hok
  obtain ⟨c, hload, hassembles⟩ := (loadConstraints_assembles "t" inTurn []).1 l pairs ⟨hshown, rfl, hread⟩
  have hall := hassembles (by decide)
  obtain ⟨keyed, hkeyed, hkey⟩ := hall.listed (by decide)
  have hsorted : SortsKey columns [⟨1, "b", "text", false, none, 1⟩, ⟨0, "a", "text", false, none, 2⟩] := by
    refine ⟨by decide, fun place => ?_⟩
    by_cases hfirst : 1 = place
    · subst hfirst
      decide
    · by_cases hsecond : 2 = place
      · subst hsecond
        decide
      · simp [columns, hfirst, hsecond]
  obtain rfl := hkeyed.unique hsorted
  have hids : (keyIds pairs).eraseDups = [1, 0] := by decide +kernel
  have hkeys := hids ▸ hall.foreignKeys
  obtain ⟨first, others, ⟨hname, hcolumns⟩, hothers, hsplit⟩ := List.forall₂_cons_left_iff.1 hkeys
  obtain ⟨second, none, ⟨hname', hcolumns'⟩, hnone, rfl⟩ := List.forall₂_cons_left_iff.1 hothers
  obtain rfl := List.forall₂_nil_left_iff.1 hnone
  refine ⟨c, _, hload, hall.uniques, hkey, ?_⟩
  rw [hsplit, List.map_cons, List.map_cons, List.map_nil, hname, hcolumns, hname', hcolumns']
  decide +kernel

end SqlDialects.Catalog.Sqlite
