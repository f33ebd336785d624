import SqlDialects.Proofs.Catalog.ConstraintGroups

/-! # What constraints are read from their rows

One constraint is read from the rows of each name, with its columns in the order in which they first appear. The
two column lists of a foreign key are read each for itself. They fit each other where the rows have one pair of
columns each, and also where they have all combinations of the columns of two lists.
-/

namespace SqlDialects

variable {α : Type}

/-! ## Each name once -/

theorem filter_eraseDups [DecidableEq α] (p : α → Bool) (xs : List α) :
    xs.eraseDups.filter p = (xs.filter p).eraseDups := by
  induction xs using List.reverseRecOn with
  | nil => rfl
  | append_singleton xs x ih =>
    rw [List.filter_append, eraseDups_append_singleton]
    by_cases hp : p x = true
    · have hone : [x].filter p = [x] := by simp [hp]
      have hmem : x ∈ xs.filter p ↔ x ∈ xs := by simp [hp]
      rw [hone, eraseDups_append_singleton]
      by_cases hx : x ∈ xs
      · rw [if_pos hx, if_pos (hmem.2 hx), ih]
      · rw [if_neg hx, if_neg (mt hmem.1 hx), List.filter_append, hone, ih]
    · have hnone : [x].filter p = [] := by simp [hp]
      rw [hnone, List.append_nil, ← ih]
      split
      · rfl
      · rw [List.filter_append, hnone, List.append_nil]

theorem distinct_eq_eraseDups (names : List String) : distinct names = names.eraseDups := by
  induction names with
  | nil => rfl
  | cons name names ih =>
    have hothers : (names.filter fun other => other != name) = names.filter fun other => !other == name := rfl
    rw [distinct, ih, filter_eraseDups, List.eraseDups_cons, hothers]

theorem eraseDups_of_nodup [DecidableEq α] {xs : List α} (h : xs.Nodup) : xs.eraseDups = xs := by
  induction xs using List.reverseRecOn with
  | nil => rfl
  | append_singleton xs x ih =>
    obtain ⟨hxs, _, hdisjoint⟩ := List.nodup_append.1 h
    have hx : x ∉ xs := fun hx => hdisjoint x hx x List.mem_cons_self rfl
    rw [eraseDups_append_singleton, if_neg hx, ih hxs]

theorem eraseDups_map {β : Type} [DecidableEq α] [DecidableEq β] {f : α → β} (hf : Function.Injective f)
    (xs : List α) : (xs.map f).eraseDups = xs.eraseDups.map f := by
  induction xs using List.reverseRecOn with
  | nil => rfl
  | append_singleton xs x ih =>
    have hmem : f x ∈ xs.map f ↔ x ∈ xs := List.mem_map_of_injective hf
    rw [List.map_append, List.map_singleton, eraseDups_append_singleton, eraseDups_append_singleton, ih]
    by_cases hx : x ∈ xs
    · rw [if_pos hx, if_pos (hmem.2 hx)]
    · rw [if_neg hx, if_neg (mt hmem.1 hx), List.map_append, List.map_singleton]

theorem eraseDups_append_of_subset [DecidableEq α] {xs ys : List α} (h : ys ⊆ xs) :
    (xs ++ ys).eraseDups = xs.eraseDups := by
  have hnone : ys.removeAll xs = [] := List.filter_eq_nil_iff.2 fun y hy => by simp [h hy]
  rw [List.eraseDups_append, hnone, List.eraseDups_nil, List.append_nil]

theorem eraseDups_append_of_disjoint [DecidableEq α] {xs ys : List α} (h : xs.Disjoint ys) :
    (xs ++ ys).eraseDups = xs.eraseDups ++ ys.eraseDups := by
  have hall : ys.removeAll xs = ys := List.filter_eq_self.2 fun y hy => by simpa using fun hx => h hx hy
  rw [List.eraseDups_append, hall]

theorem eraseDups_replicate [DecidableEq α] (x : α) {n : Nat} (h : n ≠ 0) : (List.replicate n x).eraseDups = [x] := by
  obtain ⟨n, rfl⟩ := Nat.exists_eq_succ_of_ne_zero h
  have hsubset : List.replicate n x ⊆ [x] := fun y hy => by simp [List.eq_of_mem_replicate hy]
  exact eraseDups_append_of_subset hsubset

/-- Of repeated members each one stays once. -/
theorem eraseDups_flatMap_replicate [DecidableEq α] {xs : List α} (h : xs.Nodup) {n : Nat} (hn : n ≠ 0) :
    (xs.flatMap (List.replicate n)).eraseDups = xs := by
  induction xs with
  | nil => rfl
  | cons x xs ih =>
    obtain ⟨hx, hxs⟩ := List.nodup_cons.1 h
    have hdisjoint : (List.replicate n x).Disjoint (xs.flatMap (List.replicate n)) := by
      intro y hy hin
      obtain ⟨z, hz, hyz⟩ := List.mem_flatMap.1 hin
      obtain rfl : y = x := List.eq_of_mem_replicate hy
      exact hx (List.eq_of_mem_replicate hyz ▸ hz)
    rw [List.flatMap_cons, eraseDups_append_of_disjoint hdisjoint, eraseDups_replicate x hn, ih hxs]
    rfl

/-- A list that is repeated stays once. -/
theorem eraseDups_flatMap_const [DecidableEq α] {β : Type} {xs : List α} (h : xs.Nodup) {ys : List β} (hys : ys ≠ []) :
    (ys.flatMap fun _ => xs).eraseDups = xs := by
  obtain ⟨y, ys, rfl⟩ := List.exists_cons_of_ne_nil hys
  have hsubset : (ys.flatMap fun _ => xs) ⊆ xs := fun x hx => (List.mem_flatMap.1 hx).choose_spec.2
  rw [List.flatMap_cons, eraseDups_append_of_subset hsubset, eraseDups_of_nodup h]

/-! ## The columns of a constraint -/

/-- The rows of one constraint have each of the columns once, in the order in which they first appear. -/
def ConstraintRow.HasColumns (items : List ConstraintRow) (columns : List String) : Prop :=
  columns = (items.map (·.columnName)).eraseDups ∧ columns ≠ []

/-- The rows of a foreign key have pairs of columns: one pair each, or in all combinations of the one list with the
other, row by row. -/
inductive ConstraintRow.HasPairs (items : List ConstraintRow) (columns foreignColumns : List String) : Prop
  | one (h : items.map (fun r => (r.columnName, r.foreignColumn)) =
      (columns.zip foreignColumns).map fun pair => (pair.1, some pair.2))
  | crossed (h : items.map (fun r => (r.columnName, r.foreignColumn)) =
      columns.flatMap fun column => foreignColumns.map fun other => (column, some other))

/-- Two lists of columns to be paired by their places. -/
structure PairableColumns (columns foreignColumns : List String) : Prop where
  length_eq : columns.length = foreignColumns.length
  nodup : columns.Nodup
  nodup_foreign : foreignColumns.Nodup
  named : "" ∉ foreignColumns

/-- A primary key or a unique constraint, as it is read from its name and its rows. -/
structure KeyConstraint.IsReadFrom (name : String) (items : List ConstraintRow) (key : KeyConstraint) : Prop where
  name : key.name = name
  columns : ConstraintRow.HasColumns items key.columns

structure CheckConstraint.IsReadFrom (name : String) (items : List ConstraintRow) (check : CheckConstraint) : Prop where
  name : check.name = name
  columns : ConstraintRow.HasColumns items check.columns

/-- A foreign key, as it is read from its name and its rows. -/
structure ForeignKey.IsReadFrom (name : String) (items : List ConstraintRow) (key : ForeignKey) : Prop where
  name : key.name = name
  columns : ConstraintRow.HasColumns items key.columns
  pairs : ∀ columns foreignColumns, PairableColumns columns foreignColumns →
    ConstraintRow.HasPairs items columns foreignColumns → key.columns = columns ∧ key.foreignColumns = foreignColumns

namespace TableConstraints
open ConstraintRow

theorem columnNames_eq (items : List ConstraintRow) : columnNames items = (items.map (·.columnName)).eraseDups :=
  distinct_eq_eraseDups _

theorem hasColumns_columnNames {items : List ConstraintRow} (h : items ≠ []) :
    HasColumns items (columnNames items) := by
  refine ⟨columnNames_eq items, ?_⟩
  obtain ⟨r, rest, rfl⟩ := List.exists_cons_of_ne_nil h
  rw [columnNames_eq]
  exact List.ne_nil_of_mem (List.mem_eraseDups.2 List.mem_cons_self)

/-- Where all rows refer to a column with a name, no row is passed over. -/
theorem foreignColumnNames_eq {items : List ConstraintRow} {names : List String}
    (h : items.map (·.foreignColumn) = names.map some) (hnamed : "" ∉ names) :
    foreignColumnNames items = names.eraseDups := by
  have hgiven : items.filterMap (·.foreignColumn) = names := by
    have := congrArg (List.filterMap id) h
    simpa [List.filterMap_map] using this
  have hkept : names.filter (!·.isEmpty) = names :=
    List.filter_eq_self.2 fun name hname => by
      have hne : name ≠ "" := ne_of_mem_of_not_mem hname hnamed
      simpa [String.isEmpty_iff] using hne
  rw [foreignColumnNames, hgiven, hkept, distinct_eq_eraseDups]

theorem names_of_hasPairs {items : List ConstraintRow} {columns foreignColumns : List String} (hne : items ≠ [])
    (h : PairableColumns columns foreignColumns) (hpairs : HasPairs items columns foreignColumns) :
    columnNames items = columns ∧ foreignColumnNames items = foreignColumns := by
  have hsplit {pairs : List (String × Option String)}
      (hmap : items.map (fun r => (r.columnName, r.foreignColumn)) = pairs) :
      items.map (·.columnName) = pairs.map Prod.fst ∧ items.map (·.foreignColumn) = pairs.map Prod.snd := by
    subst hmap
    simp [Function.comp_def]
  cases hpairs with
  | one hmap =>
    obtain ⟨hcolumns, hforeign⟩ := hsplit hmap
    have hfst : (columns.zip foreignColumns).map Prod.fst = columns := List.map_fst_zip h.length_eq.le
    have hsnd : (columns.zip foreignColumns).map Prod.snd = foreignColumns := List.map_snd_zip h.length_eq.ge
    have hcolumns : items.map (·.columnName) = columns := by simpa [Function.comp_def, hfst] using hcolumns
    have hforeign : items.map (·.foreignColumn) = foreignColumns.map some := by
      rw [hforeign, List.map_map]
      exact (List.map_map (g := some) (f := Prod.snd)).symm.trans (congrArg (List.map some) hsnd)
    rw [columnNames_eq, hcolumns, foreignColumnNames_eq hforeign h.named]
    exact ⟨eraseDups_of_nodup h.nodup, eraseDups_of_nodup h.nodup_foreign⟩
  | crossed hmap =>
    obtain ⟨hcolumns, hforeign⟩ := hsplit hmap
    have hcolumns : items.map (·.columnName) = columns.flatMap (List.replicate foreignColumns.length) := by
      simpa [List.map_flatMap, Function.comp_def] using hcolumns
    have hforeign : items.map (·.foreignColumn) = (columns.flatMap fun _ => foreignColumns).map some := by
      simpa [List.map_flatMap, Function.comp_def] using hforeign
    have hsome : columns ≠ [] := by
      rintro rfl
      exact hne (List.map_eq_nil_iff.1 hmap)
    have hlength : foreignColumns.length ≠ 0 := h.length_eq ▸ mt List.length_eq_zero_iff.1 hsome
    have hnamed : "" ∉ columns.flatMap fun _ => foreignColumns := by simp [h.named]
    rw [columnNames_eq, hcolumns, foreignColumnNames_eq hforeign hnamed]
    exact ⟨eraseDups_flatMap_replicate h.nodup hlength, eraseDups_flatMap_const h.nodup_foreign hsome⟩

/-! ## One constraint for each group -/

variable {kindOf : String → Option ConstraintKind} {rows : List ConstraintRow} {γ : Type}

/-- The names that rows of a kind have, in the order in which they first appear. -/
def namesOf (kindOf : String → Option ConstraintKind) (rows : List ConstraintRow) (kind : ConstraintKind) :
    List String :=
  ((rows.filter fun r => kindOf r.type = some kind).map (·.name)).eraseDups

/-- The rows of one constraint, in their order. -/
def membersOf (kindOf : String → Option ConstraintKind) (rows : List ConstraintRow) (kind : ConstraintKind)
    (name : String) : List ConstraintRow :=
  rows.filter fun r => kindOf r.type = some kind ∧ r.name = name

theorem membersOf_eq (kindOf : String → Option ConstraintKind) (rows : List ConstraintRow) (kind : ConstraintKind)
    (name : String) : membersOf kindOf rows kind name =
      (rows.filter fun r => kindOf r.type = some kind).filter fun r => r.name = name := by
  rw [List.filter_filter, membersOf]
  refine List.filter_congr fun r _ => ?_
  simp [and_comm]

theorem membersOf_ne_nil {kind : ConstraintKind} {name : String} (h : name ∈ namesOf kindOf rows kind) :
    membersOf kindOf rows kind name ≠ [] := by
  obtain ⟨r, hr, rfl⟩ := List.mem_map.1 (List.mem_eraseDups.1 h)
  obtain ⟨hr, hkind⟩ := List.mem_filter.1 hr
  exact List.ne_nil_of_mem (List.mem_filter.2 ⟨hr, by simpa using hkind⟩)

theorem groupsOf_groups (kindOf : String → Option ConstraintKind) (rows : List ConstraintRow) (kind : ConstraintKind) :
    groupsOf kind (groups kindOf rows) =
      (namesOf kindOf rows kind).map fun name => (name, membersOf kindOf rows kind name) := by
  have hgroup : groupByKey ConstraintRow.name (rows.filter fun r => kindOf r.type = some kind) =
      (namesOf kindOf rows kind).map fun name => (name, membersOf kindOf rows kind name) := by
    rw [groupByKey_eq]
    exact List.map_congr_left fun name _ => by rw [membersOf_eq]
  rw [groupsOf, groups_eq, List.filter_map, List.flatMap_map, ← hgroup]
  have hkinds : ((rows.filterMap fun r => kindOf r.type).eraseDups.filter fun k => k == kind) =
      if kind ∈ rows.filterMap fun r => kindOf r.type then [kind] else [] := by
    rw [List.filter_beq]
    split
    · next h =>
      rw [List.count_eq_one_of_mem (nodup_eraseDups _) (List.mem_eraseDups.2 h)]
      rfl
    · next h =>
      rw [List.count_eq_zero_of_not_mem (mt List.mem_eraseDups.1 h)]
      rfl
  change ((rows.filterMap fun r => kindOf r.type).eraseDups.filter fun k => k == kind).flatMap _ = _
  rw [hkinds]
  split
  · simp
  · next h =>
    have hnone : (rows.filter fun r => kindOf r.type = some kind) = [] :=
      List.filter_eq_nil_iff.2 fun r hr hkind =>
        h (List.mem_filterMap.2 ⟨r, hr, of_decide_eq_true hkind⟩)
    rw [hnone]
    rfl

/-- One thing is read for each constraint of a kind, in the order in which their names first appear. -/
def OneForEach (kindOf : String → Option ConstraintKind) (rows : List ConstraintRow) (kind : ConstraintKind)
    (reads : String → List ConstraintRow → γ → Prop) (all : List γ) : Prop :=
  List.Forall₂ (fun name one => reads name (membersOf kindOf rows kind name) one) (namesOf kindOf rows kind) all

theorem oneForEach_map {kind : ConstraintKind} {reads : String → List ConstraintRow → γ → Prop}
    {read : String × List ConstraintRow → γ} (h : ∀ name items, items ≠ [] → reads name items (read (name, items))) :
    OneForEach kindOf rows kind reads ((groupsOf kind (groups kindOf rows)).map read) := by
  rw [OneForEach, groupsOf_groups, List.map_map, List.forall₂_map_right_iff, List.forall₂_same]
  exact fun name hname => h name _ (membersOf_ne_nil hname)

/-- The constraints that are read from rows, where `kindOf` tells the known kinds. -/
structure IsReadFrom (kindOf : String → Option ConstraintKind) (rows : List ConstraintRow) (c : TableConstraints) :
    Prop where
  uniques : OneForEach kindOf rows .unique KeyConstraint.IsReadFrom c.uniques
  checks : OneForEach kindOf rows .check CheckConstraint.IsReadFrom c.checks
  foreignKeys : OneForEach kindOf rows .foreignKey ForeignKey.IsReadFrom c.foreignKeys
  /-- Of several primary keys the last one counts. -/
  primaryKey : ∃ keys, OneForEach kindOf rows .primaryKey KeyConstraint.IsReadFrom keys ∧ c.primaryKey = keys.getLast?
  isSome_primaryKey : c.primaryKey.isSome ↔ ∃ r ∈ rows, kindOf r.type = some .primaryKey

theorem isReadFrom_key {name : String} {items : List ConstraintRow} (h : items ≠ []) :
    KeyConstraint.IsReadFrom name items ⟨name, columnNames items⟩ :=
  ⟨rfl, hasColumns_columnNames h⟩

theorem isSome_primaryKey_iff : (ofRows kindOf rows).primaryKey.isSome ↔
    ∃ r ∈ rows, kindOf r.type = some .primaryKey := by
  have hkey : (ofRows kindOf rows).primaryKey = ((groupsOf .primaryKey (groups kindOf rows)).map
      fun group => (⟨group.1, columnNames group.2⟩ : KeyConstraint)).getLast? := rfl
  rw [hkey, groupsOf_groups, List.map_map, List.getLast?_isSome, Ne, List.map_eq_nil_iff, ← Ne]
  constructor
  · intro h
    obtain ⟨name, hname⟩ := List.exists_mem_of_ne_nil _ h
    obtain ⟨r, hr, _⟩ := List.mem_map.1 (List.mem_eraseDups.1 hname)
    obtain ⟨hr, hkind⟩ := List.mem_filter.1 hr
    exact ⟨r, hr, of_decide_eq_true hkind⟩
  · rintro ⟨r, hr, hkind⟩
    have hmem : r ∈ rows.filter fun r => kindOf r.type = some .primaryKey :=
      List.mem_filter.2 ⟨hr, by simpa using hkind⟩
    exact List.ne_nil_of_mem (List.mem_eraseDups.2 (List.mem_map_of_mem hmem))

/-- What is read from rows is read group by group. -/
theorem ofRows_isReadFrom (kindOf : String → Option ConstraintKind) (rows : List ConstraintRow) :
    (∀ kind, groupsOf kind (groups kindOf rows) =
        (namesOf kindOf rows kind).map fun name => (name, membersOf kindOf rows kind name)) ∧
      (ofRows kindOf rows).IsReadFrom kindOf rows := by
  refine ⟨groupsOf_groups kindOf rows, ?_⟩
  exact {
    uniques := oneForEach_map fun name items => isReadFrom_key
    checks := oneForEach_map fun name items h => ⟨rfl, hasColumns_columnNames h⟩
    foreignKeys := oneForEach_map fun name items h =>
      ⟨rfl, hasColumns_columnNames h, fun columns foreignColumns => names_of_hasPairs h⟩
    primaryKey := ⟨_, oneForEach_map fun name items => isReadFrom_key, rfl⟩
    isSome_primaryKey := isSome_primaryKey_iff }

/-- A catalog that joins the two column lists of a key, and one that numbers the pairs. -/
theorem ofRows_isReadFrom_of_joined_and_numbered :
    let row (name column other : String) : ConstraintRow :=
      { name := name, columnName := column, type := "f", foreignColumn := some other }
    let rows := [row "joined" "a1" "f1", row "joined" "a1" "f2", row "numbered" "b2" "g1", row "joined" "a2" "f1",
      row "joined" "a2" "f2", row "numbered" "b1" "g2"]
    ∃ joined numbered, (ofRows Catalog.Postgres.constraintKind? rows).foreignKeys = [joined, numbered] ∧
      joined.columns = ["a1", "a2"] ∧ joined.foreignColumns = ["f1", "f2"] ∧
      numbered.columns = ["b2", "b1"] ∧ numbered.foreignColumns = ["g1", "g2"] := by
  intro row rows
  obtain ⟨_, hread⟩ := ofRows_isReadFrom Catalog.Postgres.constraintKind? rows
  have hnames : namesOf Catalog.Postgres.constraintKind? rows .foreignKey = ["joined", "numbered"] := by decide
  have hkeys := hread.foreignKeys
  rw [OneForEach, hnames] at hkeys
  obtain ⟨joined, _, hjoined, hrest, hall⟩ := List.forall₂_cons_left_iff.1 hkeys
  obtain ⟨numbered, _, hnumbered, hnone, rfl⟩ := List.forall₂_cons_left_iff.1 hrest
  obtain rfl := List.forall₂_nil_left_iff.1 hnone
  obtain ⟨hcolumns, hforeign⟩ := hjoined.pairs ["a1", "a2"] ["f1", "f2"]
    ⟨rfl, by decide, by decide, by decide⟩ (.crossed (by decide))
  obtain ⟨hcolumns', hforeign'⟩ := hnumbered.pairs ["b2", "b1"] ["g1", "g2"]
    ⟨rfl, by decide, by decide, by decide⟩ (.one (by decide))
  exact ⟨joined, numbered, hall, hcolumns, hforeign, hcolumns', hforeign'⟩

end TableConstraints
end SqlDialects
