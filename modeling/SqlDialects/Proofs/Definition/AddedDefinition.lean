import SqlDialects.Definition.Alteration
import SqlDialects.Proofs.Catalog.CreatedTable
import SqlDialects.Proofs.Definition.RestatedDefault
import SqlDialects.Proofs.Definition.SaidModifiers

/-! # Columns that are added and columns that are created

The definition of a column in an addition beside the one in the creation of its table. MySQL writes the same in both.
PostgreSQL leaves the collation and the expression of a computed column out of additions. SQLite marks every added
column that counts up as the key, but in a creation only the one that is the whole key. -/

namespace SqlDialects

/-- The columns that a statement defines. -/
def Statement.definitions : Statement → List ColumnDefinition
  | createTable _ _ columns _ _ => columns
  | alterTable _ _ alterations => alterations.filterMap fun
    | .addColumn definition => some definition
    | _ => none
  | _ => []

def Modifier.saysNull : Modifier → Bool
  | null => true
  | _ => false

/-- All that stands after the name of a column, except that a definition may leave out that null is allowed. -/
structure ColumnDefinition.SameButNull (added created : ColumnDefinition) : Prop where
  type : added.type = created.type
  modifiers : added.modifiers = created.modifiers ∨ added.modifiers = created.modifiers.filter (!·.saysNull)

/-- What a column must be like for an addition to define it as the creation of its table does. -/
def Table.DefinesAlike (d : Dialect) (t : Table) (c : TableColumn) : Prop :=
  match d with
  | .mysql => True
  | .postgres => c.collation = none ∧ c.virtualAs = none ∧ c.storedAs = none
  | .sqlite => c.countsUp = true → t.countingKey? = some c.name

theorem ColumnDefinition.SameButNull.mem_iff {added created : ColumnDefinition} {m : Modifier}
    (h : added.SameButNull created) (hm : m.saysNull = false) : m ∈ added.modifiers ↔ m ∈ created.modifiers := by
  obtain h | h := h.modifiers <;> simp [h, hm]

/-- Where names are distinct, a name is that of one member only. -/
theorem filter_name_eq_singleton {α : Type} {f : α → String} {l : List α} {a : α} (hnames : (l.map f).Nodup)
    (ha : a ∈ l) : l.filter (f · == f a) = [a] := by
  induction l with
  | nil => cases ha
  | cons b l ih =>
    obtain ⟨hb, hnames⟩ := List.nodup_cons.1 hnames
    obtain rfl | ha := List.mem_cons.1 ha
    · have hrest : l.filter (f · == f a) = [] := by
        refine List.filter_eq_nil_iff.2 fun x hx heq => hb ?_
        exact List.mem_map.2 ⟨x, hx, beq_iff_eq.1 heq⟩
      rw [List.filter_cons_of_pos (by simp), hrest]
    · have hne : f b ≠ f a := fun heq => hb (List.mem_map.2 ⟨a, ha, heq.symm⟩)
      rw [List.filter_cons_of_neg (by simp [hne]), ih hnames ha]

namespace Table

variable {t : Table} {c : TableColumn} {d : Dialect}

theorem column?_of_mem (hnames : (t.columns.map (·.name)).Nodup) (hc : c ∈ t.columns) :
    t.column? c.name = some c := by
  rw [column?, ← List.head?_filter, filter_name_eq_singleton (f := fun c : TableColumn => c.name) hnames hc]
  rfl

/-- The column that SQLite marks in a creation counts up. -/
theorem countsUp_of_countingKey? (hnames : (t.columns.map (·.name)).Nodup) (hc : c ∈ t.columns)
    (h : t.countingKey? = some c.name) : c.countsUp = true := by
  obtain ⟨key, hkey, hname⟩ := Option.map_eq_some_iff.1 h
  obtain ⟨hmem, hcounts⟩ := List.mem_filter.1 (List.mem_of_find?_eq_some hkey)
  obtain rfl : key = c := List.inj_on_of_nodup_map hnames hmem hc hname
  exact hcounts

theorem definitionIn_eq_ok {created : ColumnDefinition} (h : t.definitionIn d c = .ok created) :
    ColumnType.ofColumn d c.toColumn = .ok created.type ∧ created.name = c.name ∧
      created.modifiers = Modifier.ofColumn d c.toColumn ++
        if d = .sqlite && t.countingKey? == some c.name then [.countingKey] else [] := by
  obtain ⟨definition, hdefinition, rfl⟩ := except_map_eq_ok.1 h
  obtain ⟨type, htype, rfl⟩ := except_map_eq_ok.1 hdefinition
  cases d = .sqlite && t.countingKey? == some c.name <;> simp [ColumnDefinition.asCountingKey, htype]

theorem addedDefinition_eq_ok {added : ColumnDefinition} (h : addedDefinition d c.toColumn = .ok added) :
    ColumnType.ofColumn d c.toColumn = .ok added.type ∧ added.name = c.name ∧
      added.modifiers = addedModifiers d c.toColumn ++
        if d = .sqlite && c.countsUp then [.countingKey] else [] := by
  obtain ⟨type, htype, rfl⟩ := except_map_eq_ok.1 h
  cases d = .sqlite && c.countsUp <;> simp [ColumnDefinition.asCountingKey, htype]

/-- The creation of a table with distinct columns defines each of them once. -/
theorem definitions_create {creation : List Statement} (hnames : (t.columns.map (·.name)).Nodup)
    (hc : c ∈ t.columns) (h : t.create d = .ok creation) : ∃ created, t.definitionIn d c = .ok created ∧
      (creation.flatMap Statement.definitions).filter (·.name == c.name) = [created] := by
  obtain ⟨definitions, hdefinitions, h⟩ := except_bind_eq_ok.1 h
  have hall := mapM_eq_ok_iff.1 hdefinitions
  have hcomments : (t.creationComments d).flatMap Statement.definitions = [] := by
    cases d with
    | postgres =>
      rw [creationComments, List.flatMap_append, flatMap_commentsOn fun _ _ _ => rfl]
      cases t.comment <;> rfl
    | _ => rfl
  have hwritten : creation.flatMap Statement.definitions = definitions := by
    cases h
    rw [List.flatMap_cons, hcomments, List.append_nil]
    rfl
  have hsame : definitions.map (·.name) = t.columns.map (·.name) := by
    rw [← List.forall₂_eq_eq_eq, List.forall₂_map_left_iff, List.forall₂_map_right_iff]
    exact hall.flip.imp fun _ _ h => (definitionIn_eq_ok h).2.1
  obtain ⟨created, hmem, hcreated⟩ := exists_mem_of_forall₂ hall c hc
  refine ⟨created, hcreated, ?_⟩
  rw [hwritten, ← (definitionIn_eq_ok hcreated).2.1]
  exact filter_name_eq_singleton (hsame ▸ hnames) hmem

/-- An addition defines the column of the name and nothing else. -/
theorem definitions_addColumn {addition : List Statement} (hcolumn : t.column? c.name = some c)
    (h : t.addColumn d c.name = .ok addition) : ∃ added, addedDefinition d c.toColumn = .ok added ∧
      addition.flatMap Statement.definitions = [added] := by
  obtain ⟨_, hfound, h⟩ := except_bind_eq_ok.1 h
  obtain rfl := Option.some.inj (hcolumn.symm.trans (findColumn_eq_ok_iff.1 hfound))
  obtain ⟨added, hadded, rfl⟩ := except_map_eq_ok.1 h
  refine ⟨added, hadded, ?_⟩
  have hcomments : (t.additionComments d [c]).flatMap Statement.definitions = [] := by
    cases d with
    | postgres => exact flatMap_commentsOn (fun _ _ _ => rfl) t _ _
    | _ => rfl
  rw [List.flatMap_cons, hcomments]
  rfl

/-- Without collation and expression, a column of PostgreSQL has the same modifiers in both, but for null. -/
theorem sameButNull_postgres {added created : ColumnDefinition} (htype : added.type = created.type)
    (hadded : added.modifiers = addedModifiers .postgres c.toColumn)
    (hcreated : created.modifiers = Modifier.ofColumn .postgres c.toColumn) :
    added.SameButNull created ↔ t.DefinesAlike .postgres c := by
  constructor
  -- What an addition never says is no modifier of the column at all, or the two would differ.
  · intro hsame
    have hsaid (m : Modifier) (hm : m.saysNull = false) (hleft : m ∉ addedModifiers .postgres c.toColumn) :
        ¬ m.Holds .postgres c.toColumn := by
      rwa [← Modifier.mem_ofColumn_iff, ← hcreated, ← hsame.mem_iff hm, hadded]
    have hcollation (name : String) := hsaid (.collate name) rfl (by simp [addedModifiers])
    have hvirtual (sql : String) := hsaid (.virtualAs sql) rfl (by simp [addedModifiers])
    have hstored (sql : String) := hsaid (.storedAs sql) rfl (by simp [addedModifiers])
    refine ⟨?_, ?_, ?_⟩ <;> refine Option.eq_none_iff_forall_ne_some.2 fun _ h => ?_
    · exact hcollation _ ⟨by decide, h⟩
    · exact hvirtual _ ⟨by decide, h⟩
    · exact hstored _ ⟨by decide, h⟩
  · rintro ⟨hcollation, hvirtual, hstored⟩
    have hplain : Modifier.ofColumn .postgres c.toColumn =
        Modifier.nullability .postgres c.toColumn ++
          ((Modifier.defaultClause? .postgres c.toColumn).map Modifier.default).toList := by
      simp [Modifier.ofColumn, Modifier.postgres, hcollation, hvirtual, hstored]
    have hdefault (value : Option DefaultClause) :
        (value.map Modifier.default).toList.filter (!·.saysNull) = (value.map Modifier.default).toList := by
      cases value <;> rfl
    refine ⟨htype, ?_⟩
    rw [hadded, hcreated, hplain]
    cases hnull : c.nullable with
    | false => exact .inl (by simp [addedModifiers, Modifier.nullability, hnull])
    | true =>
      have hsaid : Modifier.nullability .postgres c.toColumn = [.null] := by simp [Modifier.nullability, hnull]
      have hleft : [Modifier.null].filter (!·.saysNull) = [] := rfl
      right
      rw [hsaid, List.filter_append, hleft, hdefault]
      simp [addedModifiers, hnull]

/-- A column of SQLite has the same modifiers in both exactly if it is marked as the key in both or in neither. -/
theorem sameButNull_sqlite {added created : ColumnDefinition} (htype : added.type = created.type)
    (hadded : added.modifiers = Modifier.sqlite c.toColumn ++ if c.countsUp then [.countingKey] else [])
    (hcreated : created.modifiers =
      Modifier.sqlite c.toColumn ++ if t.countingKey? == some c.name then [.countingKey] else [])
    (hkey : t.countingKey? = some c.name → c.countsUp = true) :
    added.SameButNull created ↔ t.DefinesAlike .sqlite c := by
  have hunmarked : Modifier.countingKey ∉ Modifier.sqlite c.toColumn :=
    fun h => Modifier.mem_ofColumn_iff (d := .sqlite).1 h
  constructor
  · intro hsame hcounts
    have hmarked := hsame.mem_iff (m := .countingKey) rfl
    by_contra hother
    simp [hadded, hcreated, hunmarked, hcounts, hother] at hmarked
  · intro hcounts
    have hboth : c.countsUp = (t.countingKey? == some c.name) :=
      Bool.eq_iff_iff.2 ⟨fun h => beq_iff_eq.2 (hcounts h), fun h => hkey (beq_iff_eq.1 h)⟩
    exact ⟨htype, .inl (by rw [hadded, hcreated, hboth])⟩

/-- Adding a column defines it as creating the table does, but for null, exactly if the column has nothing that
PostgreSQL leaves out of additions and counts up in SQLite only as the whole key. Its type is the same in any case. -/
theorem addColumn_sameButNull_iff (d : Dialect) (t : Table) (hnames : (t.columns.map (·.name)).Nodup)
    (c : TableColumn) (hc : c ∈ t.columns) (creation addition : List Statement) (hcreate : t.create d = .ok creation)
    (hadd : t.addColumn d c.name = .ok addition) : ∃ created added : ColumnDefinition,
      (creation.flatMap Statement.definitions).filter (·.name == c.name) = [created] ∧
      addition.flatMap Statement.definitions = [added] ∧ added.name = c.name ∧ added.type = created.type ∧
      (added.SameButNull created ↔ t.DefinesAlike d c) := by
  obtain ⟨created, hin, hcreation⟩ := definitions_create hnames hc hcreate
  obtain ⟨added, halone, haddition⟩ := definitions_addColumn (column?_of_mem hnames hc) hadd
  obtain ⟨hcreatedType, _, hcreated⟩ := definitionIn_eq_ok hin
  obtain ⟨haddedType, hname, hadded⟩ := addedDefinition_eq_ok halone
  have htype : added.type = created.type := Except.ok.inj (haddedType.symm.trans hcreatedType)
  refine ⟨created, added, hcreation, haddition, hname, htype, ?_⟩
  cases d with
  | mysql =>
    refine iff_of_true ⟨htype, .inl ?_⟩ trivial
    rw [hadded, hcreated]
    rfl
  | postgres => exact sameButNull_postgres htype (by simpa using hadded) (by simpa using hcreated)
  | sqlite =>
    exact sameButNull_sqlite htype (by simpa [addedModifiers, Modifier.ofColumn] using hadded)
      (by simpa [Modifier.ofColumn] using hcreated) (countsUp_of_countingKey? hnames hc)

/-- An addition of PostgreSQL loses a collation and an expression; one of SQLite marks a column that counts up as the
key, though the key has two columns. -/
theorem addColumn_sameButNull_iff_of_lost_and_marked :
    let stored : TableColumn :=
      .ofColumn { name := "a", dataType := .text, collation := some "C", storedAs := some "lower(b)" }
    let id : TableColumn := .ofColumn { name := "id", dataType := .int, primaryKey := true, autoIncrement := true }
    let org : TableColumn := .ofColumn { name := "org", dataType := .int, primaryKey := true }
    let t : Table := { Table.declare "users" with columns := [stored] }
    let u : Table := { Table.declare "users" with columns := [id, org] }
    let created : ColumnDefinition := ⟨"a", .bare "text", [.collate "C", .notNull, .storedAs "lower(b)"]⟩
    let added : ColumnDefinition := ⟨"a", .bare "text", [.notNull]⟩
    let unmarked : ColumnDefinition := ⟨"id", .bare "integer", [.notNull]⟩
    (t.create .postgres = .ok [.createTable false ⟨none, "users"⟩ [created] [] []] ∧
      t.addColumn .postgres "a" = .ok [.alterTable ⟨none, "users"⟩ .oneLine [.addColumn added]] ∧
      ¬ added.SameButNull created) ∧
    u.create .sqlite = .ok [.createTable false ⟨none, "users"⟩
      [unmarked, ⟨"org", .bare "integer", [.notNull]⟩] ["id", "org"] []] ∧
    u.addColumn .sqlite "id" = .ok [.alterTable ⟨none, "users"⟩ .oneLine [.addColumn unmarked.asCountingKey]] ∧
    ¬ unmarked.asCountingKey.SameButNull unmarked := by
  intro stored id org t u created added unmarked
  have hcreate : t.create .postgres = .ok [.createTable false ⟨none, "users"⟩ [created] [] []] := rfl
  have hadd : t.addColumn .postgres "a" = .ok [.alterTable ⟨none, "users"⟩ .oneLine [.addColumn added]] := rfl
  have hcreate' : u.create .sqlite = .ok [.createTable false ⟨none, "users"⟩
      [unmarked, ⟨"org", .bare "integer", [.notNull]⟩] ["id", "org"] []] := rfl
  have hadd' : u.addColumn .sqlite "id" =
      .ok [.alterTable ⟨none, "users"⟩ .oneLine [.addColumn unmarked.asCountingKey]] := rfl
  refine ⟨⟨hcreate, hadd, fun hsame => ?_⟩, hcreate', hadd', fun hsame => ?_⟩
  · obtain ⟨_, _, hcreated, hadded, _, _, halike⟩ :=
      addColumn_sameButNull_iff .postgres t (by decide) stored (by simp [t]) _ _ hcreate hadd
    obtain rfl := (List.cons.inj hcreated).1
    obtain rfl := (List.cons.inj hadded).1
    have hcollation : some "C" = none := (halike.1 hsame).1
    cases hcollation
  · obtain ⟨_, _, hcreated, hadded, _, _, halike⟩ :=
      addColumn_sameButNull_iff .sqlite u (by decide) id (by simp [u]) _ _ hcreate' hadd'
    obtain rfl := (List.cons.inj hcreated).1
    obtain rfl := (List.cons.inj hadded).1
    have hkey : u.countingKey? = some "id" := halike.1 hsame rfl
    exact absurd hkey (by decide)

end Table
end SqlDialects
