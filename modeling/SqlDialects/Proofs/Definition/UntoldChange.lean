import Mathlib.Tactic.MkIffOfInductiveProp
import SqlDialects.Definition.Alteration
import SqlDialects.Proofs.Definition.PendingColumn
import SqlDialects.Proofs.Definition.SaidModifiers

/-! # Changes that are told and changes that are not

A definition says more of a column than its changes tell. Where no change is told, the definition is still the one that
was read exactly if the other attributes that it says are the same; otherwise the bulk alteration passes over a column
that the alteration of that column alone would define anew. -/

namespace SqlDialects

/-- Two states of a column that agree on all that changes tell of. Defaults agree as numbers do. -/
@[mk_iff] structure Column.SameTold (c c' : Column) : Prop where
  dataType : c.dataType = c'.dataType
  length : c.length = c'.length
  precision : c.precision = c'.precision
  scale : c.scale = c'.scale
  nullable : c.nullable = c'.nullable
  default : (c.default == c'.default) = true
  useCurrent : c.useCurrent = c'.useCurrent
  primaryKey : c.primaryKey = c'.primaryKey
  autoIncrement : c.autoIncrement = c'.autoIncrement
  unsigned : c.unsigned = c'.unsigned
  comment : c.comment = c'.comment
  collation : c.collation = c'.collation
  charset : c.charset = c'.charset
  allowedValues : c.allowedValues = c'.allowedValues

/-- No change is told exactly if the column keeps its name and agrees on all that changes tell of. -/
theorem ColumnDiff.isEmpty_between_iff {c c' : Column} :
    (between c c').isEmpty = true ↔ c'.newName? = none ∧ c.SameTold c' := by
  have hdefault : (c.default != c'.default) = false ↔ (c.default == c'.default) = true := by
    rw [bne, Bool.not_eq_false']
  rw [Column.sameTold_iff]
  simp only [isEmpty, between, List.isEmpty_iff, List.append_eq_nil_iff, report_eq_nil, Option.toList_eq_nil_iff,
    Option.map_eq_none_iff, bne_eq_false_iff_eq, Bool.or_eq_false_iff, hdefault, and_assoc]

/-- Two states of a column that agree on what the definition in a dialect says and no change tells. -/
structure Column.SameUntold (d : Dialect) (c c' : Column) : Prop where
  /-- Defaults that agree as numbers may be written in two ways, as the two zeros are. -/
  default : Modifier.defaultClause? d c = some .now ∨ c.default = c'.default
  computed : d ≠ .sqlite → c.virtualAs = c'.virtualAs ∧ c.storedAs = c'.storedAs
  srid : d = .mysql → c.srid = c'.srid
  place : d = .mysql → c.after = c'.after ∧ c.first = c'.first
  identity : d = .postgres → c.dataType.isInteger = true ∨ c.dataType = .year → c.autoIncrement = false →
    c.generatedAs.isSome = c'.generatedAs.isSome
  projection : d = .postgres → (ColumnType.spatialName? c.dataType).isSome = true → c.projection = c'.projection

namespace ColumnType

variable {c c' : Column}

theorem mysql?_congr (h : c.SameTold c') : mysql? c = mysql? c' := by
  simp only [mysql?, withScale, withPrecision, h.dataType, h.length, h.precision, h.scale, h.useCurrent,
    h.allowedValues]

theorem sqlite?_congr (h : c.SameTold c') (hname : c.name = c'.name) : sqlite? c = sqlite? c' := by
  simp only [sqlite?, h.dataType, h.allowedValues, hname]

/-- A column that was read has a plain integer type or, if it counts, the type that alterations write. -/
theorem counting_of_read (hread : c.added = false) (names : IntegerNames) : counting names c =
    bare (if c.autoIncrement || c.generatedAs.isSome then names.altered else names.plain) := by
  unfold counting
  cases c.generatedAs <;> cases c.autoIncrement <;> simp [hread]

theorem counting_eq_iff (h : c.SameTold c') (hread : c.added = false) (hread' : c'.added = false)
    {names : IntegerNames} (hnames : names.plain ≠ names.altered) : counting names c = counting names c' ↔
      (c.autoIncrement = false → c.generatedAs.isSome = c'.generatedAs.isSome) := by
  rw [counting_of_read hread, counting_of_read hread', ← h.autoIncrement]
  cases c.autoIncrement <;> cases c.generatedAs.isSome <;> cases c'.generatedAs.isSome <;>
    simp [bare, hnames, hnames.symm]

theorem postgres?_eq_iff (h : c.SameTold c') (hname : c.name = c'.name) (hread : c.added = false)
    (hread' : c'.added = false) : postgres? c = postgres? c' ↔
      (c.dataType.isInteger = true ∨ c.dataType = .year → c.autoIncrement = false →
        c.generatedAs.isSome = c'.generatedAs.isSome) ∧
      ((spatialName? c.dataType).isSome = true → c.projection = c'.projection) := by
  have hcounting := @counting_eq_iff c c' h hread hread'
  have hprojection : c.projection.toList = c'.projection.toList ↔ c.projection = c'.projection := by
    cases c.projection <;> cases c'.projection <;> simp
  simp only [postgres?, ← h.dataType]
  cases c.dataType with
  | tinyInt | smallInt | mediumInt | int | year | bigInt => simp [hcounting, DataType.isInteger, spatialName?]
  | geometry | point | lineString | polygon | geometryCollection | multiPoint | multiLineString | multiPolygon =>
    simp [spatialName?, DataType.isInteger, hprojection]
  | _ => simp [zoned, h.length, h.precision, h.scale, h.allowedValues, hname, DataType.isInteger, spatialName?]

theorem ofColumn_eq_iff (d : Dialect) (hdataType : c.dataType = c'.dataType) :
    ofColumn d c = ofColumn d c' ↔ ofColumn? d c = ofColumn? d c' := by
  unfold ofColumn
  rw [hdataType]
  cases ofColumn? d c <;> cases ofColumn? d c' <;> simp

end ColumnType

namespace Modifier

variable {c c' : Column}

theorem defaultClause?_eq_iff (h : c.SameTold c') (d : Dialect) :
    defaultClause? d c = defaultClause? d c' ↔ defaultClause? d c = some .now ∨ c.default = c'.default := by
  have hvalue : c.default.map DefaultClause.value = c'.default.map DefaultClause.value ↔ c.default = c'.default :=
    (Option.map_injective fun _ _ => DefaultClause.value.inj).eq_iff
  simp only [defaultClause?, ← h.useCurrent, ← h.dataType]
  cases c.useCurrent && if d = .mysql then c.dataType.isDateTime else c.dataType.isMoment with
  | true => simp
  | false => simp [hvalue]

theorem nullability_congr {d : Dialect} (hnullable : c.nullable = c'.nullable)
    (hcomputed : d = .mysql → c.virtualAs = c'.virtualAs ∧ c.storedAs = c'.storedAs) :
    nullability d c = nullability d c' := by
  cases d with
  | mysql => rw [nullability, hnullable, (hcomputed rfl).1, (hcomputed rfl).2, nullability]
  | _ => simp [nullability, hnullable]

theorem eq_of_pos_iff {a b : UInt32} (h : ∀ n, a > 0 ∧ n = a ↔ b > 0 ∧ n = b) : a = b := by
  by_cases ha : a > 0
  · exact ((h a).1 ⟨ha, rfl⟩).2
  · have hb : ¬ b > 0 := fun hb => ha ((h b).2 ⟨hb, rfl⟩).1
    rw [UInt32.le_zero_iff.1 (UInt32.not_lt.1 ha), UInt32.le_zero_iff.1 (UInt32.not_lt.1 hb)]

theorem ofColumn_eq_iff (h : c.SameTold c') (d : Dialect) : ofColumn d c = ofColumn d c' ↔
    (defaultClause? d c = some .now ∨ c.default = c'.default) ∧
      (d ≠ .sqlite → c.virtualAs = c'.virtualAs ∧ c.storedAs = c'.storedAs) ∧
      (d = .mysql → c.srid = c'.srid ∧ c.after = c'.after ∧ c.first = c'.first) := by
  rw [← defaultClause?_eq_iff h d]
  constructor
  · intro heq
    have hholds (m : Modifier) : m.Holds d c ↔ m.Holds d c' := by
      rw [← mem_ofColumn_iff, ← mem_ofColumn_iff, heq]
    refine ⟨Option.ext fun value => hholds (.default value), fun hd => ⟨?_, ?_⟩, fun hd => ⟨?_, ?_, ?_⟩⟩
    · exact Option.ext fun sql => by simpa [Holds, hd] using hholds (.virtualAs sql)
    · exact Option.ext fun sql => by simpa [Holds, hd] using hholds (.storedAs sql)
    · have hsrid (n : UInt32) : c.srid > 0 ∧ n = c.srid ↔ c'.srid > 0 ∧ n = c'.srid := by
        simpa [Holds, hd] using hholds (.srid n)
      exact eq_of_pos_iff hsrid
    · exact Option.ext fun column => by simpa [Holds, hd] using hholds (.after column)
    · simpa [Holds, hd] using hholds .first
  · rintro ⟨hdefault, hcomputed, hplace⟩
    have hnull : nullability d c = nullability d c' :=
      nullability_congr h.nullable fun hd => hcomputed (by simp [hd])
    cases d with
    | sqlite => simp only [ofColumn, sqlite, hnull, hdefault]
    | postgres =>
      obtain ⟨hvirtual, hstored⟩ := hcomputed (by decide)
      simp only [ofColumn, postgres, h.collation, hnull, hdefault, hvirtual, hstored]
    | mysql =>
      obtain ⟨hvirtual, hstored⟩ := hcomputed (by decide)
      obtain ⟨hsrid, hafter, hfirst⟩ := hplace rfl
      have hcounts : c.countsUp = c'.countsUp := by rw [Column.countsUp, h.autoIncrement, h.dataType, Column.countsUp]
      change mysql c = mysql c'
      rw [mysql, mysql, h.unsigned, h.charset, h.collation, h.comment, hnull, hdefault, hcounts, hvirtual, hstored, hsrid,
        hafter, hfirst]

end Modifier

namespace Column

variable {c c' : Column}

/-- Where all that is told agrees, the types agree exactly if what they say beyond it does. -/
theorem ofColumn?_eq_iff (h : c.SameTold c') (hname : c.name = c'.name) (hread : c.added = false)
    (hread' : c'.added = false) (d : Dialect) : ColumnType.ofColumn? d c = ColumnType.ofColumn? d c' ↔
      (d = .postgres → (c.dataType.isInteger = true ∨ c.dataType = .year → c.autoIncrement = false →
        c.generatedAs.isSome = c'.generatedAs.isSome) ∧
        ((ColumnType.spatialName? c.dataType).isSome = true → c.projection = c'.projection)) := by
  cases d with
  | mysql => simp [ColumnType.ofColumn?, ColumnType.mysql?_congr h]
  | postgres => simpa [ColumnType.ofColumn?] using ColumnType.postgres?_eq_iff h hname hread hread'
  | sqlite => simp [ColumnType.ofColumn?, ColumnType.sqlite?_congr h hname]

theorem sameUntold_iff (h : c.SameTold c') (hname : c.name = c'.name) (hread : c.added = false)
    (hread' : c'.added = false) (d : Dialect) : c.SameUntold d c' ↔
      ColumnType.ofColumn d c = ColumnType.ofColumn d c' ∧ Modifier.ofColumn d c = Modifier.ofColumn d c' := by
  rw [ColumnType.ofColumn_eq_iff d h.dataType, ofColumn?_eq_iff h hname hread hread', Modifier.ofColumn_eq_iff h]
  constructor
  · rintro ⟨hdefault, hcomputed, hsrid, hplace, hidentity, hprojection⟩
    exact ⟨fun hd => ⟨hidentity hd, hprojection hd⟩, hdefault, hcomputed, fun hd => ⟨hsrid hd, hplace hd⟩⟩
  · rintro ⟨htype, hdefault, hcomputed, hplace⟩
    exact ⟨hdefault, hcomputed, fun hd => (hplace hd).1, fun hd => (hplace hd).2, fun hd => (htype hd).1,
      fun hd => (htype hd).2⟩

@[simp] theorem added_apply (c : Column) (options : List ColumnOption) : (c.apply options).added = c.added := by
  induction options generalizing c with
  | nil => rfl
  | cons o os ih =>
    rw [apply_cons, ih]
    cases o <;> rfl

end Column

/-- The bulk alteration passes over a column of which no change is told, also where its definition is no longer the one
that was read: that is so exactly if an attribute differs that the definition says and no change tells. -/
theorem ColumnDiff.definition_same_iff_of_isEmpty (d : Dialect) (c : TableColumn) (hread : c.added = false)
    (options : List ColumnOption) (diff : ColumnDiff) (hdiff : ofColumn? (c.store.apply options) = some diff)
    (hempty : diff.isEmpty = true) :
    let changed := c.store.apply options
    (ColumnType.ofColumn d changed.toColumn = ColumnType.ofColumn d c.toColumn ∧
        Modifier.ofColumn d changed.toColumn = Modifier.ofColumn d c.toColumn ↔
      c.SameUntold d changed.toColumn) ∧ ∀ t : Table, changed ∉ t.changedColumns := by
  intro changed
  have hbetween : (between c.toColumn changed.toColumn).isEmpty = true := by
    cases hdiff
    exact hempty
  obtain ⟨_, htold⟩ := isEmpty_between_iff.1 hbetween
  have hname : c.name = changed.name := (Column.name_apply c.toColumn options).symm
  have hread' : changed.added = false := (Column.added_apply c.toColumn options).trans hread
  refine ⟨?_, fun t hmem => ?_⟩
  · rw [Column.sameUntold_iff htold hname hread hread' d]
    exact and_congr eq_comm eq_comm
  · have hchanged := (List.mem_filter.1 hmem).2
    rw [Table.isChanged, hdiff] at hchanged
    simp [hempty] at hchanged

/-- A column that becomes a computed one: no change is told, and the bulk alteration of MySQL is empty, though the
alteration of the column has its expression. -/
theorem ColumnDiff.definition_same_iff_of_isEmpty_of_computed :
    let read : TableColumn := .ofColumn { name := "a", dataType := .int, added := false }
    let changed := read.store.apply [.virtualAs "b + 1"]
    let t : Table := { Table.found "t" with columns := [changed] }
    (∃ diff, ofColumn? changed = some diff ∧ diff.isEmpty = true) ∧
      Modifier.ofColumn .mysql changed.toColumn ≠ Modifier.ofColumn .mysql read.toColumn ∧
      changed ∉ t.changedColumns ∧ t.modifyColumns .mysql = .ok [] ∧
      t.modifyColumn .mysql "a" = .ok [.alterTable ⟨none, "t"⟩ .oneLine
        [.modifyColumn ⟨"a", .bare "int", [.virtualAs "b + 1", .notNull]⟩]] := by
  intro read changed t
  have hempty : (between read.toColumn changed.toColumn).isEmpty = true := by decide
  obtain ⟨hsame, hskipped⟩ := definition_same_iff_of_isEmpty .mysql read rfl [.virtualAs "b + 1"] _ rfl hempty
  have hnone : t.changedColumns = [] := by
    refine List.eq_nil_iff_forall_not_mem.2 fun c hc => ?_
    have hchanged : c = changed := List.mem_singleton.1 (List.mem_filter.1 hc).1
    rw [hchanged] at hc
    exact hskipped t hc
  have hbulk : t.modifyColumns .mysql = .ok [] := by simp [Table.modifyColumns, hnone]
  refine ⟨⟨_, rfl, hempty⟩, fun hmodifiers => ?_, hskipped t, hbulk, by rfl⟩
  have huntold := hsame.1 ⟨rfl, hmodifiers⟩
  have hcomputed : (none : Option String) = some "b + 1" := (huntold.computed (by decide)).1
  exact absurd hcomputed nofun

end SqlDialects
