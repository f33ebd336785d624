import SqlDialects.Proofs.Catalog.RowReading
import SqlDialects.Proofs.Definition.UntoldChange
import SqlDialects.Proofs.Schema.OptionOrder

/-!
# Changes lead from one state to the other

Changes are told attribute by attribute in a fixed order, and each writes the value of the new state. Written into the
old state they give one that agrees with the new one on every attribute that is compared. The name to come is told, not
compared: what was to come before stays if nothing is told.
-/

namespace SqlDialects

namespace Attribute

/-- The attributes that are compared, in the order of their changes. -/
def compared : List Attribute :=
  [dataType, length, precision, scale, nullable, default, primaryKey, autoIncrement, unsigned, comment, collation,
    charset, allowedValues]

/-- The attributes of which changes tell, in their order. -/
def told : List Attribute :=
  rename :: compared

theorem nodup_told : told.Nodup := by
  decide

end Attribute

/-- What a change writes. -/
def Change.write : Change → Assignment
  | rename _ new => ⟨.rename, some new⟩
  | dataType _ new => ⟨.dataType, new⟩
  | length _ new => ⟨.length, new⟩
  | precision _ new => ⟨.precision, new⟩
  | scale _ new => ⟨.scale, new⟩
  | nullable new => ⟨.nullable, new⟩
  | default _ new => ⟨.default, new⟩
  | primaryKey new => ⟨.primaryKey, new⟩
  | autoIncrement new => ⟨.autoIncrement, new⟩
  | unsigned new => ⟨.unsigned, new⟩
  | comment new => ⟨.comment, new⟩
  | collation new => ⟨.collation, new⟩
  | charset new => ⟨.charset, new⟩
  | allowedValues new => ⟨.allowedValues, new⟩

/-- The attribute that a change tells of. -/
def Change.key (change : Change) : Attribute :=
  change.write.key

namespace Column

/-- Writes the new values of changes. -/
def patch (c : Column) (changes : List Change) : Column :=
  c.putAll (changes.map Change.write)

/-- Two columns agree on an attribute. Defaults agree as numbers do. -/
def AgreesOn (c c' : Column) : Attribute → Prop
  | .default => (c.default == c'.default) = true
  | a => c.get a = c'.get a

/-- The default is not a float that differs from itself. -/
def IsNaNFree (c : Column) : Prop :=
  ∀ x, c.default = some (.float x) → x.isNaN = false

end Column

/-- Writes values for attributes in order; the snapshot stays. -/
def TableColumn.putAll (c : TableColumn) (ws : List Assignment) : TableColumn :=
  { c with toColumn := c.toColumn.putAll ws }

/-- Changes that tell how one state of a column becomes another. -/
structure IsPatch (old new : Column) (changes : List Change) : Prop where
  ordered : (changes.map Change.key).Sublist Attribute.told
  once : (changes.map Change.key).Nodup
  nil_iff : changes = [] ↔
    new.newName? = none ∧ (∀ a ∈ Attribute.compared, old.AgreesOn new a) ∧ old.useCurrent = new.useCurrent
  agrees : ∀ a ∈ Attribute.compared, (old.patch changes).AgreesOn new a
  /-- The name to come is the one that is told. -/
  rename_mem_iff : ∀ name next, Change.rename name next ∈ changes ↔ name = new.name ∧ new.newName? = some next
  rename : (old.patch changes).rename = new.newName?.or old.rename
  /-- The name that is told is the final one. -/
  finalName : ∀ next, new.newName? = some next → (old.patch changes).finalName = next
  /-- Two states of one column have the same name to come, unless one was to come before. -/
  newName? : old.name = new.name → old.newName? = none → (old.patch changes).newName? = new.newName?
  untold : ∀ a ∉ Attribute.told, (old.patch changes).get a = old.get a

section Comparing

variable {c c' old new : Column} {a : Attribute}

/-- A float that is a number equals itself. -/
theorem float_beq_self {x : Float} (h : x.isNaN = false) : (x == x) = true := by
  change x.toModel.unpack.beq x.toModel.unpack = true
  have hnumber : x.toModel.unpack.isNaN = false := h
  generalize x.toModel.unpack = u at hnumber
  cases u with
  | notANumber => exact absurd hnumber nofun
  | infinity s => cases s <;> rfl
  | zero s => cases s <;> rfl
  | finite s m e hm =>
    have hsame : (compare e e).then (compare m m) = .eq := by simp
    cases s with
    | positive => exact beq_iff_eq.2 (congrArg some hsame)
    | negative => exact beq_iff_eq.2 (congrArg (fun o : Ordering => some o.swap) hsame)

theorem Column.IsNaNFree.default_beq_self (h : c.IsNaNFree) : (c.default == c.default) = true := by
  unfold IsNaNFree at h
  cases hdefault : c.default with
  | none => rfl
  | some v =>
    change (v == v) = true
    cases v with
    | float x => exact float_beq_self (h x hdefault)
    | _ => exact DefaultValue.beq_self nofun

theorem Column.IsNaNFree.agreesOn (h : c'.IsNaNFree) (hget : c.get a = c'.get a) : c.AgreesOn c' a := by
  cases a with
  | default =>
    have hdefault : c.default = c'.default := hget
    rw [AgreesOn, hdefault]
    exact h.default_beq_self
  | _ => exact hget

theorem Column.AgreesOn.of_get_eq (h : old.AgreesOn new a) (hget : c.get a = old.get a) : c.AgreesOn new a := by
  cases a with
  | default =>
    have hdefault : c.default = old.default := hget
    rwa [AgreesOn, hdefault]
  | _ => exact hget.trans h

theorem Column.sameTold_iff_agreesOn :
    c.SameTold c' ↔ (∀ a ∈ Attribute.compared, c.AgreesOn c' a) ∧ c.useCurrent = c'.useCurrent := by
  rw [sameTold_iff]
  simp only [Attribute.compared, AgreesOn, get, List.forall_mem_cons]
  tauto

end Comparing

namespace ColumnDiff

variable {old new : Column} {a : Attribute} {changed : Bool} {change change' : Change}

/-- The change of an attribute, if there is one to tell. -/
def changeOf? (old new : Column) : Attribute → Option Change
  | .rename => new.newName?.map (.rename new.name)
  | .dataType => (report (old.dataType != new.dataType) (.dataType old.dataType new.dataType)).head?
  | .length => (report (old.length != new.length) (.length old.length new.length)).head?
  | .precision => (report (old.precision != new.precision) (.precision old.precision new.precision)).head?
  | .scale => (report (old.scale != new.scale) (.scale old.scale new.scale)).head?
  | .nullable => (report (old.nullable != new.nullable) (.nullable new.nullable)).head?
  | .default =>
    (report (old.default != new.default || old.useCurrent != new.useCurrent) (.default old.default new.default)).head?
  | .primaryKey => (report (old.primaryKey != new.primaryKey) (.primaryKey new.primaryKey)).head?
  | .autoIncrement => (report (old.autoIncrement != new.autoIncrement) (.autoIncrement new.autoIncrement)).head?
  | .unsigned => (report (old.unsigned != new.unsigned) (.unsigned new.unsigned)).head?
  | .comment => (report (old.comment != new.comment) (.comment new.comment)).head?
  | .collation => (report (old.collation != new.collation) (.collation new.collation)).head?
  | .charset => (report (old.charset != new.charset) (.charset new.charset)).head?
  | .allowedValues => (report (old.allowedValues != new.allowedValues) (.allowedValues new.allowedValues)).head?
  | _ => none

theorem toList_head?_report : (report changed change).head?.toList = report changed change := by
  cases changed <;> rfl

theorem head?_report_eq_some_iff :
    (report changed change).head? = some change' ↔ changed = true ∧ change = change' := by
  cases changed <;> simp [report]

theorem head?_report_eq_none_iff : (report changed change).head? = none ↔ changed = false := by
  cases changed <;> simp [report]

/-- The changes are those of the attributes, one after the other. -/
theorem changes_between (old new : Column) :
    (between old new).changes = Attribute.told.filterMap (changeOf? old new) := by
  rw [List.filterMap_eq_flatMap_toList]
  simp only [Attribute.told, Attribute.compared, List.flatMap_cons, List.flatMap_nil, changeOf?, toList_head?_report,
    between, List.append_assoc, List.append_nil]

/-- A change writes the new value of its attribute. -/
theorem write_of_changeOf? (h : changeOf? old new a = some change) : change.write = ⟨a, new.get a⟩ := by
  cases a with
  | rename =>
    obtain ⟨next, hnext, rfl⟩ := Option.map_eq_some_iff.1 h
    have hrename : new.rename = some next := (Option.filter_eq_some_iff.1 hnext).1
    rw [Change.write, Column.get, hrename]
  | generatedAs | always | virtualAs | storedAs | useCurrent | after | first | projection | srid => cases h
  | _ =>
    obtain ⟨_, rfl⟩ := head?_report_eq_some_iff.1 h
    rfl

/-- Where no change is told of an attribute that is compared, the two states agree on it. -/
theorem agreesOn_of_changeOf?_eq_none (ha : a ∈ Attribute.compared) (h : changeOf? old new a = none) :
    old.AgreesOn new a := by
  cases a with
  | default =>
    have hboth := Bool.or_eq_false_iff.1 (head?_report_eq_none_iff.1 h)
    rw [bne, Bool.not_eq_false'] at hboth
    exact hboth.1
  | rename | generatedAs | always | virtualAs | storedAs | useCurrent | after | first | projection | srid =>
    exact absurd ha (by decide)
  | _ =>
    have hsame := bne_eq_false_iff_eq.1 (head?_report_eq_none_iff.1 h)
    exact hsame

theorem map_key_changes (old new : Column) :
    (between old new).changes.map Change.key = Attribute.told.filter fun a => (changeOf? old new a).isSome := by
  rw [changes_between, List.map_filterMap, ← List.filterMap_eq_filter]
  refine List.filterMap_congr fun a _ => ?_
  cases h : changeOf? old new a with
  | none => simp [Option.guard, h]
  | some change => simp [Option.guard, h, Change.key, write_of_changeOf? h]

theorem nodup_map_key_changes (old new : Column) : ((between old new).changes.map Change.key).Nodup := by
  rw [map_key_changes]
  exact Attribute.nodup_told.filter _

/-- An attribute that is told has its new value once the changes are written. -/
theorem get_patch_of_some (ha : a ∈ Attribute.told) (h : changeOf? old new a = some change) :
    (old.patch (between old new).changes).get a = new.get a := by
  have hmem : change ∈ (between old new).changes := by
    rw [changes_between]
    exact List.mem_filterMap.2 ⟨a, ha, h⟩
  have hwrite : ⟨a, new.get a⟩ ∈ (between old new).changes.map Change.write :=
    write_of_changeOf? h ▸ List.mem_map_of_mem hmem
  have hnodup : (((between old new).changes.map Change.write).map (·.key)).Nodup := by
    rw [List.map_map]
    exact nodup_map_key_changes old new
  exact Column.get_putAll_of_nodup old hnodup hwrite

/-- Any other attribute stays. -/
theorem get_patch_of_none (h : a ∉ Attribute.told ∨ changeOf? old new a = none) :
    (old.patch (between old new).changes).get a = old.get a := by
  refine Column.get_putAll_of_notMem old ?_
  have hkeys : a ∉ (between old new).changes.map Change.key := by
    rw [map_key_changes, List.mem_filter]
    rintro ⟨ha, hsome⟩
    rcases h with hnot | hnone
    · exact hnot ha
    · simp [hnone] at hsome
  rwa [List.map_map]

theorem agreesOn_patch (hnew : new.IsNaNFree) (ha : a ∈ Attribute.compared) :
    (old.patch (between old new).changes).AgreesOn new a := by
  cases h : changeOf? old new a with
  | none => exact (agreesOn_of_changeOf?_eq_none ha h).of_get_eq (get_patch_of_none (.inr h))
  | some change => exact hnew.agreesOn (get_patch_of_some (List.mem_cons_of_mem _ ha) h)

theorem rename_patch (old new : Column) :
    (old.patch (between old new).changes).rename = new.newName?.or old.rename := by
  have htold : Attribute.rename ∈ Attribute.told := List.mem_cons_self
  cases h : new.newName? with
  | none =>
    have hnone : changeOf? old new .rename = none := by rw [changeOf?, h, Option.map_none]
    exact get_patch_of_none (.inr hnone)
  | some next =>
    have hsome : changeOf? old new .rename = some (.rename new.name next) := by rw [changeOf?, h, Option.map_some]
    have hrename : new.rename = some next := (Option.filter_eq_some_iff.1 h).1
    exact (get_patch_of_some htold hsome).trans hrename

theorem rename_mem_changes_iff {name next : String} :
    Change.rename name next ∈ (between old new).changes ↔ name = new.name ∧ new.newName? = some next := by
  rw [changes_between, List.mem_filterMap]
  constructor
  · rintro ⟨a, _, h⟩
    have hkey : a = .rename := (congrArg Assignment.key (write_of_changeOf? h)).symm
    subst hkey
    obtain ⟨_, hnext, heq⟩ := Option.map_eq_some_iff.1 h
    cases heq
    exact ⟨rfl, hnext⟩
  · rintro ⟨rfl, hnext⟩
    exact ⟨.rename, List.mem_cons_self, by rw [changeOf?, hnext, Option.map_some]⟩

variable {next : String}

theorem newName?_patch (hname : old.name = new.name) (hold : old.newName? = none) :
    (old.patch (between old new).changes).newName? = new.newName? := by
  have hpatched : (old.patch (between old new).changes).name = new.name := (Column.name_putAll old _).trans hname
  rw [Column.newName?, rename_patch, hpatched]
  cases h : new.newName? with
  | none =>
    rw [Option.none_or, ← hname]
    exact hold
  | some next => exact Option.filter_eq_some_iff.2 ⟨rfl, (Option.filter_eq_some_iff.1 h).2⟩

theorem finalName_patch (h : new.newName? = some next) : (old.patch (between old new).changes).finalName = next := by
  have hnonempty : (!next.isEmpty) = true := (Bool.and_eq_true_iff.1 (Option.filter_eq_some_iff.1 h).2).1
  have hpatched : (old.patch (between old new).changes).name = old.name := Column.name_putAll old _
  rw [Column.finalName, Column.newName?, rename_patch, h, hpatched, Option.some_or]
  by_cases hold : next = old.name
  · simp [Option.filter, hold]
  · simp [Option.filter, hold, hnonempty]

theorem between_isPatch (old : Column) (hnew : new.IsNaNFree) : IsPatch old new (between old new).changes where
  ordered := by
    rw [map_key_changes]
    exact List.filter_sublist
  once := nodup_map_key_changes old new
  nil_iff := by
    rw [← List.isEmpty_iff, ← Column.sameTold_iff_agreesOn]
    exact isEmpty_between_iff
  agrees := fun a => agreesOn_patch hnew
  rename_mem_iff := fun name next => rename_mem_changes_iff
  rename := rename_patch old new
  finalName := fun next => finalName_patch
  newName? := newName?_patch
  untold := fun a ha => get_patch_of_none (.inl ha)

/-- A column that has its attributes back has no changes. -/
theorem isEmpty_between_of_get_eq {c c' : Column} (hc : c.IsNaNFree) (hname : c'.name = c.name)
    (hnone : c.newName? = none) (hget : ∀ a ∈ .useCurrent :: Attribute.told, c'.get a = c.get a) :
    (between c c').isEmpty = true := by
  have hrename : c'.rename = c.rename := hget .rename (by decide)
  have huse : c'.useCurrent = c.useCurrent := hget .useCurrent (by decide)
  have hdefault : c'.default = c.default := hget .default (by decide)
  have hc' : c'.IsNaNFree := fun x hx => hc x (hdefault ▸ hx)
  have htold (a : Attribute) (ha : a ∈ Attribute.compared) : a ∈ Attribute.useCurrent :: Attribute.told :=
    List.mem_cons_of_mem _ (List.mem_cons_of_mem _ ha)
  refine isEmpty_between_iff.2 ⟨?_, Column.sameTold_iff_agreesOn.2 ⟨fun a ha => ?_, huse.symm⟩⟩
  · rw [Column.newName?, hrename, hname]
    exact hnone
  · exact hc'.agreesOn (hget a (htold a ha)).symm

end ColumnDiff

/-- The changes of a column come in the order of the attributes, each at most once. There is none exactly if there is no
name to come and the two states agree on all that is compared and on the use of the current moment. Written into the old
state the changes give the new one. So a column that was read has no changes once its attributes are set back, whatever
was done to it. -/
theorem ColumnDiff.between_isPatch_and_setBack (old new : Column) (hnew : new.IsNaNFree) :
    IsPatch old new (between old new).changes ∧
      ∀ c : Column, c.IsNaNFree → c.newName? = none → ∀ (options : List ColumnOption) (attributes : List Attribute),
        Attribute.useCurrent :: Attribute.told ⊆ attributes →
          ∃ diff, ofColumn? (((TableColumn.loaded c).apply options).putAll (attributes.map fun a => ⟨a, c.get a⟩)) =
            some diff ∧ diff.isEmpty = true := by
  refine ⟨between_isPatch old hnew, fun c hc hnone options attributes hall => ⟨_, rfl, ?_⟩⟩
  have hname : ((c.apply options).putAll (attributes.map fun a => ⟨a, c.get a⟩)).name = c.name :=
    (Column.name_putAll _ _).trans (c.name_apply options)
  exact isEmpty_between_of_get_eq hc hname hnone fun a ha => Column.get_putAll_map c _ (hall ha)

/-- A column that is to be renamed and gets another type and a default. -/
theorem ColumnDiff.between_isPatch_and_setBack_of_renamed :
    let c : Column := { name := "a", dataType := .int, added := false }
    let options : List ColumnOption := [.rename "b", .default (.float 0), .dataType .bigInt]
    let attributes := Attribute.useCurrent :: Attribute.told
    let changes := (between c (c.apply options)).changes
    .rename "a" "b" ∈ changes ∧ (c.patch changes).finalName = "b" ∧ (c.patch changes).dataType = .bigInt ∧
      ∃ diff, ofColumn? (((TableColumn.loaded c).apply options).putAll (attributes.map fun a => ⟨a, c.get a⟩)) =
        some diff ∧ diff.isEmpty = true := by
  intro c options attributes changes
  have hc : c.IsNaNFree := nofun
  have hchanged : (c.apply options).IsNaNFree := by
    rintro x ⟨⟩
    rfl
  obtain ⟨hpatch, hback⟩ := between_isPatch_and_setBack c (c.apply options) hchanged
  have hnext : (c.apply options).newName? = some "b" := by rfl
  exact ⟨(hpatch.rename_mem_iff "a" "b").2 ⟨rfl, hnext⟩, hpatch.finalName "b" hnext,
    hpatch.agrees .dataType (by decide), hback c hc rfl options attributes (List.Subset.refl _)⟩

end SqlDialects
