import SqlDialects.Proofs.Json.TextReading
import SqlDialects.Schema.TableJson

/-!
# Tables read back from JSON

A table is stored without its commands and without the snapshots of its columns. All else is read back as it was
written, unless a default is a number that JSON has no form for: such a table can be stored, and is not read again.
-/

namespace SqlDialects

/-- A default that JSON has a form for. -/
def DefaultValue.isFinite : DefaultValue → Bool
  | float x => x.isFinite
  | _ => true

def Column.hasFiniteDefault (c : Column) : Bool :=
  c.default.all DefaultValue.isFinite

def Table.hasFiniteDefaults (t : Table) : Bool :=
  t.columns.all (·.hasFiniteDefault)

/-- What is kept of a table: all but its commands and the snapshots of its columns. -/
def Table.stored (t : Table) : Table :=
  { t with columns := t.columns.map fun c => .ofColumn c.toColumn, commands := [] }

namespace Json

variable {α : Type} {read : Json → Option α} {write : α → Json} {p : α → Bool} {fields : List (String × Json)}
  {name : String}

theorem int64?_integer (n : Int64) : (integer n.toInt).int64? = some n := by
  have hlow := n.minValue_le_toInt
  have hhigh := n.toInt_le
  have hrange : -9223372036854775808 ≤ n.toInt ∧ n.toInt ≤ 9223372036854775807 := ⟨hlow, hhigh⟩
  rw [int64?, if_pos hrange, Int64.ofInt_toInt]

theorem float?_ofFloat (x : Float) : (ofFloat x).float? = if x.isFinite then some x else none := by
  unfold ofFloat
  split <;> rfl

/-- What is written is read back, of a list as of its items. -/
theorem list?_array (h : ∀ a, read (write a) = if p a then some a else none) (as : List α) :
    list? read (array (as.map write)) = if as.all p then some as else none := by
  change (as.map write).mapM read = _
  induction as with
  | nil => rfl
  | cons a as ih =>
    rw [List.map_cons, List.mapM_cons, ih, h, List.all_cons]
    cases p a
    · rfl
    · cases as.all p <;> rfl

/-- Null is kept for what is absent, so what is there must not be written as null. -/
theorem nullable?_ofOption (hne : ∀ a, write a ≠ null) (h : ∀ a, read (write a) = if p a then some a else none)
    (o : Option α) : nullable? read (ofOption write o) = if o.all p then some o else none := by
  cases o with
  | none => rfl
  | some a =>
    have hsome : nullable? read (write a) = (read (write a)).map some := by
      cases hw : write a with
      | null => exact absurd hw (hne a)
      | _ => rfl
    rw [ofOption, hsome, h, Option.all_some]
    split <;> rfl

theorem optional?_string {o : Option String} (h : fields.lookup name = some (ofOption string o)) :
    optional? string? fields name = some o := by
  rw [optional?, h]
  cases o <;> rfl

theorem readsBack_ofOption (h : ∀ a, ReadsBack (write a)) (o : Option α) : ReadsBack (ofOption write o) := by
  cases o with
  | none => exact readsBack_null
  | some a => exact h a

theorem readsBack_ofSize (n : UInt32) : ReadsBack (ofSize n) := by
  have hn : n.toNat < 4294967296 := n.toNat_lt
  exact readsBack_integer ⟨by omega, by omega⟩

theorem required?_size {n : UInt32} (h : fields.lookup name = some (ofSize n)) :
    required? size? fields name = some n := by
  rw [required?, h, Option.bind_some, size?_ofSize]

end Json

open Json

theorem DataType.ofJson?_toJson (t : DataType) : ofJson? t.toJson = some t := by
  cases t <;> rfl

theorem DefaultValue.toJson_ne_null (v : DefaultValue) : v.toJson ≠ .null := by
  cases v <;> exact nofun

theorem DefaultValue.ofJson?_toJson (v : DefaultValue) : ofJson? v.toJson = if v.isFinite then some v else none := by
  cases v with
  | integer n => exact congrArg (Option.map integer) (int64?_integer n)
  | float x =>
    have hread : ofJson? (float x).toJson = (ofFloat x).float?.map float := rfl
    rw [hread, float?_ofFloat, isFinite]
    split <;> rfl
  | _ => rfl

/-- Every default is read back from its text but a double that is not. -/
theorem DefaultValue.readsBack_toJson {v : DefaultValue} (h : ∀ x, v = float x → ReadsBack (ofFloat x)) :
    v.toJson.ReadsBack := by
  have hchoice : ∀ {name : String} {j : Json}, ReadsBack j → ReadsBack (.object [(name, j)]) :=
    fun hj => readsBack_object (List.forall_mem_singleton.2 hj) (List.pairwise_singleton _ _)
  cases v with
  | null => exact readsBack_string _
  | boolean b => exact hchoice (readsBack_bool b)
  | integer n => exact hchoice (readsBack_integer ⟨n.le_toInt, Int.le_trans n.toInt_le (by decide)⟩)
  | float x => exact hchoice (h x rfl)
  | string s => exact hchoice (readsBack_string s)
  | expression sql => exact hchoice (readsBack_string sql)

namespace Column

theorem default_ofJson? (c : Column) : optional? DefaultValue.ofJson? c.members "default" =
    if c.hasFiniteDefault then some c.default else none :=
  nullable?_ofOption DefaultValue.toJson_ne_null DefaultValue.ofJson?_toJson c.default

theorem allowedValues_ofJson? (c : Column) :
    required? (list? string?) c.members "allowed_values" = some c.allowedValues := by
  have hlist := list?_array (p := fun _ => true) string?_string c.allowedValues
  rw [List.all_eq_true.2 fun _ _ => rfl, if_pos rfl] at hlist
  exact hlist

theorem ofJson?_toJson (c : Column) : ofJson? c.toJson = if c.hasFiniteDefault then some c else none := by
  have hrecord : record? fieldNames c.toJson = some c.members := rfl
  have hname : required? string? c.members "name" = some c.name := rfl
  have hrename : optional? string? c.members "rename" = some c.rename := optional?_string rfl
  have htype : required? DataType.ofJson? c.members "data_type" = some c.dataType := c.dataType.ofJson?_toJson
  have hlength : required? size? c.members "length" = some c.length := required?_size rfl
  have hprecision : required? size? c.members "precision" = some c.precision := required?_size rfl
  have hscale : required? size? c.members "scale" = some c.scale := required?_size rfl
  have hnullable : required? bool? c.members "nullable" = some c.nullable := rfl
  have hkey : required? bool? c.members "primary_key" = some c.primaryKey := rfl
  have hincrement : required? bool? c.members "auto_increment" = some c.autoIncrement := rfl
  have hunsigned : required? bool? c.members "unsigned" = some c.unsigned := rfl
  have hgenerated : optional? string? c.members "generated_as" = some c.generatedAs := optional?_string rfl
  have halways : required? bool? c.members "always" = some c.always := rfl
  have hvirtual : optional? string? c.members "virtual_as" = some c.virtualAs := optional?_string rfl
  have hstored : optional? string? c.members "stored_as" = some c.storedAs := optional?_string rfl
  have hcurrent : required? bool? c.members "use_current" = some c.useCurrent := rfl
  have hcharset : optional? string? c.members "charset" = some c.charset := optional?_string rfl
  have hcollation : optional? string? c.members "collation" = some c.collation := optional?_string rfl
  have hcomment : optional? string? c.members "comment" = some c.comment := optional?_string rfl
  have hafter : optional? string? c.members "after" = some c.after := optional?_string rfl
  have hfirst : required? bool? c.members "first" = some c.first := rfl
  have hprojection : optional? string? c.members "projection" = some c.projection := optional?_string rfl
  have hsrid : required? size? c.members "srid" = some c.srid := required?_size rfl
  have hadded : required? bool? c.members "added" = some c.added := rfl
  rw [ofJson?, hrecord, Option.bind_eq_bind, Option.bind_some, hname, hrename, htype, hlength, hprecision, hscale,
    hnullable, hkey, hincrement, hunsigned, hgenerated, halways, hvirtual, hstored, c.default_ofJson?, hcurrent, hcharset,
    hcollation, hcomment, hafter, hfirst, hprojection, hsrid, c.allowedValues_ofJson?, hadded]
  cases c.hasFiniteDefault <;> rfl

theorem readsBack_toJson {c : Column} (h : ∀ x, c.default = some (.float x) → ReadsBack (ofFloat x)) :
    c.toJson.ReadsBack := by
  have hnames : (c.members.map Prod.fst).Nodup := by
    change fieldNames.Nodup
    decide
  have hdefault : ReadsBack (ofOption DefaultValue.toJson c.default) := by
    cases hc : c.default with
    | none => exact readsBack_null
    | some v => exact v.readsBack_toJson fun x hx => h x (by rw [hc, hx])
  have hoption : ∀ o, ReadsBack (ofOption string o) := readsBack_ofOption readsBack_string
  have hvalues : ReadsBack (array (c.allowedValues.map string)) :=
    readsBack_array (List.forall_mem_map.2 fun s _ => readsBack_string s)
  refine readsBack_object ?_ hnames
  simp [members, readsBack_string, readsBack_bool, readsBack_ofSize, hdefault, hoption, hvalues, DataType.toJson]

end Column

namespace Table

theorem columns_ofJson? (t : Table) : required? (list? Column.ofJson?) t.members "columns" =
    if t.hasFiniteDefaults then some (t.columns.map (·.toColumn)) else none := by
  have hlist := list?_array Column.ofJson?_toJson (t.columns.map (·.toColumn))
  rw [List.map_map, List.all_map] at hlist
  exact hlist

theorem ofJson?_toJson (t : Table) : ofJson? t.toJson = if t.hasFiniteDefaults then some t.stored else none := by
  have hrecord : record? fieldNames t.toJson = some t.members := rfl
  have hname : required? string? t.members "name" = some t.name := rfl
  have hschema : optional? string? t.members "schema" = some t.schema := optional?_string rfl
  have hprefix : required? string? t.members "prefix" = some t.namePrefix := rfl
  have htemporary : required? bool? t.members "temporary" = some t.temporary := rfl
  have hengine : optional? string? t.members "engine" = some t.engine := optional?_string rfl
  have hcharset : optional? string? t.members "charset" = some t.charset := optional?_string rfl
  have hcollation : optional? string? t.members "collation" = some t.collation := optional?_string rfl
  have hcomment : optional? string? t.members "comment" = some t.comment := optional?_string rfl
  have hoptions : optional? string? t.members "options" = some t.options := optional?_string rfl
  have hadded : required? bool? t.members "added" = some t.added := rfl
  rw [ofJson?, hrecord, Option.bind_eq_bind, Option.bind_some, hname, hschema, hprefix, htemporary, hengine, hcharset,
    hcollation, hcomment, hoptions, t.columns_ofJson?, hadded]
  cases t.hasFiniteDefaults
  · rfl
  · exact congrArg (fun columns => some { t with columns := columns, commands := [] }) List.map_map

/-- A table is read back from its text as JSON if the doubles among its defaults are. -/
theorem readsBack_toJson {t : Table}
    (h : ∀ c ∈ t.columns, ∀ x, c.default = some (.float x) → ReadsBack (ofFloat x)) : t.toJson.ReadsBack := by
  have hnames : (t.members.map Prod.fst).Nodup := by
    change fieldNames.Nodup
    decide
  have hoption : ∀ o, ReadsBack (ofOption string o) := readsBack_ofOption readsBack_string
  have hcolumns : ReadsBack (array (t.columns.map fun c => c.toColumn.toJson)) :=
    readsBack_array (List.forall_mem_map.2 fun c hc => Column.readsBack_toJson (h c hc))
  refine readsBack_object ?_ hnames
  simp [members, readsBack_string, readsBack_bool, hoption, hcolumns]

/-- A table whose JSON is read back from its text as it was written is itself read back, without its commands and the
snapshots of its columns. Only a default that is infinite or no number stands against it. -/
theorem read_back {α : Type} (encode : Json → α) (decode? : α → Option Json) (t : Table)
    (hfaithful : decode? (encode t.toJson) = some t.toJson) :
    (decode? (encode t.toJson)).bind ofJson? = if t.hasFiniteDefaults then some t.stored else none := by
  rw [hfaithful, Option.bind_some, ofJson?_toJson]

/-- A column that was read from a catalog and changed since, with a number as its default. -/
theorem read_back_of_changed_column :
    let c : Column := { name := "it's", dataType := .dateTimeTz, default := some (.float 0.5), added := false }
    let t : Table := ({ name := "t", columns := [.loaded c], added := false } : Table).modify "it's"
      [.comment "new", .allowedValues ["a", "\\n"]]
    t.commands ≠ [] ∧ ofText? t.toJson.text = some t.toJson ∧ (ofText? t.toJson.text).bind ofJson? = some { t with
      columns := [.ofColumn { c with comment := some "new", allowedValues := ["a", "\\n"] }], commands := [] } := by
  intro c t
  have hhalf : ReadsBack (ofFloat 0.5) :=
    readsBack_decimal false ['0'] ['5'] rfl rfl (List.forall_mem_singleton.2 rfl) (List.forall_mem_singleton.2 rfl)
      nofun nofun rfl
  have hfaithful : ofText? t.toJson.text = some t.toJson := by
    refine ofText?_text (readsBack_toJson (List.forall_mem_singleton.2 ?_))
    rintro _ ⟨⟩
    exact hhalf
  have hfinite : t.hasFiniteDefaults = true := by decide
  have hback := read_back text ofText? t hfaithful
  rw [if_pos hfinite] at hback
  exact ⟨nofun, hfaithful, hback⟩

end Table
end SqlDialects
