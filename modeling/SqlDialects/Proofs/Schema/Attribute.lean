import SqlDialects.Schema.Change

/-!
# Attributes of a column

Options and changes write attributes of a column. A column is read and written attribute by attribute: what was written
last to an attribute is what is read from it, and what is written to one attribute is not read from another.
-/

namespace SqlDialects

/-- An attribute that options or changes write. The name of a column and whether it was declared are none. -/
inductive Attribute where
  | rename
  | dataType
  | length
  | precision
  | scale
  | nullable
  | primaryKey
  | autoIncrement
  | unsigned
  | generatedAs
  | always
  | virtualAs
  | storedAs
  | default
  | useCurrent
  | charset
  | collation
  | comment
  | after
  | first
  | projection
  | srid
  | allowedValues
  deriving DecidableEq

/-- The values of an attribute. -/
def Attribute.Value : Attribute → Type
  | dataType => DataType
  | length | precision | scale | srid => UInt32
  | nullable | primaryKey | autoIncrement | unsigned | always | useCurrent | first => Bool
  | default => Option DefaultValue
  | rename | generatedAs | virtualAs | storedAs | charset | collation | comment | after | projection => Option String
  | allowedValues => List String

/-- A value for an attribute. -/
structure Assignment where
  key : Attribute
  value : key.Value

namespace Column

/-- Reads an attribute. -/
def get (c : Column) : (a : Attribute) → a.Value
  | .rename => c.rename
  | .dataType => c.dataType
  | .length => c.length
  | .precision => c.precision
  | .scale => c.scale
  | .nullable => c.nullable
  | .primaryKey => c.primaryKey
  | .autoIncrement => c.autoIncrement
  | .unsigned => c.unsigned
  | .generatedAs => c.generatedAs
  | .always => c.always
  | .virtualAs => c.virtualAs
  | .storedAs => c.storedAs
  | .default => c.default
  | .useCurrent => c.useCurrent
  | .charset => c.charset
  | .collation => c.collation
  | .comment => c.comment
  | .after => c.after
  | .first => c.first
  | .projection => c.projection
  | .srid => c.srid
  | .allowedValues => c.allowedValues

/-- Writes an attribute. -/
def put (c : Column) : (a : Attribute) → a.Value → Column
  | .rename, v => { c with rename := v }
  | .dataType, v => { c with dataType := v }
  | .length, v => { c with length := v }
  | .precision, v => { c with precision := v }
  | .scale, v => { c with scale := v }
  | .nullable, v => { c with nullable := v }
  | .primaryKey, v => { c with primaryKey := v }
  | .autoIncrement, v => { c with autoIncrement := v }
  | .unsigned, v => { c with unsigned := v }
  | .generatedAs, v => { c with generatedAs := v }
  | .always, v => { c with always := v }
  | .virtualAs, v => { c with virtualAs := v }
  | .storedAs, v => { c with storedAs := v }
  | .default, v => { c with default := v }
  | .useCurrent, v => { c with useCurrent := v }
  | .charset, v => { c with charset := v }
  | .collation, v => { c with collation := v }
  | .comment, v => { c with comment := v }
  | .after, v => { c with after := v }
  | .first, v => { c with first := v }
  | .projection, v => { c with projection := v }
  | .srid, v => { c with srid := v }
  | .allowedValues, v => { c with allowedValues := v }

/-- Writes values for attributes in order. -/
def putAll (c : Column) (ws : List Assignment) : Column :=
  ws.foldl (fun c w => c.put w.key w.value) c

variable {c c' : Column} {a b : Attribute} {w : Assignment} {ws : List Assignment}

@[simp] theorem get_put_self (c : Column) (v : a.Value) : (c.put a v).get a = v := by
  cases a <;> rfl

theorem get_put_of_ne (c : Column) (h : b ≠ a) (v : b.Value) : (c.put b v).get a = c.get a := by
  cases b <;> cases a <;> first | rfl | exact absurd rfl h

@[simp] theorem name_put (c : Column) (v : a.Value) : (c.put a v).name = c.name := by
  cases a <;> rfl

@[simp] theorem added_put (c : Column) (v : a.Value) : (c.put a v).added = c.added := by
  cases a <;> rfl

/-- A column is its name, whether it was declared, and its attributes. -/
theorem ext_get (hname : c.name = c'.name) (hadded : c.added = c'.added) (hget : ∀ a, c.get a = c'.get a) : c = c' := by
  cases c
  cases c'
  rw [mk.injEq]
  exact ⟨hname, hget .rename, hget .dataType, hget .length, hget .precision, hget .scale, hget .nullable,
    hget .primaryKey, hget .autoIncrement, hget .unsigned, hget .generatedAs, hget .always, hget .virtualAs,
    hget .storedAs, hget .default, hget .useCurrent, hget .charset, hget .collation, hget .comment, hget .after,
    hget .first, hget .projection, hget .srid, hget .allowedValues, hadded⟩

@[simp] theorem putAll_nil (c : Column) : c.putAll [] = c := rfl

@[simp] theorem putAll_cons (c : Column) (w : Assignment) (ws : List Assignment) :
    c.putAll (w :: ws) = (c.put w.key w.value).putAll ws := rfl

theorem putAll_append (c : Column) (ws xs : List Assignment) : c.putAll (ws ++ xs) = (c.putAll ws).putAll xs :=
  List.foldl_append

@[simp] theorem name_putAll (c : Column) (ws : List Assignment) : (c.putAll ws).name = c.name := by
  induction ws generalizing c with
  | nil => rfl
  | cons w ws ih => rw [putAll_cons, ih, name_put]

@[simp] theorem added_putAll (c : Column) (ws : List Assignment) : (c.putAll ws).added = c.added := by
  induction ws generalizing c with
  | nil => rfl
  | cons w ws ih => rw [putAll_cons, ih, added_put]

/-- What no assignment writes stays. -/
theorem get_putAll_of_notMem (c : Column) (h : a ∉ ws.map (·.key)) : (c.putAll ws).get a = c.get a := by
  induction ws generalizing c with
  | nil => rfl
  | cons w ws ih =>
    rw [List.map_cons, List.mem_cons, not_or] at h
    rw [putAll_cons, ih _ h.2, get_put_of_ne c (Ne.symm h.1)]

/-- The last assignment to an attribute is read from it. -/
theorem get_putAll_of_last (c : Column) (ws : List Assignment) {xs : List Assignment} (v : a.Value)
    (h : a ∉ xs.map (·.key)) : (c.putAll (ws ++ ⟨a, v⟩ :: xs)).get a = v := by
  rw [putAll_append, putAll_cons, get_putAll_of_notMem _ h, get_put_self]

/-- If each attribute is written once at most, every assignment is read back. -/
theorem get_putAll_of_nodup (c : Column) (hnodup : (ws.map (·.key)).Nodup) (h : w ∈ ws) :
    (c.putAll ws).get w.key = w.value := by
  obtain ⟨before, after, rfl⟩ := List.append_of_mem h
  refine get_putAll_of_last c before w.value ?_
  simp only [List.map_append, List.map_cons, List.nodup_append, List.nodup_cons] at hnodup
  exact hnodup.2.1.1

/-- Attributes that are set back are those from before. -/
theorem get_putAll_map (c c' : Column) {attributes : List Attribute} {a : Attribute} (ha : a ∈ attributes) :
    (c'.putAll (attributes.map fun a => ⟨a, c.get a⟩)).get a = c.get a := by
  induction attributes generalizing c' with
  | nil => cases ha
  | cons b attributes ih =>
    rw [List.map_cons, putAll_cons]
    by_cases hlater : a ∈ attributes
    · exact ih _ hlater
    · obtain rfl := (List.mem_cons.1 ha).resolve_right hlater
      rw [get_putAll_of_notMem _ (by simpa using hlater), get_put_self]

/-- Two columns that agree on an attribute still do so after the same assignments. -/
theorem get_putAll_congr (h : c.get a = c'.get a) (ws : List Assignment) :
    (c.putAll ws).get a = (c'.putAll ws).get a := by
  induction ws generalizing c c' with
  | nil => exact h
  | cons w ws ih =>
    refine ih ?_
    by_cases hw : w.key = a
    · subst hw
      rw [get_put_self, get_put_self]
    · rw [get_put_of_ne c hw, get_put_of_ne c' hw, h]

end Column
end SqlDialects
