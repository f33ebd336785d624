import SqlDialects.Catalog.Reading
import SqlDialects.Proofs.Outcome

/-! # What a row of a catalog is read as

Each catalog has rows of its own. However a row is read, the column is marked as read, and its snapshot is taken
last. -/

namespace SqlDialects

/-- A column as it was read, with its default and whether that is the current moment. -/
structure TableColumn.IsRead (c : TableColumn) (default : Option DefaultValue) (useCurrent : Bool) : Prop where
  notAdded : c.added = false
  notRenamed : c.rename = none
  snapshot : c.snapshot = some c.toColumn
  default : c.default = default
  useCurrent : c.useCurrent = useCurrent

theorem DefaultValue.beq_self {v : DefaultValue} (h : ∀ x, v ≠ .float x) : (v == v) = true := by
  cases v with
  | float x => exact absurd rfl (h x)
  | _ => simp [BEq.beq, same]

namespace Catalog

theorem readDefault_ne_float (text : String) (x : Float) : (readDefault text).value ≠ some (.float x) := by
  simp only [readDefault]
  split
  · simp
  · split
    · simp
    · split
      · simp
      · split <;> simp

namespace MySql

variable {r : Row} {c : TableColumn}

theorem defaultOf_ne_float (r : Row) (x : Float) : (defaultOf r).1 ≠ some (.float x) := by
  simp only [defaultOf]
  split
  · simp
  · split
    · simp
    · split <;> simp

/-- Whether the further properties of a column mention the current moment, and it does not count up. -/
def mentionsNow (r : Row) : Bool :=
  let extra := ((r.text? "EXTRA").getD "").toList
  !Text.occurs "auto_increment".toList extra && Text.occurs "CURRENT_TIMESTAMP".toList (extra.map Char.toUpper)

/-- Where the parentheses stand the right way round, what stands between them is cut out. -/
theorem inParentheses_eq_ok {before after : List Char} (hbefore : '(' ∉ before) (hafter : ')' ∉ after)
    (inner : List Char) : inParentheses (before ++ '(' :: (inner ++ ')' :: after)) = .ok (some inner) := by
  have hopening : Text.cutFirst? ['('] (before ++ '(' :: (inner ++ ')' :: after)) =
      some (before, inner ++ ')' :: after) :=
    Text.cutFirst?_singleton_eq_some_iff.2 ⟨rfl, hbefore⟩
  have hclosing : Text.cutLast? [')'] (before ++ '(' :: (inner ++ ')' :: after)) =
      some (before ++ '(' :: inner, after) :=
    Text.cutLast?_singleton_eq_some_iff.2 ⟨by simp, hafter⟩
  have hplaces : before.length + 1 ≤ (before ++ '(' :: inner).length := by simp
  have hbetween : ((before ++ '(' :: (inner ++ ')' :: after)).take (before ++ '(' :: inner).length).drop
      (before.length + 1) = inner := by
    have hsplit : before ++ '(' :: (inner ++ ')' :: after) = (before ++ '(' :: inner) ++ ')' :: after := by simp
    have hfront : before ++ '(' :: inner = (before ++ ['(']) ++ inner := by simp
    have hlength : before.length + 1 = (before ++ ['(']).length := by simp
    rw [hsplit, List.take_left, hfront, hlength, List.drop_left]
  have hcut : cutBetween (before.length + 1) (before ++ '(' :: inner).length
      (before ++ '(' :: (inner ++ ')' :: after)) = .ok inner :=
    (if_pos hplaces).trans (congrArg Except.ok hbetween)
  simp only [inParentheses, hopening, hclosing, hcut]
  rfl

/-- The members of a column of the attributes read. -/
def membersOf (r : Row) (c : Column) : Except Failure (List String) :=
  if c.dataType = .enum ∨ c.dataType = .set then allowedValues ((r.text? "COLUMN_TYPE").getD "") else .ok []

theorem columnOf_eq (r : Row) : columnOf r = (attributesOf r).mapError Failure.error >>= fun c =>
    (membersOf r c).map fun members => .loaded { c with allowedValues := members } := by
  unfold columnOf
  cases attributesOf r with
  | error e => rfl
  | ok c =>
    simp only [Except.mapError, bind, Except.bind, pure, Except.pure, membersOf, Bool.or_eq_true, decide_eq_true_eq]
    split
    · cases allowedValues ((r.text? "COLUMN_TYPE").getD "") <;> rfl
    · rfl

theorem attributesOf_eq_ok {c : Column} (h : attributesOf r = .ok c) :
    c.added = false ∧ c.rename = none ∧ c.default = (defaultOf r).1 ∧
      c.useCurrent = ((defaultOf r).2 || mentionsNow r) := by
  obtain ⟨name, _, h⟩ := except_bind_eq_ok.1 h
  obtain ⟨t, _, h⟩ := except_bind_eq_ok.1 h
  cases h
  exact ⟨rfl, rfl, rfl, rfl⟩

theorem columnOf_eq_ok (h : columnOf r = .ok c) :
    dataTypeOf r ((r.text? "COLUMN_TYPE").getD "") = .ok c.dataType ∧ c.length = r.size "CHARACTER_MAXIMUM_LENGTH" ∧
      c.precision = r.size "NUMERIC_PRECISION" ∧ c.scale = r.size "NUMERIC_SCALE" ∧
      membersOf r c.toColumn = .ok c.allowedValues := by
  rw [columnOf_eq] at h
  obtain ⟨attributes, hattributes, h⟩ := except_bind_eq_ok.1 h
  obtain ⟨members, hmembers, rfl⟩ := except_map_eq_ok.1 h
  obtain ⟨name, _, hattributes⟩ := except_bind_eq_ok.1 (except_mapError_eq_ok.1 hattributes)
  obtain ⟨t, ht, hattributes⟩ := except_bind_eq_ok.1 hattributes
  cases hattributes
  exact ⟨ht, rfl, rfl, rfl, hmembers⟩

theorem exists_attributesOf {name : String} {t : DataType} (hname : r.text? "COLUMN_NAME" = some name)
    (htype : dataTypeOf r ((r.text? "COLUMN_TYPE").getD "") = .ok t) :
    ∃ c, attributesOf r = .ok c ∧ c.name = name ∧ c.dataType = t :=
  ⟨_, except_bind_eq_ok.2 ⟨name, Row.text_eq_ok_iff.2 hname, except_bind_eq_ok.2 ⟨t, htype, rfl⟩⟩, rfl, rfl⟩

/-- A row with a name, a readable type and readable members is accepted. -/
theorem exists_columnOf_of_members {name : String} {t : DataType} {members : List String}
    (hname : r.text? "COLUMN_NAME" = some name) (htype : dataTypeOf r ((r.text? "COLUMN_TYPE").getD "") = .ok t)
    (hmembers : ∀ c : Column, c.dataType = t → membersOf r c = .ok members) :
    ∃ c, columnOf r = .ok c ∧ c.name = name ∧ c.dataType = t ∧ c.allowedValues = members := by
  obtain ⟨attributes, hattributes, rfl, rfl⟩ := exists_attributesOf hname htype
  refine ⟨.loaded { attributes with allowedValues := members }, ?_, rfl, rfl, rfl⟩
  rw [columnOf_eq, hattributes]
  exact except_bind_eq_ok.2 ⟨attributes, rfl, except_map_eq_ok.2 ⟨members, hmembers attributes rfl, rfl⟩⟩

/-- A row with a name and a readable type without members is accepted. -/
theorem exists_columnOf {name : String} {t : DataType} (hname : r.text? "COLUMN_NAME" = some name)
    (htype : dataTypeOf r ((r.text? "COLUMN_TYPE").getD "") = .ok t) (ht : t ≠ .enum ∧ t ≠ .set) :
    ∃ c, columnOf r = .ok c ∧ c.name = name ∧ c.dataType = t := by
  have hmembers (c : Column) (hc : c.dataType = t) : membersOf r c = .ok [] := if_neg (hc ▸ not_or.2 ht)
  obtain ⟨c, hcolumn, hcname, hct, _⟩ := exists_columnOf_of_members hname htype hmembers
  exact ⟨c, hcolumn, hcname, hct⟩

theorem isRead_columnOf (h : columnOf r = .ok c) : c.IsRead (defaultOf r).1 ((defaultOf r).2 || mentionsNow r) := by
  rw [columnOf_eq] at h
  obtain ⟨attributes, hattributes, h⟩ := except_bind_eq_ok.1 h
  obtain ⟨members, _, rfl⟩ := except_map_eq_ok.1 h
  obtain ⟨hadded, hrename, hdefault, hcurrent⟩ := attributesOf_eq_ok (except_mapError_eq_ok.1 hattributes)
  exact ⟨hadded, hrename, rfl, hdefault, hcurrent⟩

end MySql

namespace Postgres

variable {r : Row} {c : TableColumn}

theorem defaultOf_ne_float (r : Row) (x : Float) : (defaultOf r).value ≠ some (.float x) := by
  unfold defaultOf
  split
  · split
    · simp
    · exact readDefault_ne_float _ x
  · simp

/-- A row with a name and a readable type, and with no members of its own or in a check, is accepted. -/
theorem exists_columnOf {name typeName : String} {t : DataType} (hname : r.text? "column_name" = some name)
    (hmembers : r.text? "enum_values" = none) (htypeName : r.text? "data_type" = some typeName)
    (htype : dataType .postgres typeName = .ok t) (hchecked : checkedValues r name = []) :
    ∃ c, columnOf r = .ok c ∧ c.name = name ∧ c.dataType = t := by
  have hplain : (if (checkedValues r name).isEmpty then t else .enum) = t := if_pos (by rw [hchecked]; rfl)
  have hnone : ¬ (none : Option String).isSome = true := nofun
  unfold columnOf
  rw [hmembers]
  exact ⟨_, except_bind_eq_ok.2 ⟨name, Row.text_eq_ok_iff.2 hname, (if_neg hnone).trans (except_bind_eq_ok.2
    ⟨typeName, Row.text_eq_ok_iff.2 htypeName, except_bind_eq_ok.2 ⟨t, htype, rfl⟩⟩)⟩, rfl, hplain⟩

theorem isRead_columnOf (h : columnOf r = .ok c) : c.IsRead (defaultOf r).value (defaultOf r).useCurrent := by
  obtain ⟨name, _, h⟩ := except_bind_eq_ok.1 h
  by_cases hmembers : (r.text? "enum_values").isSome = true
  · rw [if_pos hmembers] at h
    cases h
    exact ⟨rfl, rfl, rfl, rfl, rfl⟩
  · rw [if_neg hmembers] at h
    obtain ⟨typeName, _, h⟩ := except_bind_eq_ok.1 h
    obtain ⟨t, _, h⟩ := except_bind_eq_ok.1 h
    cases h
    exact ⟨rfl, rfl, rfl, rfl, rfl⟩

end Postgres

namespace Sqlite

/-- The default of a column and whether it is the current moment. -/
def defaultOf (info : ColumnInfo) : ReadDefault :=
  match info.default with
  | some raw => readDefault raw
  | none => ⟨none, false⟩

theorem defaultOf_ne_float (info : ColumnInfo) (x : Float) : (defaultOf info).value ≠ some (.float x) := by
  unfold defaultOf
  split
  · exact readDefault_ne_float _ x
  · simp

theorem exists_columnOf {info : ColumnInfo} {t : DataType} (htype : dataType .sqlite info.type = .ok t)
    (line : Option String) : ∃ c, columnOf info line = .ok c ∧ c.name = info.name :=
  ⟨_, except_bind_eq_ok.2 ⟨t, htype, rfl⟩, rfl⟩

theorem isRead_columnOf {info : ColumnInfo} {line : Option String} {c : TableColumn}
    (h : columnOf info line = .ok c) : c.IsRead (defaultOf info).value (defaultOf info).useCurrent := by
  obtain ⟨t, _, h⟩ := except_bind_eq_ok.1 h
  cases h
  exact ⟨rfl, rfl, rfl, rfl, rfl⟩

end Sqlite
end Catalog
end SqlDialects
