import SqlDialects.Definition.ColumnType
import SqlDialects.Proofs.Catalog.MemberReading
import SqlDialects.Proofs.Catalog.RowReading

/-!
# The types that MySQL reports

MySQL reports the type of a column by its name, by a text with its arguments and attributes, and by sizes in cells of
their own. Most of its types are read as an abstract type that is spelled the same again. Some have no abstract type
of their own and are read as a similar one. The members of an enumeration or a set are given back unless one of them
has a comma or a quote.
-/

namespace SqlDialects

/-- Two states of a column that agree on its type, with its sizes and with its members if it is of a type that has
any. -/
structure Column.SameType (c c' : Column) : Prop where
  dataType : c'.dataType = c.dataType
  length : c'.length = c.length
  precision : c'.precision = c.precision
  scale : c'.scale = c.scale
  members : c.dataType = .enum ∨ c.dataType = .set → c'.allowedValues = c.allowedValues

theorem Row.size_eq_zero {r : Row} {cell : String} (h : r.int? cell = none) : r.size cell = 0 := by
  rw [Row.size, h]

namespace Catalog.MySql
open Text

/-- The types without arguments. -/
def wordTypes : List (String × DataType) :=
  [("text", .text), ("mediumtext", .mediumText), ("longtext", .longText), ("tinyblob", .tinyBlob), ("blob", .blob),
   ("mediumblob", .mediumBlob), ("longblob", .longBlob), ("json", .json), ("date", .date), ("geometry", .geometry),
   ("point", .point), ("linestring", .lineString), ("polygon", .polygon),
   ("geometrycollection", .geometryCollection), ("multipoint", .multiPoint),
   ("multilinestring", .multiLineString), ("multipolygon", .multiPolygon)]

/-- The types whose only argument is a width to display them in. -/
def widthTypes : List (String × DataType) :=
  [("tinyint", .tinyInt), ("smallint", .smallInt), ("mediumint", .mediumInt), ("int", .int), ("bigint", .bigInt),
   ("year", .year)]

/-- The types with a length. -/
def lengthTypes : List (String × DataType) :=
  [("char", .char), ("varchar", .string)]

/-- The types with a precision and a scale. -/
def scaleTypes : List (String × DataType) :=
  [("decimal", .decimal), ("float", .float), ("double", .double)]

/-- The types with fraction digits of a second. -/
def momentTypes : List (String × DataType) :=
  [("datetime", .dateTime), ("timestamp", .timestamp), ("time", .time)]

/-- The types with members. -/
def memberTypes : List (String × DataType) :=
  [("enum", .enum), ("set", .set)]

/-- The types that are never shown as a boolean is. -/
def otherTypes : List (String × DataType) :=
  wordTypes ++ lengthTypes ++ scaleTypes ++ momentTypes ++ memberTypes

/-- The types that are read as another one. -/
def foldedTypes : List (String × DataType × ColumnType) :=
  [("tinytext", .text, .bare "text"), ("binary", .binary, .bare "blob"), ("varbinary", .binary, .bare "blob"),
   ("bit", .boolean, .sized "tinyint" 1), ("geomcollection", .geometryCollection, .bare "geometrycollection")]

/-- The name of the type of a column, and its text. -/
structure Names (r : Row) (name text : String) : Prop where
  name : r.text? "DATA_TYPE" = some name
  text : r.text? "COLUMN_TYPE" = some text

/-- A cell that holds a size. -/
def HasSize (r : Row) (cell : String) (n : UInt32) : Prop :=
  ∃ k, r.int? cell = some k ∧ k.toInt = n.toNat

/-- A member that is the same between the quotes of a text. -/
def IsPlainMember (v : String) : Prop :=
  v ≠ "" ∧ ∀ x ∈ [',', '\'', '\\'], x ∉ v.toList

/-- The members of an enumeration or a set, as they stand in its text. -/
def memberText (values : List String) : String :=
  ",".intercalate (values.map fun v => "'" ++ v ++ "'")

/-- A row reports a type, with all its arguments but for a width. Attributes may follow the arguments. -/
inductive Reports (r : Row) : ColumnType → Prop
  | word {name : String} {u : DataType} (hname : (name, u) ∈ wordTypes) (h : Names r name name) :
    Reports r (.bare name)
  | width {name widthAndAttributes : String} {u : DataType} (hname : (name, u) ∈ widthTypes)
    (h : Names r name (name ++ widthAndAttributes))
    (hboolean : sameIgnoringCase (name ++ widthAndAttributes) "tinyint(1)" = false) : Reports r (.bare name)
  | boolean (h : Names r "tinyint" "tinyint(1)") : Reports r (.sized "tinyint" 1)
  | length {name : String} {u : DataType} {n : UInt32} (hname : (name, u) ∈ lengthTypes)
    (h : Names r name (name ++ "(" ++ toString n.toNat ++ ")")) (hlength : HasSize r "CHARACTER_MAXIMUM_LENGTH" n) :
    Reports r (.sized name n)
  | scale {name attributes : String} {u : DataType} {p s : UInt32} (hname : (name, u) ∈ scaleTypes)
    (h : Names r name (name ++ "(" ++ toString p.toNat ++ "," ++ toString s.toNat ++ ")" ++ attributes)) (hp : 0 < p)
    (hprecision : HasSize r "NUMERIC_PRECISION" p) (hscale : HasSize r "NUMERIC_SCALE" s) :
    Reports r { name := name, args := .sizes [p, s] }
  | moment {name : String} {u : DataType} (hname : (name, u) ∈ momentTypes) (h : Names r name name)
    (hprecision : r.int? "NUMERIC_PRECISION" = none) : Reports r (.bare name)
  | members {name : String} {u : DataType} {values : List String} (hname : (name, u) ∈ memberTypes)
    (h : Names r name (name ++ "(" ++ memberText values ++ ")")) (hvalues : ∀ v ∈ values, IsPlainMember v) :
    Reports r { name := name, args := .values values }

/-- A row reports a type that is read as another one. -/
def Folds (r : Row) (type : ColumnType) : Prop :=
  ∃ name arguments u, (name, u, type) ∈ foldedTypes ∧ Names r name (name ++ arguments)

/-! ## Reading a type -/

theorem dataType_of_otherTypes : ∀ p ∈ otherTypes, dataType .mysql p.1 = .ok p.2 := by
  simp only [otherTypes, wordTypes, lengthTypes, scaleTypes, momentTypes, memberTypes, List.cons_append,
    List.nil_append, List.forall_mem_cons, List.not_mem_nil, false_imp_iff, implies_true, and_true]
  and_intros <;> decide +kernel

theorem dataType_of_widthTypes : ∀ p ∈ widthTypes, dataType .mysql p.1 = .ok p.2 := by
  simp only [widthTypes, List.forall_mem_cons, List.not_mem_nil, false_imp_iff, implies_true, and_true]
  and_intros <;> decide +kernel

theorem dataType_of_foldedTypes : ∀ p ∈ foldedTypes, dataType .mysql p.1 = .ok p.2.1 := by
  simp only [foldedTypes, List.forall_mem_cons, List.not_mem_nil, false_imp_iff, implies_true, and_true]
  and_intros <;> decide +kernel

theorem mysql?_of_wordTypes : ∀ p ∈ wordTypes, ∀ c : Column, c.dataType = p.2 →
    ColumnType.mysql? c = some (.bare p.1) := by
  simp only [wordTypes, List.forall_mem_cons, List.not_mem_nil, false_imp_iff, implies_true, and_true]
  and_intros <;>
  · intro c hc
    simp [ColumnType.mysql?, ColumnType.spatialName?, hc]

theorem mysql?_of_widthTypes : ∀ p ∈ widthTypes, ∀ c : Column, c.dataType = p.2 →
    ColumnType.mysql? c = some (.bare p.1) := by
  simp only [widthTypes, List.forall_mem_cons, List.not_mem_nil, false_imp_iff, implies_true, and_true]
  and_intros <;>
  · intro c hc
    simp [ColumnType.mysql?, hc]

theorem mysql?_of_lengthTypes : ∀ p ∈ lengthTypes, ∀ c : Column, c.dataType = p.2 →
    ColumnType.mysql? c = some (.sized p.1 c.length) := by
  simp only [lengthTypes, List.forall_mem_cons, List.not_mem_nil, false_imp_iff, implies_true, and_true]
  and_intros <;>
  · intro c hc
    simp [ColumnType.mysql?, hc]

theorem mysql?_of_scaleTypes : ∀ p ∈ scaleTypes, ∀ c : Column, c.dataType = p.2 → 0 < c.precision →
    ColumnType.mysql? c = some { name := p.1, args := .sizes [c.precision, c.scale] } := by
  simp only [scaleTypes, List.forall_mem_cons, List.not_mem_nil, false_imp_iff, implies_true, and_true]
  and_intros <;>
  · intro c hc hp
    simp [ColumnType.mysql?, ColumnType.withScale, hc, hp]

theorem mysql?_of_momentTypes : ∀ p ∈ momentTypes, ∀ c : Column, c.dataType = p.2 → c.precision = 0 →
    ∃ tail, ColumnType.mysql? c = some { name := p.1, tail := tail } := by
  simp only [momentTypes, List.forall_mem_cons, List.not_mem_nil, false_imp_iff, implies_true, and_true]
  and_intros <;>
  · intro c hc hp
    cases hnow : c.useCurrent <;> simp [ColumnType.mysql?, withPrecision, hc, hp, hnow]

theorem mysql?_of_memberTypes : ∀ p ∈ memberTypes, ∀ c : Column, c.dataType = p.2 →
    ColumnType.mysql? c = some { name := p.1, args := .values c.allowedValues } := by
  simp only [memberTypes, List.forall_mem_cons, List.not_mem_nil, false_imp_iff, implies_true, and_true]
  and_intros <;>
  · intro c hc
    simp [ColumnType.mysql?, hc]

theorem mysql?_of_foldedTypes : ∀ p ∈ foldedTypes, ∀ c : Column, c.dataType = p.2.1 →
    ColumnType.mysql? c = some p.2.2 := by
  simp only [foldedTypes, List.forall_mem_cons, List.not_mem_nil, false_imp_iff, implies_true, and_true]
  and_intros <;>
  · intro c hc
    simp [ColumnType.mysql?, ColumnType.spatialName?, hc]

section Row

variable {r : Row} {c : TableColumn} {name text cell : String} {n : UInt32}

theorem size_of_hasSize (h : HasSize r cell n) : r.size cell = n := by
  obtain ⟨k, hk, hn⟩ := h
  have hlimit : (4294967295 : Int64).toInt = 4294967295 := by decide
  have hbound : 0 ≤ k ∧ k ≤ 4294967295 := by
    rw [Int64.le_iff_toInt_le, Int64.le_iff_toInt_le, hn, hlimit, Int64.toInt_zero]
    have hlt := n.toNat_lt
    omega
  rw [Row.size, hk]
  simp only [hbound, and_self, if_true, hn, Int.toNat_natCast, UInt32.ofNat_toNat]

/-- Only a text that begins as that of a boolean is one. -/
theorem sameIgnoringCase_boolean (hname : (name.toList.map Char.toLower).isPrefixOf "tinyint(1)".toList = false)
    (hbegins : name.toList <+: text.toList) : sameIgnoringCase text "tinyint(1)" = false := by
  refine beq_eq_false_iff_ne.2 fun hsame => ?_
  have hlower : text.toList.map Char.toLower = "tinyint(1)".toList.map Char.toLower := by
    simpa only [toList_toLower] using congrArg String.toList hsame
  have hboolean : "tinyint(1)".toList.map Char.toLower = "tinyint(1)".toList := by decide
  have hprefix := hbegins.map Char.toLower
  rw [hlower, hboolean, ← List.isPrefixOf_iff_prefix, hname] at hprefix
  exact Bool.false_ne_true hprefix

/-- A type that is never shown as a boolean is found by its name. -/
theorem dataTypeOf_of_otherTypes {u : DataType} (hname : (name, u) ∈ otherTypes) (h : Names r name text)
    (hbegins : name.toList <+: text.toList) : dataTypeOf r ((r.text? "COLUMN_TYPE").getD "") = .ok u := by
  have hother : ∀ p ∈ otherTypes, (p.1.toList.map Char.toLower).isPrefixOf "tinyint(1)".toList = false := by decide
  have hboolean := sameIgnoringCase_boolean (hother (name, u) hname) hbegins
  rw [h.text, Option.getD_some, dataTypeOf, if_neg (by simp [hboolean])]
  exact except_bind_eq_ok.2 ⟨name, Row.text_eq_ok_iff.2 h.name, dataType_of_otherTypes (name, u) hname⟩

theorem dataType_of_names (h : columnOf r = .ok c) (hnames : Names r name text)
    (hboolean : sameIgnoringCase text "tinyint(1)" = false) : dataType .mysql name = .ok c.dataType := by
  obtain ⟨ht, _⟩ := columnOf_eq_ok h
  rw [hnames.text, Option.getD_some, dataTypeOf, if_neg (by simp [hboolean])] at ht
  obtain ⟨found, hfound, ht⟩ := except_bind_eq_ok.1 ht
  cases hfound.symm.trans (Row.text_eq_ok_iff.2 hnames.name)
  exact ht

/-- A type that is never shown as a boolean is read by its name. -/
theorem dataType_eq_of_names {u : DataType} (hc : columnOf r = .ok c) (hname : (name, u) ∈ otherTypes)
    (h : Names r name text) (hbegins : name.toList <+: text.toList) : c.dataType = u := by
  obtain ⟨hread, _⟩ := columnOf_eq_ok hc
  exact Except.ok.inj (hread.symm.trans (dataTypeOf_of_otherTypes hname h hbegins))

end Row

/-! ## Reading members -/

/-- The members are read back from their text. -/
theorem splitList_memberText {values : List String} (hvalues : ∀ v ∈ values, IsPlainMember v) :
    splitList (· = '\'') (memberText values).toList = values := by
  by_cases hne : values = []
  · subst hne
    rfl
  have htext : memberText values = quotedMembers values := by
    rw [memberText, quotedMembers]
    refine congrArg _ (List.map_congr_left fun v hv => ?_)
    have hquote := (hvalues v hv).2 '\'' (by simp)
    refine String.toList_inj.1 ?_
    simp [Dialect.toList_standardString, double_of_notMem hquote]
  rw [htext, splitList_quotedMembers hne, flatMap_readMember_eq_self_iff fun v hv => (hvalues v hv).1]
  exact fun v hv => ⟨(hvalues v hv).2 ',' (by simp), (hvalues v hv).2 '\'' (by simp)⟩

theorem kind_of_memberTypes : ∀ p ∈ memberTypes, (p.2 = .enum ∨ p.2 = .set) ∧ '(' ∉ p.1.toList := by decide

/-- The members are what stands between the parentheses, as a list. -/
theorem membersOf_eq_splitList {r : Row} {c : Column} {name inner : String}
    (hkind : c.dataType = .enum ∨ c.dataType = .set) (hname : '(' ∉ name.toList)
    (h : Names r name (name ++ "(" ++ inner ++ ")")) :
    membersOf r c = .ok (splitList (· = '\'') inner.toList) := by
  have htext : (name ++ "(" ++ inner ++ ")").toList = name.toList ++ '(' :: (inner.toList ++ [')']) := by simp
  rw [membersOf, if_pos hkind, h.text, Option.getD_some, allowedValues, htext,
    inParentheses_eq_ok hname List.not_mem_nil]
  rfl

/-! ## Stating a type again -/

section Stated

variable {r : Row} {c : TableColumn} {c' : Column} {type : ColumnType}

/-- A column that was read from the report of a type is of that type, and so is each state of it that agrees on the
type. -/
theorem exists_stated_of_reports (h : Reports r type) (hc : columnOf r = .ok c) (hsame : c.SameType c') :
    ∃ stated, ColumnType.mysql? c' = some stated ∧ stated.name = type.name ∧ stated.args = type.args := by
  obtain ⟨htype, hlength, hprecision, hscale, hmembers⟩ := columnOf_eq_ok hc
  cases h with
  | @word name u hname h =>
    have hu : c.dataType = u := dataType_eq_of_names hc (by simp [otherTypes, hname]) h List.prefix_rfl
    exact ⟨_, mysql?_of_wordTypes (name, u) hname c' (hsame.dataType.trans hu), rfl, rfl⟩
  | @width name widthAndAttributes u hname h hboolean =>
    have hread := dataType_of_names hc h hboolean
    have hu : c.dataType = u := Except.ok.inj (hread.symm.trans (dataType_of_widthTypes (name, u) hname))
    exact ⟨_, mysql?_of_widthTypes (name, u) hname c' (hsame.dataType.trans hu), rfl, rfl⟩
  | boolean h =>
    rw [h.text, Option.getD_some, dataTypeOf, if_pos (sameIgnoringCase_self _)] at htype
    have hu : c'.dataType = .boolean := hsame.dataType.trans (Except.ok.inj htype).symm
    exact ⟨.sized "tinyint" 1, by simp [ColumnType.mysql?, hu], rfl, rfl⟩
  | @length name u n hname h hn =>
    have hu : c.dataType = u := dataType_eq_of_names hc (by simp [otherTypes, hname]) h (by simp)
    have hstated := mysql?_of_lengthTypes (name, u) hname c' (hsame.dataType.trans hu)
    have hlength' : c'.length = n := by rw [hsame.length, hlength, size_of_hasSize hn]
    exact ⟨_, hstated, rfl, by rw [hlength']⟩
  | @scale name attributes u p s hname h hp hp' hs =>
    have hu : c.dataType = u := dataType_eq_of_names hc (by simp [otherTypes, hname]) h (by simp)
    have hprecision' : c'.precision = p := by rw [hsame.precision, hprecision, size_of_hasSize hp']
    have hscale' : c'.scale = s := by rw [hsame.scale, hscale, size_of_hasSize hs]
    have hstated := mysql?_of_scaleTypes (name, u) hname c' (hsame.dataType.trans hu) (hprecision' ▸ hp)
    exact ⟨_, hstated, rfl, by rw [hprecision', hscale']⟩
  | @moment name u hname h hnone =>
    have hu : c.dataType = u := dataType_eq_of_names hc (by simp [otherTypes, hname]) h List.prefix_rfl
    have hprecision' : c'.precision = 0 := by rw [hsame.precision, hprecision, Row.size_eq_zero hnone]
    obtain ⟨tail, hstated⟩ := mysql?_of_momentTypes (name, u) hname c' (hsame.dataType.trans hu) hprecision'
    exact ⟨_, hstated, rfl, rfl⟩
  | @members name u values hname h hvalues =>
    have hu : c.dataType = u := dataType_eq_of_names hc (by simp [otherTypes, hname]) h (by simp)
    obtain ⟨hkind, hparenthesis⟩ := kind_of_memberTypes (name, u) hname
    rw [← hu] at hkind
    have hread := membersOf_eq_splitList hkind hparenthesis h
    rw [splitList_memberText hvalues] at hread
    have hvalues' : c'.allowedValues = values :=
      (hsame.members hkind).trans (Except.ok.inj (hmembers.symm.trans hread))
    have hstated := mysql?_of_memberTypes (name, u) hname c' (hsame.dataType.trans hu)
    exact ⟨_, hstated, rfl, by rw [hvalues']⟩

/-- A column that was read from the report of another type is stated as the one that it was read as. -/
theorem mysql?_of_folds (h : Folds r type) (hc : columnOf r = .ok c) (hsame : c.SameType c') :
    ColumnType.mysql? c' = some type := by
  obtain ⟨name, arguments, u, hname, h⟩ := h
  have hother : ∀ p ∈ foldedTypes, (p.1.toList.map Char.toLower).isPrefixOf "tinyint(1)".toList = false := by decide
  have hbegins : name.toList <+: (name ++ arguments).toList := by simp
  have hread := dataType_of_names hc h (sameIgnoringCase_boolean (hother (name, u, type) hname) hbegins)
  have hu : c.dataType = u := Except.ok.inj (hread.symm.trans (dataType_of_foldedTypes (name, u, type) hname))
  exact mysql?_of_foldedTypes (name, u, type) hname c' (hsame.dataType.trans hu)

end Stated

/-! ## Members of any kind -/

/-- A row that reports an enumeration or a set is loaded as a column of this type, each member read on its own. The
members are those that were reported exactly if none of them has a comma or a quote. -/
theorem columnOf_members_iff (r : Row) (column : String) (hcolumn : r.text? "COLUMN_NAME" = some column)
    (name : String) (u : DataType) (hname : (name, u) ∈ memberTypes) (values : List String)
    (h : Names r name (name ++ "(" ++ quotedMembers values ++ ")")) (hne : values ≠ [])
    (hvalues : ∀ v ∈ values, v ≠ "") :
    ∃ c, columnOf r = .ok c ∧ c.name = column ∧ c.dataType = u ∧ c.allowedValues = values.flatMap readMember ∧
      (c.allowedValues = values ↔ ∀ v ∈ values, ',' ∉ v.toList ∧ '\'' ∉ v.toList) := by
  obtain ⟨hkind, hparenthesis⟩ := kind_of_memberTypes (name, u) hname
  have htype : dataTypeOf r ((r.text? "COLUMN_TYPE").getD "") = .ok u :=
    dataTypeOf_of_otherTypes (by simp [otherTypes, hname]) h (by simp)
  have hmembers (c : Column) (hc : c.dataType = u) : membersOf r c = .ok (values.flatMap readMember) := by
    rw [membersOf_eq_splitList (hc ▸ hkind) hparenthesis h, splitList_quotedMembers hne]
  obtain ⟨c, hread, hcname, hcu, hcmembers⟩ := exists_columnOf_of_members hcolumn htype hmembers
  refine ⟨c, hread, hcname, hcu, hcmembers, ?_⟩
  rw [hcmembers]
  exact flatMap_readMember_eq_self_iff hvalues

/-- Blanks and parentheses are kept; a comma cuts a member in two, and the quotes in another one stay doubled. -/
theorem columnOf_members_iff_of_kept_and_cut :
    let kept : Row := ⟨[("COLUMN_NAME", .text "a"), ("DATA_TYPE", .text "set"),
      ("COLUMN_TYPE", .text "set(' x ',')(')")]⟩
    let cut : Row := ⟨[("COLUMN_NAME", .text "b"), ("DATA_TYPE", .text "enum"),
      ("COLUMN_TYPE", .text "enum('a,b','it''s')")]⟩
    (∃ c, columnOf kept = .ok c ∧ c.allowedValues = [" x ", ")("]) ∧
      ∃ c, columnOf cut = .ok c ∧ c.allowedValues = ["a", "b", "it''s"] ∧ c.allowedValues ≠ ["a,b", "it's"] := by
  intro kept cut
  refine ⟨?_, ?_⟩
  · have hname : kept.text? "COLUMN_NAME" = some "a" := by decide +kernel
    have hnames : Names kept "set" ("set" ++ "(" ++ quotedMembers [" x ", ")("] ++ ")") :=
      ⟨by decide +kernel, by decide +kernel⟩
    obtain ⟨c, hc, _, _, _, hiff⟩ := columnOf_members_iff kept "a" hname "set" .set (by simp [memberTypes])
      [" x ", ")("] hnames (by simp) (by simp)
    exact ⟨c, hc, hiff.2 (by decide)⟩
  · have hname : cut.text? "COLUMN_NAME" = some "b" := by decide +kernel
    have hnames : Names cut "enum" ("enum" ++ "(" ++ quotedMembers ["a,b", "it's"] ++ ")") :=
      ⟨by decide +kernel, by decide +kernel⟩
    obtain ⟨c, hc, _, _, hmembers, hiff⟩ := columnOf_members_iff cut "b" hname "enum" .enum (by simp [memberTypes])
      ["a,b", "it's"] hnames (by simp) (by simp)
    have hread : ["a,b", "it's"].flatMap readMember = ["a", "b", "it''s"] := by decide +kernel
    exact ⟨c, hc, hmembers.trans hread, mt hiff.1 (by decide)⟩

end Catalog.MySql
end SqlDialects
