import Mathlib.Data.Fintype.EquivFin
import SqlDialects.Definition.Database
import SqlDialects.Proofs.Dialect.IdentifierReading
import SqlDialects.Text.Case

/-!
# Deletions from the catalog of SQLite

To drop many tables or views of SQLite is to delete their rows from its catalog by a list of names. The names are
written in the quotes of identifiers, and SQLite takes such a name for a column of the catalog where there is one, and
for a string only where there is none. So the list selects the named objects exactly if no name is that of a column and
none has a dot.
-/

namespace SqlDialects.Database

/-- Reads identifiers with commas between them up to a closing parenthesis, each as its parts. -/
def readMembers? (cs : List Char) : Option (List (List String) × List Char) :=
  match _ : Dialect.sqlite.readIdentifier? cs with
  | some (parts, ')' :: rest) => some ([parts], rest)
  | some (parts, ',' :: rest) => (readMembers? rest).map fun read => (parts :: read.1, read.2)
  | _ => none
termination_by cs.length
decreasing_by
  have := Dialect.length_of_readIdentifier? ‹_›
  simp only [List.length_cons] at *
  omega

/-- The sorts of objects that the catalog lists. -/
inductive ObjectKind where
  | table
  | index
  | view
  | trigger

/-- A row of the catalog. An index that belongs to a constraint has no text, and a view has no page. -/
structure CatalogRow where
  kind : ObjectKind
  name : String
  table : String
  page : Option Nat := none
  sql : Option String := none

/-- The columns of the catalog. -/
inductive CatalogColumn where
  | kind
  | name
  | table
  | page
  | sql
  deriving DecidableEq

/-- The word for a sort of objects. -/
def ObjectKind.word : ObjectKind → String
  | table => "table"
  | index => "index"
  | view => "view"
  | trigger => "trigger"

/-- What a row has in a column, if it is not null. A number is compared with a name by its digits. -/
def CatalogRow.cell? (r : CatalogRow) : CatalogColumn → Option String
  | .kind => some r.kind.word
  | .name => some r.name
  | .table => some r.table
  | .page => r.page.map toString
  | .sql => r.sql

/-- The columns of the catalog with their names. -/
def catalogColumns : List (String × CatalogColumn) :=
  [("type", .kind), ("name", .name), ("tbl_name", .table), ("rootpage", .page), ("sql", .sql)]

/-- The column of a name, in any case of its letters. -/
def catalogColumn? (name : String) : Option CatalogColumn :=
  (catalogColumns.find? fun column => Text.sameIgnoringCase column.1 name).map (·.2)

/-- The catalog itself goes by two names. -/
def isCatalog (table : String) : Bool :=
  ["sqlite_master", "sqlite_schema"].any (Text.sameIgnoringCase · table)

/-- What a member of a list stands for. -/
inductive Operand where
  | column (c : CatalogColumn)
  | text (s : String)

/-- What an identifier in quotes stands for where a value is expected: one part is the column of that name or else a
string, and with a dot it is a column of the catalog or nothing at all. -/
def operand? : List String → Option Operand
  | [name] => some (((catalogColumn? name).map .column).getD (.text name))
  | [table, name] => if isCatalog table then (catalogColumn? name).map .column else none
  | [schema, table, name] =>
    if Text.sameIgnoringCase "main" schema && isCatalog table then (catalogColumn? name).map .column else none
  | _ => none

/-- The value of a member for a row, if it is not null. -/
def Operand.value? (r : CatalogRow) : Operand → Option String
  | column c => r.cell? c
  | text s => some s

/-- Each member of a list stands for something, and the rows whose name is in the list are those of some names. -/
structure SelectsExactly (members : List (List String)) (names : List String) : Prop where
  operands : ∀ member ∈ members, operand? member ≠ none
  selects : ∀ r : CatalogRow,
    (∃ member ∈ members, ∃ o, operand? member = some o ∧ o.value? r = some r.name) ↔ r.name ∈ names

/-- A name that stands for itself: it has no dot and is not that of a column. -/
def IsLiteralName (name : String) : Prop :=
  '.' ∉ name.toList ∧ catalogColumn? name = none

/-- What stands between the dots of a name. -/
def partsOf (name : String) : List String :=
  (Text.splitAt '.' name.toList).map String.ofList

theorem readMembers?_last {cs rest : List Char} {parts : List String}
    (h : Dialect.sqlite.readIdentifier? cs = some (parts, ')' :: rest)) : readMembers? cs = some ([parts], rest) := by
  rw [readMembers?]
  split <;> simp_all

theorem readMembers?_comma {cs rest : List Char} {parts : List String}
    (h : Dialect.sqlite.readIdentifier? cs = some (parts, ',' :: rest)) :
    readMembers? cs = (readMembers? rest).map fun read => (parts :: read.1, read.2) := by
  rw [readMembers?]
  split <;> simp_all

/-- The names are read back from the list as their parts. -/
theorem readMembers?_joinIdents {names : List String} (hne : names ≠ []) (rest : List Char) :
    readMembers? ((Dialect.sqlite.joinIdents names ",").toList ++ ')' :: rest) = some (names.map partsOf, rest) := by
  induction names with
  | nil => exact absurd rfl hne
  | cons name names ih =>
    have hparts := Dialect.arePartsOf_splitAt name
    cases names with
    | nil =>
      have hend : Dialect.sqlite.EndsIdentifier (')' :: rest) := ⟨by simp, by simp [Dialect.identifierQuote]⟩
      simpa [Dialect.joinIdents, partsOf] using readMembers?_last (Dialect.readIdentifier?_quoteIdent hparts hend)
    | cons next names =>
      let later := (Dialect.sqlite.joinIdents (next :: names) ",").toList ++ ')' :: rest
      have hend : Dialect.sqlite.EndsIdentifier (',' :: later) := ⟨by simp, by simp [Dialect.identifierQuote]⟩
      have hread := readMembers?_comma (Dialect.readIdentifier?_quoteIdent hparts hend)
      rw [ih nofun] at hread
      simpa [Dialect.joinIdents, partsOf, later, String.intercalate_cons_cons] using hread

variable {names : List String} {name : String} {r : CatalogRow} {o : Operand}

theorem partsOf_of_notMem (h : '.' ∉ name.toList) : partsOf name = [name] := by
  simp [partsOf, Text.splitAt_of_notMem h]

theorem operand?_of_isLiteralName (h : IsLiteralName name) : operand? (partsOf name) = some (.text name) := by
  simp [partsOf_of_notMem h.1, operand?, h.2]

/-- With a dot, a name never stands for a string. -/
theorem exists_column_of_dot (hdot : '.' ∈ name.toList) (h : operand? (partsOf name) = some o) :
    ∃ c, o = .column c := by
  have hparts := Dialect.arePartsOf_splitAt name
  unfold operand? at h
  split at h
  · next part heq =>
    have hwhole : ".".intercalate [part] = name := heq ▸ hparts.joined
    have hpart : '.' ∉ part.toList := hparts.dot_notMem part (by rw [← partsOf, heq]; simp)
    rw [String.intercalate_singleton] at hwhole
    exact absurd (hwhole ▸ hdot) hpart
  · split at h
    · obtain ⟨c, _, rfl⟩ := Option.map_eq_some_iff.1 h
      exact ⟨c, rfl⟩
    · cases h
  · split at h
    · obtain ⟨c, _, rfl⟩ := Option.map_eq_some_iff.1 h
      exact ⟨c, rfl⟩
    · cases h
  · cases h

/-- A name stands for a string only if it stands for itself. -/
theorem eq_of_operand?_text {s : String} (h : operand? (partsOf name) = some (.text s)) :
    IsLiteralName name ∧ s = name := by
  by_cases hdot : '.' ∈ name.toList
  · obtain ⟨c, hc⟩ := exists_column_of_dot hdot h
    cases hc
  · rw [partsOf_of_notMem hdot, operand?, Option.some.injEq] at h
    cases hcolumn : catalogColumn? name with
    | none =>
      rw [hcolumn] at h
      exact ⟨⟨hdot, hcolumn⟩, (Operand.text.inj h).symm⟩
    | some c =>
      rw [hcolumn] at h
      cases h

theorem selectsExactly_of_isLiteralName (h : ∀ name ∈ names, IsLiteralName name) :
    SelectsExactly (names.map partsOf) names where
  operands := by
    intro member hmember
    obtain ⟨name, hname, rfl⟩ := List.mem_map.1 hmember
    rw [operand?_of_isLiteralName (h name hname)]
    exact Option.some_ne_none _
  selects := by
    intro r
    constructor
    · rintro ⟨member, hmember, o, ho, hvalue⟩
      obtain ⟨name, hname, rfl⟩ := List.mem_map.1 hmember
      rw [operand?_of_isLiteralName (h name hname)] at ho
      cases ho
      exact Option.some.inj hvalue ▸ hname
    · intro hr
      exact ⟨_, List.mem_map_of_mem hr, _, operand?_of_isLiteralName (h _ hr), rfl⟩

/-- A name that is read as the column of the names selects every row. -/
theorem not_selectsExactly_of_name (hname : name ∈ names) (h : operand? (partsOf name) = some (.column .name)) :
    ¬ SelectsExactly (names.map partsOf) names := by
  intro hexact
  obtain ⟨other, hother⟩ := Infinite.exists_notMem_finset names.toFinset
  refine hother (List.mem_toFinset.2 ((hexact.selects { kind := .table, name := other, table := other }).1 ?_))
  exact ⟨_, List.mem_map_of_mem hname, _, h, rfl⟩

theorem isLiteralName_index : IsLiteralName "index" :=
  ⟨by decide, by decide +kernel⟩

theorem isLiteralName_t : IsLiteralName "t" :=
  ⟨by decide, by decide +kernel⟩

/-- A name that is read as another column, or as nothing, does not select an index of that name. -/
theorem not_selectsExactly_of_other (hname : name ∈ names) (hliteral : ¬ IsLiteralName name)
    (hnone : ∀ other ∈ names, operand? (partsOf other) ≠ some (.column .name)) :
    ¬ SelectsExactly (names.map partsOf) names := by
  intro hexact
  -- No cell of this row but its name is the name of a column.
  obtain ⟨member, hmember, o, ho, hvalue⟩ := (hexact.selects { kind := .index, name := name, table := "t" }).2 hname
  obtain ⟨other, hother, rfl⟩ := List.mem_map.1 hmember
  cases o with
  | text s =>
    obtain ⟨hself, rfl⟩ := eq_of_operand?_text ho
    have hsame : s = name := Option.some.inj hvalue
    exact hliteral (hsame ▸ hself)
  | column c =>
    cases c with
    | kind =>
      have hword : "index" = name := Option.some.inj hvalue
      exact hliteral (hword ▸ isLiteralName_index)
    | name => exact hnone other hother ho
    | table =>
      have htable : "t" = name := Option.some.inj hvalue
      exact hliteral (htable ▸ isLiteralName_t)
    | page => cases hvalue
    | sql => cases hvalue

theorem selectsExactly_iff : SelectsExactly (names.map partsOf) names ↔ ∀ name ∈ names, IsLiteralName name := by
  refine ⟨fun hexact name hname => ?_, selectsExactly_of_isLiteralName⟩
  by_contra hliteral
  by_cases hnone : ∀ other ∈ names, operand? (partsOf other) ≠ some (.column .name)
  · exact not_selectsExactly_of_other hname hliteral hnone hexact
  · push Not at hnone
    obtain ⟨other, hother, hcolumn⟩ := hnone
    exact not_selectsExactly_of_name hother hcolumn hexact

theorem deleteFromMaster_of_ne_nil (types : String) (hne : names ≠ []) :
    deleteFromMaster types names = "delete from sqlite_master where type in (" ++ types ++ ")" ++ " and name in (" ++
      (Dialect.sqlite.joinIdents names "," ++ ");") := by
  have hsome : ¬ names.isEmpty = true := by simpa using hne
  have hend : ");" = ")" ++ ";" := by decide
  unfold deleteFromMaster
  rw [if_neg hsome, hend]
  simp only [String.append_assoc]

/-- The lists of names in the deletions of tables and of views are the same, and are read back as the parts of the
names. They select the rows of these names exactly if no name has a dot and none is that of a column of the catalog. -/
theorem dropTables_selects_iff (names : List String) (hne : names ≠ []) :
    ∃ list members,
      dropTables .sqlite names =
        "delete from sqlite_master where type in ('table', 'index', 'trigger') and name in (" ++ list ∧
      dropViews .sqlite names = "delete from sqlite_master where type in ('view') and name in (" ++ list ∧
      readMembers? list.toList = some (members, [';']) ∧
      (SelectsExactly members names ↔ ∀ name ∈ names, '.' ∉ name.toList ∧ catalogColumn? name = none) := by
  have hread := readMembers?_joinIdents hne [';']
  have htables :
      "delete from sqlite_master where type in (" ++ "'table', 'index', 'trigger'" ++ ")" ++ " and name in (" =
        "delete from sqlite_master where type in ('table', 'index', 'trigger') and name in (" := by decide
  have hviews : "delete from sqlite_master where type in (" ++ "'view'" ++ ")" ++ " and name in (" =
      "delete from sqlite_master where type in ('view') and name in (" := by decide
  refine ⟨Dialect.sqlite.joinIdents names "," ++ ");", names.map partsOf, ?_, ?_, ?_, selectsExactly_iff⟩
  · rw [dropTables, deleteFromMaster_of_ne_nil _ hne, htables]
  · rw [dropViews, deleteFromMaster_of_ne_nil _ hne, hviews]
  · simpa using hread

/-- A table whose name is that of the column of names, but for the case of a letter. -/
theorem dropTables_selects_iff_of_column_name :
    ∃ list members,
      dropTables .sqlite ["users", "Name"] =
        "delete from sqlite_master where type in ('table', 'index', 'trigger') and name in (" ++ list ∧
      readMembers? list.toList = some (members, [';']) ∧ ¬ SelectsExactly members ["users", "Name"] := by
  obtain ⟨list, members, htables, -, hread, hiff⟩ := dropTables_selects_iff ["users", "Name"] nofun
  refine ⟨list, members, htables, hread, fun hexact => ?_⟩
  have hname : catalogColumn? "Name" = some .name := by decide +kernel
  exact absurd (hiff.1 hexact "Name" (by simp)).2 (by simp [hname])

end SqlDialects.Database
