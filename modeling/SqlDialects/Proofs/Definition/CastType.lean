import SqlDialects.Proofs.Definition.UntoldChange
import SqlDialects.Proofs.Query.Grouping

/-! # The type that an alteration casts to

To alter a column in PostgreSQL is to write its type twice, for the column and for the cast of what is in it. A type may
stand in a cast if it is a name, with arguments and a word on the time zone at most. The columns that were read are
given such types, except for the enumerations: their type brings its check along. -/

namespace SqlDialects
open Nesting

/-- The names of types without a sequence behind them. -/
def bareNames : List String :=
  ["char", "varchar", "text", "smallint", "integer", "bigint", "int2", "int4", "int8", "bytea", "double precision",
   "decimal", "boolean", "json", "jsonb", "date", "timestamp", "timestamptz", "time", "timetz", "uuid", "inet",
   "macaddr", "geometry"]

/-- What may follow the name of a type of time. -/
def zoneWords : List String :=
  ["", " with time zone", " without time zone"]

/-- A type as it may stand in a cast: a name, at most one list of arguments and at most one word on the time zone. -/
def IsCastType (text : List Char) : Prop :=
  ∃ name ∈ bareNames, ∃ args, (args = [] ∨ ∃ inner, args = '(' :: (inner ++ [')']) ∧ Balanced inner) ∧
    ∃ zone ∈ zoneWords, text = name.toList ++ args ++ zone.toList

theorem parenthesis_notMem_bareNames : ∀ name ∈ bareNames, '(' ∉ name.toList := by
  decide

/-- Behind the arguments of a type that ends in a parenthesis there is no word on the time zone. -/
theorem isCastType_parentheses_iff {name : String} (hname : '(' ∉ name.toList) (inner : List Char) :
    IsCastType (name.toList ++ '(' :: (inner ++ [')'])) ↔ name ∈ bareNames ∧ Balanced inner := by
  constructor
  · rintro ⟨word, hword, args, hargs, zone, hzone, htext⟩
    have hlast : (name.toList ++ '(' :: (inner ++ [')'])).getLast? = some ')' := by
      rw [← List.cons_append, ← List.append_assoc, List.getLast?_concat]
    obtain rfl : zone = "" := by
      simp only [zoneWords, List.mem_cons, List.not_mem_nil, or_false] at hzone
      rcases hzone with rfl | rfl | rfl
      · rfl
      · simp [htext] at hlast
      · simp [htext] at hlast
    have hplain := parenthesis_notMem_bareNames word hword
    have hcut : Text.cutFirst? ['('] (name.toList ++ '(' :: (inner ++ [')'])) = some (name.toList, inner ++ [')']) :=
      Text.cutFirst?_singleton_eq_some_iff.2 ⟨rfl, hname⟩
    rcases hargs with rfl | ⟨inner', rfl, hinner⟩
    · have hparenthesis : '(' ∈ name.toList ++ '(' :: (inner ++ [')']) := by simp
      rw [htext] at hparenthesis
      simp [hplain] at hparenthesis
    · have hcut' : Text.cutFirst? ['('] (name.toList ++ '(' :: (inner ++ [')'])) =
          some (word.toList, inner' ++ [')']) :=
        Text.cutFirst?_singleton_eq_some_iff.2 ⟨by simp [htext], hplain⟩
      obtain ⟨hsame, hrest⟩ := Prod.mk.inj (Option.some.inj (hcut.symm.trans hcut'))
      obtain rfl := String.toList_inj.1 hsame
      exact ⟨hword, List.append_cancel_right hrest ▸ hinner⟩
  · rintro ⟨hbare, hinner⟩
    exact ⟨name, hbare, _, .inr ⟨inner, rfl, hinner⟩, "", List.mem_cons_self, by simp⟩

namespace ColumnType

variable {c : Column} {type : ColumnType}

theorem balanced_args (ns : List UInt32) : Balanced (", ".intercalate (ns.map fun n => toString n.toNat)).toList := by
  rw [String.toList_intercalate, List.map_map]
  refine balanced_intercalate (by decide) fun part hpart => ?_
  obtain ⟨n, _, rfl⟩ := List.mem_map.1 hpart
  exact Dialect.balanced_repr n.toNat

/-- A name with sizes and a word on the time zone may stand in a cast. -/
theorem isCastType_render (hname : type.name ∈ bareNames) (hargs : type.args = .none ∨ ∃ ns, type.args = .sizes ns)
    (htail : type.tail = .none ∨ type.tail = .withTimeZone ∨ type.tail = .withoutTimeZone) :
    IsCastType (type.render .postgres).toList := by
  have hzone : type.tail.render .postgres ∈ zoneWords := by
    rcases htail with htail | htail | htail <;> rw [htail] <;> decide
  refine ⟨type.name, hname, (type.args.render .postgres).toList, ?_, _, hzone, by simp [render]⟩
  rcases hargs with hnone | ⟨ns, hsizes⟩
  · rw [hnone]
    exact .inl rfl
  · rw [hsizes]
    exact .inr ⟨_, by simp [TypeArgs.render], balanced_args ns⟩

/-- A column that was read is no serial column and has no identity. -/
theorem isCastType_counting {names : IntegerNames} (hread : c.added = false) (hplain : names.plain ∈ bareNames)
    (haltered : names.altered ∈ bareNames) : IsCastType ((counting names c).render .postgres).toList := by
  rw [counting_of_read hread]
  refine isCastType_render ?_ (.inl rfl) (.inl rfl)
  split
  · exact haltered
  · exact hplain

theorem isCastType_zoned {short long : String} {tail : TypeTail} (hshort : short ∈ bareNames) (hlong : long ∈ bareNames)
    (htail : tail = .none ∨ tail = .withTimeZone ∨ tail = .withoutTimeZone) :
    IsCastType ((zoned short long tail c).render .postgres).toList := by
  unfold zoned
  split
  · exact isCastType_render hshort (.inl rfl) (.inl rfl)
  · exact isCastType_render hlong (.inr ⟨_, rfl⟩) htail

/-- The check stands behind the closing parenthesis of the length. -/
theorem not_isCastType_enum (column : String) (values : List String) :
    ¬ IsCastType
      (render .postgres { name := "varchar", args := .sizes [255], tail := .check column values }).toList := by
  have htext : (render .postgres { name := "varchar", args := .sizes [255], tail := .check column values }).toList =
      "varchar".toList ++ '(' :: ("255)".toList ++ (" check (".toList ++ (Dialect.postgres.quoteIdent column).toList ++
        " in (".toList ++ (Dialect.postgres.quoteValues values).toList ++ ")".toList) ++ [')']) := by
    have hdigits : Nat.toDigits 10 255 = "255".toList := by decide
    simp [render, TypeArgs.render, TypeTail.render, hdigits]
  have hname : '(' ∉ "varchar".toList := by decide
  rw [htext, isCastType_parentheses_iff hname]
  rintro ⟨_, hinner⟩
  have hclosed : Place.read? {} "255)".toList = none := by decide
  exact Balanced.not_append_of_read?_eq_none hclosed _ hinner

/-- A projection is written as it is, so its own parentheses count. -/
theorem isCastType_spatial_iff {u : DataType} {name : String} (hname : spatialName? u = some name) (p : Option String) :
    IsCastType (render .postgres { name := "geometry", args := .words (name :: p.toList) }).toList ↔
      ∀ q, p = some q → Balanced q.toList := by
  have hplain : Balanced name.toList ∧ Balanced (name ++ ", ").toList := by
    cases u <;> cases hname <;> decide
  have htext : (render .postgres { name := "geometry", args := .words (name :: p.toList) }).toList =
      "geometry".toList ++ '(' :: ((", ".intercalate (name :: p.toList)).toList ++ [')']) := by
    simp [render, TypeArgs.render, TypeTail.render]
  have hgeometry : '(' ∉ "geometry".toList := by decide
  have hbare : "geometry" ∈ bareNames := by decide
  rw [htext, isCastType_parentheses_iff hgeometry, and_iff_right hbare]
  cases p with
  | none => simpa using hplain.1
  | some q =>
    have hboth : (", ".intercalate (name :: (some q).toList)).toList = (name ++ ", ").toList ++ q.toList := by
      simp
    rw [hboth, hplain.2.append_iff]
    simp

/-- Of the columns that were read, the enumerations are those with a type that is not to be cast to. -/
theorem isCastType_render_iff (htype : postgres? c = some type) (hread : c.added = false) :
    IsCastType (type.render .postgres).toList ↔ c.dataType ≠ .enum ∧
      ((spatialName? c.dataType).isSome = true → ∀ p, c.projection = some p → Balanced p.toList) := by
  cases hd : c.dataType with
  | enum =>
    simp only [postgres?, hd, Option.some.injEq] at htype
    exact iff_of_false (htype ▸ not_isCastType_enum c.name c.allowedValues) (by simp)
  | set | multiPolygonZ => simp [postgres?, hd, spatialName?] at htype
  | geometry | point | lineString | polygon | geometryCollection | multiPoint | multiLineString | multiPolygon =>
    simp only [postgres?, hd, spatialName?, Option.map_some, Option.some.injEq] at htype
    rw [← htype, isCastType_spatial_iff (u := c.dataType) (by rw [hd]; rfl)]
    simp [spatialName?]
  | tinyInt | smallInt | mediumInt | int | year | bigInt =>
    simp only [postgres?, hd, Option.some.injEq] at htype
    exact iff_of_true (htype ▸ isCastType_counting hread (by decide) (by decide)) (by simp [spatialName?])
  | dateTime | timestamp | time | dateTimeTz | timestampTz | timeTz =>
    simp only [postgres?, hd, Option.some.injEq] at htype
    exact iff_of_true (htype ▸ isCastType_zoned (by decide) (by decide) (by simp)) (by simp [spatialName?])
  | char | string | decimal =>
    simp only [postgres?, hd, Option.some.injEq] at htype
    have hname : type.name ∈ bareNames := by
      rw [← htype]
      simp [bareNames, sized]
    exact iff_of_true (isCastType_render hname (htype ▸ .inr ⟨_, rfl⟩) (htype ▸ .inl rfl)) (by simp [spatialName?])
  | _ =>
    simp only [postgres?, hd, Option.some.injEq] at htype
    have hname : type.name ∈ bareNames := by
      rw [← htype]
      decide
    exact iff_of_true (isCastType_render hname (htype ▸ .inl rfl) (htype ▸ .inl rfl)) (by simp [spatialName?])

end ColumnType

namespace Table

/-- What an alteration says of the default. -/
def defaultText : Option DefaultClause → String
  | some value => " SET DEFAULT " ++ value.render .postgres
  | none => " DROP DEFAULT"

/-- The alteration of a column whose type is spelled in some way: the type, the nullability and the default. -/
def alterText (t : Table) (c : Column) (type : String) : String :=
  "ALTER TABLE " ++ t.qualifiedName.render .postgres ++ " \n" ++
    "\tALTER COLUMN " ++ Dialect.postgres.quoteIdent c.finalName ++ " TYPE " ++ type ++
      " USING " ++ Dialect.postgres.quoteIdent c.finalName ++ "::" ++ type ++ ",\n" ++
    "\tALTER COLUMN " ++ Dialect.postgres.quoteIdent c.finalName ++
      (if c.nullable then " DROP NOT NULL" else " SET NOT NULL") ++ ",\n" ++
    "\tALTER COLUMN " ++ Dialect.postgres.quoteIdent c.finalName ++
      defaultText (Modifier.defaultClause? .postgres c) ++ ";"

/-- The renaming in front of an alteration, on a line of its own. -/
def renamingText (t : Table) (c : Column) (new : String) : String :=
  "ALTER TABLE " ++ t.qualifiedName.render .postgres ++ " RENAME COLUMN " ++
    Dialect.postgres.quoteIdent c.name ++ " TO " ++ Dialect.postgres.quoteIdent new ++ ";\n"

/-- The comment behind an alteration, on a line of its own. -/
def commentingText (t : Table) (c : Column) (text : String) : String :=
  "\nCOMMENT ON COLUMN " ++ t.qualifiedName.render .postgres ++ "." ++ Dialect.postgres.quoteIdent c.finalName ++
    " IS " ++ Dialect.postgres.quoteString text ++ ";"

variable {t : Table} {name : String} {c : TableColumn} {type : ColumnType}

/-- The alterations of a column whose type is known. -/
def alterStatement (t : Table) (c : Column) (type : ColumnType) : Statement :=
  .alterTable t.qualifiedName (.lines "\t") [.setType c.finalName type, .setNullable c.finalName c.nullable,
    .setDefault c.finalName (Modifier.defaultClause? .postgres c)]

theorem render_alterStatement (t : Table) (c : Column) (type : ColumnType) :
    (t.alterStatement c type).render .postgres = t.alterText c (type.render .postgres) := by
  have hlayout (x y z : String) : (Layout.lines "\t").render [x, y, z] =
      "\n" ++ ("\t" ++ x ++ ",\n" ++ ("\t" ++ y ++ ",\n" ++ ("\t" ++ z))) := by
    simp only [Layout.render, List.map_cons, List.map_nil, String.intercalate_cons_cons, String.intercalate_singleton]
  have hrender : (t.alterStatement c type).render .postgres =
      "ALTER TABLE " ++ t.qualifiedName.render .postgres ++ " " ++ (Layout.lines "\t").render
        [(Alteration.setType c.finalName type).render .postgres,
          (Alteration.setNullable c.finalName c.nullable).render .postgres,
          (Alteration.setDefault c.finalName (Modifier.defaultClause? .postgres c)).render .postgres] ++ ";" := rfl
  have htype : (Alteration.setType c.finalName type).render .postgres =
      "ALTER COLUMN " ++ Dialect.postgres.quoteIdent c.finalName ++ " TYPE " ++ type.render .postgres ++
        " USING " ++ Dialect.postgres.quoteIdent c.finalName ++ "::" ++ type.render .postgres := rfl
  have hnullable : (Alteration.setNullable c.finalName c.nullable).render .postgres =
      "ALTER COLUMN " ++ Dialect.postgres.quoteIdent c.finalName ++
        (if c.nullable then " DROP NOT NULL" else " SET NOT NULL") := rfl
  have hdefault (clause : Option DefaultClause) : (Alteration.setDefault c.finalName clause).render .postgres =
      "ALTER COLUMN " ++ Dialect.postgres.quoteIdent c.finalName ++ defaultText clause := by
    cases clause with
    | none => rfl
    | some value => exact String.append_assoc
  have htable : " \n" = " " ++ "\n" := rfl
  have hcolumn : "\tALTER COLUMN " = "\t" ++ "ALTER COLUMN " := rfl
  unfold alterText
  rw [hrender, hlayout, htype, hnullable, hdefault]
  simp only [String.append_assoc, htable, hcolumn]

theorem modifyColumn_postgres (hc : t.column? name = some c)
    (htype : ColumnType.ofColumn .postgres c.toColumn = .ok type) :
    t.modifyColumn .postgres name =
      .ok (t.renameStatements c ++ t.alterStatement c.toColumn type :: t.commentsOn Column.finalName [c]) := by
  have hfound : t.findColumn name = .ok c := findColumn_eq_ok_iff.2 hc
  have halter : postgresAlterations c.toColumn = .ok [.setType c.finalName type, .setNullable c.finalName c.nullable,
      .setDefault c.finalName (Modifier.defaultClause? .postgres c.toColumn)] :=
    except_map_eq_ok.2 ⟨type, htype, rfl⟩
  have hall : t.postgresModifications [c] =
      .ok (t.renameStatements c ++ t.alterStatement c.toColumn type :: t.commentsOn Column.finalName [c]) := by
    refine except_bind_eq_ok.2 ⟨_, mapM_eq_ok_iff.2 (.cons halter .nil), ?_⟩
    rw [List.flatMap_singleton, List.flatten_singleton]
    rfl
  exact except_bind_eq_ok.2 ⟨c, hfound, hall⟩

/-- At most one statement before another one, and at most one behind it. -/
theorem script_around (d : Dialect) (before after : Option Statement) (s : Statement) :
    Statement.script d (before.toList ++ s :: after.toList) =
      (before.map fun a => a.render d ++ "\n").getD "" ++ s.render d ++
        (after.map fun a => "\n" ++ a.render d).getD "" := by
  cases before <;> cases after <;> simp [Statement.script, String.intercalate_cons_cons, String.append_assoc]

theorem render_renameColumn (t : Table) (c : Column) (new : String) :
    (Statement.alterTable t.qualifiedName .oneLine [.renameColumn c.name new]).render .postgres ++ "\n" =
      t.renamingText c new := by
  have hrender : (Statement.alterTable t.qualifiedName .oneLine [.renameColumn c.name new]).render .postgres =
      "ALTER TABLE " ++ t.qualifiedName.render .postgres ++ " " ++ Layout.oneLine.render ["RENAME COLUMN " ++
        Dialect.postgres.quoteIdent c.name ++ " TO " ++ Dialect.postgres.quoteIdent new] ++ ";" := rfl
  have hcolumn : " RENAME COLUMN " = " " ++ "RENAME COLUMN " := rfl
  have hend : ";\n" = ";" ++ "\n" := rfl
  unfold renamingText
  rw [hrender, Layout.render, String.intercalate_singleton]
  simp only [String.append_assoc, hcolumn, hend]

theorem render_commentOnColumn (t : Table) (c : Column) (text : String) :
    "\n" ++ (Statement.commentOnColumn t.qualifiedName c.finalName text).render .postgres =
      t.commentingText c text := by
  have hrender : (Statement.commentOnColumn t.qualifiedName c.finalName text).render .postgres =
      "COMMENT ON COLUMN " ++ t.qualifiedName.render .postgres ++ "." ++ Dialect.postgres.quoteIdent c.finalName ++
        " IS " ++ Dialect.postgres.quoteString text ++ ";" := rfl
  have hcolumn : "\nCOMMENT ON COLUMN " = "\n" ++ "COMMENT ON COLUMN " := rfl
  unfold commentingText
  rw [hrender]
  simp only [String.append_assoc, hcolumn]

theorem renameStatements_eq (t : Table) (c : TableColumn) : t.renameStatements c =
    (c.newName?.map fun new => Statement.alterTable t.qualifiedName .oneLine [.renameColumn c.name new]).toList := by
  unfold renameStatements
  cases c.newName? <;> rfl

theorem commentsOn_singleton (t : Table) (c : TableColumn) : t.commentsOn Column.finalName [c] =
    (c.comment.map fun text => Statement.commentOnColumn t.qualifiedName c.finalName text).toList := by
  unfold commentsOn
  cases hcomment : c.comment <;> simp [hcomment]

/-- All that is written to alter a column. -/
def modificationText (t : Table) (c : Column) (type : String) : String :=
  (c.newName?.map (t.renamingText c)).getD "" ++ t.alterText c type ++ (c.comment.map (t.commentingText c)).getD ""

theorem text_modifyColumn (hc : t.column? name = some c) (htype : ColumnType.ofColumn .postgres c.toColumn = .ok type) :
    (Command.modifyColumn name).text .postgres t = .ok (t.modificationText c.toColumn (type.render .postgres)) := by
  refine except_map_eq_ok.2 ⟨_, modifyColumn_postgres hc htype, ?_⟩
  rw [renameStatements_eq, commentsOn_singleton, script_around, render_alterStatement, modificationText]
  simp only [Option.map_map, Function.comp_def, render_renameColumn, render_commentOnColumn]

theorem exists_type_of_modifyColumn {text : String} (hc : t.column? name = some c)
    (htext : (Command.modifyColumn name).text .postgres t = .ok text) :
    ∃ type, ColumnType.ofColumn .postgres c.toColumn = .ok type := by
  have hfound : t.findColumn name = .ok c := findColumn_eq_ok_iff.2 hc
  obtain ⟨ss, hss, _⟩ := except_map_eq_ok.1 htext
  obtain ⟨c', hc', hss⟩ := except_bind_eq_ok.1 hss
  obtain rfl : c = c' := Except.ok.inj (hfound.symm.trans hc')
  obtain ⟨alterations, halterations, _⟩ := except_bind_eq_ok.1 hss
  obtain ⟨first, _, hfirst, _, _⟩ := List.forall₂_cons_left_iff.1 (mapM_eq_ok_iff.1 halterations)
  obtain ⟨type, htype, _⟩ := except_map_eq_ok.1 hfirst
  exact ⟨type, htype⟩

/-- To alter a column that was read, PostgreSQL writes its type twice, behind `TYPE` and in the cast of what is in the
column. It may stand there exactly if the column is no enumeration and, for a spatial type, the projection that is
written into its arguments leaves no parenthesis and no quotation open. -/
theorem cast_iff_not_enum {t : Table} {name : String} {c : TableColumn} {text : String}
    (hc : t.column? name = some c) (hread : c.added = false)
    (htext : (Command.modifyColumn name).text .postgres t = .ok text) :
    ∃ type, ColumnType.ofColumn .postgres c.toColumn = .ok type ∧
      text = t.modificationText c.toColumn (type.render .postgres) ∧
      (IsCastType (type.render .postgres).toList ↔ c.dataType ≠ .enum ∧
        ((ColumnType.spatialName? c.dataType).isSome = true → ∀ p, c.projection = some p → Balanced p.toList)) := by
  obtain ⟨type, htype⟩ := exists_type_of_modifyColumn hc htext
  rw [text_modifyColumn hc htype] at htext
  cases htext
  exact ⟨type, htype, rfl, ColumnType.isCastType_render_iff (ColumnType.ofColumn_eq_ok_iff.1 htype) hread⟩

/-- A length and a projection may stand in a cast, and the check of an enumeration may not. -/
theorem cast_iff_not_enum_of_three :
    let title : TableColumn := .loaded { name := "title", dataType := .string, length := 100, added := false }
    let place : TableColumn := .loaded {
      name := "place", dataType := .point, projection := some "4326", rename := some "spot", added := false }
    let kind : TableColumn := .loaded { name := "kind", dataType := .enum, allowedValues := ["a", "b"], added := false }
    let t : Table := { Table.found "posts" with columns := [title, place, kind] }
    (∃ type, (Command.modifyColumn "title").text .postgres t = .ok (t.modificationText title.toColumn type) ∧
      IsCastType type.toList) ∧
    (∃ type, (Command.modifyColumn "place").text .postgres t = .ok (t.modificationText place.toColumn type) ∧
      IsCastType type.toList) ∧
    ∃ type, (Command.modifyColumn "kind").text .postgres t = .ok (t.modificationText kind.toColumn type) ∧
      ¬ IsCastType type.toList := by
  intro title place kind t
  have htitle : t.column? "title" = some title := by rfl
  have hplace : t.column? "place" = some place := by rfl
  have hkind : t.column? "kind" = some kind := by rfl
  have hprojection : ∀ p, place.projection = some p → Balanced p.toList := by
    rintro p ⟨⟩
    decide
  refine ⟨?_, ?_, ?_⟩
  · have htype : ColumnType.ofColumn .postgres title.toColumn = .ok (.sized "varchar" 100) := rfl
    have htext := text_modifyColumn htitle htype
    obtain ⟨type, _, hsame, hcast⟩ := cast_iff_not_enum htitle rfl htext
    exact ⟨_, hsame ▸ htext, hcast.2 ⟨by decide, nofun⟩⟩
  · have htype : ColumnType.ofColumn .postgres place.toColumn =
        .ok { name := "geometry", args := .words ["point", "4326"] } := rfl
    have htext := text_modifyColumn hplace htype
    obtain ⟨type, _, hsame, hcast⟩ := cast_iff_not_enum hplace rfl htext
    exact ⟨_, hsame ▸ htext, hcast.2 ⟨by decide, fun _ => hprojection⟩⟩
  · have htype : ColumnType.ofColumn .postgres kind.toColumn =
        .ok { name := "varchar", args := .sizes [255], tail := .check "kind" ["a", "b"] } := rfl
    have htext := text_modifyColumn hkind htype
    obtain ⟨type, _, hsame, hcast⟩ := cast_iff_not_enum hkind rfl htext
    exact ⟨_, hsame ▸ htext, fun h => (hcast.1 h).1 rfl⟩

end Table

end SqlDialects
