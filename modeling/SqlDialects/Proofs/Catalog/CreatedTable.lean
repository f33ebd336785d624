import Mathlib.Data.List.Nodup
import SqlDialects.Proofs.Catalog.DefinitionLine
import SqlDialects.Proofs.Catalog.Loading

/-!
# A table that SQLite created is read back

SQLite keeps the text of a creation and lists the columns as they were declared. The load puts both together by the
names of the columns. The listing gives back the types, the nullability and the key; the line of a column says no more
about keys and checks than its definition did.
-/

namespace SqlDialects

/-! ## What a definition declares -/

/-- The name of a type with its arguments. -/
def ColumnType.declared (type : ColumnType) : String :=
  type.name ++ type.args.render .sqlite

def Modifier.saysNotNull : Modifier → Bool
  | notNull => true
  | _ => false

def Modifier.saysCountingKey : Modifier → Bool
  | countingKey => true
  | _ => false

def Modifier.defaultText? : Modifier → Option String
  | default clause => some (clause.render .sqlite)
  | _ => none

/-- Whether a definition marks its column as the primary key that counts up. -/
def ColumnDefinition.isCountingKey (definition : ColumnDefinition) : Bool :=
  definition.modifiers.any (·.saysCountingKey)

/-- The names of the columns that are marked as the primary key in their definitions. -/
def inlineKey (definitions : List ColumnDefinition) : List String :=
  (definitions.filter (·.isCountingKey)).map (·.name)

/-- The primary key of a table that SQLite creates: the column that is marked in its definition, or the key that is
listed. -/
def Table.declaredKey (t : Table) : List String :=
  t.countingKey?.toList ++ t.listedKey .sqlite

theorem saysCountingKey_sqlite (c : Column) : (Modifier.sqlite c).any (·.saysCountingKey) = false := by
  unfold Modifier.sqlite Modifier.nullability
  cases c.nullable <;> cases Modifier.defaultClause? .sqlite c <;> rfl

theorem saysNotNull_sqlite (c : Column) : (Modifier.sqlite c).any (·.saysNotNull) = !c.nullable := by
  unfold Modifier.sqlite Modifier.nullability
  cases c.nullable <;> cases Modifier.defaultClause? .sqlite c <;> rfl

namespace Catalog.Sqlite
open Text

/-! ## What the listing says -/

theorem dataType_of_mem_plainTypes : ∀ p ∈ plainTypes, dataType .sqlite p.1.declared = .ok p.2 := by
  simp only [plainTypes, List.forall_mem_cons, List.not_mem_nil, false_imp_iff, implies_true, and_true]
  and_intros <;> decide +kernel

theorem declared_bare (name : String) (tail : TypeTail) : ColumnType.declared ⟨name, .none, tail⟩ = name :=
  String.append_empty

theorem dataType_check (tail : TypeTail) :
    dataType .sqlite (ColumnType.declared ⟨"varchar", .none, tail⟩) = .ok .string := by
  rw [declared_bare]
  decide +kernel

theorem sqlite?_of_mem_plainTypes : ∀ p ∈ plainTypes, ∀ c : Column, c.dataType = p.2 →
    ColumnType.sqlite? c = some p.1 := by
  simp only [plainTypes, List.forall_mem_cons, List.not_mem_nil, false_imp_iff, implies_true, and_true]
  and_intros <;>
  · intro c hc
    simp [ColumnType.sqlite?, ColumnType.spatialName?, hc]

/-- Every declared type is read, one that is no enumeration as a type that is declared in the same way. -/
theorem exists_dataType {c : Column} {type : ColumnType} (htype : ColumnType.sqlite? c = some type) :
    ∃ u, dataType .sqlite type.declared = .ok u ∧
      (c.dataType ≠ .enum → ∀ c' : Column, c'.dataType = u → ColumnType.sqlite? c' = some type) := by
  by_cases hc : c.dataType = .enum
  · obtain rfl : type = { name := "varchar", tail := .check c.name c.allowedValues } := by
      simpa [ColumnType.sqlite?, hc] using htype.symm
    exact ⟨.string, dataType_check _, fun h => absurd hc h⟩
  · obtain ⟨u, hu⟩ := exists_mem_plainTypes htype hc
    exact ⟨u, dataType_of_mem_plainTypes (type, u) hu, fun _ => sqlite?_of_mem_plainTypes (type, u) hu⟩

/-- The listing of a column that was defined in a table with some primary key. -/
structure Describes (key : List String) (definition : ColumnDefinition) (r : Row) : Prop where
  number : ∃ n, r.int? "cid" = some n
  name : r.text? "name" = some definition.name
  type : r.text? "type" = some definition.type.declared
  notNull : r.bool? "notnull" = some (definition.modifiers.any (·.saysNotNull))
  default : r.text? "dflt_value" = definition.modifiers.findSome? (·.defaultText?)
  keyPlace : ∃ place, r.int? "pk" = some place ∧
    place.toInt = if definition.name ∈ key then key.idxOf definition.name + 1 else 0

/-- SQLite keeps a table: its own text of it is that of the creation, and it lists the columns of the definitions in
their order. -/
structure Keeps (db : Connection) (table : String) (calls : List Call) (createSql : String)
    (definitions : List ColumnDefinition) (listed : List String) : Prop where
  text : ∃ texts others, db.query calls (textCall table) = .ok texts ∧
    texts.mapM Row.string = .ok (createSql :: others)
  columns : ∃ rows, db.query (calls ++ [textCall table]) (columnsCall table) = .ok rows ∧
    List.Forall₂ (Describes (inlineKey definitions ++ listed)) definitions rows

/-- A column of a created table and what was read back for it. -/
structure GivenBack (t : Table) (c l : TableColumn) : Prop where
  name : l.name = c.name
  nullable : l.nullable = c.nullable
  primaryKey : l.primaryKey = true ↔ c.name ∈ t.declaredKey
  autoIncrement : l.autoIncrement = true ↔ t.countingKey? = some c.name
  type : c.dataType ≠ .enum →
    ColumnType.ofColumn .sqlite l.toColumn = ColumnType.ofColumn .sqlite c.toColumn

theorem sqliteParts?_eq_none {cs : List Char} (h : Free "check (".toList cs) : EnumCheck.sqliteParts? cs = none := by
  induction cs with
  | nil => rfl
  | cons c cs ih =>
    have hhead : EnumCheck.sqliteHead? (c :: cs) = none := by
      have hcheck : "check (\"".toList.isPrefixOf (c :: cs) = false := by
        rw [← Bool.not_eq_true, List.isPrefixOf_iff_prefix]
        intro hpre
        have hshort : "check (".toList <+: "check (\"".toList := by decide
        exact h (hshort.trans hpre).isInfix
      simp only [EnumCheck.sqliteHead?, EnumCheck.after?, hcheck]
      rfl
    rw [EnumCheck.sqliteParts?, hhead]
    exact ih (h.of_isInfix (List.suffix_cons c cs).isInfix)

section Definition

variable {t : Table} {c : TableColumn} {definition : ColumnDefinition} {line : String} {pat : List Char}

/-- What a definition says of a plain column. -/
structure Defines (t : Table) (c : TableColumn) (definition : ColumnDefinition) : Prop where
  plain : c.IsPlain
  name : definition.name = c.name
  type : ColumnType.sqlite? c.toColumn = some definition.type
  notNull : definition.modifiers.any (·.saysNotNull) = !c.nullable
  isCountingKey : definition.isCountingKey = (t.countingKey? == some c.name)
  line : Free ['\n'] definition.body
  check : c.dataType ≠ .enum → Free "check (".toList definition.body
  keyed : definition.isCountingKey = true → " PRIMARY KEY AUTOINCREMENT".toList <:+ definition.body
  unkeyed : definition.isCountingKey = false → Free "PRIMARY KEY AUTOINCREMENT".toList definition.body

theorem defines_of_definitionIn (h : t.definitionIn .sqlite c = .ok definition) (hplain : c.IsPlain) :
    Defines t c definition := by
  obtain ⟨base, hbase, rfl⟩ := except_map_eq_ok.1 h
  have hline : Free ['\n'] base.body :=
    ColumnDefinition.free_body hbase hplain (by decide) fun _ => free_iff_occurs.2 (by decide)
  have hcheck (hc : c.dataType ≠ .enum) : Free "check (".toList base.body :=
    ColumnDefinition.free_body hbase hplain (by decide) fun henum => absurd henum hc
  have hkey : Free "PRIMARY KEY AUTOINCREMENT".toList base.body :=
    ColumnDefinition.free_body hbase hplain (by decide) fun _ => free_iff_occurs.2 (by decide)
  obtain ⟨type, htype, rfl⟩ := ColumnDefinition.ofColumn_sqlite_eq_ok hbase
  let base : ColumnDefinition := ⟨c.name, type, Modifier.sqlite c.toColumn⟩
  have hunmarked : base.isCountingKey = false := saysCountingKey_sqlite c.toColumn
  by_cases hcounts : t.countingKey? = some c.name
  · have hmarked : base.asCountingKey.isCountingKey = true := by
      simp [ColumnDefinition.isCountingKey, ColumnDefinition.asCountingKey, Modifier.saysCountingKey]
    simp only [hcounts, decide_true, Bool.true_and, BEq.rfl, if_true]
    have hnotNull : (Modifier.sqlite c.toColumn ++ [Modifier.countingKey]).any (·.saysNotNull) = !c.nullable := by
      rw [List.any_append, saysNotNull_sqlite]
      exact Bool.or_false _
    have hcounting : base.asCountingKey.isCountingKey = (t.countingKey? == some c.name) :=
      hmarked.trans (by simp [hcounts])
    refine ⟨hplain, rfl, htype, hnotNull, hcounting, ?_, fun hc => ?_, fun _ => ?_, fun h => ?_⟩
    · exact ColumnDefinition.free_body_asCountingKey (by decide) (by decide) hline
    · exact ColumnDefinition.free_body_asCountingKey (by decide) (by decide) (hcheck hc)
    · exact ColumnDefinition.body_asCountingKey _ ▸ List.suffix_append _ _
    · exact absurd (hmarked.symm.trans h) Bool.noConfusion
  · have hother : (t.countingKey? == some c.name) = false := by simpa using hcounts
    simp only [hother, Bool.and_false, Bool.false_eq_true, if_false]
    exact ⟨hplain, rfl, htype, saysNotNull_sqlite _, hunmarked.trans hother.symm, hline, hcheck,
      fun h => absurd (hunmarked.symm.trans h) Bool.false_ne_true, fun _ => hkey⟩

theorem DefinedIn.free (h : DefinedIn definition (definition.name, line)) (hpat : pat ∈ phrases)
    (hname : Free pat definition.name.toList) (hbody : Free pat definition.body) : Free pat line.toList := by
  obtain ⟨_, kept, hline, hprefix, _⟩ := h
  obtain ⟨hquote, _, _⟩ := notMem_of_mem_phrases hpat
  rw [hline]
  exact .append hquote (.nil (ne_nil_of_mem_phrases hpat)) (.append hquote hname (hbody.of_isInfix hprefix.isInfix))

/-- A line says that its column is the counting key exactly if the definition does. -/
theorem occurs_countingKey (hdefines : Defines t c definition)
    (h : DefinedIn definition (definition.name, line)) :
    occurs "PRIMARY KEY AUTOINCREMENT".toList line.toList = definition.isCountingKey := by
  cases hkey : definition.isCountingKey with
  | false =>
    have hname : Free "PRIMARY KEY AUTOINCREMENT".toList definition.name.toList :=
      hdefines.name ▸ hdefines.plain.name _ (by decide)
    exact free_iff_occurs.1 (h.free (by decide) hname (hdefines.unkeyed hkey))
  | true =>
    obtain ⟨front, hfront⟩ := hdefines.keyed hkey
    obtain ⟨_, kept, hline, _, hwhole⟩ := h
    have hend : definition.body = (front ++ " PRIMARY KEY AUTOINCREMEN".toList) ++ ['T'] := by
      rw [← hfront]
      simp
    have hkept := hwhole _ 'T' hend (by decide) (by decide)
    rw [occurs_iff_isInfix, hline, hkept, ← hfront]
    exact ⟨'"' :: (definition.name.toList ++ '"' :: (front ++ [' '])), [], by simp⟩

end Definition

section Listing

variable {t : Table} {c : TableColumn} {definition : ColumnDefinition} {line createSql : String}
  {key : List String} {r : Row}

theorem pos_iff_mem {place : Int64} {name : String}
    (h : place.toInt = if name ∈ key then key.idxOf name + 1 else 0) : place > 0 ↔ name ∈ key := by
  rw [gt_iff_lt, Int64.lt_iff_toInt_lt, h, Int64.toInt_zero]
  by_cases hname : name ∈ key <;> simp [hname]

theorem columnOf_of_dataType (info : ColumnInfo) {u : DataType} (hread : dataType .sqlite info.type = .ok u)
    (line : String) : columnOf info (some line) = .ok (.loaded {
      name := info.name
      dataType := if (EnumCheck.sqliteValues? line info.name).isSome then .enum else u
      added := false
      nullable := !info.notNull
      default := (defaultOf info).value
      useCurrent := (defaultOf info).useCurrent
      primaryKey := info.keyPlace > 0
      autoIncrement := info.keyPlace > 0 && occurs "PRIMARY KEY AUTOINCREMENT".toList line.toList
      allowedValues := (EnumCheck.sqliteValues? line info.name).getD [] }) := by
  rw [columnOf, hread]
  rfl

theorem mem_declaredKey {name : String} (h : t.countingKey? = some name) : name ∈ t.declaredKey := by
  simp [Table.declaredKey, h]

/-- A column is read back from its listing and its line. -/
theorem columnOfRow_of_describes (hdefines : Defines t c definition)
    (hline : definitionLine? createSql definition.name = some line) (hin : DefinedIn definition (definition.name, line))
    (hrow : Describes t.declaredKey definition r) :
    ∃ l, columnOfRow createSql r = .ok l ∧ GivenBack t c l := by
  obtain ⟨⟨cid, hcid⟩, hname, htype, hnotNull, hdefault, place, hplace, hposition⟩ := hrow
  obtain ⟨u, hread, hsame⟩ := exists_dataType hdefines.type
  let info : ColumnInfo := ⟨cid, definition.name, definition.type.declared,
    definition.modifiers.any (·.saysNotNull), definition.modifiers.findSome? (·.defaultText?), place⟩
  have hinfo : ColumnInfo.ofRow r = .ok info := by
    simp only [ColumnInfo.ofRow, Row.int, hcid, Row.text_eq_ok_iff.2 hname, htype, hnotNull, hdefault, hplace]
    rfl
  have hcolumn := columnOf_of_dataType info hread line
  have hplaced : place > 0 ↔ c.name ∈ t.declaredKey := hdefines.name ▸ pos_iff_mem hposition
  have hcounts : occurs "PRIMARY KEY AUTOINCREMENT".toList line.toList = (t.countingKey? == some c.name) :=
    (occurs_countingKey hdefines hin).trans hdefines.isCountingKey
  refine ⟨_, except_bind_eq_ok.2 ⟨info, hinfo, hline ▸ hcolumn⟩, hdefines.name, ?_, ?_, ?_, fun hc => ?_⟩
  · have hnullable : (!info.notNull) = c.nullable := by simp [info, hdefines.notNull]
    exact hnullable
  · exact decide_eq_true_iff.trans hplaced
  · have hboth : (decide (place > 0) && occurs "PRIMARY KEY AUTOINCREMENT".toList line.toList) = true ↔
        t.countingKey? = some c.name := by
      rw [hcounts, Bool.and_eq_true, decide_eq_true_iff, hplaced, beq_iff_eq]
      exact and_iff_right_of_imp mem_declaredKey
    exact hboth
  · have hcheck : Free "check (".toList line.toList :=
      hin.free (by decide) (hdefines.name ▸ hdefines.plain.name _ (by decide)) (hdefines.check hc)
    have hnone : EnumCheck.sqliteValues? line info.name = none := by
      rw [EnumCheck.sqliteValues?, sqliteParts?_eq_none hcheck]
    have hu : (if (EnumCheck.sqliteValues? line info.name).isSome then .enum else u) = u := by
      rw [hnone]
      rfl
    have htype : ColumnType.ofColumn .sqlite c.toColumn = .ok definition.type :=
      ColumnType.ofColumn_eq_ok_iff.2 hdefines.type
    rw [htype]
    exact (ColumnType.ofColumn_eq_ok_iff (d := .sqlite)).2 (hsame hc _ hu)

end Listing

section Creation

variable {t : Table} {c : TableColumn} {definitions : List ColumnDefinition}

theorem create_sqlite_eq_ok {statements : List Statement} (h : t.create .sqlite = .ok statements) :
    ∃ definitions, t.columns.mapM (t.definitionIn .sqlite) = .ok definitions ∧
      statements = [.createTable t.temporary t.qualifiedName definitions (t.listedKey .sqlite) []] := by
  obtain ⟨definitions, hdefinitions, h⟩ := except_bind_eq_ok.1 h
  cases h
  exact ⟨definitions, hdefinitions, rfl⟩

theorem forall₂_defines (h : t.columns.mapM (t.definitionIn .sqlite) = .ok definitions)
    (hplain : ∀ c ∈ t.columns, c.IsPlain) :
    List.Forall₂ (Defines t) t.columns definitions := by
  have hboth := (List.forall₂_and_left _ _).2 ⟨hplain, mapM_eq_ok_iff.1 h⟩
  exact hboth.imp fun _ _ h => defines_of_definitionIn h.2 h.1

theorem inlineKey_eq_filter {columns : List TableColumn}
    (h : List.Forall₂ (Defines t) columns definitions) :
    inlineKey definitions = (columns.map (·.name)).filter (t.countingKey? == some ·) := by
  induction h with
  | nil => rfl
  | @cons c definition columns definitions hdefines _ ih =>
    have hrest : inlineKey (definition :: definitions) =
        if definition.isCountingKey then definition.name :: inlineKey definitions else inlineKey definitions := by
      unfold inlineKey
      cases hkey : definition.isCountingKey <;> simp [hkey]
    rw [hrest, hdefines.isCountingKey, hdefines.name, ih, List.map_cons, List.filter_cons]

theorem mem_names_of_countingKey? {name : String} (h : t.countingKey? = some name) :
    name ∈ t.columns.map (·.name) := by
  obtain ⟨c, hc, rfl⟩ := Option.map_eq_some_iff.1 h
  exact List.mem_map_of_mem (List.mem_of_mem_filter (List.mem_of_find?_eq_some hc))

/-- The column that is marked as the key is the one that counts up as the whole key, if there is one. -/
theorem inlineKey_eq (h : List.Forall₂ (Defines t) t.columns definitions)
    (hnames : (t.columns.map (·.name)).Nodup) : inlineKey definitions = t.countingKey?.toList := by
  rw [inlineKey_eq_filter h]
  cases hkey : t.countingKey? with
  | none => simp
  | some name =>
    have honce := List.count_eq_one_of_mem hnames (mem_names_of_countingKey? hkey)
    have hsame : (fun other => some name == some other) = (· == name) := by
      funext other
      simp [Bool.beq_comm]
    rw [hsame, List.filter_beq, honce]
    rfl

theorem lineFeed_notMem_joinIdents {names : List String}
    (h : ∀ name ∈ names, '"' ∉ name.toList ∧ '.' ∉ name.toList ∧ '\n' ∉ name.toList) :
    '\n' ∉ (Dialect.sqlite.joinIdents names ", ").toList := by
  rw [Dialect.joinIdents, String.toList_intercalate, List.map_map]
  refine notMem_intercalate (by decide) fun part hpart => ?_
  obtain ⟨name, hname, rfl⟩ := List.mem_map.1 hpart
  obtain ⟨hquote, hdot, hline⟩ := h name hname
  simp [ColumnDefinition.toList_quoteIdent hquote hdot, hline]

theorem mem_listedKey {name : String} (h : name ∈ t.listedKey .sqlite) : ∃ c ∈ t.columns, c.name = name := by
  unfold Table.listedKey at h
  split at h
  · exact absurd h List.not_mem_nil
  · obtain ⟨c, hc, rfl⟩ := List.mem_map.1 h
    exact ⟨c, List.mem_of_mem_filter hc, rfl⟩

/-- No item of the creation of a plain table is broken into lines. -/
theorem lineFeed_notMem_createItems (h : List.Forall₂ (Defines t) t.columns definitions) :
    ∀ item ∈ Statement.createItems .sqlite definitions (t.listedKey .sqlite), '\n' ∉ item.toList := by
  have hname {c : TableColumn} (hc : c.IsPlain) : '\n' ∉ c.name.toList := fun hmem =>
    hc.name ['\n'] (by decide) ((List.singleton_infix_iff '\n' _).2 hmem)
  have hplain : ∀ c ∈ t.columns, c.IsPlain := forall_mem_of_forall₂ h.flip fun _ _ hdefines => hdefines.plain
  intro item hitem
  rcases List.mem_append.1 hitem with hitem | hitem
  · obtain ⟨definition, hdefinition, rfl⟩ := List.mem_map.1 hitem
    obtain ⟨c, _, hdefines⟩ := exists_mem_of_forall₂ h.flip definition hdefinition
    have hc := hdefines.plain
    have hbody : '\n' ∉ definition.body := fun hmem => hdefines.line ((List.singleton_infix_iff '\n' _).2 hmem)
    rw [ColumnDefinition.toList_render (hdefines.name ▸ hc.noQuote) (hdefines.name ▸ hc.noDot), hdefines.name]
    simp [hname hc, hbody]
  · split at hitem
    · exact absurd hitem List.not_mem_nil
    · obtain rfl := List.mem_singleton.1 hitem
      have hidents : '\n' ∉ (Dialect.sqlite.joinIdents (t.listedKey .sqlite) ", ").toList := by
        refine lineFeed_notMem_joinIdents fun name hmem => ?_
        obtain ⟨c, hc, rfl⟩ := mem_listedKey hmem
        exact ⟨(hplain c hc).noQuote, (hplain c hc).noDot, hname (hplain c hc)⟩
      simp [hidents]

theorem plain_names (h : List.Forall₂ (Defines t) t.columns definitions) :
    ∀ definition ∈ definitions, '"' ∉ definition.name.toList ∧ '.' ∉ definition.name.toList :=
  forall_mem_of_forall₂ h fun _ _ hdefines => by
    rw [hdefines.name]
    exact ⟨hdefines.plain.noQuote, hdefines.plain.noDot⟩

theorem names_eq {columns : List TableColumn} (h : List.Forall₂ (Defines t) columns definitions) :
    columns.map (·.name) = definitions.map (·.name) := by
  induction h with
  | nil => rfl
  | cons hdefines _ ih => rw [List.map_cons, List.map_cons, ih, hdefines.name]

/-- One column after the other is read back. -/
theorem exists_columns {createSql : String} {columns : List TableColumn} {rows : List Row}
    (h : List.Forall₂ (Defines t) columns definitions)
    (hrows : List.Forall₂ (Describes t.declaredKey) definitions rows)
    (hlines : ∀ definition ∈ definitions, ∃ line, definitionLine? createSql definition.name = some line ∧
      DefinedIn definition (definition.name, line)) :
    ∃ loaded, List.Forall₂ (fun r l => columnOfRow createSql r = .ok l) rows loaded ∧
      List.Forall₂ (GivenBack t) columns loaded := by
  induction h generalizing rows with
  | nil =>
    cases hrows
    exact ⟨[], .nil, .nil⟩
  | @cons c definition columns definitions hdefines _ ih =>
    cases hrows with
    | @cons _ r _ rows hrow hrows =>
      obtain ⟨⟨line, hline, hin⟩, hlines⟩ := List.forall_mem_cons.1 hlines
      obtain ⟨l, hl, hback⟩ := columnOfRow_of_describes hdefines hline hin hrow
      obtain ⟨loaded, hloaded, hbacks⟩ := ih hrows hlines
      exact ⟨l :: loaded, .cons hl hloaded, .cons hback hbacks⟩

end Creation

/-- SQLite gives back the columns of a table that it created. The table is created by one statement, whose text ends in
a semicolon, and its columns have distinct and plain names, defaults and values. Where SQLite keeps the table, which is
to say that it returns this text and lists the columns as they are defined, a load of the columns succeeds, in their
order and with the same names and nullability. The columns of the declared key are the primary key, the one that is
marked in its definition counts up, and the type of each one that is no enumeration is declared as before. -/
theorem columns_given_back {t : Table} {statements : List Statement} (hcreate : t.create .sqlite = .ok statements)
    (hnames : (t.columns.map (·.name)).Nodup) (hplain : ∀ c ∈ t.columns, c.IsPlain) :
    ∃ definitions createSql,
      statements = [.createTable t.temporary t.qualifiedName definitions (t.listedKey .sqlite) []] ∧
      Statement.script .sqlite statements = createSql ++ ";" ∧ inlineKey definitions = t.countingKey?.toList ∧
      ∀ db table schema calls, Keeps db table calls createSql definitions (t.listedKey .sqlite) →
        ∃ columns calls', Catalog.loadColumns .sqlite table schema db calls = (.ok columns, calls') ∧
          List.Forall₂ (GivenBack t) t.columns columns := by
  obtain ⟨definitions, hdefinitions, rfl⟩ := create_sqlite_eq_ok hcreate
  obtain ⟨createSql, htext, head, hchars⟩ :=
    exists_createSql t.temporary t.qualifiedName definitions (t.listedKey .sqlite)
  have hdefines := forall₂_defines hdefinitions hplain
  have hinline := inlineKey_eq hdefines hnames
  refine ⟨definitions, createSql, rfl, (Statement.script_singleton _ _).trans htext, hinline, ?_⟩
  rintro db table schema calls ⟨⟨texts, others, htexts, hstrings⟩, rows, hrows, hdescribes⟩
  have hlines := definitionLine?_of_statement hchars (plain_names hdefines)
    (lineFeed_notMem_createItems hdefines) (names_eq hdefines ▸ hnames)
  rw [hinline] at hdescribes
  obtain ⟨columns, hcolumns, hback⟩ := exists_columns hdefines hdescribes hlines
  have hlists : Lists db table schema calls .sqlite _ _ := .sqlite htexts hstrings hrows
  obtain ⟨result, hload, hok, _⟩ := hlists.load
  have hresult := (hok columns).2 (hcolumns.imp fun _ _ h => except_mapError_eq_ok.2 h)
  exact ⟨columns, _, hresult ▸ hload, hback⟩

/-- A table with a counting key, a default in quotes and an enumeration is created and read back. -/
theorem columns_given_back_of_three_columns :
    let t : Table := { name := "t", columns := [
      .ofColumn { name := "id", dataType := .bigInt, primaryKey := true, autoIncrement := true },
      .ofColumn { name := "note", dataType := .string, nullable := true, default := some (.string "it's, so") },
      .ofColumn { name := "kind", dataType := .enum, allowedValues := ["a", "b"] }] }
    let createSql := "CREATE TABLE \"t\"(\n\t\"id\" integer NOT NULL PRIMARY KEY AUTOINCREMENT,\n" ++
      "\t\"note\" varchar NULL DEFAULT 'it''s, so',\n\t\"kind\" varchar check (\"kind\" in ('a','b')) NOT NULL\n)"
    let listing (cid : Int64) (name type : String) (notNull : Bool) (default : Value) (place : Int64) : Row :=
      ⟨[("cid", .int cid), ("name", .text name), ("type", .text type), ("notnull", .bool notNull),
        ("dflt_value", default), ("pk", .int place)]⟩
    let rows := [listing 0 "id" "integer" true .null 1, listing 1 "note" "varchar" false (.text "'it''s, so'") 0,
      listing 2 "kind" "varchar" true .null 0]
    let db : Connection :=
      ⟨fun _ _ => .ok (), fun calls _ => .ok (if calls.isEmpty then [⟨[("sql", .text createSql)]⟩] else rows)⟩
    (∃ statements, t.create .sqlite = .ok statements ∧ Statement.script .sqlite statements = createSql ++ ";") ∧
      ∃ columns calls', Catalog.loadColumns .sqlite "t" none db [] = (.ok columns, calls') ∧
        List.Forall₂ (GivenBack t) t.columns columns := by
  intro t createSql listing rows db
  let definitions : List ColumnDefinition := [
    ⟨"id", .bare "integer", [.notNull, .countingKey]⟩,
    ⟨"note", .bare "varchar", [.null, .default (.value (.string "it's, so"))]⟩,
    ⟨"kind", { name := "varchar", tail := .check "kind" ["a", "b"] }, [.notNull]⟩]
  have hcreate : t.create .sqlite = .ok [.createTable false ⟨none, "t"⟩ definitions [] []] := by rfl
  have hscript : Statement.script .sqlite [.createTable false ⟨none, "t"⟩ definitions [] []] =
      createSql ++ ";" := by
    decide +kernel
  have hplain : ∀ c ∈ t.columns, c.IsPlain := by
    simp only [t, List.forall_mem_cons, List.not_mem_nil, false_imp_iff, implies_true, and_true]
    refine ⟨⟨by decide, by decide, harmless_of_occurs (by decide), by simp [TableColumn.ofColumn],
        by simp [TableColumn.ofColumn]⟩,
      ⟨by decide, by decide, harmless_of_occurs (by decide), ?_, by simp [TableColumn.ofColumn]⟩,
      ⟨by decide, by decide, harmless_of_occurs (by decide), by simp [TableColumn.ofColumn], ?_⟩⟩
    · rintro v ⟨⟩
      exact harmless_of_occurs (by decide)
    · exact List.forall_mem_cons.2 ⟨harmless_of_occurs (by decide),
        List.forall_mem_singleton.2 (harmless_of_occurs (by decide))⟩
  obtain ⟨found, text, hstatements, htext, _, hload⟩ := columns_given_back hcreate (by decide) hplain
  obtain ⟨_, _, rfl, _⟩ := Statement.createTable.inj (List.cons.inj hstatements).1
  obtain rfl : createSql = text := (String.append_left_inj ";").1 (hscript.symm.trans htext)
  have hkeeps : Keeps db "t" [] createSql definitions [] := by
    refine ⟨⟨_, [], rfl, rfl⟩, rows, rfl, .cons ?_ (.cons ?_ (.cons ?_ .nil))⟩
    · exact ⟨⟨0, by decide +kernel⟩, by decide +kernel, by decide +kernel, by decide +kernel, by decide +kernel, 1,
        by decide +kernel, by decide⟩
    · exact ⟨⟨1, by decide +kernel⟩, by decide +kernel, by decide +kernel, by decide +kernel, by decide +kernel, 0,
        by decide +kernel, by decide⟩
    · exact ⟨⟨2, by decide +kernel⟩, by decide +kernel, by decide +kernel, by decide +kernel, by decide +kernel, 0,
        by decide +kernel, by decide⟩
  exact ⟨⟨_, hcreate, hscript⟩, hload db "t" none [] hkeeps⟩

end Catalog.Sqlite
end SqlDialects
