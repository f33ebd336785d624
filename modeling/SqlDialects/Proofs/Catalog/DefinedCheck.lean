import SqlDialects.Proofs.Catalog.CreatedTable
import SqlDialects.Proofs.Catalog.StoredCheck

/-!
# The check that SQLite keeps for an enumeration

SQLite keeps the text of a creation, and the check of an enumeration stands in the line of its column, with the
modifiers behind it. The reader takes all up to the last two closing parentheses of the line for the list of values. So
the values are given back exactly if there are no two such parentheses in the default behind the check.
-/

namespace SqlDialects

namespace Text

/-- The two parentheses that end a check. -/
def closing : List Char :=
  [')', ')']

theorem closing_ne_nil : closing ≠ [] := nofun

/-- The last two parentheses stand at the end of the check, if there are none behind it. -/
theorem cutLast?_closing_of_free {list tail : List Char} (h : Free closing tail) (hblank : tail.head? = some ' ') :
    cutLast? closing (list ++ closing ++ tail) = some (list, tail) := by
  apply (cutLast?_eq_some_iff closing_ne_nil).2
  refine ⟨rfl, ?_⟩
  obtain ⟨rest, rfl⟩ := List.head?_eq_some_iff.1 hblank
  have hone : Free closing [')'] := free_iff_occurs.2 (by decide)
  have hrest : Free closing rest := h.of_isInfix (List.suffix_cons _ _).isInfix
  have hboth : Free closing ([')'] ++ ' ' :: rest) := .append (by decide) hone hrest
  exact hboth

theorem cutLast?_closing_of_not_free (list : List Char) {tail : List Char} (h : ¬ Free closing tail) :
    ∃ more after, cutLast? closing (list ++ closing ++ tail) = some (list ++ closing ++ more, after) := by
  obtain ⟨⟨more, after⟩, hcut⟩ := Option.ne_none_iff_exists'.1 (mt (cutLast?_eq_none_iff closing_ne_nil).1 h)
  obtain ⟨rfl, hfree⟩ := (cutLast?_eq_some_iff closing_ne_nil).1 hcut
  refine ⟨more, after, (cutLast?_eq_some_iff closing_ne_nil).2 ⟨?_, hfree⟩⟩
  simp

end Text

open Text

/-! ## What stands behind the check -/

section Modifiers

variable {c : Column} {pat : List Char}

theorem quoteString_eq_standardString {d : Dialect} (hd : d ≠ .mysql) (s : String) :
    d.quoteString s = Dialect.standardString s := by
  rw [Dialect.quoteString, Dialect.standardString, Dialect.inQuotes, Dialect.inQuotes,
    Catalog.flatMap_quotedChar_eq_double hd, double_eq_flatMap]

theorem free_quoteString_iff (hne : pat ≠ []) (hquote : '\'' ∉ pat) (s : String) :
    Free pat (Dialect.sqlite.quoteString s).toList ↔ Free pat s.toList := by
  have hnil : Free pat [] := .nil hne
  have hdialect : Dialect.sqlite ≠ .mysql := by decide
  have htext : (Dialect.sqlite.quoteString s).toList = [] ++ '\'' :: (double '\'' s.toList ++ '\'' :: []) := by
    rw [quoteString_eq_standardString hdialect, Dialect.toList_standardString]
    rfl
  rw [htext, free_append_iff hquote, free_append_iff hquote, free_double_iff hquote, and_iff_right hnil,
    and_iff_left hnil]

/-- A default has as much of a pattern without quotes as its text. -/
theorem free_render_iff (hne : pat ≠ []) (hquote : '\'' ∉ pat) (v : DefaultValue) :
    Free pat (v.render .sqlite).toList ↔ Free pat v.text.toList := by
  cases v with
  | null => rfl
  | expression sql => rfl
  | boolean b => exact free_quoteString_iff hne hquote _
  | integer n => exact free_quoteString_iff hne hquote _
  | float x => exact free_quoteString_iff hne hquote _
  | string s => exact free_quoteString_iff hne hquote _

/-- The default of an enumeration is never the current moment. -/
theorem defaultClause?_of_enum (henum : c.dataType = .enum) :
    Modifier.defaultClause? .sqlite c = c.default.map .value := by
  simp [Modifier.defaultClause?, henum, DataType.isMoment]

theorem toList_renderAll_sqlite (henum : c.dataType = .enum) :
    (Modifier.renderAll .sqlite (Modifier.sqlite c)).toList =
      (if c.nullable then " NULL" else " NOT NULL").toList ++
        (c.default.map fun v => " DEFAULT ".toList ++ (v.render .sqlite).toList).getD [] := by
  cases hnullable : c.nullable <;> cases hdefault : c.default <;>
    simp [Modifier.renderAll, Modifier.sqlite, Modifier.nullability, defaultClause?_of_enum henum, hnullable, hdefault,
      Modifier.render, DefaultClause.render]

/-- Only a default brings two parentheses with it. -/
theorem free_closing_sqlite_iff (henum : c.dataType = .enum) :
    Free closing (Modifier.renderAll .sqlite (Modifier.sqlite c)).toList ↔
      ∀ v, c.default = some v → Free closing v.text.toList := by
  have hword : Free closing (if c.nullable then " NULL" else " NOT NULL").toList := by
    cases c.nullable <;> exact free_iff_occurs.2 (by decide)
  rw [toList_renderAll_sqlite henum]
  cases hdefault : c.default with
  | none => simpa using hword
  | some v =>
    have hkeyword : Free closing "DEFAULT".toList := free_iff_occurs.2 (by decide)
    have htext : " DEFAULT ".toList ++ (v.render .sqlite).toList =
        ' ' :: ("DEFAULT".toList ++ ' ' :: (v.render .sqlite).toList) := by
      simp
    have hblank : ' ' ∉ closing := by decide
    have hrender : Free closing (v.render .sqlite).toList ↔ Free closing v.text.toList :=
      free_render_iff closing_ne_nil (by decide) v
    simp only [Option.map_some, Option.getD_some, htext, free_append_iff hblank, hrender, hword, hkeyword, true_and,
      Option.some.injEq, forall_eq']

theorem lineFeed_notMem_sqlite (henum : c.dataType = .enum)
    (hdefault : ∀ v, c.default = some v → '\n' ∉ v.text.toList) :
    '\n' ∉ (Modifier.renderAll .sqlite (Modifier.sqlite c)).toList := by
  have hword : '\n' ∉ (if c.nullable then " NULL" else " NOT NULL").toList := by
    cases c.nullable <;> decide
  rw [toList_renderAll_sqlite henum, List.mem_append, not_or]
  refine ⟨hword, ?_⟩
  cases hsome : c.default with
  | none => exact List.not_mem_nil
  | some v =>
    have htext := free_lineFeed_iff.2 (hdefault v hsome)
    have hrender := (free_render_iff (List.cons_ne_nil '\n' []) (by decide) v).2 htext
    simpa using free_lineFeed_iff.1 hrender

/-- The definition of an enumeration in a creation: its check, and behind it a blank and the modifiers, which have two
parentheses only if the default has. -/
theorem definitionIn_enum {t : Table} {c : TableColumn} {definition : ColumnDefinition}
    (h : t.definitionIn .sqlite c = .ok definition) (henum : c.dataType = .enum)
    (hdefault : ∀ v, c.default = some v → '\n' ∉ v.text.toList) :
    definition.name = c.name ∧ definition.type = { name := "varchar", tail := .check c.name c.allowedValues } ∧
      ∃ tail, (Modifier.renderAll .sqlite definition.modifiers).toList = ' ' :: tail ∧ '\n' ∉ tail ∧
        (Free closing (' ' :: tail) ↔ ∀ v, c.default = some v → Free closing v.text.toList) := by
  obtain ⟨base, hbase, rfl⟩ := except_map_eq_ok.1 h
  obtain ⟨type, htype, rfl⟩ := ColumnDefinition.ofColumn_sqlite_eq_ok hbase
  obtain rfl : type = { name := "varchar", tail := .check c.name c.allowedValues } := by
    simpa [ColumnType.sqlite?, henum] using htype.symm
  have hfeed := lineFeed_notMem_sqlite henum hdefault
  have hfree := free_closing_sqlite_iff henum
  obtain ⟨tail, htail⟩ : ∃ tail, (Modifier.renderAll .sqlite (Modifier.sqlite c.toColumn)).toList = ' ' :: tail := by
    rw [toList_renderAll_sqlite henum]
    cases c.nullable <;> exact ⟨_, rfl⟩
  rw [htail] at hfeed hfree
  split
  · have hkey : Free closing "PRIMARY KEY AUTOINCREMENT".toList := free_iff_occurs.2 (by decide)
    have hblank : ' ' ∉ closing := by decide
    refine ⟨rfl, rfl, tail ++ ' ' :: "PRIMARY KEY AUTOINCREMENT".toList, ?_, ?_, ?_⟩
    · rw [← List.cons_append, ← htail]
      simp [ColumnDefinition.asCountingKey, Modifier.renderAll, Modifier.render]
    · simp_all
    · rw [← List.cons_append, free_append_iff hblank, and_iff_left hkey, hfree]
  · exact ⟨rfl, rfl, tail, htail, List.not_mem_of_not_mem_cons hfeed, hfree⟩

end Modifiers

namespace Catalog

/-! ## What the pattern finds -/

namespace EnumCheck

variable {name : String} {front rest list after : List Char}

theorem IsName.notMem {name : String} (hname : IsName name) {c : Char} (hc : isWord c = false) : c ∉ name.toList := by
  intro hmem
  rw [hname.2 c hmem] at hc
  cases hc

theorem after?_eq_none {beginning : String} {cs : List Char} (h : ¬ beginning.toList <+: cs) :
    after? beginning cs = none := by
  rw [after?, if_neg (mt List.isPrefixOf_iff_prefix.1 h)]

theorem sqliteParts?_of_head {cs : List Char} {parts : List Char × List Char} (h : sqliteHead? cs = some parts) :
    sqliteParts? cs = some parts := by
  cases cs with
  | nil => cases h
  | cons c cs => rw [sqliteParts?, h]

/-- No check begins in front of the first parenthesis. -/
theorem sqliteParts?_append (h : '(' ∉ front) (rest : List Char) :
    sqliteParts? (front ++ ("check (\"".toList ++ rest)) = sqliteParts? ("check (\"".toList ++ rest) := by
  induction front with
  | nil => rfl
  | cons c front ih =>
    have hstart : ¬ "check (\"".toList <+: (c :: front) ++ ("check (\"".toList ++ rest) := by
      rintro ⟨other, hsplit⟩
      -- The first parenthesis stands behind six characters on one side and behind more on the other.
      have hleft : cutFirst? ['('] ("check (\"".toList ++ other) = some ("check ".toList, '"' :: other) :=
        cutFirst?_singleton_eq_some_iff.2 ⟨by simp, by decide⟩
      have hright : cutFirst? ['('] ((c :: front) ++ ("check (\"".toList ++ rest)) =
          some ((c :: front) ++ "check ".toList, '"' :: rest) := by
        apply cutFirst?_singleton_eq_some_iff.2
        refine ⟨by simp, ?_⟩
        rw [List.mem_append]
        exact not_or.2 ⟨h, by decide⟩
      rw [hsplit, hright] at hleft
      have hlength := congrArg (fun p : List Char × List Char => p.1.length) (Option.some.inj hleft)
      simp at hlength
    have hhead : sqliteHead? (c :: (front ++ ("check (\"".toList ++ rest))) = none := by
      rw [List.cons_append] at hstart
      rw [sqliteHead?, after?_eq_none hstart]
      rfl
    rw [List.cons_append, sqliteParts?, hhead]
    exact ih (List.not_mem_of_not_mem_cons h)

theorem sqliteHead?_check (hname : IsName name) (hline : '\n' ∉ rest) :
    sqliteHead? ("check (\"".toList ++ (name.toList ++ ("\" in (".toList ++ rest))) =
      (cutLast? closing rest).map fun p => (name.toList, p.1) := by
  have hword : word? (name.toList ++ ("\" in (".toList ++ rest)) = some (name.toList, "\" in (".toList ++ rest) := by
    apply word?_append hname
    intro c hc
    cases hc
    decide
  have htake : rest.takeWhile (· != '\n') = rest := by
    apply List.takeWhile_eq_self_iff.2
    intro c hc
    simpa using ne_of_mem_of_not_mem hc hline
  rw [sqliteHead?, after?_append]
  simp only [Option.bind_eq_bind, Option.bind_some, hword, after?_append, htake]
  rw [closing]
  cases cutLast? [')', ')'] rest <;> rfl

/-- The definition of an enumeration up to the list of its values. -/
def opening (name : String) : List Char :=
  '"' :: (name.toList ++ "\" varchar check (\"".toList ++ name.toList ++ "\" in (".toList)

theorem sqliteParts?_opening (hname : IsName name) (hline : '\n' ∉ rest)
    (hcut : cutLast? closing rest = some (list, after)) :
    sqliteParts? (opening name ++ rest) = some (name.toList, list) := by
  have hsplit : opening name ++ rest = '"' :: (name.toList ++ "\" varchar ".toList) ++
      ("check (\"".toList ++ (name.toList ++ ("\" in (".toList ++ rest))) := by
    simp [opening]
  have hfront : '(' ∉ '"' :: (name.toList ++ "\" varchar ".toList) := by
    have hparenthesis : '(' ∉ name.toList := hname.notMem (by decide)
    simp [hparenthesis]
  have hhead := sqliteHead?_check hname hline
  rw [hcut, Option.map_some] at hhead
  rw [hsplit, sqliteParts?_append hfront]
  exact sqliteParts?_of_head hhead

end EnumCheck

namespace Sqlite
open EnumCheck

section Values

variable {values : List String} {v : String} {more : List Char}

theorem quoteValues_eq_quotedMembers (values : List String) :
    Dialect.sqlite.quoteValues values = MySql.quotedMembers values := by
  have hdialect : Dialect.sqlite ≠ .mysql := by decide
  rw [Dialect.quoteValues, MySql.quotedMembers, List.map_congr_left fun v _ => quoteString_eq_standardString hdialect v]

/-- Strings that are not empty and have neither quotes nor commas are read back from their quoted list. -/
theorem splitList_quoteValues (hne : values ≠ [])
    (hvalues : ∀ v ∈ values, v ≠ "" ∧ ',' ∉ v.toList ∧ '\'' ∉ v.toList) :
    splitList (· = '\'') (Dialect.sqlite.quoteValues values).toList = values := by
  rw [quoteValues_eq_quotedMembers, MySql.splitList_quotedMembers hne]
  exact (MySql.flatMap_readMember_eq_self_iff fun v hv => (hvalues v hv).1).2 fun v hv => (hvalues v hv).2

/-- What follows the closing quote of the last value stays in it, and so does this quote. -/
theorem trimEnds_overlong (hv : v ≠ "") (hquote : '\'' ∉ v.toList) (more : List Char) :
    '\'' ∈ trimEnds (· = '\'') (trim ((Dialect.standardString v).toList ++ (closing ++ more))) := by
  obtain ⟨first, rest, hfirst⟩ := List.exists_cons_of_ne_nil (String.toList_eq_nil_iff.not.2 hv)
  have htrim : trim ((Dialect.standardString v).toList ++ (closing ++ more)) =
      ('\'' :: (v.toList ++ ['\''])) ++ ')' :: dropEndWhile isBlank (')' :: more) := by
    rw [Dialect.toList_standardString, double_of_notMem hquote, trim, trimEnds, List.cons_append,
      List.dropWhile_cons_of_neg (by decide)]
    have hplain : isBlank ')' = false := by decide
    exact dropEndWhile_append hplain ('\'' :: (v.toList ++ ['\''])) (')' :: more)
  have hstart : (('\'' :: (v.toList ++ ['\''])) ++ ')' :: dropEndWhile isBlank (')' :: more)).dropWhile (· = '\'') =
      (v.toList ++ ['\'']) ++ ')' :: dropEndWhile isBlank (')' :: more) := by
    rw [hfirst] at hquote ⊢
    have hne : first ≠ '\'' := (List.ne_of_not_mem_cons hquote).symm
    simp [hne]
  have hclosing : decide (')' = '\'') = false := by decide
  rw [htrim, trimEnds, hstart, dropEndWhile_append hclosing]
  simp

/-- With the end of the check behind them, not all values are read back. -/
theorem exists_quote_mem_splitList (hne : values ≠ [])
    (hvalues : ∀ v ∈ values, v ≠ "" ∧ ',' ∉ v.toList ∧ '\'' ∉ v.toList) (more : List Char) :
    ∃ item ∈ splitList (· = '\'') ((Dialect.sqlite.quoteValues values).toList ++ (closing ++ more)),
      '\'' ∈ item.toList := by
  rw [quoteValues_eq_quotedMembers, MySql.quotedMembers, String.toList_intercalate]
  induction values with
  | nil => exact absurd rfl hne
  | cons v values ih =>
    obtain ⟨⟨hv, hcomma, hquote⟩, hvalues⟩ := List.forall_mem_cons.1 hvalues
    cases values with
    | nil =>
      have hlist : ',' ∉ (Dialect.standardString v).toList ++ closing := by
        rw [Dialect.toList_standardString, double_of_notMem hquote]
        simp [hcomma, closing]
      obtain ⟨part, parts, hparts⟩ := exists_splitAt_append hlist more
      have hitem := trimEnds_overlong hv hquote part
      refine ⟨String.ofList _, ?_, by rwa [String.toList_ofList]⟩
      have hkept : trimEnds (· = '\'') (trim ((Dialect.standardString v).toList ++ (closing ++ part))) ≠ [] :=
        List.ne_nil_of_mem hitem
      rw [List.append_assoc] at hparts
      simp [splitList, hparts, hkept]
    | cons next values =>
      obtain ⟨item, hitem, hinner⟩ := ih (List.cons_ne_nil _ _) hvalues
      refine ⟨item, ?_, hinner⟩
      have hcommas : ",".toList = [','] := rfl
      simp only [hcommas, List.map_cons] at hitem ⊢
      rw [List.intercalate_cons_cons, List.append_assoc, List.append_assoc, List.singleton_append, splitList_append,
        List.mem_append]
      exact .inr hitem

/-- The list in front of the last two parentheses is the list of the values exactly if there are none behind it. -/
theorem splitList_cutLast?_iff {list tail after : List Char} (hne : values ≠ [])
    (hvalues : ∀ v ∈ values, v ≠ "" ∧ ',' ∉ v.toList ∧ '\'' ∉ v.toList) (hblank : tail.head? = some ' ')
    (hcut : cutLast? closing ((Dialect.sqlite.quoteValues values).toList ++ closing ++ tail) = some (list, after)) :
    splitList (· = '\'') list = values ↔ Free closing tail := by
  by_cases hfree : Free closing tail
  · rw [cutLast?_closing_of_free hfree hblank] at hcut
    obtain ⟨rfl, rfl⟩ := Prod.mk.inj (Option.some.inj hcut)
    exact iff_of_true (splitList_quoteValues hne hvalues) hfree
  · obtain ⟨more, _, hlast⟩ := cutLast?_closing_of_not_free (Dialect.sqlite.quoteValues values).toList hfree
    rw [hlast] at hcut
    obtain ⟨rfl, rfl⟩ := Prod.mk.inj (Option.some.inj hcut)
    refine iff_of_false (fun hread => ?_) hfree
    obtain ⟨item, hitem, hquote⟩ := exists_quote_mem_splitList hne hvalues more
    rw [← List.append_assoc, hread] at hitem
    exact (hvalues item hitem).2.2 hquote

end Values

/-! ## The line of an enumeration -/

section Line

variable {definition : ColumnDefinition} {values : List String} {l : List Char}

/-- The text of an enumeration: the list of its values, the end of the check and the modifiers. -/
theorem toList_render_enum (hname : IsName definition.name)
    (htype : definition.type = { name := "varchar", tail := .check definition.name values }) :
    (definition.render .sqlite).toList = opening definition.name ++
      ((Dialect.sqlite.quoteValues values).toList ++ closing ++
        (Modifier.renderAll .sqlite definition.modifiers).toList) := by
  have hquote : '"' ∉ definition.name.toList := hname.notMem (by decide)
  have hdot : '.' ∉ definition.name.toList := hname.notMem (by decide)
  rw [ColumnDefinition.toList_render hquote hdot, ColumnDefinition.body, htype]
  simp [ColumnType.render, TypeArgs.render, TypeTail.render, ColumnDefinition.toList_quoteIdent hquote hdot, opening,
    closing]

theorem lineFeed_notMem_render_enum (hname : IsName definition.name)
    (htype : definition.type = { name := "varchar", tail := .check definition.name values })
    (hvalues : ∀ v ∈ values, '\n' ∉ v.toList)
    (hmodifiers : '\n' ∉ (Modifier.renderAll .sqlite definition.modifiers).toList) :
    '\n' ∉ (definition.render .sqlite).toList := by
  have hopening : '\n' ∉ opening definition.name := by
    have hfeed : '\n' ∉ definition.name.toList := hname.notMem (by decide)
    simp [opening, hfeed]
  have hend : Free ['\n'] (closing ++ (Modifier.renderAll .sqlite definition.modifiers).toList) :=
    free_lineFeed_iff.2 (by simp [closing, hmodifiers])
  have hlist := free_quoteValues (by decide) (fun v hv => free_lineFeed_iff.2 (hvalues v hv)) hend
  rw [toList_render_enum hname htype, List.mem_append, List.append_assoc]
  exact not_or.2 ⟨hopening, free_lineFeed_iff.1 hlist⟩

/-- The line of a definition is found in the text of the creation. -/
theorem exists_line_of_creation (temporary : Bool) (table : QualifiedName) {definitions : List ColumnDefinition}
    (listed : List String) (hmem : definition ∈ definitions)
    (hname : '"' ∉ definition.name.toList ∧ '.' ∉ definition.name.toList)
    (hfeed : '\n' ∉ (definition.render .sqlite).toList) :
    ∃ createSql l, Statement.script .sqlite [.createTable temporary table definitions listed []] = createSql ++ ";" ∧
      LineOf (definition.render .sqlite).toList l ∧
      (definition.name, String.ofList (trimEnds isMargin l)) ∈ definitionLines createSql ∧
      DefinedIn definition (definition.name, String.ofList (trimEnds isMargin l)) := by
  obtain ⟨createSql, htext, head, hchars⟩ := exists_createSql temporary table definitions listed
  have hitem : definition.render .sqlite ∈ Statement.createItems .sqlite definitions listed :=
    List.mem_append_left _ (List.mem_map_of_mem hmem)
  obtain ⟨l, hl, hline⟩ := mem_lines_itemLines hitem hfeed [')']
  obtain ⟨hentry, hdefined⟩ := definedIn_entry hname hline
  have hfound : (definition.name, String.ofList (trimEnds isMargin l)) ∈ definitionLines createSql := by
    rw [definitionLines_eq, hchars, lines_append]
    exact mem_entries (List.mem_append_right _ hl) hentry
  exact ⟨createSql, l, (Statement.script_singleton _ _).trans htext, hline, hfound, hdefined⟩

/-- In the line of an enumeration the list ends in front of the last two parentheses of the definition: what is cut off
the end of a line has none. -/
theorem sqliteValues?_lineOf (hname : IsName definition.name)
    (htype : definition.type = { name := "varchar", tail := .check definition.name values })
    (hfeed : '\n' ∉ (definition.render .sqlite).toList) (hline : LineOf (definition.render .sqlite).toList l) :
    ∃ list after, cutLast? closing ((Dialect.sqlite.quoteValues values).toList ++ closing ++
        (Modifier.renderAll .sqlite definition.modifiers).toList) = some (list, after) ∧
      sqliteValues? (String.ofList (trimEnds isMargin l)) definition.name = some (splitList (· = '\'') list) := by
  have hrender := toList_render_enum hname htype
  generalize hcheck : (Dialect.sqlite.quoteValues values).toList ++ closing ++
    (Modifier.renderAll .sqlite definition.modifiers).toList = check at hrender ⊢
  have hsome : cutLast? closing check ≠ none := by
    rw [Ne, cutLast?_eq_none_iff closing_ne_nil, Free, not_not, ← hcheck]
    exact ⟨_, _, rfl⟩
  obtain ⟨⟨list, after⟩, hcut⟩ := Option.ne_none_iff_exists'.1 hsome
  obtain ⟨rfl, hfree⟩ := (cutLast?_eq_some_iff closing_ne_nil).1 hcut
  have hsplit (rest : List Char) : opening definition.name ++ (list ++ closing ++ rest) =
      (opening definition.name ++ list ++ [')']) ++ ')' :: rest := by
    simp [closing]
  have hstart (rest : List Char) : ((opening definition.name ++ list ++ [')']) ++ ')' :: rest).dropWhile isMargin =
      (opening definition.name ++ list ++ [')']) ++ ')' :: rest :=
    List.dropWhile_cons_of_neg (by decide)
  rw [hrender] at hfeed hline
  rw [hsplit] at hline
  obtain ⟨kept, htrim, hkept, _⟩ := trimEnds_lineOf (by decide) (by decide) hstart hline
  rw [← hsplit] at htrim
  have hprefix : ')' :: kept <+: ')' :: after := List.cons_prefix_cons.2 ⟨rfl, hkept⟩
  have hcutKept : cutLast? closing (list ++ closing ++ kept) = some (list, kept) :=
    (cutLast?_eq_some_iff closing_ne_nil).2 ⟨rfl, hfree.of_isInfix hprefix.isInfix⟩
  have hfeedKept : '\n' ∉ list ++ closing ++ kept := by
    intro hmem
    have hlong : list ++ closing ++ kept <+: list ++ closing ++ after := (List.prefix_append_right_inj _).2 hkept
    exact hfeed (List.mem_append_right _ (hlong.mem hmem))
  refine ⟨list, after, hcut, ?_⟩
  rw [sqliteValues?, String.toList_ofList, htrim, sqliteParts?_opening hname hfeedKept hcutKept]
  simp

end Line

/-- An enumeration of SQLite is read back from the line that defines it. Let its name be one or more word characters,
let its values be not empty and have no quotes, commas and line feeds, and let its default have no line feed. Then the
line is found in the text of the creation, and the column is an enumeration again, whatever else is said of it. Its
values are the same exactly if no two closing parentheses stand next to each other in its default. -/
theorem allowedValues_given_back_iff {t : Table} {statements : List Statement} {c : TableColumn}
    (hcreate : t.create .sqlite = .ok statements) (hc : c ∈ t.columns) (henum : c.dataType = .enum)
    (hname : IsName c.name) (hne : c.allowedValues ≠ [])
    (hvalues : ∀ v ∈ c.allowedValues, v ≠ "" ∧ ',' ∉ v.toList ∧ '\'' ∉ v.toList ∧ '\n' ∉ v.toList)
    (hdefault : ∀ v, c.default = some v → '\n' ∉ v.text.toList) :
    ∃ definition createSql line, t.definitionIn .sqlite c = .ok definition ∧
      Statement.script .sqlite statements = createSql ++ ";" ∧
      (c.name, line) ∈ definitionLines createSql ∧ DefinedIn definition (c.name, line) ∧
      ∀ info : ColumnInfo, info.name = c.name → info.type = "varchar" →
        ∃ l, columnOf info (some line) = .ok l ∧ l.dataType = .enum ∧
          (l.allowedValues = c.allowedValues ↔ ∀ v, c.default = some v → Free closing v.text.toList) := by
  obtain ⟨definitions, hdefinitions, rfl⟩ := create_sqlite_eq_ok hcreate
  obtain ⟨definition, hmem, hdefinition⟩ := exists_mem_of_forall₂ (mapM_eq_ok_iff.1 hdefinitions) c hc
  obtain ⟨hsame, htype, tail, htail, hfeed, hfree⟩ := definitionIn_enum hdefinition henum hdefault
  rw [← hsame] at hname htype ⊢
  have hmodifiers : '\n' ∉ (Modifier.renderAll .sqlite definition.modifiers).toList := by
    rw [htail]
    simpa using hfeed
  have hrender := lineFeed_notMem_render_enum hname htype (fun v hv => (hvalues v hv).2.2.2) hmodifiers
  obtain ⟨createSql, l, htext, hline, hfound, hdefined⟩ := exists_line_of_creation t.temporary t.qualifiedName
    (t.listedKey .sqlite) hmem ⟨hname.notMem (by decide), hname.notMem (by decide)⟩ hrender
  refine ⟨definition, createSql, _, hdefinition, htext, hfound, hdefined, ?_⟩
  intro info hinfo hdeclared
  obtain ⟨list, after, hcut, hread⟩ := sqliteValues?_lineOf hname htype hrender hline
  have hstring : dataType .sqlite info.type = .ok .string := by
    rw [hdeclared, ← declared_bare "varchar" .none]
    exact dataType_check _
  have hvalid : ∀ v ∈ c.allowedValues, v ≠ "" ∧ ',' ∉ v.toList ∧ '\'' ∉ v.toList := by
    intro v hv
    obtain ⟨hempty, hcomma, hquote, _⟩ := hvalues v hv
    exact ⟨hempty, hcomma, hquote⟩
  rw [← hinfo] at hread
  refine ⟨_, columnOf_of_dataType info hstring _, ?_, ?_⟩
  · rw [hread]
    rfl
  · rw [hread, ← hfree]
    rw [htail] at hcut
    exact splitList_cutLast?_iff hne hvalid rfl hcut

/-- Two parentheses in a value do no harm; two in a default run into the list. -/
theorem allowedValues_given_back_iff_of_parentheses :
    let size : TableColumn := .ofColumn {
      name := "größe"
      dataType := .enum
      nullable := true
      allowedValues := ["s", "))"]
      default := some (.string "(s)") }
    let kind : TableColumn := .ofColumn {
      name := "kind"
      dataType := .enum
      allowedValues := ["a", "b"]
      default := some (.string "a))b") }
    let t : Table := { name := "t", columns := [size, kind] }
    ∃ statements, t.create .sqlite = .ok statements ∧
      (∃ createSql line, Statement.script .sqlite statements = createSql ++ ";" ∧
        (size.name, line) ∈ definitionLines createSql ∧
        ∀ info : ColumnInfo, info.name = size.name → info.type = "varchar" →
          ∃ l, columnOf info (some line) = .ok l ∧ l.dataType = .enum ∧ l.allowedValues = size.allowedValues) ∧
      ∃ createSql line, Statement.script .sqlite statements = createSql ++ ";" ∧
        (kind.name, line) ∈ definitionLines createSql ∧
        ∀ info : ColumnInfo, info.name = kind.name → info.type = "varchar" →
          ∃ l, columnOf info (some line) = .ok l ∧ l.dataType = .enum ∧ l.allowedValues ≠ kind.allowedValues := by
  intro size kind t
  let definitions : List ColumnDefinition := [
    ⟨"größe", { name := "varchar", tail := .check "größe" ["s", "))"] }, [.null, .default (.value (.string "(s)"))]⟩,
    ⟨"kind", { name := "varchar", tail := .check "kind" ["a", "b"] }, [.notNull, .default (.value (.string "a))b"))]⟩]
  have hcreate : t.create .sqlite = .ok [.createTable false ⟨none, "t"⟩ definitions [] []] := by rfl
  refine ⟨_, hcreate, ?_, ?_⟩
  · have hdefault : ∀ v, size.default = some v → '\n' ∉ v.text.toList := by
      rintro v ⟨⟩
      decide
    obtain ⟨_, createSql, line, _, htext, hline, _, hread⟩ :=
      allowedValues_given_back_iff hcreate (c := size) (by simp [t]) rfl (by decide) (by decide) (by decide) hdefault
    refine ⟨createSql, line, htext, hline, fun info hname htype => ?_⟩
    obtain ⟨l, hl, henum, hvalues⟩ := hread info hname htype
    refine ⟨l, hl, henum, hvalues.2 ?_⟩
    rintro v ⟨⟩
    exact free_iff_occurs.2 (by decide)
  · have hdefault : ∀ v, kind.default = some v → '\n' ∉ v.text.toList := by
      rintro v ⟨⟩
      decide
    obtain ⟨_, createSql, line, _, htext, hline, _, hread⟩ :=
      allowedValues_given_back_iff hcreate (c := kind) (by simp [t]) rfl (by decide) (by decide) (by decide) hdefault
    refine ⟨createSql, line, htext, hline, fun info hname htype => ?_⟩
    obtain ⟨l, hl, henum, hvalues⟩ := hread info hname htype
    refine ⟨l, hl, henum, fun hsame => ?_⟩
    have hfree := hvalues.1 hsame (.string "a))b") rfl
    exact absurd (free_iff_occurs.1 hfree) (by decide)

end Sqlite
end Catalog
end SqlDialects
