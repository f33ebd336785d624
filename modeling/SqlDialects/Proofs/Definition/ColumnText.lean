import SqlDialects.Definition.Creation
import SqlDialects.Proofs.Outcome
import SqlDialects.Proofs.Text.Occurrence

/-! # The text of a column in SQLite

A column is defined on one line that begins with its name in quotes. Whether the line mentions a counting key or a
check is decided by the column alone, as long as the names and values in it do not bring these words with them. -/

namespace SqlDialects

open Text

/-- A line feed, and the phrases by which SQLite's own text of a table is searched. -/
def phrases : List (List Char) :=
  [['\n'], "PRIMARY KEY AUTOINCREMENT".toList, "check (".toList]

/-- A text on one line that has none of the phrases. -/
def Harmless (cs : List Char) : Prop :=
  ∀ pat ∈ phrases, Free pat cs

/-- The text of a default, without the quotes of a literal. -/
def DefaultValue.text : DefaultValue → String
  | expression sql => sql
  | v => v.literalText?.getD "NULL"

/-- A column whose name is a single part without quotes, and whose name, default and values are harmless. -/
structure Column.IsPlain (c : Column) : Prop where
  noQuote : '"' ∉ c.name.toList
  noDot : '.' ∉ c.name.toList
  name : Harmless c.name.toList
  default : ∀ v, c.default = some v → Harmless v.text.toList
  values : ∀ v ∈ c.allowedValues, Harmless v.toList

section Phrases

variable {pat xs rest : List Char} {c : Column} {type : ColumnType}

theorem ne_nil_of_mem_phrases (hpat : pat ∈ phrases) : pat ≠ [] := by
  revert pat
  decide

/-- The phrases have no quotes, and neither of two letters of the words that a definition has in every case. -/
theorem notMem_of_mem_phrases (hpat : pat ∈ phrases) :
    '"' ∉ pat ∧ '\'' ∉ pat ∧ 'L' ∉ pat := by
  revert pat
  decide

theorem head?_of_mem_phrases (hpat : pat ∈ phrases) : ∀ c ∈ ['T', ',', ' ', 'i', 'n', '('], pat.head? ≠ some c := by
  intro c hc hhead
  have hheads : phrases.map List.head? = [some '\n', some 'P', some 'c'] := by decide
  have hmem : some c ∈ phrases.map List.head? := List.mem_map.2 ⟨pat, hpat, hhead⟩
  rw [hheads] at hmem
  simp only [List.mem_cons, List.not_mem_nil, or_false, Option.some.injEq] at hmem
  rcases hmem with rfl | rfl | rfl <;> exact absurd hc (by decide)

theorem getLast?_of_mem_phrases (hpat : pat ∈ phrases) : pat.getLast? ≠ some ' ' := by
  revert pat
  decide

theorem harmless_of_occurs {cs : List Char} (h : phrases.all (fun pat => !occurs pat cs) = true) : Harmless cs := by
  intro pat hpat
  have hoccurs := List.all_eq_true.1 h pat hpat
  rw [free_iff_occurs]
  simpa using hoccurs

theorem free_quoteString (hpat : pat ∈ phrases) {s : String} (hs : Free pat s.toList) (hrest : Free pat rest) :
    Free pat ((Dialect.sqlite.quoteString s).toList ++ rest) := by
  obtain ⟨_, hquote, _⟩ := notMem_of_mem_phrases hpat
  have htext : (Dialect.sqlite.quoteString s).toList ++ rest =
      [] ++ '\'' :: (s.toList.flatMap (Dialect.quotedChar .sqlite) ++ '\'' :: rest) := by
    simp [Dialect.quoteString, Dialect.inQuotes]
  rw [htext]
  exact .append hquote (.nil (ne_nil_of_mem_phrases hpat)) (.append hquote (hs.flatMap_quotedChar hquote) hrest)

theorem free_render_default (hpat : pat ∈ phrases) {v : DefaultValue} (hv : Free pat v.text.toList) :
    Free pat (v.render .sqlite).toList := by
  have hliteral {s : String} (hs : Free pat s.toList) : Free pat (Dialect.sqlite.quoteString s).toList := by
    simpa using free_quoteString hpat hs (.nil (ne_nil_of_mem_phrases hpat))
  cases v with
  | null => exact hv
  | expression sql => exact hv
  | boolean b => exact hliteral hv
  | integer n => exact hliteral hv
  | float x => exact hliteral hv
  | string s => exact hliteral hv

theorem free_quoteValues (hpat : pat ∈ phrases) {values : List String} (hvalues : ∀ v ∈ values, Free pat v.toList)
    (hrest : Free pat rest) : Free pat ((Dialect.sqlite.quoteValues values).toList ++ rest) := by
  have hcomma : pat.head? ≠ some ',' := head?_of_mem_phrases hpat _ (by simp)
  rw [Dialect.quoteValues, String.toList_intercalate]
  induction values with
  | nil => exact hrest
  | cons v values ih =>
    obtain ⟨hv, hvalues⟩ := List.forall_mem_cons.1 hvalues
    cases values with
    | nil => simpa using free_quoteString hpat hv hrest
    | cons w values =>
      have hlater := free_quoteString hpat hv (.cons hcomma (ih hvalues))
      simpa [List.intercalate_cons_cons] using hlater

theorem free_clause (hpat : pat ∈ phrases) (hdefault : ∀ v, c.default = some v → Free pat v.text.toList)
    {clause : DefaultClause} (hclause : Modifier.defaultClause? .sqlite c = some clause) :
    Free pat (clause.render .sqlite).toList := by
  have hnow : Harmless (DefaultClause.now.render .sqlite).toList := harmless_of_occurs (by decide)
  have hchoice : (if c.useCurrent && c.dataType.isMoment then some DefaultClause.now else c.default.map .value) =
      some clause := hclause
  split at hchoice
  · obtain rfl := Option.some.inj hchoice
    exact hnow pat hpat
  · obtain ⟨v, hv, rfl⟩ := Option.map_eq_some_iff.1 hchoice
    exact free_render_default hpat (hdefault v hv)

theorem render_null : Modifier.null.render .sqlite = " NULL" := rfl

theorem render_notNull : Modifier.notNull.render .sqlite = " NOT NULL" := rfl

theorem render_default (clause : DefaultClause) :
    (Modifier.default clause).render .sqlite = " DEFAULT " ++ clause.render .sqlite := rfl

/-- The two letters `L` of `NULL` and the one of `DEFAULT` keep apart what stands around them. -/
theorem free_modifiers (hpat : pat ∈ phrases) (hdefault : ∀ v, c.default = some v → Free pat v.text.toList)
    (hnull : Free pat (xs ++ " NU".toList)) (hnotNull : Free pat (xs ++ " NOT NU".toList)) :
    Free pat (xs ++ (Modifier.renderAll .sqlite (Modifier.sqlite c)).toList) := by
  obtain ⟨_, _, hl⟩ := notMem_of_mem_phrases hpat
  have hend : Free pat [] := .nil (ne_nil_of_mem_phrases hpat)
  have hword : Harmless " DEFAU".toList := harmless_of_occurs (by decide)
  have hclause : Free pat (((Modifier.defaultClause? .sqlite c).map Modifier.default).toList.flatMap
      fun m => (m.render .sqlite).toList) := by
    cases hclause : Modifier.defaultClause? .sqlite c with
    | none => exact hend
    | some clause =>
      have hhead := head?_of_mem_phrases hpat
      have hafter : Free pat ('T' :: ' ' :: (clause.render .sqlite).toList) :=
        .cons (hhead _ (by simp)) (.cons (hhead _ (by simp)) (free_clause hpat hdefault hclause))
      simpa [render_default] using Free.append hl (hword pat hpat) hafter
  have hnullable := Free.append hl hnull (.append hl hend hclause)
  have hnot := Free.append hl hnotNull (.append hl hend hclause)
  cases hc : c.nullable with
  | true => simpa [Modifier.renderAll, Modifier.sqlite, Modifier.nullability, render_null, hc,
      List.flatMap_map] using hnullable
  | false => simpa [Modifier.renderAll, Modifier.sqlite, Modifier.nullability, render_notNull, hc,
      List.flatMap_map] using hnot

/-- The types of SQLite that are no enumerations, each with the abstract type that stands for it. -/
def plainTypes : List (ColumnType × DataType) :=
  [(.bare "varchar", .string), (.bare "text", .text), (.bare "integer", .int), (.bare "blob", .blob),
   (.bare "float", .float), (.bare "numeric", .decimal), (.sized "tinyint" 1, .boolean), (.bare "date", .date),
   (.bare "datetime", .dateTime), (.bare "time", .time), (.bare "geometry", .geometry), (.bare "point", .point),
   (.bare "linestring", .lineString), (.bare "polygon", .polygon), (.bare "geometrycollection", .geometryCollection),
   (.bare "multipoint", .multiPoint), (.bare "multilinestring", .multiLineString),
   (.bare "multipolygon", .multiPolygon)]

theorem exists_mem_plainTypes (htype : ColumnType.sqlite? c = some type) (hc : c.dataType ≠ .enum) :
    ∃ u, (type, u) ∈ plainTypes := by
  unfold ColumnType.sqlite? at htype
  cases hd : c.dataType <;> simp [hd, ColumnType.spatialName?] at htype hc <;> subst htype <;>
    simp [plainTypes, ColumnType.bare, ColumnType.sized]

/-- Each phrase has a character that no type and no word about null has. -/
theorem free_plainType (hpat : pat ∈ phrases) {u : DataType} (hu : (type, u) ∈ plainTypes) :
    Free pat (' ' :: (type.render .sqlite).toList ++ " NU".toList) ∧
      Free pat (' ' :: (type.render .sqlite).toList ++ " NOT NU".toList) := by
  have htypes : plainTypes.all
      (fun p => ['\n', 'P', 'k'].all fun x => x ∉ ' ' :: (p.1.render .sqlite).toList) = true := by
    decide +kernel
  have hwords : ['\n', 'P', 'k'].all (fun x => x ∉ " NU".toList ∧ x ∉ " NOT NU".toList) = true := by decide
  have hletters : phrases.all (fun pat => ['\n', 'P', 'k'].any fun x => x ∈ pat) = true := by decide
  obtain ⟨x, hx, hmem⟩ := List.any_eq_true.1 (List.all_eq_true.1 hletters pat hpat)
  have hmem := of_decide_eq_true hmem
  have htype := of_decide_eq_true (List.all_eq_true.1 (List.all_eq_true.1 htypes (type, u) hu) x hx)
  obtain ⟨hnull, hnotNull⟩ := of_decide_eq_true (List.all_eq_true.1 hwords x hx)
  exact ⟨.of_notMem hmem (mt List.mem_append.1 (not_or.2 ⟨htype, hnull⟩)),
    .of_notMem hmem (mt List.mem_append.1 (not_or.2 ⟨htype, hnotNull⟩))⟩

end Phrases

namespace ColumnDefinition

variable {pat : List Char} {c : Column} {definition : ColumnDefinition}

/-- What a definition says after the name. -/
def body (definition : ColumnDefinition) : List Char :=
  ' ' :: ((definition.type.render .sqlite).toList ++ (Modifier.renderAll .sqlite definition.modifiers).toList)

theorem toList_quoteIdent {name : String} (hquote : '"' ∉ name.toList) (hdot : '.' ∉ name.toList) :
    (Dialect.sqlite.quoteIdent name).toList = '"' :: (name.toList ++ ['"']) := by
  rw [Dialect.quoteIdent, String.toList_ofList, Dialect.quotedIdentifier_of_notMem hdot]
  simp [Dialect.quotedPart, Dialect.identifierQuote, double_of_notMem hquote]

theorem toList_render (hquote : '"' ∉ definition.name.toList) (hdot : '.' ∉ definition.name.toList) :
    (definition.render .sqlite).toList = '"' :: (definition.name.toList ++ '"' :: definition.body) := by
  simp [render, body, toList_quoteIdent hquote hdot]

theorem ofColumn_sqlite_eq_ok (h : ofColumn .sqlite c = .ok definition) :
    ∃ type, ColumnType.sqlite? c = some type ∧ definition = ⟨c.name, type, Modifier.sqlite c⟩ := by
  obtain ⟨type, htype, rfl⟩ := except_map_eq_ok.1 h
  exact ⟨type, ColumnType.ofColumn_eq_ok_iff.1 htype, rfl⟩

/-- The type of an enumeration is the one that brings a check with it. -/
theorem free_body (h : ofColumn .sqlite c = .ok definition) (hplain : c.IsPlain) (hpat : pat ∈ phrases)
    (hcheck : c.dataType = .enum → Free pat " varchar check (".toList) : Free pat definition.body := by
  have hdefault : ∀ v, c.default = some v → Free pat v.text.toList := fun v hv => hplain.default v hv pat hpat
  obtain ⟨type, htype, rfl⟩ := ofColumn_sqlite_eq_ok h
  by_cases hc : c.dataType = .enum
  · obtain ⟨hquote, _, _⟩ := notMem_of_mem_phrases hpat
    obtain rfl : type = { name := "varchar", tail := .check c.name c.allowedValues } := by
      simpa [ColumnType.sqlite?, hc] using htype.symm
    have hnull : Harmless ("))".toList ++ " NU".toList) := harmless_of_occurs (by decide)
    have hnotNull : Harmless ("))".toList ++ " NOT NU".toList) := harmless_of_occurs (by decide)
    have hopening : ∀ x ∈ " in (".toList, pat.head? ≠ some x := fun x hx =>
      head?_of_mem_phrases hpat x (by simp at hx ⊢; tauto)
    have hmodifiers := free_modifiers hpat hdefault (hnull pat hpat) (hnotNull pat hpat)
    have hvalues := free_quoteValues hpat (fun v hv => hplain.values v hv pat hpat) hmodifiers
    have hname := Free.append hquote (hplain.name pat hpat) (.prepend hopening hvalues)
    simpa [body, ColumnType.render, TypeArgs.render, TypeTail.render,
      toList_quoteIdent hplain.noQuote hplain.noDot] using Free.append hquote (hcheck hc) hname
  · obtain ⟨u, hu⟩ := exists_mem_plainTypes htype hc
    obtain ⟨hnull, hnotNull⟩ := free_plainType hpat hu
    exact free_modifiers hpat hdefault hnull hnotNull

theorem body_asCountingKey (definition : ColumnDefinition) :
    definition.asCountingKey.body = definition.body ++ " PRIMARY KEY AUTOINCREMENT".toList := by
  simp [body, asCountingKey, Modifier.renderAll, Modifier.render]

/-- A definition that marks a counting key has none of the other phrases for that. -/
theorem free_body_asCountingKey (hpat : pat ∈ phrases) (hkey : 'P' ∉ pat) (h : Free pat definition.body) :
    Free pat definition.asCountingKey.body := by
  have hrest : Harmless "RIMARY KEY AUTOINCREMENT".toList := harmless_of_occurs (by decide)
  have hblank : Free pat (definition.body ++ [' ']) := .concat (getLast?_of_mem_phrases hpat) h
  simpa [body_asCountingKey] using Free.append hkey hblank (hrest pat hpat)

end ColumnDefinition
end SqlDialects
