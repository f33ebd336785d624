import SqlDialects.Proofs.Catalog.ConstraintGroups
import SqlDialects.Proofs.Catalog.Loading
import SqlDialects.Proofs.Text.Positions

/-!
# Slices and places while a catalog is read

The readers of a catalog cut texts at places that they search for, and find groups by their places in a list. With
the places spelled out, each of them reads what it reads without them, so no place is ever out of range. The one
exception is the slice between the parentheses of a member list, whose ends are searched for from both sides: there is
none if the parentheses stand the wrong way round. That is also the only way for a load to end without an answer.
-/

namespace SqlDialects
open String (utf8Len)

/-! ## Groups by their places -/

section updateAt

variable {α β κ : Type} [DecidableEq κ]

/-- Updates the entry of a key at its place in the list. If the key is new, its entry is put at the end first. -/
def updateAt? (key : κ) (fresh : β) (update : β → β) (entries : List (κ × β)) : Option (List (κ × β)) :=
  let (place, entries) := match entries.findIdx? (·.1 = key) with
    | some place => (place, entries)
    | none =>
      let grown := entries ++ [(key, fresh)]
      (grown.length - 1, grown)
  (entries[place]?).map fun (k, b) => entries.set place (k, update b)

variable {key : κ} {fresh : β} {update : β → β}

theorem updateAt?_cons_of_ne {entry : κ × β} (h : entry.1 ≠ key) (entries : List (κ × β)) :
    updateAt? key fresh update (entry :: entries) = (updateAt? key fresh update entries).map (entry :: ·) := by
  unfold updateAt?
  rw [List.findIdx?_cons]
  cases hplace : entries.findIdx? (·.1 = key) with
  | none => simp [h]
  | some place => simp [h, Function.comp_def]

theorem updateAt?_cons_self (b : β) (entries : List (κ × β)) :
    updateAt? key fresh update ((key, b) :: entries) = some ((key, update b) :: entries) := by
  have hplace : ((key, b) :: entries).findIdx? (·.1 = key) = some 0 := by rw [List.findIdx?_cons]; simp
  unfold updateAt?
  rw [hplace]
  rfl

/-- Grouping by places puts the item where grouping by keys puts it. -/
theorem updateAt?_map (key : κ) {read : List α → β} {item : α}
    (hread : ∀ items, update (read items) = read (items ++ [item])) (groups : List (κ × List α)) :
    updateAt? key (read []) update (groups.map fun group => (group.1, read group.2)) =
      some ((insertGroup key item groups).map fun group => (group.1, read group.2)) := by
  induction groups with
  | nil => simp [updateAt?, insertGroup, hread]
  | cons group groups ih =>
    obtain ⟨k, items⟩ := group
    by_cases hk : k = key
    · subst hk
      rw [List.map_cons, updateAt?_cons_self, insertGroup, if_pos rfl, hread]
      rfl
    · rw [List.map_cons, updateAt?_cons_of_ne hk, ih, insertGroup, if_neg hk]
      rfl

end updateAt

namespace ConstraintRow

/-- Groups rows by kind, with the place of each kind, and then by name. -/
def groupsAt? (kindOf : String → Option ConstraintKind) (rows : List ConstraintRow) : Option ConstraintGroups :=
  rows.foldlM (fun groups r => match kindOf r.type with
    | some kind => updateAt? kind [] (insertGroup r.name r) groups
    | none => some groups) []

theorem groupsAt?_eq (kindOf : String → Option ConstraintKind) (rows : List ConstraintRow) :
    groupsAt? kindOf rows = some (groups kindOf rows) := by
  induction rows using List.reverseRecOn with
  | nil => rfl
  | append_singleton rows r ih =>
    have hlast : withKinds kindOf (rows ++ [r]) = withKinds kindOf rows ++ ((kindOf r.type).map (·, r)).toList := by
      cases hkind : kindOf r.type <;> simp [withKinds, hkind]
    unfold groupsAt? at ih ⊢
    rw [List.foldlM_append, ih]
    cases hkind : kindOf r.type with
    | none => simp [groups, hlast, hkind]
    | some kind =>
      have hread (items : List (ConstraintKind × ConstraintRow)) :
          insertGroup r.name r (groupByKey name (items.map Prod.snd)) =
            groupByKey name ((items ++ [(kind, r)]).map Prod.snd) := by
        rw [List.map_append, List.map_singleton, groupByKey_append_singleton]
      have hupdate := updateAt?_map kind hread (groupByKey Prod.fst (withKinds kindOf rows))
      rw [groups, groups, hlast, hkind, Option.map_some, Option.toList_some, groupByKey_append_singleton]
      simpa [hkind] using hupdate

theorem exists_first_of_mem_groups {kindOf : String → Option ConstraintKind} {rows : List ConstraintRow}
    {group : ConstraintKind × List (String × List ConstraintRow)} (hgroup : group ∈ groups kindOf rows)
    {named : String × List ConstraintRow} (hnamed : named ∈ group.2) : ∃ first, named.2[0]? = some first := by
  have hne := ((partition_groups kindOf rows).nonempty group hgroup).2 named hnamed
  obtain ⟨first, rest, hrows⟩ := List.exists_cons_of_ne_nil hne
  exact ⟨first, by rw [hrows]; rfl⟩

end ConstraintRow

/-! ## Texts by their places -/

namespace Catalog
open Text

/-- The name of a type, up to the place of its first parenthesis. -/
def stripArgsAt? (name : String) : Option String := do
  let kept ← match find? ['('] name.toList with
    | some stop => slice? 0 stop name.toList
    | none => some name.toList
  return String.ofList (trim kept)

theorem takeWhile_ne_eq (q : Char) (cs : List Char) :
    cs.takeWhile (· != q) = ((cutFirst? [q] cs).map Prod.fst).getD cs := by
  induction cs with
  | nil => rfl
  | cons c cs ih =>
    by_cases hc : q = c
    · simp [cutFirst?, hc]
    · cases hcut : cutFirst? [q] cs <;> simp [cutFirst?, hc, Ne.symm hc, ih, hcut]

theorem stripArgsAt?_eq (name : String) : stripArgsAt? name = some (stripArgs name) := by
  rw [stripArgsAt?, stripArgs, takeWhile_ne_eq, find?_eq]
  cases hcut : cutFirst? ['('] name.toList with
  | none => rfl
  | some cut => simp [slice?_of_cutFirst? hcut]

/-- The content of a literal, up to the place of the last cast or else of the last quote. -/
def literalContentAt? (cs : List Char) : Option (Option (List Char)) :=
  match (rfind? ['\'', ':', ':'] cs).or (rfind? ['\''] cs) with
  | some stop => (slice? 0 stop cs).map fun content => some (undouble '\'' content)
  | none => some none

theorem literalContentAt?_eq (cs : List Char) : literalContentAt? cs = some (literalContent? cs) := by
  rw [literalContentAt?, literalContent?, rfind?_eq, rfind?_eq]
  cases hcast : cutLast? ['\'', ':', ':'] cs with
  | some cut => simp [slice?_of_cutLast? hcast]
  | none =>
    cases hquote : cutLast? ['\''] cs with
    | some cut => simp [slice?_of_cutLast? hquote]
    | none => rfl

namespace EnumCheck

/-- A value of a check, up to the place of its last cast or else of its end. -/
def postgresValueAt? (item : List Char) : Option (Option String) :=
  match trim item with
  | '\'' :: rest =>
    (slice? 0 ((rfind? ['\'', ':', ':'] rest).getD (utf8Len rest)) rest).map fun content =>
      some (String.ofList (undouble '\'' content))
  | _ => some none

theorem postgresValueAt?_eq (item : List Char) : postgresValueAt? item = some (postgresValue? item) := by
  rw [postgresValueAt?, postgresValue?]
  cases trim item with
  | nil => rfl
  | cons c rest =>
    by_cases hc : c = '\''
    · cases hcut : cutLast? ['\'', ':', ':'] rest with
      | some cut => simp [hc, rfind?_eq, hcut, slice?_of_cutLast? hcut]
      | none => simp [hc, rfind?_eq, hcut, slice?_self]
    · simp [hc]

end EnumCheck

namespace Sqlite

/-- The name of a column in its line, up to the place of the closing quote. -/
def definedNameAt? : List Char → Option (Option String)
  | '"' :: rest =>
    match find? ['"'] rest with
    | some stop => (slice? 0 stop rest).map fun name => some (String.ofList name)
    | none => some none
  | _ => some none

theorem definedNameAt?_eq (line : List Char) : definedNameAt? line = some (definedName? line) := by
  cases line with
  | nil => rfl
  | cons c rest =>
    by_cases hc : c = '"'
    · cases hcut : cutFirst? ['"'] rest with
      | some cut => simp [definedNameAt?, definedName?, hc, find?_eq, hcut, slice?_of_cutFirst? hcut]
      | none => simp [definedNameAt?, definedName?, hc, find?_eq, hcut]
    · simp [definedNameAt?, definedName?, hc]

end Sqlite

namespace MySql

/-- What stands between the places of the first opening and the last closing parenthesis. -/
def inParenthesesAt? (cs : List Char) : Option (Option (List Char)) :=
  match find? ['('] cs, rfind? [')'] cs with
  | some opening, some closing => (slice? (opening + 1) closing cs).map some
  | _, _ => some none

theorem inParenthesesAt?_eq (cs : List Char) : inParenthesesAt? cs = (inParentheses cs).toOption := by
  have hone : '('.utf8Size = 1 := rfl
  cases hopening : cutFirst? ['('] cs with
  | none => simp [inParenthesesAt?, inParentheses, find?_eq, hopening, Except.toOption]
  | some opening =>
    cases hclosing : cutLast? [')'] cs with
    | none => simp [inParenthesesAt?, inParentheses, find?_eq, rfind?_eq, hopening, hclosing, Except.toOption]
    | some closing =>
      obtain ⟨beforeOpening, afterOpening⟩ := opening
      obtain ⟨beforeClosing, afterClosing⟩ := closing
      obtain ⟨hcs, hfirst⟩ := cutFirst?_singleton_eq_some_iff.1 hopening
      obtain ⟨hcs', hlast⟩ := cutLast?_singleton_eq_some_iff.1 hclosing
      have hplaces : inParenthesesAt? cs =
          (slice? (utf8Len beforeOpening + 1) (utf8Len beforeClosing) cs).map some := by
        simp [inParenthesesAt?, find?_eq, rfind?_eq, hopening, hclosing]
      rw [hplaces]
      -- Places count bytes here and characters there, so they are compared through what stands before them.
      rcases splits_of_ne (by decide) (hcs.symm.trans hcs') with ⟨between, rfl, rfl⟩ | ⟨between, rfl, rfl⟩
      · have hslice : slice? (utf8Len beforeOpening + 1) (utf8Len (beforeOpening ++ '(' :: between)) cs =
            some between :=
          slice?_eq_some_iff.2 ⟨beforeOpening ++ ['('], ')' :: afterClosing, by simp [hcs], by simp [hone], by simp⟩
        rw [hslice, hcs, inParentheses_eq_ok hfirst hlast]
        rfl
      · have hreversed : inParentheses cs = .error .reversedCut :=
          inParentheses_eq_error_iff.2 ⟨rfl, (closesBeforeOpening_iff hopening hclosing).2 (by simp)⟩
        have hslice : slice? (utf8Len (beforeClosing ++ ')' :: between) + 1) (utf8Len beforeClosing) cs = none :=
          if_neg (by rw [String.utf8Len_append]; omega)
        rw [hslice, hreversed]
        rfl

theorem inParenthesesAt?_eq_none_iff (cs : List Char) : inParenthesesAt? cs = none ↔ ClosesBeforeOpening cs := by
  rw [inParenthesesAt?_eq]
  cases hcut : inParentheses cs with
  | ok inner =>
    refine iff_of_false nofun fun h => ?_
    exact absurd (hcut.symm.trans (inParentheses_eq_error_iff.2 ⟨rfl, h⟩)) nofun
  | error e => exact iff_of_true rfl (inParentheses_eq_error_iff.1 hcut).2

end MySql

/-! ## The ends of a load -/

theorem Sqlite.tells_enterIndexes (columns : List ColumnInfo) (indexes : List IndexInfo)
    (constraints : TableConstraints) : Exchange.Tells (enterIndexes columns indexes constraints) := by
  induction indexes generalizing constraints with
  | nil => exact Exchange.tells_pure constraints
  | cons index rest ih => exact (Exchange.tells_load _ _ _).bind fun parts => ih _

theorem Sqlite.tells_tableInfo (table : String) : Exchange.Tells (tableInfo table) :=
  Exchange.tells_load _ _ _

theorem Sqlite.tells_loadConstraints (table : String) : Exchange.Tells (Sqlite.loadConstraints table) := by
  have hlisted : Exchange.Tells (some <$> tableInfo table) :=
    (tells_tableInfo table).bind fun columns => Exchange.tells_pure _
  refine ((Exchange.tells_load _ _ _).inContext _).bind fun indexes => ?_
  refine Exchange.Tells.ite_bind hlisted (Exchange.tells_pure none) fun early => ?_
  refine (tells_enterIndexes _ _ _).bind fun constraints => ?_
  have hforeign {α : Type} (ofRows : List ConstraintRow → α) : Exchange.Tells (do
      let rows ← Exchange.inContext ("listing foreign keys of table '" ++ table ++ "'")
        (Exchange.load foreignKeyRow ("PRAGMA FOREIGN_KEY_LIST (" ++ Dialect.sqlite.quoteIdent table ++ ")") [])
      return ofRows rows) :=
    ((Exchange.tells_load _ _ _).inContext _).bind fun rows => Exchange.tells_pure _
  dsimp only
  split
  · exact (Exchange.tells_pure _).bind fun key => hforeign _
  · split
    · exact (Exchange.tells_pure _).bind fun columns => (Exchange.tells_pure _).bind fun key => hforeign _
    · exact (tells_tableInfo table).bind fun columns => (Exchange.tells_pure _).bind fun key => hforeign _

theorem tells_loadConstraints (d : Dialect) (table : String) (schema : Option String) :
    Exchange.Tells (loadConstraints d table schema) := by
  cases d with
  | mysql => exact ((Exchange.tells_load _ _ _).inContext _).bind fun rows => Exchange.tells_pure _
  | postgres => exact ((Exchange.tells_load _ _ _).inContext _).bind fun rows => Exchange.tells_pure _
  | sqlite => exact Sqlite.tells_loadConstraints table

/-- The end of an exchange that its caller sees: a result, or an error that is told. -/
def Answers {α : Type} (ended : Except Failure α) : Prop :=
  (∃ a, ended = .ok a) ∨ ∃ told, ended = .error (.error told)

theorem answers_iff {α : Type} {ended : Except Failure α} : Answers ended ↔ ended ≠ .error .reversedCut := by
  cases ended with
  | ok a => exact iff_of_true (.inl ⟨a, rfl⟩) nofun
  | error e => cases e <;> simp [Answers]

/-- The rows that list the columns are those of a table whose first unreadable row cuts its members in reverse. -/
def MySql.ListsInReverse (db : Connection) (table : String) (schema : Option String) (calls : List Call) : Prop :=
  ∃ rows, db.query calls (MySql.columnsCall table schema) = .ok rows ∧ MySql.FirstCutsInReverse rows

section Loads

variable {d : Dialect} {table : String} {schema : Option String} {db : Connection} {calls : List Call}

theorem loadColumns_eq_reversedCut_iff : (loadColumns d table schema db calls).1 = .error .reversedCut ↔
    d = .mysql ∧ MySql.ListsInReverse db table schema calls := by
  constructor
  · intro h
    obtain ⟨calls', hends⟩ : ∃ calls', loadColumns d table schema db calls = (.error .reversedCut, calls') :=
      ⟨_, Prod.ext h rfl⟩
    obtain ⟨listing, hlists⟩ := lists_of_load hends nofun
    obtain ⟨result, hload, _, hcut⟩ := hlists.load
    obtain ⟨rfl, hfirst⟩ := hcut.1 (Prod.mk.inj (hload.symm.trans hends)).1
    cases hlists with
    | mysql hrows => exact ⟨rfl, _, hrows, hfirst⟩
  · rintro ⟨rfl, rows, hrows, hfirst⟩
    obtain ⟨result, hload, _, hcut⟩ := (Lists.mysql hrows).load
    rw [hload]
    exact hcut.2 ⟨rfl, hfirst⟩

theorem loadTable_eq_reversedCut_iff : (loadTable d table schema db calls).1 = .error .reversedCut ↔
    ∃ found mid, Finds db table schema calls d found mid ∧
      d = .mysql ∧ MySql.ListsInReverse db found.name found.schema mid := by
  constructor
  · intro h
    have hends : loadTable d table schema db calls = (.error .reversedCut, _) := Prod.ext h rfl
    obtain ⟨found, mid, hfinds⟩ := finds_of_loadTable hends nofun
    rw [hfinds.load] at h
    exact ⟨found, mid, hfinds, loadColumns_eq_reversedCut_iff.1 (except_map_eq_error.1 h)⟩
  · rintro ⟨found, mid, hfinds, hreversed⟩
    rw [hfinds.load]
    exact except_map_eq_error.2 (loadColumns_eq_reversedCut_iff.2 hreversed)

theorem answers_of_tells {α : Type} {x : Exchange α} (hx : Exchange.Tells x) : Answers (x db calls).1 := by
  cases h : (x db calls).1 with
  | ok a => exact .inl ⟨a, rfl⟩
  | error e =>
    obtain ⟨told, rfl⟩ := hx db calls e (x db calls).2 (Prod.ext h rfl)
    exact .inr ⟨told, rfl⟩

end Loads

/-- With its places spelled out, every reader reads what it reads without them, except that the members of a type
have no slice where the parentheses stand the wrong way round. Each group of rows has a first one. -/
structure PlacesInRange : Prop where
  typeName : ∀ name, stripArgsAt? name = some (stripArgs name)
  literal : ∀ cs, literalContentAt? cs = some (literalContent? cs)
  checkValue : ∀ item, EnumCheck.postgresValueAt? item = some (EnumCheck.postgresValue? item)
  definedName : ∀ line, Sqlite.definedNameAt? line = some (Sqlite.definedName? line)
  members : ∀ cs, MySql.inParenthesesAt? cs = (MySql.inParentheses cs).toOption ∧
    (MySql.inParenthesesAt? cs = none ↔ ClosesBeforeOpening cs)
  groups : ∀ kindOf rows, ConstraintRow.groupsAt? kindOf rows = some (ConstraintRow.groups kindOf rows)
  firstRow : ∀ kindOf rows, ∀ group ∈ ConstraintRow.groups kindOf rows, ∀ named ∈ group.2,
    ∃ first, named.2[0]? = some first

theorem placesInRange : PlacesInRange where
  typeName := stripArgsAt?_eq
  literal := literalContentAt?_eq
  checkValue := EnumCheck.postgresValueAt?_eq
  definedName := Sqlite.definedNameAt?_eq
  members cs := ⟨MySql.inParenthesesAt?_eq cs, MySql.inParenthesesAt?_eq_none_iff cs⟩
  groups := ConstraintRow.groupsAt?_eq
  firstRow _ _ _ hgroup _ hnamed := ConstraintRow.exists_first_of_mem_groups hgroup hnamed

/-- A load of constraints always ends with an answer. A load of columns does, unless the columns are those of MySQL
and the first row that cannot be read has its members cut out in reverse; and a load of a table does, unless the load
of its columns does not. No other slice or place is out of range. -/
theorem loads_answer_iff (d : Dialect) (table : String) (schema : Option String) (db : Connection)
    (calls : List Call) :
    (Answers (loadColumns d table schema db calls).1 ↔ ¬ (d = .mysql ∧ MySql.ListsInReverse db table schema calls)) ∧
      (Answers (loadTable d table schema db calls).1 ↔ ¬ ∃ found mid, Finds db table schema calls d found mid ∧
        d = .mysql ∧ MySql.ListsInReverse db found.name found.schema mid) ∧
      Answers (loadConstraints d table schema db calls).1 ∧ PlacesInRange :=
  ⟨answers_iff.trans (not_congr loadColumns_eq_reversedCut_iff),
    answers_iff.trans (not_congr loadTable_eq_reversedCut_iff), answers_of_tells (tells_loadConstraints d table schema),
    placesInRange⟩

/-- An enumeration whose type has the parentheses the wrong way round leaves the loads of its columns and of its table
without an answer. On another dialect the same row is answered, and so is a type that closes last. -/
theorem loads_answer_iff_of_reversed_members :
    let row (columnType : String) : Row := ⟨[("TABLE_NAME", .text "t"), ("COLUMN_NAME", .text "a"),
      ("DATA_TYPE", .text "enum"), ("COLUMN_TYPE", .text columnType)]⟩
    let answering (r : Row) : Connection := ⟨fun _ _ => .ok (), fun _ _ => .ok [r]⟩
    ¬ Answers (loadColumns .mysql "t" none (answering (row "enum)(")) []).1 ∧
      ¬ Answers (loadTable .mysql "t" none (answering (row "enum)(")) []).1 ∧
      Answers (loadColumns .postgres "t" none (answering (row "enum)(")) []).1 ∧
      Answers (loadColumns .mysql "t" none (answering (row "enum)(é)")) []).1 := by
  intro row answering
  have hcolumn : (row "enum)(").text? "COLUMN_NAME" = some "a" := by decide +kernel
  have htype : MySql.dataTypeOf (row "enum)(") (((row "enum)(").text? "COLUMN_TYPE").getD "") = .ok .enum := by
    decide +kernel
  obtain ⟨c, hread, _, hc⟩ := MySql.exists_attributesOf hcolumn htype
  have hreversed : ClosesBeforeOpening (((row "enum)(").text? "COLUMN_TYPE").getD "").toList := by
    have htext : (((row "enum)(").text? "COLUMN_TYPE").getD "").toList = "enum)".toList ++ ['('] := by decide +kernel
    exact ⟨"enum)".toList, [], htext, by decide⟩
  have hlists (schema : Option String) (calls : List Call) :
      MySql.ListsInReverse (answering (row "enum)(")) "t" schema calls :=
    ⟨_, rfl, [], row "enum)(", [], rfl, by simp, _, hread, .inl hc, hreversed⟩
  have hordered : ¬ ClosesBeforeOpening (((row "enum)(é)").text? "COLUMN_TYPE").getD "").toList := by
    have hcut : MySql.inParenthesesAt? (((row "enum)(é)").text? "COLUMN_TYPE").getD "").toList =
        some (some ['é']) := by decide +kernel
    rw [← MySql.inParenthesesAt?_eq_none_iff, hcut]
    exact Option.some_ne_none _
  have hname : (row "enum)(").text "TABLE_NAME" = .ok "t" := by decide +kernel
  have hfinds : Finds (answering (row "enum)(")) "t" none [] .mysql (MySql.found (row "enum)(") "t")
      ([] ++ [MySql.tableCall "t" none]) := .mysql rfl hname
  have hfound : (MySql.found (row "enum)(") "t").name = "t" := name_foundIn "t" _
  obtain ⟨hcolumns, htable, _⟩ := loads_answer_iff .mysql "t" none (answering (row "enum)(")) []
  refine ⟨fun h => hcolumns.1 h ⟨rfl, hlists none []⟩, fun h => htable.1 h ⟨_, _, hfinds, rfl, ?_⟩, ?_, ?_⟩
  · rw [hfound]
    exact hlists _ _
  · exact (loads_answer_iff .postgres "t" none (answering (row "enum)(")) []).1.2 (by simp)
  · refine (loads_answer_iff .mysql "t" none (answering (row "enum)(é)")) []).1.2 ?_
    rintro ⟨_, rows, hrows, before, r, after, hsplit, _, _, _, _, hcloses⟩
    cases hrows
    have hr : r ∈ [row "enum)(é)"] := hsplit ▸ by simp
    cases List.mem_singleton.1 hr
    exact hordered hcloses

end Catalog
end SqlDialects
