import SqlDialects.Proofs.Definition.AddedDefinition

/-! # Defaults and places in the definitions of MySQL

MySQL has the current moment of a timestamp in its type and that of a date with time among the modifiers, beside the
default that the column was given. So a timestamp with both has two defaults, and a date with time loses its fraction
digits. The place of a column is a modifier too, and stands in creations as in alterations. -/

namespace SqlDialects

/-- What stands behind the word for a default in a type. -/
def TypeTail.default? (d : Dialect) : TypeTail → Option String
  | defaultNow precision => some ("CURRENT_TIMESTAMP" ++ (withPrecision "CURRENT_TIMESTAMP" precision).args.render d)
  | _ => .none

/-- What stands behind the word for a default in a modifier. -/
def Modifier.default? (d : Dialect) : Modifier → Option String
  | default value => some (value.render d)
  | _ => none

/-- The defaults that a definition states, in the order of its text. -/
def ColumnDefinition.defaults (d : Dialect) (definition : ColumnDefinition) : List String :=
  (definition.type.tail.default? d).toList ++ definition.modifiers.filterMap (Modifier.default? d)

/-- The current moment with as many fraction digits as the type has. -/
def ColumnDefinition.moment (d : Dialect) (definition : ColumnDefinition) : String :=
  "CURRENT_TIMESTAMP" ++ definition.type.args.render d

theorem ColumnDefinition.moment_eq (d : Dialect) (definition : ColumnDefinition) :
    definition.moment d = "CURRENT_TIMESTAMP" ++ definition.type.args.render d := rfl

/-- The words for the place of a column. -/
def Modifier.isPlacement : Modifier → Bool
  | after _ => true
  | first => true
  | _ => false

/-- MySQL has the current moment of the column in its type. -/
def Column.HasMomentInType (c : Column) : Prop :=
  c.useCurrent = true ∧ c.dataType.isMoment = true ∧ c.dataType.isDateTime = false

instance (c : Column) : Decidable c.HasMomentInType :=
  inferInstanceAs (Decidable (_ ∧ _))

variable {c : Column} {type : ColumnType} {definition : ColumnDefinition}

theorem render_withPrecision_eq_empty_iff (d : Dialect) (name : String) (precision : UInt32) :
    (withPrecision name precision).args.render d = "" ↔ precision = 0 := by
  constructor
  · intro h
    by_contra hne
    have hpos : precision > 0 := UInt32.pos_iff_ne_zero.2 hne
    simp only [withPrecision, if_pos hpos, TypeArgs.render] at h
    exact absurd (String.append_eq_empty_iff.1 h).2 (by decide)
  · rintro rfl
    rfl

/-- The digits of a moment. -/
theorem ColumnType.args_mysql? (h : mysql? c = some type) (hmoment : c.dataType.isMoment = true) :
    type.args = (withPrecision "CURRENT_TIMESTAMP" c.precision).args := by
  cases ht : c.dataType with
  | dateTime | dateTimeTz =>
    simp only [mysql?, ht] at h
    cases h
    rfl
  | timestamp | timestampTz =>
    simp only [mysql?, ht] at h
    cases h
    cases c.useCurrent <;> rfl
  | _ =>
    rw [ht] at hmoment
    cases hmoment

theorem ColumnType.default?_mysql? (d : Dialect) (h : mysql? c = some type) : type.tail.default? d =
    if c.HasMomentInType then some ("CURRENT_TIMESTAMP" ++ type.args.render d) else none := by
  cases ht : c.dataType with
  | timestamp | timestampTz =>
    simp only [mysql?, ht] at h
    cases h
    cases hnow : c.useCurrent <;>
      simp [Column.HasMomentInType, hnow, ht, DataType.isMoment, DataType.isDateTime] <;> rfl
  | _ =>
    simp only [mysql?, ht] at h
    cases h <;> simp [Column.HasMomentInType, ht, DataType.isMoment, DataType.isDateTime] <;> rfl

theorem Modifier.filterMap_default?_mysql (c : Column) :
    (Modifier.mysql c).filterMap (default? .mysql) = ((defaultClause? .mysql c).map (·.render .mysql)).toList := by
  have honly : (fun m : Modifier => if m.isDefault then m.default? .mysql else none) = default? .mysql := by
    funext m
    cases m <;> rfl
  rw [← honly, ← List.filterMap_filter, filter_isDefault_mysql]
  cases defaultClause? .mysql c <;> rfl

/-- The default of the type, if the column has the moment in it, and then that of the modifiers. -/
theorem ColumnDefinition.defaults_mysql (h : ofColumn .mysql c = .ok definition) : definition.defaults .mysql =
    (if c.HasMomentInType then [definition.moment .mysql] else []) ++
      ((Modifier.defaultClause? .mysql c).map (·.render .mysql)).toList := by
  obtain ⟨type, htype, rfl⟩ := except_map_eq_ok.1 h
  have hsome : ColumnType.mysql? c = some type := ColumnType.ofColumn_eq_ok_iff.1 htype
  rw [defaults, ColumnType.default?_mysql? .mysql hsome, Modifier.ofColumn, Modifier.filterMap_default?_mysql, moment_eq]
  split <;> rfl

/-- No word for a place stands among the modifiers of a column without a place. -/
theorem Modifier.not_isPlacement_iff (c : Column) :
    (∀ m ∈ ofColumn .mysql c, m.isPlacement = false) ↔ c.after = none ∧ c.first = false := by
  constructor
  · intro h
    refine ⟨Option.eq_none_iff_forall_ne_some.2 fun name hname => ?_, Bool.eq_false_iff.2 fun hfirst => ?_⟩
    · exact nomatch h (.after name) (mem_ofColumn_iff.2 ⟨rfl, hname⟩)
    · exact nomatch h .first (mem_ofColumn_iff.2 ⟨rfl, hfirst⟩)
  · rintro ⟨hafter, hfirst⟩ m hm
    have hholds := mem_ofColumn_iff.1 hm
    cases m with
    | after name => exact nomatch hafter.symm.trans hholds.2
    | first => exact nomatch hfirst.symm.trans hholds.2
    | _ => rfl

namespace ColumnDefinition

theorem length_defaults_le_one_iff (h : ofColumn .mysql c = .ok definition) :
    (definition.defaults .mysql).length ≤ 1 ↔ ¬ (c.HasMomentInType ∧ c.default.isSome = true) := by
  rw [defaults_mysql h, Modifier.defaultClause?]
  by_cases hmoment : c.HasMomentInType
  · obtain ⟨hnow, _, hdateTime⟩ := id hmoment
    cases c.default <;> simp [hmoment, hnow, hdateTime]
  · have hone (o : Option String) : o.toList.length ≤ 1 := by cases o <;> simp
    rw [if_neg hmoment, List.nil_append]
    exact iff_of_true (hone _) fun hboth => hmoment hboth.1

/-- The one default is the moment with the digits of the type: of a date with time exactly if it has no digits, of a
timestamp exactly if it was given no default beside. -/
theorem defaults_eq_moment_iff (h : ofColumn .mysql c = .ok definition) (hnow : c.useCurrent = true)
    (hmoment : c.dataType.isMoment = true) : definition.defaults .mysql = [definition.moment .mysql] ↔
      if c.dataType.isDateTime then c.precision = 0 else c.default = none := by
  rw [defaults_mysql h, Modifier.defaultClause?]
  cases hdateTime : c.dataType.isDateTime with
  | true =>
    have hplain : ¬ c.HasMomentInType := fun h => Bool.noConfusion (hdateTime.symm.trans h.2.2)
    obtain ⟨type, htype, rfl⟩ := except_map_eq_ok.1 h
    have hargs := ColumnType.args_mysql? (ColumnType.ofColumn_eq_ok_iff.1 htype) hmoment
    have hsame (digits : String) : "CURRENT_TIMESTAMP" = "CURRENT_TIMESTAMP" ++ digits ↔ digits = "" :=
      eq_comm.trans String.append_eq_left_iff
    simp [hplain, hnow, moment_eq, DefaultClause.render, hargs, hsame, render_withPrecision_eq_empty_iff]
  | false =>
    have hinType : c.HasMomentInType := ⟨hnow, hmoment, hdateTime⟩
    cases c.default <;> simp [hinType]

end ColumnDefinition

/-- A column of MySQL has more than one default exactly if it is a timestamp with the current moment and a default of
its own. With the current moment, the default is that with the digits of the type except for such a timestamp and for a
date with time that has digits. The creation of its table says the place of every column that has one. -/
theorem Table.defaults_and_place_mysql (t : Table) (c : TableColumn) (hc : c ∈ t.columns)
    (definition : ColumnDefinition) (h : ColumnDefinition.ofColumn .mysql c.toColumn = .ok definition) :
    ((definition.defaults .mysql).length ≤ 1 ↔ ¬ (c.HasMomentInType ∧ c.default.isSome = true)) ∧
      (c.useCurrent = true → c.dataType.isMoment = true →
        (definition.defaults .mysql = [definition.moment .mysql] ↔
          if c.dataType.isDateTime then c.precision = 0 else c.default = none)) ∧
      ∀ creation, t.create .mysql = .ok creation → definition ∈ creation.flatMap Statement.definitions ∧
        ((∀ m ∈ definition.modifiers, m.isPlacement = false) ↔ c.after = none ∧ c.first = false) := by
  refine ⟨ColumnDefinition.length_defaults_le_one_iff h, ColumnDefinition.defaults_eq_moment_iff h,
    fun creation hcreation => ⟨?_, ?_⟩⟩
  · obtain ⟨definitions, hdefinitions, hcreation⟩ := except_bind_eq_ok.1 hcreation
    obtain ⟨created, hmem, hcreated⟩ := exists_mem_of_forall₂ (mapM_eq_ok_iff.1 hdefinitions) c hc
    have hsame : t.definitionIn .mysql c = .ok definition := by rw [definitionIn, h]; rfl
    obtain rfl := Except.ok.inj (hsame.symm.trans hcreated)
    cases hcreation
    simpa [Statement.definitions, creationComments] using hmem
  · obtain ⟨type, _, rfl⟩ := except_map_eq_ok.1 h
    exact Modifier.not_isPlacement_iff c.toColumn

/-- A timestamp with both has two defaults, a date with time loses its six digits, and a creation says
where to put a column. -/
theorem Table.defaults_and_place_mysql_of_two_moments :
    let seen : TableColumn := .ofColumn
      { name := "seen", dataType := .timestamp, useCurrent := true, default := some (.expression "CURRENT_TIMESTAMP") }
    let born : TableColumn := .ofColumn
      { name := "born", dataType := .dateTime, precision := 6, useCurrent := true, after := some "id" }
    let t : Table := { Table.declare "users" with columns := [born, seen] }
    let seenDefinition : ColumnDefinition := ⟨"seen", ⟨"timestamp", .none, .defaultNow 0⟩,
      [.notNull, .default (.value (.expression "CURRENT_TIMESTAMP"))]⟩
    let bornDefinition : ColumnDefinition :=
      ⟨"born", ⟨"datetime", .sizes [6], .none⟩, [.notNull, .default .now, .after "id"]⟩
    t.create .mysql = .ok [.createTable false ⟨none, "users"⟩ [bornDefinition, seenDefinition] [] []] ∧
      1 < (seenDefinition.defaults .mysql).length ∧
      bornDefinition.defaults .mysql ≠ [bornDefinition.moment .mysql] ∧
      ∃ m ∈ bornDefinition.modifiers, m.isPlacement = true := by
  intro seen born t seenDefinition bornDefinition
  have hcreate :
      t.create .mysql = .ok [.createTable false ⟨none, "users"⟩ [bornDefinition, seenDefinition] [] []] := by rfl
  obtain ⟨honce, _, _⟩ := defaults_and_place_mysql t seen (by simp [t]) seenDefinition (by rfl)
  obtain ⟨_, hdigits, hplace⟩ := defaults_and_place_mysql t born (by simp [t]) bornDefinition (by rfl)
  refine ⟨hcreate, not_le.1 fun hle => ?_, fun hsame => ?_, ?_⟩
  · exact honce.1 hle ⟨by decide, rfl⟩
  · have hnone : (6 : UInt32) = 0 := (hdigits rfl rfl).1 hsame
    exact absurd hnone (by decide)
  · by_contra hnone
    have hafter : some "id" = none := ((hplace _ hcreate).2.1 (by simpa using hnone)).1
    cases hafter

end SqlDialects
