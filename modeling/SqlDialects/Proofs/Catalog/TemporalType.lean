import SqlDialects.Catalog.TypeName
import SqlDialects.Definition.ColumnType
import SqlDialects.Proofs.Outcome

/-!
# Types of time, written and read

PostgreSQL writes a type of time with fraction digits as a name, the digits in parentheses and a word on the time zone
behind them. What reads the name of a type stops at the parentheses. So a date stays a date, but a time zone is read
back only from the short name of a type without fraction digits.
-/

namespace SqlDialects

namespace DataType

/-- The types of a time of day, with a date or without. -/
def isTemporal : DataType → Bool
  | time | timeTz => true
  | t => t.isMoment

/-- The types of a time with its zone. -/
def hasZone : DataType → Bool
  | dateTimeTz | timeTz | timestampTz => true
  | _ => false

/-- The type of time that a catalog has for a date or none and a zone or none. -/
def temporal (hasDate hasZone : Bool) : DataType :=
  match hasDate, hasZone with
  | true, true => timestampTz
  | true, false => timestamp
  | false, true => timeTz
  | false, false => time

theorem isTemporal_temporal (hasDate hasZone : Bool) : (temporal hasDate hasZone).isTemporal = true := by
  cases hasDate <;> cases hasZone <;> rfl

theorem isMoment_temporal (hasDate hasZone : Bool) : (temporal hasDate hasZone).isMoment = hasDate := by
  cases hasDate <;> cases hasZone <;> rfl

theorem hasZone_temporal (hasDate hasZone : Bool) : (temporal hasDate hasZone).hasZone = hasZone := by
  cases hasDate <;> cases hasZone <;> rfl

end DataType

namespace ColumnType

/-- The name of a type of time in front of its fraction digits. -/
def temporalName (hasDate : Bool) : String :=
  if hasDate then "timestamp" else "time"

/-- The name of a type of time without fraction digits. -/
def temporalShort (hasDate hasZone : Bool) : String :=
  if hasZone then temporalName hasDate ++ "tz" else temporalName hasDate

/-- The word on the time zone behind fraction digits. -/
def zoneTail (hasZone : Bool) : TypeTail :=
  if hasZone then .withTimeZone else .withoutTimeZone

/-- What PostgreSQL writes for a type of time depends on its date and its zone alone. -/
theorem postgres?_of_isTemporal {c : Column} (hc : c.dataType.isTemporal = true) :
    postgres? c = some (zoned (temporalShort c.dataType.isMoment c.dataType.hasZone)
      (temporalName c.dataType.isMoment) (zoneTail c.dataType.hasZone) c) := by
  cases hd : c.dataType with
  | dateTime | dateTimeTz | time | timeTz | timestamp | timestampTz => rw [postgres?, hd]; rfl
  | _ => simp [hd, DataType.isTemporal, DataType.isMoment] at hc

theorem ofColumn_of_isTemporal {c : Column} (hc : c.dataType.isTemporal = true) :
    ofColumn .postgres c = .ok (zoned (temporalShort c.dataType.isMoment c.dataType.hasZone)
      (temporalName c.dataType.isMoment) (zoneTail c.dataType.hasZone) c) :=
  (ofColumn_eq_ok_iff (d := .postgres)).2 (postgres?_of_isTemporal hc)

theorem zoned_of_precise {c : Column} (hc : c.precision ≠ 0) (short long : String) (tail : TypeTail) :
    zoned short long tail c = { name := long, args := .sizes [c.precision], tail := tail } :=
  if_neg hc

theorem zoned_of_plain {c : Column} (hc : c.precision = 0) (short long : String) (tail : TypeTail) :
    zoned short long tail c = bare short :=
  if_pos hc

theorem render_bare (d : Dialect) (name : String) : (bare name).render d = name := by
  simp [render, bare, TypeArgs.render, TypeTail.render]

/-- With fraction digits, only the word behind them tells whether there is a zone. -/
theorem render_zoneTail_inj {name : String} {args : TypeArgs} {z z' : Bool} :
    render .postgres { name := name, args := args, tail := zoneTail z } =
      render .postgres { name := name, args := args, tail := zoneTail z' } ↔ z = z' := by
  constructor
  · intro h
    have htails : (zoneTail z).render .postgres = (zoneTail z').render .postgres := by
      simpa [render, ← String.toList_inj] using h
    cases z <;> cases z'
    · rfl
    · exact absurd htails (by decide)
    · exact absurd htails (by decide)
    · rfl
  · rintro rfl
    rfl

end ColumnType

namespace Catalog

/-- The name of a type ends where its arguments begin, whatever stands in them or behind them. -/
theorem stripArgs_parenthesis {name : String} (hname : '(' ∉ name.toList) (rest : String) :
    stripArgs (name ++ "(" ++ rest) = stripArgs name := by
  have hplain : ∀ x ∈ name.toList, (x != '(') = true := fun x hx => bne_iff_ne.2 fun h => hname (h ▸ hx)
  have hword (cs : List Char) : (name.toList ++ cs).takeWhile (· != '(') = name.toList ++ cs.takeWhile (· != '(') :=
    List.takeWhile_append_of_pos hplain
  have harguments : (name ++ "(" ++ rest).toList.takeWhile (· != '(') = name.toList := by simp [hword]
  have hself : name.toList.takeWhile (· != '(') = name.toList := by simpa using hword []
  rw [stripArgs, harguments, stripArgs, hself]

theorem dataType_postgres_parenthesis {name : String} (hname : '(' ∉ name.toList) (rest : String) :
    dataType .postgres (name ++ "(" ++ rest) = dataType .postgres name := by
  simp only [dataType, stripArgs_parenthesis hname]

theorem dataType_temporalShort (hasDate hasZone : Bool) :
    dataType .postgres (ColumnType.temporalShort hasDate hasZone) = .ok (.temporal hasDate hasZone) := by
  cases hasDate <;> cases hasZone <;> decide +kernel

theorem dataType_temporalName (hasDate : Bool) :
    dataType .postgres (ColumnType.temporalName hasDate) = .ok (.temporal hasDate false) := by
  cases hasDate <;> decide +kernel

/-- The type of time that is read from what PostgreSQL writes for a column. -/
theorem dataType_zoned (c : Column) (hasDate hasZone : Bool) :
    dataType .postgres ((ColumnType.zoned (ColumnType.temporalShort hasDate hasZone) (ColumnType.temporalName hasDate)
      (ColumnType.zoneTail hasZone) c).render .postgres) =
        .ok (.temporal hasDate (hasZone && c.precision == 0)) := by
  by_cases hc : c.precision = 0
  · rw [ColumnType.zoned_of_plain hc, ColumnType.render_bare, dataType_temporalShort]
    simp [hc]
  · have hname : '(' ∉ (ColumnType.temporalName hasDate).toList := by
      cases hasDate <;> decide
    have hprecise : (c.precision == 0) = false := beq_false_of_ne hc
    have htext (args : String) (tail : TypeTail) : ColumnType.temporalName hasDate ++ ("(" ++ args ++ ")") ++
        tail.render .postgres = ColumnType.temporalName hasDate ++ "(" ++ (args ++ ")" ++ tail.render .postgres) := by
      simp only [String.append_assoc]
    rw [ColumnType.zoned_of_precise hc, ColumnType.render, TypeArgs.render, htext,
      dataType_postgres_parenthesis hname, dataType_temporalName, hprecise, Bool.and_false]

/-- What PostgreSQL writes for the type of a column, the type that this is read as, and what is written for the type
that was read. -/
structure IsReadBack (c : Column) (t : DataType) (text again : String) : Prop where
  written : (ColumnType.ofColumn .postgres c).map (·.render .postgres) = .ok text
  read : dataType .postgres text = .ok t
  writtenAgain : (ColumnType.ofColumn .postgres { c with dataType := t }).map (·.render .postgres) = .ok again

/-- The type of time that PostgreSQL writes for a column is always read as a type of time, and as one with a date
exactly if the column has a date. It is read with a zone exactly if the column has a zone and no fraction digits. So the
type that was read is written as the same text exactly if there is no zone or there are no fraction digits. -/
theorem temporal_read_back (c : Column) (hc : c.dataType.isTemporal = true) :
    ∃ t text again, IsReadBack c t text again ∧ t.isTemporal = true ∧ t.isMoment = c.dataType.isMoment ∧
      (t.hasZone = true ↔ c.dataType.hasZone = true ∧ c.precision = 0) ∧
      (again = text ↔ c.dataType.hasZone = false ∨ c.precision = 0) := by
  let t := DataType.temporal c.dataType.isMoment (c.dataType.hasZone && c.precision == 0)
  have hzone : t.hasZone = (c.dataType.hasZone && c.precision == 0) := DataType.hasZone_temporal _ _
  have hdate : t.isMoment = c.dataType.isMoment := DataType.isMoment_temporal _ _
  have htemporal : t.isTemporal = true := DataType.isTemporal_temporal _ _
  have htype := ColumnType.ofColumn_of_isTemporal hc
  have hagain := ColumnType.ofColumn_of_isTemporal (c := { c with dataType := t }) htemporal
  have hread : IsReadBack c t _ _ :=
    ⟨except_map_eq_ok.2 ⟨_, htype, rfl⟩, dataType_zoned c _ _, except_map_eq_ok.2 ⟨_, hagain, rfl⟩⟩
  refine ⟨t, _, _, hread, htemporal, hdate, by simp [hzone], ?_⟩
  rw [hdate, hzone]
  by_cases hplain : c.precision = 0
  · simp [hplain, ColumnType.zoned_of_plain]
  · rw [ColumnType.zoned_of_precise (c := { c with dataType := t }) hplain, ColumnType.zoned_of_precise hplain,
      ColumnType.render_zoneTail_inj]
    simp [hplain]

/-- A moment with its zone comes back as it is, and a time of day with three fraction digits loses its zone. -/
theorem temporal_read_back_of_two :
    let seen : Column := { name := "seen", dataType := .dateTimeTz }
    let closes : Column := { name := "closes", dataType := .timeTz, precision := 3 }
    seen.dataType.isTemporal = true ∧ closes.dataType.isTemporal = true ∧
      (∃ t, IsReadBack seen t "timestamptz" "timestamptz" ∧ t.hasZone = true) ∧
      ∃ t again, IsReadBack closes t "time(3) with time zone" again ∧ t.hasZone = false ∧
        again ≠ "time(3) with time zone" := by
  intro seen closes
  refine ⟨rfl, rfl, ?_, ?_⟩
  · obtain ⟨t, text, again, hread, _, _, hzone, hsame⟩ := temporal_read_back seen rfl
    have hwritten : (ColumnType.ofColumn .postgres seen).map (·.render .postgres) = .ok "timestamptz" := by
      decide +kernel
    obtain rfl : text = "timestamptz" := Except.ok.inj (hread.written.symm.trans hwritten)
    obtain rfl : again = "timestamptz" := hsame.2 (.inr rfl)
    exact ⟨t, hread, hzone.2 ⟨rfl, rfl⟩⟩
  · obtain ⟨t, text, again, hread, _, _, hzone, hsame⟩ := temporal_read_back closes rfl
    have hwritten : (ColumnType.ofColumn .postgres closes).map (·.render .postgres) =
        .ok "time(3) with time zone" := by decide +kernel
    obtain rfl : text = "time(3) with time zone" := Except.ok.inj (hread.written.symm.trans hwritten)
    have hlost : ¬ (closes.dataType.hasZone = false ∨ closes.precision = 0) := by decide
    refine ⟨t, again, hread, ?_, fun h => hlost (hsame.1 h)⟩
    exact Bool.eq_false_iff.2 fun h => hlost (.inr (hzone.1 h).2)

end Catalog
end SqlDialects
