import SqlDialects.Proofs.Query.StepOrder

/-!
# The places of inserted values

An `INSERT` writes a group in parentheses for each row, and in it a place for each column. The places are counted
along the rows, so the value in row `i` and column `j` of `width` columns is the one of index `i * width + j`, and both
texts of the statement have in its place what stands for this value.
-/

namespace SqlDialects

section Flatten

variable {α : Type} {width : Nat} {rows : List (List α)}

theorem length_flatten_of_width (h : ∀ row ∈ rows, row.length = width) :
    rows.flatten.length = rows.length * width := by
  induction rows with
  | nil => simp
  | cons row rows ih =>
    obtain ⟨hrow, hrows⟩ := List.forall_mem_cons.1 h
    rw [List.flatten_cons, List.length_append, hrow, ih hrows, List.length_cons, Nat.add_one_mul, Nat.add_comm]

theorem getElem?_flatten_of_width (h : ∀ row ∈ rows, row.length = width) {i j : Nat} {row : List α}
    (hi : rows[i]? = some row) (hj : j < width) : rows.flatten[i * width + j]? = row[j]? := by
  induction rows generalizing i with
  | nil => simp at hi
  | cons first rows ih =>
    obtain ⟨hfirst, hrows⟩ := List.forall_mem_cons.1 h
    rw [List.flatten_cons]
    cases i with
    | zero =>
      obtain rfl : first = row := by simpa using hi
      rw [Nat.zero_mul, Nat.zero_add, List.getElem?_append_left (by omega)]
    | succ i =>
      have hplace : (i + 1) * width + j = first.length + (i * width + j) := by
        rw [Nat.add_one_mul]
        omega
      rw [hplace, List.getElem?_append_right (Nat.le_add_right ..), Nat.add_sub_cancel_left]
      exact ih hrows (by simpa using hi)

end Flatten

namespace Insert

/-- The group of a row, where `f j v` stands for the value `v` in column `j`. -/
def rowText (f : Nat → Value → String) (row : List Value) : String :=
  "(" ++ ", ".intercalate (row.mapIdx f) ++ ")"

def returningText (d : Dialect) (names : List String) : String :=
  if names = [] then "" else " RETURNING " ++ d.joinIdents names ", "

/-- The groups of all rows, where `f i j v` stands for the value `v` in row `i` and column `j`. -/
def rowsText (f : Nat → Nat → Value → String) (rows : List (List Value)) : String :=
  ", ".intercalate (rows.mapIdx fun i row => rowText (f i) row)

def headText (d : Dialect) (s : Insert) : String :=
  "INSERT INTO " ++ d.quoteIdent s.table ++ " (" ++ d.joinIdents s.columns ", " ++ ") VALUES "

/-- The text of a statement, where `f i j v` stands for the value `v` in row `i` and column `j`. -/
def textWith (d : Dialect) (f : Nat → Nat → Value → String) (s : Insert) : String :=
  headText d s ++ rowsText f s.rows ++ returningText d s.returning

variable {d : Dialect} {s : Insert} {width : Nat} {first : Bool} {rows : List (List Value)} {b b' : BoundText}

theorem argCount_writeValues (row : List Value) (b : BoundText) :
    (writeValues row b).argCount = b.argCount + row.length := by
  rw [← BoundText.length_args, args_writeValues, List.length_append, BoundText.length_args]

theorem length_of_writeRows (h : writeRows width first rows b = .ok b') : ∀ row ∈ rows, row.length = width := by
  have hyields := yields_writeRows width first rows b
  rw [h] at hyields
  intro row hrow
  have hnone := List.findSome?_eq_none_iff.1 hyields.of_ok.1 row hrow
  simpa [rowRefusal?] using hnone

variable (f : Nat → Value → String) (n : Nat)

theorem textFrom_writeValues (row : List Value) (b : BoundText) : (writeValues row b).textFrom f n =
    b.textFrom f n ++ ", ".intercalate (row.mapIdx fun j v => f (n + b.argCount + j) v) := by
  induction row generalizing b with
  | nil => simp [writeValues]
  | cons v row ih =>
    cases row with
    | nil => simp [writeValues]
    | cons w row =>
      have hnext (j : Nat) : n + (b.argCount + 1) + j = n + b.argCount + (j + 1) := by omega
      rw [writeValues, ih]
      · simp only [List.mapIdx_cons, String.intercalate_cons_cons]
        simp [hnext, String.append_assoc]
      · simp

/-- Rows are written behind the values bound before them. The induction is on the rows with none before them: a later
row is a first one behind its comma. -/
theorem textFrom_writeRows (h : writeRows width true rows b = .ok b') : b'.textFrom f n =
    b.textFrom f n ++ rowsText (fun i j => f (n + b.argCount + (i * width + j))) rows := by
  unfold rowsText
  induction rows generalizing b with
  | nil =>
    obtain rfl : b = b' := Except.ok.inj h
    simp
  | cons row rows ih =>
    have hwidth : row.length = width := length_of_writeRows h row List.mem_cons_self
    rw [writeRows, if_neg (not_not.2 hwidth)] at h
    simp only [if_true] at h
    generalize hc : ((writeValues row (b.write "(")).write ")") = c at h
    have hcount : c.argCount = b.argCount + width := by
      rw [← hc, BoundText.argCount_write, argCount_writeValues, hwidth, BoundText.argCount_write]
    have hrow : c.textFrom f n = b.textFrom f n ++ rowText (fun j => f (n + b.argCount + j)) row := by
      rw [← hc, BoundText.textFrom_write, textFrom_writeValues, BoundText.textFrom_write, BoundText.argCount_write]
      simp [rowText, String.append_assoc]
    cases rows with
    | nil =>
      obtain rfl : c = b' := Except.ok.inj h
      simpa using hrow
    | cons next rows =>
      have hplace (i j : Nat) : n + (b.argCount + width) + (i * width + j) =
          n + b.argCount + ((i + 1) * width + j) := by
        rw [Nat.add_one_mul]
        omega
      obtain ⟨text, texts, htexts⟩ : ∃ text texts, (next :: rows).mapIdx (fun i row =>
          rowText (fun j => f (n + b.argCount + ((i + 1) * width + j))) row) = text :: texts :=
        ⟨_, _, List.mapIdx_cons⟩
      have hlater := ih (b := c.write ", ") h
      simp only [BoundText.textFrom_write, BoundText.argCount_write, hcount, hrow, hplace, htexts] at hlater
      rw [hlater, List.mapIdx_cons, htexts, String.intercalate_cons_cons]
      simp [String.append_assoc]

theorem textFrom_writeReturning {names : List String} (h : writeReturning d names b = .ok b') :
    b'.textFrom f n = b.textFrom f n ++ returningText d names := by
  unfold writeReturning at h
  unfold returningText
  by_cases hnames : names = []
  · rw [if_pos (by simpa using hnames)] at h
    cases h
    simp [hnames]
  · rw [if_neg (by simpa using hnames)] at h
    split at h
    · cases h
      simp [hnames, String.append_assoc]
    · cases h

/-- What was written has the right width, and in each place what stands for the value there. -/
theorem of_write (h : s.write d .empty = .ok b) : (∀ row ∈ s.rows, row.length = s.columns.length) ∧
    b.args = s.rows.flatten ∧ ∀ f : Nat → Value → String,
      b.textFrom f 0 = s.textWith d fun i j => f (i * s.columns.length + j) := by
  have hyields := s.yields_write d .empty
  rw [h] at hyields
  have hargs : b.args = s.rows.flatten := hyields.of_ok.2
  unfold write at h
  split at h
  · cases h
  split at h
  · cases h
  split at h
  · cases h
  obtain ⟨c, hrows, hreturning⟩ := except_bind_eq_ok.1 h
  refine ⟨length_of_writeRows hrows, hargs, fun f => ?_⟩
  rw [textFrom_writeReturning f 0 hreturning, textFrom_writeRows f 0 hrows]
  unfold textWith headText
  simp [String.append_assoc]

/-- The values of an insert are those of its rows, one row after the other. Both texts have a group for each row, and in
it for each column the placeholder that counts the places before it, or the literal of the value there. -/
theorem cells_in_place {p : Prepared} (h : toSql d s = .ok p) :
    let width := s.columns.length
    p.args.length = s.rows.length * width ∧
      (∀ i row, s.rows[i]? = some row → row.length = width ∧
        ∀ j v, row[j]? = some v → p.args[i * width + j]? = some v) ∧
      p.sql = s.textWith d (fun i j _ => if d = .postgres then "$" ++ toString (i * width + j + 1) else "?") ∧
      toRawSql d s = .ok (s.textWith d fun _ _ v => d.encodeValue v) := by
  obtain ⟨b, hb, rfl⟩ := toSql_eq_ok.1 h
  obtain ⟨hwidth, hargs, htext⟩ := of_write hb
  refine ⟨?_, fun i row hi => ?_, ?_, toRawSql_eq_ok.2 ⟨b, hb, htext fun _ v => d.encodeValue v⟩⟩
  · rw [hargs, length_flatten_of_width hwidth]
  · have hrow := hwidth row (List.mem_of_getElem? hi)
    refine ⟨hrow, fun j v hj => ?_⟩
    obtain ⟨hlt, _⟩ := List.getElem?_eq_some_iff.1 hj
    rw [hargs, getElem?_flatten_of_width hwidth hi (hrow ▸ hlt), hj]
  · simp only [← Dialect.placeholder_eq]
    exact htext fun k _ => d.placeholder k

/-- Two rows of two columns, with columns to return. -/
theorem cells_in_place_of_two_rows :
    let s : Insert :=
      { table := "t", columns := ["a", "b"], rows := [[.int 1, .text "it's"], [.null, .int 4]], returning := ["id"] }
    ∃ p, toSql .postgres s = .ok p ∧ p.args[2]? = some .null ∧
      p.sql = "INSERT INTO \"t\" (\"a\", \"b\") VALUES ($1, $2), ($3, $4) RETURNING \"id\"" ∧
      toRawSql .postgres s = .ok "INSERT INTO \"t\" (\"a\", \"b\") VALUES (1, 'it''s'), (NULL, 4) RETURNING \"id\"" := by
  intro s
  obtain ⟨p, hp⟩ : ∃ p, toSql .postgres s = .ok p := ⟨_, rfl⟩
  obtain ⟨_, hargs, hsql, hraw⟩ := cells_in_place hp
  refine ⟨p, hp, (hargs 1 _ rfl).2 0 _ rfl, hsql.trans ?_, hraw.trans (congrArg Except.ok ?_)⟩
  · decide
  · decide

end Insert
end SqlDialects
