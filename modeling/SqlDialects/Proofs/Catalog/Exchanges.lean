import SqlDialects.Catalog.Exchange
import SqlDialects.Proofs.Outcome

/-! # How exchanges end

An exchange succeeds if all of its parts do. Most exchanges tell why they fail; what else can end one is a cut of a
text in reverse, and only where a part makes one. -/

namespace SqlDialects.Exchange

variable {α β : Type} {x : Exchange α} {f : α → Exchange β} {db : Connection} {calls calls' : List Call} {a : α}

theorem query_eq (sql : String) (args : List Value) (db : Connection) (calls : List Call) :
    query sql args db calls =
      ((db.query calls ⟨.query, sql, args⟩).mapError Failure.error, calls ++ [⟨.query, sql, args⟩]) := by
  simp only [query]
  cases db.query calls ⟨.query, sql, args⟩ <;> rfl

theorem query_eq_ok_iff {sql : String} {args : List Value} {rows : List Row} :
    query sql args db calls = (.ok rows, calls') ↔
      db.query calls ⟨.query, sql, args⟩ = .ok rows ∧ calls' = calls ++ [⟨.query, sql, args⟩] := by
  rw [query_eq, Prod.mk.injEq, except_mapError_eq_ok, eq_comm (a := calls')]

theorem inContext_eq_ok_iff (doing : String) :
    inContext doing x db calls = (.ok a, calls') ↔ x db calls = (.ok a, calls') := by
  unfold inContext
  split
  · next h => simp [h]
  · rfl

theorem inContext_query_eq_ok_iff (doing : String) {sql : String} {args : List Value} {rows : List Row} :
    inContext doing (query sql args) db calls = (.ok rows, calls') ↔
      db.query calls ⟨.query, sql, args⟩ = .ok rows ∧ calls' = calls ++ [⟨.query, sql, args⟩] :=
  (inContext_eq_ok_iff doing).trans query_eq_ok_iff

theorem snd_query (sql : String) (args : List Value) (db : Connection) (calls : List Call) :
    (query sql args db calls).2 = calls ++ [⟨.query, sql, args⟩] := by
  rw [query_eq]

theorem snd_inContext (doing : String) (x : Exchange α) (db : Connection) (calls : List Call) :
    (inContext doing x db calls).2 = (x db calls).2 := by
  unfold inContext
  split
  · next h => rw [h]
  · rfl

theorem ofResult_eq_iff {r s : Except Failure α} : ofResult r db calls = (s, calls') ↔ r = s ∧ calls = calls' := by
  cases r <;> simp [ofResult, done, fail]

theorem ofExcept_eq_iff {r : Except Error α} {s : Except Failure α} :
    ofExcept r db calls = (s, calls') ↔ r.mapError Failure.error = s ∧ calls = calls' := by
  cases r <;> simp [ofExcept, done, fail, Except.mapError]

theorem bind_pure_eq (x : Exchange α) (g : α → β) (db : Connection) (calls : List Call) :
    (x >>= fun a => pure (g a)) db calls = ((x db calls).1.map g, (x db calls).2) := by
  rw [bind_eq]
  cases h : x db calls with
  | mk r mid =>
    cases r with
    | error e => exact andThen_error h
    | ok a => exact andThen_ok h

theorem map_bind_eq {γ : Type} (g : α → β) (x : Exchange α) (f : β → Exchange γ) :
    (g <$> x >>= f) = x >>= fun a => f (g a) := by
  funext db calls
  rw [bind_eq, bind_eq]
  cases h : x db calls with
  | mk r mid =>
    have hmap : (g <$> x) db calls = (r.map g, mid) := by
      have hbind := bind_pure_eq x g db calls
      rw [h] at hbind
      exact hbind
    cases r with
    | error e => rw [andThen_error h, andThen_error hmap]
    | ok a => rw [andThen_ok h, andThen_ok hmap]

theorem snd_bind_ofExcept (x : Exchange α) (read : α → Except Error β) (db : Connection) (calls : List Call) :
    ((x >>= fun a => ofExcept (read a)) db calls).2 = (x db calls).2 := by
  rw [bind_eq]
  cases h : x db calls with
  | mk r mid =>
    cases r with
    | error e => rw [andThen_error h]
    | ok a =>
      rw [andThen_ok h]
      exact (ofExcept_eq_iff.1 rfl).2.symm

theorem load_eq (read : Row → Except Error α) (sql : String) (args : List Value) (db : Connection)
    (calls : List Call) : load read sql args db calls =
      ((db.query calls ⟨.query, sql, args⟩ >>= fun rows => rows.mapM read).mapError Failure.error,
        calls ++ [⟨.query, sql, args⟩]) := by
  have hquery := query_eq sql args db calls
  cases hanswer : db.query calls ⟨.query, sql, args⟩ with
  | error e =>
    rw [hanswer] at hquery
    exact andThen_error hquery
  | ok rows =>
    rw [hanswer] at hquery
    exact (andThen_ok hquery).trans (ofExcept_eq_iff.2 ⟨rfl, rfl⟩)

theorem load_of_query (read : Row → Except Error α) {sql : String} {args : List Value} {rows : List Row}
    (h : db.query calls ⟨.query, sql, args⟩ = .ok rows) :
    load read sql args db calls = ((rows.mapM read).mapError Failure.error, calls ++ [⟨.query, sql, args⟩]) := by
  rw [load_eq, h]
  rfl

theorem inContext_load_eq (doing : String) (read : Row → Except Error α) (sql : String) (args : List Value)
    (db : Connection) (calls : List Call) : inContext doing (load read sql args) db calls =
      ((SqlDialects.inContext doing (db.query calls ⟨.query, sql, args⟩ >>= fun rows => rows.mapM read)).mapError
        Failure.error, calls ++ [⟨.query, sql, args⟩]) := by
  unfold inContext
  rw [load_eq]
  cases db.query calls ⟨.query, sql, args⟩ >>= fun rows => rows.mapM read <;> rfl

/-- Every failure of the exchange is an error that the caller is told. -/
def Tells (x : Exchange α) : Prop :=
  ∀ db calls e calls', x db calls = (.error e, calls') → ∃ told, e = .error told

/-- After an exchange that tells its errors, either the error is told or the next exchange goes on. -/
theorem Tells.bind_cases (hx : Tells x) (f : α → Exchange β) (db : Connection) (calls : List Call) :
    (∃ told calls', (x >>= f) db calls = (.error (.error told), calls')) ∨
      ∃ a mid, x db calls = (.ok a, mid) ∧ (x >>= f) db calls = f a db mid := by
  rw [bind_eq]
  cases h : x db calls with
  | mk r mid =>
    cases r with
    | error e =>
      obtain ⟨told, rfl⟩ := hx db calls e mid h
      exact .inl ⟨told, mid, andThen_error h⟩
    | ok a => exact .inr ⟨a, mid, rfl, andThen_ok h⟩

/-- Where a told error is ruled out, the first of two exchanges was a success. -/
theorem Tells.of_bind {r : Except Failure β} (hx : Tells x) (h : (x >>= f) db calls = (r, calls'))
    (hr : ∀ told, r ≠ .error (.error told)) :
    ∃ a mid, x db calls = (.ok a, mid) ∧ f a db mid = (r, calls') := by
  rcases hx.bind_cases f db calls with ⟨told, mid, hfail⟩ | ⟨a, mid, hsuccess, hnext⟩
  · exact absurd (Prod.mk.inj (h.symm.trans hfail)).1 (hr told)
  · exact ⟨a, mid, hsuccess, hnext.symm.trans h⟩

theorem Tells.bind (hx : Tells x) (hf : ∀ a, Tells (f a)) : Tells (x >>= f) := by
  intro db calls e calls' h
  rcases hx.bind_cases f db calls with ⟨told, mid, hfail⟩ | ⟨a, mid, _, hnext⟩
  · cases h.symm.trans hfail
    exact ⟨told, rfl⟩
  · exact hf a db mid e calls' (hnext.symm.trans h)

theorem tells_pure (a : α) : Tells (pure a) := by
  intro db calls e calls' h
  cases h

theorem tells_fail (told : Error) : Tells (fail (.error told) : Exchange α) := by
  intro db calls e calls' h
  cases h
  exact ⟨told, rfl⟩

theorem tells_ofExcept (r : Except Error α) : Tells (ofExcept r) := by
  cases r with
  | error told => exact tells_fail told
  | ok a => exact tells_pure a

theorem tells_query (sql : String) (args : List Value) : Tells (query sql args) := by
  intro db calls e calls' h
  simp only [query] at h
  split at h
  · cases h
  · next told _ =>
    cases h
    exact ⟨told, rfl⟩

theorem tells_first (rows : List Row) (what : String) : Tells (first rows what) := by
  cases rows with
  | nil => exact tells_fail _
  | cons r rows => exact tells_pure r

/-- Whichever of two exchanges comes first, what comes after it is the same. -/
theorem Tells.ite_bind {c : Prop} [Decidable c] {y : Exchange α} (hx : Tells x) (hy : Tells y)
    (hf : ∀ a, Tells (f a)) : Tells (if c then x >>= f else y >>= f) := by
  split
  · exact hx.bind hf
  · exact hy.bind hf

theorem Tells.inContext (hx : Tells x) (doing : String) : Tells (inContext doing x) := by
  intro db calls e calls' h
  unfold Exchange.inContext at h
  split at h
  · next told _ _ =>
    cases h
    exact ⟨.context doing told, rfl⟩
  · exact hx db calls e calls' h

theorem tells_load (read : Row → Except Error α) (sql : String) (args : List Value) : Tells (load read sql args) :=
  (tells_query sql args).bind fun rows => tells_ofExcept (rows.mapM read)

theorem load_eq_ok_iff {read : Row → Except Error α} {sql : String} {args : List Value} {as : List α} :
    load read sql args db calls = (.ok as, calls') ↔
      ∃ rows, db.query calls ⟨.query, sql, args⟩ = .ok rows ∧ rows.mapM read = .ok as ∧
        calls' = calls ++ [⟨.query, sql, args⟩] := by
  rw [load_eq, Prod.mk.injEq, except_mapError_eq_ok, except_bind_eq_ok, eq_comm (a := calls')]
  simp only [← and_assoc, exists_and_right]

end SqlDialects.Exchange
