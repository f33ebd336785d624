import SqlDialects.Proofs.Catalog.Asking
import SqlDialects.Session

/-!
# What a run of commands executes

A run writes and executes one command after the other, so it may fail in two ways at every command, with all commands
before it carried out. Whatever happens, it executes the first texts of the batch that the commands compile to, and
no others.
-/

namespace SqlDialects.Session

variable {d : Dialect} {t : Table} {db : Connection} {calls : List Call} {commands : List Command}
  {sqls : List String} {c : Command} {sql : String} {e : Error} {result : Except Error Unit}

/-- The call that has a statement executed. -/
def executed (sql : String) : Call :=
  ⟨.execute, sql, []⟩

/-- A database executes statements one after the other, the first after some calls. -/
inductive Accepts (db : Connection) : List Call → List String → Prop
  | nil (calls : List Call) : Accepts db calls []
  | cons {calls : List Call} {sql : String} {rest : List String} (h : db.execute calls (executed sql) = .ok ())
    (hrest : Accepts db (calls ++ [executed sql]) rest) : Accepts db calls (sql :: rest)

/-- Each command compiles to the statement in its place. -/
def Compile (d : Dialect) (t : Table) (commands : List Command) (sqls : List String) : Prop :=
  List.Forall₂ (fun c sql => c.text d t = .ok sql) commands sqls

/-- How commands end, and the statements that were attempted for them: all commands are carried out, or those before
one that does not compile, or those before one whose statement is attempted and refused. -/
inductive Ends (d : Dialect) (t : Table) (db : Connection) (calls : List Call) :
    List Command → Except Error Unit → List String → Prop
  | done {commands : List Command} {sqls : List String} (hcompile : Compile d t commands sqls)
    (haccepts : Accepts db calls sqls) : Ends d t db calls commands (.ok ()) sqls
  | uncompiled (before : List Command) {after : List Command} {c : Command} {sqls : List String} {e : Error}
    (hcompile : Compile d t before sqls) (haccepts : Accepts db calls sqls) (he : c.text d t = .error e) :
    Ends d t db calls (before ++ c :: after) (.error (.context (doing t c) e)) sqls
  | refused (before : List Command) {after : List Command} {c : Command} {sqls : List String} {sql : String}
    {e : Error} (hcompile : Compile d t before sqls) (haccepts : Accepts db calls sqls) (hsql : c.text d t = .ok sql)
    (he : db.execute (calls ++ sqls.map executed) (executed sql) = .error e) :
    Ends d t db calls (before ++ c :: after) (.error (.context (doing t c) e)) (sqls ++ [sql])

/-! ## One command -/

theorem applyAll_cons_uncompiled (rest : List Command) (he : c.text d t = .error e) :
    applyAll d t (c :: rest) db calls = (.error (.error (.context (doing t c) e)), calls) := by
  rw [applyAll, he]
  rfl

theorem inContext_execute_refused (doing : String) (he : db.execute calls (executed sql) = .error e) :
    Exchange.inContext doing (Exchange.execute sql) db calls =
      (.error (.error (.context doing e)), calls ++ [executed sql]) := by
  have hexecute : Exchange.execute sql db calls = (.error (.error e), calls ++ [executed sql]) := by
    simp only [executed] at he ⊢
    simp [Exchange.execute, he]
  simp [Exchange.inContext, hexecute]

theorem inContext_execute_accepted (doing : String) (h : db.execute calls (executed sql) = .ok ()) :
    Exchange.inContext doing (Exchange.execute sql) db calls = (.ok (), calls ++ [executed sql]) := by
  have hexecute : Exchange.execute sql db calls = (.ok (), calls ++ [executed sql]) := by
    simp only [executed] at h ⊢
    simp [Exchange.execute, h]
  simp [Exchange.inContext, hexecute]

theorem applyAll_cons_compiled (rest : List Command) (hsql : c.text d t = .ok sql) :
    applyAll d t (c :: rest) =
      Exchange.inContext (doing t c) (Exchange.execute sql) >>= fun _ => applyAll d t rest := by
  rw [applyAll, hsql]
  rfl

theorem applyAll_cons_refused (rest : List Command) (hsql : c.text d t = .ok sql)
    (he : db.execute calls (executed sql) = .error e) :
    applyAll d t (c :: rest) db calls = (.error (.error (.context (doing t c) e)), calls ++ [executed sql]) := by
  rw [applyAll_cons_compiled rest hsql]
  exact Exchange.andThen_error (inContext_execute_refused _ he)

theorem applyAll_cons_accepted (rest : List Command) (hsql : c.text d t = .ok sql)
    (h : db.execute calls (executed sql) = .ok ()) :
    applyAll d t (c :: rest) db calls = applyAll d t rest db (calls ++ [executed sql]) := by
  rw [applyAll_cons_compiled rest hsql]
  exact Exchange.andThen_ok (inContext_execute_accepted _ h)

/-- A command that is carried out stands before all that happens afterwards. -/
theorem Ends.cons (hsql : c.text d t = .ok sql) (h : db.execute calls (executed sql) = .ok ())
    (hrest : Ends d t db (calls ++ [executed sql]) commands result sqls) :
    Ends d t db calls (c :: commands) result (sql :: sqls) := by
  cases hrest with
  | done hcompile haccepts => exact .done (.cons hsql hcompile) (.cons h haccepts)
  | uncompiled before hcompile haccepts he =>
    exact .uncompiled (c :: before) (.cons hsql hcompile) (.cons h haccepts) he
  | @refused before _ _ sqls sql' e hcompile haccepts hsql' he =>
    have hlast : db.execute (calls ++ (sql :: sqls).map executed) (executed sql') = .error e := by
      rwa [List.map_cons, ← List.singleton_append, ← List.append_assoc]
    exact .refused (c :: before) (.cons hsql hcompile) (.cons h haccepts) hsql' hlast

/-! ## All commands -/

/-- The run ends as its commands end, with one call for each statement attempted. -/
theorem applyAll_ends (d : Dialect) (t : Table) (db : Connection) (commands : List Command) (calls : List Call) :
    ∃ result attempted, Ends d t db calls commands result attempted ∧
      applyAll d t commands db calls = (result.mapError .error, calls ++ attempted.map executed) := by
  induction commands generalizing calls with
  | nil =>
    refine ⟨.ok (), [], .done .nil (.nil calls), ?_⟩
    rw [List.map_nil, List.append_nil]
    rfl
  | cons c rest ih =>
    cases hsql : c.text d t with
    | error e =>
      refine ⟨_, _, .uncompiled [] .nil (.nil calls) hsql, ?_⟩
      rw [applyAll_cons_uncompiled rest hsql, List.map_nil, List.append_nil]
      rfl
    | ok sql =>
      cases hanswer : db.execute calls (executed sql) with
      | error e =>
        refine ⟨_, _, .refused [] .nil (.nil calls) hsql (by simpa using hanswer), ?_⟩
        exact applyAll_cons_refused rest hsql hanswer
      | ok _ =>
        obtain ⟨result, attempted, hends, hrun⟩ := ih (calls ++ [executed sql])
        refine ⟨result, sql :: attempted, hends.cons hsql hanswer, ?_⟩
        rw [applyAll_cons_accepted rest hsql hanswer, hrun, List.append_assoc]
        rfl

/-! ## The batch -/

theorem textsOf_eq_ok_iff : textsOf d t commands = .ok sqls ↔ Compile d t commands sqls := by
  rw [textsOf, mapM_eq_ok_iff]
  simp only [inContext_eq_ok, Compile]

theorem textsOf_eq_error {before after : List Command} (hcompile : Compile d t before sqls)
    (he : c.text d t = .error e) : textsOf d t (before ++ c :: after) = .error (.context (doing t c) e) := by
  refine mapM_eq_error_iff.2 ⟨before, c, after, rfl, ?_, by rw [he]; rfl⟩
  have htext : ∀ b ∈ before, ∃ text, b.text d t = .ok text :=
    forall_mem_of_forall₂ hcompile.flip fun text b h => ⟨text, h⟩
  intro b hb
  obtain ⟨text, h⟩ := htext b hb
  exact ⟨text, inContext_eq_ok.2 h⟩

theorem Compile.isPrefix {before after : List Command} {texts : List String} (h : Compile d t before sqls)
    (htexts : Compile d t (before ++ after) texts) : sqls <+: texts := by
  induction h generalizing texts with
  | nil => exact List.nil_prefix
  | cons hsql _ ih =>
    cases htexts with
    | cons hsql' hrest =>
      obtain rfl := Except.ok.inj (hsql.symm.trans hsql')
      exact List.cons_prefix_cons.2 ⟨rfl, ih hrest⟩

/-- The batch begins with what was attempted. -/
theorem Ends.isPrefix {texts : List String} (h : Ends d t db calls commands result sqls)
    (htexts : textsOf d t commands = .ok texts) : sqls <+: texts := by
  rw [textsOf_eq_ok_iff] at htexts
  cases h with
  | done hcompile _ =>
    rw [← List.append_nil commands] at htexts
    exact hcompile.isPrefix htexts
  | uncompiled before hcompile _ _ => exact hcompile.isPrefix htexts
  | @refused before after c sqls sql _ hcompile _ hsql _ =>
    have hattempted : Compile d t (before ++ [c]) (sqls ++ [sql]) := List.rel_append hcompile (.cons hsql .nil)
    rw [List.append_cons] at htexts
    exact hattempted.isPrefix htexts

theorem Accepts.of_append {more : List String} (h : Accepts db calls (sqls ++ more)) :
    Accepts db (calls ++ sqls.map executed) more := by
  induction sqls generalizing calls with
  | nil => simpa using h
  | cons sql sqls ih =>
    cases h with
    | cons _ hrest => simpa using ih hrest

/-- A run succeeds if the batch compiles and the database accepts all of it. -/
theorem Ends.eq_ok_iff (h : Ends d t db calls commands result sqls) :
    result = .ok () ↔ textsOf d t commands = .ok sqls ∧ Accepts db calls sqls := by
  cases h with
  | done hcompile haccepts => exact ⟨fun _ => ⟨textsOf_eq_ok_iff.2 hcompile, haccepts⟩, fun _ => rfl⟩
  | uncompiled before hcompile _ he =>
    refine ⟨nofun, fun ⟨htexts, _⟩ => ?_⟩
    rw [textsOf_eq_error hcompile he] at htexts
    cases htexts
  | refused before _ _ _ he =>
    refine ⟨nofun, fun ⟨_, haccepts⟩ => ?_⟩
    cases haccepts.of_append with
    | cons h _ =>
      rw [he] at h
      cases h

/-- If all that was attempted was accepted, the run fails with the error of the batch. -/
theorem Ends.eq_error (h : Ends d t db calls commands result sqls) (haccepts : Accepts db calls sqls)
    (he : textsOf d t commands = .error e) : result = .error e := by
  cases h with
  | done hcompile _ =>
    rw [textsOf_eq_ok_iff.2 hcompile] at he
    cases he
  | uncompiled before hcompile _ he' =>
    rw [textsOf_eq_error hcompile he'] at he
    rw [← Except.error.inj he]
  | refused before _ _ _ he' =>
    cases haccepts.of_append with
    | cons h _ =>
      rw [he'] at h
      cases h

/-! ## Sessions -/

/-- An exchange carries out the commands of a table, after some calls: what it executes begins the batch that the
commands compile to, and it ends as they end, with the table or with the error. -/
def CarriesOut (d : Dialect) (u : Table) (db : Connection) (calls : List Call)
    (ended : Except Failure Table × List Call) : Prop :=
  ∃ result attempted, Ends d u.withoutCommands db calls u.commands result attempted ∧
    ended = ((result.map fun _ => u.withoutCommands).mapError .error, calls ++ attempted.map executed) ∧
    (result = .ok () ↔ (compileCommands d u).1 = .ok attempted ∧ Accepts db calls attempted) ∧
    (∀ texts, (compileCommands d u).1 = .ok texts → attempted <+: texts) ∧
    (∀ e, (compileCommands d u).1 = .error e → Accepts db calls attempted → result = .error e)

theorem carriesOut_apply (d : Dialect) (u : Table) (db : Connection) (calls : List Call) :
    CarriesOut d u db calls (apply d u db calls) := by
  obtain ⟨result, attempted, hends, hrun⟩ :=
    applyAll_ends d u.withoutCommands db u.commands calls
  refine ⟨result, attempted, hends, ?_, hends.eq_ok_iff, fun texts => hends.isPrefix,
    fun e he haccepts => hends.eq_error haccepts he⟩
  have hunit : apply d u db calls =
      ((applyAll d u.withoutCommands u.commands db calls).1.map fun _ => u.withoutCommands,
        (applyAll d u.withoutCommands u.commands db calls).2) := Exchange.bind_pure_eq _ _ db calls
  rw [hunit, hrun]
  cases result <;> rfl

theorem alterTable_of_found {name : String} {handler : Table → Table} {found : Table} {mid : List Call}
    (h : getTable d name none db calls = (.ok found, mid)) :
    alterTable d name handler db calls = apply d (handler found) db mid :=
  Exchange.andThen_ok h

theorem alterTable_of_failed {name : String} {handler : Table → Table} {f : Failure} {mid : List Call}
    (h : getTable d name none db calls = (.error f, mid)) :
    alterTable d name handler db calls = (.error f, mid) :=
  Exchange.andThen_error h

theorem onlyAsks_getTable (d : Dialect) (name : String) (schema : Option String) :
    Exchange.OnlyAsks (getTable d name schema) :=
  (Catalog.onlyAsks_loadTable d name schema).inContext _

/-- The creation of a table and the change of a table carry out the commands of the table as the caller left it. A
change asks for the table first and executes nothing for that; if the table cannot be read, it ends there, whatever
the caller would have done. Compiled commands are gone from the table, and nothing else is. -/
theorem carriesOut_create_and_alter (d : Dialect) (name : String) (handler : Table → Table) (db : Connection)
    (calls : List Call) :
    CarriesOut d (handler (newTable name)) db calls (createTable d name handler db calls) ∧
      (∃ loaded asked, getTable d name none db calls = (loaded, calls ++ asked) ∧
        (∀ call ∈ asked, call.kind = .query) ∧
        match loaded with
        | .ok found => CarriesOut d (handler found) db (calls ++ asked) (alterTable d name handler db calls)
        | .error f => ∀ other, alterTable d name other db calls = (.error f, calls ++ asked)) ∧
      ∀ t, (compileCommands d t).2 = { t with commands := [] } := by
  refine ⟨carriesOut_apply d _ db calls, ?_, fun t => rfl⟩
  obtain ⟨asked, hcalls, hasked⟩ := onlyAsks_getTable d name none db calls
  have hload : getTable d name none db calls = ((getTable d name none db calls).1, calls ++ asked) := by
    rw [← hcalls]
  refine ⟨_, asked, hload, hasked, ?_⟩
  cases hloaded : (getTable d name none db calls).1 with
  | ok found =>
    rw [hloaded] at hload
    rw [alterTable_of_found hload]
    exact carriesOut_apply d (handler found) db _
  | error f =>
    rw [hloaded] at hload
    exact fun other => alterTable_of_failed hload

/-- The second of three commands has no statement, so only the creation is executed. -/
example :
    let accepting : Connection := ⟨fun _ _ => .ok (), fun _ _ => .ok []⟩
    let missing : Error := .unsupportedFeature "sqlite does not support spatial indexes"
    createTable .sqlite "t" (fun t => (t.dropSpatialIndex "s").dropIndex "i") accepting [] =
      (.error (.error (.context "drop_spatial_index on table 't'" missing)),
        [executed "CREATE TABLE \"t\"(\n);"]) := by
  rfl

end SqlDialects.Session
