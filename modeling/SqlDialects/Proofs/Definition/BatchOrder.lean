import SqlDialects.Proofs.Definition.StatementNames
import SqlDialects.Proofs.Schema.Mutation
import SqlDialects.Session

/-!
# The order of a batch

All commands of a table are written for the table as it is at the end. So whether their batch is in order is decided
by the names of each command alone: after the table got another name no command may address it, and after a column
got one no command may change it under the old.
-/

namespace SqlDialects

variable {d : Dialect} {t : Table}

/-- The statements of some commands are in order just if the names of the commands are. -/
theorem inOrder_flatten_iff {commands : List Command} {batch : List (List Statement)}
    (hc : Command.createTable ∉ commands)
    (h : List.Forall₂ (fun c ss => c.statements d t = .ok ss) commands batch) :
    InOrder batch.flatten ↔ commands.Pairwise fun earlier later => (earlier.renamed t).Disjoint (later.used d t) := by
  have hnames : List.Forall₂ (fun (c : Command) ss => Names ss (c.used d t) (c.renamed t)) commands batch := by
    induction h with
    | nil => exact .nil
    | cons hs _ ih =>
      have hc := List.ne_and_not_mem_of_not_mem_cons hc
      exact .cons (.of_statements hc.1.symm hs) (ih hc.2)
  have hin : ∀ ss ∈ batch, InOrder ss := by
    clear h
    induction hnames with
    | nil => simp
    | cons hn _ ih =>
      have hc := List.ne_and_not_mem_of_not_mem_cons hc
      exact List.forall_mem_cons.2 ⟨hn.inOrder, ih hc.2⟩
  rw [InOrder, List.pairwise_flatten, ← pairwise_iff_of_forall₂ hnames fun _ _ _ _ hn hn' => hn.disjoint_iff hn']
  exact and_iff_right hin

namespace Session

/-- The texts of commands are the scripts of their statements. -/
theorem exists_batch {commands : List Command} {texts : List String} (h : textsOf d t commands = .ok texts) :
    ∃ batch, List.Forall₂ (fun c ss => c.statements d t = .ok ss) commands batch ∧
      texts = batch.map (Statement.script d) := by
  rw [textsOf, mapM_eq_ok_iff] at h
  induction h with
  | nil => exact ⟨[], .nil, rfl⟩
  | cons hc _ ih =>
    obtain ⟨ss, hss, rfl⟩ := except_map_eq_ok.1 (inContext_eq_ok.1 hc)
    obtain ⟨batch, hbatch, rfl⟩ := ih
    exact ⟨ss :: batch, .cons hss hbatch, rfl⟩

/-- The batch of a run is in order just if no command uses the table after a command that gave it another name,
and none changes a column under a name that a modification before it gave away. -/
theorem inOrder_iff_of_compileCommands (d : Dialect) (t : Table) (ht : Command.createTable ∉ t.commands)
    (ms : List Table.Mutation) (texts : List String) (h : (compileCommands d (t.run ms)).1 = .ok texts) :
    let u := (t.run ms).withoutCommands
    ∃ batch, (t.run ms).commands.mapM (Command.statements d u) = .ok batch ∧
      texts = batch.map (Statement.script d) ∧
      (InOrder batch.flatten ↔
        (t.run ms).commands.Pairwise fun earlier later => (earlier.renamed u).Disjoint (later.used d u)) := by
  intro u
  obtain ⟨batch, hbatch, htexts⟩ := exists_batch h
  have hc := t.createTable_notMem_run ms ht
  exact ⟨batch, mapM_eq_ok_iff.2 hbatch, htexts, inOrder_flatten_iff hc hbatch⟩

/-- A column is dropped under the old name of the table. -/
theorem inOrder_iff_of_compileCommands_of_rename :
    Command.createTable ∉ (Table.found "users").commands ∧
      (compileCommands .postgres ((Table.found "users").run [.rename "people", .dropColumns ["a"]])).1 =
        .ok ["ALTER TABLE \"users\" RENAME TO \"people\";", "ALTER TABLE \"users\" DROP COLUMN \"a\";"] ∧
      ∃ batch : List (List Statement), batch.map (Statement.script .postgres) =
        ["ALTER TABLE \"users\" RENAME TO \"people\";", "ALTER TABLE \"users\" DROP COLUMN \"a\";"] ∧
        ¬ InOrder batch.flatten := by
  have ht : Command.createTable ∉ (Table.found "users").commands := by decide
  have htexts : (compileCommands .postgres ((Table.found "users").run [.rename "people", .dropColumns ["a"]])).1 =
      .ok ["ALTER TABLE \"users\" RENAME TO \"people\";", "ALTER TABLE \"users\" DROP COLUMN \"a\";"] := by rfl
  obtain ⟨batch, _, hbatch, hiff⟩ := inOrder_iff_of_compileCommands .postgres _ ht _ _ htexts
  refine ⟨ht, htexts, batch, hbatch.symm, fun hin => ?_⟩
  have hfirst := (List.pairwise_cons.1 (hiff.1 hin)).1 (.dropColumns ["a"]) (by decide)
  have hgone : ObjectName.table ⟨none, "users"⟩ ∈ (Command.renameTable "people").renamed (.found "users") := by decide
  have hused : ObjectName.table ⟨none, "users"⟩ ∈ (Command.dropColumns ["a"]).used .postgres (.found "users") := by
    decide
  exact hfirst hgone hused

end Session
end SqlDialects
