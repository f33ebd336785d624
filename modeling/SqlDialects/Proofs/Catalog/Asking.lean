import SqlDialects.Catalog.Reading
import SqlDialects.Proofs.Catalog.Exchanges

/-! # Loads only ask

A load of a table makes no call that has anything carried out, whether it succeeds or fails. -/

namespace SqlDialects

namespace Exchange

variable {α β : Type} {x : Exchange α} {f : α → Exchange β}

/-- All calls of the exchange ask for rows. -/
def OnlyAsks (x : Exchange α) : Prop :=
  ∀ db calls, ∃ asked, (x db calls).2 = calls ++ asked ∧ ∀ c ∈ asked, c.kind = .query

theorem OnlyAsks.of_no_call (h : ∀ db calls, (x db calls).2 = calls) : OnlyAsks x := by
  intro db calls
  refine ⟨[], ?_, by simp⟩
  rw [h, List.append_nil]

theorem onlyAsks_pure (a : α) : OnlyAsks (pure a) :=
  .of_no_call fun _ _ => rfl

theorem onlyAsks_fail (e : Failure) : OnlyAsks (fail e : Exchange α) :=
  .of_no_call fun _ _ => rfl

theorem onlyAsks_ofExcept (r : Except Error α) : OnlyAsks (ofExcept r) := by
  cases r with
  | error e => exact onlyAsks_fail _
  | ok a => exact onlyAsks_pure a

theorem onlyAsks_ofResult (r : Except Failure α) : OnlyAsks (ofResult r) := by
  cases r with
  | error e => exact onlyAsks_fail e
  | ok a => exact onlyAsks_pure a

theorem onlyAsks_first (rows : List Row) (what : String) : OnlyAsks (first rows what) := by
  cases rows with
  | nil => exact onlyAsks_fail _
  | cons r rows => exact onlyAsks_pure r

theorem onlyAsks_query (sql : String) (args : List Value) : OnlyAsks (query sql args) := by
  intro db calls
  exact ⟨_, snd_query sql args db calls, by simp⟩

theorem OnlyAsks.bind (hx : OnlyAsks x) (hf : ∀ a, OnlyAsks (f a)) : OnlyAsks (x >>= f) := by
  intro db calls
  obtain ⟨asked, hcalls, hasked⟩ := hx db calls
  rw [bind_eq]
  cases h : x db calls with
  | mk r mid =>
    obtain rfl : mid = calls ++ asked := by rw [← hcalls, h]
    cases r with
    | error e =>
      rw [andThen_error h]
      exact ⟨asked, rfl, hasked⟩
    | ok a =>
      rw [andThen_ok h]
      obtain ⟨later, hlater, hqueries⟩ := hf a db (calls ++ asked)
      refine ⟨asked ++ later, by rw [hlater, List.append_assoc], fun c hc => ?_⟩
      rcases List.mem_append.1 hc with hc | hc
      · exact hasked c hc
      · exact hqueries c hc

theorem OnlyAsks.inContext (hx : OnlyAsks x) (doing : String) : OnlyAsks (inContext doing x) := by
  intro db calls
  rw [snd_inContext]
  exact hx db calls

theorem onlyAsks_load (read : Row → Except Error α) (sql : String) (args : List Value) :
    OnlyAsks (load read sql args) :=
  (onlyAsks_query sql args).bind fun rows => onlyAsks_ofExcept (rows.mapM read)

end Exchange

namespace Catalog
open Exchange

theorem onlyAsks_loadColumns (d : Dialect) (table : String) (schema : Option String) :
    OnlyAsks (loadColumns d table schema) := by
  cases d with
  | mysql => exact ((onlyAsks_query _ _).inContext _).bind fun rows => onlyAsks_ofResult _
  | postgres =>
    refine ((onlyAsks_query _ _).inContext _).bind fun versions => (onlyAsks_ofExcept _).bind fun version => ?_
    exact ((onlyAsks_query _ _).inContext _).bind fun rows => onlyAsks_ofExcept _
  | sqlite =>
    refine ((onlyAsks_load _ _ _).inContext _).bind fun texts => ?_
    cases texts with
    | nil => exact onlyAsks_fail _
    | cons createSql others => exact (onlyAsks_load _ _ _).bind fun infos => onlyAsks_ofExcept _

theorem onlyAsks_loadTable (d : Dialect) (table : String) (schema : Option String) :
    OnlyAsks (loadTable d table schema) := by
  cases d with
  | mysql =>
    refine (onlyAsks_query _ _).bind fun rows => (onlyAsks_first _ _).bind fun info => ?_
    refine (onlyAsks_ofExcept _).bind fun name => ?_
    exact (onlyAsks_loadColumns .mysql name _).bind fun columns => onlyAsks_pure _
  | postgres =>
    refine (onlyAsks_query _ _).bind fun rows => (onlyAsks_first _ _).bind fun info => ?_
    refine (onlyAsks_ofExcept _).bind fun name => ?_
    exact (onlyAsks_loadColumns .postgres name _).bind fun columns => onlyAsks_pure _
  | sqlite => exact (onlyAsks_loadColumns .sqlite table none).bind fun columns => onlyAsks_pure _

end Catalog
end SqlDialects
