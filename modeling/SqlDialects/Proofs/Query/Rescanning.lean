import SqlDialects.Proofs.Query.Grouping
import SqlDialects.Proofs.Query.Quotation
import SqlDialects.Query.Clause

/-!
# Compiled conditions are read again as they were written

In the text of a condition whose leaves close their quotations the only markers are the placeholders of its values.
So where a placeholder is a marker the text with its values is an expression that is written to the same text and
values, and the text with literals is an expression without values.
-/

namespace SqlDialects

namespace Marker

/-- The stretches between the markers, with the markers, are the text. -/
theorem intercalate_split (state : Option Char) (cs : List Char) :
    List.intercalate ['?'] (split state cs) = cs := by
  induction cs generalizing state with
  | nil => rfl
  | cons c cs ih =>
    by_cases hc : state = none ∧ c = '?'
    · obtain ⟨rfl, rfl⟩ := hc
      have hrest := ih none
      rw [split_mark]
      cases hparts : split none cs with
      | nil => exact absurd hparts (split_ne_nil _ _)
      | cons part parts =>
        rw [hparts] at hrest
        simp [List.intercalate_cons_cons, hrest]
    · obtain ⟨part, parts, hparts, hsplit⟩ := split_other hc cs
      have hrest := ih (step state c)
      rw [hparts] at hrest
      rw [hsplit]
      cases parts with
      | nil => simpa using hrest
      | cons next parts =>
        rw [List.intercalate_cons_cons] at hrest
        simpa [List.intercalate_cons_cons] using hrest

theorem filled_mark {n : Nat} {parts : List (List Char)} {vs : List Value} (h : parts.length = vs.length + 1) :
    filled (fun _ _ => "?") n parts vs = List.intercalate ['?'] parts := by
  induction parts generalizing n vs with
  | nil => exact absurd h nofun
  | cons part parts ih =>
    cases vs with
    | nil =>
      have hparts : parts = [] := List.eq_nil_of_length_eq_zero (by simpa using h)
      simp [filled, hparts]
    | cons v vs =>
      have hlen : parts.length = vs.length + 1 := by simpa using h
      cases parts with
      | nil => exact absurd hlen nofun
      | cons next parts =>
        rw [filled, ih hlen, List.intercalate_cons_cons]
        rfl

theorem args_interleave {parts : List (List Char)} {vs : List Value} (h : parts.length = vs.length + 1)
    (b : BoundText) : (interleave parts vs b).args = b.args ++ vs := by
  induction parts generalizing vs b with
  | nil => exact absurd h nofun
  | cons part parts ih =>
    cases vs with
    | nil => simp [interleave]
    | cons v vs =>
      have hlen : parts.length = vs.length + 1 := by simpa using h
      rw [interleave, ih hlen]
      simp

variable {f : Nat → Value → String} {k : Nat}

/-- A text with values in the places of its markers is passed if each of the values is. -/
theorem scan_filled (hf : ∀ n v, Passes none (f n v).toList k) (cs : List Char) (state : Option Char) (n : Nat)
    (vs : List Value) (h : (split state cs).length = vs.length + 1) :
    scan state (filled f n (split state cs) vs) = scan state cs ∧
      (split state (filled f n (split state cs) vs)).length = k * vs.length + 1 := by
  induction cs generalizing state n vs with
  | nil =>
    have hvs : vs = [] := List.eq_nil_of_length_eq_zero (by simpa [split] using h)
    subst hvs
    exact ⟨rfl, rfl⟩
  | cons c cs ih =>
    by_cases hc : state = none ∧ c = '?'
    -- a marker: the value in its place leaves the reader outside quotations
    · obtain ⟨rfl, rfl⟩ := hc
      rw [split_mark] at h ⊢
      cases vs with
      | nil => exact absurd h (by simp [split_ne_nil])
      | cons v vs =>
        obtain ⟨hscan, hlen⟩ := ih none (n + 1) vs (by simpa using h)
        obtain ⟨hvscan, hvlen⟩ := hf n v
        have happend := length_split_append none (f n v).toList (filled f (n + 1) (split none cs) vs)
        rw [hvscan, hvlen, hlen] at happend
        rw [filled, List.nil_append, scan_append, hvscan, hscan]
        refine ⟨rfl, ?_⟩
        rw [List.length_cons, Nat.mul_succ]
        omega
    · obtain ⟨part, parts, hparts, hsplit⟩ := split_other hc cs
      rw [hsplit] at h ⊢
      have hrest := ih (step state c) n vs (by rw [hparts]; simpa using h)
      rw [hparts] at hrest
      rw [filled_cons_cons, length_split_other hc]
      exact hrest

end Marker

section Scans

variable {d : Dialect} {f : Nat → Value → String} {m : Nat} {b b' : BoundText}

/-- The text closes its quotations and has `m` markers for each value. -/
def Scans (f : Nat → Value → String) (m : Nat) (b : BoundText) : Prop :=
  Marker.Passes none (b.textFrom f 0).toList (m * b.argCount)

theorem scans_empty : Scans f m .empty :=
  .nil none

theorem Scans.write (h : Scans f m b) {s : String} (hs : Marker.Passes none s.toList 0) : Scans f m (b.write s) := by
  unfold Scans at h ⊢
  rw [BoundText.textFrom_write, String.toList_append, BoundText.argCount_write]
  exact h.append hs

theorem Scans.marker_write (hf : ∀ n v, Marker.Passes none (f n v).toList m) (h : Scans f m b) {sql : String}
    {args : List Value} (hs : Marker.Closed sql) (hw : Marker.write sql args b = .ok b') : Scans f m b' := by
  obtain ⟨hlen, rfl⟩ := Marker.write_eq_ok_iff.1 hw
  obtain ⟨hscan, hmarks⟩ := Marker.scan_filled hf sql.toList none (0 + b.argCount) args hlen
  have hvalues : (Marker.interleave (Marker.split none sql.toList) args b).argCount = b.argCount + args.length := by
    rw [← BoundText.length_args, Marker.args_interleave hlen, List.length_append, BoundText.length_args]
  unfold Scans at h ⊢
  rw [Marker.textFrom_interleave, hvalues, Nat.mul_add]
  exact h.append ⟨hscan.trans hs, hmarks⟩

theorem keeps_scans (hf : ∀ n v, Marker.Passes none (f n v).toList m) (d : Dialect) :
    Condition.Keeps d Marker.Closed fun _ => Scans f m where
  separator conjunction h := by
    refine h.write (Marker.passes_of_isOrdinary ?_)
    cases conjunction <;> decide
  opened h := h.write (Marker.passes_of_isOrdinary (by decide))
  closed h := h.write (Marker.passes_of_isOrdinary (by decide))
  name name h := h.write (d.passes_quoteIdent name)
  leaf hs h hw := h.marker_write hf hs hw

theorem count_textFrom (hf : ∀ n v, Marker.Passes none (f n v).toList m) {c : Condition} (hc : c.Leaves Marker.Closed)
    (hw : c.write d .empty = .ok b) : Marker.count (b.textFrom f 0) = m * b.args.length := by
  have hscans : Scans f m b := (keeps_scans hf d).write c hc (k := 0) scans_empty hw
  have hlen := Marker.length_split (b.textFrom f 0)
  rw [hscans.2, ← b.length_args] at hlen
  exact (Nat.add_right_cancel hlen).symm

end Scans

theorem toSql_eq_ok {α : Type} [Writable α] {d : Dialect} {a : α} {p : Prepared} :
    toSql d a = .ok p ↔ ∃ b, Writable.write d a .empty = .ok b ∧ ⟨b.render d, b.args⟩ = p :=
  except_map_eq_ok

theorem toRawSql_eq_ok {α : Type} [Writable α] {d : Dialect} {a : α} {r : String} :
    toRawSql d a = .ok r ↔ ∃ b, Writable.write d a .empty = .ok b ∧ b.renderLiteral d = r :=
  except_map_eq_ok

theorem placeholder_of_ne_postgres {d : Dialect} (hd : d ≠ .postgres) (n : Nat) : d.placeholder n = "?" := by
  cases d with
  | postgres => exact absurd rfl hd
  | mysql => rfl
  | sqlite => rfl

namespace Condition

/-- Where placeholders are markers, an expression with as many values as markers is compiled to itself. -/
theorem toSql_expr {d : Dialect} {sql : String} {args : List Value} (h : Marker.count sql = args.length)
    (hd : d ≠ .postgres ∨ args = []) : toSql d (expr sql args) = .ok ⟨sql, args⟩ := by
  have hlen : (Marker.split none sql.toList).length = args.length + 1 := by rw [Marker.length_split, h]
  have hmark := Marker.filled_mark (n := 0) hlen
  rw [Marker.intercalate_split] at hmark
  have hfilled : Marker.filled (fun n _ => d.placeholder n) 0 (Marker.split none sql.toList) args = sql.toList := by
    rcases hd with hd | rfl
    · simpa only [placeholder_of_ne_postgres hd] using hmark
    · cases hparts : Marker.split none sql.toList <;> rw [hparts] at hmark <;> exact hmark
  have hwrite : (expr sql args).write d .empty =
      .ok (Marker.interleave (Marker.split none sql.toList) args .empty) := by
    rw [write, Marker.write, if_pos h]
  refine toSql_eq_ok.2 ⟨_, hwrite, ?_⟩
  have hargs := Marker.args_interleave hlen .empty
  have htext := Marker.textFrom_interleave (fun n _ => d.placeholder n) 0 (Marker.split none sql.toList) args .empty
  have hempty : 0 + BoundText.empty.argCount = 0 := rfl
  rw [hempty, hfilled] at htext
  have hrender : BoundText.render d (Marker.interleave (Marker.split none sql.toList) args .empty) = sql :=
    String.toList_inj.1 htext
  rw [hrender, hargs]
  rfl

/-- The markers of a compiled condition are its placeholders where these are markers, and none with literals. -/
theorem toSql_rescans (d : Dialect) (c : Condition) (hc : c.Leaves Marker.Closed) :
    (d ≠ .postgres → ∀ p, toSql d c = .ok p →
      Marker.count p.sql = p.args.length ∧ toSql d (expr p.sql p.args) = .ok p) ∧
    ∀ r, toRawSql d c = .ok r → Marker.count r = 0 ∧ ∀ e, toSql e (raw r) = .ok ⟨r, []⟩ := by
  constructor
  · intro hd p hp
    obtain ⟨b, hw, rfl⟩ := toSql_eq_ok.1 hp
    have hf : ∀ n v, Marker.Passes none ((fun n (_ : Value) => d.placeholder n) n v).toList 1 := by
      intro n v
      simp only [placeholder_of_ne_postgres hd]
      exact ⟨rfl, rfl⟩
    have hcount : Marker.count (b.render d) = b.args.length := (count_textFrom hf hc hw).trans (Nat.one_mul _)
    exact ⟨hcount, toSql_expr hcount (.inl hd)⟩
  · intro r hr
    obtain ⟨b, hw, rfl⟩ := toRawSql_eq_ok.1 hr
    have hcount : Marker.count (b.renderLiteral d) = 0 :=
      (count_textFrom (fun _ v => d.passes_encodeValue v) hc hw).trans (Nat.zero_mul _)
    exact ⟨hcount, fun e => toSql_expr hcount (.inr rfl)⟩

/-- A name with a marker, a tail with a quotation, and values with quotes and markers. -/
theorem toSql_rescans_of_quotes :
    let c := group [(.and, column "a?`b" " = ? OR '?' = ?" [.text "it's ?", .blob [63, 39]]),
      (.or, eq "x.y" (.text "\\'?"))]
    c.Leaves Marker.Closed ∧ ∃ p r, toSql .mysql c = .ok p ∧ toSql .mysql (expr p.sql p.args) = .ok p ∧
      toRawSql .mysql c = .ok r ∧ toSql .mysql (raw r) = .ok ⟨r, []⟩ := by
  intro c
  have hc : c.Leaves Marker.Closed := by
    simp only [c, eq, Leaves, MemberLeaves]
    decide
  obtain ⟨p, hp⟩ : ∃ p, toSql .mysql c = .ok p := ⟨_, rfl⟩
  obtain ⟨r, hr⟩ : ∃ r, toRawSql .mysql c = .ok r := ⟨_, rfl⟩
  obtain ⟨hsql, hraw⟩ := toSql_rescans .mysql c hc
  exact ⟨hc, p, r, hp, (hsql (by decide) p hp).2, hr, (hraw r hr).2 .mysql⟩

end Condition
end SqlDialects
