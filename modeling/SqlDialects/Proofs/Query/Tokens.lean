import SqlDialects.Proofs.Query.Grouping
import SqlDialects.Text.Blank

/-! # Conditions as tokens

To write a condition is to write its tokens one after the other: its expressions and tests of columns, with separators
and parentheses around the members of groups. Every token has a text that is not blank, if only the expressions have
one. -/

namespace SqlDialects

/-- What a condition is written as: expressions, tests of columns, and what stands around the members of groups. -/
inductive Token where
  | opening
  | closing
  | separator (conjunction : Conjunction)
  | expr (sql : String) (args : List Value)
  | column (name tail : String) (args : List Value)

namespace Token

def write (d : Dialect) : Token → BoundText → Except Error BoundText
  | opening, b => .ok (b.write "(")
  | closing, b => .ok (b.write ")")
  | separator conjunction, b => .ok (b.write conjunction.separator)
  | expr sql args, b => Marker.write sql args b
  | column name tail args, b => Marker.write tail args (b.write (d.quoteIdent name))

def writeAll (d : Dialect) : List Token → BoundText → Except Error BoundText
  | [], b => .ok b
  | t :: ts, b => t.write d b >>= writeAll d ts

theorem writeAll_append (d : Dialect) (ts us : List Token) (b : BoundText) :
    writeAll d (ts ++ us) b = writeAll d ts b >>= writeAll d us := by
  induction ts generalizing b with
  | nil => rfl
  | cons t ts ih =>
    rw [List.cons_append, writeAll, writeAll]
    cases t.write d b with
    | error e => rfl
    | ok b' => exact ih b'

end Token

namespace Condition

mutual

/-- The tokens of a condition, from left to right. -/
def tokens : Condition → List Token
  | expr sql args => [.expr sql args]
  | column name tail args => [.column name tail args]
  | group members => memberTokens (members.length > 1) true members

def memberTokens (wrapped first : Bool) : List (Conjunction × Condition) → List Token
  | [] => []
  | (conjunction, c) :: rest =>
    (if first then [] else [.separator conjunction]) ++
      (if wrapped then .opening :: tokens c ++ [.closing] else tokens c) ++ memberTokens wrapped false rest

end

mutual

theorem write_eq_writeAll (d : Dialect) (c : Condition) (b : BoundText) : c.write d b = Token.writeAll d c.tokens b :=
  match c with
  | expr sql args => by
    simp only [write, tokens, Token.writeAll, Token.write]
    cases Marker.write sql args b <;> rfl
  | column name tail args => by
    simp only [write, tokens, Token.writeAll, Token.write]
    cases Marker.write tail args (b.write (d.quoteIdent name)) <;> rfl
  | group members => by
    simp only [write, tokens]
    exact writeMembers_eq_writeAll d _ true members b

theorem writeMembers_eq_writeAll (d : Dialect) (wrapped first : Bool) (members : List (Conjunction × Condition))
    (b : BoundText) :
    writeMembers d wrapped first members b = Token.writeAll d (memberTokens wrapped first members) b :=
  match members with
  | [] => by simp only [writeMembers, memberTokens, Token.writeAll]
  | (conjunction, c) :: rest => by
    have hsep : Token.writeAll d (if first then [] else [.separator conjunction]) b =
        .ok (if first then b else b.write conjunction.separator) := by
      cases first <;> rfl
    simp only [writeMembers, memberTokens]
    rw [Token.writeAll_append, Token.writeAll_append, hsep]
    generalize (if first then b else b.write conjunction.separator) = a
    cases wrapped with
    | true =>
      simp only [if_true]
      change _ = Token.writeAll d (c.tokens ++ [.closing]) (a.write "(") >>= _
      rw [Token.writeAll_append, ← write_eq_writeAll d c]
      cases c.write d (a.write "(") with
      | error e => rfl
      | ok b' => exact writeMembers_eq_writeAll d true false rest _
    | false =>
      simp only [Bool.false_eq_true, if_false]
      change _ = Token.writeAll d c.tokens a >>= _
      rw [← write_eq_writeAll d c]
      cases c.write d a with
      | error e => rfl
      | ok b' => exact writeMembers_eq_writeAll d false false rest _

end

end Condition

/-! ## What is written is not blank -/

/-- A text of blanks only, or of nothing. -/
def SaysNothing (s : String) : Prop :=
  s.toList.all Text.isBlank = true

instance (s : String) : Decidable (SaysNothing s) :=
  inferInstanceAs (Decidable (_ = _))

theorem saysNothing_append {s t : String} : SaysNothing (s ++ t) ↔ SaysNothing s ∧ SaysNothing t := by
  simp [SaysNothing, String.toList_append, List.all_append]

theorem not_saysNothing_of_mem {s : String} {c : Char} (hc : c ∈ s.toList) (hblank : Text.isBlank c = false) :
    ¬ SaysNothing s := by
  intro h
  rw [List.all_eq_true.1 h c hc] at hblank
  cases hblank

theorem not_saysNothing_placeholder (d : Dialect) (n : Nat) : ¬ SaysNothing (d.placeholder n) := by
  cases d with
  | postgres =>
    have hdollar : '$' ∈ (Dialect.placeholder .postgres n).toList := by simp [Dialect.placeholder]
    exact not_saysNothing_of_mem hdollar (by decide)
  | mysql | sqlite => exact not_saysNothing_of_mem (c := '?') (by simp [Dialect.placeholder]) (by decide)

theorem not_saysNothing_quoteIdent (d : Dialect) (name : String) : ¬ SaysNothing (d.quoteIdent name) := by
  have hquote : d.identifierQuote ∈ (d.quoteIdent name).toList := by
    obtain ⟨part, parts, hparts⟩ := List.exists_cons_of_ne_nil (Text.splitAt_ne_nil '.' name.toList)
    rw [Dialect.quoteIdent, String.toList_ofList, Dialect.quotedIdentifier, hparts]
    cases parts <;> simp [Dialect.quotedPart, List.intercalate_cons_cons]
  exact not_saysNothing_of_mem hquote (by cases d <;> decide)

/-- A text that says something says it also with values in the places of its markers. -/
theorem Marker.not_all_isBlank_filled {f : Nat → Value → String} (hf : ∀ n v, ¬ SaysNothing (f n v))
    (cs : List Char) (state : Option Char) (n : Nat) (vs : List Value) (h : (split state cs).length = vs.length + 1)
    (hcs : ¬ cs.all Text.isBlank = true) : ¬ (filled f n (split state cs) vs).all Text.isBlank = true := by
  induction cs generalizing state n vs with
  | nil => exact absurd rfl hcs
  | cons c cs ih =>
    by_cases hc : state = none ∧ c = '?'
    · obtain ⟨rfl, rfl⟩ := hc
      rw [split_mark] at h ⊢
      cases vs with
      | nil => exact absurd h (by simp [split_ne_nil])
      | cons v vs =>
        intro hall
        rw [filled, List.nil_append, List.all_append, Bool.and_eq_true] at hall
        exact hf n v hall.1
    · obtain ⟨part, parts, hparts, hsplit⟩ := split_other hc cs
      rw [hsplit] at h ⊢
      have hrest := ih (step state c) n vs (by rw [hparts]; simpa using h)
      rw [hparts] at hrest
      rw [filled_cons_cons]
      intro hall
      rw [List.all_cons, Bool.and_eq_true] at hall hcs
      exact hcs ⟨hall.1, by_contra fun hne => hrest hne hall.2⟩

namespace Token

variable {d : Dialect} {f : Nat → Value → String} {n : Nat} {t : Token} {ts : List Token}
variable {b b' : BoundText}

/-- An expression has to say something; all other tokens do. -/
def Says : Token → Prop
  | expr sql _ => ¬ SaysNothing sql
  | _ => True

theorem textFrom_marker_write {sql : String} {args : List Value} (hw : Marker.write sql args b = .ok b') :
    ∃ text, b'.textFrom f n = b.textFrom f n ++ text ∧
      ((∀ n v, ¬ SaysNothing (f n v)) → ¬ SaysNothing sql → ¬ SaysNothing text) := by
  obtain ⟨hlen, rfl⟩ := Marker.write_eq_ok_iff.1 hw
  refine ⟨String.ofList (Marker.filled f (n + b.argCount) (Marker.split none sql.toList) args), ?_, fun hf hsql => ?_⟩
  · rw [← String.toList_inj, Marker.textFrom_interleave]
    simp
  · have hfilled := Marker.not_all_isBlank_filled hf sql.toList none (n + b.argCount) args hlen hsql
    rwa [SaysNothing, String.toList_ofList]

/-- A token appends its text, which says something if the token does. -/
theorem textFrom_write (hw : t.write d b = .ok b') : ∃ text, b'.textFrom f n = b.textFrom f n ++ text ∧
    ((∀ n v, ¬ SaysNothing (f n v)) → t.Says → ¬ SaysNothing text) := by
  cases t with
  | opening =>
    cases hw
    exact ⟨"(", BoundText.textFrom_write b f n _, fun _ _ => by decide⟩
  | closing =>
    cases hw
    exact ⟨")", BoundText.textFrom_write b f n _, fun _ _ => by decide⟩
  | separator conjunction =>
    cases hw
    exact ⟨_, BoundText.textFrom_write b f n _, fun _ _ => by cases conjunction <;> decide⟩
  | expr sql args => exact textFrom_marker_write hw
  | column name tail args =>
    obtain ⟨text, htext, _⟩ := textFrom_marker_write (f := f) (n := n) hw
    rw [BoundText.textFrom_write, String.append_assoc] at htext
    exact ⟨_, htext, fun _ _ h => not_saysNothing_quoteIdent d name (saysNothing_append.1 h).1⟩

theorem textFrom_writeAll (hw : writeAll d ts b = .ok b') : ∃ text, b'.textFrom f n = b.textFrom f n ++ text ∧
    ((∀ n v, ¬ SaysNothing (f n v)) → (∀ t ∈ ts, t.Says) → ts ≠ [] → ¬ SaysNothing text) := by
  induction ts generalizing b with
  | nil =>
    cases hw
    exact ⟨"", String.append_empty.symm, fun _ _ hne => absurd rfl hne⟩
  | cons t ts ih =>
    obtain ⟨a, ha, hrest⟩ := except_bind_eq_ok.1 hw
    obtain ⟨text, htext, hnonblank⟩ := textFrom_write (f := f) (n := n) ha
    obtain ⟨more, hmore, _⟩ := ih hrest
    refine ⟨text ++ more, by rw [hmore, htext, String.append_assoc], fun hf hall _ h => ?_⟩
    exact hnonblank hf (hall t List.mem_cons_self) (saysNothing_append.1 h).1

/-- The text of tokens, the first value in it with the number `n`. -/
def textOf (d : Dialect) (n : Nat) (ts : List Token) : Except Error String :=
  (writeAll d ts .empty).map (·.renderFrom d n)

theorem not_saysNothing_textOf {text : String} (h : textOf d n ts = .ok text) (hsay : ∀ t ∈ ts, t.Says)
    (hne : ts ≠ []) : ¬ SaysNothing text := by
  obtain ⟨e, he, rfl⟩ := except_map_eq_ok.1 h
  obtain ⟨text, htext, hnonblank⟩ := textFrom_writeAll (f := fun n _ => d.placeholder n) (n := n) he
  rw [BoundText.renderFrom, htext, BoundText.textFrom_empty, String.empty_append]
  exact hnonblank (fun n _ => not_saysNothing_placeholder d n) hsay hne

end Token
end SqlDialects
