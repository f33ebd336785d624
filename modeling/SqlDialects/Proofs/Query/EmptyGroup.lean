import Mathlib.Data.List.Chain
import SqlDialects.Proofs.Query.Refusal
import SqlDialects.Proofs.Query.Tokens

/-! # Groups without members

A group without members has no text. As a member of a larger group it leaves a pair of parentheses with nothing in it,
and as the whole condition it leaves a keyword with nothing behind it. A condition with an expression in every group has
neither. -/

namespace SqlDialects
namespace Token

variable {d : Dialect} {t : Token} {ts us : List Token}

/-- Somewhere between an opening and a closing parenthesis there is nothing. -/
def HasEmptyPair (d : Dialect) (ts : List Token) : Prop :=
  ∃ before between after n text, ts = before ++ .opening :: (between ++ .closing :: after) ∧
    textOf d n between = .ok text ∧ SaysNothing text

theorem hasEmptyPair_iff (hsay : ∀ t ∈ ts, t.Says) : HasEmptyPair d ts ↔ [opening, closing] <:+: ts := by
  constructor
  · rintro ⟨before, between, after, n, text, rfl, htext, hblank⟩
    have hbetween : between = [] := by
      by_contra hne
      exact not_saysNothing_textOf htext (fun t ht => hsay t (by simp [ht])) hne hblank
    subst hbetween
    exact ⟨before, after, by simp⟩
  · rintro ⟨before, after, rfl⟩
    exact ⟨before, [], after, 0, "", by simp, rfl, by decide⟩

/-- Tokens among which no closing parenthesis follows an opening one, and which do so next to any others like them. -/
structure Filled (ts : List Token) : Prop where
  apart : ts.IsChain fun t u => ¬ (t = opening ∧ u = closing)
  first : ts.head? ≠ some closing
  last : ts.getLast? ≠ some opening

namespace Filled

theorem nil : Filled [] :=
  ⟨.nil, nofun, nofun⟩

theorem singleton (hopening : t ≠ opening) (hclosing : t ≠ closing) : Filled [t] :=
  ⟨.singleton t, by simpa, by simpa⟩

theorem append (ht : Filled ts) (hu : Filled us) : Filled (ts ++ us) := by
  refine ⟨List.isChain_append.2 ⟨ht.apart, hu.apart, ?_⟩, ?_, ?_⟩
  · rintro t hlast u - ⟨rfl, -⟩
    exact ht.last hlast
  · cases ts with
    | nil => exact hu.first
    | cons t ts => exact ht.first
  · rw [List.getLast?_append]
    cases hlast : us.getLast? with
    | none => simpa using ht.last
    | some u =>
      rintro ⟨⟩
      exact hu.last hlast

/-- Parentheses go around what is there. -/
theorem wrapped (ht : Filled ts) (hne : ts ≠ []) : Filled (opening :: ts ++ [closing]) := by
  obtain ⟨t, rest, rfl⟩ := List.exists_cons_of_ne_nil hne
  refine ⟨List.isChain_append.2 ⟨List.isChain_cons.2 ⟨?_, ht.apart⟩, .singleton _, ?_⟩, nofun, ?_⟩
  · rintro u hu ⟨-, rfl⟩
    exact ht.first hu
  · rintro u hu v - ⟨rfl, -⟩
    exact ht.last hu
  · rw [List.getLast?_concat]
    nofun

theorem not_infix (ht : Filled ts) : ¬ [opening, closing] <:+: ts := by
  intro h
  have hpair := ht.apart.infix h
  simp at hpair

end Filled
end Token

/-! ## Groups and their parentheses -/

namespace Condition
open Token

mutual

/-- No group in a condition is without members. -/
def NoEmptyGroup : Condition → Prop
  | expr _ _ | column _ _ _ => True
  | group members => members ≠ [] ∧ NoEmptyMember members

def NoEmptyMember : List (Conjunction × Condition) → Prop
  | [] => True
  | (_, c) :: rest => NoEmptyGroup c ∧ NoEmptyMember rest

end

mutual

theorem filled_tokens (c : Condition) (hc : c.NoEmptyGroup) : Filled c.tokens ∧ c.tokens ≠ [] :=
  match c with
  | expr sql args => ⟨.singleton nofun nofun, nofun⟩
  | column name tail args => ⟨.singleton nofun nofun, nofun⟩
  | group members => by
    rw [NoEmptyGroup] at hc
    rw [tokens]
    obtain ⟨hfilled, hsome⟩ := filled_memberTokens _ true members hc.2
    exact ⟨hfilled, hsome hc.1⟩

theorem filled_memberTokens (wrapped first : Bool) (members : List (Conjunction × Condition))
    (hm : NoEmptyMember members) :
    Filled (memberTokens wrapped first members) ∧ (members ≠ [] → memberTokens wrapped first members ≠ []) :=
  match members with
  | [] => ⟨.nil, fun hne => absurd rfl hne⟩
  | (conjunction, c) :: rest => by
    rw [NoEmptyMember] at hm
    obtain ⟨hfilled, hsome⟩ := filled_tokens c hm.1
    have hsep : Filled (if first then [] else [separator conjunction]) := by
      cases first
      · exact .singleton nofun nofun
      · exact .nil
    have hmember : Filled (if wrapped then opening :: c.tokens ++ [closing] else c.tokens) := by
      cases wrapped
      · exact hfilled
      · exact hfilled.wrapped hsome
    rw [memberTokens]
    refine ⟨(hsep.append hmember).append (filled_memberTokens wrapped false rest hm.2).1, fun _ hnil => hsome ?_⟩
    simp only [List.append_eq_nil_iff] at hnil
    cases wrapped
    · exact hnil.1.2
    · exact absurd hnil.1.2 nofun

end

/-- Each member of a group stands in its parentheses. -/
theorem infix_memberTokens {conjunction : Conjunction} {c : Condition} {members : List (Conjunction × Condition)}
    (hc : (conjunction, c) ∈ members) (first : Bool) :
    opening :: c.tokens ++ [closing] <:+: memberTokens true first members := by
  induction members generalizing first with
  | nil => cases hc
  | cons member rest ih =>
    obtain ⟨conjunction', c'⟩ := member
    rw [memberTokens, if_pos rfl]
    rcases List.mem_cons.1 hc with heq | hrest
    · cases heq
      exact ⟨_, _, rfl⟩
    · exact (ih hrest false).trans (List.suffix_append _ _).isInfix

mutual

/-- An empty group shows: there is nothing at all, or nothing in some parentheses. -/
theorem nil_or_infix_of_emptyGroup (c : Condition) (hc : ¬ c.NoEmptyGroup) :
    c.tokens = [] ∨ [opening, closing] <:+: c.tokens :=
  match c with
  | expr _ _ => absurd trivial hc
  | column _ _ _ => absurd trivial hc
  | group [] => .inl rfl
  | group [m] => by
    obtain ⟨m', hm', hshows⟩ := exists_of_emptyMember [m] fun hm => hc ⟨nofun, hm⟩
    obtain rfl := List.mem_singleton.1 hm'
    have halone : (group [m']).tokens = m'.2.tokens := by
      simp [tokens, memberTokens]
    rwa [halone]
  | group (m :: n :: rest) => by
    obtain ⟨m', hm', hshows⟩ := exists_of_emptyMember (m :: n :: rest) fun hm => hc ⟨nofun, hm⟩
    have hwrapped : decide ((m :: n :: rest).length > 1) = true := by simp
    rw [tokens, hwrapped]
    refine .inr (List.IsInfix.trans ?_ (infix_memberTokens hm' true))
    obtain hnil | hinfix := hshows
    · exact ⟨[], [], by simp [hnil]⟩
    · exact hinfix.trans ⟨[opening], [closing], by simp⟩

theorem exists_of_emptyMember (members : List (Conjunction × Condition)) (h : ¬ NoEmptyMember members) :
    ∃ m ∈ members, m.2.tokens = [] ∨ [opening, closing] <:+: m.2.tokens :=
  match members with
  | [] => absurd trivial h
  | (conjunction, c) :: rest => by
    by_cases hc : c.NoEmptyGroup
    · obtain ⟨m, hm, hshows⟩ := exists_of_emptyMember rest fun hrest => h ⟨hc, hrest⟩
      exact ⟨m, List.mem_cons_of_mem _ hm, hshows⟩
    · exact ⟨_, List.mem_cons_self, nil_or_infix_of_emptyGroup c hc⟩

end

/-- Each expression of the condition says something. -/
def Says (c : Condition) : Prop :=
  ∀ t ∈ c.tokens, t.Says

/-- The text of a condition says something, and so does what stands in any of its parentheses. -/
def IsWhole (d : Dialect) (c : Condition) (text : String) : Prop :=
  ¬ SaysNothing text ∧ ¬ HasEmptyPair d c.tokens

theorem textAt_eq_textOf (d : Dialect) (n : Nat) (c : Condition) : c.textAt d n = textOf d n c.tokens := by
  rw [textAt, write_eq_writeAll, textOf]

theorem isWhole_iff {d : Dialect} {c : Condition} (hc : c.Says) {n : Nat} {text : String}
    (h : c.textAt d n = .ok text) : c.IsWhole d text ↔ c.NoEmptyGroup := by
  rw [textAt_eq_textOf] at h
  rw [IsWhole, hasEmptyPair_iff hc]
  constructor
  · rintro ⟨hnonblank, hpair⟩
    by_contra hempty
    obtain hnil | hinfix := nil_or_infix_of_emptyGroup c hempty
    · rw [hnil] at h
      cases h
      exact hnonblank rfl
    · exact hpair hinfix
  · intro hfull
    obtain ⟨hfilled, hsome⟩ := filled_tokens c hfull
    exact ⟨not_saysNothing_textOf h hc hsome, hfilled.not_infix⟩

end Condition

/-! ## The conditions of statements -/

/-- One text is the start of another one, whatever the values are written as. -/
def BoundText.Starts (b b' : BoundText) : Prop :=
  ∀ f n, ∃ more, b'.textFrom f n = b.textFrom f n ++ more

section Starts

variable {d : Dialect} {b b' b'' : BoundText}

theorem BoundText.Starts.refl (b : BoundText) : b.Starts b :=
  fun _ _ => ⟨"", String.append_empty.symm⟩

theorem BoundText.Starts.trans (h : b.Starts b') (h' : b'.Starts b'') : b.Starts b'' := by
  intro f n
  obtain ⟨more, hmore⟩ := h f n
  obtain ⟨rest, hrest⟩ := h' f n
  exact ⟨more ++ rest, by rw [hrest, hmore, String.append_assoc]⟩

theorem BoundText.starts_write (b : BoundText) (s : String) : b.Starts (b.write s) :=
  fun f n => ⟨s, textFrom_write b f n s⟩

theorem Condition.starts_write {c : Condition} (hw : c.write d b = .ok b') : b.Starts b' := by
  intro f n
  rw [write_eq_writeAll] at hw
  obtain ⟨text, htext, _⟩ := Token.textFrom_writeAll (f := f) (n := n) hw
  exact ⟨text, htext⟩

theorem Clause.starts_terms (keyword : String) (names : List String) (b : BoundText) :
    b.Starts (terms keyword names b) := by
  unfold terms
  split
  · exact .refl b
  · exact (b.starts_write _).trans (BoundText.starts_write _ _)

theorem Clause.starts_number (keyword : String) (n : Option UInt64) (b : BoundText) :
    b.Starts (number keyword n b) := by
  cases n with
  | none => exact .refl b
  | some n => exact b.starts_write _

/-- A keyword with its condition stands somewhere in a text. -/
def Contains (d : Dialect) (b : BoundText) (predicate : String × Condition) : Prop :=
  ∃ before behind : BoundText, predicate.2.write d (before.write predicate.1) = .ok behind ∧ behind.Starts b

theorem Contains.of_starts {predicate : String × Condition} (h : Contains d b predicate) (hb : b.Starts b') :
    Contains d b' predicate := by
  obtain ⟨before, behind, hw, hstarts⟩ := h
  exact ⟨before, behind, hw, hstarts.trans hb⟩

end Starts

namespace Clause

/-- The condition of a clause with its keyword, if there is one. -/
def predicates (keyword : String) (members : List (Conjunction × Condition)) : List (String × Condition) :=
  if members.isEmpty then [] else [(keyword, .group (members.map fun (conjunction, c) => c.tagged conjunction))]

theorem conditions_eq_ok {d : Dialect} {keyword : String} {members : List (Conjunction × Condition)}
    {b b' : BoundText} (hw : conditions d keyword members b = .ok b') :
    b.Starts b' ∧ ∀ predicate ∈ predicates keyword members, Contains d b' predicate := by
  cases members with
  | nil =>
    cases hw
    exact ⟨.refl b, nofun⟩
  | cons member rest =>
    have hw : Condition.write d (.group _) (b.write keyword) = .ok b' := (Condition.write_group d _ _).trans hw
    refine ⟨(b.starts_write keyword).trans (Condition.starts_write hw), fun predicate hp => ?_⟩
    obtain rfl := List.mem_singleton.1 hp
    exact ⟨b, b', hw, .refl b'⟩

end Clause

namespace Select

theorem writeJoins_eq_ok {d : Dialect} {joins : List Join} {b b' : BoundText} (hw : writeJoins d joins b = .ok b') :
    b.Starts b' ∧ ∀ j ∈ joins, Contains d b' (" ON ", j.on) := by
  induction joins generalizing b with
  | nil =>
    cases hw
    exact ⟨.refl _, nofun⟩
  | cons j rest ih =>
    obtain ⟨a, ha, hrest⟩ := except_bind_eq_ok.1 hw
    obtain ⟨hstarts, hall⟩ := ih hrest
    have hhead := (((b.starts_write j.kind.keyword).trans (BoundText.starts_write _ (d.quoteIdent j.table))).trans
      (BoundText.starts_write _ " ON ")).trans (Condition.starts_write ha)
    exact ⟨hhead.trans hstarts, List.forall_mem_cons.2 ⟨⟨_, a, ha, hstarts⟩, hall⟩⟩

end Select

namespace Query

/-- The keywords of a query that a condition follows, each with its condition. -/
def predicates : Query → List (String × Condition)
  | select s => s.joins.map (fun j => (" ON ", j.on)) ++
      (Clause.predicates " WHERE " s.filter ++ Clause.predicates " HAVING " s.having)
  | insert _ => []
  | update s => Clause.predicates " WHERE " s.filter
  | delete s => Clause.predicates " WHERE " s.filter

/-- Writes a query at the end of a text. -/
def write (d : Dialect) : Query → BoundText → Except Error BoundText
  | select s => s.write d
  | insert s => s.write d
  | update s => s.write d
  | delete s => s.write d

theorem toSql_eq_write (d : Dialect) (q : Query) :
    q.toSql d = (q.write d .empty).map fun b => ⟨b.render d, b.args⟩ := by
  cases q <;> rfl

theorem contains_of_write {d : Dialect} {q : Query} {b b' : BoundText} (hw : q.write d b = .ok b') :
    ∀ predicate ∈ q.predicates, Contains d b' predicate := by
  have htail (keyword : String) (terms : List String) (n : Option UInt64) (b : BoundText) :
      b.Starts (Clause.number " LIMIT " n (Clause.terms keyword terms b)) :=
    (Clause.starts_terms keyword terms b).trans (Clause.starts_number " LIMIT " n _)
  cases q with
  | select s =>
    rw [write, Select.write] at hw
    split at hw
    · cases hw
    obtain ⟨b₁, hjoins, hw⟩ := except_bind_eq_ok.1 hw
    obtain ⟨b₂, hwhere, hw⟩ := except_bind_eq_ok.1 hw
    obtain ⟨b₃, hhaving, hw⟩ := except_bind_eq_ok.1 hw
    cases hw
    have hend : b₃.Starts _ := (htail " ORDER BY " s.orderBy s.limit b₃).trans
      (Clause.starts_number " OFFSET " s.offset _)
    obtain ⟨hstarts₃, hall₃⟩ := Clause.conditions_eq_ok hhaving
    obtain ⟨hstarts₂, hall₂⟩ := Clause.conditions_eq_ok hwhere
    have hbehind₂ := (Clause.starts_terms " GROUP BY " s.groupBy b₂).trans (hstarts₃.trans hend)
    intro predicate hp
    rw [predicates, List.mem_append, List.mem_append] at hp
    obtain hp | hp | hp := hp
    · obtain ⟨j, hj, rfl⟩ := List.mem_map.1 hp
      exact ((Select.writeJoins_eq_ok hjoins).2 j hj).of_starts (hstarts₂.trans hbehind₂)
    · exact (hall₂ predicate hp).of_starts hbehind₂
    · exact (hall₃ predicate hp).of_starts hend
  | insert s => nofun
  | update s =>
    rw [write, Update.write] at hw
    split at hw
    · cases hw
    split at hw
    · cases hw
    obtain ⟨b₁, _, hw⟩ := except_bind_eq_ok.1 hw
    obtain ⟨b₂, hwhere, hw⟩ := except_bind_eq_ok.1 hw
    cases hw
    exact fun predicate hp => ((Clause.conditions_eq_ok hwhere).2 predicate hp).of_starts (htail _ _ _ b₂)
  | delete s =>
    rw [write, Delete.write] at hw
    split at hw
    · cases hw
    obtain ⟨b₁, hwhere, hw⟩ := except_bind_eq_ok.1 hw
    cases hw
    exact fun predicate hp => ((Clause.conditions_eq_ok hwhere).2 predicate hp).of_starts (htail _ _ _ b₁)

/-- A condition is compiled to a text that says something, with nothing empty between its parentheses, exactly if none
of its groups is empty; and so it is behind every keyword of a query that it follows. -/
theorem compiled_isWhole_iff (d : Dialect) (c : Condition) (hc : c.Says) :
    (∀ b, c.write d b = Token.writeAll d c.tokens b) ∧
      (∀ p, SqlDialects.toSql d c = .ok p → (c.IsWhole d p.sql ↔ c.NoEmptyGroup)) ∧
      ∀ q p, toSql d q = .ok p → ∀ keyword, (keyword, c) ∈ q.predicates →
        ∃ front n text back, c.textAt d n = .ok text ∧ p.sql = front ++ keyword ++ text ++ back ∧
          (c.IsWhole d text ↔ c.NoEmptyGroup) := by
  refine ⟨c.write_eq_writeAll d, fun p hp => ?_, fun q p hp keyword hkeyword => ?_⟩
  · obtain ⟨b, hw, rfl⟩ := toSql_eq_ok.1 hp
    have htext : c.textAt d 0 = .ok (b.render d) := except_map_eq_ok.2 ⟨b, hw, rfl⟩
    exact Condition.isWhole_iff hc htext
  · rw [toSql_eq_write] at hp
    obtain ⟨b, hw, rfl⟩ := except_map_eq_ok.1 hp
    obtain ⟨before, behind, hwritten, hstarts⟩ := contains_of_write hw _ hkeyword
    obtain ⟨e, _, htext, hrender⟩ := Condition.render_write hwritten
    obtain ⟨back, hback⟩ := hstarts (fun n _ => d.placeholder n) 0
    refine ⟨before.render d, _, _, back, htext, ?_, Condition.isWhole_iff hc htext⟩
    have hall : b.render d = behind.render d ++ back := hback
    have hfront : (before.write keyword).render d = before.render d ++ keyword := BoundText.textFrom_write before _ _ _
    rw [hall, hrender, hfront]

/-- A list of conditions that came out empty deletes behind a keyword with nothing after it, and leaves an empty pair
next to its sibling. -/
theorem compiled_isWhole_iff_of_empty_lists :
    let none : Condition := .all []
    let beside : Condition := .all [.any [], .inList "a" []]
    let q : Query := .delete { table := "t", filter := [(.and, none)] }
    (none.Says ∧ beside.Says) ∧ q.toSql .sqlite = .ok ⟨"DELETE FROM \"t\" WHERE ", []⟩ ∧
      SqlDialects.toSql .sqlite beside = .ok ⟨"() AND (1 = 0)", []⟩ ∧ ¬ none.IsWhole .sqlite "" ∧
      ¬ beside.IsWhole .sqlite "() AND (1 = 0)" := by
  intro none beside q
  have hnone : none.Says := nofun
  have htokens : beside.tokens = [.opening, .closing, .separator .and, .opening, .expr "1 = 0" [], .closing] := by rfl
  have hbeside : beside.Says := by
    have hexpr : ¬ SaysNothing "1 = 0" := by decide
    rw [Condition.Says, htokens]
    simp [Token.Says, hexpr]
  have hcompiled : SqlDialects.toSql .sqlite beside = .ok ⟨"() AND (1 = 0)", []⟩ := by rfl
  have hname : Dialect.sqlite.quoteIdent "t" = "\"t\"" := by decide +kernel
  have hdelete : q.toSql .sqlite = .ok ⟨"DELETE FROM \"t\" WHERE ", []⟩ := by
    rw [toSql_eq_write]
    simp only [q, write, Delete.write, hname]
    rfl
  refine ⟨⟨hnone, hbeside⟩, hdelete, hcompiled, fun hwhole => ?_, fun hwhole => ?_⟩
  · obtain ⟨hempty, _⟩ := ((compiled_isWhole_iff .sqlite none hnone).2.1 ⟨"", []⟩ rfl).1 hwhole
    exact hempty rfl
  · obtain ⟨_, hany, _⟩ := ((compiled_isWhole_iff .sqlite beside hbeside).2.1 _ hcompiled).1 hwhole
    exact hany.1 rfl

end Query
end SqlDialects
