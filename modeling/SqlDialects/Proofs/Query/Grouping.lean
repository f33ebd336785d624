import SqlDialects.Proofs.Query.Append
import SqlDialects.Proofs.Query.Keeping
import SqlDialects.Proofs.Query.Nesting

/-!
# Groups keep their members apart

A group of two or more conditions is written as one block in parentheses for each member, with the separator
of the member before each block but the first. If the expressions below it are balanced, these parentheses
are the outermost ones of the text, whatever the members are made of: identifiers and placeholders never leave
a quotation or a parenthesis open.
-/

namespace SqlDialects
open Nesting

namespace Marker

/-- The stretches of a text with a written value after each but the last. -/
def filled (f : Nat → Value → String) (n : Nat) : List (List Char) → List Value → List Char
  | part :: parts, v :: vs => part ++ (f n v).toList ++ filled f (n + 1) parts vs
  | part :: _, [] => part
  | [], _ => []

theorem textFrom_interleave (f : Nat → Value → String) (n : Nat) (parts : List (List Char)) (vs : List Value)
    (b : BoundText) : ((interleave parts vs b).textFrom f n).toList =
      (b.textFrom f n).toList ++ filled f (n + b.argCount) parts vs := by
  induction parts generalizing vs b with
  | nil => simp [interleave, filled]
  | cons part parts ih =>
    cases vs with
    | nil => simp [interleave, filled]
    | cons v vs => simp [interleave, filled, ih, Nat.add_assoc]

theorem filled_cons_cons (f : Nat → Value → String) (n : Nat) (c : Char) (part : List Char) (parts : List (List Char))
    (vs : List Value) : filled f n ((c :: part) :: parts) vs = c :: filled f n (part :: parts) vs := by
  cases vs <;> simp [filled]

/-- A reader that passes the markers passes balanced texts in their places just as well. -/
theorem read?_filled {f : Nat → Value → String} (hf : ∀ n v, Balanced (f n v).toList) (cs : List Char) (p : Place)
    (n : Nat) (vs : List Value) (h : (split p.quote cs).length = vs.length + 1) :
    p.read? (filled f n (split p.quote cs) vs) = p.read? cs := by
  induction cs generalizing p n vs with
  | nil =>
    cases vs with
    | nil => rfl
    | cons v vs => simp [split] at h
  | cons c cs ih =>
    obtain ⟨quote, depth⟩ := p
    by_cases hc : quote = none ∧ c = '?'
    -- A marker: the reader stays where it is, and a balanced text brings it back there.
    · obtain ⟨rfl, rfl⟩ := hc
      rw [split_mark] at h ⊢
      cases vs with
      | nil => simp [split_ne_nil] at h
      | cons v vs =>
        have hv : Place.read? ⟨none, depth⟩ (f n v).toList = some ⟨none, depth⟩ := (hf n v).read? depth
        have hrest := ih ⟨none, depth⟩ (n + 1) vs (by simpa using h)
        have hmark : Place.next? ⟨none, depth⟩ '?' = some ⟨none, depth⟩ := rfl
        rw [filled, List.nil_append, Place.read?_append, hv, Place.read?, hmark]
        exact hrest
    · obtain ⟨part, parts, hparts, hsplit⟩ := split_other hc cs
      rw [hsplit] at h ⊢
      rw [filled_cons_cons, Place.read?, Place.read?]
      cases hnext : Place.next? ⟨quote, depth⟩ c with
      | none => rfl
      | some q =>
        have hq : split q.quote cs = part :: parts := by rw [Place.quote_next? hnext, hparts]
        have hrest := ih q n vs (by rw [hq]; simpa using h)
        rw [hq] at hrest
        exact hrest

end Marker

section EndsAt

variable {f : Nat → Value → String} {n k : Nat} {b b' : BoundText}

/-- The text ends outside quotations and inside `k` parentheses. -/
def EndsAt (f : Nat → Value → String) (n k : Nat) (b : BoundText) : Prop :=
  Place.read? {} (b.textFrom f n).toList = some ⟨none, k⟩

theorem EndsAt.write (h : EndsAt f n k b) {s : String} {l : Nat}
    (hs : Place.read? ⟨none, k⟩ s.toList = some ⟨none, l⟩) : EndsAt f n l (b.write s) := by
  unfold EndsAt at h ⊢
  rw [BoundText.textFrom_write, String.toList_append, Place.read?_append, h]
  exact hs

theorem EndsAt.opened (h : EndsAt f n k b) : EndsAt f n (k + 1) (b.write "(") :=
  h.write (by simp [Place.read?, Place.next?])

theorem EndsAt.closed (h : EndsAt f n (k + 1) b) : EndsAt f n k (b.write ")") :=
  h.write (by simp [Place.read?, Place.next?])

theorem EndsAt.marker_write (hf : ∀ n v, Balanced (f n v).toList) (h : EndsAt f n k b) {sql : String}
    {args : List Value} (hw : Marker.write sql args b = .ok b') (hs : Balanced sql.toList) : EndsAt f n k b' := by
  obtain ⟨hlen, rfl⟩ := Marker.write_eq_ok_iff.1 hw
  have hread := Marker.read?_filled hf sql.toList ⟨none, k⟩ (n + b.argCount) args hlen
  unfold EndsAt at h ⊢
  rw [Marker.textFrom_interleave, Place.read?_append, h]
  exact hread.trans (hs.read? k)

end EndsAt

namespace Condition

mutual

/-- The texts of all expressions and tests in a condition are balanced. -/
def LeavesBalanced : Condition → Prop
  | expr sql _ => Balanced sql.toList
  | column _ tail _ => Balanced tail.toList
  | group members => MembersBalanced members

def MembersBalanced : List (Conjunction × Condition) → Prop
  | [] => True
  | (_, c) :: rest => LeavesBalanced c ∧ MembersBalanced rest

end

variable {f : Nat → Value → String} {n k : Nat}

theorem balanced_separator (conjunction : Conjunction) : ∀ c ∈ conjunction.separator.toList, isPlain c = true := by
  have hall : conjunction.separator.toList.all isPlain = true := by cases conjunction <;> decide
  exact List.all_eq_true.1 hall

mutual

theorem leaves_of_leavesBalanced (c : Condition) (h : c.LeavesBalanced) : c.Leaves fun sql => Balanced sql.toList :=
  match c with
  | expr _ _ => h
  | column _ _ _ => h
  | group members => memberLeaves_of_membersBalanced members h

theorem memberLeaves_of_membersBalanced (members : List (Conjunction × Condition)) (h : MembersBalanced members) :
    MemberLeaves (fun sql => Balanced sql.toList) members :=
  match members with
  | [] => trivial
  | (_, c) :: rest => ⟨leaves_of_leavesBalanced c h.1, memberLeaves_of_membersBalanced rest h.2⟩

end

theorem keeps_endsAt (hf : ∀ n v, Balanced (f n v).toList) (d : Dialect) :
    Keeps d (fun sql => Balanced sql.toList) (EndsAt f n) where
  separator conjunction h := h.write ((Balanced.of_isPlain (balanced_separator conjunction)).read? _)
  opened h := h.opened
  closed h := h.closed
  name name h := h.write ((balanced_quoteIdent d name).read? _)
  leaf hs h hw := h.marker_write hf hw hs

theorem endsAt_write (hf : ∀ n v, Balanced (f n v).toList) (d : Dialect) (c : Condition) (hl : c.LeavesBalanced)
    {b b' : BoundText} (h : EndsAt f n k b) (hw : c.write d b = .ok b') : EndsAt f n k b' :=
  (keeps_endsAt hf d).write c (leaves_of_leavesBalanced c hl) h hw

end Condition

namespace Dialect

theorem isPlain_of_isDigit {c : Char} (h : c.isDigit = true) : isPlain c = true := by
  have hne : ∀ o : Char, o.isDigit = false → c ≠ o := fun _ => Number.ne_of_isDigit h
  simp [isPlain, Marker.isQuote, hne]

theorem balanced_repr (n : Nat) : Balanced n.repr.toList := by
  refine Balanced.of_isPlain fun c hc => ?_
  rw [Nat.toList_repr] at hc
  exact isPlain_of_isDigit (Nat.isDigit_of_mem_toDigits (by decide) (by decide) hc)

theorem balanced_placeholder (d : Dialect) (n : Nat) : Balanced (d.placeholder n).toList := by
  have hmark : Balanced "?".toList := by decide
  cases d with
  | postgres =>
    have hdollar : Balanced ['$'] := by decide
    have htext : (placeholder .postgres n).toList = ['$'] ++ (n + 1).repr.toList := by simp [placeholder]
    rw [htext]
    exact hdollar.append (balanced_repr (n + 1))
  | mysql => exact hmark
  | sqlite => exact hmark

end Dialect

namespace BoundText

/-- The text with a placeholder for each value, the first of them with the number `n`. -/
def renderFrom (d : Dialect) (n : Nat) (b : BoundText) : String :=
  b.textFrom (fun n _ => d.placeholder n) n

end BoundText

namespace Condition

/-- What a condition is rendered to after `n` values. -/
def textAt (d : Dialect) (n : Nat) (c : Condition) : Except Error String :=
  (c.write d .empty).map (·.renderFrom d n)

/-- Writing a condition appends what it is rendered to after the values written so far. -/
theorem render_write {d : Dialect} {c : Condition} {b b' : BoundText} (hw : c.write d b = .ok b') :
    ∃ e, c.write d .empty = .ok e ∧ c.textAt d b.argCount = .ok (e.renderFrom d b.argCount) ∧
      b'.render d = b.render d ++ e.renderFrom d b.argCount := by
  rw [write_eq_map] at hw
  cases hc : c.write d .empty with
  | error err => rw [hc] at hw; exact absurd hw nofun
  | ok e =>
    rw [hc] at hw
    cases hw
    exact ⟨e, rfl, by rw [textAt, hc]; rfl, by simp [BoundText.render_eq, BoundText.renderFrom]⟩

/-- What the conditions of a list are rendered to, each after the values of the ones before it. -/
def textsAt (d : Dialect) : Nat → List (Conjunction × Condition) → Except Error (List String)
  | _, [] => .ok []
  | n, (_, c) :: rest => do
    let b ← c.write d .empty
    let texts ← textsAt d (n + b.argCount) rest
    return b.renderFrom d n :: texts

/-- Some texts in parentheses, with the separator of each before it but for the first. -/
def joined (first : Bool) : List (Conjunction × String) → List Char
  | [] => []
  | (conjunction, text) :: rest =>
    (if first then [] else conjunction.separator.toList) ++ ('(' :: text.toList ++ ')' :: joined false rest)

/-- A block for each text, with the characters of its separator before it but for the first. -/
def layout (first : Bool) : List (Conjunction × String) → List Part
  | [] => []
  | (conjunction, text) :: rest =>
    (if first then [] else conjunction.separator.toList.map .plain) ++ .block text.toList :: layout false rest

theorem topLevel_joined (first : Bool) {blocks : List (Conjunction × String)}
    (h : ∀ block ∈ blocks, Balanced block.2.toList) : topLevel (joined first blocks) = some (layout first blocks) := by
  induction blocks generalizing first with
  | nil => rfl
  | cons block blocks ih =>
    obtain ⟨conjunction, text⟩ := block
    have hrest := ih false fun block hb => h block (by simp [hb])
    have hblock := topLevel_block (h (conjunction, text) (by simp)) (joined false blocks)
    rw [hrest] at hblock
    cases first with
    | true => exact hblock
    | false =>
      have hsep := topLevel_plain (balanced_separator conjunction) ('(' :: text.toList ++ ')' :: joined false blocks)
      rw [hblock] at hsep
      exact hsep

theorem balanced_textAt {d : Dialect} {n : Nat} {c : Condition} {e : BoundText} (hl : c.LeavesBalanced)
    (hw : c.write d .empty = .ok e) : Balanced (e.renderFrom d n).toList :=
  endsAt_write (fun n _ => d.balanced_placeholder n) d c hl (rfl : EndsAt _ n 0 .empty) hw

/-- The members of a group are written to the texts they are rendered to, in parentheses. -/
theorem writeMembers_joined (d : Dialect) (n : Nat) (first : Bool) {members : List (Conjunction × Condition)}
    (hl : MembersBalanced members) {b b' : BoundText} (hw : writeMembers d true first members b = .ok b') :
    ∃ texts, textsAt d (n + b.argCount) members = .ok texts ∧ texts.length = members.length ∧
      (∀ text ∈ texts, Balanced text.toList) ∧
      b'.renderFrom d n =
        b.renderFrom d n ++ String.ofList (joined first ((members.map Prod.fst).zip texts)) := by
  induction members generalizing first b with
  | nil =>
    simp only [writeMembers, Except.ok.injEq] at hw
    exact ⟨[], rfl, rfl, by simp, by simp [hw, joined]⟩
  | cons member rest ih =>
    obtain ⟨conjunction, c⟩ := member
    simp only [writeMembers, if_true] at hw
    rw [write_eq_map] at hw
    cases hc : c.write d .empty with
    | error e => rw [hc] at hw; exact absurd hw nofun
    | ok e =>
      rw [hc] at hw
      obtain ⟨texts, htexts, hlen, hbal, hrender⟩ := ih false hl.2 hw
      have htext := balanced_textAt (n := n + b.argCount) hl.1 hc
      refine ⟨e.renderFrom d (n + b.argCount) :: texts, ?_, by simp [hlen], by simpa [htext] using hbal, ?_⟩
      · have hcount : n + (BoundText.write ((if first then b else b.write conjunction.separator).write "(" ++ e)
            ")").argCount = n + b.argCount + e.argCount := by
          cases first <;> simp [Nat.add_assoc]
        rw [hcount] at htexts
        rw [textsAt, hc]
        change (textsAt d (n + b.argCount + e.argCount) rest >>= _) = _
        rw [htexts]
        rfl
      · rw [hrender]
        cases first <;> simp [BoundText.renderFrom, joined, String.ofList_append, String.append_assoc]

/-- The blocks of a group are its members as they are rendered at this point, and the plain characters between
two blocks are the separator of the second. -/
theorem topLevel_group (d : Dialect) (members : List (Conjunction × Condition)) (b b' : BoundText)
    (htwo : 2 ≤ members.length) (hl : (group members).LeavesBalanced) (hw : (group members).write d b = .ok b') :
    ∃ text texts, (group members).textAt d b.argCount = .ok text ∧ b'.render d = b.render d ++ text ∧
      textsAt d b.argCount members = .ok texts ∧ texts.length = members.length ∧
      topLevel text.toList = some (layout true ((members.map Prod.fst).zip texts)) := by
  obtain ⟨e, he, htext, hrender⟩ := render_write hw
  have hwrapped : decide (members.length > 1) = true := decide_eq_true htwo
  rw [write, hwrapped] at he
  obtain ⟨texts, htexts, hlen, hbal, hjoined⟩ := writeMembers_joined d b.argCount true hl he
  refine ⟨_, texts, htext, hrender, htexts, hlen, ?_⟩
  have hblocks : ∀ block ∈ (members.map Prod.fst).zip texts, Balanced block.2.toList :=
    fun block hb => hbal block.2 (List.of_mem_zip hb).2
  rw [hjoined, BoundText.renderFrom, BoundText.textFrom_empty, String.empty_append, String.toList_ofList]
  exact topLevel_joined true hblocks

/-- A test of a column with a parenthesis in its name, and a group whose second member ends in a quotation. -/
theorem topLevel_group_of_two_members :
    let members : List (Conjunction × Condition) := [(.and, column "a (" " = ?" [.int 1]),
      (.or, group [(.and, isNull "b\""), (.or, expr "f(?) > ')'" [.int 2])])]
    let b := (BoundText.empty.write "c = ").bind (.int 0)
    2 ≤ members.length ∧ (group members).LeavesBalanced ∧ ∃ b' text texts,
      (group members).write .postgres b = .ok b' ∧ (group members).textAt .postgres b.argCount = .ok text ∧
        b'.render .postgres = b.render .postgres ++ text ∧ textsAt .postgres b.argCount members = .ok texts ∧
        texts.length = members.length ∧
        topLevel text.toList = some (layout true ((members.map Prod.fst).zip texts)) := by
  intro members b
  have htwo : 2 ≤ members.length := by decide
  have hl : (group members).LeavesBalanced := by
    simp only [members, isNull, LeavesBalanced, MembersBalanced]
    decide
  obtain ⟨b', hw⟩ : ∃ b', (group members).write .postgres b = .ok b' := ⟨_, rfl⟩
  obtain ⟨text, texts, h⟩ := topLevel_group .postgres members b b' htwo hl hw
  exact ⟨htwo, hl, b', text, texts, hw, h⟩

end Condition
end SqlDialects
