import Mathlib.Data.List.Forall2
import SqlDialects.Query.Clause

/-!
# Groups that cannot be seen

A group of one condition is written as the condition, and the first conjunction of a group is not written. Both
hold inside any other condition, and also for what a writer leaves in its buffer when it ends in an error. So
a list of conditions is written as the list of groups that its clause makes of them.
-/

namespace SqlDialects

/-- What a writer leaves behind: the text as far as it got, and the error that it ended in, if any. -/
structure Written where
  text : BoundText
  error? : Option Error

namespace Written

/-- Writing goes on after what was written without an error. -/
def andThen (w : Written) (next : BoundText → Written) : Written :=
  match w.error? with
  | none => next w.text
  | some _ => w

/-- What is known if only a complete text counts. -/
def result (w : Written) : Except Error BoundText :=
  match w.error? with
  | none => .ok w.text
  | some e => .error e

theorem result_andThen (w : Written) (next : BoundText → Written) :
    (w.andThen next).result = w.result >>= fun b => (next b).result := by
  obtain ⟨b, _ | e⟩ := w <;> rfl

end Written

/-- Writes an expression into a buffer, which stays as it is if the number of values is wrong. -/
def Marker.writeInto (sql : String) (args : List Value) (b : BoundText) : Written :=
  if count sql = args.length then ⟨interleave (split none sql.toList) args b, none⟩
  else ⟨b, some (.placeholderCount (count sql) args.length)⟩

theorem Marker.result_writeInto (sql : String) (args : List Value) (b : BoundText) :
    (writeInto sql args b).result = write sql args b := by
  unfold writeInto write
  split <;> rfl

namespace Condition

mutual

/-- Writes a condition into a buffer; what is written before an error stays there. -/
def writeInto (d : Dialect) : Condition → BoundText → Written
  | expr sql args, b => Marker.writeInto sql args b
  | column name tail args, b => Marker.writeInto tail args (b.write (d.quoteIdent name))
  | group members, b => writeMembersInto d (members.length > 1) true members b

def writeMembersInto (d : Dialect) (wrapped first : Bool) : List (Conjunction × Condition) → BoundText → Written
  | [], b => ⟨b, none⟩
  | (conjunction, c) :: rest, b =>
    let b := if first then b else b.write conjunction.separator
    (writeInto d c (if wrapped then b.write "(" else b)).andThen fun b =>
      writeMembersInto d wrapped false rest (if wrapped then b.write ")" else b)

end

/-- Writes a list of conditions into a buffer, as a group of them would be. -/
def writeAllInto (d : Dialect) (members : List (Conjunction × Condition)) (b : BoundText) : Written :=
  writeMembersInto d (members.length > 1) true members b

mutual

/-- Writing into a buffer gives the text or the error of writing at the end of a text. -/
theorem result_writeInto (d : Dialect) (c : Condition) (b : BoundText) : (c.writeInto d b).result = c.write d b :=
  match c with
  | expr sql args => by
    simp only [writeInto, write]
    exact Marker.result_writeInto sql args b
  | column name tail args => by
    simp only [writeInto, write]
    exact Marker.result_writeInto tail args _
  | group members => by
    simp only [writeInto, write]
    exact result_writeMembersInto d _ true members b

theorem result_writeMembersInto (d : Dialect) (wrapped first : Bool) (members : List (Conjunction × Condition))
    (b : BoundText) : (writeMembersInto d wrapped first members b).result = writeMembers d wrapped first members b :=
  match members with
  | [] => by
    simp only [writeMembersInto, writeMembers]
    rfl
  | (conjunction, c) :: rest => by
    simp only [writeMembersInto, writeMembers, Written.result_andThen]
    rw [result_writeInto d c]
    simp only [result_writeMembersInto d wrapped false rest]

end

theorem result_writeAllInto (d : Dialect) (members : List (Conjunction × Condition)) (b : BoundText) :
    (writeAllInto d members b).result = writeAll d members b :=
  result_writeMembersInto d _ true members b

/-- Both conditions leave the same text and the same error in every buffer. -/
def Same (c c' : Condition) : Prop :=
  ∀ (d : Dialect) (b : BoundText), c.writeInto d b = c'.writeInto d b

theorem Same.write_eq {c c' : Condition} (h : Same c c') (d : Dialect) (b : BoundText) :
    c.write d b = c'.write d b := by
  rw [← result_writeInto, ← result_writeInto, h d b]

/-- The same conjunctions before conditions that cannot be told apart. -/
abbrev SameMembers : List (Conjunction × Condition) → List (Conjunction × Condition) → Prop :=
  List.Forall₂ fun m m' => m.1 = m'.1 ∧ Same m.2 m'.2

theorem SameMembers.refl (members : List (Conjunction × Condition)) : SameMembers members members :=
  List.forall₂_same.2 fun _ _ => ⟨rfl, fun _ _ => rfl⟩

variable {members members' : List (Conjunction × Condition)}

theorem SameMembers.writeMembersInto_eq (h : SameMembers members members') (d : Dialect) (wrapped first : Bool)
    (b : BoundText) : writeMembersInto d wrapped first members b = writeMembersInto d wrapped first members' b := by
  induction h generalizing first b with
  | nil => rfl
  | @cons m m' rest rest' hm _ ih =>
    obtain ⟨conjunction, c⟩ := m
    obtain ⟨conjunction', c'⟩ := m'
    obtain ⟨rfl, hc⟩ := hm
    simp only [writeMembersInto, hc d, ih false]

theorem SameMembers.writeAllInto_eq (h : SameMembers members members') (d : Dialect) (b : BoundText) :
    writeAllInto d members b = writeAllInto d members' b := by
  unfold writeAllInto
  rw [h.length_eq]
  exact h.writeMembersInto_eq d _ true b

/-- A group depends on its members only through what they write. -/
theorem Same.group (h : SameMembers members members') : Same (.group members) (.group members') := by
  intro d b
  simp only [writeInto]
  exact h.writeAllInto_eq d b

theorem same_group_singleton (conjunction : Conjunction) (c : Condition) : Same (group [(conjunction, c)]) c := by
  intro d b
  have hrest : ∀ w : Written, (w.andThen fun b => ⟨b, none⟩) = w := by
    intro w
    obtain ⟨b, _ | e⟩ := w <;> rfl
  simp [writeInto, writeMembersInto, hrest]

theorem same_group_first (conjunction conjunction' : Conjunction) (c : Condition)
    (rest : List (Conjunction × Condition)) :
    Same (group ((conjunction, c) :: rest)) (group ((conjunction', c) :: rest)) := by
  intro d b
  simp [writeInto, writeMembersInto]

theorem sameMembers_tagged (members : List (Conjunction × Condition)) :
    SameMembers (members.map fun (conjunction, c) => c.tagged conjunction) members := by
  rw [SameMembers, List.forall₂_map_left_iff, List.forall₂_same]
  exact fun m _ => ⟨rfl, same_group_singleton .and m.2⟩

/-- A condition with a place in it for another one: the place is the whole condition or lies in a member of a group. -/
inductive Setting where
  | whole
  | inside (before : List (Conjunction × Condition)) (conjunction : Conjunction) (member : Setting)
      (after : List (Conjunction × Condition))

/-- The condition with another one in its place. -/
def Setting.fill (c : Condition) : Setting → Condition
  | whole => c
  | inside before conjunction member after => group (before ++ (conjunction, member.fill c) :: after)

theorem Same.fill {c c' : Condition} (h : Same c c') (place : Setting) : Same (place.fill c) (place.fill c') := by
  induction place with
  | whole => exact h
  | inside before conjunction member after ih =>
    exact .group (List.rel_append (SameMembers.refl before) (.cons ⟨rfl, ih⟩ (SameMembers.refl after)))

/-- In any place a group of one condition is written as the condition is, and any first conjunction as any other;
also in what an error leaves in the buffer. A list of conditions is written as its tagged conditions are. -/
theorem singletons_and_first_conjunctions_unseen (d : Dialect) (b : BoundText) :
    (∀ (place : Setting) (conjunction : Conjunction) (c : Condition),
      (place.fill (group [(conjunction, c)])).write d b = (place.fill c).write d b ∧
        (place.fill (group [(conjunction, c)])).writeInto d b = (place.fill c).writeInto d b) ∧
    (∀ (place : Setting) (conjunction conjunction' : Conjunction) (c : Condition)
        (rest : List (Conjunction × Condition)),
      (place.fill (group ((conjunction, c) :: rest))).write d b =
          (place.fill (group ((conjunction', c) :: rest))).write d b ∧
        (place.fill (group ((conjunction, c) :: rest))).writeInto d b =
          (place.fill (group ((conjunction', c) :: rest))).writeInto d b) ∧
    ∀ members : List (Conjunction × Condition),
      writeAll d (members.map fun (conjunction, c) => c.tagged conjunction) b = writeAll d members b ∧
        writeAllInto d (members.map fun (conjunction, c) => c.tagged conjunction) b = writeAllInto d members b := by
  refine ⟨fun place conjunction c => ?_, fun place conjunction conjunction' c rest => ?_, fun members => ?_⟩
  · have hsame := (same_group_singleton conjunction c).fill place
    exact ⟨hsame.write_eq d b, hsame d b⟩
  · have hsame := (same_group_first conjunction conjunction' c rest).fill place
    exact ⟨hsame.write_eq d b, hsame d b⟩
  · have hinto := (sameMembers_tagged members).writeAllInto_eq d b
    refine ⟨?_, hinto⟩
    rw [← result_writeAllInto, ← result_writeAllInto, hinto]

end Condition

/-- The second condition of a group fails: the first one, the separator and the parenthesis stay in the buffer. -/
example :
    (Condition.andThen (.isNull "a") (.expr "b = ?" [])).writeInto .sqlite .empty =
      ⟨⟨[.text "(\"a\" IS NULL) AND ("], 0, rfl⟩, some (.placeholderCount 1 0)⟩ := by
  rfl

end SqlDialects
