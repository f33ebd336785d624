import SqlDialects.Dialect.Identifier
import SqlDialects.Query.Marker

/-!
# Parentheses outside quotations

A reader of a text knows the quotation that is open and the number of open parentheses; parentheses inside
quotations do not count. A text is balanced if the reader ends where it began and never meets a closing
parenthesis without a partner. `topLevel` reads a text as the characters outside all parentheses and the
contents of the outermost pairs.
-/

namespace SqlDialects.Nesting
open Text

/-- Where a reader stands: the open quotation and the number of open parentheses. -/
structure Place where
  quote : Option Char := none
  depth : Nat := 0
  deriving DecidableEq

namespace Place

/-- The place after a character. -/
def next? (p : Place) (c : Char) : Option Place :=
  if p.quote = none ∧ c = '(' then some { p with depth := p.depth + 1 }
  else if p.quote = none ∧ c = ')' then
    if p.depth = 0 then none else some { p with depth := p.depth - 1 }
  else some { p with quote := Marker.step p.quote c }

/-- The place after a text. -/
def read? : Place → List Char → Option Place
  | p, [] => some p
  | p, c :: cs => (p.next? c).bind (·.read? cs)

/-- The place inside more parentheses. -/
def deeper (k : Nat) (p : Place) : Place :=
  { p with depth := p.depth + k }

theorem read?_append (p : Place) (cs ds : List Char) : p.read? (cs ++ ds) = (p.read? cs).bind (·.read? ds) := by
  induction cs generalizing p with
  | nil => rfl
  | cons c cs ih =>
    simp only [List.cons_append, read?, Option.bind_assoc]
    exact congrArg _ (funext ih)

theorem next?_deeper {p p' : Place} {c : Char} (h : p.next? c = some p') (k : Nat) :
    (p.deeper k).next? c = some (p'.deeper k) := by
  unfold next? at h
  split at h
  · next hc =>
    cases h
    simp only [next?, deeper, hc, and_self, if_true]
    congr 2
    omega
  split at h
  · next hc =>
    split at h
    · exact absurd h nofun
    · next hd =>
      cases h
      have hk : p.depth + k ≠ 0 := by omega
      simp only [next?, deeper, hc, hk, and_self, if_true, if_false]
      simp only [Char.reduceEq, and_false, if_false]
      congr 2
      omega
  · next ho hc =>
    cases h
    simp only [next?, deeper, ho, hc, if_false]

theorem read?_deeper {p p' : Place} {cs : List Char} (h : p.read? cs = some p') (k : Nat) :
    (p.deeper k).read? cs = some (p'.deeper k) := by
  induction cs generalizing p with
  | nil => cases h; rfl
  | cons c cs ih =>
    obtain ⟨q, hq, hr⟩ := Option.bind_eq_some_iff.1 h
    exact Option.bind_eq_some_iff.2 ⟨q.deeper k, next?_deeper hq k, ih hr⟩

/-- Parentheses do not touch the quotation. -/
theorem quote_next? {p p' : Place} {c : Char} (h : p.next? c = some p') : p'.quote = Marker.step p.quote c := by
  unfold next? at h
  split at h
  · next hc => cases h; simp [hc.1, hc.2, Marker.step, Marker.isQuote]
  split at h
  · next hc =>
    split at h
    · exact absurd h nofun
    · cases h; simp [hc.1, hc.2, Marker.step, Marker.isQuote]
  · cases h; rfl

end Place

/-- Every quotation is closed and every parenthesis has its partner. -/
def Balanced (cs : List Char) : Prop :=
  Place.read? {} cs = some {}

instance (cs : List Char) : Decidable (Balanced cs) :=
  inferInstanceAs (Decidable (_ = _))

/-- The characters that mean nothing to a reader outside quotations. -/
def isPlain (c : Char) : Bool :=
  !(Marker.isQuote c || c = '(' || c = ')')

theorem next?_of_isPlain {c : Char} (h : isPlain c = true) (n : Nat) : Place.next? ⟨none, n⟩ c = some ⟨none, n⟩ := by
  simp only [isPlain, Bool.not_eq_true', Bool.or_eq_false_iff, decide_eq_false_iff_not] at h
  simp [Place.next?, Marker.step, h.1.1, h.1.2, h.2]

namespace Balanced

theorem nil : Balanced [] := rfl

theorem read? {cs : List Char} (h : Balanced cs) (n : Nat) : Place.read? ⟨none, n⟩ cs = some ⟨none, n⟩ := by
  simpa [Place.deeper] using Place.read?_deeper h n

theorem append_iff {cs ds : List Char} (hc : Balanced cs) : Balanced (cs ++ ds) ↔ Balanced ds := by
  unfold Balanced at hc ⊢
  rw [Place.read?_append, hc]
  rfl

theorem append {cs ds : List Char} (hc : Balanced cs) (hd : Balanced ds) : Balanced (cs ++ ds) :=
  hc.append_iff.2 hd

/-- A parenthesis that closes too much is not made good by what follows. -/
theorem not_append_of_read?_eq_none {cs : List Char} (h : Place.read? {} cs = none) (ds : List Char) :
    ¬ Balanced (cs ++ ds) := by
  unfold Balanced
  rw [Place.read?_append, h]
  nofun

theorem of_isPlain {cs : List Char} (h : ∀ c ∈ cs, isPlain c = true) : Balanced cs := by
  induction cs with
  | nil => exact nil
  | cons c cs ih =>
    have hc := next?_of_isPlain (h c (by simp)) 0
    have hcs := ih fun c hc => h c (by simp [hc])
    unfold Balanced at hcs ⊢
    rw [Place.read?, hc]
    exact hcs

end Balanced

section Identifier

variable {q : Char}

theorem next?_in_quote (q : Char) (n : Nat) (c : Char) :
    Place.next? ⟨some q, n⟩ c = some ⟨Marker.step (some q) c, n⟩ := by
  simp [Place.next?]

theorem next?_quote (hq : Marker.isQuote q = true) (n : Nat) : Place.next? ⟨none, n⟩ q = some ⟨some q, n⟩ := by
  have ho : q ≠ '(' := by rintro rfl; simp [Marker.isQuote] at hq
  have hc : q ≠ ')' := by rintro rfl; simp [Marker.isQuote] at hq
  simp [Place.next?, Marker.step, ho, hc, hq]

/-- A quotation is left and opened again by each quote written twice. -/
theorem read?_double (hq : Marker.isQuote q = true) (n : Nat) (cs : List Char) :
    Place.read? ⟨some q, n⟩ (double q cs) = some ⟨some q, n⟩ := by
  induction cs with
  | nil => rfl
  | cons c cs ih =>
    by_cases h : c = q
    · subst h
      simp [double, Place.read?, next?_in_quote, next?_quote hq, Marker.step, ih]
    · simp [double, h, Place.read?, next?_in_quote, Marker.step, ih]

theorem balanced_quotedPart (hq : Marker.isQuote q = true) (part : List Char) :
    Balanced (Dialect.quotedPart q part) := by
  have hbody : Place.read? ⟨some q, 0⟩ (double q part ++ [q]) = some {} := by
    rw [Place.read?_append, read?_double hq]
    simp [Place.read?, next?_in_quote, Marker.step]
  unfold Balanced
  rw [Dialect.quotedPart, List.cons_append, Place.read?, next?_quote hq]
  exact hbody

theorem balanced_intercalate {sep : List Char} (hsep : Balanced sep) {parts : List (List Char)}
    (h : ∀ part ∈ parts, Balanced part) : Balanced (List.intercalate sep parts) := by
  induction parts with
  | nil => exact .nil
  | cons part parts ih =>
    have hpart := h part (by simp)
    have hparts := ih fun part hp => h part (by simp [hp])
    cases parts with
    | nil => simpa using hpart
    | cons next parts =>
      rw [List.intercalate_cons_cons]
      exact (hpart.append hsep).append hparts

theorem balanced_quoteIdent (d : Dialect) (name : String) : Balanced (d.quoteIdent name).toList := by
  have hq : Marker.isQuote d.identifierQuote = true := by cases d <;> decide
  rw [Dialect.quoteIdent, String.toList_ofList]
  refine balanced_intercalate (by decide) fun part hp => ?_
  obtain ⟨cs, _, rfl⟩ := List.mem_map.1 hp
  exact balanced_quotedPart hq cs

end Identifier

/-- What a text consists of outside all parentheses. -/
inductive Part where
  | plain (c : Char)
  /-- A pair of parentheses and what stands between them. -/
  | block (content : List Char)
  deriving DecidableEq

/-- The parts of the rest of a text, read from a place and with some of the open block already read. -/
def parts (p : Place) (content : List Char) : List Char → Option (List Part)
  | [] => if p = {} then some [] else none
  | c :: cs =>
    match p.next? c with
    | none => none
    | some p' =>
      if p.depth = 0 then
        if p'.depth = 0 then (parts p' [] cs).map (.plain c :: ·) else parts p' [] cs
      else if p'.depth = 0 then (parts p' [] cs).map (.block content :: ·)
      else parts p' (content ++ [c]) cs

/-- The parts of a text; a text that is not balanced has none. -/
def topLevel (cs : List Char) : Option (List Part) :=
  parts {} [] cs

theorem topLevel_plain {cs : List Char} (h : ∀ c ∈ cs, isPlain c = true) (rest : List Char) :
    topLevel (cs ++ rest) = (topLevel rest).map (cs.map .plain ++ ·) := by
  induction cs with
  | nil => simp
  | cons c cs ih =>
    have hc : Place.next? {} c = some {} := next?_of_isPlain (h c (by simp)) 0
    have hcs := ih fun c hc => h c (by simp [hc])
    unfold topLevel at hcs ⊢
    simp only [List.cons_append, parts, hc, if_true, hcs, Option.map_map, List.map_cons]
    rfl

/-- Inside a block every character is content as long as the block is not left. -/
theorem parts_inside {p p' : Place} {cs : List Char} (h : p.read? cs = some p') (content rest : List Char) :
    parts (p.deeper 1) content (cs ++ rest) = parts (p'.deeper 1) (content ++ cs) rest := by
  induction cs generalizing p content with
  | nil => cases h; simp
  | cons c cs ih =>
    obtain ⟨q, hq, hr⟩ := Option.bind_eq_some_iff.1 h
    have hp : (p.deeper 1).depth ≠ 0 := by simp [Place.deeper]
    have hq' : (q.deeper 1).depth ≠ 0 := by simp [Place.deeper]
    simp only [List.cons_append, parts, Place.next?_deeper hq 1, hp, hq', if_false]
    rw [ih hr, List.append_assoc]
    rfl

theorem topLevel_block {cs : List Char} (h : Balanced cs) (rest : List Char) :
    topLevel ('(' :: cs ++ ')' :: rest) = (topLevel rest).map (.block cs :: ·) := by
  have hin := parts_inside h [] (')' :: rest)
  have hopen : Place.next? {} '(' = some (Place.deeper 1 {}) := rfl
  have hclose : Place.next? (Place.deeper 1 {}) ')' = some {} := rfl
  unfold topLevel
  rw [List.cons_append, parts, hopen]
  simp only [if_true, hin, List.nil_append]
  rw [parts, hclose]
  rfl

end SqlDialects.Nesting
