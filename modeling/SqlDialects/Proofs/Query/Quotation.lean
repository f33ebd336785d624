import SqlDialects.Dialect.Identifier
import SqlDialects.Dialect.Literal
import SqlDialects.Query.Marker

/-!
# What a reader of markers passes

A reader of markers knows the quotation that is open. It passes a text if it is in the same quotation behind the
text as before it; the markers on the way are counted. Identifiers and literals are passed without a marker,
whatever they are made of.
-/

namespace SqlDialects.Marker
open Text

/-- The quotation that is open behind a text. -/
def scan (state : Option Char) (cs : List Char) : Option Char :=
  cs.foldl step state

/-- Every quotation of the text is closed. -/
def Closed (sql : String) : Prop :=
  scan none sql.toList = none

instance (sql : String) : Decidable (Closed sql) :=
  inferInstanceAs (Decidable (_ = _))

theorem scan_append (state : Option Char) (cs ds : List Char) : scan state (cs ++ ds) = scan (scan state cs) ds :=
  List.foldl_append

theorem scan_cons (state : Option Char) (c : Char) (cs : List Char) : scan state (c :: cs) = scan (step state c) cs :=
  rfl

theorem length_split_mark (cs : List Char) : (split none ('?' :: cs)).length = (split none cs).length + 1 := rfl

theorem length_split_other {state : Option Char} {c : Char} (h : ¬ (state = none ∧ c = '?')) (cs : List Char) :
    (split state (c :: cs)).length = (split (step state c) cs).length := by
  obtain ⟨part, parts, hrest, hsplit⟩ := split_other h cs
  rw [hrest, hsplit]
  rfl

theorem length_split_append (state : Option Char) (cs ds : List Char) :
    (split state (cs ++ ds)).length + 1 = (split state cs).length + (split (scan state cs) ds).length := by
  induction cs generalizing state with
  | nil => simp [split, scan, Nat.add_comm]
  | cons c cs ih =>
    by_cases hc : state = none ∧ c = '?'
    · obtain ⟨rfl, rfl⟩ := hc
      have hrest := ih none
      have hscan : scan none ('?' :: cs) = scan none cs := rfl
      rw [List.cons_append, length_split_mark, length_split_mark, hscan]
      omega
    · have hrest := ih (step state c)
      rw [List.cons_append, length_split_other hc, length_split_other hc, scan_cons]
      exact hrest

/-- Behind the text the quotation is the one before it, with `k` markers in between. -/
def Passes (state : Option Char) (cs : List Char) (k : Nat) : Prop :=
  scan state cs = state ∧ (split state cs).length = k + 1

namespace Passes

variable {state : Option Char} {cs ds : List Char} {j k : Nat}

theorem nil (state : Option Char) : Passes state [] 0 :=
  ⟨rfl, rfl⟩

theorem append (hc : Passes state cs j) (hd : Passes state ds k) : Passes state (cs ++ ds) (j + k) := by
  obtain ⟨hcs, hcl⟩ := hc
  obtain ⟨hds, hdl⟩ := hd
  have hlen := length_split_append state cs ds
  rw [hcs] at hlen
  refine ⟨?_, by omega⟩
  rw [scan_append, hcs, hds]

theorem singleton {c : Char} (hs : step state c = state) (hm : ¬ (state = none ∧ c = '?')) :
    Passes state [c] 0 := by
  refine ⟨hs, ?_⟩
  rw [length_split_other hm, hs]
  rfl

theorem flatMap {α : Type} {f : α → List Char} {as : List α} (h : ∀ a ∈ as, Passes state (f a) 0) :
    Passes state (as.flatMap f) 0 := by
  induction as with
  | nil => exact nil state
  | cons a as ih =>
    have ha := h a (by simp)
    have has := ih fun a ha => h a (by simp [ha])
    rw [List.flatMap_cons]
    exact ha.append has

/-- Inside a quotation everything but its quote is passed. -/
theorem other {q c : Char} (h : c ≠ q) : Passes (some q) [c] 0 :=
  singleton (by simp [step, h]) nofun

theorem ne_mark {q : Char} (hq : isQuote q = true) : q ≠ '?' := by
  rintro rfl
  exact absurd hq (by decide)

/-- Inside a quotation its quote is passed if written twice. -/
theorem two {q : Char} (hq : isQuote q = true) : Passes (some q) [q, q] 0 := by
  have hm := ne_mark hq
  refine ⟨?_, ?_⟩
  · simp [scan, step, hq]
  · simp [step, hm, split]

theorem quoted {q : Char} (hq : isQuote q = true) (h : Passes (some q) cs 0) : Passes none (q :: cs ++ [q]) 0 := by
  have hopen : step none q = some q := by simp [step, hq]
  have hclose : step (some q) q = none := by simp [step]
  have hbefore : ¬ ((none : Option Char) = none ∧ q = '?') := fun hm => ne_mark hq hm.2
  have hbehind : ¬ (some q = none ∧ q = '?') := fun hm => ne_mark hq hm.2
  obtain ⟨hscan, hlen⟩ := h
  have hfirst : scan none (q :: cs) = some q := by rw [scan_cons, hopen, hscan]
  have happend := length_split_append none (q :: cs) [q]
  rw [hfirst, length_split_other hbefore, hopen, hlen, length_split_other hbehind, hclose] at happend
  refine ⟨?_, ?_⟩
  · rw [scan_append, hfirst]
    exact hclose
  · exact Nat.add_right_cancel happend

end Passes

/-- The characters that are neither quotes nor markers. -/
def isOrdinary (c : Char) : Bool :=
  !(isQuote c || c = '?')

theorem passes_of_isOrdinary {cs : List Char} (h : cs.all isOrdinary = true) : Passes none cs 0 := by
  have hone : ∀ c ∈ cs, Passes none [c] 0 := by
    intro c hc
    have ho := List.all_eq_true.1 h c hc
    simp only [isOrdinary, Bool.not_eq_true', Bool.or_eq_false_iff, decide_eq_false_iff_not] at ho
    exact .singleton (by simp [step, ho.1]) fun hm => ho.2 hm.2
  simpa using Passes.flatMap hone

theorem passes_inside {q : Char} {cs : List Char} (h : q ∉ cs) : Passes (some q) cs 0 := by
  have hone : ∀ c ∈ cs, Passes (some q) [c] 0 := fun c hc => .other fun heq => h (heq ▸ hc)
  simpa using Passes.flatMap hone

theorem passes_double {q : Char} (hq : isQuote q = true) (cs : List Char) : Passes (some q) (double q cs) 0 := by
  induction cs with
  | nil => exact .nil _
  | cons c cs ih =>
    by_cases h : c = q
    · subst h
      rw [double, if_pos rfl]
      exact (Passes.two hq).append ih
    · rw [double, if_neg h]
      exact (Passes.other h).append ih

theorem passes_intercalate {sep : List Char} (hsep : Passes none sep 0) {parts : List (List Char)}
    (h : ∀ part ∈ parts, Passes none part 0) : Passes none (List.intercalate sep parts) 0 := by
  induction parts with
  | nil => exact .nil none
  | cons part parts ih =>
    have hpart := h part (by simp)
    have hparts := ih fun part hp => h part (by simp [hp])
    cases parts with
    | nil => simpa using hpart
    | cons next parts =>
      rw [List.intercalate_cons_cons]
      exact (hpart.append hsep).append hparts

end SqlDialects.Marker

namespace SqlDialects.Dialect
open Marker

theorem passes_quoteIdent (d : Dialect) (name : String) : Passes none (d.quoteIdent name).toList 0 := by
  have hq : isQuote d.identifierQuote = true := by cases d <;> decide
  have hdot : Passes none ['.'] 0 := passes_of_isOrdinary (by decide)
  rw [quoteIdent, String.toList_ofList]
  refine passes_intercalate hdot fun part hp => ?_
  obtain ⟨cs, _, rfl⟩ := List.mem_map.1 hp
  exact Passes.quoted hq (passes_double hq cs)

theorem passes_inQuotes {f : Char → List Char} (hf : ∀ c, Passes (some '\'') (f c) 0) (s : String) :
    Passes none (inQuotes f s).toList 0 := by
  rw [inQuotes, String.toList_ofList]
  exact Passes.quoted (by decide) (Passes.flatMap fun c _ => hf c)

theorem passes_encodedChar (d : Dialect) (c : Char) : Passes (some '\'') (d.encodedChar c) 0 := by
  unfold encodedChar
  split
  · exact Passes.two (by decide)
  · exact ⟨rfl, rfl⟩
  · exact ⟨rfl, rfl⟩
  · exact ⟨rfl, rfl⟩
  · exact ⟨rfl, rfl⟩
  · exact ⟨rfl, rfl⟩
  · next h _ _ _ _ _ => exact Passes.other fun hc => h hc

end SqlDialects.Dialect

namespace SqlDialects.Number
open Marker

theorem isOrdinary_of_isDigit {c : Char} (h : c.isDigit = true) : isOrdinary c = true := by
  have hne : ∀ o : Char, o.isDigit = false → c ≠ o := fun _ => ne_of_isDigit h
  simp [isOrdinary, isQuote, hne]

theorem isOrdinary_natText {n : Nat} {c : Char} (h : c ∈ natText n) : isOrdinary c = true :=
  isOrdinary_of_isDigit (isDigit_of_mem_natText h)

theorem isOrdinary_intText {n : Int64} {c : Char} (h : c ∈ (intText n).toList) : isOrdinary c = true := by
  rw [intText] at h
  cases hn : n.toInt with
  | ofNat m =>
    rw [hn, toList_toString_ofNat] at h
    exact isOrdinary_natText h
  | negSucc m =>
    rw [hn, toList_toString_negSucc] at h
    rcases List.mem_cons.1 h with rfl | hm
    · rfl
    · exact isOrdinary_natText hm

theorem isOrdinary_positional {d : Decimal} {c : Char} (h : c ∈ d.positional) : isOrdinary c = true := by
  have hzeros : ∀ {k : Nat}, c ∈ List.replicate k '0' → isOrdinary c = true := by
    intro k hk
    rw [(List.mem_replicate.1 hk).2]
    rfl
  have hpadded : ∀ {k : Nat}, c ∈ List.replicate k '0' ++ natText d.digits → isOrdinary c = true := by
    intro k hk
    rcases List.mem_append.1 hk with hk | hk
    · exact hzeros hk
    · exact isOrdinary_natText hk
  have hwhole : ∀ {k m : Nat}, c ∈ (List.replicate k '0' ++ natText d.digits).take m → isOrdinary c = true :=
    fun hk => hpadded (List.mem_of_mem_take hk)
  unfold Decimal.positional at h
  simp only at h
  split at h
  · rcases List.mem_append.1 h with h | h
    · exact isOrdinary_natText h
    · exact hzeros h
  split at h
  · exact hwhole h
  · rcases List.mem_append.1 h with h | h
    · exact hwhole h
    rcases List.mem_cons.1 h with rfl | h
    · rfl
    -- a fraction is a part of the padded digits, read backwards twice
    · have hdrop := (List.dropWhile_suffix _).mem (List.mem_reverse.1 h)
      exact hpadded (List.mem_of_mem_drop (List.mem_reverse.1 hdrop))

theorem isOrdinary_floatText {x : Float} {c : Char} (h : c ∈ (floatText x).toList) : isOrdinary c = true := by
  have hword : ∀ word : List Char, word.all isOrdinary = true → c ∈ word → isOrdinary c = true :=
    fun _ hw => List.all_eq_true.1 hw c
  unfold floatText at h
  simp only at h
  generalize hsign : (if x.toBits >>> 63 = 1 then ['-'] else []) = sign at h
  have hs : c ∈ sign → isOrdinary c = true := by
    rw [← hsign]
    split
    · exact hword ['-'] rfl
    · exact nofun
  have hsigned : ∀ {cs : List Char}, (c ∈ cs → isOrdinary c = true) → c ∈ (String.ofList (sign ++ cs)).toList →
      isOrdinary c = true := by
    intro cs hcs hc
    rw [String.toList_ofList] at hc
    exact (List.mem_append.1 hc).elim hs hcs
  split at h
  · exact hword "NaN".toList (by decide) h
  split at h
  · exact hsigned (hword "inf".toList (by decide)) h
  split at h
  · exact hsigned (hword ['0'] rfl) h
  · exact hsigned isOrdinary_positional h

end SqlDialects.Number

namespace SqlDialects.Dialect
open Marker

theorem passes_encodeString (d : Dialect) (s : String) : Passes none (d.encodeString s).toList 0 :=
  passes_inQuotes d.passes_encodedChar s

theorem isOrdinary_hex {bytes : List UInt8} {c : Char} (h : c ∈ bytes.flatMap hexByte) : isOrdinary c = true := by
  have hdigit : ∀ n : Fin 16, isOrdinary (hexDigit n) = true := by decide
  obtain ⟨b, _, hb⟩ := List.mem_flatMap.1 h
  have hlt := b.toNat_lt
  rcases List.mem_cons.1 hb with rfl | hb
  · exact hdigit ⟨b.toNat / 16, by omega⟩
  · rw [List.mem_singleton.1 hb]
    exact hdigit ⟨b.toNat % 16, by omega⟩

theorem passes_encodeBytes (d : Dialect) (bytes : List UInt8) : Passes none (d.encodeBytes bytes).toList 0 := by
  have hhex : Passes none (bytes.flatMap hexByte) 0 := passes_of_isOrdinary (List.all_eq_true.2 fun _ => isOrdinary_hex)
  have hinside : Passes (some '\'') (bytes.flatMap hexByte) 0 := passes_inside fun hc =>
    absurd (isOrdinary_hex hc) (by decide)
  cases d with
  | mysql =>
    cases bytes with
    | nil => exact ⟨rfl, rfl⟩
    | cons b bytes =>
      have hzero : Passes none "0x".toList 0 := passes_of_isOrdinary (by decide)
      simpa [encodeBytes, hex] using hzero.append hhex
  | postgres =>
    have hescape : Passes none ['E'] 0 := passes_of_isOrdinary (by decide)
    have hx : Passes (some '\'') "\\\\x".toList 0 := passes_inside (by decide)
    simpa [encodeBytes, hex] using hescape.append (Passes.quoted (by decide) (hx.append hinside))
  | sqlite =>
    have hx : Passes none ['X'] 0 := passes_of_isOrdinary (by decide)
    simpa [encodeBytes, hex] using hx.append (Passes.quoted (by decide) hinside)

/-- No literal has a marker or leaves a quotation open. -/
theorem passes_encodeValue (d : Dialect) (v : Value) : Passes none (d.encodeValue v).toList 0 := by
  cases v with
  | null =>
    have hnull : Passes none "NULL".toList 0 := passes_of_isOrdinary (by decide)
    exact hnull
  | bool b => cases d <;> cases b <;> exact passes_of_isOrdinary (by decide)
  | int n => exact passes_of_isOrdinary (List.all_eq_true.2 fun _ => Number.isOrdinary_intText)
  | float x => exact passes_of_isOrdinary (List.all_eq_true.2 fun _ => Number.isOrdinary_floatText)
  | text s => exact d.passes_encodeString s
  | blob bytes => exact d.passes_encodeBytes bytes
  | time t => exact d.passes_encodeString t.text

end SqlDialects.Dialect
