import SqlDialects.Json.Text
import Mathlib.Data.List.DropRight

/-!
# JSON text is read as it was written

A value is read back from its text if its integers have 64 bits, its doubles are read back from their own texts, and no
object has two members of one name. The reader gets along with the fuel that the length of the text gives it.
-/

namespace SqlDialects.Json
open Number

variable {rest : List Char}

/-! ## Numbers -/

/-- The text does not go on with what could belong to a number. -/
def EndsNumber (rest : List Char) : Prop :=
  ∀ c ∈ rest.head?, c.isDigit = false ∧ c ≠ '.' ∧ c ≠ 'e' ∧ c ≠ 'E'

theorem EndsNumber.nil : EndsNumber [] := nofun

theorem EndsNumber.cons {c : Char} (h : c.isDigit = false ∧ c ≠ '.' ∧ c ≠ 'e' ∧ c ≠ 'E') : EndsNumber (c :: rest) := by
  rintro _ ⟨⟩
  exact h

theorem takeExponent?_of_ends (h : EndsNumber rest) : takeExponent? rest = some (none, rest) := by
  cases rest with
  | nil => rfl
  | cons c cs =>
    obtain ⟨_, _, he, hE⟩ := h c rfl
    rw [takeExponent?, if_neg (by simp [he, hE])]

theorem takeWhile_digits {ds : List Char} (hds : ∀ c ∈ ds, c.isDigit = true) (h : ∀ c ∈ rest.head?, c.isDigit = false) :
    (ds ++ rest).takeWhile Char.isDigit = ds ∧ (ds ++ rest).dropWhile Char.isDigit = rest := by
  rw [List.takeWhile_append_of_pos hds, List.dropWhile_append_of_pos hds]
  cases rest with
  | nil => simp
  | cons c cs =>
    have hc : ¬ c.isDigit = true := by simp [h c rfl]
    simp [List.takeWhile_cons_of_neg hc, List.dropWhile_cons_of_neg hc]

/-- What stands in front of the digits of a number. -/
def sign (negative : Bool) : List Char :=
  if negative then ['-'] else []

theorem head?_sign {negative : Bool} {ds : List Char} (hds : ∀ c ∈ ds, c.isDigit = true) (hne : ds ≠ []) :
    (sign negative ++ (ds ++ rest)).head? = some '-' ↔ negative = true := by
  obtain ⟨d, ds, rfl⟩ := List.exists_cons_of_ne_nil hne
  have hd : d ≠ '-' := ne_of_isDigit (hds d List.mem_cons_self) rfl
  cases negative <;> simp [sign, hd]

theorem drop_sign (negative : Bool) (cs : List Char) :
    (if negative then (sign negative ++ cs).drop 1 else sign negative ++ cs) = cs := by
  cases negative <;> rfl

theorem takeNumber?_natText (negative : Bool) {n : Nat}
    (hn : if negative then 0 < n ∧ n ≤ 9223372036854775808 else n < UInt64.size) (h : EndsNumber rest) :
    takeNumber? (sign negative ++ (natText n ++ rest)) = some (integer (if negative then -n else n), rest) := by
  have hdigits : ∀ c ∈ natText n, c.isDigit = true := fun _ => isDigit_of_mem_natText
  have hempty : (natText n).isEmpty = false := by simpa using natText_ne_nil n
  obtain ⟨htake, hdrop⟩ := takeWhile_digits hdigits fun c hc => (h c hc).1
  -- Without a point behind the digits the pattern for a fraction is passed over.
  have hpoint : ∀ cs, rest = '.' :: cs → False := by
    rintro cs rfl
    exact (h '.' rfl).2.1 rfl
  rw [takeNumber?]
  simp only [head?_sign hdigits (natText_ne_nil n), Bool.decide_eq_true, drop_sign, htake, hdrop,
    digitsValue_natText, hempty, Bool.false_eq_true, if_false, takeExponent?_of_ends h]
  cases negative <;> simpa using hn

theorem takeNumber?_fraction (negative : Bool) {whole fraction : List Char}
    (hwhole : ∀ c ∈ whole, c.isDigit = true) (hfraction : ∀ c ∈ fraction, c.isDigit = true) (hne : whole ≠ [])
    (hne' : fraction ≠ []) (h : EndsNumber rest) :
    takeNumber? (sign negative ++ (whole ++ '.' :: (fraction ++ rest))) =
      some (decimal (decimalOf negative whole fraction 0), rest) := by
  have hempty : whole.isEmpty = false := by simpa using hne
  have hempty' : fraction.isEmpty = false := by simpa using hne'
  have hpoint : ∀ c ∈ ('.' :: (fraction ++ rest)).head?, c.isDigit = false := by
    rintro _ ⟨⟩
    rfl
  obtain ⟨htake, hdrop⟩ := takeWhile_digits hwhole hpoint
  obtain ⟨htake', hdrop'⟩ := takeWhile_digits hfraction fun c hc => (h c hc).1
  rw [takeNumber?]
  simp only [head?_sign hwhole hne, Bool.decide_eq_true, drop_sign, htake, hdrop, hempty, htake', hdrop', hempty',
    Bool.false_eq_true, if_false, takeExponent?_of_ends h, Bool.false_and]
  rfl

/-- An integer of 64 bits, with a sign or without. -/
def Fits64 (n : Int) : Prop :=
  -9223372036854775808 ≤ n ∧ n ≤ 18446744073709551615

theorem takeNumber?_integer {n : Int} (hn : Fits64 n) (h : EndsNumber rest) :
    takeNumber? ((toString n).toList ++ rest) = some (integer n, rest) := by
  cases n with
  | ofNat m =>
    have hm : m < UInt64.size := by
      have hhigh : (m : Int) ≤ 18446744073709551615 := hn.2
      change m < 18446744073709551616
      omega
    rw [toList_toString_ofNat]
    exact takeNumber?_natText false hm h
  | negSucc m =>
    have hm : 0 < m + 1 ∧ m + 1 ≤ 9223372036854775808 := by
      have hlow := hn.1
      omega
    rw [toList_toString_negSucc]
    exact takeNumber?_natText true hm h

/-! ## Strings -/

theorem takeString?_number (rest : List Char) {a b c d : Char} {n : Nat} (h : hexNumber [a, b, c, d] = n)
    (hn : n < 0xD800) :
    takeString? ('\\' :: 'u' :: a :: b :: c :: d :: rest) =
      (takeString? rest).map fun (s, rest) => (Char.ofNat n :: s, rest) := by
  subst h
  rw [takeString?.eq_def]
  exact if_neg fun hhigh => absurd hhigh.1 (Nat.not_le.2 hn)

theorem takeString?_control {c : Char} (h : c.toNat < 0x20) :
    takeString? ('\\' :: 'u' :: '0' :: '0' :: (Dialect.hexByte (UInt8.ofNat c.toNat) ++ rest)) =
      (takeString? rest).map fun (s, rest) => (c :: s, rest) := by
  have hall : ∀ k : Fin 0x20, hexNumber ('0' :: '0' :: Dialect.hexByte (UInt8.ofNat k)) = k := by decide
  have hread := takeString?_number rest (hall ⟨c.toNat, h⟩) (by simp only; omega)
  rwa [Char.ofNat_toNat] at hread

/-- An escaped character is read back, whatever follows it. -/
theorem takeString?_escaped (c : Char) :
    takeString? (escaped c ++ rest) = (takeString? rest).map fun (s, rest) => (c :: s, rest) := by
  unfold escaped
  split
  · rfl
  · rfl
  · rfl
  · rfl
  · rfl
  · split
    next hcontrol => exact takeString?_control hcontrol
    next =>
      rw [List.cons_append, List.nil_append, takeString?.eq_def]
      split <;> simp_all

theorem takeString?_flatMap (cs : List Char) : takeString? (cs.flatMap escaped ++ '"' :: rest) = some (cs, rest) := by
  induction cs with
  | nil => rfl
  | cons c cs ih =>
    rw [List.flatMap_cons, List.append_assoc, takeString?_escaped, ih]
    rfl

/-! ## Values -/

theorem skipBlanks_skipBlanks (cs : List Char) : skipBlanks (skipBlanks cs) = skipBlanks cs :=
  List.dropWhile_idempotent _ _

theorem takeValue?_skipBlanks (fuel : Nat) (cs : List Char) : takeValue? fuel (skipBlanks cs) = takeValue? fuel cs := by
  cases fuel with
  | zero => rfl
  | succ fuel => rw [takeValue?, skipBlanks_skipBlanks, takeValue?]

theorem takeItems?_skipBlanks (fuel : Nat) (before : List Json) (cs : List Char) :
    takeItems? fuel before (skipBlanks cs) = takeItems? fuel before cs := by
  cases fuel with
  | zero => rfl
  | succ fuel => rw [takeItems?, takeValue?_skipBlanks, takeItems?]

/-- A number begins with a digit or a minus sign. -/
theorem head_of_takeNumber? {cs : List Char} {r : Json × List Char} (h : takeNumber? cs = some r) :
    ∃ c cs', cs = c :: cs' ∧ (c.isDigit = true ∨ c = '-') := by
  cases cs with
  | nil => exact absurd h nofun
  | cons c cs =>
    refine ⟨c, cs, rfl, ?_⟩
    by_contra hc
    obtain ⟨hdigit, hminus⟩ := not_or.1 hc
    simp [takeNumber?, hminus, hdigit] at h

/-- Whatever can be read as a number is read as that number. -/
theorem takeValue?_of_takeNumber? {fuel : Nat} {cs : List Char} {r : Json × List Char} (h : takeNumber? cs = some r) :
    takeValue? (fuel + 1) cs = some r := by
  obtain ⟨c, cs, rfl, hc⟩ := head_of_takeNumber? h
  -- All other values begin with a letter, a quote or a bracket.
  have hne : ∀ o : Char, o.isDigit = false ∧ o ≠ '-' → c ≠ o := by
    rintro o ⟨hdigit, hminus⟩ rfl
    exact hc.elim (fun hc => absurd (hc.symm.trans hdigit) nofun) hminus
  have hblanks : skipBlanks (c :: cs) = c :: cs := by
    refine List.dropWhile_cons_of_neg ?_
    simp [hne]
  rw [takeValue?, hblanks]
  split <;> simp_all

theorem takeItems?_close (fuel : Nat) (before : List Json) (cs : List Char) :
    takeItems? fuel before (']' :: cs) = none := by
  cases fuel with
  | zero => rfl
  | succ fuel => cases fuel <;> rfl

theorem takeValue?_of_takeItems? {fuel : Nat} {cs : List Char} {r : Json × List Char}
    (h : takeItems? fuel [] cs = some r) : takeValue? (fuel + 1) ('[' :: cs) = some r := by
  have hopen : skipBlanks ('[' :: cs) = '[' :: cs := rfl
  simp only [takeValue?, hopen]
  split
  next hclose =>
    -- No item could have been read from a closing bracket.
    rw [← takeItems?_skipBlanks, hclose, takeItems?_close] at h
    exact absurd h nofun
  next => rwa [takeItems?_skipBlanks]

theorem takeMembers?_skipBlanks (fuel : Nat) (before : List (String × Json)) (cs : List Char) :
    takeMembers? fuel before (skipBlanks cs) = takeMembers? fuel before cs := by
  cases fuel with
  | zero => rfl
  | succ fuel => rw [takeMembers?, skipBlanks_skipBlanks, takeMembers?]

theorem takeValue?_of_takeMembers? {fuel : Nat} {cs : List Char} {r : Json × List Char}
    (h : takeMembers? fuel [] cs = some r) : takeValue? (fuel + 1) ('\x7b' :: cs) = some r := by
  have hopen : skipBlanks ('\x7b' :: cs) = '\x7b' :: cs := rfl
  simp only [takeValue?, hopen]
  split
  next hclose =>
    rw [← takeMembers?_skipBlanks, hclose] at h
    cases fuel <;> exact absurd h nofun
  next => rwa [takeMembers?_skipBlanks]

/-- The value is read back from its text, with as much fuel as the text is long, unless a number goes on behind it. -/
def ReadsBack (j : Json) : Prop :=
  ∀ (fuel : Nat) (rest : List Char), (chars j).length ≤ fuel → EndsNumber rest →
    takeValue? (fuel + 1) (chars j ++ rest) = some (j, rest)

theorem readsBack_null : ReadsBack null := fun _ _ _ _ => rfl

theorem readsBack_bool (b : Bool) : ReadsBack (bool b) := by
  intro fuel rest _ _
  cases b <;> rfl

theorem readsBack_integer {n : Int} (h : Fits64 n) : ReadsBack (integer n) :=
  fun _ _ _ hrest => takeValue?_of_takeNumber? (takeNumber?_integer h hrest)

theorem readsBack_string (s : String) : ReadsBack (string s) := by
  intro fuel rest _ _
  have hstring : takeValue? (fuel + 1) ('"' :: (s.toList.flatMap escaped ++ '"' :: rest)) =
      (takeString? (s.toList.flatMap escaped ++ '"' :: rest)).map fun (cs, rest) =>
        (string (String.ofList cs), rest) := rfl
  rw [chars, quoted, List.append_assoc, List.cons_append, List.singleton_append, hstring, takeString?_flatMap,
    Option.map_some]
  exact congrArg (fun s => some (string s, rest)) String.ofList_toList

theorem readsBack_decimal {x : Float} (negative : Bool) (whole fraction : List Char) (hfinite : x.isFinite = true)
    (htext : (floatText x).toList = sign negative ++ (whole ++ '.' :: fraction))
    (hwhole : ∀ c ∈ whole, c.isDigit = true) (hfraction : ∀ c ∈ fraction, c.isDigit = true) (hne : whole ≠ [])
    (hne' : fraction ≠ []) (hvalue : decimalOf negative whole fraction 0 = x) : ReadsBack (decimal x) := by
  intro fuel rest _ hrest
  have hnumber := takeNumber?_fraction negative hwhole hfraction hne hne' hrest
  rw [chars, if_pos hfinite, htext, List.append_assoc, List.append_assoc, List.cons_append]
  rw [hvalue] at hnumber
  exact takeValue?_of_takeNumber? hnumber

/-! ### Arrays -/

section
variable {j : Json} {fuel : Nat} {before : List Json}

theorem takeItems?_comma (h : ReadsBack j) (hfuel : (chars j).length ≤ fuel) :
    takeItems? (fuel + 2) before (chars j ++ ',' :: rest) = takeItems? (fuel + 1) (j :: before) rest := by
  rw [takeItems?, h _ _ hfuel (.cons (by decide))]
  rfl

theorem takeItems?_last (h : ReadsBack j) (hfuel : (chars j).length ≤ fuel) :
    takeItems? (fuel + 2) before (chars j ++ ']' :: rest) = some (array (before.reverse ++ [j]), rest) := by
  rw [takeItems?, h _ _ hfuel (.cons (by decide)), ← List.reverse_cons]
  rfl

theorem itemChars_cons_cons (j k : Json) (items : List Json) :
    itemChars (j :: k :: items) = chars j ++ ',' :: itemChars (k :: items) := by
  rw [itemChars]
  exact nofun

theorem takeItems?_itemChars {items : List Json} (h : ∀ i ∈ j :: items, ReadsBack i)
    (hfuel : (itemChars (j :: items)).length ≤ fuel) :
    takeItems? (fuel + 2) before (itemChars (j :: items) ++ ']' :: rest) =
      some (array (before.reverse ++ j :: items), rest) := by
  induction items generalizing j fuel before with
  | nil => exact takeItems?_last (h j List.mem_cons_self) hfuel
  | cons k items ih =>
    obtain ⟨hj, hitems⟩ := List.forall_mem_cons.1 h
    rw [itemChars_cons_cons, List.length_append, List.length_cons] at hfuel
    obtain ⟨fuel, rfl⟩ : ∃ n, fuel = n + 1 := ⟨fuel - 1, by omega⟩
    rw [itemChars_cons_cons, List.append_assoc, List.cons_append, takeItems?_comma hj (by omega), ih hitems (by omega),
      List.reverse_cons, List.append_assoc, List.singleton_append]

end

theorem readsBack_array {items : List Json} (h : ∀ j ∈ items, ReadsBack j) : ReadsBack (array items) := by
  intro fuel rest hfuel _
  cases items with
  | nil => rfl
  | cons j items =>
    rw [chars, List.length_append, List.length_cons, List.length_singleton] at hfuel
    obtain ⟨fuel, rfl⟩ : ∃ n, fuel = n + 2 := ⟨fuel - 2, by omega⟩
    rw [chars, List.append_assoc, List.cons_append]
    exact takeValue?_of_takeItems? (takeItems?_itemChars h (by omega))

/-! ### Objects -/

section
variable {m : String × Json} {fuel : Nat} {before : List (String × Json)}

theorem filter_eq_self_of_new {name : String} (hnew : name ∉ before.map Prod.fst) :
    before.filter (fun member => member.1 != name) = before := by
  refine List.filter_eq_self.2 fun member hmember => ?_
  have hne : member.1 ≠ name := fun h => hnew (h ▸ List.mem_map_of_mem hmember)
  simpa using hne

theorem not_mem_of_nodup {members : List (String × Json)}
    (h : ((before.reverse ++ m :: members).map Prod.fst).Nodup) : m.1 ∉ before.map Prod.fst := by
  rw [List.map_append, List.map_reverse] at h
  have hdisjoint := (List.nodup_append.1 h).2.2
  exact fun hmem => hdisjoint m.1 (List.mem_reverse.2 hmem) m.1 List.mem_cons_self rfl

theorem takeMembers?_comma (h : ReadsBack m.2) (hfuel : (chars m.2).length ≤ fuel) (hnew : m.1 ∉ before.map Prod.fst) :
    takeMembers? (fuel + 2) before (quoted m.1 ++ ':' :: (chars m.2 ++ ',' :: rest)) =
      takeMembers? (fuel + 1) (m :: before) rest := by
  have hopen : ∀ cs, skipBlanks ('"' :: cs) = '"' :: cs := fun _ => rfl
  have hcolon : ∀ cs, skipBlanks (':' :: cs) = ':' :: cs := fun _ => rfl
  have hcomma : skipBlanks (',' :: rest) = ',' :: rest := rfl
  have hends : EndsNumber (',' :: rest) := .cons (by decide)
  rw [takeMembers?]
  simp only [quoted, List.cons_append, List.append_assoc, List.nil_append, hopen, takeString?_flatMap, hcolon,
    Option.bind_eq_bind, Option.bind_some, String.ofList_toList, h _ _ hfuel hends, hcomma, filter_eq_self_of_new hnew]

theorem takeMembers?_last (h : ReadsBack m.2) (hfuel : (chars m.2).length ≤ fuel) (hnew : m.1 ∉ before.map Prod.fst) :
    takeMembers? (fuel + 2) before (quoted m.1 ++ ':' :: (chars m.2 ++ '\x7d' :: rest)) =
      some (object (before.reverse ++ [m]), rest) := by
  have hopen : ∀ cs, skipBlanks ('"' :: cs) = '"' :: cs := fun _ => rfl
  have hcolon : ∀ cs, skipBlanks (':' :: cs) = ':' :: cs := fun _ => rfl
  have hclose : skipBlanks ('\x7d' :: rest) = '\x7d' :: rest := rfl
  have hends : EndsNumber ('\x7d' :: rest) := .cons (by decide)
  rw [takeMembers?, ← List.reverse_cons]
  simp only [quoted, List.cons_append, List.append_assoc, List.nil_append, hopen, takeString?_flatMap, hcolon,
    Option.bind_eq_bind, Option.bind_some, String.ofList_toList, h _ _ hfuel hends, hclose, filter_eq_self_of_new hnew]

theorem memberChars_cons_cons (m k : String × Json) (members : List (String × Json)) :
    memberChars (m :: k :: members) = quoted m.1 ++ ':' :: (chars m.2 ++ ',' :: memberChars (k :: members)) := by
  rw [memberChars, List.append_assoc, List.cons_append]
  exact nofun

theorem takeMembers?_memberChars {members : List (String × Json)} (h : ∀ k ∈ m :: members, ReadsBack k.2)
    (hnodup : ((before.reverse ++ m :: members).map Prod.fst).Nodup)
    (hfuel : (memberChars (m :: members)).length ≤ fuel) :
    takeMembers? (fuel + 2) before (memberChars (m :: members) ++ '\x7d' :: rest) =
      some (object (before.reverse ++ m :: members), rest) := by
  induction members generalizing m fuel before with
  | nil =>
    have hnew : m.1 ∉ before.map Prod.fst := not_mem_of_nodup hnodup
    rw [memberChars, List.length_append, List.length_cons] at hfuel
    rw [memberChars, List.append_assoc, List.cons_append]
    exact takeMembers?_last (h m List.mem_cons_self) (by omega) hnew
  | cons k members ih =>
    have hnew : m.1 ∉ before.map Prod.fst := not_mem_of_nodup hnodup
    obtain ⟨hm, hmembers⟩ := List.forall_mem_cons.1 h
    have hmoved : (m :: before).reverse ++ k :: members = before.reverse ++ m :: k :: members := by
      rw [List.reverse_cons, List.append_assoc, List.singleton_append]
    rw [memberChars_cons_cons] at hfuel ⊢
    simp only [List.length_append, List.length_cons] at hfuel
    obtain ⟨fuel, rfl⟩ : ∃ n, fuel = n + 1 := ⟨fuel - 1, by omega⟩
    rw [List.append_assoc, List.cons_append, List.append_assoc, List.cons_append, takeMembers?_comma hm (by omega) hnew,
      ih hmembers (hmoved ▸ hnodup) (by omega), hmoved]

end

theorem readsBack_object {members : List (String × Json)} (h : ∀ m ∈ members, ReadsBack m.2)
    (hnodup : (members.map Prod.fst).Nodup) : ReadsBack (object members) := by
  intro fuel rest hfuel _
  cases members with
  | nil => rfl
  | cons m members =>
    rw [chars, List.length_append, List.length_cons, List.length_singleton] at hfuel
    obtain ⟨fuel, rfl⟩ : ∃ n, fuel = n + 2 := ⟨fuel - 2, by omega⟩
    rw [chars, List.append_assoc, List.cons_append]
    exact takeValue?_of_takeMembers? (takeMembers?_memberChars h hnodup (by omega))

/-- A text is read back as a whole. -/
theorem ofText?_text {j : Json} (h : ReadsBack j) : ofText? j.text = some j := by
  have hread := h _ _ (le_refl _) EndsNumber.nil
  rw [List.append_nil] at hread
  rw [ofText?, text, String.toList_ofList, String.length_ofList, hread]
  rfl

end SqlDialects.Json
