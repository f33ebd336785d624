import SqlDialects.Proofs.Query.Splicing

/-! # Markers as a database sees them

Each database has its own quotations: which characters open them, what closes them, and whether a backslash inside them
escapes the next character. The reader of markers knows three quotes and no escapes. It finds the markers that the
database sees as long as no backslash of MySQL hides a quote that would close, no backquote stands outside quotations of
PostgreSQL and no bracket opens an identifier of SQLite. -/

namespace SqlDialects.Lexing

/-- How a quotation ends: at a character, which may stand in it if written twice, or behind a backslash. -/
structure Quotation where
  close : Char
  doubles : Bool
  escapes : Bool
  deriving DecidableEq

/-- The quotation that a character opens. -/
def opened? (d : Dialect) (c : Char) : Option Quotation :=
  match d, c with
  | .mysql, '\'' | .mysql, '"' => some ⟨c, true, true⟩
  | .mysql, '\x60' => some ⟨c, true, false⟩
  | .postgres, '\'' | .postgres, '"' => some ⟨c, true, false⟩
  | .sqlite, '\'' | .sqlite, '"' | .sqlite, '\x60' => some ⟨c, true, false⟩
  | .sqlite, '[' => some ⟨']', false, false⟩
  | _, _ => none

/-- Where a database stands in a text. -/
inductive Place where
  | outside
  | inside (q : Quotation)
  /-- Behind a backslash that escapes. -/
  | escaped (q : Quotation)
  /-- Behind a character that closes the quotation, unless it is written twice. -/
  | closed (q : Quotation)
  deriving DecidableEq

namespace Place

def opening (d : Dialect) (c : Char) : Place :=
  match opened? d c with
  | some q => inside q
  | none => outside

/-- The place behind a character. -/
def next (d : Dialect) : Place → Char → Place
  | outside, c => opening d c
  | inside q, c =>
    if c = q.close then (if q.doubles then closed q else outside)
    else if q.escapes && c = '\\' then escaped q
    else inside q
  | escaped q, _ => inside q
  | closed q, c => if c = q.close then inside q else opening d c

/-- The next character is in no quotation, unless it doubles the quote before it. -/
def isOutside : Place → Bool
  | outside | closed _ => true
  | inside _ | escaped _ => false

/-- The place behind a text. -/
def read (d : Dialect) (p : Place) (cs : List Char) : Place :=
  cs.foldl (next d) p

end Place

/-- The stretches of text between the question marks that a database sees outside quotations. -/
def split (d : Dialect) : Place → List Char → List (List Char)
  | _, [] => [[]]
  | p, c :: cs =>
    if p.isOutside && c = '?' then [] :: split d (p.next d c) cs
    else match split d (p.next d c) cs with
      | part :: parts => (c :: part) :: parts
      | [] => [[c]]

/-- A character that opens a quotation only to the database, or only to the reader of markers. -/
def OpensForOne (d : Dialect) (c : Char) : Prop :=
  d = .postgres ∧ c = '\x60' ∨ d = .sqlite ∧ c = '['

/-- The character brings the database and the reader of markers apart. -/
def Parts (d : Dialect) : Place → Char → Prop
  | .outside, c => OpensForOne d c
  | .inside _, _ => False
  | .escaped q, c => c = q.close
  | .closed q, c => c ≠ q.close ∧ OpensForOne d c

/-- No character of a text brings the two apart. -/
def Steady (d : Dialect) : Place → List Char → Prop
  | _, [] => True
  | p, c :: cs => ¬ Parts d p c ∧ Steady d (p.next d c) cs

instance (d : Dialect) (c : Char) : Decidable (OpensForOne d c) :=
  inferInstanceAs (Decidable (_ ∨ _))

instance : (d : Dialect) → (p : Place) → (c : Char) → Decidable (Parts d p c)
  | d, .outside, c => inferInstanceAs (Decidable (OpensForOne d c))
  | _, .inside _, _ => inferInstanceAs (Decidable False)
  | _, .escaped q, c => inferInstanceAs (Decidable (c = q.close))
  | _, .closed _, _ => inferInstanceAs (Decidable (_ ∧ _))

instance decidableSteady (d : Dialect) : (p : Place) → (cs : List Char) → Decidable (Steady d p cs)
  | _, [] => isTrue trivial
  | p, c :: cs =>
    have := decidableSteady d (p.next d c) cs
    inferInstanceAs (Decidable (¬ Parts d p c ∧ Steady d (p.next d c) cs))

/-- A quotation that the reader of markers knows. -/
structure Quotation.Common (q : Quotation) : Prop where
  doubles : q.doubles = true
  quote : Marker.isQuote q.close = true

/-- The two are in the same quotation, or both outside of any. -/
inductive Agree : Place → Option Char → Prop
  | outside : Agree .outside none
  | inside {q : Quotation} (hq : q.Common) : Agree (.inside q) (some q.close)
  | escaped {q : Quotation} (hq : q.Common) : Agree (.escaped q) (some q.close)
  | closed {q : Quotation} (hq : q.Common) : Agree (.closed q) none

variable {d : Dialect} {p : Place} {state : Option Char} {c : Char} {cs ds : List Char}

theorem Agree.isOutside (h : Agree p state) : p.isOutside = state.isNone := by
  cases h <;> rfl

theorem not_opened (h : Marker.isQuote c = false) (hbracket : c ≠ '[') : opened? d c = none := by
  have hone : c ≠ '\'' := by rintro rfl; cases h
  have htwo : c ≠ '"' := by rintro rfl; cases h
  have hback : c ≠ '\x60' := by rintro rfl; cases h
  cases d <;> simp [opened?, hone, htwo, hback, hbracket]

/-- What opens a quotation to both opens the same. -/
theorem agree_opening (h : ¬ OpensForOne d c) : Agree (Place.opening d c) (Marker.step none c) := by
  cases hquote : Marker.isQuote c with
  | true =>
    have hopened : ∃ escapes, opened? d c = some ⟨c, true, escapes⟩ := by
      simp only [Marker.isQuote, Bool.or_eq_true, decide_eq_true_eq] at hquote
      rcases hquote with (rfl | rfl) | rfl <;> cases d <;> simp [opened?, OpensForOne] at h ⊢
    obtain ⟨escapes, hopened⟩ := hopened
    rw [Place.opening, hopened, Marker.step, if_pos hquote]
    exact .inside ⟨rfl, hquote⟩
  | false =>
    have hopened : opened? d c = none := by
      by_cases hbracket : c = '['
      · subst hbracket
        cases d <;> simp [opened?, OpensForOne] at h ⊢
      · exact not_opened hquote hbracket
    rw [Place.opening, hopened, Marker.step, hquote]
    exact .outside

/-- What opens a quotation to one of them leaves the other outside. -/
theorem apart_opening (h : OpensForOne d c) : (Place.opening d c).isOutside ≠ (Marker.step none c).isNone := by
  rcases h with ⟨rfl, rfl⟩ | ⟨rfl, rfl⟩ <;> decide

theorem agree_next (h : Agree p state) (hc : ¬ Parts d p c) : Agree (p.next d c) (Marker.step state c) := by
  cases h with
  | outside => exact agree_opening hc
  | @inside q hq =>
    by_cases hclose : c = q.close
    · rw [Place.next, if_pos hclose, if_pos hq.doubles, Marker.step, if_pos hclose]
      exact .closed hq
    · rw [Place.next, if_neg hclose, Marker.step, if_neg hclose]
      split
      · exact .escaped hq
      · exact .inside hq
  | @escaped q hq =>
    have hclose : c ≠ q.close := hc
    rw [Place.next, Marker.step, if_neg hclose]
    exact .inside hq
  | @closed q hq =>
    by_cases hclose : c = q.close
    · rw [Place.next, if_pos hclose, hclose, Marker.step, if_pos hq.quote]
      exact .inside hq
    · rw [Place.next, if_neg hclose]
      exact agree_opening fun hopens => hc ⟨hclose, hopens⟩

theorem apart_next (h : Agree p state) (hc : Parts d p c) :
    (p.next d c).isOutside ≠ (Marker.step state c).isNone := by
  cases h with
  | outside => exact apart_opening hc
  | inside hq => exact absurd hc id
  | @escaped q hq =>
    have hclose : c = q.close := hc
    rw [Place.next, Marker.step, if_pos hclose]
    exact Bool.false_ne_true
  | @closed q hq =>
    rw [Place.next, if_neg hc.1]
    exact apart_opening hc.2

/-! ## The markers of both -/

theorem split_ne_nil (d : Dialect) (p : Place) (cs : List Char) : split d p cs ≠ [] := by
  cases cs with
  | nil => simp [split]
  | cons c cs =>
    simp only [split]
    split
    · simp
    · split <;> simp

theorem length_split_cons (d : Dialect) (p : Place) (c : Char) (cs : List Char) : (split d p (c :: cs)).length =
    (split d (p.next d c) cs).length + if p.isOutside && c = '?' then 1 else 0 := by
  rw [split]
  split
  · rfl
  · cases hparts : split d (p.next d c) cs with
    | nil => exact absurd hparts (split_ne_nil d _ cs)
    | cons part parts => rfl

/-- As long as nothing brings them apart, the two see the same markers. -/
theorem split_eq_of_steady (h : Agree p state) (hcs : Steady d p cs) : Marker.split state cs = split d p cs := by
  induction cs generalizing p state with
  | nil => cases state <;> rfl
  | cons c cs ih =>
    obtain ⟨hc, hrest⟩ := hcs
    have hsame := ih (agree_next h hc) hrest
    rw [split, h.isOutside, ← hsame]
    by_cases hmark : state = none ∧ c = '?'
    · obtain ⟨rfl, rfl⟩ := hmark
      rfl
    · obtain ⟨part, parts, hparts, hsplit⟩ := Marker.split_other hmark cs
      have hnone : (state.isNone && decide (c = '?')) = false := by
        simpa using hmark
      rw [hsplit, hparts, hnone]
      rfl

theorem length_split_marker (h : p.isOutside = state.isNone) (c : Char) (cs : List Char) :
    (Marker.split state (c :: cs)).length =
      (Marker.split (Marker.step state c) cs).length + if p.isOutside && c = '?' then 1 else 0 := by
  rw [h]
  by_cases hmark : state = none ∧ c = '?'
  · obtain ⟨rfl, rfl⟩ := hmark
    rfl
  · rw [Marker.length_split_other hmark]
    simpa using hmark

/-- Behind the character that brings them apart, a question mark is a marker to one of them only. -/
theorem exists_apart (h : Agree p state) (hcs : ¬ Steady d p cs) :
    ∃ front, front <+: cs ∧ Marker.split state (front ++ ['?']) ≠ split d p (front ++ ['?']) := by
  suffices hlength : ∃ front, front <+: cs ∧
      (Marker.split state (front ++ ['?'])).length ≠ (split d p (front ++ ['?'])).length by
    obtain ⟨front, hfront, hne⟩ := hlength
    exact ⟨front, hfront, fun heq => hne (congrArg List.length heq)⟩
  induction cs generalizing p state with
  | nil => exact absurd trivial hcs
  | cons c cs ih =>
    by_cases hc : Parts d p c
    · refine ⟨[c], by simp, ?_⟩
      have hapart := apart_next h hc
      rw [List.singleton_append, length_split_marker h.isOutside, length_split_cons]
      have hmark : (Marker.split (Marker.step state c) ['?']).length =
          if (Marker.step state c).isNone then 2 else 1 := by
        cases Marker.step state c <;> rfl
      have hseen : (split d (p.next d c) ['?']).length = if (p.next d c).isOutside then 2 else 1 := by
        rw [length_split_cons]
        cases (p.next d c).isOutside <;> rfl
      rw [hmark, hseen]
      generalize (p.next d c).isOutside = seen at hapart
      generalize (Marker.step state c).isNone = read at hapart
      cases seen <;> cases read <;> simp at hapart ⊢
    · obtain ⟨front, hfront, hne⟩ := ih (agree_next h hc) fun hrest => hcs ⟨hc, hrest⟩
      refine ⟨c :: front, List.cons_prefix_cons.2 ⟨rfl, hfront⟩, ?_⟩
      rw [List.cons_append, length_split_marker h.isOutside, length_split_cons]
      omega

theorem agree_read (h : Agree p state) (hcs : Steady d p cs) : Agree (p.read d cs) (Marker.scan state cs) := by
  induction cs generalizing p state with
  | nil => exact h
  | cons c cs ih => exact ih (agree_next h hcs.1) hcs.2

theorem steady_append_iff : Steady d p (cs ++ ds) ↔ Steady d p cs ∧ Steady d (p.read d cs) ds := by
  induction cs generalizing p with
  | nil => simp [Steady, Place.read]
  | cons c cs ih => rw [List.cons_append, Steady, Steady, ih, and_assoc]; rfl

/-- A question mark opens and closes nothing. -/
theorem not_parts_mark (h : Agree p state) : ¬ Parts d p '?' := by
  have hopens : ¬ OpensForOne d '?' := by simp [OpensForOne]
  cases h with
  | outside => exact hopens
  | inside hq => exact id
  | @escaped q hq =>
    intro hclose
    have hquote : Marker.isQuote '?' = true := (show '?' = q.close from hclose) ▸ hq.quote
    cases hquote
  | closed hq => exact fun h => hopens h.2

/-- The two see the same markers in a text, wherever it is cut and goes on with a question mark, exactly if nothing in
it brings them apart. -/
theorem split_eq_iff_steady : (∀ front, front <+: cs →
    Marker.split none (front ++ ['?']) = split d .outside (front ++ ['?'])) ↔ Steady d .outside cs := by
  constructor
  · intro hall
    by_contra hcs
    obtain ⟨front, hfront, hne⟩ := exists_apart Agree.outside hcs
    exact hne (hall front hfront)
  · rintro hcs front ⟨back, rfl⟩
    obtain ⟨hfront, _⟩ := steady_append_iff.1 hcs
    have hmark : ¬ Parts d (Place.outside.read d front) '?' := not_parts_mark (agree_read Agree.outside hfront)
    exact split_eq_of_steady Agree.outside (steady_append_iff.2 ⟨hfront, hmark, trivial⟩)

/-- Writes an expression with one value for each question mark that the database sees. -/
def write (d : Dialect) (sql : String) (args : List Value) (b : BoundText) : Except Error BoundText :=
  let parts := split d .outside sql.toList
  if parts.length = args.length + 1 then .ok (Marker.interleave parts args b)
  else .error (.placeholderCount (parts.length - 1) args.length)

theorem write_eq_of_steady {sql : String} (h : Steady d .outside sql.toList) (args : List Value) (b : BoundText) :
    (Condition.expr sql args).write d b = write d sql args b := by
  have hparts := split_eq_of_steady Agree.outside h
  have hcount := Marker.length_split sql
  have hiff : Marker.count sql = args.length ↔ (Marker.split none sql.toList).length = args.length + 1 := by omega
  rw [Condition.write, Marker.write, write, ← hparts, Marker.count]
  simp only [← hiff, Marker.count]

/-- The database is outside quotations behind a text where nothing brought the two apart, and so is the reader. -/
theorem scan_of_isOutside (h : Steady d .outside cs) (houtside : (Place.outside.read d cs).isOutside = true) :
    Marker.scan none cs = none := by
  have hagree := (agree_read Agree.outside h).isOutside
  rw [houtside] at hagree
  exact Option.isNone_iff_eq_none.1 hagree.symm

/-- An expression gets its values for the question marks that the database sees outside quotations; and it does so
wherever it is cut and goes on with another one, exactly if it is steady. A string of the dialect can be put into it
outside quotations; on MySQL exactly if the string as it is, between quotes, has no marker and closes its quotations. -/
theorem write_as_lexed_iff (d : Dialect) (sql : String) :
    (Steady d .outside sql.toList → ∀ args b, (Condition.expr sql args).write d b = write d sql args b) ∧
      ((∀ front, front <+: sql.toList →
        Marker.split none (front ++ ['?']) = split d .outside (front ++ ['?'])) ↔ Steady d .outside sql.toList) ∧
      ∀ front s, Steady d .outside front → (Place.outside.read d front).isOutside = true →
        ((∀ back, Marker.Fits front (d.quoteString s).toList back) ↔
          (d = .mysql → Marker.Passes none ('\'' :: s.toList ++ ['\'']) 0)) := by
  refine ⟨fun h => write_eq_of_steady h, split_eq_iff_steady, fun front s hfront houtside => ?_⟩
  rw [Marker.fits_iff_passes (scan_of_isOutside hfront houtside)]
  by_cases hd : d = .mysql
  · subst hd
    exact (Dialect.passes_quoteString_mysql_iff s).trans ⟨fun h _ => h, fun h => h rfl⟩
  · exact iff_of_true (Dialect.passes_quoteString hd s) fun hmysql => absurd hmysql hd

/-- An escaped quote of MySQL: the value goes into the string and the marker behind it is passed over, while a doubled
quote of SQLite does no harm. A string of MySQL with one single quote cannot be put into an expression, one with two of
them can. -/
theorem write_as_lexed_iff_of_escaped_and_doubled :
    let escaped := "note = 'it\\'s ?' AND id = ?"
    let doubled := "note = 'it''s ?' AND id = ?"
    ¬ Steady .mysql .outside escaped.toList ∧
      (∃ front, front <+: escaped.toList ∧
        Marker.split none (front ++ ['?']) ≠ split .mysql .outside (front ++ ['?'])) ∧
      toRawSql .mysql (Condition.expr escaped [.bool true]) = .ok "note = 'it\\'s 1' AND id = ?" ∧
      Steady .sqlite .outside doubled.toList ∧
      (∀ args b, (Condition.expr doubled args).write .sqlite b = write .sqlite doubled args b) ∧
      (¬ ∀ back, Marker.Fits "note = ".toList (Dialect.mysql.quoteString "it's").toList back) ∧
      ∀ back, Marker.Fits "note = ".toList (Dialect.mysql.quoteString "it's 'so").toList back := by
  intro escaped doubled
  have hescaped : ¬ Steady .mysql .outside escaped.toList := by decide
  have hdoubled : Steady .sqlite .outside doubled.toList := by decide
  obtain ⟨_, hcut, hput⟩ := write_as_lexed_iff .mysql escaped
  have hnote := hput "note = ".toList
  refine ⟨hescaped, ?_, by decide +kernel, hdoubled, (write_as_lexed_iff .sqlite doubled).1 hdoubled, fun hfits => ?_, ?_⟩
  · by_contra hnone
    refine hescaped (hcut.1 fun front hfront => ?_)
    by_contra hne
    exact hnone ⟨front, hfront, hne⟩
  · have hpasses : Marker.Passes none "'it's'".toList 0 := (hnote "it's" (by decide) (by decide)).1 hfits rfl
    exact absurd hpasses.1 (by decide)
  · exact (hnote "it's 'so" (by decide) (by decide)).2 fun _ => ⟨by decide, by decide⟩

end SqlDialects.Lexing
