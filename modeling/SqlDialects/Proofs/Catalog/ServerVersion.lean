import Mathlib.Tactic.Ring
import SqlDialects.Proofs.Catalog.Loading
import SqlDialects.Proofs.Text.Occurrence

/-! # What the version of a server is taken for

The banner of a server names its release, a number with further numbers behind points. It is read as one decimal
number, so a release with two points has no version, and no table of its server can be read. With one point or none
the identity test is asked for from the twelfth release on, and one release before it too if the number behind the
point is so long and so large that the nearest double is twelve.
-/

namespace SqlDialects

namespace Number

/-- A run of digits. -/
def IsNumber (cs : List Char) : Prop :=
  cs ≠ [] ∧ ∀ c ∈ cs, c.isDigit = true

/-- The text does not go on with a digit. -/
def StopsDigits (cs : List Char) : Prop :=
  ∀ c ∈ cs.head?, c.isDigit = false

theorem foldl_appendDigit (n : Nat) (cs : List Char) :
    cs.foldl appendDigit n = n * 10 ^ cs.length + digitsValue cs := by
  induction cs using List.reverseRecOn with
  | nil => simp [digitsValue]
  | append_singleton cs c ih =>
    rw [digitsValue, List.foldl_concat, List.foldl_concat, ih, ← digitsValue, List.length_append, pow_add]
    simp only [appendDigit, List.length_singleton, pow_one]
    ring

theorem digitsValue_append (xs ys : List Char) :
    digitsValue (xs ++ ys) = digitsValue xs * 10 ^ ys.length + digitsValue ys := by
  rw [digitsValue, List.foldl_append, foldl_appendDigit]
  rfl

theorem digitsValue_lt {cs : List Char} (h : ∀ c ∈ cs, c.isDigit = true) : digitsValue cs < 10 ^ cs.length := by
  induction cs with
  | nil => simp [digitsValue]
  | cons c cs ih =>
    obtain ⟨hc, hcs⟩ := List.forall_mem_cons.1 h
    have hrest := ih hcs
    have hdigit : digitsValue [c] ≤ 9 := by
      have hnine : c.toNat ≤ 57 := (Char.isDigit_iff_toNat.1 hc).2
      simp [digitsValue, appendDigit]
      omega
    have hsplit : digitsValue (c :: cs) = digitsValue [c] * 10 ^ cs.length + digitsValue cs :=
      digitsValue_append [c] cs
    have hmul : digitsValue [c] * 10 ^ cs.length ≤ 9 * 10 ^ cs.length := Nat.mul_le_mul_right _ hdigit
    rw [hsplit, List.length_cons, pow_succ]
    omega

theorem stopsDigits_nil : StopsDigits [] :=
  nofun

theorem takeWhile_isDigit {ds cs : List Char} (h : ∀ c ∈ ds, c.isDigit = true) (hstop : StopsDigits cs) :
    (ds ++ cs).takeWhile Char.isDigit = ds ∧ (ds ++ cs).dropWhile Char.isDigit = cs := by
  rw [List.takeWhile_append_of_pos h, List.dropWhile_append_of_pos h]
  cases cs with
  | nil => simp
  | cons c cs =>
    have hc : ¬ c.isDigit = true := by simp [hstop c rfl]
    simp [List.takeWhile_cons_of_neg hc, List.dropWhile_cons_of_neg hc]

theorem readMagnitude?_of_isNumber {major : List Char} (h : IsNumber major) :
    readMagnitude? major = some ⟨digitsValue major, 0⟩ := by
  obtain ⟨hwhole, hrest⟩ := takeWhile_isDigit h.2 stopsDigits_nil
  rw [List.append_nil] at hwhole hrest
  simp [readMagnitude?, hwhole, hrest, h.1, readExponent?]

theorem readMagnitude?_of_point {major part tail : List Char} (h : IsNumber major) (hpart : IsNumber part)
    (htail : StopsDigits tail) : readMagnitude? (major ++ '.' :: (part ++ tail)) =
      (readExponent? tail).map fun e => ⟨digitsValue (major ++ part), e - part.length⟩ := by
  have hpoint : StopsDigits ('.' :: (part ++ tail)) := by simp [StopsDigits]
  obtain ⟨hwhole, hrest⟩ := takeWhile_isDigit h.2 hpoint
  obtain ⟨hfraction, hafter⟩ := takeWhile_isDigit hpart.2 htail
  simp [readMagnitude?, hwhole, hrest, hfraction, hafter, h.1]

end Number

namespace Catalog.Postgres
open Number

/-- A release of the server: a number, numbers behind points, and perhaps a mark as test versions have it. -/
structure Release where
  major : List Char
  parts : List (List Char)
  mark : List Char
  isNumber_major : IsNumber major
  isNumber_part : ∀ part ∈ parts, IsNumber part
  head_mark : ∀ c ∈ mark.head?, c.isDigit = false ∧ c ≠ '.'

namespace Release

/-- The numbers of a release. -/
def number (r : Release) : List Char :=
  r.major ++ r.parts.flatMap ('.' :: ·)

/-- A banner that names a release. -/
def banner (r : Release) (rest : List Char) : List Char :=
  "PostgreSQL".toList ++ ' ' :: (r.number ++ (r.mark ++ rest))

/-- Nothing follows, or a blank does. -/
def EndsWord (rest : List Char) : Prop :=
  ∀ c ∈ rest.head?, c = ' '

/-- The number behind the point, if there is one. -/
def fraction (r : Release) : List Char :=
  r.parts.head?.getD []

/-- The release before the twelfth one, with a fraction so close to one that the double nearest to it is twelve. -/
def RoundsUp (r : Release) : Prop :=
  digitsValue r.major = 11 ∧
    (10 ^ r.fraction.length - digitsValue r.fraction) * 2 ^ 50 ≤ 10 ^ r.fraction.length

instance (r : Release) : Decidable r.RoundsUp :=
  inferInstanceAs (Decidable (_ ∧ _))

theorem digitsValue_fraction_lt (r : Release) : digitsValue r.fraction < 10 ^ r.fraction.length := by
  refine digitsValue_lt fun c hc => ?_
  cases hparts : r.parts with
  | nil => simp [fraction, hparts] at hc
  | cons part parts =>
    have hpart : c ∈ part := by simpa [fraction, hparts] using hc
    exact (r.isNumber_part part (by simp [hparts])).2 c hpart

/-- No number of fifteen digits is that close to one. -/
theorem RoundsUp.le_length {r : Release} (h : r.RoundsUp) : 16 ≤ r.fraction.length := by
  have hfraction := r.digitsValue_fraction_lt
  have hscale : 2 ^ 50 ≤ 10 ^ r.fraction.length :=
    le_trans (Nat.le_mul_of_pos_left _ (Nat.sub_pos_of_lt hfraction)) h.2
  by_contra hshort
  have hsmall : 10 ^ r.fraction.length ≤ 10 ^ 15 := Nat.pow_le_pow_right (by decide) (by omega)
  omega

end Release

variable {r : Release} {rest : List Char} {banner : String}

theorem head?_splitAt (sep : Char) (cs : List Char) :
    (Text.splitAt sep cs)[0]? = some (cs.takeWhile (· != sep)) := by
  induction cs with
  | nil => rfl
  | cons c cs ih =>
    by_cases hc : c = sep
    · simp [Text.splitAt, hc]
    · cases hparts : Text.splitAt sep cs with
      | nil => exact absurd hparts (Text.splitAt_ne_nil sep cs)
      | cons part parts =>
        rw [hparts] at ih
        simpa [Text.splitAt, hc, hparts] using ih

theorem versionText_of_banner (hrest : Release.EndsWord rest) (h : banner.toList = r.banner rest) :
    versionText banner = r.number := by
  have hname : ' ' ∉ "PostgreSQL".toList := by decide
  have hwords : Text.splitAt ' ' banner.toList =
      ["PostgreSQL".toList] ++ Text.splitAt ' ' (r.number ++ (r.mark ++ rest)) := by
    rw [h]
    unfold Release.banner
    exact (Text.splitAt_append ' ' _ _).trans (congrArg (· ++ _) (Text.splitAt_of_notMem hname))
  have hkept : ∀ c ∈ r.number, (c.isDigit || decide (c = '.')) = true := by
    intro c hc
    rcases List.mem_append.1 hc with hc | hc
    · simp [r.isNumber_major.2 c hc]
    · obtain ⟨part, hpart, hc⟩ := List.mem_flatMap.1 hc
      rcases List.mem_cons.1 hc with rfl | hc
      · rfl
      · simp [(r.isNumber_part part hpart).2 c hc]
  have hstop : ((r.mark ++ rest).takeWhile fun c => c.isDigit || c = '.') = [] := by
    have hhead : ∀ c ∈ (r.mark ++ rest).head?, c.isDigit = false ∧ c ≠ '.' := by
      cases hmark : r.mark with
      | nil =>
        intro c hc
        obtain rfl := hrest c hc
        decide
      | cons c mark =>
        intro d hd
        exact r.head_mark d (by simpa [hmark] using hd)
    cases hcs : r.mark ++ rest with
    | nil => rfl
    | cons c cs =>
      obtain ⟨hdigit, hpoint⟩ := hhead c (by simp [hcs])
      simp [hdigit, hpoint]
  have hblank : (fun c : Char => decide ((c.isDigit || decide (c = '.')) = true ∧ (c != ' ') = true)) =
      fun c => c.isDigit || decide (c = '.') := by
    funext c
    by_cases hc : c = ' '
    · subst hc
      decide
    · simp [hc]
  rw [versionText, hwords, List.getElem?_append_right (by simp), List.length_singleton, Nat.sub_self, head?_splitAt,
    Option.getD_some, List.takeWhile_takeWhile, hblank, List.takeWhile_append_of_pos hkept, hstop, List.append_nil]

theorem readMagnitude?_number (r : Release) : readMagnitude? r.number =
    if r.parts.length ≤ 1 then some ⟨digitsValue (r.major ++ r.fraction), -r.fraction.length⟩ else none := by
  rcases hparts : r.parts with _ | ⟨part, _ | ⟨next, others⟩⟩
  · simp [Release.number, Release.fraction, hparts, readMagnitude?_of_isNumber r.isNumber_major]
  · have hpart := r.isNumber_part part (by simp [hparts])
    have hread := readMagnitude?_of_point r.isNumber_major hpart stopsDigits_nil
    simpa [Release.number, Release.fraction, hparts, readExponent?] using hread
  · have hpart := r.isNumber_part part (by simp [hparts])
    have hstop : StopsDigits (('.' :: next) ++ others.flatMap ('.' :: ·)) := by simp [StopsDigits]
    have hread := readMagnitude?_of_point r.isNumber_major hpart hstop
    simpa [Release.number, hparts, readExponent?] using hread

/-- The nearest double is compared with twelve. -/
theorem hasIdentity_iff (r : Release) :
    hasIdentity ⟨digitsValue (r.major ++ r.fraction), -r.fraction.length⟩ = true ↔
      12 ≤ digitsValue r.major ∨ r.RoundsUp := by
  have hfraction := r.digitsValue_fraction_lt
  have hscaled : hasIdentity ⟨digitsValue (r.major ++ r.fraction), -r.fraction.length⟩ = true ↔
      (12 * 2 ^ 50 - 1) * 10 ^ r.fraction.length ≤
        (digitsValue r.major * 10 ^ r.fraction.length + digitsValue r.fraction) * 2 ^ 50 := by
    have hplaces : (-(-(r.fraction.length : Int))).toNat = r.fraction.length := by simp
    have hnone : (-(r.fraction.length : Int)).toNat = 0 := by simp
    have hfifty : (-(-50 : Int)).toNat = 50 := rfl
    rw [hasIdentity, bne_iff_ne, Ne, compareScaled, compare_lt_iff_lt, Nat.not_lt, hplaces, hnone, hfifty,
      digitsValue_append]
    simp
  rw [hscaled, Release.RoundsUp]
  generalize digitsValue r.major = major at *
  generalize digitsValue r.fraction = fraction at *
  generalize 10 ^ r.fraction.length = scale at *
  rcases lt_trichotomy major 11 with hmajor | rfl | hmajor
  · have hbelow : major * scale ≤ 10 * scale := Nat.mul_le_mul_right _ (by omega)
    omega
  · omega
  · have habove : 12 * scale ≤ major * scale := Nat.mul_le_mul_right _ (by omega)
    omega

theorem serverVersion_of_banner (hrest : Release.EndsWord rest) (h : banner.toList = r.banner rest) :
    serverVersion banner =
      if r.parts.length ≤ 1 then .ok ⟨digitsValue (r.major ++ r.fraction), -r.fraction.length⟩
      else .error (.invalidValue ("cannot read server version from '" ++ banner ++ "'")) := by
  rw [serverVersion, versionText_of_banner hrest h, readMagnitude?_number]
  split_ifs <;> rfl

/-- The question for the columns of a table, with a further test for columns that count. -/
def columnsCallWith (test table : String) (schema : Option String) : Call :=
  ⟨.query, columnsSql test ++ Dialect.postgres.quoteString table ++
    inSchema " AND d.nspname = " schema ++ " ORDER BY a.attnum;", []⟩

/-- If a release has one point or none, its version is read and the columns are asked for, with the identity test
exactly from the twelfth release on or where the version is rounded up to it; that takes sixteen digits behind the
point. If it has two points or more, the load fails with the error that names the banner, and nothing more is asked. -/
theorem columns_asked_of_release (r : Release) {rest : List Char} (hrest : Release.EndsWord rest) {db : Connection}
    {calls : List Call} {rows : List Row} (hrows : db.query calls versionCall = .ok rows)
    (hbanner : (Postgres.banner rows).toList = r.banner rest) (table : String) (schema : Option String) :
    (r.parts.length ≤ 1 → (∃ version, serverVersion (Postgres.banner rows) = .ok version) ∧
      (loadColumns table schema db calls).2 = calls ++ [versionCall, columnsCallWith
        (if 12 ≤ digitsValue r.major ∨ r.RoundsUp then "OR attidentity != ''" else "") table schema]) ∧
      (r.RoundsUp → 16 ≤ r.fraction.length) ∧
      (2 ≤ r.parts.length → loadColumns table schema db calls = (.error (.error (.invalidValue
        ("cannot read server version from '" ++ Postgres.banner rows ++ "'"))), calls ++ [versionCall])) := by
  have hversion := serverVersion_of_banner hrest hbanner
  have hasked := (Exchange.inContext_query_eq_ok_iff "querying the server version").2 ⟨hrows, rfl⟩
  refine ⟨fun hparts => ?_, Release.RoundsUp.le_length, fun hparts => ?_⟩
  · rw [if_pos hparts] at hversion
    refine ⟨⟨_, hversion⟩, ?_⟩
    have hknown : Exchange.ofExcept (serverVersion (Postgres.banner rows)) db (calls ++ [versionCall]) = (.ok _, _) :=
      Exchange.ofExcept_eq_iff.2 ⟨except_mapError_eq_ok.2 hversion, rfl⟩
    have htest : identityTest ⟨digitsValue (r.major ++ r.fraction), -r.fraction.length⟩ =
        if 12 ≤ digitsValue r.major ∨ r.RoundsUp then "OR attidentity != ''" else "" := by
      simp only [identityTest, hasIdentity_iff]
    rw [← htest]
    refine (congrArg Prod.snd ((Exchange.andThen_ok hasked).trans (Exchange.andThen_ok hknown))).trans ?_
    refine (Exchange.snd_bind_ofExcept _ _ _ _).trans ((Exchange.snd_inContext _ _ _ _).trans ?_)
    exact (Exchange.snd_query _ _ _ _).trans (List.append_assoc _ _ _)
  · rw [if_neg (Nat.not_le.2 hparts)] at hversion
    have hunknown : Exchange.ofExcept (serverVersion (Postgres.banner rows)) db (calls ++ [versionCall]) =
        (.error (.error _), _) :=
      Exchange.ofExcept_eq_iff.2 ⟨by rw [hversion]; rfl, rfl⟩
    exact (Exchange.andThen_ok hasked).trans (Exchange.andThen_error hunknown)

/-- A release with two points, a test version without any, and one that is rounded up. -/
theorem columns_asked_of_release_of_three_banners :
    let answering (banner : String) : Connection :=
      ⟨fun _ _ => .ok (), fun _ _ => .ok [⟨[("version", .text banner)]⟩]⟩
    loadColumns "t" none (answering "PostgreSQL 9.6.24 on x86_64") [] =
        (.error (.error (.invalidValue "cannot read server version from 'PostgreSQL 9.6.24 on x86_64'")),
          [versionCall]) ∧
      (loadColumns "t" none (answering "PostgreSQL 16beta1") []).2 =
        [versionCall, columnsCallWith "OR attidentity != ''" "t" none] ∧
      (loadColumns "t" none (answering "PostgreSQL 11.9999999999999999 on arm") []).2 =
        [versionCall, columnsCallWith "OR attidentity != ''" "t" none] := by
  intro answering
  let dotted : Release := ⟨['9'], [['6'], ['2', '4']], [], by simp [IsNumber], by simp [IsNumber], by simp⟩
  let marked : Release := ⟨['1', '6'], [], "beta1".toList, by simp [IsNumber], by simp, by simp⟩
  let rounded : Release :=
    ⟨['1', '1'], [List.replicate 16 '9'], [], by simp [IsNumber], by simp [IsNumber], by simp⟩
  have hanswer (banner : String) : (answering banner).query [] versionCall = .ok [⟨[("version", .text banner)]⟩] := rfl
  have hmachine : Release.EndsWord " on x86_64".toList := by simp [Release.EndsWord]
  have hend : Release.EndsWord [] := by simp [Release.EndsWord]
  have harm : Release.EndsWord " on arm".toList := by simp [Release.EndsWord]
  have hdotted := columns_asked_of_release dotted hmachine (hanswer "PostgreSQL 9.6.24 on x86_64") (by decide) "t" none
  have hmarked := columns_asked_of_release marked hend (hanswer "PostgreSQL 16beta1") (by decide) "t" none
  have hrounded := columns_asked_of_release rounded harm (hanswer "PostgreSQL 11.9999999999999999 on arm") (by decide)
    "t" none
  have htwelve : 12 ≤ digitsValue marked.major ∨ marked.RoundsUp := by decide
  have hup : 12 ≤ digitsValue rounded.major ∨ rounded.RoundsUp := by decide
  refine ⟨hdotted.2.2 (by decide), ?_, ?_⟩
  · rw [(hmarked.1 (by decide)).2, if_pos htwelve]
    rfl
  · rw [(hrounded.1 (by decide)).2, if_pos hup]
    rfl

end Catalog.Postgres
end SqlDialects
