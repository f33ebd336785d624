import Mathlib.Data.List.Forall2
import SqlDialects.Error

/-! # Results that may be errors

What is known of a result that was computed from others, and of a list of results that are all there. -/

namespace SqlDialects

variable {ε α β γ : Type}

theorem except_map_map (x : Except ε α) (f : α → β) (g : β → γ) :
    (x.map f).map g = x.map fun a => g (f a) := by
  cases x <;> rfl

theorem except_map_bind (x : Except ε α) (f : α → β) (g : β → Except ε γ) :
    (x.map f) >>= g = x >>= fun a => g (f a) := by
  cases x <;> rfl

theorem except_bind_map (x : Except ε α) (g : α → Except ε β) (f : β → γ) :
    (x >>= g).map f = x >>= fun a => (g a).map f := by
  cases x <;> rfl

theorem except_bind_eq_ok {x : Except ε α} {f : α → Except ε β} {b : β} :
    x >>= f = .ok b ↔ ∃ a, x = .ok a ∧ f a = .ok b := by
  cases x with
  | error e => exact ⟨nofun, nofun⟩
  | ok a => exact ⟨fun h => ⟨a, rfl, h⟩, fun ⟨_, ha, h⟩ => Except.ok.inj ha ▸ h⟩

theorem except_bind_eq_error {x : Except ε α} {f : α → Except ε β} {e : ε} :
    x >>= f = .error e ↔ x = .error e ∨ ∃ a, x = .ok a ∧ f a = .error e := by
  cases x with
  | error e' => simp [bind, Except.bind]
  | ok a => simp [bind, Except.bind]

theorem except_map_eq_ok {x : Except ε α} {f : α → β} {b : β} : x.map f = .ok b ↔ ∃ a, x = .ok a ∧ f a = b := by
  cases x with
  | error e => exact ⟨nofun, nofun⟩
  | ok a => simp [Except.map]

theorem except_map_eq_error {x : Except ε α} {f : α → β} {e : ε} : x.map f = .error e ↔ x = .error e := by
  cases x <;> simp [Except.map]

theorem except_mapError_eq_ok {ε' : Type} {x : Except ε α} {f : ε → ε'} {a : α} : x.mapError f = .ok a ↔ x = .ok a := by
  cases x <;> simp [Except.mapError]

theorem inContext_eq_ok {doing : String} {x : Except Error α} {a : α} : inContext doing x = .ok a ↔ x = .ok a := by
  cases x <;> simp [inContext]

theorem mapM_eq_ok_iff {f : α → Except ε β} {xs : List α} {ys : List β} :
    xs.mapM f = .ok ys ↔ List.Forall₂ (fun x y => f x = .ok y) xs ys := by
  induction xs generalizing ys with
  | nil => simp [pure, Except.pure, eq_comm]
  | cons x xs ih =>
    rw [List.mapM_cons, except_bind_eq_ok, List.forall₂_cons_left_iff]
    simp only [except_bind_eq_ok, ih]
    constructor
    · rintro ⟨y, hy, ys', hys, h⟩
      exact ⟨y, ys', hy, hys, (Except.ok.inj h).symm⟩
    · rintro ⟨y, ys', hy, hys, rfl⟩
      exact ⟨y, hy, ys', hys, rfl⟩

theorem mapM_cons_eq_ok_iff {f : α → Except ε β} {x : α} {xs : List α} {ys : List β} :
    (x :: xs).mapM f = .ok ys ↔ ∃ y ys', f x = .ok y ∧ xs.mapM f = .ok ys' ∧ ys = y :: ys' := by
  simp only [mapM_eq_ok_iff, List.forall₂_cons_left_iff]

/-- Two steps for each member of a list, in two passes or in one. -/
theorem mapM_bind_eq_ok_iff {f : α → Except ε β} {g : β → Except ε γ} {xs : List α} {zs : List γ} :
    (∃ ys, xs.mapM f = .ok ys ∧ ys.mapM g = .ok zs) ↔ xs.mapM (fun x => f x >>= g) = .ok zs := by
  induction xs generalizing zs with
  | nil => simp [pure, Except.pure]
  | cons x xs ih =>
    simp only [mapM_cons_eq_ok_iff, except_bind_eq_ok]
    constructor
    · rintro ⟨_, ⟨y, ys, hy, hys, rfl⟩, hzs⟩
      obtain ⟨z, zs, hz, hrest, rfl⟩ := mapM_cons_eq_ok_iff.1 hzs
      exact ⟨z, zs, ⟨y, hy, hz⟩, ih.1 ⟨ys, hys, hrest⟩, rfl⟩
    · rintro ⟨z, zs, ⟨y, hy, hz⟩, hzs, rfl⟩
      obtain ⟨ys, hys, hzs⟩ := ih.2 hzs
      exact ⟨y :: ys, ⟨y, ys, hy, hys, rfl⟩, mapM_cons_eq_ok_iff.2 ⟨z, zs, hz, hzs, rfl⟩⟩

/-- Results of one member each, one after the other. -/
theorem mapM_singleton (f : α → Except ε β) (g : β → γ) (xs : List α) :
    (xs.mapM fun x => (f x).map fun y => [g y]).map List.flatten = (xs.mapM f).map (List.map g) := by
  induction xs with
  | nil => rfl
  | cons x xs ih =>
    rw [List.mapM_cons, List.mapM_cons]
    cases f x with
    | error e => rfl
    | ok y =>
      cases hrest : xs.mapM f with
      | error e =>
        rw [hrest] at ih
        rw [except_map_eq_error.1 ih]
        rfl
      | ok ys =>
        rw [hrest] at ih
        obtain ⟨yss, hyss, hflat⟩ := except_map_eq_ok.1 ih
        rw [hyss]
        exact congrArg (fun zs => Except.ok (g y :: zs)) hflat

/-- The error of a list of results is the first error in it. -/
theorem mapM_eq_error_iff {f : α → Except ε β} {xs : List α} {e : ε} :
    xs.mapM f = .error e ↔
      ∃ before x after, xs = before ++ x :: after ∧ (∀ y ∈ before, ∃ b, f y = .ok b) ∧ f x = .error e := by
  induction xs with
  | nil => simp [pure, Except.pure]
  | cons x xs ih =>
    rw [List.mapM_cons, except_bind_eq_error]
    constructor
    · rintro (hx | ⟨b, hx, h⟩)
      · exact ⟨[], x, xs, rfl, by simp, hx⟩
      · obtain h | ⟨bs, _, h⟩ := except_bind_eq_error.1 h
        · obtain ⟨before, y, after, rfl, hbefore, hy⟩ := ih.1 h
          refine ⟨x :: before, y, after, rfl, ?_, hy⟩
          exact List.forall_mem_cons.2 ⟨⟨b, hx⟩, hbefore⟩
        · cases h
    · rintro ⟨before, y, after, hsplit, hbefore, hy⟩
      cases before with
      | nil =>
        cases hsplit
        exact .inl hy
      | cons x' before =>
        cases hsplit
        obtain ⟨⟨b, hx⟩, hbefore⟩ := List.forall_mem_cons.1 hbefore
        exact .inr ⟨b, hx, except_bind_eq_error.2 (.inl (ih.2 ⟨before, y, after, rfl, hbefore, hy⟩))⟩

theorem forall_mem_of_forall₂ {S : α → β → Prop} {P : β → Prop} {as : List α} {bs : List β}
    (h : List.Forall₂ S as bs) (hP : ∀ a b, S a b → P b) : ∀ b ∈ bs, P b := by
  induction h with
  | nil => simp
  | cons hab _ ih => exact List.forall_mem_cons.2 ⟨hP _ _ hab, ih⟩

theorem exists_mem_of_forall₂ {S : α → β → Prop} {as : List α} {bs : List β} (h : List.Forall₂ S as bs) :
    ∀ a ∈ as, ∃ b ∈ bs, S a b := by
  induction h with
  | nil => simp
  | @cons a b as bs hab _ ih =>
    refine List.forall_mem_cons.2 ⟨⟨b, List.mem_cons_self, hab⟩, fun a' ha' => ?_⟩
    obtain ⟨b', hb', hab'⟩ := ih a' ha'
    exact ⟨b', List.mem_cons_of_mem b hb', hab'⟩

theorem forall₂_left_append {R : α → β → Prop} {as as' : List α} {cs : List β}
    (h : List.Forall₂ R (as ++ as') cs) : ∃ bs bs', cs = bs ++ bs' ∧ List.Forall₂ R as bs ∧ List.Forall₂ R as' bs' := by
  induction as generalizing cs with
  | nil => exact ⟨[], cs, rfl, .nil, h⟩
  | cons a as ih =>
    cases h with
    | @cons _ c _ cs hc hcs =>
      obtain ⟨bs, bs', rfl, has, has'⟩ := ih hcs
      exact ⟨c :: bs, bs', rfl, .cons hc has, has'⟩

/-- A relation of results two by two, from one of what they are results of. -/
theorem pairwise_iff_of_forall₂ {S : α → β → Prop} {R : α → α → Prop} {R' : β → β → Prop} {as : List α}
    {bs : List β} (h : List.Forall₂ S as bs) (hS : ∀ a a' b b', S a b → S a' b' → (R a a' ↔ R' b b')) :
    as.Pairwise R ↔ bs.Pairwise R' := by
  induction h with
  | nil => simp
  | @cons a b as bs hab hs ih =>
    have hhead : (∀ a' ∈ as, R a a') ↔ ∀ b' ∈ bs, R' b b' := by
      clear ih
      induction hs with
      | nil => simp
      | cons hab' _ ihs => simp [hS _ _ _ _ hab hab', ihs]
    rw [List.pairwise_cons, List.pairwise_cons, hhead, ih]

end SqlDialects
