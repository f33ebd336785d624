import Mathlib.Data.List.Perm.Basic
import Mathlib.Data.List.FinRange
import Mathlib.Data.List.Induction
import Mathlib.Logic.Equiv.Basic
import Mathlib.Data.List.Forall2
import SqlDialects.Catalog.Postgres

/-! # Groups of constraint rows

Grouping splits the rows of known kinds without losing or doubling one. Kinds and names stand in the order in which
they first appear, and the rows of one constraint in their own order; so moving rows of different constraints past
each other changes the groups in their order alone.
-/

namespace SqlDialects

variable {α κ : Type}

/-! ## Order of first appearance -/

theorem nodup_eraseDups [DecidableEq α] (xs : List α) : xs.eraseDups.Nodup := by
  induction hn : xs.length using Nat.strong_induction_on generalizing xs with
  | _ n ih =>
    cases xs with
    | nil => simp
    | cons x xs =>
      subst hn
      rw [List.eraseDups_cons, List.nodup_cons]
      have hlength : (xs.filter fun y => !y == x).length < (x :: xs).length :=
        Nat.lt_succ_of_le (List.length_filter_le _ _)
      exact ⟨by simp, ih _ hlength _ rfl⟩

theorem eraseDups_append_singleton [DecidableEq α] (xs : List α) (x : α) :
    (xs ++ [x]).eraseDups = if x ∈ xs then xs.eraseDups else xs.eraseDups ++ [x] := by
  rw [List.eraseDups_append]
  by_cases h : x ∈ xs <;> simp [List.removeAll, List.eraseDups_cons, h]

theorem perm_eraseDups [DecidableEq α] {xs ys : List α} (h : ∀ x, x ∈ xs ↔ x ∈ ys) :
    xs.eraseDups.Perm ys.eraseDups := by
  refine (List.perm_ext_iff_of_nodup (nodup_eraseDups xs) (nodup_eraseDups ys)).2 fun x => ?_
  rw [List.mem_eraseDups, List.mem_eraseDups, h]

/-! ## Groups by one key -/

section groupByKey

variable [DecidableEq κ] (key : α → κ)

@[simp] theorem groupByKey_nil : groupByKey key ([] : List α) = [] := rfl

@[simp] theorem groupByKey_append_singleton (items : List α) (item : α) :
    groupByKey key (items ++ [item]) = insertGroup (key item) item (groupByKey key items) := by
  simp [groupByKey]

theorem insertGroup_of_notMem {k : κ} (item : α) {groups : List (κ × List α)} (h : k ∉ groups.map Prod.fst) :
    insertGroup k item groups = groups ++ [(k, [item])] := by
  induction groups with
  | nil => rfl
  | cons group groups ih =>
    obtain ⟨hne, hrest⟩ := not_or.1 (List.mem_cons.not.1 h)
    rw [insertGroup, if_neg (Ne.symm hne), ih hrest, List.cons_append]

/-- Among groups with keys of their own, one item more changes the group of its key. -/
theorem insertGroup_map_of_mem {k : κ} (item : α) {keys : List κ} (hnodup : keys.Nodup) (hk : k ∈ keys)
    (members : κ → List α) : insertGroup k item (keys.map fun j => (j, members j)) =
      keys.map fun j => (j, members j ++ if j = k then [item] else []) := by
  induction keys with
  | nil => exact absurd hk List.not_mem_nil
  | cons j keys ih =>
    obtain ⟨hj, hrest⟩ := List.nodup_cons.1 hnodup
    rw [List.map_cons, List.map_cons, insertGroup]
    by_cases hjk : j = k
    · subst hjk
      have hothers : keys.map (fun i => (i, members i ++ if i = j then [item] else [])) =
          keys.map fun i => (i, members i) :=
        List.map_congr_left fun i hi => by rw [if_neg (ne_of_mem_of_not_mem hi hj), List.append_nil]
      rw [if_pos rfl, if_pos rfl, hothers]
    · have hmem : k ∈ keys := (List.mem_cons.1 hk).resolve_left (Ne.symm hjk)
      rw [if_neg hjk, if_neg hjk, List.append_nil, ih hrest hmem]

/-- Every key has one group, in order of first appearance, with its items in their own order. -/
theorem groupByKey_eq (items : List α) : groupByKey key items =
    (items.map key).eraseDups.map fun k => (k, items.filter fun item => key item = k) := by
  induction items using List.reverseRecOn with
  | nil => rfl
  | append_singleton items item ih =>
    have hfilter (k : κ) : (items ++ [item]).filter (fun i => key i = k) =
        items.filter (fun i => key i = k) ++ if k = key item then [item] else [] := by
      rw [List.filter_append]
      by_cases h : k = key item
      · subst h
        simp
      · simp [h, Ne.symm h]
    rw [groupByKey_append_singleton, ih, List.map_append, List.map_singleton, eraseDups_append_singleton]
    simp only [hfilter]
    split
    · next hold =>
      exact insertGroup_map_of_mem item (nodup_eraseDups _) (List.mem_eraseDups.2 hold) _
    · next hnew =>
      have hnone : items.filter (fun i => key i = key item) = [] :=
        List.filter_eq_nil_iff.2 fun i hi h => hnew (List.mem_map.2 ⟨i, hi, of_decide_eq_true h⟩)
      have hothers : (items.map key).eraseDups.map (fun k => (k, items.filter fun i => key i = k)) =
          (items.map key).eraseDups.map fun k =>
            (k, (items.filter fun i => key i = k) ++ if k = key item then [item] else []) := by
        refine List.map_congr_left fun k hk => ?_
        rw [if_neg (ne_of_mem_of_not_mem (List.mem_eraseDups.1 hk) hnew), List.append_nil]
      rw [insertGroup_of_notMem item (by simpa using hnew), List.map_append, hothers]
      simp [hnone]

theorem map_fst_groupByKey (items : List α) : (groupByKey key items).map Prod.fst = (items.map key).eraseDups := by
  simp [groupByKey_eq, Function.comp_def]

theorem mem_groupByKey_iff {items : List α} {k : κ} {members : List α} :
    (k, members) ∈ groupByKey key items ↔
      k ∈ items.map key ∧ members = items.filter fun item => key item = k := by
  rw [groupByKey_eq, List.mem_map]
  simp only [List.mem_eraseDups, Prod.mk.injEq]
  constructor
  · rintro ⟨j, hj, rfl, rfl⟩
    exact ⟨hj, rfl⟩
  · rintro ⟨hk, rfl⟩
    exact ⟨k, hk, rfl, rfl⟩

theorem ne_nil_of_mem_groupByKey {items : List α} {group : κ × List α} (h : group ∈ groupByKey key items) :
    group.2 ≠ [] := by
  obtain ⟨k, members⟩ := group
  obtain ⟨hk, rfl⟩ := (mem_groupByKey_iff key).1 h
  obtain ⟨item, hitem, rfl⟩ := List.mem_map.1 hk
  exact List.ne_nil_of_mem (List.mem_filter.2 ⟨hitem, by simp⟩)

theorem perm_flatMap_insertGroup (k : κ) (item : α) (groups : List (κ × List α)) :
    ((insertGroup k item groups).flatMap Prod.snd).Perm (groups.flatMap Prod.snd ++ [item]) := by
  induction groups with
  | nil => exact .refl _
  | cons group groups ih =>
    rw [insertGroup]
    split
    · simp only [List.flatMap_cons, List.append_assoc]
      exact List.perm_append_comm.append_left _
    · simp only [List.flatMap_cons, List.append_assoc]
      exact ih.append_left _

/-- Grouping loses no item and doubles none. -/
theorem perm_flatMap_groupByKey (items : List α) : ((groupByKey key items).flatMap Prod.snd).Perm items := by
  induction items using List.reverseRecOn with
  | nil => exact .refl _
  | append_singleton items item ih =>
    rw [groupByKey_append_singleton]
    exact (perm_flatMap_insertGroup _ _ _).trans (ih.append_right _)

end groupByKey

/-! ## Rearrangements -/

/-- A list has the items of another in an order that may differ, but not for two that are related. -/
def Rearranges (related : α → α → Prop) (xs ys : List α) : Prop :=
  ∃ place : Fin xs.length ≃ Fin ys.length, (∀ i, ys.get (place i) = xs.get i) ∧
    ∀ i j, i < j → related (xs.get i) (xs.get j) → place i < place j

namespace Rearranges

variable {related : α → α → Prop} {xs ys : List α}

theorem mem_iff (h : Rearranges related xs ys) (x : α) : x ∈ xs ↔ x ∈ ys := by
  obtain ⟨place, hitem, _⟩ := h
  simp only [List.mem_iff_get]
  constructor
  · rintro ⟨i, rfl⟩
    exact ⟨place i, hitem i⟩
  · rintro ⟨j, rfl⟩
    exact ⟨place.symm j, by rw [← hitem, place.apply_symm_apply]⟩

/-- Items that are all related keep their order. -/
theorem filter_eq (h : Rearranges related xs ys) {p : α → Bool}
    (hp : ∀ x y, p x = true → p y = true → related x y) : xs.filter p = ys.filter p := by
  obtain ⟨place, hitem, horder⟩ := h
  have hplaces (zs : List α) :
      zs.filter p = ((List.finRange zs.length).filter (p ∘ zs.get)).map zs.get := by
    rw [← List.filter_map, List.map_get_finRange]
  let inXs := (List.finRange xs.length).filter (p ∘ xs.get)
  let inYs := (List.finRange ys.length).filter (p ∘ ys.get)
  have hincreasing : (inXs.map place).Pairwise (· < ·) := by
    refine List.pairwise_map.2 (((List.pairwise_lt_finRange _).filter _).imp_of_mem fun {i j} hi hj hij => ?_)
    exact horder i j hij (hp _ _ (List.mem_filter.1 hi).2 (List.mem_filter.1 hj).2)
  have hincreasing' : inYs.Pairwise (· < ·) := (List.pairwise_lt_finRange _).filter _
  have hsame (j : Fin ys.length) : j ∈ inXs.map place ↔ j ∈ inYs := by
    simp only [inXs, inYs, List.mem_map, List.mem_filter, List.mem_finRange, true_and, Function.comp_apply]
    constructor
    · rintro ⟨i, hi, rfl⟩
      rwa [hitem]
    · intro hj
      exact ⟨place.symm j, by rwa [← hitem, place.apply_symm_apply], place.apply_symm_apply j⟩
  -- Two increasing lists of the same places are one list.
  have hperm : (inXs.map place).Perm inYs :=
    (List.perm_ext_iff_of_nodup (hincreasing.imp ne_of_lt) (hincreasing'.imp ne_of_lt)).2 hsame
  have heq : inXs.map place = inYs :=
    hperm.eq_of_pairwise (fun _ _ _ _ hab hba => absurd hba hab.asymm) hincreasing hincreasing'
  rw [hplaces xs, hplaces ys]
  change inXs.map xs.get = inYs.map ys.get
  rw [← heq, List.map_map]
  exact List.map_congr_left fun i _ => (hitem i).symm

end Rearranges

/-! ## Groups by kind and name -/

/-- Rows grouped by kind and then by name. -/
abbrev ConstraintGroups := List (ConstraintKind × List (String × List ConstraintRow))

namespace ConstraintGroups

/-- All rows of all groups. -/
def rows (groups : ConstraintGroups) : List ConstraintRow :=
  groups.flatMap fun kind => kind.2.flatMap Prod.snd

/-- The same groups, where kinds may stand in another order and names within their kind too. -/
def SameUpToOrder (groups groups' : ConstraintGroups) : Prop :=
  ∃ reordered, groups.Perm reordered ∧
    reordered.Forall₂ (fun kind kind' => kind.1 = kind'.1 ∧ kind.2.Perm kind'.2) groups'

/-- What groups are to the rows that they were made of, where `kindOf` tells the known kinds. -/
structure Partition (kindOf : String → Option ConstraintKind) (all : List ConstraintRow)
    (groups : ConstraintGroups) : Prop where
  /-- No known row is lost or doubled, and no other row is there. -/
  rows : groups.rows.Perm (all.filter fun r => (kindOf r.type).isSome)
  nodup_kinds : (groups.map Prod.fst).Nodup
  nodup_names : ∀ kind ∈ groups, (kind.2.map Prod.fst).Nodup
  nonempty : ∀ kind ∈ groups, kind.2 ≠ [] ∧ ∀ named ∈ kind.2, named.2 ≠ []
  kinds : groups.map Prod.fst = (all.filterMap fun r => kindOf r.type).eraseDups
  names : ∀ kind ∈ groups, kind.2.map Prod.fst =
    ((all.filter fun r => kindOf r.type = some kind.1).map (·.name)).eraseDups
  members : ∀ kind ∈ groups, ∀ named ∈ kind.2,
    named.2 = all.filter fun r => kindOf r.type = some kind.1 ∧ r.name = named.1

end ConstraintGroups

namespace ConstraintRow

variable (kindOf : String → Option ConstraintKind) (all : List ConstraintRow)

theorem map_fst_withKinds : (withKinds kindOf all).map Prod.fst = all.filterMap fun r => kindOf r.type := by
  rw [withKinds, List.map_filterMap]
  congr 1
  funext r
  cases kindOf r.type <;> rfl

theorem map_snd_withKinds : (withKinds kindOf all).map Prod.snd = all.filter fun r => (kindOf r.type).isSome := by
  rw [withKinds, List.map_filterMap, ← List.filterMap_eq_filter]
  congr 1
  funext r
  cases h : kindOf r.type <;> simp [Option.guard, h]

/-- The rows of one kind. -/
theorem map_snd_filter_withKinds (kind : ConstraintKind) :
    ((withKinds kindOf all).filter fun r => r.1 = kind).map Prod.snd =
      all.filter fun r => kindOf r.type = some kind := by
  rw [withKinds, List.filter_filterMap, List.map_filterMap, ← List.filterMap_eq_filter]
  congr 1
  funext r
  cases h : kindOf r.type with
  | none => simp [Option.guard, h]
  | some k => by_cases hk : k = kind <;> simp [Option.guard, h, hk]

theorem groups_eq : groups kindOf all =
    (all.filterMap fun r => kindOf r.type).eraseDups.map fun kind =>
      (kind, groupByKey name (all.filter fun r => kindOf r.type = some kind)) := by
  simp only [groups, groupByKey_eq Prod.fst, List.map_map, Function.comp_def, map_fst_withKinds,
    map_snd_filter_withKinds]

theorem mem_groups_iff {kind : ConstraintKind} {named : List (String × List ConstraintRow)} :
    (kind, named) ∈ groups kindOf all ↔ (∃ r ∈ all, kindOf r.type = some kind) ∧
      named = groupByKey name (all.filter fun r => kindOf r.type = some kind) := by
  rw [groups_eq, List.mem_map]
  simp only [List.mem_eraseDups, List.mem_filterMap, Prod.mk.injEq]
  constructor
  · rintro ⟨k, hk, rfl, rfl⟩
    exact ⟨hk, rfl⟩
  · rintro ⟨hk, rfl⟩
    exact ⟨kind, hk, rfl, rfl⟩

theorem perm_rows_groups :
    (ConstraintGroups.rows (groups kindOf all)).Perm (all.filter fun r => (kindOf r.type).isSome) := by
  have hflat : ConstraintGroups.rows (groups kindOf all) = (groupByKey Prod.fst (withKinds kindOf all)).flatMap
      fun kind => (groupByKey name (kind.2.map Prod.snd)).flatMap Prod.snd := by
    rw [ConstraintGroups.rows, groups, List.flatMap_map]
  rw [hflat, ← map_snd_withKinds]
  calc (groupByKey Prod.fst (withKinds kindOf all)).flatMap fun kind =>
          (groupByKey name (kind.2.map Prod.snd)).flatMap Prod.snd
    _ |>.Perm ((groupByKey Prod.fst (withKinds kindOf all)).flatMap fun kind => kind.2.map Prod.snd) :=
        List.Perm.flatMap_left _ fun kind _ => perm_flatMap_groupByKey name _
    _ = ((groupByKey Prod.fst (withKinds kindOf all)).flatMap Prod.snd).map Prod.snd := List.map_flatMap.symm
    _ |>.Perm ((withKinds kindOf all).map Prod.snd) := (perm_flatMap_groupByKey Prod.fst _).map _

theorem partition_groups : ConstraintGroups.Partition kindOf all (groups kindOf all) where
  rows := perm_rows_groups kindOf all
  kinds := by simp [groups_eq, Function.comp_def]
  nodup_kinds := by
    have hkinds : (groups kindOf all).map Prod.fst = (all.filterMap fun r => kindOf r.type).eraseDups := by
      simp [groups_eq, Function.comp_def]
    rw [hkinds]
    exact nodup_eraseDups _
  names := by
    rintro ⟨kind, named⟩ h
    obtain ⟨_, rfl⟩ := (mem_groups_iff kindOf all).1 h
    exact map_fst_groupByKey name _
  nodup_names := by
    rintro ⟨kind, named⟩ h
    obtain ⟨_, rfl⟩ := (mem_groups_iff kindOf all).1 h
    rw [map_fst_groupByKey]
    exact nodup_eraseDups _
  nonempty := by
    rintro ⟨kind, named⟩ h
    obtain ⟨⟨r, hr, hkind⟩, rfl⟩ := (mem_groups_iff kindOf all).1 h
    have hmem : r ∈ all.filter fun r => kindOf r.type = some kind := List.mem_filter.2 ⟨hr, by simpa using hkind⟩
    refine ⟨?_, fun named hnamed => ne_nil_of_mem_groupByKey name hnamed⟩
    exact List.ne_nil_of_mem ((mem_groupByKey_iff name).2 ⟨List.mem_map_of_mem hmem, rfl⟩)
  members := by
    rintro ⟨kind, named⟩ h ⟨n, members⟩ hmembers
    obtain ⟨_, rfl⟩ := (mem_groups_iff kindOf all).1 h
    obtain ⟨_, rfl⟩ := (mem_groupByKey_iff name).1 hmembers
    refine (List.filter_filter ..).trans (List.filter_congr fun r _ => ?_)
    simp [and_comm]

/-- Two rows of one constraint of a known kind. -/
def SameConstraint (r r' : ConstraintRow) : Prop :=
  (kindOf r.type).isSome = true ∧ kindOf r.type = kindOf r'.type ∧ r.name = r'.name

instance (r r' : ConstraintRow) : Decidable (SameConstraint kindOf r r') :=
  inferInstanceAs (Decidable (_ ∧ _ ∧ _))

variable {kindOf} {all} {all' : List ConstraintRow}

theorem sameUpToOrder_groups (h : Rearranges (SameConstraint kindOf) all all') :
    ConstraintGroups.SameUpToOrder (groups kindOf all) (groups kindOf all') := by
  have hkinds : (all.filterMap fun r => kindOf r.type).eraseDups.Perm
      (all'.filterMap fun r => kindOf r.type).eraseDups :=
    perm_eraseDups fun kind => by simp only [List.mem_filterMap, h.mem_iff]
  have hnamed (kind : ConstraintKind) :
      (groupByKey name (all.filter fun r => kindOf r.type = some kind)).Perm
        (groupByKey name (all'.filter fun r => kindOf r.type = some kind)) := by
    have hnames : ((all.filter fun r => kindOf r.type = some kind).map name).eraseDups.Perm
        ((all'.filter fun r => kindOf r.type = some kind).map name).eraseDups :=
      perm_eraseDups fun n => by simp only [List.mem_map, List.mem_filter, h.mem_iff]
    have hmembers (n : String) : (all.filter fun r => kindOf r.type = some kind).filter (fun r => r.name = n) =
        (all'.filter fun r => kindOf r.type = some kind).filter fun r => r.name = n := by
      rw [List.filter_filter, List.filter_filter]
      refine h.filter_eq fun r r' hr hr' => ?_
      simp only [Bool.and_eq_true, decide_eq_true_eq] at hr hr'
      exact ⟨by rw [hr.2]; rfl, hr.2.trans hr'.2.symm, hr.1.trans hr'.1.symm⟩
    simp only [groupByKey_eq name, hmembers]
    exact hnames.map _
  refine ⟨(all'.filterMap fun r => kindOf r.type).eraseDups.map fun kind =>
    (kind, groupByKey name (all.filter fun r => kindOf r.type = some kind)), ?_, ?_⟩
  · rw [groups_eq]
    exact hkinds.map _
  · rw [groups_eq, List.forall₂_map_left_iff, List.forall₂_map_right_iff, List.forall₂_same]
    exact fun kind _ => ⟨rfl, hnamed kind⟩

/-- The groups of some rows are a partition of them that keeps their order. If rows of different constraints are moved
past each other, the groups change in their order alone. -/
theorem groups_partition (kindOf : String → Option ConstraintKind) (all : List ConstraintRow) :
    ConstraintGroups.Partition kindOf all (groups kindOf all) ∧
      ∀ all', Rearranges (SameConstraint kindOf) all all' →
        ConstraintGroups.SameUpToOrder (groups kindOf all) (groups kindOf all') :=
  ⟨partition_groups kindOf all, fun _ => sameUpToOrder_groups⟩

/-- The rows of two keys, as a catalog mixes them, and a row of another sort. -/
theorem groups_partition_of_mixed_rows :
    let row (name column type : String) : ConstraintRow := { name := name, columnName := column, type := type }
    let mixed := [row "posts_pkey" "b" "p", row "posts_uq" "x" "u", row "posts_pkey" "a" "p", row "odd" "z" "x",
      row "posts_uq" "y" "u"]
    let moved := [row "posts_uq" "x" "u", row "posts_pkey" "b" "p", row "posts_pkey" "a" "p", row "posts_uq" "y" "u",
      row "odd" "z" "x"]
    let kindOf := Catalog.Postgres.constraintKind?
    Rearranges (SameConstraint kindOf) mixed moved ∧
      ConstraintGroups.Partition kindOf mixed (groups kindOf mixed) ∧
      ConstraintGroups.SameUpToOrder (groups kindOf mixed) (groups kindOf moved) ∧
      (groups kindOf mixed).map Prod.fst = [.primaryKey, .unique] ∧
      (groups kindOf moved).map Prod.fst = [.unique, .primaryKey] := by
  intro row mixed moved kindOf
  have hmoved : Rearranges (SameConstraint kindOf) mixed moved := by
    let place : Fin 5 ≃ Fin 5 := (Equiv.swap 0 1).trans (Equiv.swap 3 4)
    refine ⟨place, fun (i : Fin 5) => ?_, by decide⟩
    match i with
    | 0 | 1 | 2 | 3 | 4 => rfl
  obtain ⟨hpartition, hreordered⟩ := groups_partition kindOf mixed
  exact ⟨hmoved, hpartition, hreordered moved hmoved, by decide, by decide⟩

end ConstraintRow
end SqlDialects
