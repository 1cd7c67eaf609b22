import Mathlib.Data.List.Sort
import Mathlib.Data.List.Nodup
import Mathlib.Data.List.Dedup

/-!
# Veyra.Lib.Sorted

Sorting by a key, and why a list sorted by a key that no two elements share
is determined by its elements alone.
-/

namespace Sorted

variable {α κ : Type} [LinearOrder κ]

/-- Stable sort by a key: `sort_by(|l, r| key(l).cmp(&key(r)))`. -/
def sortBy (key : α → κ) (xs : List α) : List α :=
  xs.insertionSort fun a b => key a ≤ key b

/-- Drop an element equal to its predecessor: `Vec::dedup`. -/
def dedupAdjacent [DecidableEq α] : List α → List α
  | [] => []
  | [a] => [a]
  | a :: b :: rest => if a = b then dedupAdjacent (b :: rest) else a :: dedupAdjacent (b :: rest)

/-- `sort` then `dedup`. -/
def sortDedup [DecidableEq α] (key : α → κ) (xs : List α) : List α :=
  dedupAdjacent (sortBy key xs)

theorem perm_sortBy (key : α → κ) (xs : List α) : (sortBy key xs).Perm xs :=
  List.perm_insertionSort _ xs

@[simp] theorem mem_sortBy {key : α → κ} {xs : List α} {a : α} : a ∈ sortBy key xs ↔ a ∈ xs :=
  (perm_sortBy key xs).mem_iff

theorem pairwise_sortBy (key : α → κ) (xs : List α) :
    (sortBy key xs).Pairwise fun a b => key a ≤ key b :=
  haveI : Std.Total (fun a b : α => key a ≤ key b) := ⟨fun a b => le_total (key a) (key b)⟩
  haveI : IsTrans α (fun a b : α => key a ≤ key b) := ⟨fun _ _ _ => le_trans⟩
  List.pairwise_insertionSort _ xs

/-- A list in order stays as it is. -/
theorem sortBy_of_pairwise {key : α → κ} {xs : List α}
    (h : xs.Pairwise fun a b => key a ≤ key b) : sortBy key xs = xs := h.insertionSort_eq

/-- Sorting by a key that no two elements share gives a strictly sorted list. -/
theorem pairwise_lt_sortBy {key : α → κ} {xs : List α} (h : (xs.map key).Nodup) :
    (sortBy key xs).Pairwise fun a b => key a < key b := by
  have hnodup : ((sortBy key xs).map key).Nodup :=
    (((perm_sortBy key xs).map key).nodup_iff).mpr h
  rw [List.Nodup, List.pairwise_map] at hnodup
  exact ((pairwise_sortBy key xs).and hnodup).imp fun hab => lt_of_le_of_ne hab.1 hab.2

@[simp] theorem sortBy_eq_nil {key : α → κ} {xs : List α} : sortBy key xs = [] ↔ xs = [] := by
  constructor
  · intro h
    have hp := perm_sortBy key xs
    rw [h] at hp
    exact hp.nil_eq.symm
  · rintro rfl; rfl

/-- Two permutations of each other sorted by a key without ties are equal. -/
theorem sortBy_eq_of_perm {key : α → κ} {xs ys : List α} (hp : xs.Perm ys)
    (hinj : ∀ a ∈ xs, ∀ b ∈ xs, key a = key b → a = b) : sortBy key xs = sortBy key ys := by
  have hperm : (sortBy key xs).Perm (sortBy key ys) :=
    (perm_sortBy key xs).trans (hp.trans (perm_sortBy key ys).symm)
  refine List.Perm.eq_of_pairwise ?_ (pairwise_sortBy key xs) (pairwise_sortBy key ys) hperm
  intro a b ha hb hab hba
  exact hinj a (mem_sortBy.mp ha) b (hp.mem_iff.mpr (mem_sortBy.mp hb)) (le_antisymm hab hba)

/-- The keys of a sorted list are the sorted keys. -/
theorem map_sortBy (key : α → κ) (xs : List α) :
    (sortBy key xs).map key = sortBy id (xs.map key) := by
  have hperm : ((sortBy key xs).map key).Perm (sortBy id (xs.map key)) :=
    ((perm_sortBy key xs).map key).trans (perm_sortBy id (xs.map key)).symm
  have hsorted : ((sortBy key xs).map key).Pairwise (· ≤ ·) :=
    List.pairwise_map.mpr (pairwise_sortBy key xs)
  exact List.Perm.eq_of_pairwise (fun a b _ _ => le_antisymm) hsorted
    (pairwise_sortBy id (xs.map key)) hperm

/-- Sorting by a key without ties commutes with taking some of the elements. -/
theorem sortBy_filter {key : α → κ} {xs : List α} (p : α → Bool)
    (hinj : ∀ a ∈ xs, ∀ b ∈ xs, key a = key b → a = b) :
    sortBy key (xs.filter p) = (sortBy key xs).filter p := by
  have hperm : (sortBy key (xs.filter p)).Perm ((sortBy key xs).filter p) :=
    (perm_sortBy key (xs.filter p)).trans ((perm_sortBy key xs).filter p).symm
  refine List.Perm.eq_of_pairwise ?_ (pairwise_sortBy key _)
    ((pairwise_sortBy key xs).filter p) hperm
  intro a b ha hb hab hba
  exact hinj a (List.mem_of_mem_filter (mem_sortBy.mp ha)) b
    (mem_sortBy.mp (List.mem_of_mem_filter hb)) (le_antisymm hab hba)

/-- Duplicate-free lists with the same elements sort to the same list. -/
theorem sortBy_eq_of_mem {key : α → κ} {xs ys : List α} (hx : xs.Nodup) (hy : ys.Nodup)
    (hmem : ∀ a, a ∈ xs ↔ a ∈ ys)
    (hinj : ∀ a ∈ xs, ∀ b ∈ xs, key a = key b → a = b) : sortBy key xs = sortBy key ys :=
  sortBy_eq_of_perm ((List.perm_ext_iff_of_nodup hx hy).mpr hmem) hinj

@[simp] theorem mem_dedupAdjacent [DecidableEq α] {xs : List α} {a : α} :
    a ∈ dedupAdjacent xs ↔ a ∈ xs := by
  induction xs using dedupAdjacent.induct with
  | case1 => simp [dedupAdjacent]
  | case2 b => simp [dedupAdjacent]
  | case3 b rest ih => simp [dedupAdjacent, ih]
  | case4 b c rest hne ih => rw [dedupAdjacent, if_neg hne, List.mem_cons, ih, ← List.mem_cons]

@[simp] theorem mem_sortDedup [DecidableEq α] {key : α → κ} {xs : List α} {a : α} :
    a ∈ sortDedup key xs ↔ a ∈ xs := by
  simp [sortDedup]

/-- A list sorted by an injective key becomes strictly sorted once adjacent
duplicates are gone. -/
theorem pairwise_lt_dedupAdjacent [DecidableEq α] {key : α → κ} (hkey : Function.Injective key)
    {xs : List α} (hs : xs.Pairwise fun a b => key a ≤ key b) :
    (dedupAdjacent xs).Pairwise fun a b => key a < key b := by
  induction xs using dedupAdjacent.induct with
  | case1 => simp [dedupAdjacent]
  | case2 b => simp [dedupAdjacent]
  | case3 b rest ih =>
    rw [dedupAdjacent, if_pos rfl]
    exact ih hs.of_cons
  | case4 b c rest hne ih =>
    rw [dedupAdjacent, if_neg hne]
    refine List.pairwise_cons.mpr ⟨fun d hd => ?_, ih hs.of_cons⟩
    have hbc : key b < key c :=
      lt_of_le_of_ne ((List.pairwise_cons.mp hs).1 c (by simp)) fun h => hne (hkey h)
    rcases List.mem_cons.mp (mem_dedupAdjacent.mp hd) with rfl | hd'
    · exact hbc
    · exact lt_of_lt_of_le hbc ((List.pairwise_cons.mp hs.of_cons).1 d hd')

theorem nodup_sortDedup [DecidableEq α] {key : α → κ} (hkey : Function.Injective key)
    (xs : List α) : (sortDedup key xs).Nodup :=
  (pairwise_lt_dedupAdjacent hkey (pairwise_sortBy key xs)).imp
    fun hab e => absurd (e ▸ hab) (lt_irrefl _)

/-- `sort` then `dedup` depends on the set of elements alone. -/
theorem sortDedup_eq_of_mem [DecidableEq α] {key : α → κ} (hkey : Function.Injective key)
    {xs ys : List α} (h : ∀ a, a ∈ xs ↔ a ∈ ys) : sortDedup key xs = sortDedup key ys := by
  have hx := pairwise_lt_dedupAdjacent hkey (pairwise_sortBy key xs)
  have hy := pairwise_lt_dedupAdjacent hkey (pairwise_sortBy key ys)
  have hp : (sortDedup key xs).Perm (sortDedup key ys) :=
    (List.perm_ext_iff_of_nodup (hx.imp fun hab e => absurd (e ▸ hab) (lt_irrefl _))
      (hy.imp fun hab e => absurd (e ▸ hab) (lt_irrefl _))).mpr fun a => by simpa using h a
  exact hp.eq_of_pairwise (fun a b _ _ hab hba => absurd (hab.trans hba) (lt_irrefl _)) hx hy

end Sorted
