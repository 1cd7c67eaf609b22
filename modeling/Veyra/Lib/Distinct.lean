import Mathlib.Data.List.FinRange
import Mathlib.Data.List.Nodup
import Mathlib.Data.List.Perm.Basic

/-!
# Veyra.Lib.Distinct

Keeping the first element of every key, as a loop over a set of the keys seen
does.

* `firsts_eq_positions` — what is kept stands where no earlier element has the key;
* `firsts_idem` — keeping once is enough;
* `mem_keys_firsts` — no key is lost.
-/

namespace Distinct

variable {α κ κ' : Type} [DecidableEq κ] [DecidableEq κ']

/-- Keep the first element of each key that was not seen before. -/
def firsts (key : α → κ) (seen : List κ) : List α → List α
  | [] => []
  | a :: as =>
    if key a ∈ seen then firsts key seen as else a :: firsts key (key a :: seen) as

variable {key : α → κ} {seen : List κ} {as bs : List α}

theorem firsts_cons_of_mem {a : α} (h : key a ∈ seen) :
    firsts key seen (a :: as) = firsts key seen as := by
  rw [firsts, if_pos h]

theorem firsts_cons_of_notMem {a : α} (h : key a ∉ seen) :
    firsts key seen (a :: as) = a :: firsts key (key a :: seen) as := by
  rw [firsts, if_neg h]

/-! ## Keys -/

/-- No key is lost but those seen before. -/
theorem mem_keys_firsts {k : κ} :
    k ∈ (firsts key seen as).map key ↔ k ∈ as.map key ∧ k ∉ seen := by
  induction as generalizing seen with
  | nil => simp [firsts]
  | cons a as ih =>
    by_cases h : key a ∈ seen
    · rw [firsts_cons_of_mem h, ih, List.map_cons, List.mem_cons]
      constructor
      · rintro ⟨hk, hseen⟩
        exact ⟨.inr hk, hseen⟩
      · rintro ⟨hk | hk, hseen⟩
        · exact absurd (hk ▸ h) hseen
        · exact ⟨hk, hseen⟩
    · rw [firsts_cons_of_notMem h, List.map_cons, List.map_cons, List.mem_cons, List.mem_cons, ih]
      by_cases hk : k = key a
      · simp [hk, h]
      · simp [hk]

/-- No key is kept twice. -/
theorem nodup_keys_firsts : ((firsts key seen as).map key).Nodup := by
  induction as generalizing seen with
  | nil => exact .nil
  | cons a as ih =>
    by_cases h : key a ∈ seen
    · rw [firsts_cons_of_mem h]
      exact ih
    · rw [firsts_cons_of_notMem h, List.map_cons, List.nodup_cons, mem_keys_firsts]
      exact ⟨fun hmem => hmem.2 (List.mem_cons_self ..), ih⟩

/-- A list without repeated keys is kept as it is. -/
theorem firsts_eq_self (hnodup : (as.map key).Nodup) (hseen : ∀ a ∈ as, key a ∉ seen) :
    firsts key seen as = as := by
  induction as generalizing seen with
  | nil => rfl
  | cons a as ih =>
    rw [List.map_cons, List.nodup_cons] at hnodup
    rw [firsts_cons_of_notMem (hseen a List.mem_cons_self), ih hnodup.2]
    intro b hb hmem
    cases List.mem_cons.mp hmem with
    | inl heq => exact hnodup.1 (List.mem_map.mpr ⟨b, hb, heq⟩)
    | inr hmem => exact hseen b (List.mem_cons_of_mem a hb) hmem

/-- **Keeping once is enough.** -/
theorem firsts_idem : firsts key [] (firsts key [] as) = firsts key [] as :=
  firsts_eq_self nodup_keys_firsts fun _ _ => List.not_mem_nil

/-- The kept keys are the same when the keys of the lists are the same. -/
theorem keys_firsts_perm (h : ∀ k, k ∈ as.map key ↔ k ∈ bs.map key) :
    ((firsts key [] as).map key).Perm ((firsts key [] bs).map key) := by
  rw [List.perm_ext_iff_of_nodup nodup_keys_firsts nodup_keys_firsts]
  intro k
  rw [mem_keys_firsts, mem_keys_firsts, h]

/-! ## Keys that tell the same elements apart -/

/-- Two keys that tell the same elements apart keep the same ones. -/
theorem firsts_congr {key' : α → κ'} {seen' : List κ'}
    (hkeys : ∀ a ∈ as, ∀ b ∈ as, key a = key b ↔ key' a = key' b)
    (hseen : ∀ a ∈ as, key a ∈ seen ↔ key' a ∈ seen') :
    firsts key seen as = firsts key' seen' as := by
  induction as generalizing seen seen' with
  | nil => rfl
  | cons a as ih =>
    have hrest : ∀ b ∈ as, ∀ c ∈ as, key b = key c ↔ key' b = key' c := fun b hb c hc =>
      hkeys b (List.mem_cons_of_mem a hb) c (List.mem_cons_of_mem a hc)
    have ha := hseen a List.mem_cons_self
    by_cases h : key a ∈ seen
    · rw [firsts_cons_of_mem h, firsts_cons_of_mem (ha.mp h)]
      exact ih hrest fun b hb => hseen b (List.mem_cons_of_mem a hb)
    · rw [firsts_cons_of_notMem h, firsts_cons_of_notMem fun h' => h (ha.mpr h')]
      refine congrArg (a :: ·) (ih hrest fun b hb => ?_)
      rw [List.mem_cons, List.mem_cons, hseen b (List.mem_cons_of_mem a hb),
        hkeys b (List.mem_cons_of_mem a hb) a List.mem_cons_self]

/-! ## Positions -/

/-- No earlier element has the key of the one at a position. -/
def IsFirst (key : α → κ) (as : List α) (i : Fin as.length) : Prop :=
  ∀ j < i, key (as.get j) ≠ key (as.get i)

instance (as : List α) : DecidablePred (IsFirst key as) := fun i =>
  inferInstanceAs (Decidable (∀ j < i, key (as.get j) ≠ key (as.get i)))

omit [DecidableEq κ] in
theorem isFirst_succ {a : α} {i : Fin as.length} :
    IsFirst key (a :: as) i.succ ↔ key a ≠ key (as.get i) ∧ IsFirst key as i := by
  constructor
  · intro h
    exact ⟨h 0 (Fin.succ_pos i), fun j hj => h j.succ (Fin.succ_lt_succ_iff.mpr hj)⟩
  · rintro ⟨hfirst, hrest⟩ j hj
    cases j using Fin.cases with
    | zero => exact hfirst
    | succ j => exact hrest j (Fin.succ_lt_succ_iff.mp hj)

theorem firsts_eq_unseen :
    firsts key seen as = ((List.finRange as.length).filter fun i =>
      key (as.get i) ∉ seen ∧ IsFirst key as i).map as.get := by
  induction as generalizing seen with
  | nil => rfl
  | cons a as ih =>
    have hzero : IsFirst key (a :: as) 0 := fun j hj => absurd hj (Fin.not_lt_zero j)
    have hfinRange : List.finRange (a :: as).length =
        0 :: (List.finRange as.length).map Fin.succ := List.finRange_succ
    rw [hfinRange, List.filter_cons, List.filter_map]
    by_cases h : key a ∈ seen
    · have hhead : ¬ (key ((a :: as).get 0) ∉ seen ∧ IsFirst key (a :: as) 0) := fun h' => h'.1 h
      rw [firsts_cons_of_mem h, ih, if_neg (by rwa [decide_eq_true_iff]), List.map_map]
      refine congrArg (List.map as.get) (List.filter_congr fun i _ => ?_)
      rw [Function.comp_apply, decide_eq_decide, isFirst_succ]
      constructor
      · rintro ⟨hseen, hfirst⟩
        exact ⟨hseen, fun heq => hseen (heq ▸ h), hfirst⟩
      · rintro ⟨hseen, -, hfirst⟩
        exact ⟨hseen, hfirst⟩
    · have hhead : key ((a :: as).get 0) ∉ seen ∧ IsFirst key (a :: as) 0 := ⟨h, hzero⟩
      rw [firsts_cons_of_notMem h, ih, if_pos (by rwa [decide_eq_true_iff]), List.map_cons, List.map_map]
      refine congrArg (a :: ·) (congrArg (List.map as.get) (List.filter_congr fun i _ => ?_))
      rw [Function.comp_apply, decide_eq_decide, isFirst_succ, List.mem_cons, not_or]
      constructor
      · rintro ⟨⟨hne, hseen⟩, hfirst⟩
        exact ⟨hseen, Ne.symm hne, hfirst⟩
      · rintro ⟨hseen, hne, hfirst⟩
        exact ⟨⟨Ne.symm hne, hseen⟩, hfirst⟩

/-- **What is kept** are the elements at the positions where no earlier element has the key. -/
theorem firsts_eq_positions :
    firsts key [] as = ((List.finRange as.length).filter fun i => IsFirst key as i).map as.get := by
  rw [firsts_eq_unseen]
  refine congrArg (List.map as.get) (List.filter_congr fun i _ => ?_)
  simp

end Distinct
