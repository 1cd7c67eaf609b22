import Mathlib.Data.List.DropRight
import Mathlib.Order.Lattice

/-!
# Veyra.Lib.Window

The recent part of a sequence of timed elements: those of the last instants, one
for each instant, and only so many.

A recorder keeps nothing but the recent part, and adds to that.  What it keeps is
the recent part of all that was added (`recent_push`, `recent_recent`), since
what it has dropped is neither recent later on nor among the last.
-/

namespace Window

variable {α κ : Type} [LinearOrder κ] {time : α → κ} {xs : List α} {x : α} {oldest later : κ}
  {n : Nat}

/-! ## Definitions -/

/-- The times go up. -/
def Increasing (time : α → κ) (xs : List α) : Prop := xs.Pairwise fun a b => time a < time b

/-- Add an element; one of the same time as the last one replaces it. -/
def push (time : α → κ) (xs : List α) (x : α) : List α :=
  if xs.getLast?.any (time · = time x) then xs.dropLast ++ [x] else xs ++ [x]

/-- For each time, the last element with that time. -/
def latest (time : α → κ) : List α → List α
  | [] => []
  | x :: xs => if xs.any (time · = time x) then latest time xs else x :: latest time xs

/-- The elements from a time on, at most the last `n`. -/
def recent (time : α → κ) (oldest : κ) (n : Nat) (xs : List α) : List α :=
  (xs.filter (oldest ≤ time ·)).rtake n

/-! ## The last elements -/

theorem rtake_sublist (n : Nat) (xs : List α) : (xs.rtake n).Sublist xs := List.drop_sublist _ _

theorem rtake_length_le (n : Nat) (xs : List α) : (xs.rtake n).length ≤ n := by
  rw [List.rtake, List.length_drop]
  omega

theorem rtake_rtake {m : Nat} (h : m ≤ n) (xs : List α) : (xs.rtake n).rtake m = xs.rtake m := by
  rw [List.rtake, List.rtake, List.rtake, List.drop_drop, List.length_drop]
  congr 1
  omega

/-- A property that holds from some element on commutes with taking the last elements. -/
theorem filter_rtake {p : α → Bool} (h : xs.Pairwise fun a b => p a = true → p b = true) (n : Nat) :
    (xs.rtake n).filter p = (xs.filter p).rtake n := by
  induction xs using List.reverseRecOn generalizing n with
  | nil => rw [List.rtake_nil, List.filter_nil, List.rtake_nil]
  | append_singleton xs last ih =>
    obtain ⟨hxs, -, hlast⟩ := List.pairwise_append.mp h
    cases n with
    | zero => rw [List.rtake_zero, List.rtake_zero, List.filter_nil]
    | succ n =>
      rw [List.rtake_concat_succ, List.filter_append, List.filter_append, ih hxs n]
      by_cases hp : p last = true
      · rw [List.filter_singleton, hp, cond_true, List.rtake_concat_succ]
      · rw [Bool.not_eq_true] at hp
        have hnone : xs.filter p = [] := by
          rw [List.filter_eq_nil_iff]
          intro a ha hpa
          exact Bool.eq_false_iff.mp hp (hlast a ha last (List.mem_singleton_self last) hpa)
        rw [List.filter_singleton, hp, cond_false, hnone, List.rtake_nil, List.append_nil,
          List.rtake_nil]

/-! ## One element for each time -/

theorem latest_sublist (time : α → κ) (xs : List α) : (latest time xs).Sublist xs := by
  induction xs with
  | nil => exact .slnil
  | cons x xs ih =>
    rw [latest]
    split
    · exact ih.cons x
    · exact ih.cons_cons x

theorem latest_increasing (h : xs.Pairwise fun a b => time a ≤ time b) :
    Increasing time (latest time xs) := by
  induction xs with
  | nil => exact .nil
  | cons x xs ih =>
    obtain ⟨hx, hxs⟩ := List.pairwise_cons.mp h
    rw [latest]
    split
    · exact ih hxs
    · next hnone =>
      refine List.pairwise_cons.mpr ⟨fun a ha => ?_, ih hxs⟩
      have hmem := (latest_sublist time xs).subset ha
      refine lt_of_le_of_ne (hx a hmem) fun heq => hnone ?_
      exact List.any_eq_true.mpr ⟨a, hmem, by simp [heq]⟩

/-- A new element takes the place of an earlier one with its time. -/
theorem latest_concat (time : α → κ) (xs : List α) (x : α) :
    latest time (xs ++ [x]) = (latest time xs).filter (time · ≠ time x) ++ [x] := by
  induction xs with
  | nil => simp [latest]
  | cons y ys ih =>
    rw [List.cons_append, latest, latest, ih, List.any_append]
    by_cases hlater : ys.any (time · = time y) = true
    · rw [hlater, Bool.true_or, if_pos rfl, if_pos rfl]
    · rw [Bool.not_eq_true] at hlater
      rw [hlater, Bool.false_or, if_neg Bool.false_ne_true]
      by_cases hsame : time x = time y
      · simp [hsame]
      · simp [hsame, Ne.symm hsame]

/-- Where the times go up, the new element is compared with the last one alone. -/
theorem push_eq (h : Increasing time xs) (hx : ∀ a ∈ xs, time a ≤ time x) :
    push time xs x = xs.filter (time · ≠ time x) ++ [x] := by
  cases xs using List.reverseRecOn with
  | nil => rfl
  | append_singleton xs last =>
    obtain ⟨-, -, hlast⟩ := List.pairwise_append.mp h
    have hbelow : ∀ a ∈ xs, time a < time x := fun a ha =>
      lt_of_lt_of_le (hlast a ha last (List.mem_singleton_self last)) (hx last (by simp))
    have hkept : xs.filter (time · ≠ time x) = xs :=
      List.filter_eq_self.mpr fun a ha => by simpa using ne_of_lt (hbelow a ha)
    rw [push, List.getLast?_concat, Option.any_some, List.filter_append, hkept,
      List.dropLast_concat]
    by_cases hsame : time last = time x
    · simp [hsame]
    · simp [hsame]

/-! ## What is kept -/

theorem recent_nil (time : α → κ) (oldest : κ) (n : Nat) : recent time oldest n [] = [] := by
  rw [recent, List.filter_nil, List.rtake_nil]

theorem mem_recent {a : α} (h : a ∈ recent time oldest n xs) : a ∈ xs ∧ oldest ≤ time a := by
  have hmem := List.mem_filter.mp ((rtake_sublist n _).subset h)
  exact ⟨hmem.1, of_decide_eq_true hmem.2⟩

theorem recent_length_le : (recent time oldest n xs).length ≤ n := rtake_length_le n _

theorem Increasing.recent (h : Increasing time xs) : Increasing time (recent time oldest n xs) :=
  h.sublist ((rtake_sublist n _).trans List.filter_sublist)

/-- To be recent holds from some element on. -/
theorem Increasing.from_oldest (h : Increasing time xs) (oldest : κ) :
    xs.Pairwise fun a b => decide (oldest ≤ time a) = true → decide (oldest ≤ time b) = true := by
  refine h.imp fun hab ha => ?_
  rw [decide_eq_true_eq] at ha ⊢
  exact ha.trans hab.le

theorem filter_recent (hlater : oldest ≤ later) (xs : List α) :
    (xs.filter (oldest ≤ time ·)).filter (later ≤ time ·) = xs.filter (later ≤ time ·) := by
  rw [List.filter_filter]
  refine List.filter_congr fun a _ => ?_
  by_cases ha : later ≤ time a
  · simp [ha, hlater.trans ha]
  · simp [ha]

/-- What is recent later is among what is recent now. -/
theorem recent_recent (h : Increasing time xs) (hlater : oldest ≤ later) :
    recent time later n (recent time oldest n xs) = recent time later n xs := by
  have hrecent : Increasing time (xs.filter (oldest ≤ time ·)) := h.sublist List.filter_sublist
  rw [recent, recent, recent, filter_rtake (hrecent.from_oldest later), filter_recent hlater,
    rtake_rtake le_rfl]

/-- To give up the element with the last time gives up one place. -/
theorem rtake_filter_ne (h : Increasing time xs) (hx : ∀ a ∈ xs, time a ≤ time x) (n : Nat) :
    ((xs.rtake (n + 1)).filter (time · ≠ time x)).rtake n =
      (xs.filter (time · ≠ time x)).rtake n := by
  cases xs using List.reverseRecOn with
  | nil => simp
  | append_singleton xs last =>
    obtain ⟨-, -, hlast⟩ := List.pairwise_append.mp h
    have hkept : ∀ ys : List α, ys ⊆ xs → ys.filter (time · ≠ time x) = ys := by
      refine fun ys hys => List.filter_eq_self.mpr fun a ha => ?_
      have hbelow := hlast a (hys ha) last (List.mem_singleton_self last)
      simpa using ne_of_lt (lt_of_lt_of_le hbelow (hx last (by simp)))
    rw [List.rtake_concat_succ, List.filter_append, List.filter_append,
      hkept _ (rtake_sublist n xs).subset, hkept xs (List.Subset.refl xs)]
    by_cases hsame : time last = time x
    · rw [List.filter_singleton, hsame]
      simp [rtake_rtake]
    · have hone : [last].filter (time · ≠ time x) = [last] := by simp [hsame]
      rw [hone, ← List.rtake_concat_succ, rtake_rtake (Nat.le_succ n)]

/-- A recent element takes the last place. -/
theorem recent_concat (hnew : later ≤ time x) (ys : List α) :
    recent time later (n + 1) (ys ++ [x]) = (ys.filter (later ≤ time ·)).rtake n ++ [x] := by
  have hone : [x].filter (later ≤ time ·) = [x] := by simp [hnew]
  rw [recent, List.filter_append, hone, List.rtake_concat_succ]

/-- A new element is added to what is recent as to the whole. -/
theorem recent_push (h : Increasing time xs) (hx : ∀ a ∈ xs, time a ≤ time x)
    (hlater : oldest ≤ later) (hnew : later ≤ time x) :
    recent time later n (push time (recent time oldest n xs) x) =
      recent time later n (push time xs x) := by
  rw [push_eq h hx, push_eq h.recent fun a ha => hx a (mem_recent ha).1]
  cases n with
  | zero => exact (List.rtake_zero _).trans (List.rtake_zero _).symm
  | succ n =>
    have hkept : Increasing time (xs.filter (later ≤ time ·)) := h.sublist List.filter_sublist
    have hrecent : Increasing time (xs.filter (oldest ≤ time ·)) := h.sublist List.filter_sublist
    have hcomm : ∀ ys : List α, (ys.filter (time · ≠ time x)).filter (later ≤ time ·) =
        (ys.filter (later ≤ time ·)).filter (time · ≠ time x) := by
      intro ys
      rw [List.filter_filter, List.filter_filter]
      exact List.filter_congr fun a _ => Bool.and_comm _ _
    rw [recent_concat hnew, recent_concat hnew, hcomm, hcomm, recent,
      filter_rtake (hrecent.from_oldest later), filter_recent hlater,
      rtake_filter_ne hkept fun a ha => hx a (List.mem_filter.mp ha).1]

end Window
