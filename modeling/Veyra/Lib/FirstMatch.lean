import Veyra.Lib.Sorted

/-!
# Veyra.Lib.FirstMatch

Rule lists in which the first rule that matches decides: what a rule list and
its image under a rule-by-rule translation have in common, and what sorting
the rules by a key means for the rule that decides.
-/

namespace FirstMatch

variable {ρ σ ν μ κ : Type}

/-- The value of the first rule that passes the test, or the fallback. -/
def eval (test : ρ → Bool) (value : ρ → ν) (fallback : ν) : List ρ → ν
  | [] => fallback
  | rule :: rules => if test rule then value rule else eval test value fallback rules

variable {test : ρ → Bool} {value : ρ → ν} {fallback : ν}

theorem eval_cons_of_pos {rule : ρ} {rules : List ρ} (h : test rule = true) :
    eval test value fallback (rule :: rules) = value rule := by
  rw [eval, if_pos h]

/-- Rules that fail the test do not count. -/
theorem eval_append_of_neg {front rules : List ρ} (h : ∀ rule ∈ front, test rule = false) :
    eval test value fallback (front ++ rules) = eval test value fallback rules := by
  induction front with
  | nil => rfl
  | cons rule front ih =>
    obtain ⟨hrule, hfront⟩ := List.forall_mem_cons.mp h
    rw [List.cons_append, eval, hrule, ih hfront]
    rfl

/-- **Translation.**  Rules that are related one by one, pass the same tests and have related
values decide alike. -/
theorem eval_rel {test' : σ → Bool} {value' : σ → μ} {fallback' : μ} {R : ρ → σ → Prop}
    {S : ν → μ → Prop} {rules : List ρ} {rules' : List σ} (hrules : List.Forall₂ R rules rules')
    (htest : ∀ rule rule', R rule rule' → test rule = test' rule')
    (hvalue : ∀ rule rule', R rule rule' → S (value rule) (value' rule'))
    (hfallback : S fallback fallback') :
    S (eval test value fallback rules) (eval test' value' fallback' rules') := by
  induction hrules with
  | nil => exact hfallback
  | cons hrule hrest ih =>
    rw [eval, eval, ← htest _ _ hrule]
    split
    · exact hvalue _ _ hrule
    · exact ih

/-- The rule that decides: the first that passes, or none passes. -/
theorem eval_cases (test : ρ → Bool) (value : ρ → ν) (fallback : ν) (rules : List ρ) :
    (∃ front rule back, rules = front ++ rule :: back ∧ test rule = true ∧
      (∀ r ∈ front, test r = false) ∧ eval test value fallback rules = value rule) ∨
    ((∀ r ∈ rules, test r = false) ∧ eval test value fallback rules = fallback) := by
  induction rules with
  | nil => exact .inr ⟨by simp, rfl⟩
  | cons rule rules ih =>
    by_cases h : test rule = true
    · exact .inl ⟨[], rule, rules, rfl, h, by simp, eval_cons_of_pos h⟩
    · have hrule : test rule = false := by simpa using h
      have hskip : eval test value fallback (rule :: rules) = eval test value fallback rules := by
        rw [eval, if_neg h]
      rcases ih with ⟨front, found, back, rfl, hfound, hfront, heval⟩ | ⟨hnone, heval⟩
      · exact .inl ⟨rule :: front, found, back, rfl, hfound,
          List.forall_mem_cons.mpr ⟨hrule, hfront⟩, hskip.trans heval⟩
      · exact .inr ⟨List.forall_mem_cons.mpr ⟨hrule, hnone⟩, hskip.trans heval⟩

/-- **Order.**  In a list sorted by a key, the rule that decides has the least key of those
that pass. -/
theorem eval_sortBy [LinearOrder κ] (test : ρ → Bool) (value : ρ → ν) (fallback : ν)
    (key : ρ → κ) (rules : List ρ) :
    (∃ rule ∈ rules, test rule = true ∧ (∀ r ∈ rules, test r = true → key rule ≤ key r) ∧
      eval test value fallback (Sorted.sortBy key rules) = value rule) ∨
    ((∀ r ∈ rules, test r = false) ∧
      eval test value fallback (Sorted.sortBy key rules) = fallback) := by
  rcases eval_cases test value fallback (Sorted.sortBy key rules) with
    ⟨front, rule, back, hsplit, hrule, hfront, heval⟩ | ⟨hnone, heval⟩
  · have hmem : ∀ r, r ∈ rules ↔ r ∈ front ∨ r = rule ∨ r ∈ back := by
      intro r
      rw [← @Sorted.mem_sortBy _ _ _ key, hsplit, List.mem_append, List.mem_cons]
    have hsorted := Sorted.pairwise_sortBy key rules
    rw [hsplit] at hsorted
    have hback : ∀ r ∈ back, key rule ≤ key r :=
      (List.pairwise_cons.mp (List.pairwise_append.mp hsorted).2.1).1
    refine .inl ⟨rule, (hmem rule).mpr (.inr (.inl rfl)), hrule, fun r hr hpass => ?_, heval⟩
    rcases (hmem r).mp hr with h | rfl | h
    · rw [hfront r h] at hpass
      cases hpass
    · exact le_refl _
    · exact hback r h
  · exact .inr ⟨fun r hr => hnone r (Sorted.mem_sortBy.mpr hr), heval⟩

end FirstMatch
