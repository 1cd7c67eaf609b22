import Veyra.Lib.Text

/-!
# Veyra.Lib.Utf16

Texts as a script sees them: sequences of UTF-16 units.

To look for a part of a text in units is to look for it in characters.  That holds
of every code whose words can be told apart from the left and never start within
another one (`Synchronizing`), and UTF-16 is one.
-/

namespace Utf16

/-! ## Codes -/

variable {α β : Type}

/-- The words of a code are not empty, no word starts another one, and what a word starts with
is not in the tail of any. -/
structure Synchronizing (code : α → List β) : Prop where
  nonempty : ∀ a, code a ≠ []
  prefixFree : ∀ a b xs ys, code a ++ xs = code b ++ ys → a = b
  starts : ∀ a b u, u ∈ (code a).tail → (code b).head? ≠ some u

namespace Synchronizing

variable {code : α → List β} {xs ys : List α}

/-- A text that starts another one in code starts it. -/
theorem prefix_of_prefix (h : Synchronizing code) :
    ∀ {xs ys : List α}, xs.flatMap code <+: ys.flatMap code → xs <+: ys
  | [], _, _ => List.nil_prefix
  | x :: xs, [], hprefix => by
    rw [List.flatMap_cons, List.flatMap_nil, List.prefix_nil, List.append_eq_nil_iff] at hprefix
    exact absurd hprefix.1 (h.nonempty x)
  | x :: xs, y :: ys, hprefix => by
    obtain ⟨rest, hrest⟩ := hprefix
    rw [List.flatMap_cons, List.flatMap_cons, List.append_assoc] at hrest
    obtain rfl := h.prefixFree x y _ _ hrest
    have htail := List.append_cancel_left hrest
    exact List.cons_prefix_cons.mpr ⟨rfl, h.prefix_of_prefix ⟨rest, htail⟩⟩

/-- No word but the first starts within the first. -/
theorem before_eq_nil (h : Synchronizing code) {x y : α} {before rest : List β} {u : β}
    (hword : code y = before ++ u :: rest) (hstart : (code x).head? = some u) : before = [] := by
  cases before with
  | nil => rfl
  | cons first before =>
    refine absurd hstart (h.starts y x u ?_)
    rw [hword, List.cons_append, List.tail_cons]
    simp

/-- A text that is part of another one in code is part of it. -/
theorem infix_of_infix (h : Synchronizing code) (hpart : xs.flatMap code <:+: ys.flatMap code) :
    xs <:+: ys := by
  cases xs with
  | nil => exact List.nil_infix
  | cons x xs =>
    obtain ⟨first, word, hx⟩ := List.exists_cons_of_ne_nil (h.nonempty x)
    induction ys with
    | nil =>
      rw [List.flatMap_cons, List.flatMap_nil, List.infix_nil, List.append_eq_nil_iff] at hpart
      exact absurd hpart.1 (h.nonempty x)
    | cons y ys ih =>
      obtain ⟨before, after, heq⟩ := hpart
      have hys : (y :: ys).flatMap code = code y ++ ys.flatMap code := List.flatMap_cons
      rw [List.append_assoc, hys] at heq
      obtain ⟨rest, hword, hrest⟩ | ⟨rest, hbefore, hrest⟩ := List.append_eq_append_iff.mp heq
      · cases rest with
        | nil =>
          -- the part starts after the word of `y`
          exact List.infix_cons (ih ⟨[], after, by simpa using hrest⟩)
        | cons u rest =>
          have hstart : (code x).head? = some u := by
            rw [List.flatMap_cons, hx] at hrest
            obtain ⟨rfl, -⟩ := List.cons.inj hrest
            rw [hx, List.head?_cons]
          obtain rfl := h.before_eq_nil hword hstart
          have hprefix : (x :: xs).flatMap code <+: (y :: ys).flatMap code := ⟨after, heq⟩
          exact (h.prefix_of_prefix hprefix).isInfix
      · refine List.infix_cons (ih ⟨rest, after, ?_⟩)
        rw [hrest, List.append_assoc]

theorem infix_iff (h : Synchronizing code) : xs.flatMap code <:+: ys.flatMap code ↔ xs <:+: ys := by
  refine ⟨h.infix_of_infix, fun ⟨before, after, heq⟩ => ⟨before.flatMap code, after.flatMap code, ?_⟩⟩
  rw [← heq, List.flatMap_append, List.flatMap_append]

theorem flatMap_inj (h : Synchronizing code) (heq : xs.flatMap code = ys.flatMap code) : xs = ys := by
  have hforth := h.prefix_of_prefix ⟨[], (List.append_nil _).trans heq⟩
  have hback := h.prefix_of_prefix ⟨[], (List.append_nil _).trans heq.symm⟩
  exact hforth.eq_of_length (Nat.le_antisymm hforth.length_le hback.length_le)

end Synchronizing

/-! ## UTF-16 -/

/-- The units of a character. -/
def unitsOf (c : Char) : List UInt16 :=
  if c.toNat < 0x10000 then [UInt16.ofNat c.toNat]
  else [UInt16.ofNat (0xD800 + (c.toNat - 0x10000) / 0x400),
    UInt16.ofNat (0xDC00 + (c.toNat - 0x10000) % 0x400)]

/-- The string of a script with the text of a string. -/
def units (s : String) : List UInt16 := s.toList.flatMap unitsOf

/-- `String.prototype.includes`. -/
def includes (s needle : List UInt16) : Bool := s.tails.any needle.isPrefixOf

/-- `value.replace(/[A-Z]/g, (character) => character.toLowerCase())`. -/
def asciiLower (s : List UInt16) : List UInt16 :=
  s.map fun unit => if 0x41 ≤ unit && unit ≤ 0x5A then unit + 0x20 else unit

/-- A character is one unit that is no surrogate, or a pair of surrogates. -/
theorem unitsOf_cases (c : Char) :
    (∃ unit, unitsOf c = [unit] ∧ unit.toNat = c.toNat ∧
      (c.toNat < 0xD800 ∨ 0xDFFF < c.toNat)) ∨
    ∃ high low, unitsOf c = [high, low] ∧ 0x10000 ≤ c.toNat ∧ c.toNat < 0x110000 ∧
      high.toNat = 0xD800 + (c.toNat - 0x10000) / 0x400 ∧
      low.toNat = 0xDC00 + (c.toNat - 0x10000) % 0x400 := by
  have hvalid : c.toNat < 0xD800 ∨ 0xDFFF < c.toNat ∧ c.toNat < 0x110000 := c.valid
  rw [unitsOf]
  by_cases hplane : c.toNat < 0x10000
  · rw [if_pos hplane]
    exact .inl ⟨_, rfl, UInt16.toNat_ofNat_of_lt hplane, by omega⟩
  · rw [if_neg hplane]
    have hbelow : c.toNat < 0x110000 := by omega
    refine .inr ⟨_, _, rfl, by omega, hbelow, ?_, ?_⟩
    · exact UInt16.toNat_ofNat_of_lt (by simp only [UInt16.size]; omega)
    · exact UInt16.toNat_ofNat_of_lt (by simp only [UInt16.size]; omega)

theorem synchronizing_unitsOf : Synchronizing unitsOf where
  nonempty c := by
    obtain ⟨unit, h, -⟩ | ⟨high, low, h, -⟩ := unitsOf_cases c <;> simp [h]
  prefixFree c d xs ys heq := by
    rw [← Char.toNat_inj]
    obtain ⟨unit, hc, hunit, hrange⟩ | ⟨high, low, hc, hge, hlt, hhigh, hlow⟩ := unitsOf_cases c
    · obtain ⟨unit', hd, hunit', hrange'⟩ | ⟨high', low', hd, hge', hlt', hhigh', hlow'⟩ :=
        unitsOf_cases d
      · rw [hc, hd] at heq
        obtain ⟨rfl, -⟩ := List.cons.inj heq
        exact hunit.symm.trans hunit'
      · rw [hc, hd] at heq
        obtain ⟨rfl, -⟩ := List.cons.inj heq
        omega
    · obtain ⟨unit', hd, hunit', hrange'⟩ | ⟨high', low', hd, hge', hlt', hhigh', hlow'⟩ :=
        unitsOf_cases d
      · rw [hc, hd] at heq
        obtain ⟨rfl, -⟩ := List.cons.inj heq
        omega
      · rw [hc, hd] at heq
        obtain ⟨rfl, hrest⟩ := List.cons.inj heq
        obtain ⟨rfl, -⟩ := List.cons.inj hrest
        omega
  starts c d u htail hhead := by
    have hlow : 0xDC00 ≤ u.toNat ∧ u.toNat < 0xE000 := by
      obtain ⟨unit, hc, -⟩ | ⟨high, low, hc, hge, hlt, hhigh, hlow⟩ := unitsOf_cases c
      · rw [hc] at htail
        cases htail
      · rw [hc] at htail
        rw [List.mem_singleton.mp htail]
        omega
    obtain ⟨unit, hd, hunit, hrange⟩ | ⟨high, low, hd, hge, hlt, hhigh, -⟩ := unitsOf_cases d
    · rw [hd] at hhead
      obtain rfl := Option.some.inj hhead
      omega
    · rw [hd] at hhead
      obtain rfl := Option.some.inj hhead
      omega

/-! ## What a script finds -/

theorem any_tails_isPrefixOf {α : Type} [DecidableEq α] {xs needle : List α} :
    xs.tails.any needle.isPrefixOf = true ↔ needle <:+: xs := by
  simp only [List.any_eq_true, List.mem_tails, List.isPrefixOf_iff_prefix]
  constructor
  · rintro ⟨rest, hsuffix, hprefix⟩
    exact hprefix.isInfix.trans hsuffix.isInfix
  · rintro ⟨before, after, heq⟩
    exact ⟨needle ++ after, ⟨before, by rw [← heq, List.append_assoc]⟩, List.prefix_append _ _⟩

/-- To look for units is to look for characters. -/
theorem includes_units (s needle : String) :
    includes (units s) (units needle) = Text.contains s needle := by
  rw [Bool.eq_iff_iff, includes, Text.contains, any_tails_isPrefixOf, any_tails_isPrefixOf]
  exact synchronizing_unitsOf.infix_iff

theorem units_inj {s t : String} (h : units s = units t) : s = t :=
  String.toList_inj.mp (synchronizing_unitsOf.flatMap_inj h)

theorem asciiLower_keeps {unit : UInt16} (h : unit.toNat < 0x41 ∨ 0x5A < unit.toNat)
    (rest : List UInt16) : asciiLower (unit :: rest) = unit :: asciiLower rest := by
  rw [asciiLower, List.map_cons, if_neg]
  · rfl
  · rw [Bool.and_eq_true, decide_eq_true_eq, decide_eq_true_eq, UInt16.le_iff_toNat_le,
      UInt16.le_iff_toNat_le]
    have hfirst : (0x41 : UInt16).toNat = 0x41 := rfl
    have hlast : (0x5A : UInt16).toNat = 0x5A := rfl
    omega

theorem asciiLower_letters : ∀ k < 26,
    asciiLower (unitsOf (Char.ofNat (65 + k))) = unitsOf (Text.lowerChar (Char.ofNat (65 + k))) := by
  decide

/-- Both foldings change the letters of ASCII alone. -/
theorem asciiLower_unitsOf (c : Char) : asciiLower (unitsOf c) = unitsOf (Text.lowerChar c) := by
  by_cases hletter : 65 ≤ c.toNat ∧ c.toNat ≤ 90
  · have hc : c = Char.ofNat (65 + (c.toNat - 65)) := by
      rw [show 65 + (c.toNat - 65) = c.toNat by omega, Char.ofNat_toNat]
    rw [hc]
    exact asciiLower_letters _ (by omega)
  · have hsame : Text.lowerChar c = c := by
      rw [Text.lowerChar, if_neg]
      rw [Bool.and_eq_true, decide_eq_true_eq, decide_eq_true_eq]
      exact hletter
    rw [hsame]
    obtain ⟨unit, h, hunit, -⟩ | ⟨high, low, h, -, -, hhigh, hlow⟩ := unitsOf_cases c
    · rw [h]
      exact asciiLower_keeps (by omega) []
    · rw [h, asciiLower_keeps (by omega), asciiLower_keeps (by omega)]
      rfl

theorem asciiLower_units (s : String) : asciiLower (units s) = units (Text.lower s) := by
  rw [units, units, Text.lower, String.toList_ofList, List.flatMap_map, asciiLower,
    List.map_flatMap]
  exact congrArg s.toList.flatMap (funext asciiLower_unitsOf)

end Utf16
