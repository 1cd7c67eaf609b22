import Veyra.Lib.Text

/-!
# Veyra.Lib.Base64

The base64 encodings of a list of bytes: both alphabets, with or without padding, and with
line breaks anywhere.
-/

namespace Base64

/-! ## Encodings of bytes -/

/-- The two alphabets, which differ in their last two symbols. -/
inductive Alphabet
  | standard
  | urlSafe
deriving DecidableEq, Repr

/-- The symbol of a group of six bits. -/
def symbol (a : Alphabet) (n : Nat) : Char :=
  if n < 26 then Char.ofNat (0x41 + n)
  else if n < 52 then Char.ofNat (0x61 + (n - 26))
  else if n < 62 then Char.ofNat (0x30 + (n - 52))
  else match a with
    | .standard => if n = 62 then '+' else '/'
    | .urlSafe => if n = 62 then '-' else '_'

/-- The bits of a list of bytes in groups of six, the last one filled up with zeros. -/
def sextets : List UInt8 → List Nat
  | [] => []
  | [x] => [x.toNat / 4, x.toNat % 4 * 16]
  | [x, y] => [x.toNat / 4, x.toNat % 4 * 16 + y.toNat / 16, y.toNat % 16 * 4]
  | x :: y :: z :: rest =>
    x.toNat / 4 :: (x.toNat % 4 * 16 + y.toNat / 16) :: (y.toNat % 16 * 4 + z.toNat / 64) ::
      z.toNat % 64 :: sextets rest

/-- The padding that completes the last group of four symbols. -/
def padding (bytes : List UInt8) : List Char :=
  List.replicate ((3 - bytes.length % 3) % 3) '='

def encode (a : Alphabet) (padded : Bool) (bytes : List UInt8) : List Char :=
  (sextets bytes).map (symbol a) ++ if padded then padding bytes else []

/-- A text without its line breaks. -/
def joinLines (text : List Char) : List Char := text.filter fun c => c != '\r' && c != '\n'

/-- A text encodes a list of bytes, up to line breaks. -/
def Encodes (bytes : List UInt8) (text : List Char) : Prop :=
  ∃ a padded, joinLines text = encode a padded bytes

/-! ## Facts -/

/-- The characters of an encoding. -/
def isSymbol (c : Char) : Bool :=
  Text.isAsciiAlphanumeric c || c ∈ ['+', '/', '-', '_', '=']

theorem isSymbol_symbol {a : Alphabet} {n : Nat} (h : n < 64) : isSymbol (symbol a n) = true := by
  have hall : ∀ n < 64, ∀ a ∈ [Alphabet.standard, .urlSafe], isSymbol (symbol a n) = true := by
    decide
  exact hall n h a (by cases a <;> decide)

theorem sextets_lt (bytes : List UInt8) : ∀ n ∈ sextets bytes, n < 64 := by
  induction bytes using sextets.induct with
  | case1 => simp [sextets]
  | case2 x =>
    have hx := x.toNat_lt
    intro n hn
    simp only [sextets, List.mem_cons, List.not_mem_nil, or_false] at hn
    omega
  | case3 x y =>
    have hx := x.toNat_lt
    have hy := y.toNat_lt
    intro n hn
    simp only [sextets, List.mem_cons, List.not_mem_nil, or_false] at hn
    omega
  | case4 x y z rest ih =>
    have hx := x.toNat_lt
    have hy := y.toNat_lt
    have hz := z.toNat_lt
    intro n hn
    simp only [sextets, List.mem_cons] at hn
    obtain hn | hn | hn | hn | hn := hn
    · omega
    · omega
    · omega
    · omega
    · exact ih n hn

theorem encode_ne_nil {a : Alphabet} {padded : Bool} {bytes : List UInt8} (h : bytes ≠ []) :
    encode a padded bytes ≠ [] := by
  have hsextets : sextets bytes ≠ [] := by
    cases bytes with
    | nil => exact absurd rfl h
    | cons x rest =>
      rw [sextets.eq_def]
      split <;> simp_all
  simp [encode, hsextets]

theorem isSymbol_of_mem_encode {a : Alphabet} {padded : Bool} {bytes : List UInt8} {c : Char}
    (h : c ∈ encode a padded bytes) : isSymbol c = true := by
  rw [encode, List.mem_append] at h
  obtain h | h := h
  · obtain ⟨n, hn, rfl⟩ := List.mem_map.mp h
    exact isSymbol_symbol (sextets_lt bytes n hn)
  · have hpad : c = '=' := by
      split at h
      · exact List.eq_of_mem_replicate h
      · cases h
    rw [hpad]
    decide

/-- An encoding has symbols and line breaks, and nothing else. -/
theorem Encodes.symbol_or_break {bytes : List UInt8} {text : List Char} (h : Encodes bytes text)
    {c : Char} (hc : c ∈ text) : isSymbol c = true ∨ c = '\r' ∨ c = '\n' := by
  obtain ⟨a, padded, henc⟩ := h
  by_cases hbreak : c = '\r' ∨ c = '\n'
  · exact .inr hbreak
  · have hkeep : c ∈ joinLines text := by
      rw [joinLines, List.mem_filter]
      simp only [not_or] at hbreak
      simpa using ⟨hc, hbreak⟩
    rw [henc] at hkeep
    exact .inl (isSymbol_of_mem_encode hkeep)

/-- Symbols are ASCII and stand for themselves in any text format. -/
theorem plain_of_isSymbol {c : Char} (h : isSymbol c = true) :
    c.toNat < 128 ∧ Text.isWhite c = false ∧ c ≠ ':' ∧ c ≠ '\x7b' ∧ c ≠ '\ufeff' := by
  have hlt : c.toNat < 128 := by
    simp only [isSymbol, Text.isAsciiAlphanumeric, Text.isAsciiAlpha, Text.isAsciiDigit,
      Bool.or_eq_true, Bool.and_eq_true, decide_eq_true_eq, Char.le_def,
      UInt32.le_iff_toNat_le] at h
    obtain ((⟨-, h⟩ | ⟨-, h⟩) | ⟨-, h⟩) | h := h
    · exact Nat.lt_of_le_of_lt h (by decide)
    · exact Nat.lt_of_le_of_lt h (by decide)
    · exact Nat.lt_of_le_of_lt h (by decide)
    · simp only [List.mem_cons, List.not_mem_nil, or_false] at h
      obtain rfl | rfl | rfl | rfl | rfl := h <;> decide
  have hall : ∀ n < 128, isSymbol (Char.ofNat n) = true →
      Text.isWhite (Char.ofNat n) = false ∧ Char.ofNat n ≠ ':' ∧ Char.ofNat n ≠ '\x7b' ∧
        Char.ofNat n ≠ '\ufeff' := by
    decide
  have hc := hall c.toNat hlt
  rw [Char.ofNat_toNat] at hc
  exact ⟨hlt, hc h⟩

end Base64
