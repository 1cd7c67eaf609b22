import Veyra.Lib.Text

/-!
# Veyra.Lib.PercentEncoding

Percent-encoding as URLs use it: which texts encode a list of bytes, and what it means for
a decoder to touch nothing but the escapes of its input.
-/

namespace Percent

/-! ## Encodings of bytes -/

/-- The value of a hexadecimal digit in either case. -/
def hexValue (c : Char) : Option Nat :=
  let n := c.toNat
  if 0x30 ≤ n ∧ n ≤ 0x39 then some (n - 0x30)
  else if 0x61 ≤ n ∧ n ≤ 0x66 then some (n - 0x61 + 10)
  else if 0x41 ≤ n ∧ n ≤ 0x46 then some (n - 0x41 + 10)
  else none

/-- The unreserved characters of a URL, which need no escape. -/
def unreserved (c : Char) : Bool := Text.isAsciiAlphanumeric c || c ∈ ['-', '.', '_', '~']

/-- A text encodes a list of bytes: each byte is an unreserved character or an escape of
two hexadecimal digits. -/
inductive Encodes : List UInt8 → List Char → Prop
  | nil : Encodes [] []
  | plain {b : UInt8} {c : Char} {bs : List UInt8} {cs : List Char} :
      unreserved c = true → c.toNat = b.toNat → Encodes bs cs → Encodes (b :: bs) (c :: cs)
  | escape {b : UInt8} {h l : Char} {x y : Nat} {bs : List UInt8} {cs : List Char} :
      hexValue h = some x → hexValue l = some y → b.toNat = 16 * x + y →
      Encodes bs cs → Encodes (b :: bs) ('%' :: h :: l :: cs)

/-! ## Escapes within a text -/

/-- The pieces of a text: its well-formed escapes and all its other characters. -/
inductive Piece
  | escape (h l : Char)
  | plain (c : Char)
deriving DecidableEq, Repr

/-- The escape a text starts with. -/
def escapeAt : List Char → Option (Char × Char)
  | '%' :: h :: l :: _ => if (hexValue h).isSome && (hexValue l).isSome then some (h, l) else none
  | _ => none

def pieces : List Char → List Piece
  | [] => []
  | c :: rest =>
    match rest with
    | h :: l :: tail =>
      if escapeAt (c :: h :: l :: tail) = some (h, l) then .escape h l :: pieces tail
      else .plain c :: pieces (h :: l :: tail)
    | rest => .plain c :: pieces rest

/-- A text read with `stretch` for each stretch of escapes, and every other character as
it stands; `seen` is the stretch being read. -/
def keepFrom (stretch : List Char → List Char) (seen : List Char) : List Piece → List Char
  | [] => stretch seen
  | .escape h l :: ps => keepFrom stretch (seen ++ ['%', h, l]) ps
  | .plain c :: ps => stretch seen ++ c :: keepFrom stretch [] ps

/-- What a text becomes when nothing but its stretches of escapes is decoded. -/
def keepRest (decode : String → String) (text : String) : String :=
  String.ofList
    (keepFrom (fun cs => (decode (String.ofList cs)).toList) [] (pieces text.toList))

/-! ## Facts -/

/-- Hexadecimal digits are ASCII, and none of them is the sign `+` or the escape mark. -/
theorem ascii_of_hexValue {c : Char} (h : (hexValue c).isSome) :
    0x30 ≤ c.toNat ∧ c.toNat ≤ 0x66 := by
  unfold hexValue at h
  grind

theorem hexValue_lt {c : Char} {n : Nat} (h : hexValue c = some n) : n < 16 := by
  unfold hexValue at h
  grind

/-- The text at an escape. -/
theorem escapeAt_eq {cs : List Char} {h l : Char} (he : escapeAt cs = some (h, l)) :
    ∃ rest, cs = '%' :: h :: l :: rest ∧ (hexValue h).isSome ∧ (hexValue l).isSome := by
  unfold escapeAt at he
  split at he
  · split at he
    · rename_i hhex
      cases he
      exact ⟨_, rfl, Bool.and_eq_true_iff.mp hhex⟩
    · cases he
  · cases he

theorem pieces_escape {h l : Char} {rest : List Char}
    (hh : (hexValue h).isSome) (hl : (hexValue l).isSome) :
    pieces ('%' :: h :: l :: rest) = .escape h l :: pieces rest := by
  rw [pieces]
  simp [escapeAt, hh, hl]

theorem pieces_plain {c : Char} {rest : List Char} (h : escapeAt (c :: rest) = none) :
    pieces (c :: rest) = .plain c :: pieces rest := by
  rw [pieces.eq_def]
  split
  · rename_i hnil
    cases hnil
  · rename_i hcons
    cases hcons
    split
    · rw [h]
      simp
    · rfl

end Percent
