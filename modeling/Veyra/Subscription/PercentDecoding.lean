import Veyra.Subscription.Draft
import Veyra.Lib.PercentEncoding

/-!
# Veyra.Subscription.PercentDecoding

When `percent_decode` undoes percent-encoding.  It reads bytes and pushes one character for
each, so a text comes back only while all of it is ASCII; and since the hexadecimal parser
of the standard library allows a sign, `%+1` counts as an escape.
-/

namespace Veyra

open Percent

/-! ## Bytes and characters -/

/-- Every character is ASCII. -/
def asciiText (text : String) : Bool := text.toList.all fun c => c.toNat < 128

/-- What a character becomes whose bytes are pushed one by one. -/
def latin (c : Char) : List Char := (String.utf8EncodeChar c).map charOfByte

theorem charOfByte_toNat (b : UInt8) : (charOfByte b).toNat = b.toNat := by
  have hlt : b.toNat < 256 := b.toNat_lt
  have hvalid : b.toNat.isValidChar := by
    unfold Nat.isValidChar
    omega
  rw [charOfByte, Char.ofNat, dif_pos hvalid]
  rfl

/-- A character below 256 is the one of its byte. -/
theorem charOfByte_of_toNat {b : UInt8} {c : Char} (h : c.toNat = b.toNat) : charOfByte b = c :=
  Char.ext (UInt32.toNat_inj.mp ((charOfByte_toNat b).trans h.symm))

/-- An ASCII character stands for itself. -/
@[simp] theorem latin_ascii {c : Char} (h : c.toNat < 128) : latin c = [c] := by
  rw [latin, Text.utf8_ascii h, List.map_singleton,
    charOfByte_of_toNat (Text.toNat_ofNat_ascii h).symm]

/-- Beyond ASCII every byte of a character has its high bit set. -/
theorem utf8_high {c : Char} (h : 128 ≤ c.toNat) :
    ∀ b ∈ String.utf8EncodeChar c, 128 ≤ b.toNat := by
  have hgt : ¬ c.val.toNat ≤ 0x7f := Nat.not_le.mpr h
  have hsmall : c.val.toNat < 1114112 := by
    have := c.valid
    simp only [UInt32.isValidChar, Nat.isValidChar] at this
    omega
  intro b hb
  unfold String.utf8EncodeChar at hb
  simp only [hgt, if_false] at hb
  split at hb
  · simp only [List.mem_cons, List.not_mem_nil, or_false] at hb
    obtain rfl | rfl := hb <;> rw [UInt8.toNat_ofNat'] <;> omega
  · split at hb
    · simp only [List.mem_cons, List.not_mem_nil, or_false] at hb
      obtain rfl | rfl | rfl := hb <;> rw [UInt8.toNat_ofNat'] <;> omega
    · simp only [List.mem_cons, List.not_mem_nil, or_false] at hb
      obtain rfl | rfl | rfl | rfl := hb <;> rw [UInt8.toNat_ofNat'] <;> omega

/-- Beyond ASCII a character has several bytes. -/
theorem latin_high {c : Char} (h : 128 ≤ c.toNat) : ∃ x y ys, latin c = x :: y :: ys := by
  have hgt : ¬ c.val.toNat ≤ 0x7f := Nat.not_le.mpr h
  unfold latin String.utf8EncodeChar
  simp only [hgt, if_false]
  split
  · exact ⟨_, _, _, rfl⟩
  · split
    · exact ⟨_, _, _, rfl⟩
    · exact ⟨_, _, _, rfl⟩

/-- Every character has at least one byte. -/
theorem utf8_ne_nil (c : Char) : ∃ b bs, String.utf8EncodeChar c = b :: bs :=
  List.exists_cons_of_ne_nil String.utf8EncodeChar_ne_nil

/-! ## The two bytes after a percent sign -/

/-- The digit test on a byte is `hexValue` on its character. -/
theorem hexDigit_eq (b : UInt8) :
    (if 0x30 ≤ b && b ≤ 0x39 then some (b - 0x30)
      else if 0x61 ≤ b && b ≤ 0x66 then some (b - 0x61 + 10)
      else if 0x41 ≤ b && b ≤ 0x46 then some (b - 0x41 + 10)
      else none) = (hexValue (charOfByte b)).map UInt8.ofNat := by
  have hall : ∀ n < 256, (if 0x30 ≤ UInt8.ofNat n && UInt8.ofNat n ≤ 0x39 then
        some (UInt8.ofNat n - 0x30)
      else if 0x61 ≤ UInt8.ofNat n && UInt8.ofNat n ≤ 0x66 then some (UInt8.ofNat n - 0x61 + 10)
      else if 0x41 ≤ UInt8.ofNat n && UInt8.ofNat n ≤ 0x46 then some (UInt8.ofNat n - 0x41 + 10)
      else none) = (hexValue (charOfByte (UInt8.ofNat n))).map UInt8.ofNat := by
    decide +kernel
  have hb := hall b.toNat b.toNat_lt
  rwa [UInt8.ofNat_toNat] at hb

/-- Two digits make a byte, and so does a plus sign with one digit. -/
theorem hexByte_eq (a b : UInt8) :
    hexByte a b = if a = 0x2b then (hexValue (charOfByte b)).map UInt8.ofNat
      else (hexValue (charOfByte a)).bind fun x =>
        (hexValue (charOfByte b)).map fun y => UInt8.ofNat (16 * x + y) := by
  have hsum (x y : Nat) : UInt8.ofNat x * 16 + UInt8.ofNat y = UInt8.ofNat (16 * x + y) := by
    apply UInt8.toNat_inj.mp
    simp only [UInt8.toNat_add, UInt8.toNat_mul, UInt8.toNat_ofNat', UInt8.reduceToNat]
    omega
  simp only [hexByte, hexDigit_eq]
  split
  · rfl
  · cases hexValue (charOfByte a) with
    | none => rfl
    | some x =>
      cases hexValue (charOfByte b) with
      | none => rfl
      | some y => simp [hsum]

/-- Two digits make a byte. -/
theorem hexByte_digits {h l : Char} {x y : Nat} (hh : hexValue h = some x)
    (hl : hexValue l = some y) :
    hexByte (UInt8.ofNat h.toNat) (UInt8.ofNat l.toNat) = some (UInt8.ofNat (16 * x + y)) := by
  have hascii := ascii_of_hexValue (c := h) (by simp [hh])
  have lascii := ascii_of_hexValue (c := l) (by simp [hl])
  have hsign : UInt8.ofNat h.toNat ≠ 0x2b := by
    intro heq
    have := congrArg UInt8.toNat heq
    rw [Text.toNat_ofNat_ascii (by omega)] at this
    simp only [UInt8.reduceToNat] at this
    omega
  rw [hexByte_eq, if_neg hsign, charOfByte_of_toNat (Text.toNat_ofNat_ascii (by omega)).symm,
    charOfByte_of_toNat (Text.toNat_ofNat_ascii (by omega)).symm, hh, hl]
  rfl

/-- So do a sign and one digit. -/
theorem hexByte_signed {l : Char} {y : Nat} (hl : hexValue l = some y) :
    hexByte 0x2b (UInt8.ofNat l.toNat) = some (UInt8.ofNat y) := by
  have lascii := ascii_of_hexValue (c := l) (by simp [hl])
  rw [hexByte_eq, if_pos rfl, charOfByte_of_toNat (Text.toNat_ofNat_ascii (by omega)).symm, hl]
  rfl

/-- Nothing else does. -/
theorem digits_of_hexByte {a b r : UInt8} (h : hexByte a b = some r) :
    (a = 0x2b ∨ (hexValue (charOfByte a)).isSome) ∧ (hexValue (charOfByte b)).isSome := by
  rw [hexByte_eq] at h
  split at h
  · rename_i hsign
    exact ⟨.inl hsign, by cases hb : hexValue (charOfByte b) <;> simp_all⟩
  · cases ha : hexValue (charOfByte a) <;> cases hb : hexValue (charOfByte b) <;> simp_all

/-! ## One step of the decoder -/

/-- The characters `percent_decode` makes of a text. -/
def decodeText (cs : List Char) : List Char :=
  percentDecodeBytes (cs.flatMap String.utf8EncodeChar)

theorem percentDecode_eq (value : String) :
    percentDecode value = String.ofList (decodeText value.toList) := rfl

/-- A byte that begins no escape stands for the character of the same number. -/
theorem percentDecodeBytes_plain {b : UInt8} {bs : List UInt8}
    (h : b = 0x25 → ∀ x y t, bs = x :: y :: t → hexByte x y = none) :
    percentDecodeBytes (b :: bs) = charOfByte b :: percentDecodeBytes bs := by
  rw [percentDecodeBytes.eq_def]
  split
  · rename_i hnil
    cases hnil
  · rename_i hcons
    cases hcons
    split
    · rename_i x y t
      by_cases hb : b = 0x25
      · simp only [if_pos hb, h hb _ _ _ rfl]
      · simp only [if_neg hb]
    · rfl

/-- Bytes without a percent sign come through one by one. -/
theorem percentDecodeBytes_append {xs ys : List UInt8} (h : ∀ b ∈ xs, b ≠ 0x25) :
    percentDecodeBytes (xs ++ ys) = xs.map charOfByte ++ percentDecodeBytes ys := by
  induction xs with
  | nil => rfl
  | cons x xs ih =>
    rw [List.cons_append, percentDecodeBytes_plain fun hx => absurd hx (h x List.mem_cons_self),
      ih fun b hb => h b (List.mem_cons_of_mem _ hb)]
    rfl

/-- The byte an escape stands for. -/
def escapedByte (h l : Char) : UInt8 :=
  UInt8.ofNat (16 * (hexValue h).getD 0 + (hexValue l).getD 0)

/-- The digit of a signed escape, `%+` and one digit. -/
def signedAt : List Char → Option Char
  | '%' :: '+' :: h :: _ => if (hexValue h).isSome then some h else none
  | _ => none

/-- A signed escape is a percent sign, a plus sign and a digit. -/
theorem signedAt_eq {cs : List Char} {h : Char} (hs : signedAt cs = some h) :
    ∃ rest, cs = '%' :: '+' :: h :: rest ∧ (hexValue h).isSome := by
  unfold signedAt at hs
  split at hs
  · split at hs
    · rename_i hhex
      cases hs
      exact ⟨_, rfl, hhex⟩
    · cases hs
  · cases hs

/-- An escape stands for the character of its byte. -/
theorem decodeText_escape {h l : Char} {rest : List Char} (hh : (hexValue h).isSome)
    (hl : (hexValue l).isSome) :
    decodeText ('%' :: h :: l :: rest) = charOfByte (escapedByte h l) :: decodeText rest := by
  obtain ⟨x, hx⟩ := Option.isSome_iff_exists.mp hh
  obtain ⟨y, hy⟩ := Option.isSome_iff_exists.mp hl
  have hascii := ascii_of_hexValue hh
  have lascii := ascii_of_hexValue hl
  have hmark : String.utf8EncodeChar '%' = [0x25] := by decide
  simp only [decodeText, List.flatMap_cons, hmark, Text.utf8_ascii (c := h) (by omega),
    Text.utf8_ascii (c := l) (by omega), List.cons_append, List.nil_append]
  rw [percentDecodeBytes, if_pos rfl, hexByte_digits hx hy]
  simp only [escapedByte, hx, hy, Option.getD_some]

/-- A signed escape stands for the character of its digit. -/
theorem decodeText_signed {h : Char} {rest : List Char} (hh : (hexValue h).isSome) :
    decodeText ('%' :: '+' :: h :: rest)
      = charOfByte (UInt8.ofNat ((hexValue h).getD 0)) :: decodeText rest := by
  obtain ⟨x, hx⟩ := Option.isSome_iff_exists.mp hh
  have hascii := ascii_of_hexValue hh
  have hmark : String.utf8EncodeChar '%' = [0x25] := by decide
  have hsign : String.utf8EncodeChar '+' = [0x2b] := by decide
  simp only [decodeText, List.flatMap_cons, hmark, hsign, Text.utf8_ascii (c := h) (by omega),
    List.cons_append, List.nil_append]
  rw [percentDecodeBytes, if_pos rfl, hexByte_signed hx]
  simp only [hx, Option.getD_some]

/-- The first bytes of a text decide its first character when they are ASCII. -/
theorem head_of_bytes {cs : List Char} {b : UInt8} {bs : List UInt8} (hb : b.toNat < 128)
    (h : cs.flatMap String.utf8EncodeChar = b :: bs) :
    ∃ c rest, cs = c :: rest ∧ charOfByte b = c ∧
      rest.flatMap String.utf8EncodeChar = bs := by
  cases cs with
  | nil => cases h
  | cons c rest =>
    rw [List.flatMap_cons] at h
    by_cases hc : c.toNat < 128
    · rw [Text.utf8_ascii hc] at h
      obtain ⟨hbyte, hrest⟩ := List.cons_eq_cons.mp h
      refine ⟨c, rest, rfl, ?_, hrest⟩
      rw [← hbyte]
      exact charOfByte_of_toNat (Text.toNat_ofNat_ascii hc).symm
    · obtain ⟨x, xs, hx⟩ := utf8_ne_nil c
      have hhigh := utf8_high (Nat.le_of_not_lt hc) x (by rw [hx]; exact List.mem_cons_self)
      rw [hx] at h
      obtain ⟨hbyte, -⟩ := List.cons_eq_cons.mp h
      rw [hbyte] at hhigh
      omega

/-- Any other character stands for the characters of its bytes. -/
theorem decodeText_plain {c : Char} {rest : List Char} (hescape : escapeAt (c :: rest) = none)
    (hsigned : signedAt (c :: rest) = none) :
    decodeText (c :: rest) = latin c ++ decodeText rest := by
  simp only [decodeText, List.flatMap_cons]
  by_cases hc : c.toNat < 128
  · rw [Text.utf8_ascii hc, latin_ascii hc, List.singleton_append, percentDecodeBytes_plain,
      charOfByte_of_toNat (Text.toNat_ofNat_ascii hc).symm]
    · rfl
    · -- a percent sign stays unless the next two characters make it an escape
      intro hmark x y t hbytes
      by_contra hsome
      obtain ⟨r, hr⟩ := Option.ne_none_iff_exists'.mp hsome
      obtain ⟨hx, hy⟩ := digits_of_hexByte hr
      have hyascii := ascii_of_hexValue hy
      rw [charOfByte_toNat] at hyascii
      have hxascii : x.toNat < 128 := by
        obtain rfl | hx := hx
        · decide
        · have := ascii_of_hexValue hx
          rw [charOfByte_toNat] at this
          omega
      obtain ⟨h, rest', rfl, rfl, hrest⟩ := head_of_bytes hxascii hbytes
      obtain ⟨l, rest'', rfl, rfl, -⟩ := head_of_bytes (by omega) hrest
      have hpercent : c = '%' := by
        have := congrArg UInt8.toNat hmark
        rw [Text.toNat_ofNat_ascii hc] at this
        exact Char.ext (UInt32.toNat_inj.mp this)
      subst hpercent
      obtain rfl | hx := hx
      · have hplus : charOfByte 0x2b = '+' := by decide
        rw [hplus] at hsigned
        simp [signedAt, hy] at hsigned
      · simp [escapeAt, hx, hy] at hescape
  · rw [percentDecodeBytes_append]
    · rfl
    · intro b hb hmark
      have := utf8_high (Nat.le_of_not_lt hc) b hb
      rw [hmark] at this
      simp at this

/-- The cases of the decoder: an escape, a signed escape, any other character. -/
theorem text_induction {motive : List Char → Prop} (nil : motive [])
    (escape : ∀ h l rest, (hexValue h).isSome → (hexValue l).isSome → motive rest →
      motive ('%' :: h :: l :: rest))
    (signed : ∀ h rest, (hexValue h).isSome → motive rest → motive ('%' :: '+' :: h :: rest))
    (plain : ∀ c rest, escapeAt (c :: rest) = none → signedAt (c :: rest) = none →
      motive rest → motive (c :: rest)) (cs : List Char) : motive cs := by
  cases cs with
  | nil => exact nil
  | cons c rest =>
    cases he : escapeAt (c :: rest) with
    | some hl =>
      obtain ⟨rest', heq, hh, hl⟩ := escapeAt_eq he
      have hlt : rest'.length < rest.length := by
        have hlength := congrArg List.length heq
        simp only [List.length_cons] at hlength
        omega
      rw [heq]
      exact escape _ _ _ hh hl (text_induction nil escape signed plain rest')
    | none =>
      cases hs : signedAt (c :: rest) with
      | some h =>
        obtain ⟨rest', heq, hh⟩ := signedAt_eq hs
        have hlt : rest'.length < rest.length := by
          have hlength := congrArg List.length heq
          simp only [List.length_cons] at hlength
          omega
        rw [heq]
        exact signed _ _ hh (text_induction nil escape signed plain rest')
      | none => exact plain c rest he hs (text_induction nil escape signed plain rest)
termination_by cs.length

/-! ## Encoded texts -/

/-- An unreserved character is an ASCII one, and no percent sign. -/
theorem not_mark_of_unreserved {c : Char} (h : unreserved c = true) :
    c.toNat < 128 ∧ c ≠ '%' := by
  simp only [unreserved, Text.isAsciiAlphanumeric, Text.isAsciiAlpha, Text.isAsciiDigit,
    Bool.or_eq_true, Bool.and_eq_true, decide_eq_true_eq, Char.le_def, UInt32.le_iff_toNat_le,
    List.mem_cons, List.not_mem_nil, or_false] at h
  constructor
  · show c.val.toNat < 128
    obtain ((h | h) | h) | rfl | rfl | rfl | rfl := h
    · exact Nat.lt_of_le_of_lt h.2 (by decide)
    · exact Nat.lt_of_le_of_lt h.2 (by decide)
    · exact Nat.lt_of_le_of_lt h.2 (by decide)
    all_goals decide
  · rintro rfl
    revert h
    decide

/-- Each byte of an encoded text becomes one character. -/
theorem decodeText_of_encodes {bs : List UInt8} {cs : List Char} (h : Encodes bs cs) :
    decodeText cs = bs.map charOfByte := by
  induction h with
  | nil => rfl
  | @plain b c bs cs hc hb _ ih =>
    obtain ⟨hascii, hmark⟩ := not_mark_of_unreserved hc
    rw [decodeText_plain (by simp [escapeAt, hmark]) (by simp [signedAt, hmark]),
      latin_ascii hascii, ih, List.map_cons, charOfByte_of_toNat hb]
    rfl
  | @escape b h l x y bs cs hh hl hb _ ih =>
    have hbyte : escapedByte h l = b := by
      apply UInt8.toNat_inj.mp
      have := hexValue_lt hh
      have := hexValue_lt hl
      rw [escapedByte, hh, hl, UInt8.toNat_ofNat', hb]
      simp only [Option.getD_some]
      omega
    rw [decodeText_escape (by simp [hh]) (by simp [hl]), ih, hbyte, List.map_cons]

/-- The bytes of a text, as characters. -/
theorem bytes_map_latin (cs : List Char) :
    (cs.flatMap String.utf8EncodeChar).map charOfByte = cs.flatMap latin := by
  rw [List.map_flatMap]
  rfl

/-- A text does not get shorter. -/
theorem length_flatMap_latin (cs : List Char) : cs.length ≤ (cs.flatMap latin).length := by
  induction cs with
  | nil => simp
  | cons c cs ih =>
    rw [List.flatMap_cons, List.length_append, List.length_cons]
    by_cases hc : c.toNat < 128
    · rw [latin_ascii hc, List.length_singleton]
      omega
    · obtain ⟨x, y, ys, hlatin⟩ := latin_high (Nat.le_of_not_lt hc)
      rw [hlatin, List.length_cons]
      omega

/-- Pushing the bytes one by one gives the text back exactly when it is ASCII. -/
theorem flatMap_latin_eq_iff (cs : List Char) :
    cs.flatMap latin = cs ↔ ∀ c ∈ cs, c.toNat < 128 := by
  induction cs with
  | nil => simp
  | cons c cs ih =>
    rw [List.flatMap_cons, List.forall_mem_cons, ← ih]
    by_cases hc : c.toNat < 128
    · rw [latin_ascii hc, List.singleton_append]
      simp [hc]
    · obtain ⟨x, y, ys, hlatin⟩ := latin_high (Nat.le_of_not_lt hc)
      simp only [hc, false_and, iff_false]
      intro heq
      have hlength := congrArg List.length heq
      have := length_flatMap_latin cs
      simp only [hlatin, List.cons_append, List.length_cons, List.length_append] at hlength
      omega

/-! ## Everything but the escapes -/

/-- A text with each escape replaced by its byte, as a character, and the rest kept. -/
def spread : List Piece → List Char
  | [] => []
  | .escape h l :: ps => charOfByte (escapedByte h l) :: spread ps
  | .plain c :: ps => c :: spread ps

/-- A byte may be written as its escape. -/
theorem encodes_append {bs : List UInt8} {cs : List Char} (hcs : Encodes bs cs) {h l : Char}
    (hh : (hexValue h).isSome) (hl : (hexValue l).isSome) :
    Encodes (bs ++ [escapedByte h l]) (cs ++ ['%', h, l]) := by
  induction hcs with
  | nil =>
    obtain ⟨x, hx⟩ := Option.isSome_iff_exists.mp hh
    obtain ⟨y, hy⟩ := Option.isSome_iff_exists.mp hl
    have := hexValue_lt hx
    have := hexValue_lt hy
    refine .escape hx hy ?_ .nil
    rw [escapedByte, hx, hy, UInt8.toNat_ofNat']
    simp only [Option.getD_some]
    omega
  | plain hc hb _ ih => exact .plain hc hb ih
  | escape hx hy hb _ ih => exact .escape hx hy hb ih

/-- The pieces of a signed escape are its three characters. -/
theorem pieces_signed {h : Char} {rest : List Char} (hh : (hexValue h).isSome) :
    pieces ('%' :: '+' :: h :: rest)
      = .plain '%' :: .plain '+' :: .plain h :: pieces rest := by
  have hascii := ascii_of_hexValue hh
  have hmark : h ≠ '%' := by
    rintro rfl
    simp at hascii
  have hplus : hexValue '+' = none := by decide
  rw [pieces_plain (by simp [escapeAt, hplus]), pieces_plain (by simp [escapeAt]),
    pieces_plain (by simp [escapeAt, hmark])]

/-- What is kept around the escapes, with the stretch read so far. -/
theorem keepFrom_pieces (cs : List Char) : ∀ {bs : List UInt8} {seen : List Char},
    Encodes bs seen →
    keepFrom (fun cs => (percentDecode (String.ofList cs)).toList) seen (pieces cs)
      = bs.map charOfByte ++ spread (pieces cs) := by
  have hstretch {bs : List UInt8} {seen : List Char} (hseen : Encodes bs seen) :
      (percentDecode (String.ofList seen)).toList = bs.map charOfByte := by
    rw [percentDecode_eq, String.toList_ofList, String.toList_ofList,
      decodeText_of_encodes hseen]
  have hplain {c : Char} {ps : List Piece}
      (ih : ∀ {bs : List UInt8} {seen : List Char}, Encodes bs seen →
        keepFrom (fun cs => (percentDecode (String.ofList cs)).toList) seen ps
          = bs.map charOfByte ++ spread ps) {bs : List UInt8} {seen : List Char}
      (hseen : Encodes bs seen) :
      keepFrom (fun cs => (percentDecode (String.ofList cs)).toList) seen (.plain c :: ps)
        = bs.map charOfByte ++ spread (.plain c :: ps) := by
    rw [keepFrom, hstretch hseen, ih .nil]
    rfl
  induction cs using text_induction with
  | nil =>
    intro bs seen hseen
    rw [pieces, keepFrom, hstretch hseen, spread, List.append_nil]
  | escape h l rest hh hl ih =>
    intro bs seen hseen
    rw [pieces_escape hh hl, keepFrom, ih (encodes_append hseen hh hl), spread]
    simp
  | signed h rest hh ih =>
    intro bs seen hseen
    rw [pieces_signed hh]
    exact hplain (hplain (hplain ih)) hseen
  | plain c rest he hs ih =>
    intro bs seen hseen
    rw [pieces_plain he]
    exact hplain ih hseen

/-- What is kept of a name is the spread of its pieces. -/
theorem keepRest_percentDecode (text : String) :
    keepRest percentDecode text = String.ofList (spread (pieces text.toList)) := by
  rw [keepRest, keepFrom_pieces _ .nil]
  rfl

/-- Once the decoder's output is longer than the kept text it stays so: `queue` are the
characters pushed too many, and a signed escape shortens the output by two only after
three of them. -/
theorem queue_ne_spread (cs : List Char) :
    ∀ queue : List Char, queue ≠ [] → queue ++ decodeText cs ≠ spread (pieces cs) := by
  induction cs using text_induction with
  | nil =>
    intro queue hqueue heq
    exact hqueue (List.append_eq_nil_iff.mp heq).1
  | escape h l rest hh hl ih =>
    intro queue hqueue heq
    obtain ⟨q, queue, rfl⟩ := List.exists_cons_of_ne_nil hqueue
    rw [decodeText_escape hh hl, pieces_escape hh hl, spread, List.cons_append] at heq
    obtain ⟨-, hrest⟩ := List.cons_eq_cons.mp heq
    exact ih (queue ++ [charOfByte (escapedByte h l)]) (by simp)
      (by rw [← hrest, List.append_assoc, List.singleton_append])
  | signed h rest hh ih =>
    intro queue hqueue heq
    have hascii := ascii_of_hexValue hh
    obtain ⟨x, hx⟩ := Option.isSome_iff_exists.mp hh
    have hsmall := hexValue_lt hx
    have hdigit : (charOfByte (UInt8.ofNat ((hexValue h).getD 0))).toNat < 16 := by
      rw [charOfByte_toNat, hx, Option.getD_some, UInt8.toNat_ofNat']
      omega
    rw [decodeText_signed hh, pieces_signed hh] at heq
    simp only [spread] at heq
    obtain ⟨q, queue, rfl⟩ := List.exists_cons_of_ne_nil hqueue
    obtain ⟨-, heq⟩ := List.cons_eq_cons.mp heq
    -- neither `+` nor a digit is a character below sixteen
    cases queue with
    | nil =>
      obtain ⟨hplus, -⟩ := List.cons_eq_cons.mp heq
      rw [hplus] at hdigit
      exact absurd hdigit (by decide)
    | cons q queue =>
      obtain ⟨-, heq⟩ := List.cons_eq_cons.mp heq
      cases queue with
      | nil =>
        obtain ⟨hh', -⟩ := List.cons_eq_cons.mp heq
        rw [hh'] at hdigit
        omega
      | cons q queue =>
        obtain ⟨-, heq⟩ := List.cons_eq_cons.mp heq
        exact ih (queue ++ [charOfByte (UInt8.ofNat ((hexValue h).getD 0))]) (by simp)
          (by rw [← heq, List.append_assoc, List.singleton_append]; rfl)
  | plain c rest he hs ih =>
    intro queue hqueue heq
    obtain ⟨q, queue, rfl⟩ := List.exists_cons_of_ne_nil hqueue
    rw [decodeText_plain he hs, pieces_plain he, spread, List.cons_append] at heq
    obtain ⟨-, hrest⟩ := List.cons_eq_cons.mp heq
    obtain ⟨b, bs, hbytes⟩ := utf8_ne_nil c
    exact ih (queue ++ latin c) (by simp [latin, hbytes])
      (by rw [← hrest, List.append_assoc])

/-- A text with a signed escape in it. -/
def signedEscape (text : String) : Bool :=
  text.toList.tails.any fun cs => (signedAt cs).isSome

/-- A signed escape begins with a percent sign. -/
theorem signedAt_of_ne {c : Char} {rest : List Char} (h : c ≠ '%') :
    signedAt (c :: rest) = none := by
  simp [signedAt, h]

/-- After an escape the next one is looked for. -/
theorem tails_any_escape {h l : Char} {rest : List Char} (hh : (hexValue h).isSome)
    (hl : (hexValue l).isSome) :
    ('%' :: h :: l :: rest).tails.any (fun cs => (signedAt cs).isSome)
      = rest.tails.any fun cs => (signedAt cs).isSome := by
  have hascii := ascii_of_hexValue hh
  have lascii := ascii_of_hexValue hl
  have hsign : signedAt ('%' :: h :: l :: rest) = none := by
    unfold signedAt
    split
    · rename_i heq
      cases heq
      exact absurd hascii (by decide)
    · rfl
  have hmark {c : Char} (hc : 0x30 ≤ c.toNat) : c ≠ '%' := by
    rintro rfl
    exact absurd hc (by decide)
  simp only [List.tails, List.any_cons, hsign, signedAt_of_ne (hmark hascii.1),
    signedAt_of_ne (hmark lascii.1), Option.isSome_none, Bool.false_or]

/-- The decoder keeps all but the escapes exactly for ASCII texts without signed
escapes. -/
theorem decodeText_eq_spread_iff (cs : List Char) :
    decodeText cs = spread (pieces cs) ↔
      (∀ c ∈ cs, c.toNat < 128) ∧ cs.tails.any (fun cs => (signedAt cs).isSome) = false := by
  induction cs using text_induction with
  | nil => simp [decodeText, percentDecodeBytes, pieces, spread, signedAt]
  | escape h l rest hh hl ih =>
    have hascii := ascii_of_hexValue hh
    have lascii := ascii_of_hexValue hl
    rw [decodeText_escape hh hl, pieces_escape hh hl, spread, List.cons_inj_right, ih,
      tails_any_escape hh hl]
    simp only [List.forall_mem_cons]
    constructor
    · rintro ⟨hrest, hsigned⟩
      exact ⟨⟨by decide, by omega, by omega, hrest⟩, hsigned⟩
    · rintro ⟨⟨-, -, -, hrest⟩, hsigned⟩
      exact ⟨hrest, hsigned⟩
  | signed h rest hh ih =>
    have hhere : signedAt ('%' :: '+' :: h :: rest) = some h := by simp [signedAt, hh]
    have hsmall : (charOfByte (UInt8.ofNat ((hexValue h).getD 0))).toNat < 16 := by
      obtain ⟨x, hx⟩ := Option.isSome_iff_exists.mp hh
      have := hexValue_lt hx
      rw [charOfByte_toNat, hx, Option.getD_some, UInt8.toNat_ofNat']
      omega
    rw [decodeText_signed hh, pieces_signed hh]
    simp only [spread, List.tails, List.any_cons, hhere, Option.isSome_some, Bool.true_or,
      Bool.true_eq_false, and_false, iff_false]
    intro heq
    obtain ⟨hmark, -⟩ := List.cons_eq_cons.mp heq
    rw [hmark] at hsmall
    exact absurd hsmall (by decide)
  | plain c rest he hs ih =>
    rw [decodeText_plain he hs, pieces_plain he, spread, List.forall_mem_cons]
    simp only [List.tails, List.any_cons, hs, Option.isSome_none, Bool.false_or]
    by_cases hc : c.toNat < 128
    · rw [latin_ascii hc, List.singleton_append, List.cons_inj_right, ih]
      simp [hc]
    · obtain ⟨x, y, ys, hlatin⟩ := latin_high (Nat.le_of_not_lt hc)
      simp only [hc, false_and, iff_false]
      intro heq
      rw [hlatin] at heq
      obtain ⟨-, heq⟩ := List.cons_eq_cons.mp heq
      exact queue_ne_spread rest (y :: ys) (by simp) heq

/-- `percent_decode` undoes every percent-encoding of a text exactly when the text is
ASCII, and it touches nothing but well-formed escapes exactly in ASCII texts without
signed escapes. -/
theorem percentDecode_iff (s e v : String) :
    (Encodes (Text.bytes s) e.toList → (percentDecode e = s ↔ asciiText s = true)) ∧
      (percentDecode v = keepRest percentDecode v ↔
        asciiText v = true ∧ signedEscape v = false) := by
  constructor
  · intro he
    rw [percentDecode_eq, decodeText_of_encodes he, Text.bytes, bytes_map_latin,
      ← String.toList_inj, String.toList_ofList, flatMap_latin_eq_iff]
    simp only [asciiText, List.all_eq_true, decide_eq_true_eq]
  · rw [keepRest_percentDecode, percentDecode_eq, String.ofList_inj, decodeText_eq_spread_iff,
      signedEscape]
    simp only [asciiText, List.all_eq_true, decide_eq_true_eq]

/-- An encoded space in an ASCII name. -/
theorem percentDecode_iff_ascii :
    percentDecode "a%20b" = "a b" ∧ percentDecode "a%20b" = keepRest percentDecode "a%20b" := by
  have hencodes : Encodes (Text.bytes "a b") "a%20b".toList :=
    .plain (by decide) (by decide)
      (.escape (x := 2) (y := 0) (by decide) (by decide) (by decide)
        (.plain (by decide) (by decide) .nil))
  have hiff := percentDecode_iff "a b" "a%20b" "a%20b"
  exact ⟨(hiff.1 hencodes).mpr (by decide), hiff.2.mpr (by decide)⟩

/-- A Chinese name comes back neither from its encoding nor from its raw characters, and
`%+5` is decoded although it is no escape. -/
theorem percentDecode_garbles :
    ¬ ((∀ s e : String, Encodes (Text.bytes s) e.toList → percentDecode e = s) ∧
      ∀ v : String, percentDecode v = keepRest percentDecode v) ∧
    Encodes (Text.bytes "你") "%E4%BD%A0".toList ∧
    percentDecode "%E4%BD%A0" = "ä½\u00a0" ∧ percentDecode "你" = "ä½\u00a0" ∧
    keepRest percentDecode "你" = "你" ∧
    percentDecode "a%+5" = "a\x05" ∧ keepRest percentDecode "a%+5" = "a%+5" := by
  have hencodes : Encodes (Text.bytes "你") "%E4%BD%A0".toList :=
    .escape (x := 14) (y := 4) (by decide) (by decide) (by decide)
      (.escape (x := 11) (y := 13) (by decide) (by decide) (by decide)
        (.escape (x := 10) (y := 0) (by decide) (by decide) (by decide) .nil))
  refine ⟨?_, hencodes, by decide, by decide, by decide, by decide, by decide⟩
  intro ⟨hundoes, _⟩
  exact absurd (hundoes "你" "%E4%BD%A0" hencodes) (by decide)

end Veyra
