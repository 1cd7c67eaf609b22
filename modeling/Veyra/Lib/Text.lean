import Mathlib.Algebra.GroupWithZero.Nat
import Mathlib.Data.String.Basic
import Mathlib.Data.List.Basic
import Mathlib.Data.List.DropRight
import Mathlib.Data.List.Infix

/-!
# Veyra.Lib.Text

The string functions of Rust's standard library that programs lean on when
they validate text: `trim`, `is_control`, `len`, `to_ascii_lowercase`,
`split_once`, `strip_prefix`, the decimal `parse` of unsigned integers.

They are stated over `String` but computed on the character list, so every
one of them evaluates in the kernel.
-/

namespace Text

/-! ## Characters -/

/-- Unicode `White_Space`, the class `char::is_whitespace` tests. -/
def isWhite (c : Char) : Bool :=
  let n := c.toNat
  (9 ≤ n && n ≤ 13) || n == 0x20 || n == 0x85 || n == 0xA0 || n == 0x1680
    || (0x2000 ≤ n && n ≤ 0x200A) || n == 0x2028 || n == 0x2029 || n == 0x202F
    || n == 0x205F || n == 0x3000

/-- Unicode category `Cc`, the class `char::is_control` tests. -/
def isControl (c : Char) : Bool := c.toNat ≤ 0x1F || (0x7F ≤ c.toNat && c.toNat ≤ 0x9F)

def isAsciiDigit (c : Char) : Bool := '0' ≤ c && c ≤ '9'

def isAsciiAlpha (c : Char) : Bool := ('a' ≤ c && c ≤ 'z') || ('A' ≤ c && c ≤ 'Z')

def isAsciiAlphanumeric (c : Char) : Bool := isAsciiAlpha c || isAsciiDigit c

/-- `char::to_ascii_lowercase`. -/
def lowerChar (c : Char) : Char :=
  if 'A' ≤ c && c ≤ 'Z' then Char.ofNat (c.toNat + 32) else c

/-! ## Whole strings -/

/-- `str::trim_start` on characters. -/
def trimStartChars (cs : List Char) : List Char := cs.dropWhile isWhite

/-- `str::trim` on characters. -/
def trimChars (cs : List Char) : List Char :=
  ((trimStartChars cs).reverse.dropWhile isWhite).reverse

/-- `str::trim`. -/
def trim (s : String) : String := String.ofList (trimChars s.toList)

/-- `str::trim_start`. -/
def trimStart (s : String) : String := String.ofList (trimStartChars s.toList)

/-- `str::trim_start_matches(c)`. -/
def trimStartMatches (c : Char) (s : String) : String :=
  String.ofList (s.toList.dropWhile (· == c))

/-- `s.trim().is_empty()`. -/
def blank (s : String) : Bool := s.toList.all isWhite

/-- `str::to_ascii_lowercase`. -/
def lower (s : String) : String := String.ofList (s.toList.map lowerChar)

/-- The UTF-8 bytes of a string, `str::bytes`. -/
def bytes (s : String) : List UInt8 := s.toList.flatMap String.utf8EncodeChar

/-- `str::len`: the number of UTF-8 bytes. -/
def len (s : String) : Nat := (s.toList.map Char.utf8Size).sum

/-- `str::contains`: one string occurs in another. -/
def contains (s needle : String) : Bool := s.toList.tails.any needle.toList.isPrefixOf

/-- `str::starts_with`. -/
def startsWith (s p : String) : Bool := p.toList.isPrefixOf s.toList

/-- `str::strip_prefix`. -/
def stripPrefix (p s : String) : Option String :=
  if startsWith s p then some (String.ofList (s.toList.drop p.toList.length)) else none

/-- `str::strip_suffix` of a single character. -/
def stripSuffixChar (c : Char) (s : String) : Option String :=
  if s.toList.getLast? = some c then some (String.ofList s.toList.dropLast) else none

/-- `str::split_once` on characters: split at the first occurrence. -/
def splitOnceChars (sep : List Char) : List Char → Option (List Char × List Char)
  | [] => if sep.isEmpty then some ([], []) else none
  | c :: cs =>
    if sep.isPrefixOf (c :: cs) then some ([], (c :: cs).drop sep.length)
    else (splitOnceChars sep cs).map fun p => (c :: p.1, p.2)

/-- `str::split_once`. -/
def splitOnce (sep s : String) : Option (String × String) :=
  (splitOnceChars sep.toList s.toList).map fun p => (String.ofList p.1, String.ofList p.2)

/-- `str::rsplit_once` at a single character: split at the last occurrence. -/
def rsplitOnce (sep : Char) (s : String) : Option (String × String) :=
  (splitOnceChars [sep] s.toList.reverse).map fun p =>
    (String.ofList p.2.reverse, String.ofList p.1.reverse)

/-- `str::split` at a single character, on characters. -/
def splitChars (sep : Char) : List Char → List (List Char)
  | [] => [[]]
  | c :: cs =>
    match splitChars sep cs with
    | [] => [[]]
    | w :: ws => if c == sep then [] :: w :: ws else (c :: w) :: ws

/-- `str::split` at a single character. -/
def split (sep : Char) (s : String) : List String :=
  (splitChars sep s.toList).map String.ofList

/-- `str::lines`: a line feed ends a line, and a carriage return right before it is part
of the ending; nothing follows a final line feed. -/
def lines (s : String) : List String :=
  let pieces := splitChars '\n' s.toList
  let ended := pieces.dropLast.map fun p => if p.getLast? = some '\r' then p.dropLast else p
  (ended ++ pieces.getLast?.toList.filter (· ≠ [])).map String.ofList

/-! ## Decimal numbers -/

/-- The value of a non-empty run of ASCII digits. -/
def digits : List Char → Option Nat
  | [] => none
  | cs => cs.foldl (fun acc c => acc.bind fun n =>
      if isAsciiDigit c then some (10 * n + (c.toNat - '0'.toNat)) else none) (some 0)

/-- `str::parse` for an unsigned integer type with `bound` values: an
optional `+`, then digits, in range. -/
def parseUnsigned (bound : Nat) (s : String) : Option Nat :=
  let body := match s.toList with
    | '+' :: rest => rest
    | cs => cs
  (digits body).filter (· < bound)

def parseU8 (s : String) : Option UInt8 := (parseUnsigned (2 ^ 8) s).map UInt8.ofNat
def parseU16 (s : String) : Option UInt16 := (parseUnsigned (2 ^ 16) s).map UInt16.ofNat
def parseU32 (s : String) : Option UInt32 := (parseUnsigned (2 ^ 32) s).map UInt32.ofNat
def parseU64 (s : String) : Option UInt64 := (parseUnsigned (2 ^ 64) s).map UInt64.ofNat

/-! ## Facts -/

@[simp] theorem isWhite_nul : isWhite '\x00' = false := by decide

theorem blank_empty : blank "" = true := by decide

/-- A string that is not blank is not empty. -/
theorem ne_empty_of_not_blank {s : String} (h : blank s = false) : s ≠ "" := by
  rintro rfl
  simp [blank_empty] at h

/-- A split has at least one piece. -/
theorem splitChars_ne_nil (sep : Char) (cs : List Char) : splitChars sep cs ≠ [] := by
  induction cs with
  | nil => simp [splitChars]
  | cons c cs ih =>
    rw [splitChars]
    split
    · simp
    · split <;> simp

/-- A prefix that was put there is taken off. -/
theorem stripPrefix_append (p s : String) : stripPrefix p (p ++ s) = some s := by
  simp [stripPrefix, startsWith, String.toList_append]

/-- So is a last character. -/
theorem stripSuffixChar_push (c : Char) (s : String) : stripSuffixChar c (s.push c) = some s := by
  simp [stripSuffixChar]

/-! ## Decimal numbers are read back -/

/-- A number is read from any digits. -/
theorem digits_eq_ofDigitChars {cs : List Char} (hne : cs ≠ []) (hd : ∀ c ∈ cs, c.isDigit) :
    digits cs = some (Nat.ofDigitChars 10 cs 0) := by
  have hfold : ∀ (ds : List Char), (∀ c ∈ ds, c.isDigit) → ∀ n : Nat,
      ds.foldl (fun acc c => acc.bind fun n =>
        if isAsciiDigit c then some (10 * n + (c.toNat - '0'.toNat)) else none) (some n) =
      some (Nat.ofDigitChars 10 ds n) := by
    intro ds
    induction ds with
    | nil => intro _ n; rfl
    | cons d ds ih =>
      intro hds n
      have hdigit : isAsciiDigit d = true := by
        have h := hds d (by simp)
        simpa [Char.isDigit, isAsciiDigit, Char.le_def, UInt32.le_iff_toNat_le] using h
      rw [List.foldl_cons, Option.bind_some, if_pos hdigit,
        ih (fun c hc => hds c (List.mem_cons_of_mem _ hc)), Nat.ofDigitChars_cons]
  cases cs with
  | nil => exact absurd rfl hne
  | cons c cs => exact hfold (c :: cs) hd 0

/-- A number written in decimal is read back, if the type has it. -/
theorem parseUnsigned_repr {bound n : Nat} (h : n < bound) :
    parseUnsigned bound n.repr = some n := by
  have hdigits : digits (Nat.toDigits 10 n) = some n := by
    rw [digits_eq_ofDigitChars Nat.toDigits_ne_nil
      (fun c hc => Nat.isDigit_of_mem_toDigits (by omega) (by omega) hc),
      Nat.ofDigitChars_ten_toDigits]
  have hplus : ∀ cs, Nat.toDigits 10 n ≠ '+' :: cs := by
    intro cs he
    have hd : '+'.isDigit := Nat.isDigit_of_mem_toDigits (b := 10) (n := n) (by omega) (by omega)
      (by rw [he]; simp)
    exact absurd hd (by decide)
  rw [parseUnsigned, Nat.toList_repr]
  split
  · next cs he => exact absurd he (hplus cs)
  · rw [hdigits]
    simp [h]

/-- Trimming twice is trimming once. -/
theorem trimChars_trimChars (cs : List Char) : trimChars (trimChars cs) = trimChars cs := by
  have htrim : ∀ cs, trimChars cs = (cs.dropWhile isWhite).rdropWhile isWhite := fun _ => rfl
  have hstart : ((cs.dropWhile isWhite).rdropWhile isWhite).dropWhile isWhite =
      (cs.dropWhile isWhite).rdropWhile isWhite := by
    rw [List.dropWhile_eq_self_iff]
    intro hpos
    have hprefix := List.rdropWhile_prefix isWhite (cs.dropWhile isWhite)
    rw [List.IsPrefix.getElem hprefix hpos]
    exact List.dropWhile_get_zero_not isWhite cs (Nat.lt_of_lt_of_le hpos hprefix.length_le)
  rw [htrim, htrim, hstart, List.rdropWhile_idempotent]

/-- The same for texts. -/
theorem trim_trim (s : String) : trim (trim s) = trim s := by
  rw [trim, trim, String.toList_ofList, trimChars_trimChars]

/-! ## Bytes -/

/-- An ASCII character is one byte. -/
theorem utf8_ascii {c : Char} (h : c.toNat < 128) :
    String.utf8EncodeChar c = [UInt8.ofNat c.toNat] := by
  have hle : c.val.toNat ≤ 0x7f := Nat.le_of_lt_succ h
  unfold String.utf8EncodeChar
  rw [if_pos hle]
  rfl

theorem toNat_ofNat_ascii {n : Nat} (h : n < 128) : (UInt8.ofNat n).toNat = n := by
  rw [UInt8.toNat_ofNat']
  omega

/-- The bytes are those that the string is stored as. -/
theorem bytes_eq (s : String) : bytes s = s.toByteArray.data.toList := by
  have hstored := congrArg (fun b : ByteArray => b.data.toList) (String.utf8Encode_toList (b := s))
  simpa [bytes, List.utf8Encode] using hstored

theorem bytes_ofList (cs : List Char) :
    bytes (String.ofList cs) = cs.flatMap String.utf8EncodeChar := by
  rw [bytes, String.toList_ofList]

/-- The bytes of ASCII characters are their numbers. -/
theorem bytes_ascii {cs : List Char} (h : ∀ c ∈ cs, c.toNat < 128) :
    bytes (String.ofList cs) = cs.map fun c => UInt8.ofNat c.toNat := by
  rw [bytes, String.toList_ofList]
  induction cs with
  | nil => rfl
  | cons c cs ih =>
    rw [List.flatMap_cons, utf8_ascii (h c List.mem_cons_self),
      ih fun d hd => h d (List.mem_cons_of_mem c hd)]
    rfl

/-- The bytes of a text are valid UTF-8, and read back as the text. -/
theorem fromUTF8_bytes (s : String) : String.fromUTF8? ⟨(bytes s).toArray⟩ = some s := by
  have hbytes : (⟨(bytes s).toArray⟩ : ByteArray) = s.toByteArray := by
    rw [bytes_eq, Array.toArray_toList]
  rw [hbytes, String.fromUTF8?, dif_pos s.isValidUTF8]
  rfl

/-! ## Parts of a text -/

/-- Every character of a piece is one of the text. -/
theorem mem_of_mem_splitChars {sep c : Char} {cs : List Char} :
    ∀ {piece : List Char}, piece ∈ splitChars sep cs → c ∈ piece → c ∈ cs := by
  induction cs with
  | nil =>
    intro piece hpiece hc
    rw [splitChars, List.mem_singleton] at hpiece
    rw [hpiece] at hc
    cases hc
  | cons d cs ih =>
    intro piece hpiece hc
    rw [splitChars] at hpiece
    cases hsplit : splitChars sep cs with
    | nil => exact absurd hsplit (splitChars_ne_nil sep cs)
    | cons w ws =>
      rw [hsplit] at ih hpiece
      simp only at hpiece
      split at hpiece
      · obtain rfl | hpiece := List.mem_cons.mp hpiece
        · cases hc
        · exact List.mem_cons_of_mem d (ih hpiece hc)
      · obtain rfl | hpiece := List.mem_cons.mp hpiece
        · obtain rfl | hc := List.mem_cons.mp hc
          · exact List.mem_cons_self
          · exact List.mem_cons_of_mem d (ih List.mem_cons_self hc)
        · exact List.mem_cons_of_mem d (ih (List.mem_cons_of_mem w hpiece) hc)

/-- The lines of a text have characters of the text only. -/
theorem mem_of_mem_lines {s line : String} {c : Char} (hline : line ∈ lines s)
    (hc : c ∈ line.toList) : c ∈ s.toList := by
  obtain ⟨piece, hpiece, rfl⟩ := List.mem_map.mp hline
  rw [String.toList_ofList] at hc
  obtain hpiece | hpiece := List.mem_append.mp hpiece
  · obtain ⟨whole, hwhole, rfl⟩ := List.mem_map.mp hpiece
    have hmem := List.mem_of_mem_dropLast hwhole
    split at hc
    · exact mem_of_mem_splitChars hmem (List.mem_of_mem_dropLast hc)
    · exact mem_of_mem_splitChars hmem hc
  · have hmem : piece ∈ splitChars '\n' s.toList := by
      have hlast := (List.mem_filter.mp hpiece).1
      rw [Option.mem_toList] at hlast
      exact List.mem_of_getLast? hlast
    exact mem_of_mem_splitChars hmem hc

/-- Every character that trimming leaves at the start is one of the text. -/
theorem mem_of_mem_trimStart {s : String} {c : Char} (h : c ∈ (trimStart s).toList) :
    c ∈ s.toList := by
  rw [trimStart, String.toList_ofList] at h
  exact (List.dropWhile_sublist _).subset h

/-- Every character that trimming leaves is one of the text. -/
theorem mem_of_mem_trim {s : String} {c : Char} (h : c ∈ (trim s).toList) : c ∈ s.toList := by
  rw [trim, String.toList_ofList, trimChars, List.mem_reverse] at h
  have h := (List.dropWhile_sublist _).subset h
  exact (List.dropWhile_sublist _).subset (List.mem_reverse.mp h)

/-- Every character of a prefix is one of the text. -/
theorem mem_of_startsWith {s p : String} {c : Char} (h : startsWith s p = true)
    (hc : c ∈ p.toList) : c ∈ s.toList := by
  have hpre : p.toList <+: s.toList := List.isPrefixOf_iff_prefix.mp h
  exact hpre.subset hc

/-- Every character of a part is one of the text. -/
theorem mem_of_contains {s needle : String} {c : Char} (h : contains s needle = true)
    (hc : c ∈ needle.toList) : c ∈ s.toList := by
  obtain ⟨tail, htail, hprefix⟩ := List.any_eq_true.mp h
  have hpre := List.isPrefixOf_iff_prefix.mp hprefix
  exact ((List.mem_tails _ _).mp htail).subset (hpre.subset hc)

/-- A split at a character is at its first occurrence. -/
theorem splitOnceChars_eq_some {c : Char} {cs before after : List Char} :
    splitOnceChars [c] cs = some (before, after) ↔ cs = before ++ c :: after ∧ c ∉ before := by
  induction cs generalizing before with
  | nil => simp [splitOnceChars]
  | cons d cs ih =>
    by_cases hd : d = c
    · subst hd
      cases before with
      | nil => simp [splitOnceChars, eq_comm]
      | cons b before => simp +contextual [splitOnceChars]
    · cases before with
      | nil => simp [splitOnceChars, hd, Ne.symm hd]
      | cons b before =>
        have hstep : splitOnceChars [c] (d :: cs) =
            (splitOnceChars [c] cs).map fun p => (d :: p.1, p.2) := by
          simp [splitOnceChars, Ne.symm hd]
        rw [hstep, Option.map_eq_some_iff]
        constructor
        · rintro ⟨⟨_, _⟩, hsplit, heq⟩
          obtain ⟨hbefore, rfl⟩ := Prod.mk.inj heq
          obtain ⟨rfl, rfl⟩ := List.cons.inj hbefore
          obtain ⟨rfl, hmem⟩ := ih.mp hsplit
          exact ⟨rfl, by simp [Ne.symm hd, hmem]⟩
        · rintro ⟨heq, hmem⟩
          obtain ⟨rfl, hrest⟩ := List.cons.inj heq
          exact ⟨_, ih.mpr ⟨hrest, fun h => hmem (List.mem_cons_of_mem _ h)⟩, rfl⟩

/-- A text is not split at a character that it does not have. -/
theorem splitOnceChars_eq_none {c : Char} {cs : List Char} :
    splitOnceChars [c] cs = none ↔ c ∉ cs := by
  induction cs with
  | nil => simp [splitOnceChars]
  | cons d cs ih =>
    by_cases hd : c = d
    · simp [splitOnceChars, hd]
    · simp [splitOnceChars, hd, ih]

/-- A text contains a character if it has it. -/
theorem contains_singleton {s : String} {c : Char} :
    contains s (String.singleton c) = true ↔ c ∈ s.toList := by
  constructor
  · intro h
    exact mem_of_contains h (by simp)
  · intro h
    obtain ⟨before, after, hsplit⟩ := List.append_of_mem h
    refine List.any_eq_true.mpr ⟨c :: after, (List.mem_tails _ _).mpr ⟨before, hsplit.symm⟩, ?_⟩
    simp

/-- Dropping what a filter rejects anyway changes nothing. -/
theorem filter_dropWhile {α : Type} {p q : α → Bool} {xs : List α}
    (h : ∀ x ∈ xs, q x = true → p x = false) : (xs.dropWhile q).filter p = xs.filter p := by
  induction xs with
  | nil => rfl
  | cons x xs ih =>
    rw [List.dropWhile_cons]
    split
    · next hq =>
      have hp := h x List.mem_cons_self hq
      rw [ih fun y hy => h y (List.mem_cons_of_mem x hy), List.filter_cons, hp]
      rfl
    · rfl

/-- Trimming removes nothing that a filter keeps, if it rejects white space. -/
theorem filter_trimChars {p : Char → Bool} {cs : List Char}
    (h : ∀ c ∈ cs, isWhite c = true → p c = false) : (trimChars cs).filter p = cs.filter p := by
  have hstart : (trimStartChars cs).filter p = cs.filter p := filter_dropWhile h
  have hend : ((trimStartChars cs).reverse.dropWhile isWhite).filter p =
      (trimStartChars cs).reverse.filter p := by
    apply filter_dropWhile
    intro c hc
    exact h c ((List.dropWhile_sublist _).subset (List.mem_reverse.mp hc))
  rw [trimChars, List.filter_reverse, hend, List.filter_reverse, List.reverse_reverse, hstart]

end Text
