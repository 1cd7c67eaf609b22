import Veyra.Subscription.ValidDrafts
import Veyra.Lib.Base64

/-!
# Veyra.Subscription.Base64Wrapping

A base64 layer around a body changes nothing but the format that is reported: no other
format is ever taken for one, and what `decode_base64` reads is the body itself.
-/

namespace Veyra

open Check Base64

/-! ## The decoding loop -/

/-- The buffer after one more symbol. -/
def pushSextet (buffer : UInt32) (n : Nat) : UInt32 := (buffer <<< 6) ||| UInt32.ofNat n

/-- Six bits are pushed at the end of the buffer. -/
theorem pushSextet_toNat {buffer : UInt32} {n : Nat} (h : n < 64) :
    (pushSextet buffer n).toNat = buffer.toNat % 2 ^ 26 * 64 + n := by
  have hshift : (buffer <<< (6 : UInt32)).toNat = buffer.toNat % 2 ^ 26 * 2 ^ 6 := by
    have hsix : (2 : Nat) ^ ((6 : UInt32).toNat % 32) = 64 := rfl
    rw [UInt32.toNat_shiftLeft, Nat.shiftLeft_eq, hsix]
    omega
  have hvalue : (UInt32.ofNat n).toNat = n := by
    rw [UInt32.toNat_ofNat']
    omega
  rw [pushSextet, UInt32.toNat_or, hshift, hvalue, ← Nat.shiftLeft_eq,
    ← Nat.shiftLeft_add_eq_or_of_lt h, Nat.shiftLeft_eq]

/-- The byte that stands above the lowest bits of the buffer. -/
def topByte (buffer : UInt32) (bits : UInt8) : UInt8 :=
  ((buffer >>> bits.toUInt32) &&& 0xff).toUInt8

/-- A byte is taken from the top of the buffer. -/
theorem topByte_toNat {buffer : UInt32} {bits : UInt8} (h : bits.toNat < 32) :
    (topByte buffer bits).toNat = buffer.toNat / 2 ^ bits.toNat % 256 := by
  have hbits : bits.toUInt32.toNat % 32 = bits.toNat := by
    rw [UInt8.toNat_toUInt32]
    omega
  rw [topByte, UInt32.toNat_toUInt8, UInt32.toNat_and, UInt32.toNat_shiftRight, hbits,
    Nat.shiftRight_eq_div_pow]
  have hmask : ∀ n : Nat, n &&& (0xff : UInt32).toNat = n % 2 ^ 8 := fun n =>
    Nat.and_two_pow_sub_one_eq_mod n 8
  rw [hmask]
  omega

/-- The byte of a symbol. -/
def symbolByte (a : Alphabet) (n : Nat) : UInt8 := UInt8.ofNat (symbol a n).toNat

/-- A symbol stands for its six bits. -/
theorem sextet_symbol {a : Alphabet} {n : Nat} (h : n < 64) :
    symbolByte a n ≠ 0x3d ∧ sextet (symbolByte a n) = some (UInt32.ofNat n) := by
  have hall : ∀ n < 64, ∀ a ∈ [Alphabet.standard, .urlSafe],
      symbolByte a n ≠ 0x3d ∧ sextet (symbolByte a n) = some (UInt32.ofNat n) := by
    decide +kernel
  exact hall n h a (by cases a <;> decide)

/-- One round of the loop. -/
theorem decodeBase64Bytes_symbol {a : Alphabet} {n : Nat} (h : n < 64) (buffer : UInt32)
    (bits : UInt8) (rest : List UInt8) :
    decodeBase64Bytes buffer bits (symbolByte a n :: rest) =
      if bits + 6 ≥ 8 then
        (decodeBase64Bytes (pushSextet buffer n) (bits + 6 - 8) rest).map
          (topByte (pushSextet buffer n) (bits + 6 - 8) :: ·)
      else decodeBase64Bytes (pushSextet buffer n) (bits + 6) rest := by
  obtain ⟨hpad, hvalue⟩ := sextet_symbol (a := a) h
  rw [decodeBase64Bytes, if_neg hpad, hvalue]
  rfl

/-- The loop stops where the symbols end. -/
theorem decodeBase64Bytes_end {tail : List UInt8} (h : ∀ b ∈ tail, b = 0x3d) (buffer : UInt32)
    (bits : UInt8) : decodeBase64Bytes buffer bits tail = some [] := by
  cases tail with
  | nil => rfl
  | cons b rest =>
    rw [h b List.mem_cons_self, decodeBase64Bytes]
    rfl

/-- A byte is what its two parts make up. -/
theorem topByte_eq {buffer : UInt32} {bits : UInt8} {b : UInt8} (hbits : bits.toNat < 32)
    (h : buffer.toNat / 2 ^ bits.toNat % 256 = b.toNat) : topByte buffer bits = b :=
  UInt8.toNat_inj.mp ((topByte_toNat hbits).trans h)

/-- **The loop reads the bytes back**, whatever the buffer holds from earlier groups. -/
theorem decodeBase64Bytes_sextets {a : Alphabet} {tail : List UInt8}
    (htail : ∀ b ∈ tail, b = 0x3d) (bytes : List UInt8) (buffer : UInt32) :
    decodeBase64Bytes buffer 0 ((sextets bytes).map (symbolByte a) ++ tail) = some bytes := by
  induction bytes using sextets.induct generalizing buffer with
  | case1 => exact decodeBase64Bytes_end htail buffer 0
  | case2 x =>
    have hx := x.toNat_lt
    have h1 : x.toNat / 4 < 64 := by omega
    have h2 : x.toNat % 4 * 16 < 64 := by omega
    simp only [sextets, List.map_cons, List.map_nil, List.cons_append, List.nil_append]
    rw [decodeBase64Bytes_symbol h1, if_neg (by decide), decodeBase64Bytes_symbol h2,
      if_pos (by decide), decodeBase64Bytes_end htail]
    have hfirst : topByte (pushSextet (pushSextet buffer (x.toNat / 4)) (x.toNat % 4 * 16)) 4 =
        x := by
      refine topByte_eq (by decide) ?_
      rw [pushSextet_toNat h2, pushSextet_toNat h1]
      simp only [UInt8.reduceToNat]
      omega
    show some [topByte _ 4] = some [x]
    rw [hfirst]
  | case3 x y =>
    have hx := x.toNat_lt
    have hy := y.toNat_lt
    have h1 : x.toNat / 4 < 64 := by omega
    have h2 : x.toNat % 4 * 16 + y.toNat / 16 < 64 := by omega
    have h3 : y.toNat % 16 * 4 < 64 := by omega
    simp only [sextets, List.map_cons, List.map_nil, List.cons_append, List.nil_append]
    rw [decodeBase64Bytes_symbol h1, if_neg (by decide), decodeBase64Bytes_symbol h2,
      if_pos (by decide), decodeBase64Bytes_symbol h3, if_pos (by decide),
      decodeBase64Bytes_end htail]
    generalize hb1 : pushSextet buffer (x.toNat / 4) = b1
    have hv1 : b1.toNat = buffer.toNat % 2 ^ 26 * 64 + x.toNat / 4 := by
      rw [← hb1, pushSextet_toNat h1]
    have hv2 := @pushSextet_toNat b1 _ h2
    have hfirst : topByte (pushSextet b1 (x.toNat % 4 * 16 + y.toNat / 16)) 4 = x := by
      refine topByte_eq (by decide) ?_
      rw [hv2, hv1]
      simp only [UInt8.reduceToNat]
      omega
    have hsecond : topByte (pushSextet (pushSextet b1 (x.toNat % 4 * 16 + y.toNat / 16))
        (y.toNat % 16 * 4)) 2 = y := by
      refine topByte_eq (by decide) ?_
      rw [pushSextet_toNat h3, hv2]
      simp only [UInt8.reduceToNat]
      omega
    show some [topByte _ 4, topByte _ 2] = some [x, y]
    rw [hfirst, hsecond]
  | case4 x y z rest ih =>
    have hx := x.toNat_lt
    have hy := y.toNat_lt
    have hz := z.toNat_lt
    have h1 : x.toNat / 4 < 64 := by omega
    have h2 : x.toNat % 4 * 16 + y.toNat / 16 < 64 := by omega
    have h3 : y.toNat % 16 * 4 + z.toNat / 64 < 64 := by omega
    have h4 : z.toNat % 64 < 64 := by omega
    simp only [sextets, List.map_cons, List.cons_append]
    rw [decodeBase64Bytes_symbol h1, if_neg (by decide), decodeBase64Bytes_symbol h2,
      if_pos (by decide), decodeBase64Bytes_symbol h3, if_pos (by decide),
      decodeBase64Bytes_symbol h4, if_pos (by decide)]
    generalize hb1 : pushSextet buffer (x.toNat / 4) = b1
    have hv1 : b1.toNat = buffer.toNat % 2 ^ 26 * 64 + x.toNat / 4 := by
      rw [← hb1, pushSextet_toNat h1]
    generalize hb2 : pushSextet b1 (x.toNat % 4 * 16 + y.toNat / 16) = b2
    have hv2 : b2.toNat = b1.toNat % 2 ^ 26 * 64 + (x.toNat % 4 * 16 + y.toNat / 16) := by
      rw [← hb2, pushSextet_toNat h2]
    generalize hb3 : pushSextet b2 (y.toNat % 16 * 4 + z.toNat / 64) = b3
    have hv3 : b3.toNat = b2.toNat % 2 ^ 26 * 64 + (y.toNat % 16 * 4 + z.toNat / 64) := by
      rw [← hb3, pushSextet_toNat h3]
    have hfirst : topByte b2 4 = x := by
      refine topByte_eq (by decide) ?_
      simp only [UInt8.reduceToNat]
      omega
    have hsecond : topByte b3 2 = y := by
      refine topByte_eq (by decide) ?_
      simp only [UInt8.reduceToNat]
      omega
    have hthird : topByte (pushSextet b3 (z.toNat % 64)) 0 = z := by
      refine topByte_eq (by decide) ?_
      rw [pushSextet_toNat h4]
      simp only [UInt8.reduceToNat]
      omega
    have hrest : ∀ b, decodeBase64Bytes b (0 + 6 + 6 - 8 + 6 - 8 + 6 - 8)
        ((sextets rest).map (symbolByte a) ++ tail) = some rest := ih
    rw [hrest]
    show some (topByte b2 4 :: topByte b3 2 :: topByte (pushSextet b3 (z.toNat % 64)) 0 :: rest) =
      some (x :: y :: z :: rest)
    rw [hfirst, hsecond, hthird]

/-! ## No other format is taken for a layer -/

/-- A text without a colon is neither a document nor a list of links. -/
theorem parseBody_plain {readers : DocumentReaders} {body : String} (hne : body ≠ "")
    (hbrace : '\x7b' ∉ body.toList) (hcolon : ':' ∉ body.toList) :
    parseBody readers body = none := by
  have hobject : Text.startsWith body "\x7b" = false := by
    rw [Bool.eq_false_iff]
    exact fun h => hbrace (Text.mem_of_startsWith h (by decide))
  have hyaml : looksLikeYaml body = false := by
    rw [looksLikeYaml, List.any_eq_false]
    intro line hline hany
    obtain ⟨key, hkey, hstart⟩ := List.any_eq_true.mp hany
    have hmem : ':' ∈ key.toList := by
      simp only [List.mem_cons, List.not_mem_nil, or_false] at hkey
      obtain rfl | rfl | rfl := hkey <;> decide
    exact hcolon (Text.mem_of_mem_lines hline
      (Text.mem_of_mem_trimStart (Text.mem_of_startsWith hstart hmem)))
  have hlinks : (uriLines body).any (Text.contains · "://") = false := by
    rw [List.any_eq_false]
    intro link hlink hcontains
    obtain ⟨line, hline, rfl⟩ := List.mem_map.mp (List.mem_filter.mp hlink).1
    exact hcolon (Text.mem_of_mem_lines hline
      (Text.mem_of_mem_trim (Text.mem_of_contains hcontains (by decide))))
  rw [parseBody, if_neg hne, hobject, hyaml, parseUriList_eq, hlinks]
  rfl

/-- What is stripped, as characters. -/
theorem toList_stripBody (body : String) : (stripBody body).toList =
    Text.trimStartChars ((Text.trimChars body.toList).dropWhile (· == '\ufeff')) := by
  simp only [stripBody, Text.trimStart, Text.trimStartMatches, Text.trim, String.toList_ofList]

/-- Stripping adds no character. -/
theorem mem_of_mem_stripBody {body : String} {c : Char} (h : c ∈ (stripBody body).toList) :
    c ∈ body.toList := by
  have h := Text.mem_of_mem_trimStart h
  rw [Text.trimStartMatches, String.toList_ofList] at h
  exact Text.mem_of_mem_trim ((List.dropWhile_sublist _).subset h)

/-- Stripping a body removes nothing that a filter keeps, if it rejects white space and
byte order marks. -/
theorem filter_stripBody {p : Char → Bool} {body : String}
    (hwhite : ∀ c ∈ body.toList, Text.isWhite c = true → p c = false)
    (hmark : ∀ c ∈ body.toList, c = '\ufeff' → p c = false) :
    (stripBody body).toList.filter p = body.toList.filter p := by
  have htrim : (Text.trim body).toList.filter p = body.toList.filter p := by
    rw [Text.trim, String.toList_ofList, Text.filter_trimChars hwhite]
  have hmarks : (Text.trimStartMatches '\ufeff' (Text.trim body)).toList.filter p =
      (Text.trim body).toList.filter p := by
    rw [Text.trimStartMatches, String.toList_ofList]
    exact Text.filter_dropWhile fun c hc hq => hmark c (Text.mem_of_mem_trim hc) (by simpa using hq)
  rw [stripBody, Text.trimStart, String.toList_ofList, Text.trimStartChars,
    Text.filter_dropWhile, hmarks, htrim]
  intro c hc
  rw [Text.trimStartMatches, String.toList_ofList] at hc
  exact hwhite c (Text.mem_of_mem_trim ((List.dropWhile_sublist _).subset hc))

/-- Trimming before it makes no difference. -/
theorem stripBody_trim (body : String) : stripBody (Text.trim body) = stripBody body := by
  rw [stripBody, stripBody, Text.trim_trim]

/-! ## A layer is read back -/

/-- A text encodes a body in base64. -/
def Wraps (body text : String) : Prop := Encodes (Text.bytes body) text.toList

theorem bytes_ne_nil {body : String} (h : body ≠ "") : Text.bytes body ≠ [] := by
  have hchars : body.toList ≠ [] := by simpa using h
  obtain ⟨c, cs, hcons⟩ := List.exists_cons_of_ne_nil hchars
  rw [Text.bytes, hcons, List.flatMap_cons]
  exact List.append_ne_nil_of_left_ne_nil String.utf8EncodeChar_ne_nil _

/-- The only white space of a wrapping are its line breaks. -/
theorem Wraps.white {body text : String} (h : Wraps body text) {c : Char} (hc : c ∈ text.toList)
    (hwhite : Text.isWhite c = true) : (c != '\r' && c != '\n') = false := by
  obtain hsymbol | rfl | rfl := h.symbol_or_break hc
  · rw [(plain_of_isSymbol hsymbol).2.1] at hwhite
    cases hwhite
  · decide
  · decide

/-- A wrapping has symbols and line breaks only. -/
theorem Wraps.not_mem {body text : String} (h : Wraps body text) {c : Char}
    (hplain : isSymbol c = false) (hbreak : c ≠ '\r' ∧ c ≠ '\n') : c ∉ text.toList := by
  intro hc
  obtain hsymbol | hr | hn := h.symbol_or_break hc
  · rw [hplain] at hsymbol
    cases hsymbol
  · exact hbreak.1 hr
  · exact hbreak.2 hn

/-- Stripping a wrapping removes line breaks only. -/
theorem Wraps.joinLines_stripBody {body text : String} (h : Wraps body text) :
    joinLines (stripBody text).toList = joinLines text.toList := by
  refine filter_stripBody (fun c hc => h.white hc) fun c hc hmark => ?_
  rw [hmark] at hc
  exact absurd hc (h.not_mem (by decide) (by decide))

/-- `decode_base64` undoes every encoding. -/
theorem Wraps.decode {body text : String} (h : Wraps body text) :
    decodeBase64 (stripBody text) = .ok body := by
  have hjoin : (Text.trim (stripBody text)).toList.filter (fun c => c != '\r' && c != '\n') =
      joinLines text.toList := by
    rw [Text.trim, String.toList_ofList, Text.filter_trimChars]
    · exact h.joinLines_stripBody
    · exact fun c hc hwhite => h.white (mem_of_mem_stripBody hc) hwhite
  obtain ⟨a, padded, henc⟩ := h
  have hascii : ∀ c ∈ encode a padded (Text.bytes body), c.toNat < 128 := fun c hc =>
    (plain_of_isSymbol (isSymbol_of_mem_encode hc)).1
  have hpad : ∀ b ∈ (if padded then padding (Text.bytes body) else []).map
      (fun c => UInt8.ofNat c.toNat), b = 0x3d := by
    intro b hb
    obtain ⟨c, hc, rfl⟩ := List.mem_map.mp hb
    have hequals : c = '=' := by
      split at hc
      · exact List.eq_of_mem_replicate hc
      · cases hc
    rw [hequals]
    rfl
  have hread : decodeBase64Bytes 0 0 (Text.bytes (String.ofList
      (encode a padded (Text.bytes body)))) = some (Text.bytes body) := by
    rw [Text.bytes_ascii hascii, encode, List.map_append, List.map_map]
    exact decodeBase64Bytes_sextets hpad (Text.bytes body) 0
  unfold decodeBase64
  rw [hjoin, henc]
  dsimp only
  rw [hread, Option.bind_some, ofUtf8, Text.fromUTF8_bytes]
  rfl

/-- A wrapping is in no other format. -/
theorem Wraps.parseBody {readers : DocumentReaders} {body text : String} (h : Wraps body text)
    (hne : body ≠ "") : parseBody readers (stripBody text) = none := by
  apply parseBody_plain
  · intro hempty
    have hjoin := h.joinLines_stripBody
    obtain ⟨a, padded, henc⟩ := h
    rw [henc, hempty] at hjoin
    exact encode_ne_nil (bytes_ne_nil hne) hjoin.symm
  · exact fun hc => h.not_mem (by decide) (by decide) (mem_of_mem_stripBody hc)
  · exact fun hc => h.not_mem (by decide) (by decide) (mem_of_mem_stripBody hc)

/-! ## Whole bodies -/

/-- How many base64 layers are taken off a body, of those that may be. -/
def layersTaken (readers : DocumentReaders) : Nat → String → Nat
  | 0, _ => 0
  | layers + 1, body =>
    match unwrapped readers (stripBody body) with
    | some decoded => layersTaken readers layers decoded + 1
    | none => 0

/-- A body that does not need its last layer is read the same without it. -/
theorem parseWithDepth_spare {readers : DocumentReaders} {layers : Nat} {body : String}
    {result : ParseResult} (h : parseWithDepth readers (layers + 1) body = .ok result)
    (hspare : layersTaken readers (layers + 1) body ≤ layers) :
    parseWithDepth readers layers body = .ok result := by
  induction layers generalizing body result with
  | zero =>
    rw [parseWithDepth] at h
    rw [parseWithDepth]
    cases hbody : parseBody readers (stripBody body) with
    | some r =>
      rw [hbody] at h
      exact h
    | none =>
      simp only [hbody] at h
      obtain ⟨decoded, hdecoded, -⟩ := ok_bind.mp h
      rw [layersTaken, unwrapped, hbody, hdecoded] at hspare
      exact absurd hspare (by simp [Except.toOption])
  | succ layers ih =>
    rw [parseWithDepth] at h
    rw [parseWithDepth]
    cases hbody : parseBody readers (stripBody body) with
    | some r =>
      rw [hbody] at h
      exact h
    | none =>
      simp only [hbody] at h ⊢
      obtain ⟨decoded, hdecoded, h⟩ := ok_bind.mp h
      obtain ⟨inner, hinner, h⟩ := ok_bind.mp h
      rw [layersTaken, unwrapped, hbody, hdecoded] at hspare
      have hinner' := ih hinner (Nat.le_of_succ_le_succ hspare)
      rw [hdecoded]
      exact ok_bind.mpr ⟨decoded, rfl, ok_bind.mpr ⟨inner, hinner', h⟩⟩

theorem parseWithDepth_trim (readers : DocumentReaders) (layers : Nat) (body : String) :
    parseWithDepth readers layers (Text.trim body) = parseWithDepth readers layers body := by
  cases layers with
  | zero => rw [parseWithDepth, parseWithDepth, stripBody_trim]
  | succ layers => rw [parseWithDepth, parseWithDepth, stripBody_trim]

/-- One call of `parse_with_depth` at the depth of the source, which counts upwards: a
result, or the text of the recursive call. -/
def detect (readers : DocumentReaders) (base64Depth : Nat) (body : String) :
    Except ParseError ParseResult ⊕ String :=
  match parseBody readers (stripBody body) with
  | some result => .inl result
  | none =>
    if base64Depth < maxBase64Depth then
      match decodeBase64 (stripBody body) with
      | .error e => .inl (.error e)
      | .ok decoded => .inr decoded
    else .inl (.error .unsupportedInput)

/-- The calls of `parse_with_depth`; `none` when they do not end within the fuel. -/
def parseAtDepth (readers : DocumentReaders) :
    Nat → Nat → String → Option (Except ParseError ParseResult)
  | 0, _, _ => none
  | fuel + 1, base64Depth, body =>
    match detect readers base64Depth body with
    | .inl result => some result
    | .inr decoded =>
      (parseAtDepth readers fuel (base64Depth + 1) decoded).map
        (Except.map fun result => { result with format := .base64 })

/-- The calls end when the layers that may still be taken off run out. -/
theorem parseAtDepth_eq {readers : DocumentReaders} {layers fuel base64Depth : Nat}
    {body : String} (hdepth : base64Depth + layers = maxBase64Depth) (hfuel : layers < fuel) :
    parseAtDepth readers fuel base64Depth body = some (parseWithDepth readers layers body) := by
  induction layers generalizing fuel base64Depth body with
  | zero =>
    cases fuel with
    | zero => omega
    | succ fuel =>
      rw [parseAtDepth, parseWithDepth, detect]
      cases parseBody readers (stripBody body) with
      | some result => rfl
      | none =>
        have hlimit : ¬ base64Depth < maxBase64Depth := by omega
        simp only [hlimit, if_false]
        rfl
  | succ layers ih =>
    cases fuel with
    | zero => omega
    | succ fuel =>
      rw [parseAtDepth, parseWithDepth, detect]
      cases parseBody readers (stripBody body) with
      | some result => rfl
      | none =>
        have hlayer : base64Depth < maxBase64Depth := by omega
        simp only [hlayer, if_true]
        cases decodeBase64 (stripBody body) with
        | error e => rfl
        | ok decoded =>
          simp only
          rw [ih (by omega) (Nat.lt_of_succ_lt_succ hfuel)]
          show _ = some (parseWithDepth readers layers decoded >>= fun result =>
            .ok { result with format := .base64 })
          cases parseWithDepth readers layers decoded with
          | error e => rfl
          | ok inner => rfl

/-- **Base64 layers are transparent**: a body that leaves a layer to take off is read the
same from each of its encodings, and format detection ends on every input. -/
theorem base64_transparent (readers : DocumentReaders) :
    (∀ body text result, parseSubscription readers body = .ok result →
      layersTaken readers maxBase64Depth body < maxBase64Depth → Wraps body text →
      parseSubscription readers text = .ok { result with format := .base64 }) ∧
    ∀ body, parseAtDepth readers (maxBase64Depth + 1) 0 (Text.trim body) =
      some (parseSubscription readers body) := by
  constructor
  · intro body text result hok hspare hwraps
    rw [parseSubscription, parseWithDepth_trim] at hok ⊢
    have hne : body ≠ "" := by
      rintro rfl
      have hempty : parseWithDepth readers maxBase64Depth "" = .error .emptyInput := rfl
      rw [hempty] at hok
      cases hok
    have hinner : parseWithDepth readers 1 body = .ok result :=
      parseWithDepth_spare hok (Nat.le_of_lt_succ hspare)
    rw [maxBase64Depth, parseWithDepth, hwraps.parseBody hne]
    exact ok_bind.mpr ⟨body, hwraps.decode, ok_bind.mpr ⟨result, hinner, rfl⟩⟩
  · exact fun body => parseAtDepth_eq rfl (Nat.lt_succ_self _)

/-- A link, and its encoding in the URL-safe alphabet over two lines. -/
theorem base64_transparent_link :
    ∃ result, parseSubscription noReaders "trojan://p@a:443#~~" = .ok result ∧
      parseSubscription noReaders "dHJvamFuOi8v\r\ncEBhOjQ0MyN-fg" =
        .ok { result with format := .base64 } := by
  have hok : (parseSubscription noReaders "trojan://p@a:443#~~").isOk = true := by decide +kernel
  obtain ⟨result, hresult⟩ := exists_ok hok
  exact ⟨result, hresult, (base64_transparent noReaders).1 _ _ result hresult (by decide +kernel)
    ⟨.urlSafe, false, by decide +kernel⟩⟩

end Veyra
