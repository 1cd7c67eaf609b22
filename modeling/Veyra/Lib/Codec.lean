import Veyra.Lib.Json
import Mathlib.Algebra.Group.Int.Defs
import Mathlib.Algebra.Group.Nat.Defs
import Mathlib.Data.List.Forall2

/-!
# Veyra.Lib.Codec

Codecs between typed values and JSON, in the data model of derived
serializers: scalars, sequences, optional values, records whose fields are
required, optional or defaulted, and unions tagged internally, adjacently or
externally.

A `Codec` carries its round-trip law and a `RecordCodec` the law of its fields, so
a codec assembled from others is right by construction.  A record is written
as an object but, as derived deserializers do, read from an object or from the
sequence of its fields.
-/

/-- A way to write values as JSON that reading undoes. -/
structure Codec (α : Type) where
  encode : α → Json
  decode : Json → Option α
  decode_encode : ∀ a, decode (encode a) = some a

namespace Codec

variable {α β : Type}

attribute [simp] decode_encode

/-- The codec never writes `null`, so that `null` can stand for an absent value. -/
def NonNull (c : Codec α) : Prop := ∀ a, c.encode a ≠ .null

/-- Different values are written differently. -/
theorem encode_injective (c : Codec α) : Function.Injective c.encode := by
  intro a b h
  have hdecode := c.decode_encode a
  rw [h, c.decode_encode] at hdecode
  exact (Option.some.inj hdecode).symm

/-- Change the type along a bijection. -/
def imap (c : Codec α) (f : α → β) (g : β → α) (h : ∀ b, f (g b) = b) : Codec β where
  encode b := c.encode (g b)
  decode v := (c.decode v).map f
  decode_encode b := by simp [h]

/-- Another view of a codec writes no null either. -/
theorem NonNull.imap {c : Codec α} (hc : c.NonNull) (f : α → β) (g : β → α)
    (h : ∀ b, f (g b) = b) : (c.imap f g h).NonNull := fun b => hc (g b)

/-! ## Scalars -/

def string : Codec String where
  encode := .str
  decode := Json.asStr?
  decode_encode _ := rfl

def bool : Codec Bool where
  encode := .bool
  decode := Json.asBool?
  decode_encode _ := rfl

def u64 : Codec UInt64 where
  encode n := .num (.posInt n)
  decode := Json.asU64?
  decode_encode _ := rfl

def u32 : Codec UInt32 where
  encode n := .num (.posInt n.toUInt64)
  decode v := v.asU64?.bind fun n => if n ≤ 0xffffffff then some n.toUInt32 else none
  decode_encode n := by
    have h : n.toUInt64 ≤ 0xffffffff := by
      rw [UInt64.le_iff_toNat_le]
      have := n.toNat_lt
      simp only [UInt32.toNat_toUInt64]
      exact Nat.le_of_lt_succ this
    simp [Json.asU64?, h]

def u16 : Codec UInt16 where
  encode n := .num (.posInt n.toUInt64)
  decode v := v.asU64?.bind fun n => if n ≤ 0xffff then some n.toUInt16 else none
  decode_encode n := by
    have h : n.toUInt64 ≤ 0xffff := by
      rw [UInt64.le_iff_toNat_le]
      have := n.toNat_lt
      simp only [UInt16.toNat_toUInt64]
      exact Nat.le_of_lt_succ this
    simp [Json.asU64?, h]

def u8 : Codec UInt8 where
  encode n := .num (.posInt n.toUInt64)
  decode v := v.asU64?.bind fun n => if n ≤ 0xff then some n.toUInt8 else none
  decode_encode n := by
    have h : n.toUInt64 ≤ 0xff := by
      rw [UInt64.le_iff_toNat_le]
      have := n.toNat_lt
      simp only [UInt8.toNat_toUInt64]
      exact Nat.le_of_lt_succ this
    simp [Json.asU64?, h]

/-- A signed integer is written as an unsigned number unless it is negative. -/
def encodeI32 (n : Int32) : Json :=
  if n.toInt < 0 then .num (.negInt (Int64.ofInt n.toInt))
  else .num (.posInt (UInt64.ofNat n.toInt.toNat))

def decodeI32 : Json → Option Int32
  | .num (.posInt n) => if n.toNat < 2 ^ 31 then some (Int32.ofInt n.toNat) else none
  | .num (.negInt n) =>
    if -2 ^ 31 ≤ n.toInt ∧ n.toInt < 2 ^ 31 then some (Int32.ofInt n.toInt) else none
  | _ => none

/-- A signed number is read back. -/
theorem decodeI32_encodeI32 (n : Int32) : decodeI32 (encodeI32 n) = some n := by
  have hlo := Int32.le_toInt n
  have hhi := Int32.toInt_lt n
  unfold encodeI32
  split
  · have h : (Int64.ofInt n.toInt).toInt = n.toInt := by
      rw [Int64.toInt_ofInt_of_le] <;> omega
    simp only [decodeI32, h]
    rw [if_pos ⟨hlo, hhi⟩, Int32.ofInt_toInt]
  · have h : (UInt64.ofNat n.toInt.toNat).toNat = n.toInt.toNat := by
      rw [UInt64.toNat_ofNat_of_lt']
      have : UInt64.size = 2 ^ 64 := rfl
      omega
    simp only [decodeI32, h]
    rw [if_pos (by omega), Int.toNat_of_nonneg (by omega), Int32.ofInt_toInt]

def i32 : Codec Int32 where
  encode := encodeI32
  decode := decodeI32
  decode_encode := decodeI32_encodeI32

theorem string_nonNull : string.NonNull := fun _ => Json.noConfusion
theorem bool_nonNull : bool.NonNull := fun _ => Json.noConfusion
theorem u64_nonNull : u64.NonNull := fun _ => Json.noConfusion
theorem u32_nonNull : u32.NonNull := fun _ => Json.noConfusion

/-! ## Compound values -/

/-- An absent value is `null`. -/
def option (c : Codec α) (h : c.NonNull) : Codec (Option α) where
  encode
    | none => .null
    | some a => c.encode a
  decode
    | .null => some none
    | v => (c.decode v).map some
  decode_encode a := by
    cases a with
    | none => rfl
    | some a =>
      have := h a
      have := c.decode_encode a
      split <;> simp_all

/-- Decode every element, in order. -/
def decodeAll (c : Codec α) : List Json → Option (List α)
  | [] => some []
  | v :: vs => (c.decode v).bind fun a => (decodeAll c vs).map (a :: ·)

/-- A list is read back item by item. -/
theorem decodeAll_map_encode (c : Codec α) (as : List α) :
    c.decodeAll (as.map c.encode) = some as := by
  induction as with
  | nil => rfl
  | cons a as ih => simp [decodeAll, ih]

/-- Decoding goes element by element. -/
theorem decodeAll_eq_some {c : Codec α} {vs : List Json} {as : List α} :
    c.decodeAll vs = some as ↔ List.Forall₂ (fun v a => c.decode v = some a) vs as := by
  induction vs generalizing as with
  | nil =>
    rw [decodeAll, List.forall₂_nil_left_iff]
    grind
  | cons v vs ih =>
    rw [decodeAll, List.forall₂_cons_left_iff]
    simp only [Option.bind_eq_some_iff, Option.map_eq_some_iff, ih]
    grind

def list (c : Codec α) : Codec (List α) where
  encode as := .arr (as.map c.encode)
  decode v := v.asArr?.bind c.decodeAll
  decode_encode as := decodeAll_map_encode c as

/-- A fixed-size array is a sequence of exactly that length. -/
def triple (c : Codec α) : Codec (α × α × α) where
  encode t := .arr [c.encode t.1, c.encode t.2.1, c.encode t.2.2]
  decode
    | .arr [x, y, z] =>
      (c.decode x).bind fun x => (c.decode y).bind fun y => (c.decode z).map fun z => (x, y, z)
    | _ => none
  decode_encode t := by simp

theorem list_nonNull (c : Codec α) : (list c).NonNull := fun _ => Json.noConfusion

theorem triple_nonNull (c : Codec α) : (triple c).NonNull := fun _ => Json.noConfusion

/-- The name of a variant: a string, or an object whose one member is a unit. -/
def variantName : Json → Option String
  | .str t => some t
  | .obj [(t, .null)] => some t
  | _ => none

/-- An enumeration is written as the name of its variant. -/
def enumeration (name : α → String) (parse : String → Option α)
    (h : ∀ a, parse (name a) = some a) : Codec α where
  encode a := .str (name a)
  decode v := (variantName v).bind parse
  decode_encode a := h a

end Codec

/-! ## Records -/

/-- The fields of a record, in declaration order: how they are written as members, and how
they are read from the members of an object or from the front of a sequence. -/
structure RecordCodec (α : Type) where
  names : List String
  write : α → List (String × Json)
  fromMembers : List (String × Json) → Option α
  fromItems : List Json → Option (α × List Json)
  write_names : ∀ a, ∀ f ∈ write a, f.1 ∈ names
  /-- Members that agree with the written ones on the names of the record read back. -/
  fromMembers_write : ∀ a ms, (∀ k ∈ names, ms.lookup k = (write a).lookup k) →
    fromMembers ms = some a
  /-- Only the members of those names are looked at. -/
  fromMembers_congr : ∀ ms ms', (∀ k ∈ names, List.lookup k ms = List.lookup k ms') →
    fromMembers ms = fromMembers ms'

namespace RecordCodec

variable {α β : Type}

/-- No fields. -/
def unit : RecordCodec Unit where
  names := []
  write _ := []
  fromMembers _ := some ()
  fromItems vs := some ((), vs)
  write_names _ _ hf := absurd hf List.not_mem_nil
  fromMembers_write _ _ _ := rfl
  fromMembers_congr _ _ _ := rfl

/-- A field that must be there. -/
def required (name : String) (c : Codec α) : RecordCodec α where
  names := [name]
  write a := [(name, c.encode a)]
  fromMembers ms := (ms.lookup name).bind c.decode
  fromItems
    | [] => none
    | v :: vs => (c.decode v).map (·, vs)
  write_names a f hf := by simp_all
  fromMembers_write a ms h := by simp [h name (by simp)]
  fromMembers_congr ms ms' h := by rw [h name (by simp)]

/-- An optional field: written as `null` when absent, absent when missing. -/
def optional (name : String) (c : Codec α) (h : c.NonNull) : RecordCodec (Option α) where
  names := [name]
  write a := [(name, (c.option h).encode a)]
  fromMembers ms :=
    match ms.lookup name with
    | none => some none
    | some v => (c.option h).decode v
  fromItems
    | [] => none
    | v :: vs => ((c.option h).decode v).map (·, vs)
  write_names a f hf := by simp_all
  fromMembers_write a ms hms := by simp [hms name (by simp)]
  fromMembers_congr ms ms' hms := by rw [hms name (by simp)]

/-- An optional field that is left out when absent, but that a sequence must have. -/
def omitted (name : String) (c : Codec α) (h : c.NonNull) : RecordCodec (Option α) where
  names := [name]
  write
    | none => []
    | some a => [(name, c.encode a)]
  fromMembers ms :=
    match ms.lookup name with
    | none => some none
    | some v => (c.option h).decode v
  fromItems
    | [] => none
    | v :: vs => ((c.option h).decode v).map (·, vs)
  write_names a f hf := by cases a <;> simp_all
  fromMembers_write a ms hms := by
    rw [hms name (by simp)]
    cases a with
    | none => rfl
    | some a =>
      simp only [List.lookup_cons_self]
      exact (c.option h).decode_encode (some a)
  fromMembers_congr ms ms' hms := by rw [hms name (by simp)]

/-- A field left out when it holds its default. -/
def defaulted (name : String) (c : Codec α) (default : α) (skip : α → Bool)
    (h : ∀ a, skip a = true → a = default) : RecordCodec α where
  names := [name]
  write a := if skip a then [] else [(name, c.encode a)]
  fromMembers ms :=
    match ms.lookup name with
    | none => some default
    | some v => c.decode v
  fromItems
    | [] => some (default, [])
    | v :: vs => (c.decode v).map (·, vs)
  write_names a f hf := by grind
  fromMembers_write a ms hms := by
    rw [hms name (by simp)]
    by_cases hs : skip a = true
    · obtain rfl := h a hs
      simp [hs]
    · simp [hs]
  fromMembers_congr ms ms' hms := by rw [hms name (by simp)]

/-- The fields of the first record, then those of the second. -/
def and (r : RecordCodec α) (s : RecordCodec β) (h : ∀ k ∈ r.names, k ∉ s.names := by decide) :
    RecordCodec (α × β) where
  names := r.names ++ s.names
  write p := r.write p.1 ++ s.write p.2
  fromMembers ms := (r.fromMembers ms).bind fun a => (s.fromMembers ms).map (a, ·)
  fromItems vs :=
    (r.fromItems vs).bind fun (a, vs) => (s.fromItems vs).map fun (b, vs) => ((a, b), vs)
  write_names p f hf := by
    rcases List.mem_append.mp hf with hf | hf
    · exact List.mem_append_left _ (r.write_names _ f hf)
    · exact List.mem_append_right _ (s.write_names _ f hf)
  fromMembers_write p ms hms := by
    have hr : r.fromMembers ms = some p.1 := by
      refine r.fromMembers_write p.1 ms fun k hk => ?_
      rw [hms k (List.mem_append_left _ hk), List.lookup_append]
      have hs : (s.write p.2).lookup k = none := by
        rw [List.lookup_eq_none_iff]
        intro f hf
        have hne : k ≠ f.1 := fun hkf => h k hk (hkf ▸ s.write_names _ f hf)
        simpa using hne
      simp [hs]
    have hs : s.fromMembers ms = some p.2 := by
      refine s.fromMembers_write p.2 ms fun k hk => ?_
      rw [hms k (List.mem_append_right _ hk), List.lookup_append]
      have hr : (r.write p.1).lookup k = none := by
        rw [List.lookup_eq_none_iff]
        intro f hf
        have hne : k ≠ f.1 := fun hkf => h k (hkf ▸ r.write_names _ f hf) hk
        simpa using hne
      simp [hr]
    simp [hr, hs]
  fromMembers_congr ms ms' hms := by
    rw [r.fromMembers_congr ms ms' fun k hk => hms k (List.mem_append_left _ hk),
      s.fromMembers_congr ms ms' fun k hk => hms k (List.mem_append_right _ hk)]

/-- Change the type along a bijection. -/
def imap (r : RecordCodec α) (f : α → β) (g : β → α) (h : ∀ b, f (g b) = b) : RecordCodec β where
  names := r.names
  write b := r.write (g b)
  fromMembers ms := (r.fromMembers ms).map f
  fromItems vs := (r.fromItems vs).map fun (a, vs) => (f a, vs)
  write_names b := r.write_names (g b)
  fromMembers_write b ms hms := by rw [r.fromMembers_write (g b) ms hms]; simp [h]
  fromMembers_congr ms ms' hms := by rw [r.fromMembers_congr ms ms' hms]

/-! ### What reading the members of an object has found -/

/-- The members read as `a`. -/
def Reads (r : RecordCodec α) (ms : List (String × Json)) (a : α) : Prop := r.fromMembers ms = some a

/-- Two records in one object are read next to each other. -/
theorem reads_and {r : RecordCodec α} {s : RecordCodec β} {h : ∀ k ∈ r.names, k ∉ s.names}
    {ms : List (String × Json)} {a : α} {b : β} :
    (r.and s h).Reads ms (a, b) ↔ r.Reads ms a ∧ s.Reads ms b := by
  simp [Reads, RecordCodec.and, Option.bind_eq_some_iff]

/-- Another view of a record is read as what it stands for. -/
theorem reads_imap {r : RecordCodec α} {f : α → β} {g : β → α} {h : ∀ b, f (g b) = b}
    {ms : List (String × Json)} {b : β} :
    (r.imap f g h).Reads ms b ↔ ∃ a, r.Reads ms a ∧ f a = b := by
  simp [Reads, RecordCodec.imap]

/-- A member that is required is there and is read. -/
theorem reads_required {name : String} {c : Codec α} {ms : List (String × Json)} {a : α} :
    (required name c).Reads ms a ↔ ∃ v, ms.lookup name = some v ∧ c.decode v = some a :=
  Option.bind_eq_some_iff

/-- A member that the record does not name does not matter. -/
theorem reads_setMember_of_notMem {r : RecordCodec α} {k : String} (hk : k ∉ r.names) (v : Json)
    (ms : List (String × Json)) (a : α) :
    r.Reads (Json.setMember k v ms) a ↔ r.Reads ms a := by
  rw [Reads, Reads, r.fromMembers_congr (Json.setMember k v ms) ms fun k' hk' => ?_]
  have hne : k' ≠ k := fun h => hk (h ▸ hk')
  rw [Json.lookup_setMember, if_neg hne]

/-- A member that is not read may be removed. -/
theorem reads_removeMember_of_notMem {r : RecordCodec α} {k : String} (hk : k ∉ r.names)
    (ms : List (String × Json)) (a : α) :
    r.Reads (Json.removeMember k ms) a ↔ r.Reads ms a := by
  rw [Reads, Reads, r.fromMembers_congr (Json.removeMember k ms) ms fun k' hk' => ?_]
  have hne : k' ≠ k := fun h => hk (h ▸ hk')
  rw [Json.lookup_removeMember, if_neg hne]

/-- A member that was set is read. -/
@[simp] theorem reads_required_setMember (k : String) (c : Codec α) (v : Json)
    (ms : List (String × Json)) (a : α) :
    (required k c).Reads (Json.setMember k v ms) a ↔ c.decode v = some a := by
  simp [Reads, required]

/-- An optional member that was set is read. -/
@[simp] theorem reads_optional_setMember (k : String) (c : Codec α) (h : c.NonNull) (v : Json)
    (ms : List (String × Json)) (a : Option α) :
    (optional k c h).Reads (Json.setMember k v ms) a ↔ (c.option h).decode v = some a := by
  simp [Reads, optional]

/-- A member with a default that was set is read. -/
@[simp] theorem reads_defaulted_setMember (k : String) (c : Codec α) (default : α)
    (skip : α → Bool) (h : ∀ a, skip a = true → a = default) (v : Json)
    (ms : List (String × Json)) (a : α) :
    (defaulted k c default skip h).Reads (Json.setMember k v ms) a ↔ c.decode v = some a := by
  simp [Reads, defaulted]

/-- What a record is read from: the members of an object or the items of a sequence. -/
inductive Source
  | members (ms : List (String × Json))
  | items (vs : List Json)

/-- Read the record; a sequence must hold nothing more. -/
def read (r : RecordCodec α) : Source → Option α
  | .members ms => r.fromMembers ms
  | .items vs =>
    match r.fromItems vs with
    | some (a, []) => some a
    | _ => none

/-- Members that agree with the written ones except perhaps at a foreign key read back. -/
theorem read_members {r : RecordCodec α} {key : String} (hkey : key ∉ r.names) {a : α}
    {ms : List (String × Json)} (h : ∀ k, k ≠ key → ms.lookup k = (r.write a).lookup k) :
    r.read (.members ms) = some a :=
  r.fromMembers_write a ms fun k hk => h k fun hkey' => hkey (hkey' ▸ hk)

/-- A record on its own is an object. -/
def codec (r : RecordCodec α) : Codec α where
  encode a := .object (r.write a)
  decode
    | .obj ms => r.read (.members ms)
    | .arr vs => r.read (.items vs)
    | _ => none
  decode_encode a := by
    simp only [Json.object, read]
    exact r.fromMembers_write a _ fun k _ => Json.lookup_foldr_setMember _ k

theorem codec_nonNull (r : RecordCodec α) : r.codec.NonNull := fun _ => Json.noConfusion

end RecordCodec

/-! ## Unions -/

namespace Codec

variable {α : Type}

/-- An internally tagged union: the tag is one more member beside the fields. -/
def tagged (key : String) (tag : α → String) (write : α → List (String × Json))
    (read : String → RecordCodec.Source → Option α)
    (h : ∀ a ms, (∀ k, k ≠ key → ms.lookup k = (write a).lookup k) →
      read (tag a) (.members ms) = some a) : Codec α where
  encode a := .object ((key, .str (tag a)) :: write a)
  decode
    | .obj ms => ((ms.lookup key).bind Json.asStr?).bind fun t => read t (.members ms)
    | .arr (.str t :: vs) => read t (.items vs)
    | _ => none
  decode_encode a := by
    simp only [Json.object, Json.lookup_foldr_setMember, Json.lookup_cons, if_true,
      Option.bind_some, Json.asStr?]
    refine h a _ fun k hk => ?_
    rw [Json.lookup_foldr_setMember, Json.lookup_cons, if_neg hk]

/-- An adjacently tagged union: the tag and, unless the variant is a unit, the content. -/
def adjacent (key content : String) (tag : α → String) (write : α → Option Json)
    (read : String → Option Json → Option α) (hne : content ≠ key)
    (h : ∀ a, read (tag a) (write a) = some a) : Codec α where
  encode a := .object ((key, .str (tag a)) :: (write a).toList.map (content, ·))
  decode
    | .obj ms => ((ms.lookup key).bind variantName).bind fun t => read t (ms.lookup content)
    | .arr [t, v] => (variantName t).bind fun t => read t (some v)
    | _ => none
  decode_encode a := by
    simp only [Json.object, Json.lookup_foldr_setMember, Json.lookup_cons, if_true,
      Option.bind_some, variantName, if_neg hne]
    have hw : ((write a).toList.map (content, ·)).lookup content = write a := by
      cases write a <;> simp
    rw [hw, h a]

end Codec
