import Veyra.Lib.Json
import Veyra.Lib.Text

/-!
# Veyra.Lib.Browser

A JSON value as a script in a browser reads it once `JSON.parse` built it, and
the checks such scripts are made of: exact keys, safe integers, `null` next to
a value, arrays read item by item, names of a closed list.

A `Reader` gives the value it accepts, `none` stands for the exception.
`Decodes x P a` says that `x` succeeds exactly under `P`, and then with `a`;
each reader has a law in these terms for what the other side writes, and the
laws compose along the steps of a decoder.
-/

namespace Browser

/-- A check of a JSON value that returns what it read. -/
abbrev Reader (α : Type) := Json → Option α

variable {α β γ : Type}

/-! ## When a read succeeds -/

/-- The read succeeds exactly when `P` holds, and then with `a`. -/
def Decodes (x : Option α) (P : Prop) (a : α) : Prop := ∀ a', x = some a' ↔ P ∧ a' = a

namespace Decodes

variable {x : Option α} {P Q : Prop} {a : α} {b : β} {f : α → Option β}

theorem iff (h : Decodes x P a) : x = some a ↔ P := by
  rw [h a]
  exact and_iff_left rfl

/-- Under its condition the read succeeds. -/
theorem eq_some (h : Decodes x P a) (hP : P) : x = some a := h.iff.mpr hP

/-- Otherwise it fails. -/
theorem eq_none (h : Decodes x P a) (hP : ¬P) : x = none := by
  cases hx : x with
  | none => rfl
  | some a' => exact absurd ((h a').mp hx).1 hP

/-- The condition may be put in other words. -/
theorem congr (h : Decodes x P a) (hPQ : P ↔ Q) : Decodes x Q a := by
  intro a'
  rw [h a', hPQ]

/-- And so may the value. -/
theorem congr_value {a' : α} (h : Decodes x P a) (ha : a = a') : Decodes x P a' := ha ▸ h

/-- A read that never fails. -/
theorem of_eq (h : x = some a) : Decodes x True a := by
  intro a'
  rw [h, Option.some.injEq, true_and, eq_comm]

theorem pure (a : α) : Decodes (some a) True a := of_eq rfl

/-- A read that fails. -/
theorem of_none (h : x = none) : Decodes x False a := by
  intro a'
  simp [h]

/-- A step of a decoder, and the steps after it. -/
theorem bind (h : Decodes x P a) (hf : P → Decodes (f a) Q b) : Decodes (x >>= f) (P ∧ Q) b := by
  intro b'
  rw [Option.bind_eq_bind, Option.bind_eq_some_iff]
  constructor
  · rintro ⟨a', hx, hb⟩
    obtain ⟨hP, rfl⟩ := (h a').mp hx
    obtain ⟨hQ, rfl⟩ := (hf hP b').mp hb
    exact ⟨⟨hP, hQ⟩, rfl⟩
  · rintro ⟨⟨hP, hQ⟩, rfl⟩
    exact ⟨a, h.eq_some hP, (hf hP).eq_some hQ⟩

/-- A guard succeeds under its condition. -/
theorem guarded (P : Prop) [Decidable P] : Decodes (guard P : Option Unit) P () := by
  intro u
  by_cases h : P <;> simp [guard, h]

/-- A guard that is known to pass. -/
theorem passes {P : Prop} [Decidable P] (h : P) : Decodes (guard P : Option Unit) True () :=
  (guarded P).congr (iff_true_intro h)

/-- What was read may be changed. -/
theorem map (h : Decodes x P a) (g : α → β) : Decodes (x.map g) P (g a) := by
  intro b'
  rw [Option.map_eq_some_iff]
  constructor
  · rintro ⟨a', hx, rfl⟩
    obtain ⟨hP, rfl⟩ := (h a').mp hx
    exact ⟨hP, rfl⟩
  · rintro ⟨hP, rfl⟩
    exact ⟨a, h.eq_some hP, rfl⟩

end Decodes

/-! ## Text -/

/-- The white space and line terminators that `String.prototype.trim` removes. -/
def isWhite (c : Char) : Bool :=
  let n := c.toNat
  (9 ≤ n && n ≤ 13) || n == 0x20 || n == 0xA0 || n == 0x1680 || (0x2000 ≤ n && n ≤ 0x200A) ||
    n == 0x2028 || n == 0x2029 || n == 0x202F || n == 0x205F || n == 0x3000 || n == 0xFEFF

/-- `value.trim().length === 0`. -/
def blank (s : String) : Bool := s.toList.all isWhite

/-- The class `[\u0000-\u001f\u007f]`. -/
def isControl (c : Char) : Bool := c.toNat ≤ 0x1f || c.toNat == 0x7f

/-- `typeof value === "string"`. -/
def text : Reader String := Json.asStr?

/-- A text is read as it is. -/
theorem text_str (s : String) : Decodes (text (.str s)) True s := .of_eq rfl

/-- A string that is truthy. -/
def nonEmptyText : Reader String := fun value => do
  let s ← text value
  guard (s ≠ "")
  some s

/-- A text is read if it is not empty. -/
theorem nonEmptyText_str (s : String) : Decodes (nonEmptyText (.str s)) (s ≠ "") s :=
  ((text_str s).bind fun _ => (Decodes.guarded _).bind fun _ => .pure s).congr (by simp)

/-- A string of a closed list, read as what the list has for it. -/
def oneOf (names : List (String × α)) : Reader α
  | .str s => names.lookup s
  | _ => none

/-- A name is read as what the list has for it. -/
theorem oneOf_str {names : List (String × α)} {s : String} {a : α} (h : names.lookup s = some a) :
    Decodes (oneOf names (.str s)) True a := .of_eq h

/-! ## Booleans and numbers -/

/-- `typeof value === "boolean"`. -/
def boolean : Reader Bool := Json.asBool?

theorem boolean_bool (b : Bool) : Decodes (boolean (.bool b)) True b := .of_eq rfl

/-- `Number.MAX_SAFE_INTEGER`. -/
def maxSafeInteger : Nat := 9007199254740991

/-- The integer that a float of the given bits stands for, if it stands for one. -/
def floatInteger (bits : UInt64) : Option Int :=
  let exponent := (bits.toNat / 2 ^ 52) % 2 ^ 11
  let fraction := bits.toNat % 2 ^ 52
  let significand := if exponent = 0 then fraction else fraction + 2 ^ 52
  -- the value is the significand times two to the power of `shift - 1075`
  let shift := max exponent 1
  let magnitude : Option Nat :=
    if exponent = 2047 then none
    else if 1075 ≤ shift then some (significand * 2 ^ (shift - 1075))
    else if significand % 2 ^ (1075 - shift) = 0 then some (significand / 2 ^ (1075 - shift))
    else none
  magnitude.map fun m => if bits.toNat / 2 ^ 63 = 0 then (m : Int) else -(m : Int)

/-- The integer a number stands for.  A script rounds integers beyond the safe ones, but to
others beyond them. -/
def integer : JsonNumber → Option Int
  | .posInt n => some n.toNat
  | .negInt n => some n.toInt
  | .float bits => floatInteger bits

/-- `Number.isSafeInteger(value) && value >= 0`. -/
def safeInteger : Reader Nat
  | .num n => (integer n).bind fun i => if 0 ≤ i ∧ i ≤ maxSafeInteger then some i.toNat else none
  | _ => none

/-- A counter is read if a script holds it. -/
theorem safeInteger_posInt (n : UInt64) :
    Decodes (safeInteger (.num (.posInt n))) (n.toNat ≤ maxSafeInteger) n.toNat := by
  intro k
  by_cases h : n.toNat ≤ maxSafeInteger <;> simp [safeInteger, integer, h, eq_comm]

/-- `Number.isFinite(value) && value >= 0`; a float keeps its value. -/
def nonNegativeNumber : Reader JsonNumber
  | .num (.posInt n) => some (.posInt n)
  | .num (.negInt n) => if 0 ≤ n.toInt then some (.negInt n) else none
  | .num (.float bits) =>
    let exponent := (bits.toNat / 2 ^ 52) % 2 ^ 11
    let negative := bits.toNat / 2 ^ 63 ≠ 0 ∧ bits.toNat % 2 ^ 63 ≠ 0
    if exponent = 2047 ∨ negative then none else some (.float bits)
  | _ => none

theorem nonNegativeNumber_posInt (n : UInt64) :
    Decodes (nonNegativeNumber (.num (.posInt n))) True (.posInt n) := .of_eq rfl

/-! ## Null and arrays -/

/-- `value === null` or what the reader accepts. -/
def nullable (read : Reader α) : Reader (Option α)
  | .null => some none
  | v => (read v).map some

/-- An optional value as it is written. -/
def ofOption (write : β → Json) : Option β → Json
  | none => .null
  | some b => write b

/-- A value that may be missing is read if it is missing or readable. -/
theorem nullable_ofOption {read : Reader α} {write : β → Json} {view : β → α} {P : β → Prop}
    (hnonNull : ∀ b, write b ≠ .null) (h : ∀ b, Decodes (read (write b)) (P b) (view b))
    (value : Option β) :
    Decodes (nullable read (ofOption write value)) (∀ b, value = some b → P b)
      (value.map view) := by
  cases value with
  | none => exact (Decodes.pure none).congr (by simp)
  | some b =>
    have hread : nullable read (write b) = (read (write b)).map some := by
      rw [nullable]
      exact hnonNull b
    rw [ofOption, hread]
    exact ((h b).map some).congr (by simp)

/-- An array, read item by item. -/
def arrayOf (read : Reader α) : Reader (List α)
  | .arr vs => vs.mapM read
  | _ => none

/-- An array is read if each of its items is. -/
theorem arrayOf_map {read : Reader α} {write : β → Json} {view : β → α} {P : β → Prop}
    (values : List β) (h : ∀ b ∈ values, Decodes (read (write b)) (P b) (view b)) :
    Decodes (arrayOf read (.arr (values.map write))) (∀ b ∈ values, P b) (values.map view) := by
  rw [arrayOf]
  induction values with
  | nil => exact (Decodes.pure []).congr (by simp)
  | cons b values ih =>
    have hrest := ih fun c hc => h c (List.mem_cons_of_mem b hc)
    rw [List.map_cons, List.map_cons, List.mapM_cons]
    have hcons : Decodes ((values.map write).mapM read >>= fun as => pure (view b :: as)) _
        (view b :: values.map view) := hrest.bind fun _ => .pure _
    exact ((h b List.mem_cons_self).bind fun _ => hcons).congr (by simp)

/-! ## Objects -/

/-- An object with exactly the given keys. -/
def exactly (keys : List String) : Reader (List (String × Json))
  | .obj members =>
    if members.length = keys.length ∧ ∀ k ∈ keys, (members.lookup k).isSome then some members
    else none
  | _ => none

/-- A key is there if one of the members has it. -/
theorem lookup_isSome {members : List (String × Json)} {key : String} :
    (members.lookup key).isSome ↔ key ∈ members.map (·.1) := by
  induction members with
  | nil => simp
  | cons m members ih =>
    rw [Json.lookup_cons, List.map_cons, List.mem_cons, ← ih]
    by_cases h : key = m.1 <;> simp [h]

/-- The keys may stand in another order than the members. -/
theorem exactly_obj {keys : List String} {members : List (String × Json)}
    (h : (members.map (·.1)).isPerm keys = true) :
    Decodes (exactly keys (.obj members)) True members := by
  rw [List.isPerm_iff] at h
  have hlength : members.length = keys.length := by rw [← h.length_eq, List.length_map]
  have hlookup : ∀ k ∈ keys, (members.lookup k).isSome := by
    intro k hk
    rw [lookup_isSome]
    exact h.mem_iff.mpr hk
  exact .of_eq (by rw [exactly, if_pos ⟨hlength, hlookup⟩])

/-- The member of an object, read. -/
def member (members : List (String × Json)) (key : String) (read : Reader α) : Option α :=
  (members.lookup key).bind read

/-- A member is read as its value is. -/
theorem member_of {members : List (String × Json)} {key : String} {read : Reader α} {v : Json}
    {P : Prop} {a : α} (hlookup : members.lookup key = some v) (h : Decodes (read v) P a) :
    Decodes (member members key read) P a := by
  rw [member, hlookup]
  exact h

end Browser
