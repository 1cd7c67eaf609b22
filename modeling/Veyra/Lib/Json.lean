import Mathlib.Data.List.Basic

/-!
# Veyra.Lib.Json

JSON values as an untyped document reader hands them out: numbers keep apart
the unsigned, the negative and the floating-point ones, and an object is an
ordered map, stored as its members in key order.
-/

/-- A JSON number; a float is kept as its bits. -/
inductive JsonNumber
  | posInt (n : UInt64)
  | negInt (n : Int64)
  | float (bits : UInt64)
deriving DecidableEq, Repr

inductive Json
  | null
  | bool (b : Bool)
  | num (n : JsonNumber)
  | str (s : String)
  | arr (vs : List Json)
  | obj (members : List (String × Json))
deriving Repr

/-- Equality of floats given by their bits: the two zeros are equal. -/
def JsonNumber.floatEq (a b : UInt64) : Bool := a == b || (a <<< 1 == 0 && b <<< 1 == 0)

/-- Equality of numbers, which keeps the three representations apart. -/
def JsonNumber.eqv : JsonNumber → JsonNumber → Bool
  | .posInt a, .posInt b => a == b
  | .negInt a, .negInt b => a == b
  | .float a, .float b => floatEq a b
  | _, _ => false

namespace Json

mutual

/-- Equality of values. -/
def eqv : Json → Json → Bool
  | .null, .null => true
  | .bool a, .bool b => a == b
  | .num a, .num b => a.eqv b
  | .str a, .str b => a == b
  | .arr as, .arr bs => eqvList as bs
  | .obj as, .obj bs => eqvMembers as bs
  | _, _ => false

def eqvList : List Json → List Json → Bool
  | [], [] => true
  | a :: as, b :: bs => eqv a b && eqvList as bs
  | _, _ => false

def eqvMembers : List (String × Json) → List (String × Json) → Bool
  | [], [] => true
  | (k, a) :: as, (k', b) :: bs => k == k' && eqv a b && eqvMembers as bs
  | _, _ => false

end

/-! ## Members of an object -/

/-- Insert into the ordered map: replace the value of an existing key, or put the new
member before the first greater key. -/
def setMember (k : String) (v : Json) : List (String × Json) → List (String × Json)
  | [] => [(k, v)]
  | (k', v') :: ms =>
    if k = k' then (k, v) :: ms
    else if k < k' then (k, v) :: (k', v') :: ms
    else (k', v') :: setMember k v ms

def removeMember (k : String) (ms : List (String × Json)) : List (String × Json) :=
  ms.filter (·.1 != k)

theorem lookup_cons (m : String × Json) (ms : List (String × Json)) (k : String) :
    (m :: ms).lookup k = if k = m.1 then some m.2 else ms.lookup k := by
  rw [List.lookup_cons]
  by_cases h : k = m.1
  · simp [h]
  · have hk : (k == m.1) = false := by simpa using h
    rw [hk, if_neg h]

/-- A member that was set is found under its key. -/
@[simp] theorem lookup_setMember (k k' : String) (v : Json) (ms : List (String × Json)) :
    (setMember k v ms).lookup k' = if k' = k then some v else ms.lookup k' := by
  induction ms with
  | nil => simp [setMember, lookup_cons]
  | cons m ms ih =>
    rw [setMember]
    split
    · next h => simp only [lookup_cons, h]; grind
    · next h =>
      split
      · simp only [lookup_cons]
      · simp only [lookup_cons, ih]
        grind

/-- A member that was removed is not found. -/
@[simp] theorem lookup_removeMember (k k' : String) (ms : List (String × Json)) :
    (removeMember k ms).lookup k' = if k' = k then none else ms.lookup k' := by
  unfold removeMember
  induction ms with
  | nil => simp
  | cons m ms ih =>
    by_cases h : m.1 = k
    · rw [List.filter_cons_of_neg (by simp [h]), ih, lookup_cons]
      grind
    · rw [List.filter_cons_of_pos (by simpa using h), lookup_cons, lookup_cons, ih]
      grind

/-- The object with the given members, put in key order. -/
def object (fields : List (String × Json)) : Json :=
  .obj (fields.foldr (fun f ms => setMember f.1 f.2 ms) [])

/-- The first of several members with one key is found. -/
theorem lookup_foldr_setMember (fields : List (String × Json)) (k : String) :
    (fields.foldr (fun f ms => setMember f.1 f.2 ms) []).lookup k = fields.lookup k := by
  induction fields with
  | nil => rfl
  | cons f fields ih =>
    rw [List.foldr_cons, lookup_setMember, ih, lookup_cons]

/-! ## Access -/

/-- The member of an object; anything else has none. -/
def get? (v : Json) (k : String) : Option Json :=
  match v with
  | .obj ms => ms.lookup k
  | _ => none

@[simp] theorem get?_obj (ms : List (String × Json)) (k : String) :
    (Json.obj ms).get? k = ms.lookup k := rfl

@[simp] theorem get?_object (fields : List (String × Json)) (k : String) :
    (object fields).get? k = fields.lookup k :=
  lookup_foldr_setMember fields k

def asStr? : Json → Option String
  | .str s => some s
  | _ => none

def asBool? : Json → Option Bool
  | .bool b => some b
  | _ => none

/-- Only an unsigned integer is one; a float with an integral value is not. -/
def asU64? : Json → Option UInt64
  | .num (.posInt n) => some n
  | _ => none

def asArr? : Json → Option (List Json)
  | .arr vs => some vs
  | _ => none

def asObj? : Json → Option (List (String × Json))
  | .obj ms => some ms
  | _ => none

/-- An unsigned integer in the range of `u32`. -/
def asU32? (v : Json) : Option UInt32 :=
  v.asU64?.bind fun n => if n ≤ 0xffffffff then some n.toUInt32 else none

def asU16? (v : Json) : Option UInt16 :=
  v.asU64?.bind fun n => if n ≤ 0xffff then some n.toUInt16 else none

def asU8? (v : Json) : Option UInt8 :=
  v.asU64?.bind fun n => if n ≤ 0xff then some n.toUInt8 else none

def isBool (v : Json) : Bool := v.asBool?.isSome

def isNull : Json → Bool
  | .null => true
  | _ => false

theorem asArr?_eq_some {v : Json} {vs : List Json} : v.asArr? = some vs ↔ v = .arr vs := by
  cases v <;> simp [asArr?]

theorem asObj?_eq_some {v : Json} {ms : List (String × Json)} :
    v.asObj? = some ms ↔ v = .obj ms := by
  cases v <;> simp [asObj?]

theorem asStr?_eq_some {v : Json} {s : String} : v.asStr? = some s ↔ v = .str s := by
  cases v <;> simp [asStr?]

theorem asBool?_eq_some {v : Json} {b : Bool} : v.asBool? = some b ↔ v = .bool b := by
  cases v <;> simp [asBool?]

/-- Only one value is a given `u32`. -/
theorem eq_of_asU32? {v : Json} {n : UInt32} (h : v.asU32? = some n) :
    v = .num (.posInt n.toUInt64) := by
  obtain ⟨m, hm, hn⟩ := Option.bind_eq_some_iff.mp h
  have hv : v = .num (.posInt m) := by
    unfold asU64? at hm
    split at hm
    · cases hm
      rfl
    · cases hm
  split at hn
  · next hle =>
    cases hn
    have hm' : m.toUInt32.toUInt64 = m := by
      apply UInt64.toNat_inj.mp
      have hlt : m.toNat ≤ 0xffffffff := UInt64.le_iff_toNat_le.mp hle
      rw [UInt32.toNat_toUInt64, UInt64.toNat_toUInt32]
      omega
    rw [hv, hm']
  · cases hn

/-- The value under a path of keys. -/
def at? (v : Json) : List String → Option Json
  | [] => some v
  | k :: ks => (v.get? k).bind (·.at? ks)

/-! ## Equality -/

mutual

theorem eqv_refl (v : Json) : v.eqv v = true := by
  cases v with
  | null => rfl
  | bool b => simp [eqv]
  | num n => cases n <;> simp [eqv, JsonNumber.eqv, JsonNumber.floatEq]
  | str s => simp [eqv]
  | arr vs => rw [eqv, eqvList_refl vs]
  | obj ms => rw [eqv, eqvMembers_refl ms]

theorem eqvList_refl (vs : List Json) : eqvList vs vs = true := by
  cases vs with
  | nil => rfl
  | cons v vs => rw [eqvList, eqv_refl v, eqvList_refl vs]; rfl

theorem eqvMembers_refl (ms : List (String × Json)) : eqvMembers ms ms = true := by
  cases ms with
  | nil => rfl
  | cons m ms =>
    obtain ⟨k, v⟩ := m
    rw [eqvMembers, eqv_refl v, eqvMembers_refl ms]
    simp

end

/-- Strings, Booleans and unsigned integers. -/
def isScalar : Json → Bool
  | .bool _ | .str _ | .num (.posInt _) => true
  | _ => false

/-- For these, equal values are the same. -/
theorem eq_of_eqv {v w : Json} (h : v.eqv w = true) (hw : w.isScalar = true) : v = w := by
  unfold eqv at h
  split at h
  · rfl
  · simpa using h
  · next a b =>
    unfold isScalar at hw
    split at hw
    · simp_all
    · simp_all
    · next n hn =>
      cases hn
      unfold JsonNumber.eqv at h
      split at h <;> simp_all
    · cases hw
  · simpa using h
  · cases hw
  · cases hw
  · cases h

end Json
