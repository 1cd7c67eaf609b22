import Mathlib.Data.List.Nodup
import Mathlib.Data.String.Basic
import Veyra.Lib.Strict

/-!
# Veyra.Lib.JsonTree

JSON as it stands in a text: an object has its members in any order and may
have several of one key.

An untyped reader makes a value of such a tree (`value`): the members come in
the order of their keys, and the last of several wins.  A typed reader whose
type has only records reads no tree in which a member stands twice
(`Codec.readTree`).  What a codec writes is a value already (`Codec.Plain`),
so the trees that it reads and that have the value it would write are those
without repeated members of that value (`readTree_canonical`).
-/

namespace Json

/-! ## Equality -/

mutual

/-- Whether two trees are the same, floats by their bits. -/
def same : Json → Json → Bool
  | .null, .null => true
  | .bool a, .bool b => a == b
  | .num a, .num b => a == b
  | .str a, .str b => a == b
  | .arr as, .arr bs => sameList as bs
  | .obj as, .obj bs => sameMembers as bs
  | _, _ => false

def sameList : List Json → List Json → Bool
  | [], [] => true
  | a :: as, b :: bs => same a b && sameList as bs
  | _, _ => false

def sameMembers : List (String × Json) → List (String × Json) → Bool
  | [], [] => true
  | (k, a) :: as, (k', b) :: bs => k == k' && same a b && sameMembers as bs
  | _, _ => false

end

mutual

theorem same_iff {v w : Json} : same v w = true ↔ v = w := by
  cases v <;> cases w <;> simp [same, sameList_iff, sameMembers_iff]

theorem sameList_iff {vs ws : List Json} : sameList vs ws = true ↔ vs = ws := by
  cases vs <;> cases ws <;> simp [sameList, same_iff, sameList_iff]

theorem sameMembers_iff {ms ns : List (String × Json)} : sameMembers ms ns = true ↔ ms = ns := by
  match ms, ns with
  | [], [] => simp [sameMembers]
  | [], _ :: _ => simp [sameMembers]
  | _ :: _, [] => simp [sameMembers]
  | (k, v) :: ms, (k', w) :: ns =>
    have hvalue : same v w = true ↔ v = w := same_iff
    have hrest : sameMembers ms ns = true ↔ ms = ns := sameMembers_iff
    simp [sameMembers, hvalue, hrest, and_assoc]

end

instance : DecidableEq Json := fun _ _ => decidable_of_iff _ same_iff

/-! ## Trees and their values -/

mutual

/-- No object has two members of one key. -/
def distinct : Json → Bool
  | .arr vs => distinctList vs
  | .obj ms => decide (ms.map (·.1)).Nodup && distinctMembers ms
  | .null | .bool _ | .num _ | .str _ => true

def distinctList : List Json → Bool
  | [] => true
  | v :: vs => distinct v && distinctList vs

def distinctMembers : List (String × Json) → Bool
  | [] => true
  | (_, v) :: ms => distinct v && distinctMembers ms

end

mutual

/-- What an untyped reader makes of a tree. -/
def value : Json → Json
  | .null => .null
  | .bool b => .bool b
  | .num n => .num n
  | .str s => .str s
  | .arr vs => .arr (valueList vs)
  | .obj ms => .obj (valueMembers ms)

def valueList : List Json → List Json
  | [] => []
  | v :: vs => value v :: valueList vs

/-- A member is overwritten by a later one of its key. -/
def valueMembers : List (String × Json) → List (String × Json)
  | [] => []
  | (k, v) :: ms =>
    if k ∈ ms.map (·.1) then valueMembers ms else setMember k (value v) (valueMembers ms)

end

theorem distinctList_iff {vs : List Json} :
    distinctList vs = true ↔ ∀ v ∈ vs, v.distinct = true := by
  induction vs with
  | nil => simp [distinctList]
  | cons v vs ih => rw [distinctList, Bool.and_eq_true, ih, List.forall_mem_cons]

theorem distinctMembers_iff {ms : List (String × Json)} :
    distinctMembers ms = true ↔ ∀ m ∈ ms, m.2.distinct = true := by
  induction ms with
  | nil => simp [distinctMembers]
  | cons m ms ih => rw [distinctMembers, Bool.and_eq_true, ih, List.forall_mem_cons]

theorem valueList_eq (vs : List Json) : valueList vs = vs.map value := by
  induction vs with
  | nil => rfl
  | cons v vs ih => rw [valueList, ih, List.map_cons]

/-- A member that stands again later does not count. -/
theorem value_repeated {k : String} {v : Json} {ms : List (String × Json)}
    (h : k ∈ ms.map (·.1)) : value (.obj ((k, v) :: ms)) = value (.obj ms) := by
  rw [value, value, valueMembers, if_pos h]

/-- A tree with a repeated member is not distinct. -/
theorem distinct_repeated {k : String} {v : Json} {ms : List (String × Json)}
    (h : k ∈ ms.map (·.1)) : distinct (.obj ((k, v) :: ms)) = false := by
  have hnodup : ¬ (((k, v) :: ms).map (·.1)).Nodup := fun hnodup =>
    (List.nodup_cons.mp hnodup).1 h
  rw [distinct, decide_eq_false hnodup, Bool.false_and]

/-! ## Values -/

/-- A value without floats: the members of its objects are in the order of their keys. -/
inductive IsValue : Json → Prop
  | null : IsValue .null
  | bool (b : Bool) : IsValue (.bool b)
  | posInt (n : UInt64) : IsValue (.num (.posInt n))
  | negInt (n : Int64) : IsValue (.num (.negInt n))
  | str (s : String) : IsValue (.str s)
  | arr {vs : List Json} (items : ∀ v ∈ vs, IsValue v) : IsValue (.arr vs)
  | obj {ms : List (String × Json)} (keys : ms.Pairwise fun a b => a.1 < b.1)
      (members : ∀ m ∈ ms, IsValue m.2) : IsValue (.obj ms)

/-- Members in order are left as they are. -/
theorem valueMembers_of_sorted {ms : List (String × Json)}
    (keys : ms.Pairwise fun a b => a.1 < b.1) (h : ∀ m ∈ ms, m.2.value = m.2) :
    valueMembers ms = ms := by
  induction ms with
  | nil => rfl
  | cons m ms ih =>
    obtain ⟨hfirst, hrest⟩ := List.pairwise_cons.mp keys
    obtain ⟨hvalue, hvalues⟩ := List.forall_mem_cons.mp h
    have hnew : m.1 ∉ ms.map (·.1) := by
      intro hmem
      obtain ⟨m', hm', heq⟩ := List.mem_map.mp hmem
      exact lt_irrefl m.1 (heq ▸ hfirst m' hm')
    rw [valueMembers, if_neg hnew, ih hrest hvalues, hvalue]
    cases ms with
    | nil => rfl
    | cons m' ms =>
      have hlt := hfirst m' List.mem_cons_self
      rw [setMember, if_neg hlt.ne, if_pos hlt]

/-- A value is a tree of its own. -/
theorem IsValue.value {v : Json} (h : v.IsValue) : v.value = v := by
  induction h with
  | null | bool b | posInt n | negInt n | str s => rfl
  | @arr vs items ih =>
    rw [Json.value, valueList_eq, List.map_congr_left ih, List.map_id']
  | obj keys members ih => rw [Json.value, valueMembers_of_sorted keys ih]

/-- A value has no member twice. -/
theorem IsValue.distinct {v : Json} (h : v.IsValue) : v.distinct = true := by
  induction h with
  | null | bool b | posInt n | negInt n | str s => rfl
  | arr items ih => exact distinctList_iff.mpr ih
  | obj keys members ih =>
    have hnodup := List.pairwise_map.mpr (keys.imp fun hlt => hlt.ne)
    rw [Json.distinct, Bool.and_eq_true]
    exact ⟨decide_eq_true hnodup, distinctMembers_iff.mpr ih⟩

/-- A member that is set keeps the order. -/
theorem sorted_setMember {k : String} {v : Json} {ms : List (String × Json)}
    (h : ms.Pairwise fun a b => a.1 < b.1) :
    (setMember k v ms).Pairwise fun a b => a.1 < b.1 := by
  induction ms with
  | nil => exact List.pairwise_singleton _ _
  | cons m ms ih =>
    obtain ⟨hfirst, hrest⟩ := List.pairwise_cons.mp h
    rw [setMember]
    split
    · next heq => exact List.pairwise_cons.mpr ⟨fun m' hm' => heq ▸ hfirst m' hm', hrest⟩
    · next hne =>
      split
      · next hlt =>
        refine List.pairwise_cons.mpr ⟨fun m' hm' => ?_, h⟩
        cases List.mem_cons.mp hm' with
        | inl heq => exact heq ▸ hlt
        | inr hmem => exact hlt.trans (hfirst m' hmem)
      · next hnot =>
        have hgreater : m.1 < k := lt_of_le_of_ne (not_lt.mp hnot) (Ne.symm hne)
        refine List.pairwise_cons.mpr ⟨fun m' hm' => ?_, ih hrest⟩
        cases mem_setMember hm' with
        | inl heq => exact heq ▸ hgreater
        | inr hmem => exact hfirst m' hmem

/-- An object of values is a value. -/
theorem IsValue.object {fields : List (String × Json)} (h : ∀ f ∈ fields, f.2.IsValue) :
    (Json.object fields).IsValue := by
  have hordered : (ordered fields).Pairwise (fun a b => a.1 < b.1) ∧
      ∀ m ∈ ordered fields, m.2.IsValue := by
    induction fields with
    | nil => exact ⟨List.Pairwise.nil, fun _ hm => absurd hm List.not_mem_nil⟩
    | cons f fields ih =>
      obtain ⟨hfirst, hrest⟩ := List.forall_mem_cons.mp h
      obtain ⟨hkeys, hmembers⟩ := ih hrest
      refine ⟨sorted_setMember hkeys, fun m hm => ?_⟩
      cases mem_setMember hm with
      | inl heq => exact heq ▸ hfirst
      | inr hmem => exact hmembers m hmem
  exact .obj hordered.1 hordered.2

end Json

/-! ## Typed readers -/

namespace Codec

variable {α : Type} {c : Codec α} {t : Json} {a : α}

/-- Read a type whose objects are all records.  A record finds its members in any order, and
refuses one that stands twice. -/
def readTree (c : Codec α) (t : Json) : Option α := if t.distinct then c.decode t.value else none

theorem readTree_eq_some : c.readTree t = some a ↔ t.distinct = true ∧ c.decode t.value = some a := by
  rw [readTree, Option.ite_none_right_eq_some]

/-- The trees that are read, and have the value that would be written. -/
theorem readTree_canonical :
    c.readTree t = some a ∧ t.value = c.encode a ↔ t.distinct = true ∧ t.value = c.encode a := by
  rw [readTree_eq_some]
  constructor
  · rintro ⟨⟨hdistinct, -⟩, hvalue⟩
    exact ⟨hdistinct, hvalue⟩
  · rintro ⟨hdistinct, hvalue⟩
    exact ⟨⟨hdistinct, by rw [hvalue, c.decode_encode]⟩, hvalue⟩

/-- The codec writes values without floats. -/
class Plain (c : Codec α) : Prop where
  isValue : ∀ a, (c.encode a).IsValue

instance : string.Plain := ⟨.str⟩
instance : bool.Plain := ⟨.bool⟩
instance : u32.Plain := ⟨fun _ => .posInt _⟩
instance : u16.Plain := ⟨fun _ => .posInt _⟩
instance : u8.Plain := ⟨fun _ => .posInt _⟩

instance (c : Codec α) (h : c.NonNull) [c.Plain] : (c.option h).Plain where
  isValue
    | none => .null
    | some a => Plain.isValue (c := c) a

instance (c : Codec α) [c.Plain] : (list c).Plain where
  isValue _ := .arr (List.forall_mem_map.mpr fun a _ => Plain.isValue (c := c) a)

instance (c : Codec α) [c.Plain] : (triple c).Plain where
  isValue t := .arr (by simp [Plain.isValue (c := c)])

instance (name : α → String) (parse : String → Option α) (h : ∀ a, parse (name a) = some a) :
    (enumeration name parse h).Plain := ⟨fun _ => .str _⟩

/-- A union whose variants write values. -/
theorem Plain.tagged {key : String} {tag : α → String} {write : α → List (String × Json)}
    {read : String → RecordCodec.Source → Option α}
    {h : ∀ a ms, (∀ k, k ≠ key → ms.lookup k = (write a).lookup k) →
      read (tag a) (.members ms) = some a}
    (hwrite : ∀ a, ∀ f ∈ write a, f.2.IsValue) : (Codec.tagged key tag write read h).Plain where
  isValue a := .object (List.forall_mem_cons.mpr ⟨.str _, hwrite a⟩)

end Codec

namespace RecordCodec

variable {α β : Type}

/-- The members of the record are values without floats. -/
class Plain (r : RecordCodec α) : Prop where
  isValue : ∀ a, ∀ f ∈ r.write a, f.2.IsValue

instance (name : String) (c : Codec α) [c.Plain] : (required name c).Plain where
  isValue a := List.forall_mem_singleton.mpr (Codec.Plain.isValue (c := c) a)

instance (name : String) (c : Codec α) (h : c.NonNull) [c.Plain] : (omitted name c h).Plain where
  isValue
    | none => fun _ hf => absurd hf List.not_mem_nil
    | some a => List.forall_mem_singleton.mpr (Codec.Plain.isValue (c := c) a)

instance (name : String) (c : Codec α) (default : α) (skip : α → Bool)
    (h : ∀ a, skip a = true → a = default) [c.Plain] :
    (defaulted name c default skip h).Plain where
  isValue a := by
    rw [defaulted]
    dsimp only
    split
    · exact fun _ hf => absurd hf List.not_mem_nil
    · exact List.forall_mem_singleton.mpr (Codec.Plain.isValue (c := c) a)

instance (r : RecordCodec α) (s : RecordCodec β) (h : ∀ k ∈ r.names, k ∉ s.names) [r.Plain]
    [s.Plain] : (r.and s h).Plain where
  isValue p := List.forall_mem_append.mpr
    ⟨Plain.isValue (r := r) p.1, Plain.isValue (r := s) p.2⟩

instance (r : RecordCodec α) (f : α → β) (g : β → α) (h : ∀ b, f (g b) = b) [r.Plain] :
    (r.imap f g h).Plain := ⟨fun b => Plain.isValue (r := r) (g b)⟩

instance (r : RecordCodec α) [r.Plain] : r.strict.Plain :=
  ⟨fun a => .object (Plain.isValue (r := r) a)⟩

end RecordCodec

/-! ## Texts -/

/-- A format of texts: the tree that a text has, if it is one of JSON, and a text for each value.
It may write the members of an object in any order, each of them once. -/
structure JsonFormat (Text : Type) where
  parse : Text → Option Json
  print : Json → Text
  parse_print : ∀ v, v.IsValue →
    ∃ t, parse (print v) = some t ∧ t.distinct = true ∧ t.value = v

/-- Trees are their own texts. -/
def JsonFormat.tree : JsonFormat Json where
  parse := some
  print v := v
  parse_print v h := ⟨v, rfl, h.distinct, h.value⟩
