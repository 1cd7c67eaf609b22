import Veyra.Lib.Codec

/-!
# Veyra.Lib.Strict

Records and unions that deny unknown fields.

A strict record is read only from members that it names.  A variant of a union that is tagged
internally is read beside the tag, which is then one more member it may find.
-/

namespace Json

/-- A member is the one that was set, or was there. -/
theorem mem_setMember {k : String} {v : Json} {ms : List (String × Json)} {m : String × Json}
    (h : m ∈ setMember k v ms) : m = (k, v) ∨ m ∈ ms := by
  induction ms with
  | nil => exact .inl (List.mem_singleton.mp h)
  | cons m' ms ih =>
    rw [setMember] at h
    split at h
    · exact (List.mem_cons.mp h).imp_right (List.mem_cons_of_mem _)
    · split at h
      · exact List.mem_cons.mp h
      · cases List.mem_cons.mp h with
        | inl heq => exact .inr (heq ▸ List.mem_cons_self)
        | inr hm => exact (ih hm).imp_right (List.mem_cons_of_mem _)

/-- The members of the object with the given fields. -/
def ordered (fields : List (String × Json)) : List (String × Json) :=
  fields.foldr (fun f ms => setMember f.1 f.2 ms) []

theorem object_eq (fields : List (String × Json)) : object fields = .obj (ordered fields) := rfl

theorem lookup_ordered (fields : List (String × Json)) (k : String) :
    (ordered fields).lookup k = fields.lookup k := lookup_foldr_setMember fields k

/-- Every field has its member. -/
theorem key_mem_ordered {fields : List (String × Json)} {k : String}
    (h : k ∈ fields.map (·.1)) : k ∈ (ordered fields).map (·.1) := by
  by_contra hnot
  have hnone : (ordered fields).lookup k = none := List.lookup_eq_none_iff.mpr fun m hm => by
    have hne : k ≠ m.1 := fun heq => hnot (heq ▸ List.mem_map_of_mem hm)
    simpa using hne
  obtain ⟨f, hf, rfl⟩ := List.mem_map.mp h
  rw [lookup_ordered, List.lookup_eq_none_iff] at hnone
  simpa using hnone f hf

/-- An object has no other members than its fields. -/
theorem mem_ordered {fields : List (String × Json)} {m : String × Json} (h : m ∈ ordered fields) :
    m.1 ∈ fields.map (·.1) := by
  induction fields with
  | nil => cases h
  | cons f fields ih =>
    rw [List.map_cons, List.mem_cons]
    exact (mem_setMember h).imp (congrArg Prod.fst) ih

end Json

namespace RecordCodec

variable {α : Type}

/-- Read the record; other members than its own and the given ones are refused. -/
def readStrict (r : RecordCodec α) (besides : List String) : Source → Option α
  | .members ms =>
    if ms.all fun m => decide (m.1 ∈ besides ++ r.names) then r.fromMembers ms else none
  | .items vs => r.read (.items vs)

variable {r : RecordCodec α} {besides : List String} {a : α} {ms : List (String × Json)}

/-- Members that look like the written ones are members of the record. -/
theorem known_of_lookup (h : ∀ k, k ∉ besides → ms.lookup k = (r.write a).lookup k) :
    ∀ m ∈ ms, m.1 ∈ besides ++ r.names := by
  intro m hm
  by_cases hbeside : m.1 ∈ besides
  · exact List.mem_append_left _ hbeside
  · have hfound : (r.write a).lookup m.1 ≠ none := by
      rw [← h m.1 hbeside, ne_eq, List.lookup_eq_none_iff]
      intro hnone
      simpa using hnone m hm
    by_contra hforeign
    refine hfound (List.lookup_eq_none_iff.mpr fun f hf => ?_)
    have hne : m.1 ≠ f.1 := fun heq =>
      hforeign (List.mem_append_right _ (heq ▸ r.write_names a f hf))
    simpa using hne

theorem readStrict_members (hbesides : ∀ k ∈ r.names, k ∉ besides)
    (h : ∀ k, k ∉ besides → ms.lookup k = (r.write a).lookup k) :
    r.readStrict besides (.members ms) = some a := by
  have hknown : (ms.all fun m => decide (m.1 ∈ besides ++ r.names)) = true :=
    List.all_eq_true.mpr fun m hm => decide_eq_true (known_of_lookup h m hm)
  rw [readStrict, if_pos hknown]
  exact r.fromMembers_write a ms fun k hk => h k (hbesides k hk)

/-- Beside a tag, as the variants of a union are read. -/
theorem readStrict_beside {key : String} (hkey : key ∉ r.names)
    (h : ∀ k, k ≠ key → ms.lookup k = (r.write a).lookup k) :
    r.readStrict [key] (.members ms) = some a := by
  refine readStrict_members (fun k hk hmem => ?_) fun k hk => h k (by simpa using hk)
  exact hkey (List.mem_singleton.mp hmem ▸ hk)

/-- What is written beside a tag is read as it stands there. -/
theorem readStrict_ordered {key : String} {t : Json} {fields : List (String × Json)}
    (hkey : key ∉ r.names) (hnames : fields.map (·.1) = r.names) :
    r.readStrict [key] (.members (Json.ordered ((key, t) :: fields))) = r.fromMembers fields := by
  have hknown : ((Json.ordered ((key, t) :: fields)).all
      fun m => decide (m.1 ∈ [key] ++ r.names)) = true := by
    refine List.all_eq_true.mpr fun m hm => decide_eq_true ?_
    cases List.mem_cons.mp (Json.mem_ordered hm) with
    | inl htag => exact List.mem_append_left _ (htag ▸ List.mem_singleton_self key)
    | inr hfield => exact List.mem_append_right _ (hnames ▸ hfield)
  rw [readStrict, if_pos hknown]
  refine r.fromMembers_congr _ _ fun k hk => ?_
  have hne : k ≠ key := fun heq => hkey (heq ▸ hk)
  rw [Json.lookup_ordered, Json.lookup_cons, if_neg hne]

/-- A strict record on its own. -/
def strict (r : RecordCodec α) : Codec α where
  encode a := .object (r.write a)
  decode
    | .obj ms => r.readStrict [] (.members ms)
    | .arr vs => r.readStrict [] (.items vs)
    | _ => none
  decode_encode _ :=
    readStrict_members (fun _ _ => List.not_mem_nil) fun k _ => Json.lookup_foldr_setMember _ k

theorem strict_nonNull (r : RecordCodec α) : r.strict.NonNull := fun _ => Json.noConfusion

end RecordCodec

namespace Codec

variable {α : Type}

/-- The value of a list that has a name. -/
def byName (values : List α) (name : α → String) (text : String) : Option α :=
  values.find? fun a => name a = text

/-- An enumeration by the names of its values. -/
def named (values : List α) (name : α → String)
    (h : ∀ a, byName values name (name a) = some a) : Codec α :=
  enumeration name (byName values name) h

/-- Only the given members are allowed. -/
def restrict (keys : List String) (c : Codec α)
    (h : ∀ a ms, c.encode a = .obj ms → ∀ m ∈ ms, m.1 ∈ keys) : Codec α where
  encode := c.encode
  decode
    | .obj ms => if ms.all fun m => decide (m.1 ∈ keys) then c.decode (.obj ms) else none
    | v => c.decode v
  decode_encode a := by
    split
    · next ms hms =>
      have hknown : (ms.all fun m => decide (m.1 ∈ keys)) = true :=
        List.all_eq_true.mpr fun m hm => decide_eq_true (h a ms hms m hm)
      rw [if_pos hknown, ← hms, c.decode_encode]
    · exact c.decode_encode a

/-- An adjacently tagged union with no members besides the tag and the content. -/
def adjacentStrict (key content : String) (tag : α → String) (write : α → Option Json)
    (read : String → Option Json → Option α) (hne : content ≠ key)
    (h : ∀ a, read (tag a) (write a) = some a) : Codec α :=
  (adjacent key content tag write read hne h).restrict [key, content] fun a ms hms m hm => by
    obtain rfl := Json.obj.inj hms
    cases List.mem_cons.mp (Json.mem_ordered hm) with
    | inl hkey => exact hkey ▸ List.mem_cons_self
    | inr hmem =>
      obtain ⟨f, hf, hname⟩ := List.mem_map.mp hmem
      obtain ⟨v, -, rfl⟩ := List.mem_map.mp hf
      exact hname ▸ List.mem_cons_of_mem _ List.mem_cons_self

theorem adjacentStrict_decode {key content : String} {tag : α → String} {write : α → Option Json}
    {read : String → Option Json → Option α} {hne : content ≠ key}
    {h : ∀ a, read (tag a) (write a) = some a} (t : String) (v : Json) :
    (adjacentStrict key content tag write read hne h).decode
      (.object [(key, .str t), (content, v)]) = read t (some v) := by
  have hknown : ((Json.ordered [(key, .str t), (content, v)]).all
      fun m => decide (m.1 ∈ [key, content])) = true :=
    List.all_eq_true.mpr fun m hm => decide_eq_true (Json.mem_ordered hm)
  rw [Json.object_eq, adjacentStrict, restrict]
  dsimp only
  rw [if_pos hknown, adjacent]
  simp only [Json.lookup_ordered, Json.lookup_cons, if_true, if_neg hne, Option.bind_some,
    variantName]

/-- The variant of a tag reads what stands beside it. -/
theorem tagged_decode {key : String} {tag : α → String} {write : α → List (String × Json)}
    {read : String → RecordCodec.Source → Option α}
    {h : ∀ a ms, (∀ k, k ≠ key → ms.lookup k = (write a).lookup k) →
      read (tag a) (.members ms) = some a} (t : String) (fields : List (String × Json)) :
    (tagged key tag write read h).decode (.object ((key, .str t) :: fields)) =
      read t (.members (Json.ordered ((key, .str t) :: fields))) := by
  rw [Json.object_eq, tagged]
  simp only [Json.lookup_ordered, Json.lookup_cons, if_true, Option.bind_some, Json.asStr?]

end Codec
