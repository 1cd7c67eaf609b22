import Veyra.Subscription.Headers

/-!
# Veyra.Subscription.Userinfo

When `Subscription-Userinfo` is read, and what its reading depends on.

The parser walks the parameters and gives up at the first one it cannot read, known or not.
`Readable` says of a header, without the walk, that it has no such parameter; the order of the
parameters plays no part in it.

* `parseParameters_perm` — the order of the parameters does not matter;
* `userinfo_insensitive_iff` — an unknown parameter does not matter exactly when its value is a
  number, or nothing is read anyway.
-/

namespace Veyra

/-! ## Folds whose steps commute -/

/-- A fold that can fail does not depend on the order, if any two steps commute. -/
theorem foldlM_perm {α σ : Type} {step : σ → α → Option σ}
    (hcomm : ∀ s a b, ((step s a).bind fun s => step s b) = (step s b).bind fun s => step s a)
    {xs ys : List α} (h : xs.Perm ys) (s : σ) : xs.foldlM step s = ys.foldlM step s := by
  induction h generalizing s with
  | nil => rfl
  | cons a _ ih =>
    rw [List.foldlM_cons, List.foldlM_cons]
    exact Option.bind_congr fun s' _ => ih s'
  | swap a b xs =>
    simp only [List.foldlM_cons, Option.bind_eq_bind, ← Option.bind_assoc]
    rw [hcomm]
  | trans _ _ ih ih' => exact (ih s).trans (ih' s)

/-! ## One parameter -/

/-- What a parameter says: nothing, nothing that can be read, a number for an unknown key, or a
value for a field. -/
inductive Parameter
  | keyless
  | unreadable
  | unknown
  | known (field : TrafficField) (stored : UInt64)
deriving DecidableEq

/-- A parameter on its own. -/
def readParameter (part : String) : Parameter :=
  match Text.splitOnce "=" (Text.trim part) with
  | none => .keyless
  | some (key, value) =>
    match safeNumber value with
    | none => .unreadable
    | some parsed =>
      match TrafficField.ofKey (Text.lower (Text.trim key)) with
      | none => .unknown
      | some field =>
        match field.convert parsed with
        | none => .unreadable
        | some stored => .known field stored

namespace TrafficField

@[simp] theorem get_put (field : TrafficField) (v : UInt64) (t : SubscriptionTraffic) :
    field.get (field.put v t) = some v := by cases field <;> rfl

theorem get_put_of_ne {field other : TrafficField} (h : field ≠ other) (v : UInt64)
    (t : SubscriptionTraffic) : other.get (field.put v t) = other.get t := by
  cases field <;> cases other <;> first | rfl | exact absurd rfl h

theorem put_comm {field other : TrafficField} (h : field ≠ other) (v w : UInt64)
    (t : SubscriptionTraffic) :
    other.put w (field.put v t) = field.put v (other.put w t) := by
  cases field <;> cases other <;> first | rfl | exact absurd rfl h

end TrafficField

/-- The loop body, by what the parameter says. -/
theorem userinfoStep_eq (acc : SubscriptionTraffic × Bool) (part : String) :
    userinfoStep acc part =
      match readParameter part with
      | .keyless | .unknown => some acc
      | .unreadable => none
      | .known field stored =>
        if (field.get acc.1).isSome then none else some (field.put stored acc.1, true) := by
  unfold userinfoStep readParameter
  cases Text.splitOnce "=" (Text.trim part) with
  | none => rfl
  | some pair =>
    obtain ⟨key, value⟩ := pair
    dsimp only
    cases safeNumber value with
    | none => rfl
    | some parsed =>
      dsimp only
      cases TrafficField.ofKey (Text.lower (Text.trim key)) with
      | none => rfl
      | some field =>
        dsimp only
        cases field.convert parsed <;> simp

/-- Any two parameters can be read in either order. -/
theorem userinfoStep_comm (acc : SubscriptionTraffic × Bool) (a b : String) :
    ((userinfoStep acc a).bind fun acc => userinfoStep acc b) =
      (userinfoStep acc b).bind fun acc => userinfoStep acc a := by
  simp only [userinfoStep_eq]
  cases readParameter a with
  | keyless => cases readParameter b <;> simp
  | unknown => cases readParameter b <;> simp
  | unreadable =>
    cases readParameter b with
    | known field stored => simp
    | _ => rfl
  | known field stored =>
    cases readParameter b with
    | keyless => simp
    | unknown => simp
    | unreadable => simp
    | known other stored' =>
      by_cases heq : field = other
      · subst heq
        by_cases hset : (field.get acc.1).isSome = true
        · simp [hset]
        · simp [hset]
      · by_cases hset : (field.get acc.1).isSome = true
        · by_cases hset' : (other.get acc.1).isSome = true
          · simp [hset, hset']
          · simp [hset, hset', TrafficField.get_put_of_ne (Ne.symm heq)]
        · by_cases hset' : (other.get acc.1).isSome = true
          · simp [hset, hset', TrafficField.get_put_of_ne heq]
          · simp [hset, hset', TrafficField.get_put_of_ne heq,
              TrafficField.get_put_of_ne (Ne.symm heq), TrafficField.put_comm heq]

/-- **The order of the parameters does not matter.** -/
theorem parseParameters_perm {parts parts' : List String} (h : parts.Perm parts') :
    parseParameters parts = parseParameters parts' := by
  rw [parseParameters, parseParameters, foldlM_perm userinfoStep_comm h]

/-! ## What can be read -/

/-- The field that a parameter sets. -/
def knownField (part : String) : Option TrafficField :=
  match readParameter part with
  | .known field _ => some field
  | _ => none

/-- Every number of the header can be held, no field is set twice, and some field is set. -/
structure Readable (parts : List String) : Prop where
  numbers : ∀ part ∈ parts, readParameter part ≠ .unreadable
  distinct : (parts.filterMap knownField).Nodup
  known : parts.filterMap knownField ≠ []

instance (parts : List String) : Decidable (Readable parts) :=
  decidable_of_iff ((∀ part ∈ parts, readParameter part ≠ .unreadable) ∧
      (parts.filterMap knownField).Nodup ∧ parts.filterMap knownField ≠ [])
    ⟨fun h => ⟨h.1, h.2.1, h.2.2⟩, fun h => ⟨h.numbers, h.distinct, h.known⟩⟩

/-- The loop gets to its end over parameters that can be read, whose fields are not set yet. -/
theorem foldlM_userinfoStep_isSome {parts : List String} {acc : SubscriptionTraffic × Bool} :
    (parts.foldlM userinfoStep acc).isSome = true ↔
      (∀ part ∈ parts, readParameter part ≠ .unreadable) ∧ (parts.filterMap knownField).Nodup ∧
      ∀ field ∈ parts.filterMap knownField, field.get acc.1 = none := by
  induction parts generalizing acc with
  | nil => simp
  | cons part parts ih =>
    rw [List.foldlM_cons, userinfoStep_eq, List.forall_mem_cons, List.filterMap_cons, knownField]
    cases hpart : readParameter part with
    | keyless => simpa using ih
    | unknown => simpa using ih
    | unreadable => simp
    | known field stored =>
      by_cases hset : (field.get acc.1).isSome = true
      · have hne : field.get acc.1 ≠ none := Option.isSome_iff_ne_none.mp hset
        simp [hset, hne]
      · have hnone : field.get acc.1 = none := by simpa using hset
        have hiff := @ih (field.put stored acc.1, true)
        dsimp only
        rw [if_neg hset, Option.bind_eq_bind, Option.bind_some, hiff]
        simp only [List.nodup_cons, List.forall_mem_cons, hnone, true_and, ne_eq, reduceCtorEq,
          not_false_eq_true]
        constructor
        · rintro ⟨hread, hnodup, hfree⟩
          have hfresh : field ∉ parts.filterMap knownField := fun hmem => by
            simpa using hfree field hmem
          refine ⟨hread, ⟨hfresh, hnodup⟩, fun other hother => ?_⟩
          have hne : field ≠ other := fun heq => hfresh (heq ▸ hother)
          rw [← TrafficField.get_put_of_ne hne stored]
          exact hfree other hother
        · rintro ⟨hread, ⟨hfresh, hnodup⟩, hfree⟩
          refine ⟨hread, hnodup, fun other hother => ?_⟩
          have hne : field ≠ other := fun heq => hfresh (heq ▸ hother)
          rw [TrafficField.get_put_of_ne hne]
          exact hfree other hother

/-- Something was known exactly when a field was set. -/
theorem foldlM_userinfoStep_known {parts : List String} {acc acc' : SubscriptionTraffic × Bool}
    (h : parts.foldlM userinfoStep acc = some acc') :
    acc'.2 = true ↔ acc.2 = true ∨ parts.filterMap knownField ≠ [] := by
  induction parts generalizing acc with
  | nil =>
    cases h
    simp
  | cons part parts ih =>
    rw [List.foldlM_cons, userinfoStep_eq] at h
    rw [List.filterMap_cons, knownField]
    cases hpart : readParameter part with
    | keyless => exact ih (by simpa [hpart] using h)
    | unknown => exact ih (by simpa [hpart] using h)
    | unreadable => simp [hpart] at h
    | known field stored =>
      rw [hpart] at h
      dsimp only at h
      split at h
      · cases h
      · simpa using (ih h).mpr (.inl rfl)

/-- A header is read exactly when it can be. -/
theorem parseParameters_isSome_iff {parts : List String} :
    (parseParameters parts).isSome = true ↔ Readable parts := by
  have hloop := @foldlM_userinfoStep_isSome parts (⟨none, none, none, none⟩, false)
  have hfree : ∀ field ∈ parts.filterMap knownField,
      field.get (⟨none, none, none, none⟩, false).1 = none := fun field _ => by cases field <;> rfl
  rw [parseParameters]
  cases hfold : parts.foldlM userinfoStep (⟨none, none, none, none⟩, false) with
  | none =>
    rw [hfold] at hloop
    constructor
    · intro h
      cases h
    · intro h
      cases hloop.mpr ⟨h.numbers, h.distinct, hfree⟩
  | some acc =>
    rw [hfold] at hloop
    obtain ⟨hread, hnodup, -⟩ := hloop.mp rfl
    have hknown := foldlM_userinfoStep_known hfold
    cases hacc : acc.2 with
    | false =>
      rw [hacc] at hknown
      constructor
      · intro h
        simp [hacc] at h
      · intro h
        cases hknown.mpr (.inr h.known)
    | true =>
      rw [hacc] at hknown
      constructor
      · intro _
        exact ⟨hread, hnodup, (hknown.mp rfl).resolve_left (by decide)⟩
      · intro _
        simp [hacc]

/-- A field holds what was there, or what some parameter says. -/
theorem foldlM_userinfoStep_get {parts : List String} {acc acc' : SubscriptionTraffic × Bool}
    (h : parts.foldlM userinfoStep acc = some acc') {field : TrafficField} {stored : UInt64}
    (hget : field.get acc'.1 = some stored) :
    field.get acc.1 = some stored ∨ ∃ part ∈ parts, readParameter part = .known field stored := by
  induction parts generalizing acc with
  | nil =>
    cases h
    exact .inl hget
  | cons part parts ih =>
    rw [List.foldlM_cons, userinfoStep_eq] at h
    obtain ⟨next, hnext, h⟩ := Option.bind_eq_some_iff.mp h
    cases ih h with
    | inr hlater =>
      obtain ⟨later, hmem, hread⟩ := hlater
      exact .inr ⟨later, List.mem_cons_of_mem _ hmem, hread⟩
    | inl hhere =>
      cases hpart : readParameter part with
      | keyless =>
        rw [hpart] at hnext
        cases hnext
        exact .inl hhere
      | unknown =>
        rw [hpart] at hnext
        cases hnext
        exact .inl hhere
      | unreadable =>
        rw [hpart] at hnext
        cases hnext
      | known other value =>
        rw [hpart] at hnext
        dsimp only at hnext
        split at hnext
        · cases hnext
        · cases hnext
          by_cases hsame : other = field
          · subst hsame
            rw [TrafficField.get_put, Option.some.injEq] at hhere
            exact .inr ⟨part, List.mem_cons_self, hhere ▸ hpart⟩
          · rw [TrafficField.get_put_of_ne hsame] at hhere
            exact .inl hhere

/-- A field that was read holds what some parameter says. -/
theorem parseUserinfo_get {value : String} {t : SubscriptionTraffic}
    (h : parseUserinfo value = some t) {field : TrafficField} {stored : UInt64}
    (hget : field.get t = some stored) :
    ∃ part ∈ Text.split ';' value, readParameter part = .known field stored := by
  obtain ⟨⟨traffic, recognized⟩, hfold, h⟩ := Option.bind_eq_some_iff.mp h
  cases recognized with
  | false => cases h
  | true =>
    cases h
    refine (foldlM_userinfoStep_get hfold hget).resolve_left ?_
    cases field <;> simp [TrafficField.get]

theorem parseU64_toNat {text : String} {n : UInt64} (h : Text.parseU64 text = some n) :
    Text.parseUnsigned (2 ^ 64) text = some n.toNat := by
  obtain ⟨k, hk, rfl⟩ := Option.map_eq_some_iff.mp h
  have hlt : k < 2 ^ 64 := of_decide_eq_true (Option.filter_eq_some_iff.mp hk).2
  rw [hk, UInt64.toNat_ofNat', Nat.mod_eq_of_lt hlt]

/-- An expiry that was read is the milliseconds of the seconds in its parameter. -/
theorem readParameter_expire {part : String} {stored : UInt64}
    (h : readParameter part = .known .expire stored) :
    ∃ key value seconds, Text.splitOnce "=" (Text.trim part) = some (key, value) ∧
      Text.parseUnsigned (2 ^ 64) (Text.trim value) = some seconds ∧
      stored.toNat = seconds * 1000 := by
  unfold readParameter at h
  split at h
  · cases h
  · next key value hsplit =>
    split at h
    · cases h
    · next parsed hparsed =>
      split at h
      · cases h
      · split at h
        · cases h
        · next hconvert =>
          cases h
          exact ⟨key, value, parsed.toNat, hsplit,
            parseU64_toNat (Option.filter_eq_some_iff.mp hparsed).1, convert_expire_exact hconvert⟩

/-! ## An unknown parameter -/

/-- A parameter with a key that is not known. -/
structure UnknownParameter (part key value : String) : Prop where
  splits : Text.splitOnce "=" (Text.trim part) = some (key, value)
  unknown : TrafficField.ofKey (Text.lower (Text.trim key)) = none

theorem userinfoStep_unknown {part key value : String} (h : UnknownParameter part key value)
    (acc : SubscriptionTraffic × Bool) :
    userinfoStep acc part = if (safeNumber value).isSome then some acc else none := by
  rw [userinfoStep, h.splits]
  dsimp only
  rw [h.unknown]
  cases safeNumber value <;> rfl

/-- **`Subscription-Userinfo` is insensitive** to the order of its parameters, and to an unknown
parameter exactly when that has a number JavaScript can hold, or nothing can be read anyway: the
number is read before the key is looked at. -/
theorem userinfo_insensitive_iff {header header' part key value : String}
    {before after : List String} (hunknown : UnknownParameter part key value)
    (hheader : Text.split ';' header = before ++ after)
    (hinserted : Text.split ';' header' = before ++ part :: after) :
    (parseUserinfo header' = parseUserinfo header ↔
      (safeNumber value).isSome = true ∨ ¬Readable (Text.split ';' header)) ∧
    ∀ permuted, (Text.split ';' permuted).Perm (Text.split ';' header) →
      parseUserinfo permuted = parseUserinfo header := by
  refine ⟨?_, fun permuted hperm => parseParameters_perm hperm⟩
  have hmoved : parseUserinfo header' = parseParameters (part :: (before ++ after)) := by
    rw [parseUserinfo, hinserted]
    exact parseParameters_perm List.perm_middle
  have hstep : parseParameters (part :: (before ++ after)) =
      if (safeNumber value).isSome then parseParameters (before ++ after) else none := by
    rw [parseParameters, List.foldlM_cons, userinfoStep_unknown hunknown]
    cases (safeNumber value).isSome <;> rfl
  rw [hmoved, hstep, parseUserinfo, hheader, ← parseParameters_isSome_iff]
  cases (safeNumber value).isSome with
  | true => simp
  | false =>
    rw [if_neg (by decide)]
    cases parseParameters (before ++ after) <;> simp

/-- A day of the month, between the traffic and the total, does not matter. -/
theorem userinfo_insensitive_iff_number :
    parseUserinfo "upload=1; reset_day=7; total=10" = parseUserinfo "upload=1; total=10" := by
  have hunknown : UnknownParameter " reset_day=7" "reset_day" "7" := ⟨by decide, by decide⟩
  have hheader : Text.split ';' "upload=1; total=10" = ["upload=1"] ++ [" total=10"] := by decide
  have hinserted : Text.split ';' "upload=1; reset_day=7; total=10" =
      ["upload=1"] ++ " reset_day=7" :: [" total=10"] := by decide
  exact (userinfo_insensitive_iff hunknown hheader hinserted).1.mpr (.inl (by decide))

/-- The name of a plan does: it is no number, and all of the header is given up. -/
theorem userinfo_unknown_text :
    ¬∀ (header header' part key value : String) (before after : List String),
      UnknownParameter part key value → Text.split ';' header = before ++ after →
      Text.split ';' header' = before ++ part :: after →
      parseUserinfo header' = parseUserinfo header := by
  intro h
  have hunknown : UnknownParameter " plan=basic" "plan" "basic" := ⟨by decide, by decide⟩
  have hsame := h "upload=1; total=10" "upload=1; plan=basic; total=10" " plan=basic" "plan" "basic"
    ["upload=1"] [" total=10"] hunknown (by decide) (by decide)
  exact absurd hsame (by decide)

end Veyra
