import Veyra.Domain.Validation

/-!
# Veyra.Subscription.Headers

What a response tells about its subscription, read from its headers: the validators, the traffic
of `Subscription-Userinfo`, the file name of `Content-Disposition` and the interval of
`Profile-Update-Interval`.

A header value is any list of bytes.  Numbers are machine integers, and every product is checked.

* `responseMetadata_isValid` — what is read passes the check of the state;
* `expireAt_exact`, `profileUpdateIntervalMinutes_exact` — no product wraps around.
-/

namespace Text

/-- `str::trim_matches(c)`. -/
def trimMatches (c : Char) (s : String) : String :=
  String.ofList ((s.toList.dropWhile (· == c)).reverse.dropWhile (· == c)).reverse

/-- `s.rsplit(seps).next()`: what comes after the last separator. -/
def afterLast (seps : List Char) (s : String) : String :=
  String.ofList (s.toList.reverse.takeWhile fun c => c ∉ seps).reverse

end Text

namespace Veyra

/-- `u64::checked_mul`. -/
def checkedMul (a b : UInt64) : Option UInt64 :=
  if a.toNat * b.toNat < 2 ^ 64 then some (a * b) else none

/-- A checked product is the product. -/
theorem checkedMul_eq_some {a b c : UInt64} (h : checkedMul a b = some c) :
    c.toNat = a.toNat * b.toNat := by
  rw [checkedMul] at h
  split at h
  · next hlt =>
    cases h
    rw [UInt64.toNat_mul, Nat.mod_eq_of_lt hlt]
  · cases h

/-- `HeaderMap`: the first value of a header, by its name in lower case. -/
abbrev HeaderMap := String → Option (List UInt8)

/-- `HeaderValue::to_str`: visible ASCII, blanks and tabs. -/
def headerText (value : List UInt8) : Option String :=
  if value.all fun b => (0x20 ≤ b && b < 0x7f) || b == 0x09 then
    some (String.ofList (value.map fun b => Char.ofNat b.toNat))
  else none

/-- `headers.get(name).and_then(|value| value.to_str().ok())`. -/
def HeaderMap.text (headers : HeaderMap) (name : String) : Option String :=
  (headers name).bind headerText

/-! ## `Subscription-Userinfo` -/

/-- The parameters that `parse_userinfo` knows. -/
inductive TrafficField
  | upload
  | download
  | total
  | expire
deriving DecidableEq

namespace TrafficField

def ofKey (key : String) : Option TrafficField :=
  if key = "upload" then some .upload
  else if key = "download" then some .download
  else if key = "total" then some .total
  else if key = "expire" then some .expire
  else none

def get : TrafficField → SubscriptionTraffic → Option UInt64
  | .upload, t => t.upload
  | .download, t => t.download
  | .total, t => t.total
  | .expire, t => t.expireAtMs

def put (value : UInt64) : TrafficField → SubscriptionTraffic → SubscriptionTraffic
  | .upload, t => { t with upload := some value }
  | .download, t => { t with download := some value }
  | .total, t => { t with total := some value }
  | .expire, t => { t with expireAtMs := some value }

/-- What is stored of a number: an expiry comes in seconds. -/
def convert : TrafficField → UInt64 → Option UInt64
  | .expire, parsed => (checkedMul parsed 1000).filter (· ≤ maxSafeInteger)
  | _, parsed => some parsed

end TrafficField

/-- A number of a parameter: one that JavaScript can hold. -/
def safeNumber (value : String) : Option UInt64 :=
  (Text.parseU64 (Text.trim value)).filter (· ≤ maxSafeInteger)

/-- The loop body of `parse_userinfo`: the traffic so far, and whether a parameter was known. -/
def userinfoStep (acc : SubscriptionTraffic × Bool) (part : String) :
    Option (SubscriptionTraffic × Bool) :=
  match Text.splitOnce "=" (Text.trim part) with
  | none => some acc
  | some (key, value) =>
    match safeNumber value with
    | none => none
    | some parsed =>
      match TrafficField.ofKey (Text.lower (Text.trim key)) with
      | none => some acc
      | some field =>
        if (field.get acc.1).isSome then none
        else (field.convert parsed).map fun stored => (field.put stored acc.1, true)

/-- The loop of `parse_userinfo`, over the parameters. -/
def parseParameters (parts : List String) : Option SubscriptionTraffic :=
  (parts.foldlM userinfoStep (⟨none, none, none, none⟩, false)).bind fun read =>
    if read.2 then some read.1 else none

/-- `parse_userinfo`. -/
def parseUserinfo (value : String) : Option SubscriptionTraffic :=
  parseParameters (Text.split ';' value)

/-! ## The other headers -/

/-- `bounded_header`. -/
def boundedHeader (headers : HeaderMap) (name : String) (max : Nat) : Option String :=
  (headers.text name).filter fun value =>
    value != "" && Text.len value ≤ max && value.toList.all fun c => !Text.isControl c

/-- The closure of `parse_filename`. -/
def filenameParameter (parameter : String) : Option String := do
  let (key, value) ← Text.splitOnce "=" (Text.trim parameter)
  if Text.lower key = "filename" then some (Text.trimMatches '"' (Text.trim value)) else none

/-- `parse_filename`. -/
def parseFilename (value : String) : Option String := do
  let filename ← ((Text.split ';' value).drop 1).findSome? filenameParameter
  let filename := Text.trim (Text.afterLast ['/', '\\'] filename)
  if filename != "" && Text.len filename ≤ 255 &&
      filename.toList.all fun c => !Text.isControl c then some filename
  else none

/-- `response_metadata`. -/
def responseMetadata (headers : HeaderMap) : SubscriptionHttpMetadata where
  etag := boundedHeader headers "etag" 1024
  lastModified := boundedHeader headers "last-modified" 128
  subscriptionUserinfo :=
    ((headers.text "subscription-userinfo").filter (Text.len · ≤ 1024)).bind parseUserinfo
  contentDisposition :=
    ((headers.text "content-disposition").filter (Text.len · ≤ 1024)).bind parseFilename

/-- `u32::try_from`. -/
def toU32 (n : UInt64) : Option UInt32 := if n.toNat < 2 ^ 32 then some n.toUInt32 else none

/-- `profile_update_interval_minutes`. -/
def profileUpdateIntervalMinutes (headers : HeaderMap) : Option UInt32 := do
  let value ← headers.text "profile-update-interval"
  let value := Text.trim value
  if value = "" || Text.len value > 20 || !value.toList.all Text.isAsciiDigit then none
  else do
    let hours ← Text.parseU64 value
    let minutes ← checkedMul hours 60
    let minutes ← toU32 minutes
    if 1440 ≤ minutes then some minutes else none

/-! ## What is read is valid -/

/-- What is stored of a number that JavaScript can hold is such a number. -/
theorem TrafficField.convert_le {field : TrafficField} {parsed stored : UInt64}
    (hparsed : parsed ≤ maxSafeInteger) (h : field.convert parsed = some stored) :
    stored ≤ maxSafeInteger := by
  cases field with
  | expire => exact of_decide_eq_true (Option.filter_eq_some_iff.mp h).2
  | _ => cases h; exact hparsed

theorem TrafficField.put_isValid {field : TrafficField} {stored : UInt64} {t : SubscriptionTraffic}
    (hstored : stored ≤ maxSafeInteger) (h : t.isValid = true) :
    (field.put stored t).isValid = true := by
  cases field <;>
    simp_all [TrafficField.put, SubscriptionTraffic.isValid]

/-- The loop body of `parse_userinfo` keeps the traffic valid. -/
theorem userinfoStep_isValid {acc acc' : SubscriptionTraffic × Bool} {part : String}
    (h : userinfoStep acc part = some acc') (hacc : acc.1.isValid = true) :
    acc'.1.isValid = true := by
  rw [userinfoStep] at h
  split at h
  · cases h
    exact hacc
  · split at h
    · cases h
    · next parsed hparsed =>
      have hle : parsed ≤ maxSafeInteger :=
        of_decide_eq_true (Option.filter_eq_some_iff.mp hparsed).2
      split at h
      · cases h
        exact hacc
      · split at h
        · cases h
        · obtain ⟨stored, hstored, rfl⟩ := Option.map_eq_some_iff.mp h
          exact TrafficField.put_isValid (TrafficField.convert_le hle hstored) hacc

theorem foldlM_userinfoStep_isValid {acc acc' : SubscriptionTraffic × Bool} {parts : List String}
    (h : parts.foldlM userinfoStep acc = some acc') (hacc : acc.1.isValid = true) :
    acc'.1.isValid = true := by
  induction parts generalizing acc with
  | nil =>
    cases h
    exact hacc
  | cons part parts ih =>
    rw [List.foldlM_cons] at h
    obtain ⟨next, hstep, h⟩ := Option.bind_eq_some_iff.mp h
    exact ih h (userinfoStep_isValid hstep hacc)

theorem parseUserinfo_isValid {value : String} {t : SubscriptionTraffic}
    (h : parseUserinfo value = some t) : t.isValid = true := by
  obtain ⟨⟨traffic, recognized⟩, hfold, h⟩ := Option.bind_eq_some_iff.mp h
  cases recognized with
  | false => cases h
  | true =>
    cases h
    exact foldlM_userinfoStep_isValid hfold (by decide)

theorem boundedHeader_visible (headers : HeaderMap) (name : String) (max : Nat) :
    boundedVisible (boundedHeader headers name max) max = true := by
  rw [boundedHeader, boundedVisible, Option.all_eq_true]
  intro value hvalue
  exact (Option.filter_eq_some_iff.mp hvalue).2

theorem parseFilename_visible {value filename : String} (h : parseFilename value = some filename) :
    boundedVisible (some filename) 255 = true := by
  obtain ⟨parameter, -, h⟩ := Option.bind_eq_some_iff.mp h
  dsimp only at h
  split at h
  · next hvisible =>
    rw [← Option.some.inj h, boundedVisible, Option.all_some]
    exact hvisible
  · cases h

/-- **The metadata of a response passes the check of the state**, whatever the headers are. -/
theorem responseMetadata_isValid (headers : HeaderMap) :
    (responseMetadata headers).isValid = true := by
  have htraffic : (responseMetadata headers).subscriptionUserinfo.all (·.isValid) = true := by
    rw [Option.all_eq_true]
    intro t ht
    obtain ⟨value, -, ht⟩ := Option.bind_eq_some_iff.mp ht
    exact parseUserinfo_isValid ht
  have hfilename : boundedVisible (responseMetadata headers).contentDisposition 255 = true := by
    cases hname : (responseMetadata headers).contentDisposition with
    | none => rfl
    | some filename =>
      obtain ⟨value, -, hname⟩ := Option.bind_eq_some_iff.mp hname
      exact parseFilename_visible hname
  rw [SubscriptionHttpMetadata.isValid, htraffic, hfilename, Bool.and_true, Bool.and_true,
    Bool.and_eq_true]
  exact ⟨boundedHeader_visible _ _ _, boundedHeader_visible _ _ _⟩

/-! ## No product wraps around -/

theorem toU32_eq_some {n : UInt64} {m : UInt32} (h : toU32 n = some m) : m.toNat = n.toNat := by
  rw [toU32] at h
  split at h
  · next hlt =>
    cases h
    rw [UInt64.toNat_toUInt32, Nat.mod_eq_of_lt hlt]
  · cases h

/-- The interval is the hours of the header in minutes, and at least a day. -/
theorem profileUpdateIntervalMinutes_exact {headers : HeaderMap} {minutes : UInt32}
    (h : profileUpdateIntervalMinutes headers = some minutes) :
    1440 ≤ minutes ∧ ∃ value hours, headers.text "profile-update-interval" = some value ∧
      Text.parseU64 (Text.trim value) = some hours ∧ minutes.toNat = hours.toNat * 60 := by
  obtain ⟨value, hvalue, h⟩ := Option.bind_eq_some_iff.mp h
  dsimp only at h
  split at h
  · cases h
  obtain ⟨hours, hhours, h⟩ := Option.bind_eq_some_iff.mp h
  obtain ⟨product, hproduct, h⟩ := Option.bind_eq_some_iff.mp h
  obtain ⟨narrow, hnarrow, h⟩ := Option.bind_eq_some_iff.mp h
  split at h
  · next hle =>
    have hminutes : narrow = minutes := Option.some.inj h
    have hexact := checkedMul_eq_some hproduct
    have hnarrowed := toU32_eq_some hnarrow
    rw [← hminutes]
    exact ⟨hle, value, hours, hvalue, hhours, hnarrowed.trans hexact⟩
  · cases h

/-- An expiry is stored as the milliseconds of its seconds. -/
theorem convert_expire_exact {parsed stored : UInt64}
    (h : TrafficField.expire.convert parsed = some stored) :
    stored.toNat = parsed.toNat * 1000 :=
  checkedMul_eq_some (Option.filter_eq_some_iff.mp h).1

end Veyra
