import Veyra.Lib.Text

/-!
# Veyra.Lib.Url

URLs as the URL Standard has them: the record that a parser gives, and what the browser's `URL`
and the `url` crate tell of it.

Of the basic URL parser the part is spelled out that reads the authority of a plain HTTP URL
without credentials, over a host parser (`readAuthority`).  A port that is the default of the
scheme is dropped from the record, controls at the end of the text are removed, and a backslash
counts as a slash.
-/

namespace UrlStandard

/-- A URL record.  The host is serialized: an IPv6 address stands in brackets. -/
structure UrlRecord where
  scheme : String
  username : String
  password : String
  host : Option String
  port : Option Nat
  path : String
  query : Option String
  fragment : Option String
deriving DecidableEq, Repr

/-! ## The browser -/

/-- A part behind its mark; an empty part is as good as none. -/
def marked (mark : String) (part : Option String) : String :=
  if part.getD "" = "" then "" else mark ++ part.getD ""

namespace UrlRecord

def protocol (url : UrlRecord) : String := url.scheme ++ ":"

def hostname (url : UrlRecord) : String := url.host.getD ""

def search (url : UrlRecord) : String := marked "?" url.query

def hash (url : UrlRecord) : String := marked "#" url.fragment

/-- `Url::password` of the crate: an empty password is none. -/
def passwordOption (url : UrlRecord) : Option String :=
  if url.password = "" then none else some url.password

theorem protocol_eq {url : UrlRecord} {scheme : String} :
    url.protocol = scheme ++ ":" ↔ url.scheme = scheme :=
  String.append_left_inj _

theorem passwordOption_eq_none {url : UrlRecord} :
    url.passwordOption = none ↔ url.password = "" := by
  rw [passwordOption]
  split <;> simp [*]

end UrlRecord

theorem marked_eq_empty {mark : String} {part : Option String} :
    marked mark part = "" ↔ part.getD "" = "" := by
  rw [marked]
  by_cases hpart : part.getD "" = ""
  · simp [hpart]
  · simp [hpart, String.append_eq_empty_iff]

/-! ## The authority of an HTTP URL -/

def isSlash (c : Char) : Bool := c = '/' || c = '\\'

/-- What ends the authority of a special URL. -/
def endsAuthority (c : Char) : Bool := isSlash c || c = '?' || c = '#'

/-- Remove the trailing C0 controls and spaces. -/
def stripControls (text : List Char) : List Char :=
  (text.reverse.dropWhile fun c => c.toNat ≤ 0x20).reverse

/-- The host state: split at the first colon that is not in brackets. -/
def splitPort : Bool → List Char → List Char × Option (List Char)
  | _, [] => ([], none)
  | inside, c :: cs =>
    if c = ':' && !inside then ([], some cs)
    else
      let (host, port) := splitPort (if c = '[' then true else if c = ']' then false else inside) cs
      (c :: host, port)

/-- The port state: digits of a number that fits, or nothing. -/
def readPort : Option (List Char) → Option (Option Nat)
  | none | some [] => some none
  | some digits => ((Text.digits digits).filter (· ≤ 65535)).map some

/-- An authority without credentials, and what follows it; a default port is still there. -/
structure Authority where
  host : String
  port : Option Nat
  rest : List Char

/-- Read what follows `http://`, where there is no `@`. -/
def readAuthority (hostParser : String → Option String) (text : List Char) : Option Authority := do
  let authority := (stripControls text).dropWhile isSlash
  let (host, port) := splitPort false (authority.takeWhile (!endsAuthority ·))
  let host ← hostParser (String.ofList host)
  let port ← readPort port
  some { host, port, rest := authority.dropWhile (!endsAuthority ·) }

/-- What the standard says of a host that is accepted: it has no forbidden code point, a colon
stands in brackets only, and these are around it all. -/
structure HostFacts (hostParser : String → Option String) : Prop where
  nonempty : hostParser "" = none
  forbidden : ∀ text host, hostParser text = some host → ∀ c ∈ text.toList,
    endsAuthority c = false ∧ c ≠ '@' ∧ Text.isWhite c = false ∧ 0x20 < c.toNat
  brackets : ∀ text host, hostParser text = some host →
    (∀ c ∈ text.toList, c ≠ ':' ∧ c ≠ '[' ∧ c ≠ ']') ∨
      ∃ inner, text.toList = '[' :: inner ++ [']'] ∧ ∀ c ∈ inner, c ≠ '[' ∧ c ≠ ']'

/-- What the standard says of `http://` and a text without `@`, slashes and white space. -/
structure ReadsHttp (parse : String → Option UrlRecord) (hostParser : String → Option String) :
    Prop where
  fails : ∀ text, (∀ c ∈ text.toList, c ≠ '@' ∧ c ≠ '/' ∧ Text.isWhite c = false) →
    readAuthority hostParser text.toList = none → parse ("http://" ++ text) = none
  reads : ∀ text authority, (∀ c ∈ text.toList, c ≠ '@' ∧ c ≠ '/' ∧ Text.isWhite c = false) →
    readAuthority hostParser text.toList = some authority →
    ∃ path query fragment,
      parse ("http://" ++ text) = some
        { scheme := "http", username := "", password := "", host := some authority.host
          port := authority.port.filter (· ≠ 80), path, query, fragment } ∧
      (query.isSome = true ↔ '?' ∈ authority.rest.takeWhile (· ≠ '#')) ∧
      (fragment.isSome = true ↔ '#' ∈ authority.rest) ∧ (authority.rest = [] → path = "/")

/-! ### A host and a port -/

theorem splitPort_eq_some {inside : Bool} {cs host port : List Char}
    (h : splitPort inside cs = (host, some port)) : cs = host ++ ':' :: port := by
  induction cs generalizing inside host with
  | nil => cases h
  | cons c cs ih =>
    rw [splitPort] at h
    split at h
    · next hcolon =>
      cases h
      rw [Bool.and_eq_true, decide_eq_true_eq] at hcolon
      rw [hcolon.1]
      rfl
    · obtain ⟨rfl, hport⟩ := Prod.mk.inj h
      rw [List.cons_append, ← ih (Prod.ext rfl hport)]

theorem splitPort_plain {host : List Char} (h : ∀ c ∈ host, c ≠ ':' ∧ c ≠ '[' ∧ c ≠ ']')
    (port : List Char) : splitPort false (host ++ ':' :: port) = (host, some port) := by
  induction host with
  | nil => rfl
  | cons c host ih =>
    obtain ⟨⟨hcolon, hopen, hclose⟩, hrest⟩ := List.forall_mem_cons.mp h
    rw [List.cons_append, splitPort, if_neg (by simp [hcolon]), if_neg hopen, if_neg hclose,
      ih hrest]

theorem splitPort_inside {inner : List Char} (h : ∀ c ∈ inner, c ≠ '[' ∧ c ≠ ']')
    (port : List Char) :
    splitPort true (inner ++ ']' :: ':' :: port) = (inner ++ [']'], some port) := by
  induction inner with
  | nil => rfl
  | cons c inner ih =>
    obtain ⟨⟨hopen, hclose⟩, hrest⟩ := List.forall_mem_cons.mp h
    rw [List.cons_append, splitPort, if_neg (by simp), if_neg hopen, if_neg hclose, ih hrest]
    rfl

/-- What is read as a number is digits, at least one. -/
theorem digits_spec {cs : List Char} {n : Nat} (h : Text.digits cs = some n) :
    cs ≠ [] ∧ ∀ c ∈ cs, Text.isAsciiDigit c = true := by
  have hnone : ∀ ds : List Char, ds.foldl (fun acc c => acc.bind fun n =>
      if Text.isAsciiDigit c then some (10 * n + (c.toNat - '0'.toNat)) else none) none = none := by
    intro ds
    induction ds with
    | nil => rfl
    | cons d ds ih => exact ih
  have hfold : ∀ (ds : List Char) (m : Nat), ds.foldl (fun acc c => acc.bind fun n =>
      if Text.isAsciiDigit c then some (10 * n + (c.toNat - '0'.toNat)) else none) (some m) =
        some n → ∀ c ∈ ds, Text.isAsciiDigit c = true := by
    intro ds
    induction ds with
    | nil => intro _ _ c hc; cases hc
    | cons d ds ih =>
      intro m h
      rw [List.foldl_cons, Option.bind_some] at h
      by_cases hd : Text.isAsciiDigit d = true
      · rw [if_pos hd] at h
        exact List.forall_mem_cons.mpr ⟨hd, ih _ h⟩
      · rw [if_neg hd, hnone] at h
        cases h
  cases cs with
  | nil => cases h
  | cons c cs => exact ⟨List.cons_ne_nil _ _, hfold _ _ h⟩

theorem stripControls_eq_self {text : List Char} (h : ∀ c ∈ text, 0x20 < c.toNat) :
    stripControls text = text := by
  have hnone : text.reverse.dropWhile (fun c => c.toNat ≤ 0x20) = text.reverse := by
    cases hreverse : text.reverse with
    | nil => rfl
    | cons c rest =>
      have hc := h c (List.mem_reverse.mp (hreverse ▸ List.mem_cons_self))
      rw [List.dropWhile_cons_of_neg (by simpa using hc)]
  rw [stripControls, hnone, List.reverse_reverse]

variable {parse : String → Option UrlRecord} {hostParser : String → Option String}
  {host port : List Char} {name : String} {value : Nat}

theorem digit_chars : ∀ k < 10, endsAuthority (Char.ofNat (48 + k)) = false ∧
    Char.ofNat (48 + k) ≠ '@' ∧ Text.isWhite (Char.ofNat (48 + k)) = false ∧
    0x20 < (Char.ofNat (48 + k)).toNat := by decide

/-- The code points of a host and a port. -/
theorem HostFacts.form_chars (facts : HostFacts hostParser)
    (hhost : hostParser (String.ofList host) = some name)
    (hport : Text.digits port = some value) :
    ∀ c ∈ host ++ ':' :: port,
      endsAuthority c = false ∧ c ≠ '@' ∧ Text.isWhite c = false ∧ 0x20 < c.toNat := by
  have hdigit : ∀ c, Text.isAsciiDigit c = true →
      endsAuthority c = false ∧ c ≠ '@' ∧ Text.isWhite c = false ∧ 0x20 < c.toNat := by
    intro c hc
    rw [Text.isAsciiDigit, Bool.and_eq_true, decide_eq_true_eq, decide_eq_true_eq] at hc
    have hrange : 48 ≤ c.toNat ∧ c.toNat ≤ 57 := hc
    have hsame : Char.ofNat (48 + (c.toNat - 48)) = c := by
      rw [Nat.add_sub_cancel' hrange.1, Char.ofNat_toNat]
    exact hsame ▸ digit_chars (c.toNat - 48) (by omega)
  intro c hc
  rcases List.mem_append.mp hc with hmem | hmem
  · exact facts.forbidden _ _ hhost c (by rwa [String.toList_ofList])
  · cases hmem with
    | head => decide
    | tail _ hmem => exact hdigit c ((digits_spec hport).2 c hmem)

/-- A host and a port are read as such. -/
theorem HostFacts.readAuthority_form (facts : HostFacts hostParser)
    (hhost : hostParser (String.ofList host) = some name)
    (hport : Text.digits port = some value) (hvalue : value ≤ 65535) :
    readAuthority hostParser (host ++ ':' :: port) = some ⟨name, some value, []⟩ := by
  have hchars := facts.form_chars hhost hport
  have hcontrols : stripControls (host ++ ':' :: port) = host ++ ':' :: port :=
    stripControls_eq_self fun c hc => (hchars c hc).2.2.2
  have hslashes : (host ++ ':' :: port).dropWhile isSlash = host ++ ':' :: port := by
    cases hsplit : host ++ ':' :: port with
    | nil => rfl
    | cons c rest =>
      have hends := (hchars c (hsplit ▸ List.mem_cons_self)).1
      rw [List.dropWhile_cons_of_neg]
      simp only [endsAuthority, Bool.or_eq_false_iff] at hends
      simp [hends.1.1]
  have hall : ∀ c ∈ host ++ ':' :: port, (!endsAuthority c) = true := fun c hc => by
    rw [(hchars c hc).1]
    rfl
  have hsplit : splitPort false (host ++ ':' :: port) = (host, some port) := by
    have hbrackets := facts.brackets _ _ hhost
    rw [String.toList_ofList] at hbrackets
    obtain hplain | ⟨inner, rfl, hinner⟩ := hbrackets
    · exact splitPort_plain hplain port
    · rw [List.append_assoc, List.cons_append, List.cons_append, List.nil_append, splitPort,
        if_neg (by decide), if_pos rfl, splitPort_inside hinner]
      rfl
  have hread : readPort (some port) = some (some value) := by
    obtain ⟨hne, -⟩ := digits_spec hport
    cases port with
    | nil => exact absurd rfl hne
    | cons c cs => simp [readPort, hport, hvalue]
  rw [readAuthority, hcontrols, hslashes, List.takeWhile_eq_self_iff.mpr hall,
    List.dropWhile_eq_nil_iff.mpr hall, hsplit]
  simp [hhost, hread]

theorem readPort_eq_some {port : Option (List Char)} (h : readPort port = some (some value)) :
    ∃ digits, port = some digits ∧ Text.digits digits = some value ∧ value ≤ 65535 := by
  cases port with
  | none => cases h
  | some digits =>
    cases digits with
    | nil => cases h
    | cons c cs =>
      obtain ⟨number, hnumber, heq⟩ := Option.map_eq_some_iff.mp h
      obtain rfl := Option.some.inj heq
      obtain ⟨hdigits, hbound⟩ := Option.filter_eq_some_iff.mp hnumber
      exact ⟨_, rfl, hdigits, of_decide_eq_true hbound⟩

/-- What is read without a rest, and without controls and backslashes, is a host and a port. -/
theorem form_of_readAuthority {text rest : List Char}
    (h : readAuthority hostParser text = some ⟨name, some value, rest⟩)
    (hcontrols : stripControls text = text) (hslashes : ∀ c ∈ text, isSlash c = false)
    (hrest : ∀ c ∈ rest, c ≠ '?' ∧ c ≠ '#') :
    ∃ host port, text = host ++ ':' :: port ∧ hostParser (String.ofList host) = some name ∧
      Text.digits port = some value ∧ value ≤ 65535 := by
  rw [readAuthority, hcontrols] at h
  have hdropped : text.dropWhile isSlash = text := by
    cases text with
    | nil => rfl
    | cons c cs => rw [List.dropWhile_cons_of_neg (by simp [hslashes c List.mem_cons_self])]
  rw [hdropped] at h
  cases hsplit : splitPort false (text.takeWhile (!endsAuthority ·)) with
  | mk host port? =>
    rw [hsplit] at h
    obtain ⟨found, hhost, h⟩ := Option.bind_eq_some_iff.mp h
    obtain ⟨number, hnumber, h⟩ := Option.bind_eq_some_iff.mp h
    cases h
    have hnone : text.dropWhile (!endsAuthority ·) = [] := by
      cases hdrop : text.dropWhile (!endsAuthority ·) with
      | nil => rfl
      | cons c cs =>
        have hends : endsAuthority c = true := by
          have hhead := @List.head_dropWhile_not _ (!endsAuthority ·) text (by rw [hdrop]; simp)
          simpa [hdrop] using hhead
        have hmem : c ∈ text := (List.dropWhile_sublist _).subset (hdrop ▸ List.mem_cons_self)
        obtain ⟨hquestion, hsharp⟩ := hrest c (hdrop ▸ List.mem_cons_self)
        rw [endsAuthority, hslashes c hmem] at hends
        simp [hquestion, hsharp] at hends
    have hwhole : text.takeWhile (!endsAuthority ·) = text := by
      have hparts := @List.takeWhile_append_dropWhile _ (!endsAuthority ·) text
      rwa [hnone, List.append_nil] at hparts
    rw [hwhole] at hsplit
    obtain ⟨port, rfl, hdigits, hvalue⟩ := readPort_eq_some hnumber
    exact ⟨host, port, splitPort_eq_some hsplit, hhost, hdigits, hvalue⟩

end UrlStandard
