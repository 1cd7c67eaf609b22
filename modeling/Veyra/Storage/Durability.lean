import Veyra.Storage.Store

/-!
# Veyra.Storage.Durability

What the state file guarantees over time.

* Decoding undoes encoding, and a load that succeeds leaves a file that the
  next load reads without writing (`decode_encode_and_settle`).
* A save that is interrupted anywhere leaves the previous state or the new one
  (`crash_consistency`): the state file is only ever replaced by a rename, and
  the copies taken before it are staged in a file of another name.
* An old snapshot that cannot be migrated survives a load exactly when the
  version chain itself fails or there is no backup to fall back on
  (`unmigratable_kept_iff`).
-/

namespace Veyra

open Check Disk Fs

variable {text : SnapshotText} {d : Disk String}

/-! ## Loading settles -/

/-- The state file of `d` is the snapshot of the valid state `s`. -/
structure Holds (text : SnapshotText) (d : Disk String) (s : AppState) : Prop where
  valid : s.validate = .ok ()
  file : d stateFile = some (text.snapshot s)

/-- A disk that holds a state loads it and is not written to. -/
theorem Holds.load {s : AppState} (h : Holds text d s) (ht : text.RoundTrips s) :
    load text d = (.ok s, []) :=
  load_current h.file (decode_snapshot h.valid ht)

/-- A save makes the disk hold the saved state. -/
theorem holds_save {s : AppState} (h : s.validate = .ok ()) (d : Disk String) :
    Holds text (applyAll d (saveSteps text s d)) s :=
  ⟨h, stateFile_saveSteps text s d⟩

/-- A successful recovery makes the disk hold the recovered state. -/
theorem holds_recoverBackup {s : AppState} {steps : List (Step String)}
    (h : recoverBackup text d = (.ok s, steps)) : Holds text (applyAll d steps) s := by
  by_cases hr : Recoverable text d
  · obtain ⟨bs, t, b, hd, hdec⟩ := hr
    rw [recoverBackup_ok hd hdec] at h
    obtain ⟨hres, rfl⟩ := Prod.mk.inj h
    obtain rfl := Except.ok.inj hres
    exact ⟨validate_of_decode hdec, stateFile_replaced _ d⟩
  · rw [recoverBackup_error hr] at h
    exact absurd (Prod.mk.inj h).1 nofun

/-- A successful load either read a state file in the current version or left one behind. -/
theorem load_ok {s : AppState} {steps : List (Step String)} (h : load text d = (.ok s, steps)) :
    (steps = [] ∧ ∃ bs, d stateFile = some bs ∧ decode text bs = .ok (s, false)) ∨
      Holds text (applyAll d steps) s := by
  cases hd : d stateFile with
  | none =>
    rw [load_missing hd] at h
    split at h
    · exact .inr (holds_recoverBackup h)
    · exact absurd (Prod.mk.inj h).1 nofun
  | some bs =>
    cases hdec : decode text bs with
    | ok r =>
      obtain ⟨t, migrated⟩ := r
      cases migrated with
      | false =>
        rw [load_current hd hdec] at h
        obtain ⟨hres, rfl⟩ := Prod.mk.inj h
        obtain rfl := Except.ok.inj hres
        exact .inl ⟨rfl, bs, rfl, hdec⟩
      | true =>
        rw [load_migrated hd hdec] at h
        obtain ⟨hres, rfl⟩ := Prod.mk.inj h
        obtain rfl := Except.ok.inj hres
        rw [applyAll_append]
        exact .inr (holds_save (validate_of_decode hdec) _)
    | error e =>
      cases he : e.isRecoverable with
      | false =>
        rw [load_unrecoverable hd hdec he] at h
        exact absurd (Prod.mk.inj h).1 nofun
      | true =>
        rw [load_recover hd hdec he] at h
        obtain ⟨hres, rfl⟩ := Prod.mk.inj h
        rw [applyAll_append]
        exact .inr (holds_recoverBackup (Prod.ext hres rfl))

/-- A load that succeeded is stable: the next one gives the same state and writes nothing. -/
theorem load_load {s : AppState} {steps : List (Step String)} (ht : text.RoundTrips s)
    (h : load text d = (.ok s, steps)) : load text (applyAll d steps) = (.ok s, []) := by
  rcases load_ok h with ⟨rfl, bs, hd, hdec⟩ | hholds
  · exact load_current hd hdec
  · exact hholds.load ht

/-- **Round trip.**  The snapshot of a valid state decodes to that state, not migrated; and
whatever the files held, a load that returned it is followed by one that returns it and
writes nothing. -/
theorem decode_encode_and_settle (text : SnapshotText) (s : AppState)
    (hs : s.validate = .ok ()) (ht : text.RoundTrips s) :
    decode text (text.snapshot s) = .ok (s, false) ∧
      ∀ d steps, load text d = (.ok s, steps) → load text (applyAll d steps) = (.ok s, []) :=
  ⟨decode_snapshot hs ht, fun _ _ h => load_load ht h⟩

/-- The bytes of a text given by its lines. -/
def textLines (lines : List String) : List UInt8 := [10].intercalate (lines.map Text.bytes)

/-- The pretty-printed snapshots up to the default target. -/
def snapshotHead : List UInt8 :=
  textLines [
    "\x7b",
    "  \"schema_version\": 6,",
    "  \"default_target\": \x7b",
    "    \"kind\": \""]

/-- The snapshot of the empty state. -/
def emptySnapshot : List UInt8 :=
  snapshotHead ++ textLines [
    "unconfigured\"",
    "  \x7d,",
    "  \"active_subscription_id\": null,",
    "  \"active_configuration_generation\": 0,",
    "  \"subscriptions\": [],",
    "  \"providers\": [],",
    "  \"nodes\": [],",
    "  \"pools\": [],",
    "  \"routes\": []",
    "\x7d"]

/-- A subscription fetched once. -/
def fetchedSubscription : Subscription :=
  { id := ⟨"sub-remote"⟩, name := "Feed", description := ""
    source := .remote "https://nodes.example.invalid/feed"
    lastSuccessAtMs := some 1000, lastAttemptAtMs := some 1000
    httpMetadata := some
      { etag := some "v1", lastModified := none, contentDisposition := none
        subscriptionUserinfo := some
          { upload := none, download := none, total := some 1024, expireAtMs := none } }
    remoteRequest := some .defaultRemote, updatePolicy := .defaultRemote
    skippedUnsupportedNodes := 0
    document := some { format := .yaml, content := "proxies: []", localOverride := false } }

/-- One pasted in by hand, without a document. -/
def pastedSubscription : Subscription :=
  { id := ⟨"sub-manual"⟩, name := "Pasted", description := "", source := .manual
    lastSuccessAtMs := none, lastAttemptAtMs := none, httpMetadata := none
    remoteRequest := none, updatePolicy := .manual, skippedUnsupportedNodes := 2
    document := none }

/-- A node without early data, ALPN or fingerprint. -/
def vlessNode : ProxyNode :=
  { id := ⟨"node-vless"⟩, providerId := ⟨"provider-remote"⟩, name := "Tokyo", protocol := .vless
    server := "tokyo.example.invalid", port := 443
    options := .vless "11111111-2222-3333-4444-555555555555" none
    transport := some (.websocket "/ws" none none none)
    tls := some { serverName := none, allowInsecure := false, realityPublicKey := none
                  realityShortId := none, alpn := [], utlsFingerprint := none } }

/-- A node without rates, path setting or transport. -/
def hysteria2Node : ProxyNode :=
  { id := ⟨"node-hysteria2"⟩, providerId := ⟨"provider-remote"⟩, name := "Oslo"
    protocol := .hysteria2, server := "oslo.example.invalid", port := 8443
    options := .hysteria2 "secret" none none none none, transport := none
    tls := some { serverName := some "oslo.example.invalid", allowInsecure := false
                  realityPublicKey := none, realityShortId := none, alpn := ["h3"]
                  utlsFingerprint := some "chrome" } }

/-- A state with two subscriptions and the nodes of one, at a generation. -/
def importedState (generation : UInt64) : AppState :=
  { AppState.empty with
    defaultTarget := .direct, activeSubscriptionId := some ⟨"sub-remote"⟩
    activeConfigurationGeneration := generation
    subscriptions := [fetchedSubscription, pastedSubscription]
    providers := [⟨⟨"provider-remote"⟩, ⟨"sub-remote"⟩, "Remote"⟩]
    nodes := [vlessNode, hysteria2Node] }

/-- Its snapshot from there to the generation. -/
def importedHead : List UInt8 :=
  textLines [
    "direct\"",
    "  \x7d,",
    "  \"active_subscription_id\": \"sub-remote\",",
    "  \"active_configuration_generation\": "]

/-- And after it: what is left at its default is left out. -/
def importedTail : List UInt8 :=
  textLines [
    ",",
    "  \"subscriptions\": [",
    "    \x7b",
    "      \"id\": \"sub-remote\",",
    "      \"name\": \"Feed\",",
    "      \"description\": \"\",",
    "      \"source\": \x7b",
    "        \"kind\": \"remote\",",
    "        \"url\": \"https://nodes.example.invalid/feed\"",
    "      \x7d,",
    "      \"last_success_at_ms\": 1000,",
    "      \"last_attempt_at_ms\": 1000,",
    "      \"http_metadata\": \x7b",
    "        \"etag\": \"v1\",",
    "        \"last_modified\": null,",
    "        \"subscription_userinfo\": \x7b",
    "          \"upload\": null,",
    "          \"download\": null,",
    "          \"total\": 1024,",
    "          \"expire_at_ms\": null",
    "        \x7d,",
    "        \"content_disposition\": null",
    "      \x7d,",
    "      \"remote_request\": \x7b",
    "        \"user_agent\": null,",
    "        \"timeout_seconds\": 30,",
    "        \"proxy_mode\": \"direct\",",
    "        \"verify_tls\": true",
    "      \x7d,",
    "      \"update_policy\": \x7b",
    "        \"allow_auto_update\": true,",
    "        \"interval_minutes\": null",
    "      \x7d,",
    "      \"document\": \x7b",
    "        \"format\": \"yaml\",",
    "        \"content\": \"proxies: []\"",
    "      \x7d",
    "    \x7d,",
    "    \x7b",
    "      \"id\": \"sub-manual\",",
    "      \"name\": \"Pasted\",",
    "      \"description\": \"\",",
    "      \"source\": \x7b",
    "        \"kind\": \"manual\"",
    "      \x7d,",
    "      \"last_success_at_ms\": null,",
    "      \"last_attempt_at_ms\": null,",
    "      \"http_metadata\": null,",
    "      \"remote_request\": null,",
    "      \"update_policy\": \x7b",
    "        \"allow_auto_update\": false,",
    "        \"interval_minutes\": null",
    "      \x7d,",
    "      \"skipped_unsupported_nodes\": 2",
    "    \x7d",
    "  ],",
    "  \"providers\": [",
    "    \x7b",
    "      \"id\": \"provider-remote\",",
    "      \"subscription_id\": \"sub-remote\",",
    "      \"name\": \"Remote\"",
    "    \x7d",
    "  ],",
    "  \"nodes\": [",
    "    \x7b",
    "      \"id\": \"node-vless\",",
    "      \"provider_id\": \"provider-remote\",",
    "      \"name\": \"Tokyo\",",
    "      \"protocol\": \"vless\",",
    "      \"server\": \"tokyo.example.invalid\",",
    "      \"port\": 443,",
    "      \"options\": \x7b",
    "        \"kind\": \"vless\",",
    "        \"uuid\": \"11111111-2222-3333-4444-555555555555\",",
    "        \"flow\": null",
    "      \x7d,",
    "      \"transport\": \x7b",
    "        \"websocket\": \x7b",
    "          \"path\": \"/ws\",",
    "          \"host\": null",
    "        \x7d",
    "      \x7d,",
    "      \"tls\": \x7b",
    "        \"server_name\": null,",
    "        \"allow_insecure\": false,",
    "        \"reality_public_key\": null,",
    "        \"reality_short_id\": null",
    "      \x7d",
    "    \x7d,",
    "    \x7b",
    "      \"id\": \"node-hysteria2\",",
    "      \"provider_id\": \"provider-remote\",",
    "      \"name\": \"Oslo\",",
    "      \"protocol\": \"hysteria2\",",
    "      \"server\": \"oslo.example.invalid\",",
    "      \"port\": 8443,",
    "      \"options\": \x7b",
    "        \"kind\": \"hysteria2\",",
    "        \"password\": \"secret\",",
    "        \"obfs\": null",
    "      \x7d,",
    "      \"transport\": null,",
    "      \"tls\": \x7b",
    "        \"server_name\": \"oslo.example.invalid\",",
    "        \"allow_insecure\": false,",
    "        \"reality_public_key\": null,",
    "        \"reality_short_id\": null,",
    "        \"alpn\": [",
    "          \"h3\"",
    "        ],",
    "        \"utls_fingerprint\": \"chrome\"",
    "      \x7d",
    "    \x7d",
    "  ],",
    "  \"pools\": [],",
    "  \"routes\": []",
    "\x7d"]

/-- The pretty-printed snapshot of that state. -/
def importedSnapshot (generation : String) : List UInt8 :=
  snapshotHead ++ (importedHead ++ Text.bytes generation ++ importedTail)

/-- A version 1 document whose one subscription has no name. -/
def namelessDocument : Json :=
  .object [("schema_version", num 1), ("subscriptions", .arr [.object [("id", .str "s")]]),
    ("providers", .arr []), ("nodes", .arr [])]

def namelessSnapshot : List UInt8 :=
  Text.bytes "\x7b\"schema_version\":1,\"subscriptions\":[\x7b\"id\":\"s\"\x7d],\"providers\":[],\"nodes\":[]\x7d"

/-- The generation that a stored document names. -/
def storedGeneration? (document : Json) : Option UInt64 :=
  (document.get? "active_configuration_generation").bind Json.asU64?

/-- Texts and what they say. -/
def sampleDocuments : List (List UInt8 × Json) :=
  [(emptySnapshot, encodeState .empty), (importedSnapshot "1", encodeState (importedState 1)),
    (importedSnapshot "2", encodeState (importedState 2)), (namelessSnapshot, namelessDocument)]

/-- A text layer that behaves as the real one on these documents. -/
def sampleText : SnapshotText where
  print v :=
    if storedGeneration? v = some 1 then importedSnapshot "1"
    else if storedGeneration? v = some 2 then importedSnapshot "2"
    else emptySnapshot
  parse bs := sampleDocuments.lookup bs

/-- The stored form names its generation. -/
theorem storedGeneration_encodeState (s : AppState) :
    storedGeneration? (encodeState s) = some s.activeConfigurationGeneration := by
  have hobject : encodeState s =
      .object (Schema.storedStateV6.write { s with schemaVersion := currentSchemaVersion }) := rfl
  rw [storedGeneration?, hobject, Json.get?_object]
  rfl

theorem sampleText_snapshot_empty : sampleText.snapshot .empty = emptySnapshot := by
  simp [SnapshotText.snapshot, sampleText, storedGeneration_encodeState, AppState.empty]

theorem sampleText_snapshot_first :
    sampleText.snapshot (importedState 1) = importedSnapshot "1" := by
  simp [SnapshotText.snapshot, sampleText, storedGeneration_encodeState, importedState]

theorem sampleText_snapshot_second :
    sampleText.snapshot (importedState 2) = importedSnapshot "2" := by
  simp [SnapshotText.snapshot, sampleText, storedGeneration_encodeState, importedState]

/-- Snapshots of different generations differ. -/
theorem importedSnapshot_injective {g h : String} (hsame : importedSnapshot g = importedSnapshot h) :
    Text.bytes g = Text.bytes h :=
  List.append_cancel_left (List.append_cancel_right (List.append_cancel_left hsame))

/-- The two snapshots differ. -/
theorem second_ne_first : importedSnapshot "2" ≠ importedSnapshot "1" :=
  fun hsame => absurd (importedSnapshot_injective hsame) (by decide)

/-- The texts of the empty and of an imported state differ in the default target. -/
theorem imported_ne_empty (generation : String) : importedSnapshot generation ≠ emptySnapshot := by
  intro hsame
  have htarget := congrArg List.head? (List.append_cancel_left hsame)
  exact absurd (Option.some.inj htarget) (by decide : (100 : UInt8) ≠ 117)

theorem parse_sampleText (bs : List UInt8) : sampleText.parse bs = sampleDocuments.lookup bs := rfl

/-- A text is looked for past a different one. -/
theorem lookup_cons_of_ne {bs other : List UInt8} {document : Json}
    {rest : List (List UInt8 × Json)} (h : bs ≠ other) :
    ((other, document) :: rest).lookup bs = rest.lookup bs := by
  rw [List.lookup_cons, beq_false_of_ne h]

theorem sampleText_empty : sampleText.RoundTrips .empty := by
  rw [SnapshotText.RoundTrips, sampleText_snapshot_empty]
  rw [parse_sampleText, sampleDocuments, List.lookup_cons_self]

/-- The first state is read back from its snapshot. -/
theorem sampleText_first : sampleText.RoundTrips (importedState 1) := by
  rw [SnapshotText.RoundTrips, sampleText_snapshot_first]
  rw [parse_sampleText, sampleDocuments, lookup_cons_of_ne (imported_ne_empty "1"), List.lookup_cons_self]

/-- So is the second one. -/
theorem sampleText_second : sampleText.RoundTrips (importedState 2) := by
  rw [SnapshotText.RoundTrips, sampleText_snapshot_second]
  rw [parse_sampleText, sampleDocuments, lookup_cons_of_ne (imported_ne_empty "2"),
    lookup_cons_of_ne second_ne_first, List.lookup_cons_self]

theorem validate_first : (importedState 1).validate = .ok () := by decide +kernel

theorem validate_second : (importedState 2).validate = .ok () := by decide +kernel

/-- A state with a subscription and its nodes is read back, and found again when it is loaded. -/
theorem decode_encode_and_settle_imported :
    decode sampleText (importedSnapshot "1") = .ok (importedState 1, false) ∧
      ∀ d steps, load sampleText d = (.ok (importedState 1), steps) →
        load sampleText (applyAll d steps) = (.ok (importedState 1), []) :=
  decode_encode_and_settle sampleText (importedState 1) validate_first
    sampleText_first

/-! ## Interrupted saves -/

/-- A call of the store. -/
inductive StoreCall
  | save (s : AppState)
  | load

/-- What a caller sees of a sequence of calls. -/
def observe (text : SnapshotText) : List StoreCall → Disk String →
    List (Except StateStoreError (Option AppState))
  | [], _ => []
  | .save s :: calls, d =>
    (save text s d).1.map (fun _ => none) :: observe text calls (diskAfter (save text s) d)
  | .load :: calls, d =>
    (load text d).1.map some :: observe text calls (diskAfter (load text) d)

/-- Disks that hold the same state cannot be told apart. -/
theorem observe_congr {calls : List StoreCall}
    (hcalls : ∀ t, .save t ∈ calls → text.RoundTrips t) {d d' : Disk String} {s : AppState}
    (ht : text.RoundTrips s) (h : Holds text d s) (h' : Holds text d' s) :
    observe text calls d = observe text calls d' := by
  induction calls generalizing d d' s with
  | nil => rfl
  | cons call calls ih =>
    have hrest : ∀ t, .save t ∈ calls → text.RoundTrips t :=
      fun t hmem => hcalls t (List.mem_cons_of_mem _ hmem)
    cases call with
    | load =>
      simp only [observe, diskAfter, h.load ht, h'.load ht, applyAll_nil]
      rw [ih hrest ht h h']
    | save t =>
      have htt := hcalls t List.mem_cons_self
      cases hv : t.validate with
      | error e =>
        simp only [observe, diskAfter, save_error hv, applyAll_nil]
        rw [ih hrest ht h h']
      | ok u =>
        simp only [observe, diskAfter, save_eq hv]
        rw [ih hrest htt (holds_save hv d) (holds_save hv d')]

/-- A sequence of saves. -/
def saveAll (text : SnapshotText) : List AppState → StoreM Unit
  | [] => pure ()
  | s :: ss => do
    save text s
    saveAll text ss

/-- After a successful sequence of saves the disk holds the last state. -/
theorem holds_saveAll {earlier : List AppState} {last : AppState} {d : Disk String}
    {steps : List (Step String)} (h : saveAll text (earlier ++ [last]) d = (.ok (), steps)) :
    Holds text (applyAll d steps) last := by
  induction earlier generalizing d steps with
  | nil =>
    cases hv : last.validate with
    | error e =>
      have : saveAll text [last] d = (.error (.invalidState e), []) :=
        bind_of_error (save_error hv d)
      rw [List.nil_append, this] at h
      exact absurd (Prod.mk.inj h).1 nofun
    | ok u =>
      have : saveAll text [last] d = (.ok (), saveSteps text last d ++ []) :=
        bind_of_ok (save_eq hv d)
      rw [List.nil_append, this, List.append_nil] at h
      obtain ⟨-, rfl⟩ := Prod.mk.inj h
      exact holds_save hv d
  | cons s earlier ih =>
    cases hv : s.validate with
    | error e =>
      have : saveAll text (s :: (earlier ++ [last])) d = (.error (.invalidState e), []) :=
        bind_of_error (save_error hv d)
      rw [List.cons_append, this] at h
      exact absurd (Prod.mk.inj h).1 nofun
    | ok u =>
      have hstep : saveAll text (s :: (earlier ++ [last])) d =
          ((saveAll text (earlier ++ [last]) (applyAll d (saveSteps text s d))).1,
            saveSteps text s d ++
              (saveAll text (earlier ++ [last]) (applyAll d (saveSteps text s d))).2) :=
        bind_of_ok (save_eq hv d)
      rw [List.cons_append, hstep] at h
      obtain ⟨hres, rfl⟩ := Prod.mk.inj h
      rw [applyAll_append]
      exact ih (Prod.ext hres rfl)

/-- An interrupted save leaves the state file of before or that of after. -/
theorem stateFile_of_crash {s : AppState} {d' : Disk String}
    (h : Crash (save text s d).2 d d') :
    d' stateFile = d stateFile ∨
      s.validate = .ok () ∧ d' stateFile = some (text.snapshot s) := by
  cases hv : s.validate with
  | error e =>
    rw [save_error hv] at h
    cases h
    exact .inl rfl
  | ok u =>
    rw [save_eq hv, saveSteps] at h
    rcases h.of_append with h | h
    · -- while the backup is taken
      left
      cases hd : d stateFile with
      | none =>
        rw [hd] at h
        cases h
        exact hd
      | some bs =>
        rw [hd] at h
        rw [h.of_not_mem (stateFile_not_touched (by decide) bs), hd]
    · -- while the state file is replaced
      rcases Crash.replaceSteps (by decide) _ _ h with h | h
      · refine .inl (h.trans ?_)
        cases hd : d stateFile with
        | none => exact hd
        | some bs => rw [applyAll_of_not_mem (stateFile_not_touched (by decide) bs), hd]
      · exact .inr ⟨rfl, h⟩

/-- **Crash consistency.**  After successful saves that end with `last`, a save of `next`
interrupted anywhere leaves a disk that loads `last` or `next` without writing, and from
there on behaves as if that state had been saved normally. -/
theorem crash_consistency (text : SnapshotText) (d₀ d' : Disk String) (earlier : List AppState)
    (last next : AppState) (steps : List (Step String))
    (hsaved : saveAll text (earlier ++ [last]) d₀ = (.ok (), steps))
    (hlast : text.RoundTrips last) (hnext : text.RoundTrips next)
    (hcrash : Crash (save text next (applyAll d₀ steps)).2 (applyAll d₀ steps) d') :
    ∃ s saved, (s = last ∧ saved = applyAll d₀ steps ∨
        s = next ∧ saved = diskAfter (save text next) (applyAll d₀ steps)) ∧
      load text d' = (.ok s, []) ∧
      ∀ calls, (∀ t, .save t ∈ calls → text.RoundTrips t) →
        observe text calls d' = observe text calls saved := by
  have hbefore : Holds text (applyAll d₀ steps) last := holds_saveAll hsaved
  rcases stateFile_of_crash hcrash with hfile | ⟨hvalid, hfile⟩
  · have hholds : Holds text d' last := ⟨hbefore.valid, hfile.trans hbefore.file⟩
    exact ⟨last, _, .inl ⟨rfl, rfl⟩, hholds.load hlast,
      fun calls hcalls => observe_congr hcalls hlast hholds hbefore⟩
  · have hholds : Holds text d' next := ⟨hvalid, hfile⟩
    have hafter : Holds text (diskAfter (save text next) (applyAll d₀ steps)) next := by
      rw [diskAfter, save_eq hvalid]
      exact holds_save hvalid _
    exact ⟨next, _, .inr ⟨rfl, rfl⟩, hholds.load hnext,
      fun calls hcalls => observe_congr hcalls hnext hholds hafter⟩

/-- The disk after a save of the empty state and one of the imported state. -/
def importedDisk : Disk String :=
  applyAll (fun _ => none) (saveAll sampleText [.empty, importedState 1] fun _ => none).2

/-- What is left of it when the save of the next generation stops after a hundred bytes. -/
def tornDisk : Disk String :=
  applyAll importedDisk (stepsOf backupPath (importedSnapshot "1") ++
    [.createDir, .create (temporaryPath stateFile)] ++
    [.write (temporaryPath stateFile) ((importedSnapshot "2").take 100)])

/-- Two states are saved one after the other. -/
theorem saveAll_imported : saveAll sampleText ([.empty] ++ [importedState 1]) (fun _ => none) =
    (.ok (), (saveAll sampleText [.empty, importedState 1] fun _ => none).2) := by
  have hempty : AppState.empty.validate = .ok () := rfl
  refine Prod.ext ?_ rfl
  rw [List.singleton_append, saveAll, bind_of_ok (save_eq hempty _), saveAll,
    bind_of_ok (save_eq validate_first _)]
  rfl

/-- The save of the next generation stops in the middle of its text. -/
theorem crash_torn : Crash (save sampleText (importedState 2) importedDisk).2 importedDisk
    tornDisk := by
  have hfile : importedDisk stateFile = some (importedSnapshot "1") := by
    rw [← sampleText_snapshot_first]
    exact (holds_saveAll saveAll_imported).file
  rw [save_eq validate_second, saveSteps, hfile, sampleText_snapshot_second]
  exact Crash.inside (stepsOf backupPath (importedSnapshot "1") ++
    [.createDir, .create (temporaryPath stateFile)]) _ _ _ _ _

/-- The second save is cut in the middle, and one of the two states is loaded. -/
theorem crash_consistency_torn :
    ∃ s saved, (s = importedState 1 ∧ saved = importedDisk ∨
        s = importedState 2 ∧
          saved = diskAfter (save sampleText (importedState 2)) importedDisk) ∧
      load sampleText tornDisk = (.ok s, []) ∧
      ∀ calls, (∀ t, .save t ∈ calls → sampleText.RoundTrips t) →
        observe sampleText calls tornDisk = observe sampleText calls saved :=
  crash_consistency sampleText (fun _ => none) tornDisk [.empty] (importedState 1)
    (importedState 2) _ saveAll_imported sampleText_first sampleText_second crash_torn

/-! ## Old snapshots that cannot be migrated -/

/-- The bytes hold a well-formed document of a version before the current one from which
the chain and the checks after it produce no valid state. -/
structure Unmigratable (text : SnapshotText) (bs : List UInt8) (document : Json) : Prop where
  parsed : text.parse bs = some document
  old : ∃ version, schemaVersion? document = some version ∧
    1 ≤ version ∧ version < currentSchemaVersion.toUInt64
  invalid : ∀ s b, decodeDocument document ≠ .ok (s, b)

/-- A load fails and leaves the bytes of the state file as they are. -/
def Kept (text : SnapshotText) (d : Disk String) (bs : List UInt8) : Prop :=
  (∃ e, (load text d).1 = .error e) ∧ diskAfter (load text) d stateFile = some bs

/-- The last step writes the current version. -/
theorem schemaVersion_migrateV5ToV6 {document migrated : Json}
    (h : migrateV5ToV6 document = .ok migrated) :
    ∃ ms, migrated = .obj ms ∧ ms.lookup "schema_version" = some (num 6) := by
  cases document with
  | obj ms =>
    obtain ⟨ms', h', rfl⟩ := map_eq_ok.mp h
    obtain ⟨ms₁, -, h'⟩ := ok_bind.mp h'
    obtain rfl := Except.ok.inj h'
    exact ⟨_, rfl, by simp⟩
  | _ => exact absurd h nofun

/-- So does the whole chain. -/
theorem schemaVersion_runMigrations {n : Nat} (hn : n ≤ 4) {document migrated : Json}
    (h : runMigrations (migrations.drop n) document = .ok migrated) :
    ∃ ms, migrated = .obj ms ∧ ms.lookup "schema_version" = some (num 6) := by
  have hsplit : migrations.drop n =
      [migrateV1ToV2, migrateV2ToV3, migrateV3ToV4, migrateV4ToV5].drop n ++ [migrateV5ToV6] := by
    rw [← List.drop_append_of_le_length (by simpa using hn)]
    rfl
  rw [hsplit, runMigrations_append] at h
  obtain ⟨document', -, h⟩ := ok_bind.mp h
  rw [runMigrations] at h
  obtain ⟨migrated', hstep, h⟩ := ok_bind.mp h
  obtain rfl := Except.ok.inj h
  exact schemaVersion_migrateV5ToV6 (mapError_eq_ok.mp hstep)

/-- Once a document is in the current version, any failure to decode it is recoverable. -/
theorem recoverable_of_migrated {document : Json} {ms : Members} {b : Bool}
    (hm : migrateToCurrent document = .ok (.obj ms, b))
    (hversion : ms.lookup "schema_version" = some (num 6))
    (h : ∀ s, decodeDocument document ≠ .ok (s, b)) :
    ∃ e, decodeDocument document = .error e ∧ e.isRecoverable = true := by
  rw [decodeDocument, hm]
  show ∃ e, (okOr (Schema.storedStateV6.codec.decode (.obj ms)) .invalidStoredState >>= fun stored =>
    ofStored stored >>= fun stored => validateState stored >>= fun state =>
      Except.ok (state, b)) = .error e ∧ _
  cases hs : Schema.storedStateV6.codec.decode (.obj ms) with
  | none => exact ⟨.invalidStoredState, rfl, rfl⟩
  | some s =>
    have hsv : s.schemaVersion = currentSchemaVersion := by
      obtain ⟨v, hv, hdec⟩ := RecordCodec.reads_required.mp (Schema.reads_storedStateV6.mp hs).1
      rw [hversion] at hv
      obtain rfl := Option.some.inj hv
      exact (Option.some.inj hdec).symm
    have hconverted : ofStored s = .ok s := by rw [ofStored, hsv]; rfl
    cases hv : s.validate with
    | ok u => exact absurd (decodeDocument_eq_ok.mpr ⟨_, hm, hs, hv⟩) (h s)
    | error e =>
      have hvalid : validateState s = .error (.invalidState e) := by rw [validateState, hv]; rfl
      refine ⟨.invalidState e, ?_, rfl⟩
      show (ofStored s >>= fun stored => validateState stored >>= fun state =>
        Except.ok (state, b)) = _
      rw [hconverted]
      show (validateState s >>= fun state => Except.ok (state, b)) = _
      rw [hvalid]
      rfl

/-- A failure of the chain is not recoverable, any later failure is. -/
theorem Unmigratable.decode {bs : List UInt8} {document : Json}
    (h : Unmigratable text bs document) :
    (migrateToCurrent document = .error .migrationFailed ∧
        Veyra.decode text bs = .error .migrationFailed) ∨
      (∃ migrated, migrateToCurrent document = .ok migrated) ∧
        ∃ e, Veyra.decode text bs = .error e ∧ e.isRecoverable = true := by
  obtain ⟨version, hversion, hlo, hhi⟩ := h.old
  have hdec : Veyra.decode text bs = decodeDocument document := by
    rw [Veyra.decode, h.parsed]
    rfl
  have hm := migrateToCurrent_of_old hversion hlo hhi
  rw [hdec]
  cases hr : runMigrations (migrations.drop (version.toNat - 1)) document with
  | error e =>
    obtain rfl := runMigrations_error hr
    rw [hr] at hm
    refine .inl ⟨hm, ?_⟩
    rw [decodeDocument, hm]
    rfl
  | ok migrated =>
    rw [hr] at hm
    have hn : version.toNat - 1 ≤ 4 := by
      have := UInt64.lt_iff_toNat_lt.mp hhi
      have h6 : currentSchemaVersion.toUInt64.toNat = 6 := by decide
      omega
    obtain ⟨ms, rfl, hms⟩ := schemaVersion_runMigrations hn hr
    exact .inr ⟨⟨_, hm⟩, recoverable_of_migrated hm hms fun s => h.invalid s true⟩

/-- A replacement of the corrupt copy leaves the other files alone. -/
theorem backupPath_not_touched (bs : List UInt8) (d : Disk String) :
    applyAll d (stepsOf corruptCopyPath bs) backupPath = d backupPath := by
  have hne : backupPath ≠ temporaryPath corruptCopyPath ∧ backupPath ≠ corruptCopyPath := by
    decide
  refine applyAll_of_not_mem (fun s hs hmem => ?_) d
  rcases touches_replaceSteps hs hmem with h | h
  · exact hne.1 h
  · exact hne.2 h

/-- Whether a state can be recovered depends on the backup alone. -/
theorem recoverable_congr {d' : Disk String} (h : d' backupPath = d backupPath) :
    Recoverable text d' ↔ Recoverable text d := by
  rw [Recoverable, Recoverable, h]

/-- **Old snapshots.**  A load keeps a state file that cannot be migrated exactly when the
version chain fails on it or the backup does not decode. -/
theorem unmigratable_kept_iff (text : SnapshotText) (d : Disk String) (bs : List UInt8)
    (document : Json) (hd : d stateFile = some bs) (h : Unmigratable text bs document) :
    Kept text d bs ↔
      (∃ e, migrateToCurrent document = .error e) ∨
        ¬ ∃ backup s b, d backupPath = some backup ∧ decode text backup = .ok (s, b) := by
  rcases h.decode with ⟨hm, hdec⟩ | ⟨⟨migrated, hm⟩, e, hdec, he⟩
  · -- the chain fails: the error is not recoverable and nothing is written
    have hload := load_unrecoverable hd hdec rfl
    refine iff_of_true ⟨⟨_, by rw [hload]⟩, ?_⟩ (.inl ⟨_, hm⟩)
    rw [diskAfter, hload]
    exact hd
  · -- the chain succeeds: the backup decides
    have hload := load_recover hd hdec he
    have hfile : applyAll d (stepsOf corruptCopyPath bs) stateFile = some bs := by
      rw [applyAll_of_not_mem (stateFile_not_touched (by decide) bs), hd]
    have hrec : Recoverable text _ ↔ Recoverable text d :=
      recoverable_congr (backupPath_not_touched bs d)
    have hchain : ¬ ∃ e, migrateToCurrent document = .error e := by
      rintro ⟨e', he'⟩
      rw [hm] at he'
      exact absurd he' nofun
    by_cases hb : Recoverable text d
    · refine iff_of_false ?_ (not_or.mpr ⟨hchain, not_not.mpr hb⟩)
      rintro ⟨⟨e', he'⟩, -⟩
      obtain ⟨backup, s, b, hbackup, hs⟩ := hrec.mpr hb
      rw [hload, recoverBackup_ok hbackup hs] at he'
      exact absurd he' nofun
    · refine iff_of_true ⟨⟨.noValidBackup, ?_⟩, ?_⟩ (.inr hb)
      · rw [hload, recoverBackup_error (hrec.not.mpr hb)]
      · rw [diskAfter, hload, recoverBackup_error (hrec.not.mpr hb)]
        simpa using hfile

/-- A disk with a nameless version 1 snapshot and a backup. -/
def overwrittenDisk : Disk String := fun p =>
  if p = stateFile then some namelessSnapshot
  else if p = backupPath then some emptySnapshot
  else none

/-- The second byte of a pretty-printed snapshot is a line break. -/
theorem nameless_ne_of_pretty {bs : List UInt8} (h : bs[1]? = some 10) : namelessSnapshot ≠ bs := by
  have hnameless : namelessSnapshot[1]? = some 34 := by
    rw [namelessSnapshot, Text.bytes_ofList]
    rfl
  intro hsame
  rw [← hsame, hnameless] at h
  cases h

/-- The document without a name is not the one of the empty state. -/
theorem nameless_ne_empty : namelessSnapshot ≠ emptySnapshot := nameless_ne_of_pretty (by rfl)

theorem sampleText_nameless : sampleText.parse namelessSnapshot = some namelessDocument := by
  have himported (generation : String) : namelessSnapshot ≠ importedSnapshot generation :=
    nameless_ne_of_pretty (by rfl)
  rw [parse_sampleText, sampleDocuments, lookup_cons_of_ne nameless_ne_empty, lookup_cons_of_ne (himported _),
    lookup_cons_of_ne (himported _), List.lookup_cons_self]

/-- Without a name the stored state is invalid. -/
theorem decodeDocument_nameless :
    decodeDocument namelessDocument = .error .invalidStoredState := by rfl

/-- The document without a name cannot be migrated. -/
theorem unmigratable_nameless : Unmigratable sampleText namelessSnapshot namelessDocument where
  parsed := sampleText_nameless
  old := ⟨1, rfl, by decide, by decide⟩
  invalid s b := by rw [decodeDocument_nameless]; nofun

/-- It is kept as long as there is no backup that can be read. -/
theorem unmigratable_kept_iff_nameless :
    Kept sampleText overwrittenDisk namelessSnapshot ↔
      (∃ e, migrateToCurrent namelessDocument = .error e) ∨
        ¬ ∃ backup s b, overwrittenDisk backupPath = some backup ∧
          decode sampleText backup = .ok (s, b) :=
  unmigratable_kept_iff sampleText overwrittenDisk namelessSnapshot namelessDocument rfl
    unmigratable_nameless

/-- The nameless snapshot is replaced by the backup. -/
theorem nameless_not_kept :
    overwrittenDisk stateFile = some namelessSnapshot ∧
      Unmigratable sampleText namelessSnapshot namelessDocument ∧
      (load sampleText overwrittenDisk).1 = .ok .empty ∧
      diskAfter (load sampleText) overwrittenDisk stateFile ≠ some namelessSnapshot := by
  have hdec : decode sampleText namelessSnapshot = .error .invalidStoredState := by
    rw [decode, sampleText_nameless]
    exact decodeDocument_nameless
  have hbackup : applyAll overwrittenDisk (stepsOf corruptCopyPath namelessSnapshot) backupPath =
      some emptySnapshot := backupPath_not_touched _ _
  have hempty : decode sampleText emptySnapshot = .ok (.empty, false) := by
    rw [← sampleText_snapshot_empty]
    exact decode_snapshot rfl sampleText_empty
  have hload := load_recover (d := overwrittenDisk) rfl hdec rfl
  rw [recoverBackup_ok hbackup hempty] at hload
  refine ⟨rfl, unmigratable_nameless, by rw [hload], ?_⟩
  have hne := nameless_ne_empty.symm
  rw [diskAfter, hload, applyAll_append, stateFile_replaced, sampleText_snapshot_empty]
  simpa using hne

end Veyra
