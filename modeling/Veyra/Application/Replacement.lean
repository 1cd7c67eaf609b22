import Veyra.Application.Content

/-!
# Veyra.Application.Replacement

`apply_provider_replacement`: the one place where the nodes of a provider are
replaced.  What a successful replacement does to the state is stated once, in
`applyProviderReplacement_ok`; every operation that replaces nodes cites it.
-/

namespace Veyra

open Check

inductive ProviderReplacementError
  | rejectedBatch
  | missingProvider
  | normalize (error : NormalizationError)
  | state (error : StateValidationError)
deriving DecidableEq, Repr

/-- `map_replacement_error`. -/
def ProviderReplacementError.toOperationError :
    ProviderReplacementError → SubscriptionOperationError
  | .rejectedBatch => .parseFailed
  | .missingProvider | .state _ => .validationFailed
  | .normalize _ => .normalizationFailed

/-- The nodes of a provider, in the order of the state. -/
def AppState.nodesOf (s : AppState) (providerId : ProviderId) : List ProxyNode :=
  s.nodes.filter (·.providerId = providerId)

/-- The state with the nodes of a provider replaced; the new ones come last. -/
def AppState.withNodesOf (s : AppState) (providerId : ProviderId) (replacement : List ProxyNode) :
    AppState :=
  { s with nodes := s.nodes.filter (·.providerId ≠ providerId) ++ replacement }

/-- `apply_provider_replacement`: the new state, and whether the nodes changed. -/
def applyProviderReplacement (text : JsonText) (candidate : AppState) (providerId : ProviderId)
    (parsed : ParseResult) : Except ProviderReplacementError (AppState × Bool) := do
  reject (parsed.nodes.isEmpty || !parsed.skipped.isEmpty) .rejectedBatch
  reject (!candidate.providers.any (·.id = providerId)) .missingProvider
  let replacement ← (normalizeNodes text providerId parsed.nodes).mapError .normalize
  let changed := candidate.nodesOf providerId ≠ replacement
  let candidate := candidate.withNodesOf providerId replacement
  candidate.validate.mapError .state
  .ok (candidate, changed)

/-! ## Facts -/

@[simp] theorem nodesOf_withNodesOf_self {s : AppState} {p : ProviderId} {ns : List ProxyNode}
    (h : ∀ n ∈ ns, n.providerId = p) : (s.withNodesOf p ns).nodesOf p = ns := by
  have hold : (s.nodes.filter (·.providerId ≠ p)).filter (·.providerId = p) = [] := by
    rw [List.filter_filter, List.filter_eq_nil_iff]
    intro n hn
    simp
  have hnew : ns.filter (·.providerId = p) = ns := by
    rw [List.filter_eq_self]
    intro n hn
    simpa using h n hn
  rw [AppState.nodesOf, AppState.withNodesOf, List.filter_append, hold, hnew, List.nil_append]

theorem nodesOf_withNodesOf_of_ne {s : AppState} {p q : ProviderId} {ns : List ProxyNode}
    (h : ∀ n ∈ ns, n.providerId = p) (hq : q ≠ p) :
    (s.withNodesOf p ns).nodesOf q = s.nodesOf q := by
  have hold : (s.nodes.filter (·.providerId ≠ p)).filter (·.providerId = q) =
      s.nodes.filter (·.providerId = q) := by
    rw [List.filter_filter]
    apply List.filter_congr
    intro n hn
    by_cases hnq : n.providerId = q
    · simp [hnq, hq]
    · simp [hnq]
  have hnew : ns.filter (·.providerId = q) = [] := by
    rw [List.filter_eq_nil_iff]
    intro n hn
    simp [h n hn, Ne.symm hq]
  rw [AppState.nodesOf, AppState.withNodesOf, List.filter_append, hold, hnew, List.append_nil]
  rfl

theorem mem_withNodesOf {s : AppState} {p : ProviderId} {ns : List ProxyNode} {n : ProxyNode} :
    n ∈ (s.withNodesOf p ns).nodes ↔ (n ∈ s.nodes ∧ n.providerId ≠ p) ∨ n ∈ ns := by
  simp [AppState.withNodesOf]

/-- A successful replacement normalizes the batch and puts it in place of the old nodes. -/
theorem applyProviderReplacement_ok {text : JsonText} {s s' : AppState} {p : ProviderId}
    {parsed : ParseResult} {changed : Bool}
    (h : applyProviderReplacement text s p parsed = .ok (s', changed)) :
    ∃ replacement, normalizeNodes text p parsed.nodes = .ok replacement ∧
      s' = s.withNodesOf p replacement ∧ (changed = true ↔ s.nodesOf p ≠ replacement) ∧
      s'.Valid := by
  obtain ⟨-, h⟩ := ok_seq.mp h
  obtain ⟨-, h⟩ := ok_seq.mp h
  obtain ⟨replacement, hnormalize, h⟩ := ok_bind.mp h
  obtain ⟨hvalid, h⟩ := ok_seq.mp h
  cases h
  exact ⟨replacement, mapError_eq_ok.mp hnormalize, rfl, by simp,
    AppState.validate_eq_ok.mp (mapError_eq_ok.mp hvalid)⟩

/-- A batch that normalizes to an accepted state replaces the nodes. -/
theorem applyProviderReplacement_of {text : JsonText} {s : AppState} {p : ProviderId}
    {parsed : ParseResult} {replacement : List ProxyNode}
    (hbatch : (parsed.nodes.isEmpty || !parsed.skipped.isEmpty) = false)
    (hprovider : s.providers.any (·.id = p) = true)
    (hnormalize : normalizeNodes text p parsed.nodes = .ok replacement)
    (hvalid : (s.withNodesOf p replacement).validate = .ok ()) :
    applyProviderReplacement text s p parsed =
      .ok (s.withNodesOf p replacement, decide (s.nodesOf p ≠ replacement)) := by
  have hpresent : (!s.providers.any (·.id = p)) = false := by rw [hprovider, Bool.not_true]
  refine ok_seq.mpr ⟨reject_eq_ok.mpr hbatch, ok_seq.mpr ⟨reject_eq_ok.mpr hpresent, ?_⟩⟩
  exact ok_bind.mpr ⟨_, mapError_eq_ok.mpr hnormalize, ok_seq.mpr ⟨mapError_eq_ok.mpr hvalid, rfl⟩⟩

end Veyra
