import Veyra.Application.CommitEffect
import Veyra.Application.ProjectionClosure
import Veyra.Application.ProxyRouting
import Mathlib.Data.List.InsertIdx

/-!
# Veyra.Application.RouteOrder

The order of the routes.  The routing page lists them as they are stored; the projection
and the compiler order them by `(priority, id)`.  Creating, deleting and reordering
renumber the priorities by the stored list, which makes the two orders agree.
-/

namespace Veyra

open Check

/-! ## The two orders -/

/-- The ids of the routes as they are stored, and shown. -/
def AppState.storedOrder (s : AppState) : List String := s.routes.map (·.id.val)

/-- The ids of the routes by `(priority, id)`, the order in which they are tried. -/
def AppState.effectiveOrder (s : AppState) : List String :=
  (Sorted.sortBy RoutePolicy.key s.routes).map (·.id.val)

theorem AppState.effectiveOrder_eq (s : AppState) :
    s.effectiveOrder = (Sorted.sortBy id (s.routes.map RoutePolicy.key)).map fun k => (ofLex k).2 := by
  rw [← Sorted.map_sortBy, List.map_map]
  rfl

/-- The projection runs the enabled routes in the effective order. -/
theorem projected_routes_order {s : AppState} {p : SelectedRuntimeProjection} (hs : s.Valid)
    (h : projectSelectedRuntime s = .ok p) :
    p.runtimeIntent.routes = (Sorted.sortBy RoutePolicy.key s.routes).filter (·.enabled) := by
  rw [(projected_parts h).1, AppState.selectedContent]
  apply Sorted.sortBy_filter
  intro a ha b hb hkey
  have hids : a.id.val = b.id.val := congrArg (fun k => (ofLex k).2) hkey
  exact List.inj_on_of_nodup_map hs.nodup_routes ha hb hids

namespace ProxyRouting

/-! ## Renumbering -/

theorem toInt_ofNat_of_le {n : Nat} (h : n ≤ 2147483647) : (Int32.ofNat n).toInt = n := by
  rw [Int32.toInt_ofNat', Int.bmod_def]
  simp only [Int32.size]
  omega

/-- Renumbered routes keep their ids and are in the order of their priorities. -/
theorem normalizeFrom_ok {index : Nat} {routes renumbered : List RoutePolicy}
    (h : normalizeFrom index routes = .ok renumbered) :
    renumbered.map (·.id) = routes.map (·.id) ∧
    (∀ r ∈ renumbered, (index : ℤ) ≤ r.priority.toInt) ∧
    renumbered.Pairwise fun a b => a.priority.toInt < b.priority.toInt := by
  induction routes generalizing index renumbered with
  | nil =>
    cases h
    exact ⟨rfl, by simp, .nil⟩
  | cons route routes ih =>
    obtain ⟨hindex, h⟩ := ok_seq.mp h
    obtain ⟨rest, hrest, h⟩ := ok_bind.mp h
    cases h
    obtain ⟨hids, hlower, hpairwise⟩ := ih hrest
    have hpriority : (Int32.ofNat index).toInt = index :=
      toInt_ofNat_of_le (by simpa using reject_eq_ok.mp hindex)
    refine ⟨by simp [hids], ?_, ?_⟩
    · intro r hr
      cases hr with
      | head => exact le_of_eq hpriority.symm
      | tail _ hr =>
        have := hlower r hr
        omega
    · apply List.pairwise_cons.mpr
      refine ⟨?_, hpairwise⟩
      intro r hr
      have := hlower r hr
      simp only [hpriority]
      omega

/-- Routes that replace those of a state come in the order in which they are listed. -/
theorem withRoutes_order {s t : AppState} {routes : List RoutePolicy}
    (h : withRoutes s routes = .ok t) :
    t.storedOrder = routes.map (·.id.val) ∧ t.effectiveOrder = t.storedOrder := by
  obtain ⟨renumbered, hrenumbered, h⟩ := ok_bind.mp h
  cases h
  obtain ⟨hids, -, hpairwise⟩ := normalizeFrom_ok hrenumbered
  have hsorted : Sorted.sortBy RoutePolicy.key renumbered = renumbered := by
    apply Sorted.sortBy_of_pairwise
    apply hpairwise.imp
    intro a b hab
    exact le_of_lt (Prod.Lex.toLex_lt_toLex.mpr (.inl hab))
  have hvals : renumbered.map (·.id.val) = routes.map (·.id.val) := by
    simpa only [List.map_map, Function.comp_def] using congrArg (List.map (·.val)) hids
  refine ⟨hvals, ?_⟩
  simp only [AppState.effectiveOrder, AppState.storedOrder, hsorted]

theorem normalizeFrom_total {routes : List RoutePolicy} : ∀ {index : Nat},
    index + routes.length ≤ 2147483648 → ∃ renumbered, normalizeFrom index routes = .ok renumbered := by
  induction routes with
  | nil => exact fun _ => ⟨[], rfl⟩
  | cons route routes ih =>
    intro index hlength
    rw [List.length_cons] at hlength
    obtain ⟨rest, hrest⟩ := @ih (index + 1) (by omega)
    have hindex : reject (index > 2147483647) MutationError.validationFailed = .ok () :=
      reject_eq_ok.mpr (by simp; omega)
    exact ⟨_, ok_seq.mpr ⟨hindex, ok_bind.mpr ⟨rest, hrest, rfl⟩⟩⟩

/-! ## Taking routes out -/

/-- Taking a route out erases its id. -/
theorem takeRoute_ok {id : String} {routes rest : List RoutePolicy} {route : RoutePolicy}
    (h : takeRoute id routes = some (route, rest)) :
    route.id.val = id ∧ rest.map (·.id.val) = (routes.map (·.id.val)).erase id := by
  induction routes generalizing rest with
  | nil => cases h
  | cons first routes ih =>
    rw [takeRoute] at h
    by_cases hfirst : first.id.val = id
    · rw [if_pos hfirst] at h
      cases h
      exact ⟨hfirst, by simp [hfirst]⟩
    · rw [if_neg hfirst] at h
      obtain ⟨⟨found, others⟩, htake, heq⟩ := Option.map_eq_some_iff.mp h
      cases heq
      obtain ⟨hid, hrest⟩ := ih htake
      refine ⟨hid, ?_⟩
      rw [List.map_cons, List.map_cons, List.erase_cons_tail (by simpa using hfirst), hrest]

theorem takeRoute_of_mem {id : String} {routes : List RoutePolicy}
    (h : id ∈ routes.map (·.id.val)) : ∃ route rest, takeRoute id routes = some (route, rest) := by
  induction routes with
  | nil => cases h
  | cons first routes ih =>
    rw [takeRoute]
    by_cases hfirst : first.id.val = id
    · exact ⟨first, routes, if_pos hfirst⟩
    · rw [if_neg hfirst]
      rw [List.map_cons, List.mem_cons] at h
      obtain ⟨route, rest, htake⟩ := ih (h.resolve_left (Ne.symm hfirst))
      exact ⟨route, first :: rest, by rw [htake]; rfl⟩

/-- The routes in the order of some ids have these ids. -/
theorem orderRoutes_ok {ids : List String} {routes ordered : List RoutePolicy}
    (h : orderRoutes ids routes = some ordered) : ordered.map (·.id.val) = ids := by
  induction ids generalizing routes ordered with
  | nil =>
    cases h
    rfl
  | cons id ids ih =>
    obtain ⟨⟨route, rest⟩, htake, h⟩ := Option.bind_eq_some_iff.mp h
    obtain ⟨others, hothers, h⟩ := Option.bind_eq_some_iff.mp h
    cases h
    rw [List.map_cons, (takeRoute_ok htake).1, ih hothers]

theorem orderRoutes_of_perm {ids : List String} {routes : List RoutePolicy}
    (h : ids.Perm (routes.map (·.id.val))) : ∃ ordered, orderRoutes ids routes = some ordered := by
  induction ids generalizing routes with
  | nil => exact ⟨[], rfl⟩
  | cons id ids ih =>
    obtain ⟨route, rest, htake⟩ := takeRoute_of_mem (h.subset List.mem_cons_self)
    have hrest : ids.Perm (rest.map (·.id.val)) := by
      rw [(takeRoute_ok htake).2]
      exact List.cons_perm_iff_perm_erase.mp h |>.2
    obtain ⟨ordered, hordered⟩ := ih hrest
    exact ⟨route :: ordered,
      Option.bind_eq_some_iff.mpr ⟨_, htake, Option.bind_eq_some_iff.mpr ⟨_, hordered, rfl⟩⟩⟩

/-! ## The mutations -/

section Mutations

variable {env : Env} {s t : AppState} {outcome : MutationOutcome}

theorem createRoute_order {name : String} {enabled : Bool} {matcher : MatcherDto}
    {target : RouteTargetDto} {insertAt : Nat}
    (h : applyMutation env s (.createRoute name enabled matcher target insertAt)
      = .ok (t, outcome)) :
    ∃ id, id ∉ s.storedOrder ∧ insertAt ≤ s.storedOrder.length ∧
      t.storedOrder = s.storedOrder.insertIdx insertAt id ∧ t.effectiveOrder = t.storedOrder := by
  cases applyMutation_cases h with
  | @createRoute _ _ _ _ _ id _ _ inside _ _ _ _ fresh renumbered =>
    obtain ⟨hstored, heffective⟩ := withRoutes_order renumbered
    refine ⟨id, fun hmem => ?_, ?_, ?_, heffective⟩
    · obtain ⟨route, hroute, hid⟩ := List.mem_map.mp hmem
      exact fresh route hroute hid
    · rwa [AppState.storedOrder, List.length_map]
    · rw [hstored, List.map_insertIdx]
      rfl

theorem deleteRoute_order {id : String}
    (h : applyMutation env s (.deleteRoute id) = .ok (t, outcome)) :
    t.storedOrder = s.storedOrder.erase id ∧ t.effectiveOrder = t.storedOrder := by
  cases applyMutation_cases h with
  | deleteRoute taken renumbered =>
    obtain ⟨hstored, heffective⟩ := withRoutes_order renumbered
    exact ⟨hstored.trans (takeRoute_ok taken).2, heffective⟩

/-- An update touches neither the id nor the priority of its route. -/
theorem updateRoute_order {id name : String} {enabled : Bool} {matcher : MatcherDto}
    {target : RouteTargetDto}
    (h : applyMutation env s (.updateRoute id name enabled matcher target) = .ok (t, outcome)) :
    t.storedOrder = s.storedOrder ∧ t.effectiveOrder = s.effectiveOrder := by
  cases applyMutation_cases h with
  | updateRoute _ _ _ _ =>
    refine ⟨map_modifyFirst fun _ _ _ => rfl, ?_⟩
    rw [AppState.effectiveOrder_eq, AppState.effectiveOrder_eq]
    have hkeys := @map_modifyFirst _ _ (fun route : RoutePolicy => decide (route.id.val = id))
      (fun route => { route with
        name := Text.trim name, enabled, matcher := matcher.toMatcher, target := target.toTarget })
      RoutePolicy.key s.routes fun _ _ _ => rfl
    rw [hkeys]

theorem reorderRoutes_order {routeIds : List String}
    (h : applyMutation env s (.reorderRoutes routeIds) = .ok (t, outcome)) :
    t.storedOrder = routeIds ∧ t.effectiveOrder = routeIds := by
  cases applyMutation_cases h with
  | reorderRoutes _ arranged renumbered =>
    obtain ⟨hstored, heffective⟩ := withRoutes_order renumbered
    have hids := orderRoutes_ok arranged
    exact ⟨hstored.trans hids, heffective.trans (hstored.trans hids)⟩

/-- A permutation of the route ids is accepted. -/
theorem reorderRoutes_total {routeIds : List String} (hs : s.Valid)
    (hlength : s.routes.length ≤ 2147483648) (hperm : routeIds.Perm s.storedOrder) :
    ∃ t, applyMutation env s (.reorderRoutes routeIds) = .ok (t, .saved) := by
  obtain ⟨ordered, hordered⟩ := orderRoutes_of_perm hperm
  have hsame : ordered.length = s.routes.length := by
    have h1 := congrArg List.length (orderRoutes_ok hordered)
    have h2 := hperm.length_eq
    rw [AppState.storedOrder, List.length_map] at h2
    rw [List.length_map] at h1
    omega
  obtain ⟨renumbered, hrenumbered⟩ := @normalizeFrom_total ordered 0 (by omega)
  refine ⟨{ s with routes := renumbered }, ok_seq.mpr ⟨reject_eq_ok.mpr ?_,
    ok_bind.mpr ⟨ordered, okOr_eq_ok.mpr hordered,
      ok_bind.mpr ⟨_, ok_bind.mpr ⟨renumbered, hrenumbered, rfl⟩, rfl⟩⟩⟩⟩
  have hnodup : routeIds.Nodup := hperm.nodup_iff.mpr hs.nodup_routes
  have hcount : routeIds.length = s.routes.length := by
    rw [hperm.length_eq, AppState.storedOrder, List.length_map]
  have hknown : routeIds.all (fun id => s.routes.any (·.id.val = id)) = true := by
    rw [List.all_eq_true]
    intro id hid
    obtain ⟨route, hroute, hroutes⟩ := List.mem_map.mp (hperm.subset hid)
    exact List.any_eq_true.mpr ⟨route, hroute, by simpa using hroutes⟩
  simp [hnodup, hcount, hknown]

end Mutations

theorem erase_insertIdx {α : Type} [DecidableEq α] {xs : List α} {x : α} (hx : x ∉ xs) :
    ∀ {n : Nat}, n ≤ xs.length → (xs.insertIdx n x).erase x = xs := by
  induction xs with
  | nil =>
    intro n hn
    rw [Nat.le_zero.mp hn]
    simp
  | cons y ys ih =>
    intro n hn
    obtain ⟨hne, hys⟩ := not_or.mp (mt List.mem_cons.mpr hx)
    cases n with
    | zero => simp
    | succ n =>
      rw [List.insertIdx_succ_cons, List.erase_cons_tail (by simpa using Ne.symm hne),
        ih hys (Nat.le_of_succ_le_succ hn)]

/-- **The order of the routes.**  Updates keep the effective order and a reordering is the
one asked for; creating and deleting put the other routes in the order in which they are
stored, so their effective order stays exactly when they were stored in it. -/
theorem route_order_of_mutation (env : Env) (s : AppState) (hs : s.Valid) :
    (∀ name enabled matcher target insertAt t outcome,
      applyMutation env s (.createRoute name enabled matcher target insertAt) = .ok (t, outcome) →
      ∃ id, id ∉ s.storedOrder ∧ t.storedOrder = s.storedOrder.insertIdx insertAt id ∧
        t.effectiveOrder = t.storedOrder ∧
        (t.effectiveOrder.erase id = s.effectiveOrder ↔ s.storedOrder = s.effectiveOrder)) ∧
    (∀ id t outcome, applyMutation env s (.deleteRoute id) = .ok (t, outcome) →
      t.storedOrder = s.storedOrder.erase id ∧ t.effectiveOrder = t.storedOrder ∧
      (t.effectiveOrder = s.effectiveOrder.erase id ↔
        s.storedOrder.erase id = s.effectiveOrder.erase id)) ∧
    (∀ id name enabled matcher target t outcome,
      applyMutation env s (.updateRoute id name enabled matcher target) = .ok (t, outcome) →
      t.storedOrder = s.storedOrder ∧ t.effectiveOrder = s.effectiveOrder) ∧
    (∀ routeIds t outcome, applyMutation env s (.reorderRoutes routeIds) = .ok (t, outcome) →
      t.storedOrder = routeIds ∧ t.effectiveOrder = routeIds) ∧
    (∀ routeIds : List String, s.routes.length ≤ 2147483648 → routeIds.Perm s.storedOrder →
      ∃ t, applyMutation env s (.reorderRoutes routeIds) = .ok (t, .saved)) ∧
    ∀ p, projectSelectedRuntime s = .ok p →
      p.runtimeIntent.routes = (Sorted.sortBy RoutePolicy.key s.routes).filter (·.enabled) := by
  refine ⟨?_, ?_, ?_, ?_, ?_, fun p hp => projected_routes_order hs hp⟩
  · intro name enabled matcher target insertAt t outcome h
    obtain ⟨id, hfresh, hlength, hstored, heffective⟩ := createRoute_order h
    refine ⟨id, hfresh, hstored, heffective, ?_⟩
    rw [heffective, hstored, erase_insertIdx hfresh hlength]
  · intro id t outcome h
    obtain ⟨hstored, heffective⟩ := deleteRoute_order h
    refine ⟨hstored, heffective, ?_⟩
    rw [heffective, hstored]
  · intro id name enabled matcher target t outcome h
    exact updateRoute_order h
  · intro routeIds t outcome h
    exact reorderRoutes_order h
  · intro routeIds hlength hperm
    exact reorderRoutes_total hs hlength hperm

/-- Three routes stored against the order of their priorities. -/
def migratedRoutes : AppState :=
  { AppState.empty with
    routes := [("first", 2), ("second", 1), ("third", 0)].map fun (id, priority) =>
      { id := ⟨id⟩, name := id, enabled := true, priority, matcher := .port [443]
        target := .direct } }

/-- The parameters of the runs below. -/
def directEnv : Env := { parseUrl := fun _ => none, random := some [1] }

/-- Deleting one route swaps the two others, in a state that `validate` accepts. -/
theorem delete_swaps_routes :
    migratedRoutes.validate = .ok () ∧
    migratedRoutes.effectiveOrder = ["third", "second", "first"] ∧
    ∃ t, applyMutation directEnv migratedRoutes (.deleteRoute "third") = .ok (t, .saved) ∧
      t.effectiveOrder = ["first", "second"] ∧
      t.effectiveOrder ≠ migratedRoutes.effectiveOrder.erase "third" := by
  have hok : (applyMutation directEnv migratedRoutes (.deleteRoute "third")).isOk = true := by
    decide +kernel
  obtain ⟨⟨t, outcome⟩, h⟩ := exists_ok hok
  obtain ⟨hstored, heffective⟩ := deleteRoute_order h
  have hvalues : migratedRoutes.storedOrder.erase "third" = ["first", "second"] := by decide
  have hbefore : migratedRoutes.effectiveOrder = ["third", "second", "first"] := by
    decide +kernel
  have hsaved : outcome = .saved := by
    obtain ⟨-, h⟩ := ok_seq.mp h
    obtain ⟨taken, -, h⟩ := ok_bind.mp h
    obtain ⟨edited, -, h⟩ := ok_bind.mp h
    cases h
    rfl
  subst hsaved
  have hafter : t.effectiveOrder = ["first", "second"] := by rw [heffective, hstored, hvalues]
  refine ⟨by decide +kernel, hbefore, t, h, hafter, ?_⟩
  rw [hafter, hbefore]
  decide

/-- A reordering of these routes is the one asked for. -/
theorem route_order_of_mutation_migrated :
    ∃ t, applyMutation directEnv migratedRoutes (.reorderRoutes ["second", "third", "first"])
        = .ok (t, .saved) ∧ t.effectiveOrder = ["second", "third", "first"] := by
  have hs : migratedRoutes.Valid := AppState.validate_eq_ok.mp (by decide +kernel)
  obtain ⟨-, -, -, hreorder, htotal, -⟩ := route_order_of_mutation directEnv migratedRoutes hs
  obtain ⟨t, ht⟩ := htotal ["second", "third", "first"] (by decide) (by decide)
  exact ⟨t, ht, (hreorder _ t _ ht).2⟩

end ProxyRouting

end Veyra
