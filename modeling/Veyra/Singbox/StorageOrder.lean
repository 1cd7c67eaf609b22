import Veyra.Singbox.Closed

/-!
# Veyra.Singbox.StorageOrder

The compiler sorts everything it emits, so the order in which nodes, pools,
members and routes are stored does not reach the document.

Pools are compared by a canonical form, in which the members are sorted:
`canonical_sortBy` moves it past the sorting of the pools, and the emission
does not tell a pool from its canonical form.
-/

namespace Veyra

open Check

/-! ## Intents in another order -/

/-- The same pool, its members in any order. -/
structure SamePool (p q : RuntimePool) : Prop where
  id : p.id = q.id
  selection : p.selection = q.selection
  members : p.members.Perm q.members

/-- The same intent in another order: of the nodes, the pools, their members and the routes. -/
structure RuntimeIntent.Reordered (a b : RuntimeIntent) : Prop where
  nodes : a.nodes.Perm b.nodes
  pools : ∃ pools, List.Forall₂ SamePool a.pools pools ∧ pools.Perm b.pools
  routes : a.routes.Perm b.routes

/-- No two nodes, pools or routes have the same id. -/
structure RuntimeIntent.UniqueIds (a : RuntimeIntent) : Prop where
  nodes : (a.nodes.map (·.id)).Nodup
  pools : (a.pools.map (·.id)).Nodup
  routes : (a.routes.map (·.id)).Nodup

/-! ## Pools -/

/-- A pool with its members in order. -/
def RuntimePool.canonical (p : RuntimePool) : RuntimePool :=
  { p with members := Sorted.sortBy (·.val) p.members }

@[simp] theorem RuntimePool.canonical_id (p : RuntimePool) : p.canonical.id = p.id := rfl

/-- Pools that are the same have one canonical form. -/
theorem SamePool.canonical {p q : RuntimePool} (h : SamePool p q) : p.canonical = q.canonical := by
  have hmembers : Sorted.sortBy (·.val) p.members = Sorted.sortBy (·.val) q.members :=
    Sorted.sortBy_eq_of_perm h.members fun a _ b _ heq => nodeId_val_injective heq
  rw [RuntimePool.canonical, RuntimePool.canonical, hmembers, RuntimePool.mk.injEq]
  exact ⟨h.id, rfl, h.selection⟩

/-- So have lists of them. -/
theorem canonical_of_forall₂ {ps qs : List RuntimePool} (h : List.Forall₂ SamePool ps qs) :
    ps.map (·.canonical) = qs.map (·.canonical) := by
  induction h with
  | nil => rfl
  | cons hpool _ ih => rw [List.map_cons, List.map_cons, hpool.canonical, ih]

/-- The canonical form leaves the order of the pools alone. -/
theorem canonical_sortBy (pools : List RuntimePool) :
    (Sorted.sortBy (·.id.val) pools).map (·.canonical) =
      Sorted.sortBy (·.id.val) (pools.map (·.canonical)) :=
  List.map_insertionSort _ _ _ _ fun _ _ _ _ => Iff.rfl

/-- The canonical form has the same members. -/
theorem RuntimePool.memberTags_canonical (p : RuntimePool) :
    p.canonical.memberTags = p.memberTags := by
  refine Sorted.sortDedup_eq_of_mem Function.injective_id fun tag => ?_
  simp [RuntimePool.canonical]

/-- The emission does not tell a pool from its canonical form. -/
theorem emitPools_canonical (pools : List RuntimePool) :
    emitPools (pools.map (·.canonical)) = emitPools pools := by
  induction pools with
  | nil => rfl
  | cons p ps ih =>
    have hempty : p.canonical.members.isEmpty = p.members.isEmpty := by
      rw [Bool.eq_iff_iff, List.isEmpty_iff, List.isEmpty_iff]
      exact Sorted.sortBy_eq_nil
    rw [List.map_cons, emitPools, emitPools, ih, hempty, RuntimePool.memberTags_canonical]
    rfl

theorem any_id_canonical (pools : List RuntimePool) (id : PoolId) :
    (pools.map (·.canonical)).any (·.id = id) = pools.any (·.id = id) := by
  rw [List.any_map]
  rfl

/-- A reordering changes no test. -/
theorem any_eq_of_perm {α : Type} {as bs : List α} (h : as.Perm bs) (p : α → Bool) :
    as.any p = bs.any p := by
  rw [Bool.eq_iff_iff, List.any_eq_true, List.any_eq_true]
  constructor
  · rintro ⟨a, ha, hp⟩
    exact ⟨a, h.mem_iff.mp ha, hp⟩
  · rintro ⟨a, ha, hp⟩
    exact ⟨a, h.mem_iff.mpr ha, hp⟩

/-! ## The order is lost -/

section Reordered

variable {a b : RuntimeIntent}

theorem RuntimeIntent.Reordered.canonical (h : a.Reordered b) :
    (a.pools.map (·.canonical)).Perm (b.pools.map (·.canonical)) := by
  obtain ⟨pools, hsame, hperm⟩ := h.pools
  rw [canonical_of_forall₂ hsame]
  exact hperm.map _

/-- The tag of the default does not depend on the order. -/
theorem RuntimeIntent.Reordered.finalTag (h : a.Reordered b) (target : RouteTarget) :
    finalTag a.pools target = finalTag b.pools target := by
  cases target with
  | pool id =>
    rw [Veyra.finalTag, Veyra.finalTag, ← any_id_canonical, any_eq_of_perm h.canonical,
      any_id_canonical]
  | _ => rfl

/-- Neither do the sorted nodes. -/
theorem RuntimeIntent.Reordered.sortedNodes (h : a.Reordered b) (hids : a.UniqueIds) :
    Sorted.sortBy (·.id.val) a.nodes = Sorted.sortBy (·.id.val) b.nodes :=
  Sorted.sortBy_eq_of_perm h.nodes fun _ hm _ hn heq =>
    List.inj_on_of_nodup_map hids.nodes hm hn (nodeId_val_injective heq)

/-- Neither do the sorted routes. -/
theorem RuntimeIntent.Reordered.sortedRoutes (h : a.Reordered b) (hids : a.UniqueIds) :
    Sorted.sortBy RoutePolicy.key (a.routes.filter (·.enabled)) =
      Sorted.sortBy RoutePolicy.key (b.routes.filter (·.enabled)) := by
  refine Sorted.sortBy_eq_of_perm (h.routes.filter _) fun r hr r' hr' heq => ?_
  have hid : r.id.val = r'.id.val := congrArg (fun k => (ofLex k).2) heq
  refine List.inj_on_of_nodup_map hids.routes (List.mem_of_mem_filter hr)
    (List.mem_of_mem_filter hr') ?_
  show r.id = r'.id
  cases hr : r.id
  cases hr' : r'.id
  rw [hr, hr'] at hid
  exact congrArg RoutePolicyId.mk hid

/-- Neither do the groups. -/
theorem RuntimeIntent.Reordered.emitPools (h : a.Reordered b) (hids : a.UniqueIds) :
    emitPools (Sorted.sortBy (·.id.val) a.pools) =
      emitPools (Sorted.sortBy (·.id.val) b.pools) := by
  have hdistinct : ∀ p ∈ a.pools.map (·.canonical), ∀ q ∈ a.pools.map (·.canonical),
      p.id.val = q.id.val → p = q := by
    intro p hp q hq heq
    obtain ⟨p, hmem, rfl⟩ := List.mem_map.mp hp
    obtain ⟨q, hmem', rfl⟩ := List.mem_map.mp hq
    have hid : p.id = q.id := by
      cases hpid : p.id
      cases hqid : q.id
      rw [RuntimePool.canonical_id, RuntimePool.canonical_id, hpid, hqid] at heq
      exact congrArg PoolId.mk heq
    rw [List.inj_on_of_nodup_map hids.pools hmem hmem' hid]
  rw [← emitPools_canonical, canonical_sortBy, Sorted.sortBy_eq_of_perm h.canonical hdistinct,
    ← canonical_sortBy, emitPools_canonical]

/-- **Storage order does not matter.**  Intents with unique ids that differ in the order of their
nodes, pools, members and routes both fail to compile, or compile to the same document. -/
theorem compile_order_independent (env : CompilerEnv) (target : RouteTarget) (a b : RuntimeIntent)
    (hids : a.UniqueIds) (h : a.Reordered b) : compile env a target = compile env b target := by
  rw [compile, compile, h.finalTag, h.sortedNodes hids, h.emitPools hids, h.sortedRoutes hids]

end Reordered

/-- `fencedIntent` with its nodes and the members of its pool the other way round. -/
def turnedIntent : RuntimeIntent :=
  { fencedIntent with
    nodes := [socksNode, wireguardNode]
    pools := [{ id := ⟨"a"⟩, members := [⟨"s"⟩, ⟨"w"⟩], selection := .manual (some ⟨"w"⟩) }] }

theorem compile_order_independent_turned :
    (compile ⟨fun _ => none⟩ fencedIntent (.pool ⟨"a"⟩)).isOk = true ∧
    compile ⟨fun _ => none⟩ fencedIntent (.pool ⟨"a"⟩) =
      compile ⟨fun _ => none⟩ turnedIntent (.pool ⟨"a"⟩) := by
  refine ⟨by decide +kernel, compile_order_independent _ _ _ _ ⟨by decide, by decide, by decide⟩ ?_⟩
  refine ⟨.swap .., ⟨turnedIntent.pools, .cons ⟨rfl, rfl, .swap ..⟩ .nil, .refl _⟩, .refl _⟩

end Veyra
