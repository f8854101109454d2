import Metalnet.Proofs.Realize
import Metalnet.Tables

/-!
# Withdrawals undo announcements

On the dataplane's tables a create leaves its object held, a delete leaves it not held, and no
call touches another object (`holds_exec_target`, `holds_exec_of_ne`). `RemoveRoute` issues a
delete for every object that `AddRoute` creates, whatever the allow-lists and the preferred
network were when the route was announced, so once a route is withdrawn nothing its
announcement created is left (`removeRoute_undoes_addRoute`).
-/

namespace Metalnet.Metalbond

theorem RouteKey.same_route {key : RouteKey} {r r' : Route} (h : key.same r r' = true) :
    r'.vni = r.vni ∧ r'.ipPrefix = r.ipPrefix := by
  cases key <;> simp_all [RouteKey.same]

namespace Tables

variable {α : Type} [DecidableEq α] (key : RouteKey) (t : Tables)

theorem mem_createIn {l : List α} {x y : α} : y ∈ (createIn l x).1 ↔ y = x ∨ y ∈ l := by
  unfold createIn; split <;> simp_all

theorem mem_deleteIn {l : List α} {x y : α} : y ∈ (deleteIn l x).1 ↔ y ≠ x ∧ y ∈ l := by
  unfold deleteIn; split <;> simp_all [and_comm]
  rintro h rfl; contradiction

theorem hasRoute_iff {routes : List Route} {v : UInt32} {p : Prefix} :
    hasRoute routes v p = true ↔ ∃ r ∈ routes, r.vni = v ∧ r.ipPrefix = p := by
  simp [hasRoute]

theorem hasRoute_createRouteIn {routes : List Route} {r : Route} {v : UInt32} {p : Prefix} :
    hasRoute (createRouteIn key routes r).1 v p = true ↔
      (r.vni = v ∧ r.ipPrefix = p) ∨ hasRoute routes v p = true := by
  unfold createRouteIn
  split
  · rename_i h
    obtain ⟨r', hr', hs⟩ := List.any_eq_true.1 h
    obtain ⟨h1, h2⟩ := RouteKey.same_route hs
    refine ⟨Or.inr, ?_⟩
    rintro (⟨rfl, rfl⟩ | h)
    · exact hasRoute_iff.2 ⟨r', hr', h1, h2⟩
    · exact h
  · simp [hasRoute_iff]

theorem hasRoute_deleteRouteIn {routes : List Route} {w : UInt32} {q : Prefix} {v : UInt32}
    {p : Prefix} :
    hasRoute (deleteRouteIn routes w q).1 v p = true ↔
      ¬(w = v ∧ q = p) ∧ hasRoute routes v p = true := by
  unfold deleteRouteIn
  split
  · simp only [hasRoute_iff, List.mem_filter, Bool.not_eq_true', Bool.and_eq_false_iff,
      beq_eq_false_iff_ne, ne_eq]
    constructor
    · rintro ⟨r, ⟨hr, hne⟩, rfl, rfl⟩
      exact ⟨fun ⟨h1, h2⟩ => by subst h1 h2; simp at hne, r, hr, rfl, rfl⟩
    · rintro ⟨hne, r, hr, rfl, rfl⟩
      exact ⟨r, ⟨hr, by by_contra h; push_neg at h; exact hne ⟨h.1.symm, h.2.symm⟩⟩, rfl, rfl⟩
  · rename_i h
    exact ⟨fun h' => ⟨fun ⟨h1, h2⟩ => h (h1 ▸ h2 ▸ h'), h'⟩, And.right⟩

/-- A call's own object is held after it exactly when the call is a create. -/
theorem holds_exec_target (call : Call) :
    (t.exec key call).1.holds call.target = call.isCreate := by
  cases call with
  | createRoute r => exact (hasRoute_createRouteIn key).2 (.inl ⟨rfl, rfl⟩)
  | deleteRoute v p => exact Bool.eq_false_iff.2 fun h => (hasRoute_deleteRouteIn.1 h).1 ⟨rfl, rfl⟩
  | createNeighborNat n => simp [exec, holds, Call.target, Call.isCreate, mem_createIn]
  | deleteNeighborNat n => simp [exec, holds, Call.target, Call.isCreate, mem_deleteIn]
  | createLoadBalancerTarget lb => simp [exec, holds, Call.target, Call.isCreate, mem_createIn]
  | deleteLoadBalancerTarget id ip => simp [exec, holds, Call.target, Call.isCreate, mem_deleteIn]

/-- A call leaves every other object as it was. -/
theorem holds_exec_of_ne {call : Call} {o : Object} (h : call.target ≠ o) :
    (t.exec key call).1.holds o = t.holds o := by
  cases call <;> cases o <;>
    simp only [Call.target, ne_eq, Object.route.injEq, Object.nat.injEq,
      Object.lbTarget.injEq] at h <;>
    first
    | rfl
    | exact Bool.eq_iff_iff.2 ((hasRoute_createRouteIn key).trans (or_iff_right h))
    | exact Bool.eq_iff_iff.2 (hasRoute_deleteRouteIn.trans (and_iff_right h))
    | simp [exec, holds, mem_createIn, mem_deleteIn, Ne.symm h]

/-- The tables after calls issued one after another. -/
def execAll (t : Tables) (calls : List Call) : Tables :=
  calls.foldl (fun t call => (t.exec key call).1) t

theorem execAll_cons (call : Call) (calls : List Call) :
    execAll key t (call :: calls) = execAll key (t.exec key call).1 calls := rfl

/-- After deletes only, an object is held when it was held before and no delete is on it. -/
theorem holds_execAll_deletes :
    ∀ (t : Tables) (calls : List Call), (∀ call ∈ calls, call.isCreate = false) → ∀ o,
      (execAll key t calls).holds o = true ↔ t.holds o = true ∧ ∀ call ∈ calls, call.target ≠ o
  | t, [], _, o => by simp [execAll]
  | t, call :: calls, hd, o => by
    rw [execAll_cons, holds_execAll_deletes _ calls (fun d hd' => hd d (by simp [hd'])) o]
    by_cases ho : call.target = o
    · subst ho
      simp [holds_exec_target, hd call (by simp)]
    · simp [holds_exec_of_ne key t ho, Ne.symm ho, ho]

/-- After creates only, an object is held when it was held before or a create is on it. -/
theorem holds_execAll_creates :
    ∀ (t : Tables) (calls : List Call), (∀ call ∈ calls, call.isCreate = true) → ∀ o,
      (execAll key t calls).holds o = true ↔ t.holds o = true ∨ ∃ call ∈ calls, call.target = o
  | t, [], _, o => by simp [execAll]
  | t, call :: calls, hc, o => by
    rw [execAll_cons, holds_execAll_creates _ calls (fun d hd' => hc d (by simp [hd'])) o]
    by_cases ho : call.target = o
    · subst ho
      simp [holds_exec_target, hc call (by simp)]
    · simp [holds_exec_of_ne key t ho, ho]

/-- No call but a create of it puts a route in the table. -/
theorem mem_routes_exec {call : Call} {r : Route} (h : r ∈ (t.exec key call).1.routes) :
    r ∈ t.routes ∨ call = .createRoute r := by
  cases call with
  | createRoute r' =>
    simp only [exec, createRouteIn] at h
    split at h
    · exact .inl h
    · rcases List.mem_cons.1 h with rfl | h
      · exact .inr rfl
      · exact .inl h
  | deleteRoute v p =>
    simp only [exec, deleteRouteIn] at h
    split at h
    · exact .inl (List.mem_filter.1 h).1
    · exact .inl h
  | _ => exact .inl h

theorem mem_routes_execAll {r : Route} :
    ∀ (t : Tables) (calls : List Call), r ∈ (execAll key t calls).routes →
      r ∈ t.routes ∨ .createRoute r ∈ calls
  | t, [], h => .inl h
  | t, call :: calls, h => by
    rcases mem_routes_execAll _ calls h with h | h
    · rcases mem_routes_exec key t h with h | rfl
      · exact .inl h
      · exact .inr (List.mem_cons_self _ _)
    · exact .inr (List.mem_cons_of_mem _ h)

/-- Deletes only take routes out. -/
theorem mem_routes_execAll_of_deletes {calls : List Call} {r : Route}
    (hd : ∀ call ∈ calls, call.isCreate = false) (h : r ∈ (execAll key t calls).routes) :
    r ∈ t.routes :=
  (mem_routes_execAll key t calls h).resolve_right fun hc => by
    simpa [Call.isCreate] using hd _ hc

end Tables

namespace MetalnetClient

theorem addRoute_state (c : MetalnetClient) (key : RouteKey) (t : Tables) (vni : UInt32)
    (dest : Destination) (hop : NextHop) :
    (c.addRoute (Tables.dataplane key) t vni dest hop).state =
      Tables.execAll key t (c.addRoute (Tables.dataplane key) t vni dest hop).calls :=
  runAll_state _ _ _

theorem removeRoute_state (c : MetalnetClient) (key : RouteKey) (t : Tables) (vni : UInt32)
    (dest : Destination) (hop : NextHop) :
    (c.removeRoute (Tables.dataplane key) t vni dest hop).state =
      Tables.execAll key t (c.removeRoute (Tables.dataplane key) t vni dest hop).calls :=
  runAll_state _ _ _

variable {σ τ : Type} {c₁ c₂ : MetalnetClient} {vni : UInt32} {dest : Destination}
  {hop : NextHop}

/-- Every object `AddRoute` creates under one snapshot of the topology is deleted by
`RemoveRoute` under another with the same IPv4-only mode, peers and load balancers. -/
theorem removeRoute_covers_addRoute (dp₁ : Dataplane σ) (dp₂ : Dataplane τ) (s₁ : σ) (s₂ : τ)
    (hv4 : c₁.config.ipv4Only = c₂.config.ipv4Only)
    (hpeers : ∀ p, p ∈ c₁.peers vni → p ∈ c₂.peers vni)
    (hlb : c₁.metalnetCache.loadBalancerServer = c₂.metalnetCache.loadBalancerServer) :
    ∀ call ∈ (c₁.addRoute dp₁ s₁ vni dest hop).calls,
      ∃ d ∈ (c₂.removeRoute dp₂ s₂ vni dest hop).calls, d.target = call.target := by
  intro call hcall
  by_cases hr : c₁.Refuses dest
  · simp [addRoute_calls_refused _ _ _ hr] at hcall
  have hr₂ : ¬ c₂.Refuses dest := by rwa [Refuses, ← hv4]
  cases ht : hop.type with
  | STANDARD =>
    rw [addRoute_calls_standard _ _ _ hr ht, List.mem_map] at hcall
    obtain ⟨p, hp, rfl⟩ := hcall
    refine ⟨.deleteRoute p dest.ipPrefix, ?_, rfl⟩
    rw [removeRoute_calls_standard _ _ _ hr₂ ht]
    refine List.mem_map_of_mem _ ?_
    rcases List.mem_cons.1 hp with rfl | hp
    · exact List.mem_cons_self _ _
    · exact List.mem_cons_of_mem _ (hpeers p (List.mem_filter.1 hp).1)
  | NAT =>
    rw [addRoute_calls_nat _ _ _ hr ht, List.mem_singleton] at hcall
    subst hcall
    refine ⟨.deleteNeighborNat (natEntry vni dest hop), ?_, rfl⟩
    rw [removeRoute_calls_nat _ _ _ hr₂ ht]
    exact List.mem_singleton_self _
  | LOADBALANCER_TARGET =>
    obtain ⟨uid, huid, rfl⟩ := (addRoute_calls_lb _ _ _ ht).2 call hcall
    refine ⟨.deleteLoadBalancerTarget uid hop.targetAddress, ?_, rfl⟩
    rw [removeRoute_calls_lb _ _ _ hr₂ ht (hlb ▸ huid)]
    exact List.mem_singleton_self _

/-- Between announcing a route and withdrawing it the allow-lists and the preferred network may
change; as long as the IPv4-only mode, the peers of the VNI and the load-balancer registry stay,
every object the announcement created is the target of a delete of the withdrawal, and on the
dataplane's tables none of them is left. -/
theorem removeRoute_undoes_addRoute (dp₁ : Dataplane σ) (dp₂ : Dataplane τ) (s₁ : σ) (s₂ : τ)
    (hv4 : c₁.config.ipv4Only = c₂.config.ipv4Only)
    (hpeers : ∀ p, p ∈ c₁.peers vni ↔ p ∈ c₂.peers vni)
    (hlb : c₁.metalnetCache.loadBalancerServer = c₂.metalnetCache.loadBalancerServer) :
    (∀ call ∈ (c₁.addRoute dp₁ s₁ vni dest hop).calls, call.isCreate = true →
      ∃ d ∈ (c₂.removeRoute dp₂ s₂ vni dest hop).calls,
        d.isCreate = false ∧ d.target = call.target) ∧
    ∀ (key : RouteKey) (t : Tables),
      ∀ call ∈ (c₁.addRoute (Tables.dataplane key) t vni dest hop).calls,
      call.isCreate = true →
        (c₂.removeRoute (Tables.dataplane key) (c₁.addRoute (Tables.dataplane key) t vni dest hop).state
          vni dest hop).state.holds call.target = false := by
  refine ⟨fun call hcall _ => ?_, fun key t call hcall _ => ?_⟩
  · obtain ⟨d, hd, he⟩ := removeRoute_covers_addRoute dp₁ dp₂ s₁ s₂ hv4
      (fun p => (hpeers p).1) hlb call hcall
    exact ⟨d, hd, removeRoute_isCreate _ _ _ hd, he⟩
  · obtain ⟨d, hd, he⟩ := removeRoute_covers_addRoute (Tables.dataplane key) (Tables.dataplane key)
      t _ hv4 (fun p => (hpeers p).1) hlb call hcall
    rw [Bool.eq_false_iff, removeRoute_state]
    exact fun h => ((Tables.holds_execAll_deletes key _ _
      (fun d hd => removeRoute_isCreate _ _ _ hd) _).1 h).2 d hd he

/-- The topology of `pairedClient` with an empty allow-list for every peer. -/
def filteredClient : MetalnetClient :=
  ⟨pairedClient.config, ⟨pairedClient.metalnetCache.peerVnis, fun _ => some fun _ => some [],
    pairedClient.metalnetCache.loadBalancerServer⟩⟩

theorem removeRoute_undoes_addRoute_filtered :
    pairedClient.config.ipv4Only = filteredClient.config.ipv4Only ∧
    (∀ p, p ∈ pairedClient.peers 1 ↔ p ∈ filteredClient.peers 1) ∧
    pairedClient.metalnetCache.loadBalancerServer =
      filteredClient.metalnetCache.loadBalancerServer ∧
    (∀ call ∈ (pairedClient.addRoute Dataplane.succeeding () 1 net10
        (standardHop (.v4 0x0a000001))).calls, call.isCreate = true →
      ∃ d ∈ (filteredClient.removeRoute Dataplane.succeeding () 1 net10
          (standardHop (.v4 0x0a000001))).calls,
        d.isCreate = false ∧ d.target = call.target) ∧
    ∀ (key : RouteKey) (t : Tables), ∀ call ∈ (pairedClient.addRoute (Tables.dataplane key) t 1 net10
        (standardHop (.v4 0x0a000001))).calls, call.isCreate = true →
      (filteredClient.removeRoute (Tables.dataplane key)
        (pairedClient.addRoute (Tables.dataplane key) t 1 net10 (standardHop (.v4 0x0a000001))).state
          1 net10 (standardHop (.v4 0x0a000001))).state.holds call.target = false :=
  ⟨rfl, fun _ => Iff.rfl, rfl, removeRoute_undoes_addRoute Dataplane.succeeding Dataplane.succeeding
    () () rfl (fun _ => Iff.rfl) rfl⟩

end MetalnetClient

end Metalnet.Metalbond
