import Metalnet.Proofs.Run

/-!
# What each callback issues

One lemma per branch of `addLocalRoute` and `removeLocalRoute`, and the shape of the realizations
of `AddRoute` and `RemoveRoute`. With a standard next hop, `AddRoute` creates the route in its own
VNI and in every peer its allow-list admits, all with the announcing VNI as next hop
(`addRoute_calls`); a NAT or load-balancer next hop makes at most one call, in its own VNI.
`RemoveRoute` deletes in its own VNI and in every peer, with no allow-list consulted
(`removeRoute_calls`).
-/

namespace Metalnet.Metalbond

namespace MetalnetClient

variable (c : MetalnetClient) {σ : Type} {destVni vni : UInt32} {dest : Destination}
  {hop : NextHop}

/-- Whether IPv4-only mode refuses the destination. -/
abbrev Refuses (c : MetalnetClient) (dest : Destination) : Prop :=
  c.config.ipv4Only ∧ dest.ipVersion ≠ .IPV4

theorem not_refuses {c : MetalnetClient} {dest : Destination}
    (h : c.config.ipv4Only = false ∨ dest.ipVersion = .IPV4) : ¬ c.Refuses dest := by
  rintro ⟨h1, h2⟩; rcases h with h | h <;> simp_all

section Local

variable {c}

theorem addLocalRoute_refused (h : c.Refuses dest) :
    c.addLocalRoute destVni vni dest hop = .fail ipv4OnlyMsg :=
  if_pos h

theorem removeLocalRoute_refused (h : c.Refuses dest) :
    c.removeLocalRoute destVni vni dest hop = .fail ipv4OnlyMsg :=
  if_pos h

theorem addLocalRoute_standard (h4 : ¬ c.Refuses dest) (h : hop.type = .STANDARD) :
    c.addLocalRoute destVni vni dest hop =
      .issue (.createRoute ⟨vni, dest.ipPrefix, ⟨destVni, hop.targetAddress⟩⟩) [.ROUTE_EXISTS]
        "error creating route" := by
  rw [addLocalRoute, if_neg h4]; simp [h]

theorem removeLocalRoute_standard (h4 : ¬ c.Refuses dest) (h : hop.type = .STANDARD) :
    c.removeLocalRoute destVni vni dest hop =
      .issue (.deleteRoute vni dest.ipPrefix) [.NO_VNI, .ROUTE_NOT_FOUND] "error deleting route" := by
  rw [removeLocalRoute, if_neg h4]; simp [h]

/-- The neighbor NAT entry both callbacks name for a NAT next hop. -/
def natEntry (vni : UInt32) (dest : Destination) (hop : NextHop) : NeighborNat :=
  ⟨dest.ipPrefix.addr, vni, hop.natPortRangeFrom.toUInt32, hop.natPortRangeTo.toUInt32,
    hop.targetAddress⟩

theorem addLocalRoute_nat (h4 : ¬ c.Refuses dest) (h : hop.type = .NAT) :
    c.addLocalRoute destVni vni dest hop =
      .issue (.createNeighborNat (natEntry vni dest hop)) [.ALREADY_EXISTS] "error nat route" := by
  rw [addLocalRoute, if_neg h4]; simp [h, natEntry]

theorem removeLocalRoute_nat (h4 : ¬ c.Refuses dest) (h : hop.type = .NAT) :
    c.removeLocalRoute destVni vni dest hop =
      .issue (.deleteNeighborNat (natEntry vni dest hop)) [.NOT_FOUND] "error deleting nat route" := by
  rw [removeLocalRoute, if_neg h4]; simp [h, natEntry]

/-- A load-balancer target is created, if at all, for the load balancer registered under the
realizing VNI. -/
theorem addLocalRoute_call_lb (h : hop.type = .LOADBALANCER_TARGET) {call : Call}
    (hc : (c.addLocalRoute destVni vni dest hop).call? = some call) :
    ∃ uid, c.metalnetCache.loadBalancerServer vni dest.ipPrefix.addr.string = some uid ∧
      call = .createLoadBalancerTarget ⟨uid, hop.targetAddress⟩ := by
  simp only [addLocalRoute, h, if_true] at hc
  split at hc
  · simp [Effect.call?] at hc
  · split at hc
    · simp [Effect.call?] at hc
    · rename_i uid huid
      split at hc <;> simp only [Effect.call?, Option.some.injEq, reduceCtorEq] at hc
      exact ⟨uid, huid, hc.symm⟩

theorem addLocalRoute_lb_outside (h4 : ¬ c.Refuses dest) (h : hop.type = .LOADBALANCER_TARGET)
    {uid : String} (huid : c.metalnetCache.loadBalancerServer vni dest.ipPrefix.addr.string = some uid)
    (hout : c.config.outsidePreferredNetwork hop.targetAddress = true) :
    c.addLocalRoute destVni vni dest hop = .skip := by
  rw [addLocalRoute, if_neg h4]; simp [h, huid, hout]

theorem removeLocalRoute_lb (h4 : ¬ c.Refuses dest) (h : hop.type = .LOADBALANCER_TARGET)
    {uid : String} (huid : c.metalnetCache.loadBalancerServer vni dest.ipPrefix.addr.string = some uid) :
    c.removeLocalRoute destVni vni dest hop =
      .issue (.deleteLoadBalancerTarget uid hop.targetAddress) [.NOT_FOUND, .NO_BACKIP, .NO_LB]
        "error deleting lb target" := by
  rw [removeLocalRoute, if_neg h4]; simp [h, huid]

theorem removeLocalRoute_lb_none (h4 : ¬ c.Refuses dest) (h : hop.type = .LOADBALANCER_TARGET)
    (huid : c.metalnetCache.loadBalancerServer vni dest.ipPrefix.addr.string = none) :
    c.removeLocalRoute destVni vni dest hop =
      .fail (noLoadBalancerMsg vni dest.ipPrefix.addr.string) := by
  rw [removeLocalRoute, if_neg h4]; simp [h, huid]

theorem removeLocalRoute_call_lb (h : hop.type = .LOADBALANCER_TARGET) {call : Call}
    (hc : (c.removeLocalRoute destVni vni dest hop).call? = some call) :
    ∃ uid, c.metalnetCache.loadBalancerServer vni dest.ipPrefix.addr.string = some uid ∧
      call = .deleteLoadBalancerTarget uid hop.targetAddress := by
  simp only [removeLocalRoute, h, if_true] at hc
  split at hc
  · simp [Effect.call?] at hc
  · split at hc
    · simp [Effect.call?] at hc
    · rename_i uid huid
      simp only [Effect.call?, Option.some.injEq] at hc
      exact ⟨uid, huid, hc.symm⟩

/-- Every call `addLocalRoute` makes is a create. -/
theorem addLocalRoute_isCreate {call : Call}
    (h : (c.addLocalRoute destVni vni dest hop).call? = some call) : call.isCreate = true := by
  by_cases h4 : c.Refuses dest
  · simp [addLocalRoute_refused h4, Effect.call?] at h
  cases ht : hop.type with
  | STANDARD => simp only [addLocalRoute_standard h4 ht, Effect.call?, Option.some.injEq] at h; subst h; rfl
  | NAT => simp only [addLocalRoute_nat h4 ht, Effect.call?, Option.some.injEq] at h; subst h; rfl
  | LOADBALANCER_TARGET => obtain ⟨uid, -, rfl⟩ := addLocalRoute_call_lb ht h; rfl

/-- Every call `removeLocalRoute` makes is a delete. -/
theorem removeLocalRoute_isCreate {call : Call}
    (h : (c.removeLocalRoute destVni vni dest hop).call? = some call) : call.isCreate = false := by
  by_cases h4 : c.Refuses dest
  · simp [removeLocalRoute_refused h4, Effect.call?] at h
  cases ht : hop.type with
  | STANDARD =>
    simp only [removeLocalRoute_standard h4 ht, Effect.call?, Option.some.injEq] at h; subst h; rfl
  | NAT => simp only [removeLocalRoute_nat h4 ht, Effect.call?, Option.some.injEq] at h; subst h; rfl
  | LOADBALANCER_TARGET => obtain ⟨uid, -, rfl⟩ := removeLocalRoute_call_lb ht h; rfl

end Local

/-! ## The realizations of an announcement -/

/-- The peers of a VNI, in the order the cache lists them; an unknown VNI has none. -/
def peers (vni : UInt32) : List UInt32 := (c.metalnetCache.getPeerVnis vni).1.unsortedList

/-- The allow-list check in the words of the cache: no allow-lists for the VNI, none for the
peer, or one of the peer's prefixes contains the destination. -/
def Admitted (vni p : UInt32) (dest : Destination) : Bool :=
  (c.metalnetCache.peeredPrefixes vni).all fun F => (F p).all fun l =>
    l.any fun q => q.contains dest.ipPrefix.addr

theorem admits_eq (vni p : UInt32) :
    admits (c.metalnetCache.getPeeredPrefixes vni).1 (c.metalnetCache.getPeeredPrefixes vni).2 p
      dest = c.Admitted vni p dest := by
  unfold admits Admitted MetalnetCache.getPeeredPrefixes
  cases c.metalnetCache.peeredPrefixes vni with
  | none => rfl
  | some F => cases hF : F p <;> simp [hF]

theorem addRouteEffects_standard (h : hop.type = .STANDARD) :
    c.addRouteEffects vni dest hop =
      (vni :: (c.peers vni).filter fun p => c.Admitted vni p dest).map
        fun p => c.addLocalRoute vni p dest hop := by
  simp only [addRouteEffects, h, if_true, admits_eq, List.map_cons, peers]

theorem addRouteEffects_of_ne (h : hop.type ≠ .STANDARD) :
    c.addRouteEffects vni dest hop = [c.addLocalRoute vni vni dest hop] := by
  simp [addRouteEffects, h]

theorem removeRouteEffects_standard (h : hop.type = .STANDARD) :
    c.removeRouteEffects vni dest hop =
      (vni :: c.peers vni).map fun p => c.removeLocalRoute vni p dest hop := by
  simp only [removeRouteEffects, h, if_true, List.map_cons, peers]
  exact congrArg _ (congrFun (List.filterMap_eq_map _) _)

theorem removeRouteEffects_of_ne (h : hop.type ≠ .STANDARD) :
    c.removeRouteEffects vni dest hop = [c.removeLocalRoute vni vni dest hop] := by
  simp [removeRouteEffects, h]

/-- A refused destination makes no call at all. -/
theorem addRouteEffects_calls_refused (h : c.Refuses dest) :
    (c.addRouteEffects vni dest hop).filterMap Effect.call? = [] := by
  by_cases hs : hop.type = .STANDARD
  · simp [c.addRouteEffects_standard hs, addLocalRoute_refused h, Effect.call?]
  · simp [c.addRouteEffects_of_ne hs, addLocalRoute_refused h, Effect.call?]

theorem removeRouteEffects_calls_refused (h : c.Refuses dest) :
    (c.removeRouteEffects vni dest hop).filterMap Effect.call? = [] := by
  by_cases hs : hop.type = .STANDARD
  · simp [c.removeRouteEffects_standard hs, removeLocalRoute_refused h, Effect.call?]
  · simp [c.removeRouteEffects_of_ne hs, removeLocalRoute_refused h, Effect.call?]

/-! ## The calls of `AddRoute` and `RemoveRoute` -/

theorem addRoute_calls_eq (dp : Dataplane σ) (s : σ) :
    (c.addRoute dp s vni dest hop).calls = (c.addRouteEffects vni dest hop).filterMap Effect.call? :=
  (runAll_aggregates dp s _).calls

theorem removeRoute_calls_eq (dp : Dataplane σ) (s : σ) :
    (c.removeRoute dp s vni dest hop).calls =
      (c.removeRouteEffects vni dest hop).filterMap Effect.call? :=
  (runAll_aggregates dp s _).calls

variable (dp : Dataplane σ) (s : σ)

theorem addRoute_isCreate {call : Call} (h : call ∈ (c.addRoute dp s vni dest hop).calls) :
    call.isCreate = true := by
  rw [addRoute_calls_eq, List.mem_filterMap] at h
  obtain ⟨e, he, hc⟩ := h
  by_cases hs : hop.type = .STANDARD
  · rw [c.addRouteEffects_standard hs, List.mem_map] at he
    obtain ⟨p, -, rfl⟩ := he
    exact addLocalRoute_isCreate hc
  · rw [c.addRouteEffects_of_ne hs, List.mem_singleton] at he
    subst he; exact addLocalRoute_isCreate hc

theorem removeRoute_isCreate {call : Call} (h : call ∈ (c.removeRoute dp s vni dest hop).calls) :
    call.isCreate = false := by
  rw [removeRoute_calls_eq, List.mem_filterMap] at h
  obtain ⟨e, he, hc⟩ := h
  by_cases hs : hop.type = .STANDARD
  · rw [c.removeRouteEffects_standard hs, List.mem_map] at he
    obtain ⟨p, -, rfl⟩ := he
    exact removeLocalRoute_isCreate hc
  · rw [c.removeRouteEffects_of_ne hs, List.mem_singleton] at he
    subst he; exact removeLocalRoute_isCreate hc

theorem addRoute_calls_refused (h : c.Refuses dest) : (c.addRoute dp s vni dest hop).calls = [] := by
  rw [addRoute_calls_eq, addRouteEffects_calls_refused c h]

theorem removeRoute_calls_refused (h : c.Refuses dest) :
    (c.removeRoute dp s vni dest hop).calls = [] := by
  rw [removeRoute_calls_eq, removeRouteEffects_calls_refused c h]

theorem addRoute_calls_standard (h4 : ¬ c.Refuses dest) (h : hop.type = .STANDARD) :
    (c.addRoute dp s vni dest hop).calls =
      (vni :: (c.peers vni).filter fun p => c.Admitted vni p dest).map
        fun p => .createRoute ⟨p, dest.ipPrefix, ⟨vni, hop.targetAddress⟩⟩ := by
  rw [addRoute_calls_eq, c.addRouteEffects_standard h, List.filterMap_map]
  simp only [Function.comp_def, addLocalRoute_standard h4 h, Effect.call?]
  exact congrFun (List.filterMap_eq_map _) _

theorem removeRoute_calls_standard (h4 : ¬ c.Refuses dest) (h : hop.type = .STANDARD) :
    (c.removeRoute dp s vni dest hop).calls =
      (vni :: c.peers vni).map fun p => .deleteRoute p dest.ipPrefix := by
  rw [removeRoute_calls_eq, c.removeRouteEffects_standard h, List.filterMap_map]
  simp only [Function.comp_def, removeLocalRoute_standard h4 h, Effect.call?]
  exact congrFun (List.filterMap_eq_map _) _

theorem addRoute_calls_nat (h4 : ¬ c.Refuses dest) (h : hop.type = .NAT) :
    (c.addRoute dp s vni dest hop).calls = [.createNeighborNat (natEntry vni dest hop)] := by
  rw [addRoute_calls_eq, c.addRouteEffects_of_ne (by simp [h]), addLocalRoute_nat h4 h]; rfl

theorem removeRoute_calls_nat (h4 : ¬ c.Refuses dest) (h : hop.type = .NAT) :
    (c.removeRoute dp s vni dest hop).calls = [.deleteNeighborNat (natEntry vni dest hop)] := by
  rw [removeRoute_calls_eq, c.removeRouteEffects_of_ne (by simp [h]), removeLocalRoute_nat h4 h]; rfl

theorem addRoute_calls_lb (h : hop.type = .LOADBALANCER_TARGET) :
    (c.addRoute dp s vni dest hop).calls.length ≤ 1 ∧
      ∀ call ∈ (c.addRoute dp s vni dest hop).calls, ∃ uid,
        c.metalnetCache.loadBalancerServer vni dest.ipPrefix.addr.string = some uid ∧
          call = .createLoadBalancerTarget ⟨uid, hop.targetAddress⟩ := by
  rw [addRoute_calls_eq, c.addRouteEffects_of_ne (by simp [h])]
  rcases hc : (c.addLocalRoute vni vni dest hop).call? with _ | call
  · simp [hc]
  · simpa [hc] using addLocalRoute_call_lb h hc

theorem removeRoute_calls_lb (h4 : ¬ c.Refuses dest) (h : hop.type = .LOADBALANCER_TARGET)
    {uid : String}
    (huid : c.metalnetCache.loadBalancerServer vni dest.ipPrefix.addr.string = some uid) :
    (c.removeRoute dp s vni dest hop).calls = [.deleteLoadBalancerTarget uid hop.targetAddress] := by
  rw [removeRoute_calls_eq, c.removeRouteEffects_of_ne (by simp [h]), removeLocalRoute_lb h4 h huid]
  rfl

/-- The routes `AddRoute` creates are in its own VNI or a peer's, with its own VNI as next hop. -/
theorem addRoute_createRoute {r : Route} (h : .createRoute r ∈ (c.addRoute dp s vni dest hop).calls) :
    r.nextHop.vni = vni ∧ (r.vni = vni ∨ r.vni ∈ c.peers vni) := by
  by_cases h4 : c.Refuses dest
  · simp [addRoute_calls_refused _ _ _ h4] at h
  cases ht : hop.type with
  | STANDARD =>
    rw [addRoute_calls_standard _ _ _ h4 ht, List.mem_map] at h
    obtain ⟨p, hp, he⟩ := h
    cases he
    rcases List.mem_cons.1 hp with rfl | hp
    · exact ⟨rfl, .inl rfl⟩
    · exact ⟨rfl, .inr (List.mem_filter.1 hp).1⟩
  | NAT => simp [addRoute_calls_nat _ _ _ h4 ht] at h
  | LOADBALANCER_TARGET =>
    obtain ⟨uid, -, h⟩ := (addRoute_calls_lb _ _ _ ht).2 _ h
    cases h

/-- Outside IPv4-only refusals, a standard next hop creates the route in the
announcing VNI and in each peer the allow-lists admit, in the cache's order, each with the
announcing VNI and the target address as next hop; a NAT next hop creates one NAT entry in the
announcing VNI; a load-balancer target is created at most once, for the load balancer registered
under the announcing VNI. -/
theorem addRoute_calls (vni : UInt32) (dest : Destination) (hop : NextHop)
    (h4 : c.config.ipv4Only = false ∨ dest.ipVersion = .IPV4) :
    (hop.type = .STANDARD →
      (c.addRoute dp s vni dest hop).calls =
        (vni :: ((c.metalnetCache.getPeerVnis vni).1.unsortedList.filter fun p =>
          (c.metalnetCache.peeredPrefixes vni).all fun F => (F p).all fun l =>
            l.any fun q => q.contains dest.ipPrefix.addr)).map
          fun p => .createRoute ⟨p, dest.ipPrefix, ⟨vni, hop.targetAddress⟩⟩) ∧
    (hop.type = .NAT →
      (c.addRoute dp s vni dest hop).calls =
        [.createNeighborNat ⟨dest.ipPrefix.addr, vni, hop.natPortRangeFrom.toUInt32,
          hop.natPortRangeTo.toUInt32, hop.targetAddress⟩]) ∧
    (hop.type = .LOADBALANCER_TARGET →
      (c.addRoute dp s vni dest hop).calls.length ≤ 1 ∧
        ∀ call ∈ (c.addRoute dp s vni dest hop).calls, ∃ uid,
          c.metalnetCache.loadBalancerServer vni dest.ipPrefix.addr.string = some uid ∧
            call = .createLoadBalancerTarget ⟨uid, hop.targetAddress⟩) :=
  ⟨c.addRoute_calls_standard dp s (not_refuses h4), c.addRoute_calls_nat dp s (not_refuses h4),
    c.addRoute_calls_lb dp s⟩

/-- Outside IPv4-only refusals, a standard next hop deletes the prefix in
the announcing VNI and in every peer, with no allow-list consulted; a NAT next hop deletes its NAT
entry; a load-balancer target is deleted from the load balancer registered under the announcing
VNI, and nothing is called when there is none. -/
theorem removeRoute_calls (vni : UInt32) (dest : Destination) (hop : NextHop)
    (h4 : c.config.ipv4Only = false ∨ dest.ipVersion = .IPV4) :
    (hop.type = .STANDARD →
      (c.removeRoute dp s vni dest hop).calls =
        (vni :: (c.metalnetCache.getPeerVnis vni).1.unsortedList).map
          fun p => .deleteRoute p dest.ipPrefix) ∧
    (hop.type = .NAT →
      (c.removeRoute dp s vni dest hop).calls =
        [.deleteNeighborNat ⟨dest.ipPrefix.addr, vni, hop.natPortRangeFrom.toUInt32,
          hop.natPortRangeTo.toUInt32, hop.targetAddress⟩]) ∧
    (hop.type = .LOADBALANCER_TARGET →
      (c.removeRoute dp s vni dest hop).calls =
        ((c.metalnetCache.loadBalancerServer vni dest.ipPrefix.addr.string).map
          fun uid => .deleteLoadBalancerTarget uid hop.targetAddress).toList) := by
  refine ⟨c.removeRoute_calls_standard dp s (not_refuses h4),
    c.removeRoute_calls_nat dp s (not_refuses h4), fun h => ?_⟩
  cases huid : c.metalnetCache.loadBalancerServer vni dest.ipPrefix.addr.string with
  | some uid => exact c.removeRoute_calls_lb dp s (not_refuses h4) h huid
  | none =>
    rw [removeRoute_calls_eq, c.removeRouteEffects_of_ne (by simp [h]),
      removeLocalRoute_lb_none (not_refuses h4) h huid]
    rfl

/-! ## Fixed topologies -/

/-- A topology cache that knows no VNI. -/
def unknownVniClient : MetalnetClient :=
  ⟨⟨false, none⟩, ⟨fun _ => none, fun _ => none, fun _ _ => none⟩⟩

/-- VNIs 1 and 2 peered with each other. -/
def pairedClient : MetalnetClient :=
  ⟨⟨false, none⟩, ⟨fun v => if v = 1 then some ⟨[2], by decide⟩
    else if v = 2 then some ⟨[1], by decide⟩ else none, fun _ => none, fun _ _ => none⟩⟩

theorem pairedClient_peers (w : UInt32) :
    pairedClient.peers w = if w = 1 then [2] else if w = 2 then [1] else [] := by
  unfold peers MetalnetCache.getPeerVnis pairedClient
  by_cases h1 : w = 1 <;> by_cases h2 : w = 2 <;> simp [h1, h2, PeerSet.empty]

theorem pairedClient_symm (p w : UInt32) : p ∈ pairedClient.peers w ↔ w ∈ pairedClient.peers p := by
  simp only [pairedClient_peers]
  split_ifs <;> simp_all

/-- `10.0.0.0/24` as an IPv4 destination. -/
def net10 : Destination := ⟨.IPV4, ⟨.v4 0x0a000000, 24, rfl, by decide, by decide⟩⟩

/-- A standard next hop at an underlay address. -/
def standardHop (ip : Addr) : NextHop := ⟨ip, .STANDARD, 0, 0⟩

theorem addRoute_calls_paired :
    (pairedClient.config.ipv4Only = false ∨ net10.ipVersion = .IPV4) ∧
    ((standardHop (.v4 0x0a000001)).type = .STANDARD →
      (pairedClient.addRoute Dataplane.succeeding () 1 net10 (standardHop (.v4 0x0a000001))).calls =
        (1 :: ((pairedClient.metalnetCache.getPeerVnis 1).1.unsortedList.filter fun p =>
          (pairedClient.metalnetCache.peeredPrefixes 1).all fun F => (F p).all fun l =>
            l.any fun q => q.contains net10.ipPrefix.addr)).map
          fun p =>
            .createRoute ⟨p, net10.ipPrefix, ⟨1, (standardHop (.v4 0x0a000001)).targetAddress⟩⟩) ∧
    ((standardHop (.v4 0x0a000001)).type = .NAT →
      (pairedClient.addRoute Dataplane.succeeding () 1 net10 (standardHop (.v4 0x0a000001))).calls =
        [.createNeighborNat ⟨net10.ipPrefix.addr, 1,
          (standardHop (.v4 0x0a000001)).natPortRangeFrom.toUInt32,
          (standardHop (.v4 0x0a000001)).natPortRangeTo.toUInt32,
          (standardHop (.v4 0x0a000001)).targetAddress⟩]) ∧
    ((standardHop (.v4 0x0a000001)).type = .LOADBALANCER_TARGET →
      (pairedClient.addRoute Dataplane.succeeding () 1 net10 (standardHop (.v4 0x0a000001))).calls.length
        ≤ 1 ∧
        ∀ call ∈ (pairedClient.addRoute Dataplane.succeeding () 1 net10
          (standardHop (.v4 0x0a000001))).calls, ∃ uid,
          pairedClient.metalnetCache.loadBalancerServer 1 net10.ipPrefix.addr.string = some uid ∧
            call = .createLoadBalancerTarget ⟨uid, (standardHop (.v4 0x0a000001)).targetAddress⟩) :=
  ⟨.inl rfl, pairedClient.addRoute_calls Dataplane.succeeding () 1 net10 _ (.inl rfl)⟩

theorem removeRoute_calls_paired :
    (pairedClient.config.ipv4Only = false ∨ net10.ipVersion = .IPV4) ∧
    ((standardHop (.v4 0x0a000001)).type = .STANDARD →
      (pairedClient.removeRoute Dataplane.succeeding () 1 net10 (standardHop (.v4 0x0a000001))).calls =
        (1 :: (pairedClient.metalnetCache.getPeerVnis 1).1.unsortedList).map
          fun p => .deleteRoute p net10.ipPrefix) ∧
    ((standardHop (.v4 0x0a000001)).type = .NAT →
      (pairedClient.removeRoute Dataplane.succeeding () 1 net10 (standardHop (.v4 0x0a000001))).calls =
        [.deleteNeighborNat ⟨net10.ipPrefix.addr, 1,
          (standardHop (.v4 0x0a000001)).natPortRangeFrom.toUInt32,
          (standardHop (.v4 0x0a000001)).natPortRangeTo.toUInt32,
          (standardHop (.v4 0x0a000001)).targetAddress⟩]) ∧
    ((standardHop (.v4 0x0a000001)).type = .LOADBALANCER_TARGET →
      (pairedClient.removeRoute Dataplane.succeeding () 1 net10 (standardHop (.v4 0x0a000001))).calls =
        ((pairedClient.metalnetCache.loadBalancerServer 1 net10.ipPrefix.addr.string).map
          fun uid => .deleteLoadBalancerTarget uid (standardHop (.v4 0x0a000001)).targetAddress).toList) :=
  ⟨.inl rfl, pairedClient.removeRoute_calls Dataplane.succeeding () 1 net10 _ (.inl rfl)⟩

end MetalnetClient

end Metalnet.Metalbond
