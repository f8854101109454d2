import Metalnet.Proofs.Tables

/-!
# Cleaning up unpeered routes

`CleanupNotPeeredRoutes` deletes the listed routes whose next hop is neither the VNI nor one of
its peers, but only when the topology cache knows the VNI: for an unknown VNI the `ok` flag of
`GetPeerVnis` is false and nothing is deleted (`cleanupNotPeeredRoutes_deletes_unpeered`). The
first delete that fails ends the cleanup with its error (`cleanupNotPeeredRoutes_outcome`).

With symmetric peering, every route the callbacks install has its own VNI or a peer as next hop,
and that stays so over any run of announcements, withdrawals and cleanups; so a cleanup never
finds anything to delete, and a second cleanup never deletes more than the first
(`cleanupNotPeeredRoutes_removes_nothing`).

Whatever peering built the tables, a sweep of cleanups under the cache's current peering leaves
every route of a swept VNI the cache knows going through that VNI or one of its peers
(`replay_cleanups_peered`).
-/

namespace Metalnet.Metalbond

namespace MetalnetClient

variable {σ : Type} (dp : Dataplane σ) (vni : UInt32) (set : PeerSet) (ok : Bool)

/-- The loop issues its deletes and returns nil when every delete of the VNI succeeds. -/
theorem cleanupLoop_of_deletes_succeed
    (hdel : ∀ s p, (dp.exec s (.deleteRoute vni p)).2.err [.NO_VNI, .ROUTE_NOT_FOUND] = none) :
    ∀ (s : σ) (routes : List Route),
      (cleanupLoop dp vni set ok s routes).2.2 = none ∧
        (cleanupLoop dp vni set ok s routes).2.1.map Prod.fst =
          (routes.filter (stale vni set ok)).map fun r => .deleteRoute vni r.ipPrefix
  | s, [] => ⟨rfl, rfl⟩
  | s, r :: routes => by
    unfold cleanupLoop
    by_cases hr : stale vni set ok r = true
    · simp only [hr, if_true, hdel, List.filter_cons_of_pos hr, List.map_cons]
      obtain ⟨h1, h2⟩ := cleanupLoop_of_deletes_succeed hdel _ routes
      exact ⟨h1, by rw [h2]⟩
    · simp only [hr, Bool.false_eq_true, if_false, List.filter_cons_of_neg hr]
      exact cleanupLoop_of_deletes_succeed hdel s routes

/-- The loop's state is its deletes applied in order. -/
theorem cleanupLoop_state :
    ∀ (s : σ) (routes : List Route),
      (cleanupLoop dp vni set ok s routes).1 =
        ((cleanupLoop dp vni set ok s routes).2.1.map Prod.fst).foldl
          (fun s call => (dp.exec s call).1) s
  | s, [] => rfl
  | s, r :: routes => by
    unfold cleanupLoop
    split
    · split
      · rfl
      · exact cleanupLoop_state _ routes
    · exact cleanupLoop_state s routes

theorem cleanupLoop_deletes :
    ∀ (s : σ) (routes : List Route), ∀ x ∈ (cleanupLoop dp vni set ok s routes).2.1,
      ∃ p, x.1 = .deleteRoute vni p
  | s, [], x, hx => by simp [cleanupLoop] at hx
  | s, r :: routes, x, hx => by
    unfold cleanupLoop at hx
    split at hx
    · split at hx
      · rw [List.mem_singleton] at hx; exact ⟨_, by rw [hx]⟩
      · rcases List.mem_cons.1 hx with rfl | hx
        · exact ⟨_, rfl⟩
        · exact cleanupLoop_deletes _ routes x hx
    · exact cleanupLoop_deletes s routes x hx

theorem cleanupLoop_of_not_stale :
    ∀ (s : σ) (routes : List Route), (∀ r ∈ routes, stale vni set ok r = false) →
      cleanupLoop dp vni set ok s routes = (s, [], none)
  | s, [], _ => rfl
  | s, r :: routes, h => by
    rw [cleanupLoop, if_neg (by simp [h r (List.mem_cons_self _ _)])]
    exact cleanupLoop_of_not_stale s routes fun r' hr' => h r' (List.mem_cons_of_mem _ hr')

/-- When the listing and every delete succeed, the cleanup returns nil after deleting, in order, the
listed routes whose next hop is neither the VNI nor a peer of it, if the topology cache knows the
VNI's peers; for a VNI it does not know it deletes nothing. -/
theorem cleanupNotPeeredRoutes_deletes_unpeered (c : MetalnetClient) (s : σ)
    (routes : List Route) (hlist : dp.listRoutes s vni = .ok routes)
    (hdel : ∀ s p, (dp.exec s (.deleteRoute vni p)).2.err [.NO_VNI, .ROUTE_NOT_FOUND] = none) :
    (c.cleanupNotPeeredRoutes dp s vni).2.2 = none ∧
      (c.cleanupNotPeeredRoutes dp s vni).2.1.map Prod.fst =
        match c.metalnetCache.peerVnis vni with
        | some S =>
          (routes.filter fun r => r.nextHop.vni ≠ vni ∧ r.nextHop.vni ∉ S.unsortedList).map
            fun r => .deleteRoute vni r.ipPrefix
        | none => [] := by
  unfold cleanupNotPeeredRoutes
  rw [hlist]
  refine ⟨(cleanupLoop_of_deletes_succeed dp vni _ _ hdel s routes).1, ?_⟩
  rw [(cleanupLoop_of_deletes_succeed dp vni _ _ hdel s routes).2]
  unfold MetalnetCache.getPeerVnis
  cases c.metalnetCache.peerVnis vni with
  | none => simp [stale]
  | some S =>
    exact congrArg _ (List.filter_congr fun r _ => by
      simp [stale, PeerSet.has, bne, Bool.beq_eq_decide_eq])

/-- A route of VNI 1 for `10.0.0.0/24` whose next hop is in VNI 2. -/
def strayRoute : Route :=
  ⟨1, ⟨.v4 0x0a000000, 24, rfl, by decide, by decide⟩, ⟨2, .v4 0x0a000001⟩⟩

/-- A route of VNI 1 for `10.1.0.0/16` whose next hop is in VNI 3. -/
def unpeeredRoute : Route :=
  ⟨1, ⟨.v4 0x0a010000, 16, rfl, by decide, by decide⟩, ⟨3, .v4 0x0a000002⟩⟩

/-- A dataplane that lists `routes` and accepts every call. -/
def listing (routes : List Route) : Dataplane Unit :=
  ⟨fun _ _ => ((), .ok), fun _ _ => .ok routes⟩

theorem cleanupNotPeeredRoutes_deletes_unpeered_paired :
    (listing [strayRoute, unpeeredRoute]).listRoutes () 1 = .ok [strayRoute, unpeeredRoute] ∧
    (∀ s p, ((listing [strayRoute, unpeeredRoute]).exec s (.deleteRoute 1 p)).2.err
      [.NO_VNI, .ROUTE_NOT_FOUND] = none) ∧
    (pairedClient.cleanupNotPeeredRoutes (listing [strayRoute, unpeeredRoute]) () 1).2.2 = none ∧
    (pairedClient.cleanupNotPeeredRoutes (listing [strayRoute, unpeeredRoute]) () 1).2.1.map
        Prod.fst =
      match pairedClient.metalnetCache.peerVnis 1 with
      | some S =>
        ([strayRoute, unpeeredRoute].filter fun r =>
          r.nextHop.vni ≠ 1 ∧ r.nextHop.vni ∉ S.unsortedList).map
            fun r => .deleteRoute 1 r.ipPrefix
      | none => [] :=
  ⟨rfl, fun _ _ => rfl, cleanupNotPeeredRoutes_deletes_unpeered (listing [strayRoute, unpeeredRoute]) 1
    pairedClient () [strayRoute, unpeeredRoute] rfl fun _ _ => rfl⟩

/-- With the peer set of VNI 1 absent, a route of it through VNI 2 is not deleted, although
reading the absent set as empty makes it stale. -/
theorem cleanupNotPeeredRoutes_keeps_routes_of_unknown_vni :
    (unknownVniClient.cleanupNotPeeredRoutes (listing [strayRoute]) () 1).2.1.map Prod.fst ≠
      ([strayRoute].filter fun r => r.nextHop.vni ≠ 1 ∧ r.nextHop.vni ∉ ([] : List UInt32)).map
        fun r => .deleteRoute 1 r.ipPrefix := by
  decide

theorem stale_eq_false {r : Route} (h : r.nextHop.vni = vni ∨ r.nextHop.vni ∈ set.unsortedList) :
    stale vni set ok r = false := by
  rcases h with h | h <;> simp [stale, PeerSet.has, h]

/-! ## Cleanup on the dataplane's tables -/

theorem deleteRoute_map_isCreate {routes : List Route} :
    ∀ call ∈ routes.map (fun r => Call.deleteRoute vni r.ipPrefix), call.isCreate = false := by
  simp only [List.mem_map]
  rintro _ ⟨r, -, rfl⟩
  rfl

section Tables

variable (c : MetalnetClient) (key : RouteKey) (t : Tables) (v : UInt32)

theorem Tables.deleteRoute_err (s : Tables) (p : Prefix) :
    ((Tables.dataplane key).exec s (.deleteRoute v p)).2.err [.NO_VNI, .ROUTE_NOT_FOUND] = none := by
  show (Tables.deleteRouteIn s.routes v p).2.err _ = none
  unfold Tables.deleteRouteIn; split <;> rfl

/-- On the tables no delete of the cleanup fails: it deletes the listed stale routes. -/
theorem cleanupNotPeeredRoutes_tables :
    (c.cleanupNotPeeredRoutes (Tables.dataplane key) t v).2.2 = none ∧
      (c.cleanupNotPeeredRoutes (Tables.dataplane key) t v).1 =
        Tables.execAll key t
          (((t.routes.filter fun r => r.vni == v).filter
            (stale v (c.metalnetCache.getPeerVnis v).1 (c.metalnetCache.getPeerVnis v).2)).map
              fun r => .deleteRoute v r.ipPrefix) := by
  obtain ⟨h1, h2⟩ := cleanupLoop_of_deletes_succeed (Tables.dataplane key) v _ _
    (Tables.deleteRoute_err key v) t (t.routes.filter fun r => r.vni == v)
  exact ⟨h1, (cleanupLoop_state _ _ _ _ _ _).trans (by rw [h2]; rfl)⟩

theorem mem_routes_cleanupNotPeeredRoutes {r : Route}
    (h : r ∈ (c.cleanupNotPeeredRoutes (Tables.dataplane key) t v).1.routes) : r ∈ t.routes := by
  rw [(cleanupNotPeeredRoutes_tables c key t v).2] at h
  exact Tables.mem_routes_execAll_of_deletes key t (deleteRoute_map_isCreate v) h

/-- A cleanup that finds no stale route of the VNI issues nothing. -/
theorem cleanupNotPeeredRoutes_nil
    (h : ∀ r ∈ t.routes, r.vni = v →
      stale v (c.metalnetCache.getPeerVnis v).1 (c.metalnetCache.getPeerVnis v).2 r = false) :
    (c.cleanupNotPeeredRoutes (Tables.dataplane key) t v).2.1 = [] := by
  show (cleanupLoop _ v _ _ t (t.routes.filter fun r => r.vni == v)).2.1 = []
  rw [cleanupLoop_of_not_stale]
  intro r hr
  obtain ⟨hr, hv⟩ := List.mem_filter.1 hr
  exact h r hr (beq_iff_eq.1 hv)

/-- After a cleanup of a VNI none of its routes is stale: each stale one had its prefix
deleted. -/
theorem cleanupNotPeeredRoutes_not_stale {r : Route}
    (hr : r ∈ (c.cleanupNotPeeredRoutes (Tables.dataplane key) t v).1.routes) (hv : r.vni = v) :
    stale v (c.metalnetCache.getPeerVnis v).1 (c.metalnetCache.getPeerVnis v).2 r = false := by
  refine Bool.eq_false_iff.2 fun hs => ?_
  have hheld : Tables.holds (c.cleanupNotPeeredRoutes (Tables.dataplane key) t v).1
      (.route r.vni r.ipPrefix) = true := Tables.hasRoute_iff.2 ⟨r, hr, rfl, rfl⟩
  have hlisted := mem_routes_cleanupNotPeeredRoutes c key t v hr
  rw [(cleanupNotPeeredRoutes_tables c key t v).2,
    Tables.holds_execAll_deletes key t _ (deleteRoute_map_isCreate v)] at hheld
  refine hheld.2 (.deleteRoute v r.ipPrefix) (List.mem_map_of_mem _ ?_) (by rw [hv]; rfl)
  exact List.mem_filter.2 ⟨List.mem_filter.2 ⟨hlisted, beq_iff_eq.2 hv⟩, hs⟩

/-- A second cleanup of the same VNI issues no delete. -/
theorem cleanupNotPeeredRoutes_twice_nil :
    (c.cleanupNotPeeredRoutes (Tables.dataplane key)
      (c.cleanupNotPeeredRoutes (Tables.dataplane key) t v).1 v).2.1 = [] :=
  cleanupNotPeeredRoutes_nil c key _ v fun _ hr hv => cleanupNotPeeredRoutes_not_stale c key t v hr hv

end Tables

/-! ## Routes through peers -/

/-- Every route of the tables has its own VNI or a peer of it as next hop. -/
def PeeredNextHops (c : MetalnetClient) (t : Tables) : Prop :=
  ∀ r ∈ t.routes, r.nextHop.vni = r.vni ∨ r.nextHop.vni ∈ c.peers r.vni

namespace PeeredNextHops

variable {c : MetalnetClient} (key : RouteKey) {t : Tables}

theorem empty : PeeredNextHops c Tables.empty := fun _ h => by simp [Tables.empty] at h

theorem removeRoute (h : PeeredNextHops c t) (vni : UInt32) (dest : Destination) (hop : NextHop) :
    PeeredNextHops c (c.removeRoute (Tables.dataplane key) t vni dest hop).state := fun r hr => by
  rw [removeRoute_state] at hr
  exact h r (Tables.mem_routes_execAll_of_deletes key t (fun _ hd => removeRoute_isCreate c _ t hd) hr)

theorem cleanupNotPeeredRoutes (h : PeeredNextHops c t) (v : UInt32) :
    PeeredNextHops c (c.cleanupNotPeeredRoutes (Tables.dataplane key) t v).1 := fun r hr =>
  h r (mem_routes_cleanupNotPeeredRoutes c key t v hr)

variable (hsym : ∀ p w, p ∈ c.peers w ↔ w ∈ c.peers p)
include hsym

/-- With symmetric peering an announcement keeps every route going through a peer: it creates
routes in peers of the announcing VNI, through the announcing VNI. -/
theorem addRoute (h : PeeredNextHops c t) (vni : UInt32) (dest : Destination) (hop : NextHop) :
    PeeredNextHops c (c.addRoute (Tables.dataplane key) t vni dest hop).state := fun r hr => by
  rw [addRoute_state] at hr
  rcases Tables.mem_routes_execAll key t _ hr with hr | hr
  · exact h r hr
  · obtain ⟨hnh, hv | hv⟩ := addRoute_createRoute c _ t hr
    · exact .inl (hnh.trans hv.symm)
    · exact .inr (hnh ▸ (hsym _ _).1 hv)

theorem apply (h : PeeredNextHops c t) : ∀ e : Event, PeeredNextHops c (e.apply c key t)
  | .addRoute a => h.addRoute key hsym a.vni a.dest a.hop
  | .removeRoute a => h.removeRoute key a.vni a.dest a.hop
  | .cleanupNotPeeredRoutes v => h.cleanupNotPeeredRoutes key v

theorem replay : ∀ (t : Tables) (events : List Event), PeeredNextHops c t →
    PeeredNextHops c (Metalbond.replay c key t events)
  | _, [], h => h
  | _, e :: events, h => replay _ events (h.apply key hsym e)

end PeeredNextHops

/-! ## A sweep of cleanups -/

theorem peered_of_stale_eq_false {r : Route} (hok : ok = true) (h : stale vni set ok r = false) :
    r.nextHop.vni = vni ∨ r.nextHop.vni ∈ set.unsortedList := by
  by_cases hv : r.nextHop.vni = vni
  · exact .inl hv
  · simpa [stale, PeerSet.has, hok, hv] using h

/-- A cleanup only deletes, so a sweep of cleanups keeps no route the tables did not hold. -/
theorem mem_routes_replay_cleanups (c : MetalnetClient) (key : RouteKey) {r : Route} :
    ∀ (t : Tables) (vs : List UInt32),
      r ∈ (replay c key t (vs.map .cleanupNotPeeredRoutes)).routes → r ∈ t.routes
  | _, [], h => h
  | t, v :: vs, h =>
    mem_routes_cleanupNotPeeredRoutes c key t v (mem_routes_replay_cleanups c key _ vs h)

/-- From any tables, whatever peering built them, after cleanups of the VNIs `vs` under the cache's
current peering, every route of a swept VNI that the cache knows has that VNI or one of its peers as
next hop. -/
theorem replay_cleanups_peered (c : MetalnetClient) (key : RouteKey) :
    ∀ (t : Tables) (vs : List UInt32) (r : Route),
      r ∈ (replay c key t (vs.map .cleanupNotPeeredRoutes)).routes → r.vni ∈ vs →
        (c.metalnetCache.getPeerVnis r.vni).2 = true →
          r.nextHop.vni = r.vni ∨ r.nextHop.vni ∈ c.peers r.vni
  | _, [], _, _, hv, _ => absurd hv (List.not_mem_nil _)
  | t, v :: vs, r, hr, hv, hk => by
    by_cases hin : r.vni ∈ vs
    · exact replay_cleanups_peered c key _ vs r hr hin hk
    · obtain rfl : r.vni = v := (List.mem_cons.1 hv).resolve_right hin
      exact peered_of_stale_eq_false _ _ _ hk (cleanupNotPeeredRoutes_not_stale c key t _
        (mem_routes_replay_cleanups c key _ vs hr) rfl)

/-- A sweep of VNI 1 under the pairing of VNIs 1 and 2 keeps its route through VNI 2. -/
theorem replay_cleanups_peered_paired :
    strayRoute ∈ (replay pairedClient .byPrefix ⟨[strayRoute, unpeeredRoute], [], []⟩
      ([1].map .cleanupNotPeeredRoutes)).routes ∧ strayRoute.vni ∈ [1] ∧
    (pairedClient.metalnetCache.getPeerVnis strayRoute.vni).2 = true ∧
    (strayRoute.nextHop.vni = strayRoute.vni ∨
      strayRoute.nextHop.vni ∈ pairedClient.peers strayRoute.vni) :=
  have hr : strayRoute ∈ (replay pairedClient .byPrefix ⟨[strayRoute, unpeeredRoute], [], []⟩
      ([1].map .cleanupNotPeeredRoutes)).routes := by decide
  ⟨hr, by decide, by decide,
    replay_cleanups_peered pairedClient .byPrefix _ [1] strayRoute hr (by decide) (by decide)⟩

theorem cleanupNotPeeredRoutes_nil_of_peered {c : MetalnetClient} (key : RouteKey) {t : Tables}
    (h : PeeredNextHops c t) (v : UInt32) :
    (c.cleanupNotPeeredRoutes (Tables.dataplane key) t v).2.1 = [] :=
  cleanupNotPeeredRoutes_nil c key t v fun r hr hv => stale_eq_false _ _ _ (hv ▸ h r hr)

/-- With symmetric peering, on every table the callbacks reach from the empty one, a cleanup of any
VNI issues no delete; and from any table, a cleanup returns nil and a second cleanup of the same VNI
issues no delete. -/
theorem cleanupNotPeeredRoutes_removes_nothing (c : MetalnetClient)
    (hsym : ∀ p w, p ∈ c.peers w ↔ w ∈ c.peers p) (key : RouteKey) :
    (∀ (events : List Event) (v : UInt32),
      (c.cleanupNotPeeredRoutes (Tables.dataplane key)
        (replay c key Tables.empty events) v).2.1 = []) ∧
    ∀ (t : Tables) (v : UInt32),
      (c.cleanupNotPeeredRoutes (Tables.dataplane key) t v).2.2 = none ∧
        (c.cleanupNotPeeredRoutes (Tables.dataplane key)
          (c.cleanupNotPeeredRoutes (Tables.dataplane key) t v).1 v).2.1 = [] :=
  ⟨fun events v => cleanupNotPeeredRoutes_nil_of_peered key
      (PeeredNextHops.replay key hsym _ events PeeredNextHops.empty) v,
    fun t v =>
      ⟨(cleanupNotPeeredRoutes_tables c key t v).1, cleanupNotPeeredRoutes_twice_nil c key t v⟩⟩

theorem cleanupNotPeeredRoutes_removes_nothing_paired :
    (∀ p w, p ∈ pairedClient.peers w ↔ w ∈ pairedClient.peers p) ∧
    (∀ (events : List Event) (v : UInt32),
      (pairedClient.cleanupNotPeeredRoutes (Tables.dataplane .byPrefix)
        (replay pairedClient .byPrefix Tables.empty events) v).2.1 = []) ∧
    ∀ (t : Tables) (v : UInt32),
      (pairedClient.cleanupNotPeeredRoutes (Tables.dataplane .byPrefix) t v).2.2 = none ∧
        (pairedClient.cleanupNotPeeredRoutes (Tables.dataplane .byPrefix)
          (pairedClient.cleanupNotPeeredRoutes (Tables.dataplane .byPrefix) t v).1 v).2.1 = [] :=
  ⟨pairedClient_symm, cleanupNotPeeredRoutes_removes_nothing pairedClient pairedClient_symm .byPrefix⟩

end MetalnetClient

end Metalnet.Metalbond
