import Metalnet.Proofs.Cleanup

/-!
# Routes of the live announcements

Runs of announcements and withdrawals with standard next hops, each announcement added when it
is not live and withdrawn when it is (live: added and not yet withdrawn). Every route the tables
hold is one that a live announcement installs: in its own VNI, or in a peer whose allow-list
admits it. The converse fails: `RemoveRoute` deletes by VNI and prefix, so withdrawing one of two
next hops announced for a prefix takes the other's route too
(`replay_withdrawal_drops_live_twin`). It holds for the runs in which no withdrawal reaches a
route that another live announcement installs (`replay_holds_routes_of_live`).

When the topology changes between an announcement and its withdrawal, a peer that is dropped is
no longer reached by `RemoveRoute`, and the route installed there stays until
`CleanupNotPeeredRoutes` of that VNI deletes it (`cleanupNotPeeredRoutes_after_dropped_peering`).
-/

namespace Metalnet.Metalbond

/-- The live announcements after an event. -/
def Event.live (L : List Announcement) : Event → List Announcement
  | .addRoute a => a :: L
  | .removeRoute a => L.erase a
  | .cleanupNotPeeredRoutes _ => L

/-- The announcements added and not yet withdrawn, after the events. -/
def live (L : List Announcement) (events : List Event) : List Announcement :=
  events.foldl Event.live L

/-- Every event meets `P` given the announcements live before it. -/
def EachEvent (P : List Announcement → Event → Prop) : List Announcement → List Event → Prop
  | _, [] => True
  | L, e :: events => P L e ∧ EachEvent P (e.live L) events

instance EachEvent.instDecidable {P : List Announcement → Event → Prop}
    [∀ L e, Decidable (P L e)] : ∀ L events, Decidable (EachEvent P L events)
  | _, [] => isTrue trivial
  | L, e :: events =>
    @instDecidableAnd _ _ _ (EachEvent.instDecidable (e.live L) events)

namespace MetalnetClient

variable (c : MetalnetClient)

/-- An announcement installs a route for its prefix in its own VNI and in each peer whose
allow-list admits its destination. -/
def Installs (a : Announcement) (v : UInt32) (P : Prefix) : Prop :=
  a.dest.ipPrefix = P ∧ (v = a.vni ∨ v ∈ c.peers a.vni ∧ c.Admitted a.vni v a.dest = true)

instance (a : Announcement) (v : UInt32) (P : Prefix) : Decidable (c.Installs a v P) :=
  inferInstanceAs (Decidable (a.dest.ipPrefix = P ∧
    (v = a.vni ∨ v ∈ c.peers a.vni ∧ c.Admitted a.vni v a.dest = true)))

/-- The runs the law is about: standard next hops that the IPv4-only mode does not refuse, each
announcement added when not live and withdrawn when live. -/
def ValidEvent (L : List Announcement) : Event → Prop
  | .addRoute a =>
    a ∉ L ∧ a.hop.type = .STANDARD ∧ (c.config.ipv4Only = false ∨ a.dest.ipVersion = .IPV4)
  | .removeRoute a =>
    a ∈ L ∧ a.hop.type = .STANDARD ∧ (c.config.ipv4Only = false ∨ a.dest.ipVersion = .IPV4)
  | .cleanupNotPeeredRoutes _ => False

instance (L : List Announcement) : ∀ e, Decidable (c.ValidEvent L e)
  | .addRoute a => inferInstanceAs (Decidable (a ∉ L ∧ a.hop.type = .STANDARD ∧
      (c.config.ipv4Only = false ∨ a.dest.ipVersion = .IPV4)))
  | .removeRoute a => inferInstanceAs (Decidable (a ∈ L ∧ a.hop.type = .STANDARD ∧
      (c.config.ipv4Only = false ∨ a.dest.ipVersion = .IPV4)))
  | .cleanupNotPeeredRoutes _ => isFalse id

/-- A withdrawal spares the other live announcements: none of them installs the withdrawn prefix
in a VNI whose route `RemoveRoute` deletes. -/
def Isolated (L : List Announcement) : Event → Prop
  | .removeRoute a =>
    ∀ b ∈ L.erase a, ∀ v ∈ a.vni :: c.peers a.vni, ¬ c.Installs b v a.dest.ipPrefix
  | _ => True

instance (L : List Announcement) : ∀ e, Decidable (c.Isolated L e)
  | .removeRoute a => inferInstanceAs
      (Decidable (∀ b ∈ L.erase a, ∀ v ∈ a.vni :: c.peers a.vni, ¬ c.Installs b v a.dest.ipPrefix))
  | .addRoute _ | .cleanupNotPeeredRoutes _ => isTrue trivial

/-- Every route held is installed by a live announcement. -/
def Sound (L : List Announcement) (t : Tables) : Prop :=
  ∀ v P, t.holds (.route v P) = true → ∃ a ∈ L, c.Installs a v P

/-- Every route a live announcement installs is held. -/
def Complete (L : List Announcement) (t : Tables) : Prop :=
  ∀ a ∈ L, ∀ v P, c.Installs a v P → t.holds (.route v P) = true

variable {c} (key : RouteKey) (t : Tables) {a : Announcement}

/-- `RemoveRoute` deletes the routes of the prefix in every VNI an announcement installs in. -/
theorem Installs.reach {v : UInt32} {P : Prefix} (h : c.Installs a v P) :
    a.dest.ipPrefix = P ∧ v ∈ a.vni :: c.peers a.vni := by
  obtain ⟨hP, rfl | ⟨hv, -⟩⟩ := h
  · exact ⟨hP, List.mem_cons_self _ _⟩
  · exact ⟨hP, List.mem_cons_of_mem _ hv⟩

/-- The routes created in the VNIs of a list are those of the listed VNIs. -/
theorem exists_createRoute_target {vnis : List UInt32} {Q P : Prefix} {nh : RouteNextHop}
    {v : UInt32} :
    (∃ call ∈ vnis.map fun p => Call.createRoute ⟨p, Q, nh⟩, call.target = .route v P) ↔
      Q = P ∧ v ∈ vnis := by
  simp only [List.mem_map, exists_exists_and_eq_and, Call.target, Object.route.injEq]
  constructor
  · rintro ⟨p, hp, rfl, rfl⟩
    exact ⟨rfl, hp⟩
  · rintro ⟨rfl, hv⟩
    exact ⟨v, hv, rfl, rfl⟩

theorem forall_deleteRoute_target {vnis : List UInt32} {Q P : Prefix} {v : UInt32} :
    (∀ call ∈ vnis.map fun p => Call.deleteRoute p Q, call.target ≠ .route v P) ↔
      ¬ (Q = P ∧ v ∈ vnis) := by
  simp only [List.forall_mem_map, Call.target, ne_eq, Object.route.injEq]
  constructor
  · rintro h ⟨rfl, hv⟩
    exact h v hv ⟨rfl, rfl⟩
  · rintro h p hp ⟨rfl, rfl⟩
    exact h ⟨rfl, hp⟩

theorem holds_addRoute (h4 : ¬ c.Refuses a.dest) (hs : a.hop.type = .STANDARD) (v : UInt32)
    (P : Prefix) :
    (c.addRoute (Tables.dataplane key) t a.vni a.dest a.hop).state.holds (.route v P) = true ↔
      t.holds (.route v P) = true ∨ c.Installs a v P := by
  rw [addRoute_state, Tables.holds_execAll_creates key t _ fun _ h => addRoute_isCreate c _ t h,
    addRoute_calls_standard c _ t h4 hs, exists_createRoute_target]
  simp only [Installs, List.mem_cons, List.mem_filter]

theorem holds_removeRoute (h4 : ¬ c.Refuses a.dest) (hs : a.hop.type = .STANDARD) (v : UInt32)
    (P : Prefix) :
    (c.removeRoute (Tables.dataplane key) t a.vni a.dest a.hop).state.holds (.route v P) = true ↔
      t.holds (.route v P) = true ∧ ¬ (a.dest.ipPrefix = P ∧ v ∈ a.vni :: c.peers a.vni) := by
  rw [removeRoute_state,
    Tables.holds_execAll_deletes key t _ fun _ h => removeRoute_isCreate c _ t h,
    removeRoute_calls_standard c _ t h4 hs, forall_deleteRoute_target]

variable {L : List Announcement} {t}

theorem Sound.apply (h : c.Sound L t) : ∀ {e : Event}, c.ValidEvent L e →
    c.Sound (e.live L) (e.apply c key t)
  | .addRoute a, ⟨_, hs, h4⟩, v, P, hv => by
    rcases (holds_addRoute key t (not_refuses h4) hs v P).1 hv with hv | hv
    · obtain ⟨b, hb, hi⟩ := h v P hv
      exact ⟨b, List.mem_cons_of_mem _ hb, hi⟩
    · exact ⟨a, List.mem_cons_self _ _, hv⟩
  | .removeRoute a, ⟨_, hs, h4⟩, v, P, hv => by
    obtain ⟨hv, hne⟩ := (holds_removeRoute key t (not_refuses h4) hs v P).1 hv
    obtain ⟨b, hb, hi⟩ := h v P hv
    refine ⟨b, (List.mem_erase_of_ne ?_).2 hb, hi⟩
    rintro rfl
    exact hne hi.reach

theorem Complete.apply (h : c.Complete L t) : ∀ {e : Event}, c.ValidEvent L e → c.Isolated L e →
    c.Complete (e.live L) (e.apply c key t)
  | .addRoute a, ⟨_, hs, h4⟩, _, b, hb, v, P, hi => by
    refine (holds_addRoute key t (not_refuses h4) hs v P).2 ?_
    rcases List.mem_cons.1 hb with rfl | hb
    · exact .inr hi
    · exact .inl (h b hb v P hi)
  | .removeRoute a, ⟨_, hs, h4⟩, hiso, b, hb, v, P, hi => by
    refine (holds_removeRoute key t (not_refuses h4) hs v P).2 ?_
    refine ⟨h b (List.mem_of_mem_erase hb) v P hi, ?_⟩
    rintro ⟨rfl, hv⟩
    exact hiso b hb v hv hi

theorem Sound.replay : ∀ {L : List Announcement} {t : Tables} (events : List Event),
    EachEvent c.ValidEvent L events → c.Sound L t → c.Sound (live L events) (replay c key t events)
  | _, _, [], _, h => h
  | _, _, _ :: events, ⟨he, hv⟩, h => Sound.replay events hv (h.apply key he)

theorem Complete.replay : ∀ {L : List Announcement} {t : Tables} (events : List Event),
    EachEvent c.ValidEvent L events → EachEvent c.Isolated L events → c.Complete L t →
      c.Complete (live L events) (replay c key t events)
  | _, _, [], _, _, h => h
  | _, _, _ :: events, ⟨he, hv⟩, ⟨hi, hiso⟩, h => Complete.replay events hv hiso (h.apply key he hi)

/-- After any run of announcements and withdrawals with standard next hops from the empty tables,
each announcement added when not live and withdrawn when live, with the IPv4-only mode off or every
destination IPv4, every route a VNI holds for a prefix is installed by a live announcement; and when
no withdrawal reaches a route that another live announcement installs, every route a live
announcement installs is held. The runs are closed under prefixes, so this holds after every event.
-/
theorem replay_holds_routes_of_live (c : MetalnetClient) (key : RouteKey) (events : List Event)
    (hvalid : EachEvent c.ValidEvent [] events) :
    (∀ v P, (replay c key Tables.empty events).holds (.route v P) = true →
      ∃ a ∈ live [] events, c.Installs a v P) ∧
    (EachEvent c.Isolated [] events → ∀ v P, (∃ a ∈ live [] events, c.Installs a v P) →
      (replay c key Tables.empty events).holds (.route v P) = true) :=
  ⟨Sound.replay key events hvalid fun _ _ h => by simp [Tables.empty, Tables.holds, Tables.hasRoute] at h,
    fun hiso v P ⟨a, ha, hi⟩ =>
      Complete.replay key events hvalid hiso (fun _ h => by cases h) a ha v P hi⟩

/-- `10.1.0.0/16` as an IPv4 destination. -/
def net11 : Destination := ⟨.IPV4, ⟨.v4 0x0a010000, 16, rfl, by decide, by decide⟩⟩

/-- Announcements of two prefixes from the peered VNIs 1 and 2, and the first withdrawn. -/
def peeredRun : List Event :=
  [.addRoute ⟨1, net10, standardHop (.v4 0x0a000001)⟩,
    .addRoute ⟨2, net11, standardHop (.v4 0x0a000002)⟩,
    .removeRoute ⟨1, net10, standardHop (.v4 0x0a000001)⟩]

theorem replay_holds_routes_of_live_paired :
    EachEvent pairedClient.ValidEvent [] peeredRun ∧ EachEvent pairedClient.Isolated [] peeredRun ∧
    (∀ v P, (replay pairedClient .byPrefix Tables.empty peeredRun).holds (.route v P) = true →
      ∃ a ∈ live [] peeredRun, pairedClient.Installs a v P) ∧
    (EachEvent pairedClient.Isolated [] peeredRun → ∀ v P,
      (∃ a ∈ live [] peeredRun, pairedClient.Installs a v P) →
        (replay pairedClient .byPrefix Tables.empty peeredRun).holds (.route v P) = true) :=
  ⟨by decide, by decide, replay_holds_routes_of_live pairedClient .byPrefix peeredRun (by decide)⟩

/-- Two next hops announced for one prefix of VNI 1, and the first withdrawn. -/
def twinHops : List Event :=
  [.addRoute ⟨1, net10, standardHop (.v4 0x0a000001)⟩,
    .addRoute ⟨1, net10, standardHop (.v4 0x0a000002)⟩,
    .removeRoute ⟨1, net10, standardHop (.v4 0x0a000001)⟩]

/-- Withdrawing the first next hop deletes the route of VNI 1 for the prefix, whether the table
keeps one route per prefix or every entry, though the second announcement is live and installs
it there. -/
theorem replay_withdrawal_drops_live_twin :
    EachEvent unknownVniClient.ValidEvent [] twinHops ∧
    ∀ key, (replay unknownVniClient key Tables.empty twinHops).holds (.route 1 net10.ipPrefix) = false ∧
      ∃ a ∈ live [] twinHops, unknownVniClient.Installs a 1 net10.ipPrefix := by
  refine ⟨by decide, fun key => ?_⟩
  cases key <;> decide

/-! ## A peering dropped between an announcement and its withdrawal -/

/-- An announcement installs its route in an admitting peer `w`. If the peering is dropped before
the withdrawal, `RemoveRoute` no longer reaches `w` and the route stays there;
`CleanupNotPeeredRoutes` of `w`, with `w` known to the cache and the announcing VNI no longer its
peer, deletes it. -/
theorem cleanupNotPeeredRoutes_after_dropped_peering (c₁ c₂ : MetalnetClient) (key : RouteKey)
    (t : Tables) (a : Announcement) (w : UInt32) (hs : a.hop.type = .STANDARD)
    (h4₁ : c₁.config.ipv4Only = false ∨ a.dest.ipVersion = .IPV4)
    (h4₂ : c₂.config.ipv4Only = false ∨ a.dest.ipVersion = .IPV4)
    (hw : w ∈ c₁.peers a.vni) (hadm : c₁.Admitted a.vni w a.dest = true) (hne : w ≠ a.vni)
    (hdrop : w ∉ c₂.peers a.vni) (hknown : (c₂.metalnetCache.getPeerVnis w).2 = true)
    (hback : a.vni ∉ c₂.peers w) (ht : t.holds (.route w a.dest.ipPrefix) = false) :
    (c₂.removeRoute (Tables.dataplane key) (c₁.addRoute (Tables.dataplane key) t a.vni a.dest
        a.hop).state a.vni a.dest a.hop).state.holds (.route w a.dest.ipPrefix) = true ∧
    (c₂.cleanupNotPeeredRoutes (Tables.dataplane key)
        (c₂.removeRoute (Tables.dataplane key) (c₁.addRoute (Tables.dataplane key) t a.vni a.dest
          a.hop).state a.vni a.dest a.hop).state w).1.holds (.route w a.dest.ipPrefix) = false := by
  set t₁ := (c₁.addRoute (Tables.dataplane key) t a.vni a.dest a.hop).state with ht₁
  set t₂ := (c₂.removeRoute (Tables.dataplane key) t₁ a.vni a.dest a.hop).state with ht₂
  have h₁ : t₁.holds (.route w a.dest.ipPrefix) = true :=
    (holds_addRoute key t (not_refuses h4₁) hs w _).2 (.inr ⟨rfl, .inr ⟨hw, hadm⟩⟩)
  have h₂ : t₂.holds (.route w a.dest.ipPrefix) = true :=
    (holds_removeRoute key t₁ (not_refuses h4₂) hs w _).2
      ⟨h₁, fun ⟨_, hv⟩ => (List.mem_cons.1 hv).elim hne hdrop⟩
  refine ⟨h₂, Bool.eq_false_iff.2 fun hheld => ?_⟩
  -- the route left in `w` is the announcement's, through the announcing VNI
  obtain ⟨r, hr, hrv, hrp⟩ := Tables.hasRoute_iff.1 h₂
  have hr₁ : r ∈ t₁.routes := by
    rw [ht₂, removeRoute_state] at hr
    exact Tables.mem_routes_execAll_of_deletes key t₁ (fun _ hd => removeRoute_isCreate c₂ _ t₁ hd) hr
  have hnh : r.nextHop.vni = a.vni := by
    rw [ht₁, addRoute_state] at hr₁
    rcases Tables.mem_routes_execAll key t _ hr₁ with hr₀ | hc
    · exact absurd (Tables.hasRoute_iff.2 ⟨r, hr₀, hrv, hrp⟩) (by simpa [Tables.holds] using ht)
    · exact (addRoute_createRoute c₁ _ t hc).1
  have hstale : stale w (c₂.metalnetCache.getPeerVnis w).1 (c₂.metalnetCache.getPeerVnis w).2 r :=
    by simpa [stale, hnh, hknown, PeerSet.has, Ne.symm hne] using hback
  -- so the cleanup deletes the prefix in `w`
  rw [(cleanupNotPeeredRoutes_tables c₂ key t₂ w).2,
    Tables.holds_execAll_deletes key t₂ _ (deleteRoute_map_isCreate w)] at hheld
  refine hheld.2 (.deleteRoute w r.ipPrefix) (List.mem_map_of_mem _ ?_) (by rw [hrp]; rfl)
  exact List.mem_filter.2 ⟨List.mem_filter.2 ⟨hr, beq_iff_eq.2 hrv⟩, hstale⟩

/-- VNIs 1 and 2 known to the cache, with their peering dropped. -/
def unpeeredClient : MetalnetClient :=
  ⟨⟨false, none⟩, ⟨fun v => if v = 1 ∨ v = 2 then some PeerSet.empty else none, fun _ => none,
    fun _ _ => none⟩⟩

/-- `10.0.0.0/24` announced from VNI 1 while peered with VNI 2, withdrawn after the peering is
dropped, then VNI 2 cleaned up. -/
theorem cleanupNotPeeredRoutes_after_dropped_peering_net10 :
    (standardHop (.v4 0x0a000001)).type = .STANDARD ∧
    (pairedClient.config.ipv4Only = false ∨ net10.ipVersion = .IPV4) ∧
    (unpeeredClient.config.ipv4Only = false ∨ net10.ipVersion = .IPV4) ∧
    2 ∈ pairedClient.peers 1 ∧ pairedClient.Admitted 1 2 net10 = true ∧ (2 : UInt32) ≠ 1 ∧
    2 ∉ unpeeredClient.peers 1 ∧ (unpeeredClient.metalnetCache.getPeerVnis 2).2 = true ∧
    1 ∉ unpeeredClient.peers 2 ∧ Tables.empty.holds (.route 2 net10.ipPrefix) = false ∧
    (unpeeredClient.removeRoute (Tables.dataplane .byPrefix)
        (pairedClient.addRoute (Tables.dataplane .byPrefix) Tables.empty 1 net10
          (standardHop (.v4 0x0a000001))).state 1 net10
        (standardHop (.v4 0x0a000001))).state.holds (.route 2 net10.ipPrefix) = true ∧
    (unpeeredClient.cleanupNotPeeredRoutes (Tables.dataplane .byPrefix)
        (unpeeredClient.removeRoute (Tables.dataplane .byPrefix)
          (pairedClient.addRoute (Tables.dataplane .byPrefix) Tables.empty 1 net10
            (standardHop (.v4 0x0a000001))).state 1 net10
          (standardHop (.v4 0x0a000001))).state 2).1.holds (.route 2 net10.ipPrefix) = false :=
  ⟨rfl, .inl rfl, .inl rfl, by decide, by decide, by decide, by decide, rfl, by decide, rfl,
    cleanupNotPeeredRoutes_after_dropped_peering pairedClient unpeeredClient .byPrefix Tables.empty
      ⟨1, net10, standardHop (.v4 0x0a000001)⟩ 2 rfl (.inl rfl) (.inl rfl) (by decide) (by decide)
      (by decide) (by decide) rfl (by decide) rfl⟩

end MetalnetClient

end Metalnet.Metalbond
