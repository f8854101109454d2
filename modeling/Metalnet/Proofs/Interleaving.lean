import Metalnet.Proofs.Announcements
import Mathlib.Data.Set.Basic

/-!
# Announcements in any order

The route-propagation protocol delivers the announcements and withdrawals of many peers in no
fixed order. What the dataplane's tables hold is a set of routes, of NAT entries and of
load-balancer targets (`Contents`), and each call acts on it as `Contents.exec` says; the tables
refine it (`Tables.contents_exec`). Two calls reach the same contents in either order unless they
act on one object in opposite directions, or create two different routes that the table keys
alike (`Contents.exec_comm`). The calls of `AddRoute` and `RemoveRoute` do not depend on the
tables, and all of them run whatever the dataplane answers, so a run of announcements and
withdrawals leaves the fold of its calls (`replay_contents`), and every reordering of it whose
calls commute pairwise leaves the same contents (`replay_contents_of_perm`).

With the route table keyed by VNI and prefix, as the dataplane keys it, the exception is real:
the first announcement of a prefix in a VNI keeps the VNI's route for the prefix through every
announcement after it, whatever next hop they carry, since their creates are answered
`ROUTE_EXISTS` and `AddRoute` absorbs that (`replay_first_announcement_wins`).
-/

namespace Metalnet.Metalbond

/-- What the dataplane's tables hold: a set of routes, of NAT entries and of load-balancer
targets. -/
structure Contents where
  routes : Set Route
  nats : Set NeighborNat
  lbTargets : Set LoadBalancerTarget

namespace Contents

/-- `CreateRoute` on a set of routes: the route is added unless one keyed alike is there. -/
def createRouteIn (key : RouteKey) (routes : Set Route) (route : Route) : Set Route :=
  {r | r ∈ routes ∨ r = route ∧ ∀ r' ∈ routes, key.same route r' = false}

/-- `DeleteRoute` on a set of routes: every route of the VNI for the prefix goes. -/
def deleteRouteIn (routes : Set Route) (vni : UInt32) (p : Prefix) : Set Route :=
  {r | r ∈ routes ∧ ¬(r.vni = vni ∧ r.ipPrefix = p)}

/-- What a call does to the contents. -/
def exec (key : RouteKey) (s : Contents) : Call → Contents
  | .createRoute route => { s with routes := createRouteIn key s.routes route }
  | .deleteRoute vni p => { s with routes := deleteRouteIn s.routes vni p }
  | .createNeighborNat nat => { s with nats := insert nat s.nats }
  | .deleteNeighborNat nat => { s with nats := s.nats \ {nat} }
  | .createLoadBalancerTarget lb => { s with lbTargets := insert lb s.lbTargets }
  | .deleteLoadBalancerTarget id ip => { s with lbTargets := s.lbTargets \ {⟨id, ip⟩} }

end Contents

/-- Whether two calls reach the same contents in either order: two calls of one direction,
unless they create two different routes keyed alike, or two calls on different objects. -/
def Call.commutes (key : RouteKey) (x y : Call) : Bool :=
  if x.isCreate = y.isCreate then
    match x, y with
    | .createRoute r, .createRoute r' => !key.same r r' || r == r'
    | _, _ => true
  else x.target != y.target

theorem RouteKey.same_comm (key : RouteKey) (r r' : Route) : key.same r r' = key.same r' r := by
  cases key <;> simp only [RouteKey.same, Bool.beq_comm]

/-! ## Two calls in either order -/

namespace Contents

variable (key : RouteKey) (routes : Set Route) {r r' : Route}

theorem forall_createRouteIn (h : key.same r' r = false) :
    (∀ y ∈ createRouteIn key routes r, key.same r' y = false) ↔
      ∀ y ∈ routes, key.same r' y = false :=
  ⟨fun hy y h' => hy y (.inl h'), fun hy y h' => h'.elim (hy y) fun ⟨e, _⟩ => e ▸ h⟩

theorem createRouteIn_comm (h : key.same r r' = false ∨ r = r') :
    createRouteIn key (createRouteIn key routes r) r' =
      createRouteIn key (createRouteIn key routes r') r := by
  rcases h with h | rfl
  · ext x
    show (x ∈ createRouteIn key routes r ∨ x = r' ∧ ∀ y ∈ createRouteIn key routes r,
        key.same r' y = false) ↔
      (x ∈ createRouteIn key routes r' ∨ x = r ∧ ∀ y ∈ createRouteIn key routes r',
        key.same r y = false)
    rw [forall_createRouteIn key routes ((key.same_comm r' r).trans h),
      forall_createRouteIn key routes h]
    exact or_right_comm
  · rfl

theorem createRouteIn_deleteRouteIn {vni : UInt32} {p : Prefix}
    (h : ¬(r.vni = vni ∧ r.ipPrefix = p)) :
    createRouteIn key (deleteRouteIn routes vni p) r =
      deleteRouteIn (createRouteIn key routes r) vni p := by
  have hall : (∀ y ∈ deleteRouteIn routes vni p, key.same r y = false) ↔
      ∀ y ∈ routes, key.same r y = false := by
    refine ⟨fun hy y h' => ?_, fun hy y h' => hy y h'.1⟩
    cases hs : key.same r y
    · rfl
    · obtain ⟨h1, h2⟩ := RouteKey.same_route hs
      exact absurd (hy y ⟨h', fun ⟨e1, e2⟩ => h ⟨h1 ▸ e1, h2 ▸ e2⟩⟩) (by simp [hs])
  ext x
  simp only [createRouteIn, deleteRouteIn, Set.mem_setOf_eq] at hall ⊢
  rw [hall, or_and_right]
  exact or_congr_right ⟨fun hx => ⟨hx, hx.1 ▸ h⟩, And.left⟩

theorem deleteRouteIn_comm {v v' : UInt32} {p p' : Prefix} :
    deleteRouteIn (deleteRouteIn routes v p) v' p' =
      deleteRouteIn (deleteRouteIn routes v' p') v p := by
  ext x
  simp only [deleteRouteIn, Set.mem_setOf_eq, and_right_comm]

/-- Two calls commute on the contents when `Call.commutes` says so. -/
theorem exec_comm {x y : Call} (h : x.commutes key y = true) (s : Contents) :
    (s.exec key x).exec key y = (s.exec key y).exec key x := by
  cases x <;> cases y <;>
    simp only [Call.commutes, Call.isCreate, Call.target, Bool.true_eq_false, Bool.false_eq_true,
      ↓reduceIte, bne_iff_ne, ne_eq, Object.route.injEq, Object.nat.injEq, Object.lbTarget.injEq,
      Bool.or_eq_true, Bool.not_eq_true', beq_iff_eq] at h <;>
    simp only [exec] <;>
    first
    | rfl
    | rw [createRouteIn_comm key _ h]
    | rw [createRouteIn_deleteRouteIn key _ h]
    | rw [createRouteIn_deleteRouteIn key _ fun e => h ⟨e.1.symm, e.2.symm⟩]
    | rw [deleteRouteIn_comm]
    | rw [Set.insert_comm]
    | rw [Set.diff_diff_comm]
    | rw [Set.insert_diff_singleton_comm h]
    | rw [Set.insert_diff_singleton_comm (Ne.symm h)]

/-- Calls that commute pairwise reach the same contents in every order. -/
theorem foldl_exec_perm {calls calls' : List Call} (hp : calls.Perm calls')
    (hc : ∀ x ∈ calls, ∀ y ∈ calls, x.commutes key y = true) (s : Contents) :
    calls.foldl (exec key) s = calls'.foldl (exec key) s :=
  hp.foldl_eq' (fun x hx y hy s => exec_comm key (hc x hx y hy) s) s

end Contents

/-! ## The tables refine their contents -/

namespace Tables

variable (key : RouteKey) (t : Tables)

/-- What the tables hold. -/
def contents (t : Tables) : Contents :=
  ⟨{r | r ∈ t.routes}, {nat | nat ∈ t.nats}, {lb | lb ∈ t.lbTargets}⟩

theorem mem_createRouteIn {routes : List Route} {r x : Route} :
    x ∈ (createRouteIn key routes r).1 ↔ x ∈ routes ∨ x = r ∧ ∀ y ∈ routes, key.same r y = false := by
  unfold createRouteIn
  split
  next h =>
    obtain ⟨y, hy, hs⟩ := List.any_eq_true.1 h
    exact ⟨.inl, fun h' => h'.elim id fun ⟨_, hf⟩ => absurd (hf y hy) (by simp [hs])⟩
  next h =>
    simp only [List.any_eq_true, not_exists, not_and, Bool.not_eq_true] at h
    rw [List.mem_cons]
    exact or_comm.trans (or_congr_right (and_iff_left h).symm)

theorem mem_deleteRouteIn {routes : List Route} {vni : UInt32} {p : Prefix} {x : Route} :
    x ∈ (deleteRouteIn routes vni p).1 ↔ x ∈ routes ∧ ¬(x.vni = vni ∧ x.ipPrefix = p) := by
  unfold deleteRouteIn
  split
  next =>
    simp only [List.mem_filter, Bool.not_eq_true', Bool.and_eq_false_iff, beq_eq_false_iff_ne,
      ne_eq, not_and_or]
  next h => exact ⟨fun hx => ⟨hx, fun ⟨e1, e2⟩ => h (hasRoute_iff.2 ⟨x, hx, e1, e2⟩)⟩, And.left⟩

/-- The tables refine their contents: a call on the tables holds what the call on their
contents gives. -/
theorem contents_exec (call : Call) : (t.exec key call).1.contents = t.contents.exec key call := by
  cases call with
  | createRoute r => exact congrArg (Contents.mk · _ _) (Set.ext fun _ => mem_createRouteIn key)
  | deleteRoute v p => exact congrArg (Contents.mk · _ _) (Set.ext fun _ => mem_deleteRouteIn)
  | createNeighborNat n => exact congrArg (Contents.mk _ · _) (Set.ext fun _ => mem_createIn)
  | deleteNeighborNat n =>
    exact congrArg (Contents.mk _ · _) (Set.ext fun _ => mem_deleteIn.trans and_comm)
  | createLoadBalancerTarget lb =>
    exact congrArg (Contents.mk _ _ ·) (Set.ext fun _ => mem_createIn)
  | deleteLoadBalancerTarget id ip =>
    exact congrArg (Contents.mk _ _ ·) (Set.ext fun _ => mem_deleteIn.trans and_comm)

theorem contents_execAll (calls : List Call) :
    (execAll key t calls).contents = calls.foldl (Contents.exec key) t.contents := by
  induction calls generalizing t with
  | nil => rfl
  | cons call calls ih => rw [execAll_cons, ih, contents_exec, List.foldl_cons]

end Tables

/-! ## Runs of announcements and withdrawals -/

/-- The calls the client makes for an announcement or a withdrawal, which do not depend on the
tables; a cleanup lists the tables first, and has none here. -/
def Event.calls (c : MetalnetClient) : Event → List Call
  | .addRoute a => (c.addRouteEffects a.vni a.dest a.hop).filterMap Effect.call?
  | .removeRoute a => (c.removeRouteEffects a.vni a.dest a.hop).filterMap Effect.call?
  | .cleanupNotPeeredRoutes _ => []

def Event.isCleanup : Event → Bool
  | .cleanupNotPeeredRoutes _ => true
  | _ => false

namespace MetalnetClient

variable (c : MetalnetClient) (key : RouteKey)

theorem contents_apply (t : Tables) {e : Event} (he : e.isCleanup = false) :
    (Event.apply c key t e).contents = (e.calls c).foldl (Contents.exec key) t.contents := by
  cases e with
  | addRoute a =>
    rw [Event.apply, addRoute_state, addRoute_calls_eq, Tables.contents_execAll]; rfl
  | removeRoute a =>
    rw [Event.apply, removeRoute_state, removeRoute_calls_eq, Tables.contents_execAll]; rfl
  | cleanupNotPeeredRoutes v => cases he

/-- A run of announcements and withdrawals holds the fold of its calls. -/
theorem replay_contents :
    ∀ (t : Tables) (events : List Event), (∀ e ∈ events, e.isCleanup = false) →
      (replay c key t events).contents =
        (events.flatMap (Event.calls c)).foldl (Contents.exec key) t.contents
  | _, [], _ => rfl
  | t, e :: events, h => by
    rw [replay, List.foldl_cons, ← replay, replay_contents _ events fun e' h' => h e' (.tail _ h'),
      contents_apply c key t (h e (.head _)), List.flatMap_cons, List.foldl_append]

/-- Every reordering of a run of announcements and withdrawals leaves the tables holding the same
routes, NAT entries and load-balancer targets, provided every two of the run's calls commute: no two
act on one object in opposite directions, and no two create different routes that the table keys
alike. -/
theorem replay_contents_of_perm (t : Tables) {events events' : List Event}
    (hp : events.Perm events') (hl : ∀ e ∈ events, e.isCleanup = false)
    (hc : ∀ x ∈ events.flatMap (Event.calls c), ∀ y ∈ events.flatMap (Event.calls c),
      x.commutes key y = true) :
    (replay c key t events).contents = (replay c key t events').contents := by
  rw [replay_contents c key t events hl,
    replay_contents c key t events' fun e h => hl e (hp.mem_iff.2 h)]
  exact Contents.foldl_exec_perm key (hp.flatMap_right _) hc _

/-- Announcements of `10.0.0.0/24` from VNI 1 and of `10.1.0.0/16` from its peer VNI 2, in
either order. -/
theorem replay_contents_of_perm_paired :
    [Event.addRoute ⟨1, net10, standardHop (.v4 0x0a000001)⟩,
        .addRoute ⟨2, net11, standardHop (.v4 0x0a000002)⟩].Perm
      [.addRoute ⟨2, net11, standardHop (.v4 0x0a000002)⟩,
        .addRoute ⟨1, net10, standardHop (.v4 0x0a000001)⟩] ∧
    (replay pairedClient .byPrefix Tables.empty
        [.addRoute ⟨1, net10, standardHop (.v4 0x0a000001)⟩,
          .addRoute ⟨2, net11, standardHop (.v4 0x0a000002)⟩]).contents =
      (replay pairedClient .byPrefix Tables.empty
        [.addRoute ⟨2, net11, standardHop (.v4 0x0a000002)⟩,
          .addRoute ⟨1, net10, standardHop (.v4 0x0a000001)⟩]).contents :=
  ⟨.swap _ _ _, replay_contents_of_perm pairedClient .byPrefix Tables.empty (.swap _ _ _)
    (by decide) (by decide)⟩

end MetalnetClient

/-! ## The first announcement wins -/

namespace Tables

variable (v : UInt32) (P : Prefix) {r : Route}

/-- With routes keyed by VNI and prefix, a create keeps the only route of VNI `v` for `P`. -/
theorem filter_exec_create {t : Tables} {call : Call} (hc : call.isCreate = true)
    (h : t.routes.filter (fun x => x.vni == v && x.ipPrefix == P) = [r]) :
    (t.exec .byPrefix call).1.routes.filter (fun x => x.vni == v && x.ipPrefix == P) = [r] := by
  cases call with
  | createRoute r' =>
    show (createRouteIn .byPrefix t.routes r').1.filter _ = _
    have hr := List.mem_filter.1 (h ▸ List.mem_singleton_self r : r ∈ t.routes.filter _)
    unfold createRouteIn
    split
    · exact h
    · next hn =>
      have hk : ¬(r'.vni == v && r'.ipPrefix == P) = true := fun hk => hn <|
        List.any_eq_true.2 ⟨r, hr.1, by
          simp only [RouteKey.same, Bool.and_eq_true, beq_iff_eq] at hk hr ⊢
          exact ⟨hk.1.trans hr.2.1.symm, hk.2.trans hr.2.2.symm⟩⟩
      exact (@List.filter_cons_of_neg _ (fun x => x.vni == v && x.ipPrefix == P) r' t.routes hk).trans h
  | createNeighborNat _ => exact h
  | createLoadBalancerTarget _ => exact h
  | _ => cases hc

theorem filter_execAll_creates :
    ∀ (t : Tables) (calls : List Call), (∀ call ∈ calls, call.isCreate = true) →
      t.routes.filter (fun x => x.vni == v && x.ipPrefix == P) = [r] →
      (execAll .byPrefix t calls).routes.filter (fun x => x.vni == v && x.ipPrefix == P) = [r]
  | _, [], _, h => h
  | _, call :: calls, hc, h =>
    filter_execAll_creates _ calls (fun d hd => hc d (.tail _ hd))
      (filter_exec_create v P (hc call (.head _)) h)

end Tables

namespace MetalnetClient

variable (c : MetalnetClient) (key : RouteKey)

variable (v : UInt32) (P : Prefix)

/-- Announcements after a table whose only route of VNI `v` for `P` is `r` leave it so. -/
theorem filter_replay_addRoutes {r : Route} :
    ∀ (t : Tables) (later : List Announcement),
      t.routes.filter (fun x => x.vni == v && x.ipPrefix == P) = [r] →
      (replay c .byPrefix t (later.map .addRoute)).routes.filter
        (fun x => x.vni == v && x.ipPrefix == P) = [r]
  | _, [], h => h
  | t, b :: later, h => filter_replay_addRoutes _ later <| by
    show (c.addRoute (Tables.dataplane .byPrefix) t b.vni b.dest b.hop).state.routes.filter _ = _
    rw [addRoute_state]
    exact Tables.filter_execAll_creates v P _ _ (fun _ hd => addRoute_isCreate c _ t hd) h

/-- With the route table keyed by VNI and prefix, as the dataplane keys it, the first announcement
of a prefix in a VNI with a standard next hop, when the VNI holds no route for the prefix and the
IPv4-only mode does not refuse it, leaves the route to its next hop the VNI's only route for the
prefix through every announcement after it: a later announcement with another next hop is answered
`ROUTE_EXISTS`, which `AddRoute` absorbs. -/
theorem replay_first_announcement_wins (t : Tables) (a : Announcement) (later : List Announcement)
    (hs : a.hop.type = .STANDARD) (h4 : c.config.ipv4Only = false ∨ a.dest.ipVersion = .IPV4)
    (ht : t.holds (.route a.vni a.dest.ipPrefix) = false) :
    (replay c .byPrefix t ((a :: later).map .addRoute)).routes.filter
        (fun r => r.vni == a.vni && r.ipPrefix == a.dest.ipPrefix) =
      [⟨a.vni, a.dest.ipPrefix, ⟨a.vni, a.hop.targetAddress⟩⟩] := by
  refine filter_replay_addRoutes c _ _ (Event.apply c .byPrefix t (.addRoute a)) later ?_
  obtain ⟨rest, hcalls⟩ : ∃ rest, (c.addRoute (Tables.dataplane .byPrefix) t a.vni a.dest a.hop).calls =
      .createRoute ⟨a.vni, a.dest.ipPrefix, ⟨a.vni, a.hop.targetAddress⟩⟩ :: rest :=
    ⟨_, by rw [addRoute_calls_eq, addRouteEffects, List.filterMap_cons,
      addLocalRoute_standard (not_refuses h4) hs]; rfl⟩
  show (c.addRoute (Tables.dataplane .byPrefix) t a.vni a.dest a.hop).state.routes.filter _ = _
  rw [addRoute_state, hcalls, Tables.execAll_cons]
  refine Tables.filter_execAll_creates _ _ _ rest
    (fun d hd => addRoute_isCreate c _ t (by rw [hcalls]; exact .tail _ hd)) ?_
  have h0 := List.filter_eq_nil_iff.2 (List.any_eq_false.1 ht)
  show (Tables.createRouteIn .byPrefix t.routes _).1.filter _ = _
  unfold Tables.createRouteIn
  rw [if_neg, List.filter_cons_of_pos (by simp), h0]
  simpa [RouteKey.same, Bool.beq_comm] using List.any_eq_false.1 ht

/-- Two announcements of `10.0.0.0/24` in VNI 1 with different next hops: the first one's route
stays. -/
theorem replay_first_announcement_wins_twin :
    (standardHop (.v4 0x0a000001)).type = .STANDARD ∧
    (unknownVniClient.config.ipv4Only = false ∨ net10.ipVersion = .IPV4) ∧
    Tables.empty.holds (.route 1 net10.ipPrefix) = false ∧
    (replay unknownVniClient .byPrefix Tables.empty
        [.addRoute ⟨1, net10, standardHop (.v4 0x0a000001)⟩,
          .addRoute ⟨1, net10, standardHop (.v4 0x0a000002)⟩]).routes.filter
        (fun r => r.vni == 1 && r.ipPrefix == net10.ipPrefix) =
      [⟨1, net10.ipPrefix, ⟨1, .v4 0x0a000001⟩⟩] :=
  ⟨rfl, .inl rfl, rfl, replay_first_announcement_wins unknownVniClient Tables.empty
    ⟨1, net10, standardHop (.v4 0x0a000001)⟩ [⟨1, net10, standardHop (.v4 0x0a000002)⟩] rfl
    (.inl rfl) rfl⟩

end MetalnetClient

end Metalnet.Metalbond
