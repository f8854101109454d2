import Metalnet.Proofs.Cleanup

/-!
# VNIs stay apart

An event changes what the tables hold for a VNI, its routes and its NAT entries, only if it
reaches that VNI: an announcement or a withdrawal reaches the announcing VNI and that VNI's peers,
a cleanup its own VNI. Every call an event makes is in a VNI it reaches (`addRoute_vni`,
`removeRoute_vni`, and the deletes of a cleanup), and a call leaves every other VNI's part of the
tables as it was (`Tables.ofVni_exec`). So over any run of events none of which reaches a VNI,
that VNI's routes and NAT entries stay exactly as they were, in order (`replay_ofVni`).
Load-balancer targets are keyed by the load balancer's UID, not by a VNI, and are left out.
-/

namespace Metalnet.Metalbond

namespace Call

/-- The VNI whose routes or NAT entries a call creates or deletes. -/
def vni? : Call → Option UInt32
  | createRoute r => some r.vni
  | deleteRoute vni _ => some vni
  | createNeighborNat nat | deleteNeighborNat nat => some nat.vni
  | _ => none

end Call

namespace Tables

/-- What the tables hold for one VNI: its routes and its NAT entries, in the tables' order. -/
def ofVni (t : Tables) (w : UInt32) : List Route × List NeighborNat :=
  (t.routes.filter (·.vni == w), t.nats.filter (·.vni == w))

variable (key : RouteKey) {w : UInt32}

/-- A delete that keeps every entry of VNI `w` leaves the entries of `w` as they were. -/
theorem filter_vni_filter {α : Type} {vniOf : α → UInt32} {keep : α → Bool} (l : List α)
    (h : ∀ x, vniOf x = w → keep x = true) :
    (l.filter keep).filter (vniOf · == w) = l.filter (vniOf · == w) := by
  rw [List.filter_filter]
  refine List.filter_congr fun x _ => ?_
  by_cases hx : vniOf x = w
  · simp [hx, h x hx]
  · simp [hx]

theorem ofVni_exec {t : Tables} {call : Call} (h : call.vni? ≠ some w) :
    (t.exec key call).1.ofVni w = t.ofVni w := by
  cases call with
  | createRoute x | createNeighborNat x =>
    simp only [ofVni, exec, createRouteIn, createIn]
    split
    · rfl
    · rw [List.filter_cons_of_neg (by simpa using fun e => h (congrArg some e))]
  | deleteRoute v p =>
    simp only [ofVni, exec, deleteRouteIn]
    split
    · rw [filter_vni_filter]
      rintro r rfl
      have hv : r.vni ≠ v := fun e => h (congrArg some e.symm)
      simp [hv]
    · rfl
  | deleteNeighborNat n =>
    simp only [ofVni, exec, deleteIn]
    split
    · rw [filter_vni_filter]
      rintro x rfl
      have hx : x ≠ n := fun e => h (congrArg some (congrArg NeighborNat.vni e).symm)
      simp [hx]
    · rfl
  | _ => rfl

theorem ofVni_execAll :
    ∀ (t : Tables) (calls : List Call), (∀ call ∈ calls, call.vni? ≠ some w) →
      (execAll key t calls).ofVni w = t.ofVni w
  | _, [], _ => rfl
  | _, call :: calls, h =>
    (ofVni_execAll _ calls fun d hd => h d (.tail _ hd)).trans
      (ofVni_exec key (h call (.head _)))

end Tables

/-- Whether an event may touch what the tables hold for VNI `w`: an announcement or a withdrawal
may touch the announcing VNI and its peers, a cleanup its own VNI. -/
def Event.reaches (c : MetalnetClient) (w : UInt32) : Event → Bool
  | .addRoute a | .removeRoute a => w == a.vni || (c.peers a.vni).contains w
  | .cleanupNotPeeredRoutes v => w == v

namespace MetalnetClient

variable (c : MetalnetClient) {σ : Type} (dp : Dataplane σ) (s : σ) {vni : UInt32}
  {dest : Destination} {hop : NextHop}

/-- Every route and NAT entry `AddRoute` creates is in its own VNI or a peer's. -/
theorem addRoute_vni {call : Call} {v : UInt32}
    (h : call ∈ (c.addRoute dp s vni dest hop).calls) (hv : call.vni? = some v) :
    v = vni ∨ v ∈ c.peers vni := by
  by_cases h4 : c.Refuses dest
  · simp [addRoute_calls_refused _ _ _ h4] at h
  cases ht : hop.type with
  | STANDARD =>
    rw [addRoute_calls_standard _ _ _ h4 ht, List.mem_map] at h
    obtain ⟨p, hp, rfl⟩ := h
    cases hv
    rcases List.mem_cons.1 hp with rfl | hp
    · exact .inl rfl
    · exact .inr (List.mem_filter.1 hp).1
  | NAT =>
    rw [addRoute_calls_nat _ _ _ h4 ht, List.mem_singleton] at h
    subst h
    cases hv
    exact .inl rfl
  | LOADBALANCER_TARGET =>
    obtain ⟨uid, -, rfl⟩ := (addRoute_calls_lb _ _ _ ht).2 _ h
    cases hv

/-- Every route and NAT entry `RemoveRoute` deletes is in its own VNI or a peer's. -/
theorem removeRoute_vni {call : Call} {v : UInt32}
    (h : call ∈ (c.removeRoute dp s vni dest hop).calls) (hv : call.vni? = some v) :
    v = vni ∨ v ∈ c.peers vni := by
  by_cases h4 : c.Refuses dest
  · simp [removeRoute_calls_refused _ _ _ h4] at h
  cases ht : hop.type with
  | STANDARD =>
    rw [removeRoute_calls_standard _ _ _ h4 ht, List.mem_map] at h
    obtain ⟨p, hp, rfl⟩ := h
    cases hv
    exact List.mem_cons.1 hp
  | NAT =>
    rw [removeRoute_calls_nat _ _ _ h4 ht, List.mem_singleton] at h
    subst h
    cases hv
    exact .inl rfl
  | LOADBALANCER_TARGET =>
    rw [removeRoute_calls_eq, c.removeRouteEffects_of_ne (by simp [ht])] at h
    obtain ⟨e, he, hc⟩ := List.mem_filterMap.1 h
    obtain rfl := List.mem_singleton.1 he
    obtain ⟨uid, -, rfl⟩ := removeLocalRoute_call_lb ht hc
    cases hv

variable (key : RouteKey) {w : UInt32}

theorem ofVni_apply (t : Tables) {e : Event} (h : e.reaches c w = false) :
    (e.apply c key t).ofVni w = t.ofVni w := by
  cases e <;> simp only [Event.reaches, Bool.or_eq_false_iff, beq_eq_false_iff_ne, List.elem_eq_mem,
    decide_eq_false_iff_not] at h
  case addRoute a =>
    rw [Event.apply, addRoute_state]
    exact Tables.ofVni_execAll key t _ fun call hc hv =>
      (addRoute_vni c _ t hc hv).elim h.1 h.2
  case removeRoute a =>
    rw [Event.apply, removeRoute_state]
    exact Tables.ofVni_execAll key t _ fun call hc hv =>
      (removeRoute_vni c _ t hc hv).elim h.1 h.2
  case cleanupNotPeeredRoutes v =>
    rw [Event.apply, (cleanupNotPeeredRoutes_tables c key t v).2]
    refine Tables.ofVni_execAll key t _ fun call hc hv => h ?_
    obtain ⟨r, -, rfl⟩ := List.mem_map.1 hc
    exact (Option.some.inj hv).symm

/-- Tenant isolation: over any run of events none of which reaches VNI `w` (none announced or
withdrawn from `w` or one of its peers, and no cleanup of `w`), the routes and NAT entries of `w`
stay exactly as they were. -/
theorem replay_ofVni (t : Tables) :
    ∀ events : List Event, (∀ e ∈ events, e.reaches c w = false) →
      (replay c key t events).ofVni w = t.ofVni w
  | [], _ => rfl
  | e :: events, h => by
    rw [replay, List.foldl_cons, ← replay, replay_ofVni _ events fun d hd => h d (.tail _ hd)]
    exact ofVni_apply c key t (h e (.head _))

/-- VNI 3 keeps its route for `10.0.0.0/24` while VNI 1, peered with VNI 2 only, announces the
same prefix and is then cleaned up. -/
theorem replay_ofVni_tenant3 :
    (∀ e ∈ [Event.addRoute ⟨1, net10, standardHop (.v4 0x0a000001)⟩, .cleanupNotPeeredRoutes 1],
      e.reaches pairedClient 3 = false) ∧
    (replay pairedClient .byPrefix ⟨[⟨3, net10.ipPrefix, ⟨3, .v4 0x0a000003⟩⟩], [], []⟩
        [.addRoute ⟨1, net10, standardHop (.v4 0x0a000001)⟩, .cleanupNotPeeredRoutes 1]).ofVni 3 =
      ([⟨3, net10.ipPrefix, ⟨3, .v4 0x0a000003⟩⟩], []) :=
  ⟨by decide, replay_ofVni pairedClient .byPrefix _ _ (by decide)⟩

end MetalnetClient

end Metalnet.Metalbond
