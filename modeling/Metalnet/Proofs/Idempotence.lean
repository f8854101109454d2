import Metalnet.Proofs.Tables

/-!
# Redelivered events change nothing

The route-propagation protocol may deliver an event twice. On a dataplane that keeps objects, a
call whose object is already as the call leaves it changes nothing and answers one of its
duplicate statuses, and the ignore list of every realization is exactly its call's duplicate
statuses (`addLocalRoute_ignoresDuplicates`, `removeLocalRoute_ignoresDuplicates`). So when
`AddRoute` or `RemoveRoute` returns nil, running it again returns nil and changes nothing
(`addRoute_removeRoute_idempotent`). The tables are such a dataplane, whichever way they key
routes (`Tables.objectStore`).

The tables answer every call with success or with a duplicate status, so on them `AddRoute` and
`RemoveRoute` fail only where they refuse before any call: a destination the IPv4-only mode
refuses, or a load-balancer target with no registered load balancer
(`addRoute_removeRoute_err_tables`).

On any dataplane, what each realization may do is fixed: its ignore list is its call's duplicate
statuses, it fails before any call exactly in those two cases, and only the preferred-network
filter of `AddRoute` skips one (`addRoute_removeRoute_aggregate`, with the aggregation of
`runAll_aggregates`).
-/

namespace Metalnet.Metalbond

/-- The statuses the dataplane answers a call whose object is already as the call leaves it: there
already, for a create, or not there, for a delete. -/
def Call.duplicateCodes : Call → List ErrorCode
  | .createRoute _ => [.ROUTE_EXISTS]
  | .deleteRoute _ _ => [.NO_VNI, .ROUTE_NOT_FOUND]
  | .createNeighborNat _ | .createLoadBalancerTarget _ => [.ALREADY_EXISTS]
  | .deleteNeighborNat _ => [.NOT_FOUND]
  | .deleteLoadBalancerTarget _ _ => [.NOT_FOUND, .NO_BACKIP, .NO_LB]

variable {σ : Type}

/-- A dataplane that keeps objects; `settled s call` says that the call's object is already as
the call leaves it. -/
structure ObjectStore (dp : Dataplane σ) where
  settled : σ → Call → Bool
  /-- A settled call changes nothing and answers one of its duplicate statuses. -/
  exec_settled : ∀ s call, settled s call = true →
    (dp.exec s call).1 = s ∧
      ∃ code text, (dp.exec s call).2 = .status code text ∧ code ∈ call.duplicateCodes
  /-- A call answered with success or with a duplicate status has settled its object. -/
  settled_exec : ∀ s call, ((dp.exec s call).2 = .ok ∨
      ∃ code text, (dp.exec s call).2 = .status code text ∧ code ∈ call.duplicateCodes) →
    settled (dp.exec s call).1 call = true
  /-- A create undoes no other create, and a delete no other delete. -/
  settled_exec_of_isCreate : ∀ s call call', call'.isCreate = call.isCreate →
    settled s call = true → settled (dp.exec s call').1 call = true

/-- A realization whose ignore list is exactly its call's duplicate statuses. -/
def Effect.IgnoresDuplicates : Effect → Prop
  | .issue call ignore _ => ignore = call.duplicateCodes
  | _ => True

namespace MetalnetClient

/-! ## Every realization absorbs its own duplicate -/

section Local

variable (c : MetalnetClient) (destVni vni : UInt32) (dest : Destination) (hop : NextHop)

theorem addLocalRoute_ignoresDuplicates :
    (c.addLocalRoute destVni vni dest hop).IgnoresDuplicates := by
  unfold addLocalRoute
  split_ifs <;> (try split) <;> trivial

theorem removeLocalRoute_ignoresDuplicates :
    (c.removeLocalRoute destVni vni dest hop).IgnoresDuplicates := by
  unfold removeLocalRoute
  split_ifs <;> (try split) <;> trivial

end Local

/-! ## Two runs of the same realizations -/

section Twice

variable {dp : Dataplane σ} (store : ObjectStore dp)

/-- A run without errors has no realization that fails before its call. -/
theorem runEffects_ne_fail :
    ∀ (s : σ) (effects : List Effect), (runEffects dp s effects).2.2 = [] →
      ∀ e ∈ effects, ∀ msg, e ≠ .fail msg
  | _, [], _, _, he, _ => absurd he (List.not_mem_nil _)
  | s, e :: es, h, e', he', msg => by
    rw [runEffects, List.append_eq_nil] at h
    rcases List.mem_cons.1 he' with rfl | he'
    · rintro rfl
      cases h.1
    · exact runEffects_ne_fail _ es h.2 e' he' msg

/-- Calls that all create, or all delete, keep each other's objects settled. -/
theorem settled_foldl {call : Call} :
    ∀ (s : σ) (calls : List Call), store.settled s call = true →
      (∀ call' ∈ calls, call'.isCreate = call.isCreate) →
      store.settled (calls.foldl (fun s call => (dp.exec s call).1) s) call = true
  | _, [], h, _ => h
  | s, call' :: calls, h, hdir =>
    settled_foldl _ calls (store.settled_exec_of_isCreate s call call' (hdir _ (.head _)) h)
      fun d hd => hdir d (.tail _ hd)

/-- A run without errors leaves the object of each of its calls settled, when the calls all
create or all delete. -/
theorem settled_runEffects (b : Bool) :
    ∀ (s : σ) (effects : List Effect), (∀ e ∈ effects, e.IgnoresDuplicates) →
      (∀ call ∈ effects.filterMap Effect.call?, call.isCreate = b) →
      (runEffects dp s effects).2.2 = [] →
      ∀ call ∈ effects.filterMap Effect.call?, store.settled (runEffects dp s effects).1 call = true
  | _, [], _, _, _, _, h => absurd h (List.not_mem_nil _)
  | s, e :: es, hig, hdir, herr, call, hcall => by
    have hne := runEffects_ne_fail s _ herr
    have htail : ∀ d ∈ es.filterMap Effect.call?, d ∈ (e :: es).filterMap Effect.call? :=
      fun d hd => ((List.sublist_cons_self e es).filterMap _).subset hd
    rw [runEffects, List.append_eq_nil] at herr
    have ih := settled_runEffects b (e.run dp s).1 es (fun e he => hig e (.tail _ he))
      (fun d hd => hdir d (htail d hd)) herr.2
    cases e with
    | fail msg => exact absurd rfl (hne _ (.head _) msg)
    | skip => exact ih call hcall
    | issue call' ignore context =>
      rcases List.mem_cons.1 hcall with rfl | hcall
      · have hig' : ignore = call.duplicateCodes := hig _ (.head _)
        have hok : (dp.exec s call).2.err ignore = none := by
          have h1 := herr.1
          simp only [Effect.run, Effect.call?, Effect.error, Option.some_bind] at h1
          revert h1
          cases (dp.exec s call).2.err ignore
          · exact fun _ => rfl
          · exact fun h => nomatch h
        rw [Outcome.err_eq_none_iff, hig'] at hok
        rw [runEffects_state]
        exact settled_foldl store _ (es.filterMap Effect.call?) (store.settled_exec s call hok)
          fun d hd => (hdir d (htail d hd)).trans (hdir call (.head _)).symm
      · exact ih call hcall

/-- A run whose calls are all settled, which absorbs its duplicates and has no realization
that fails, changes nothing and has no error. -/
theorem runEffects_of_settled :
    ∀ (s : σ) (effects : List Effect), (∀ e ∈ effects, e.IgnoresDuplicates) →
      (∀ e ∈ effects, ∀ msg, e ≠ .fail msg) →
      (∀ call ∈ effects.filterMap Effect.call?, store.settled s call = true) →
      (runEffects dp s effects).1 = s ∧ (runEffects dp s effects).2.2 = []
  | _, [], _, _, _ => ⟨rfl, rfl⟩
  | s, e :: es, hig, hnf, hset => by
    cases e with
    | fail msg => exact absurd rfl (hnf _ (.head _) msg)
    | skip =>
      exact runEffects_of_settled s es (fun e he => hig e (.tail _ he))
        (fun e he => hnf e (.tail _ he)) hset
    | issue call ignore context =>
      obtain ⟨hs, code, text, ho, hcode⟩ := store.exec_settled s call (hset call (.head _))
      have hig' : ignore = call.duplicateCodes := hig _ (.head _)
      have ih := runEffects_of_settled s es (fun e he => hig e (.tail _ he))
        (fun e he => hnf e (.tail _ he)) (fun d hd => hset d (.tail _ hd))
      have hrun : (Effect.issue call ignore context).run dp s = (s, some (call, .status code text), none) := by
        simp only [Effect.run, Effect.call?, Effect.error, hs, ho, Option.some_bind, Outcome.err, hig',
          if_pos hcode, Option.map_none']
      rw [runEffects, hrun]
      exact ih

include store in
/-- When realizations whose calls all create, or all delete, and whose ignore
lists are their duplicate statuses run without error, running them again from where they left
the dataplane changes nothing and has no error. -/
theorem runAll_twice (b : Bool) (s : σ) (effects : List Effect)
    (hig : ∀ e ∈ effects, e.IgnoresDuplicates)
    (hdir : ∀ call ∈ effects.filterMap Effect.call?, call.isCreate = b)
    (h : (runAll dp s effects).err = none) :
    (runAll dp (runAll dp s effects).state effects).err = none ∧
      (runAll dp (runAll dp s effects).state effects).state = (runAll dp s effects).state := by
  have herr : (runEffects dp s effects).2.2 = [] := joinErrors_eq_none_iff.1 h
  obtain ⟨hs, herr'⟩ := runEffects_of_settled store _ effects hig (runEffects_ne_fail s effects herr)
    (settled_runEffects store b s effects hig hdir herr)
  exact ⟨joinErrors_eq_none_iff.2 herr', hs⟩

end Twice

/-! ## `AddRoute` and `RemoveRoute` -/

section Realizations

variable (c : MetalnetClient) (vni : UInt32) (dest : Destination) (hop : NextHop)

theorem mem_addRouteEffects {e : Effect} (h : e ∈ c.addRouteEffects vni dest hop) :
    ∃ p, e = c.addLocalRoute vni p dest hop := by
  rcases List.mem_cons.1 h with rfl | h
  · exact ⟨vni, rfl⟩
  · split at h
    · obtain ⟨p, -, rfl⟩ := List.mem_map.1 h
      exact ⟨p, rfl⟩
    · cases h

theorem mem_removeRouteEffects {e : Effect} (h : e ∈ c.removeRouteEffects vni dest hop) :
    ∃ p, e = c.removeLocalRoute vni p dest hop := by
  rcases List.mem_cons.1 h with rfl | h
  · exact ⟨vni, rfl⟩
  · obtain ⟨p, -, hp⟩ := List.mem_filterMap.1 h
    split at hp
    · exact ⟨p, (Option.some.inj hp).symm⟩
    · cases hp

theorem addRouteEffects_ignoresDuplicates :
    ∀ e ∈ c.addRouteEffects vni dest hop, e.IgnoresDuplicates := fun _ he => by
  obtain ⟨p, rfl⟩ := c.mem_addRouteEffects vni dest hop he
  exact addLocalRoute_ignoresDuplicates c vni p dest hop

theorem removeRouteEffects_ignoresDuplicates :
    ∀ e ∈ c.removeRouteEffects vni dest hop, e.IgnoresDuplicates := fun _ he => by
  obtain ⟨p, rfl⟩ := c.mem_removeRouteEffects vni dest hop he
  exact removeLocalRoute_ignoresDuplicates c vni p dest hop

/-- On a dataplane that keeps objects, from any state, for any topology, configuration and route:
when `AddRoute` returns nil, running it again returns nil and leaves the dataplane as it was, and so
does `RemoveRoute`. -/
theorem addRoute_removeRoute_idempotent {dp : Dataplane σ} (store : ObjectStore dp) (s : σ) :
    ((c.addRoute dp s vni dest hop).err = none →
      (c.addRoute dp (c.addRoute dp s vni dest hop).state vni dest hop).err = none ∧
        (c.addRoute dp (c.addRoute dp s vni dest hop).state vni dest hop).state =
          (c.addRoute dp s vni dest hop).state) ∧
    ((c.removeRoute dp s vni dest hop).err = none →
      (c.removeRoute dp (c.removeRoute dp s vni dest hop).state vni dest hop).err = none ∧
        (c.removeRoute dp (c.removeRoute dp s vni dest hop).state vni dest hop).state =
          (c.removeRoute dp s vni dest hop).state) := by
  refine ⟨runAll_twice store true s _ (fun e he => ?_) (fun call hcall => ?_),
    runAll_twice store false s _ (fun e he => ?_) (fun call hcall => ?_)⟩
  · obtain ⟨p, rfl⟩ := c.mem_addRouteEffects vni dest hop he
    exact addLocalRoute_ignoresDuplicates c vni p dest hop
  · obtain ⟨e, he, hc⟩ := List.mem_filterMap.1 hcall
    obtain ⟨p, rfl⟩ := c.mem_addRouteEffects vni dest hop he
    exact addLocalRoute_isCreate hc
  · obtain ⟨p, rfl⟩ := c.mem_removeRouteEffects vni dest hop he
    exact removeLocalRoute_ignoresDuplicates c vni p dest hop
  · obtain ⟨e, he, hc⟩ := List.mem_filterMap.1 hcall
    obtain ⟨p, rfl⟩ := c.mem_removeRouteEffects vni dest hop he
    exact removeLocalRoute_isCreate hc

end Realizations

end MetalnetClient

/-! ## The tables keep objects -/

theorem RouteKey.same_self (key : RouteKey) (r : Route) : key.same r r = true := by
  cases key <;> simp [RouteKey.same]

namespace Tables

variable (key : RouteKey)

/-- Whether the call's object is already as the call leaves it. -/
def settled (t : Tables) : Call → Bool
  | .createRoute r => t.routes.any (key.same r)
  | .deleteRoute vni p => !hasRoute t.routes vni p
  | .createNeighborNat nat => t.nats.contains nat
  | .deleteNeighborNat nat => !t.nats.contains nat
  | .createLoadBalancerTarget lb => t.lbTargets.contains lb
  | .deleteLoadBalancerTarget id ip => !t.lbTargets.contains ⟨id, ip⟩

theorem exec_of_settled {t : Tables} {call : Call} (h : settled key t call = true) :
    (t.exec key call).1 = t ∧
      ∃ code text, (t.exec key call).2 = .status code text ∧ code ∈ call.duplicateCodes := by
  cases call <;>
    simp_all [settled, exec, createRouteIn, deleteRouteIn, createIn, deleteIn, Call.duplicateCodes]

theorem settled_exec (t : Tables) (call : Call) : settled key (t.exec key call).1 call = true := by
  cases call with
  | createRoute r =>
    simp only [settled, exec, createRouteIn]
    split
    · assumption
    · simp [RouteKey.same_self]
  | deleteRoute v p =>
    simpa [settled, exec] using fun h => (hasRoute_deleteRouteIn.1 h).1 ⟨rfl, rfl⟩
  | _ => simp [settled, exec, mem_createIn, mem_deleteIn]

/-- A create keeps every object of the tables. -/
theorem subset_exec_of_isCreate {t : Tables} {call : Call} (h : call.isCreate = true) :
    t.routes ⊆ (t.exec key call).1.routes ∧ t.nats ⊆ (t.exec key call).1.nats ∧
      t.lbTargets ⊆ (t.exec key call).1.lbTargets := by
  cases call with
  | createRoute r =>
    refine ⟨fun x hx => ?_, fun _ => id, fun _ => id⟩
    simp only [exec, createRouteIn]
    split
    · exact hx
    · exact .tail _ hx
  | createNeighborNat n => exact ⟨fun _ => id, fun _ hx => mem_createIn.2 (.inr hx), fun _ => id⟩
  | createLoadBalancerTarget lb =>
    exact ⟨fun _ => id, fun _ => id, fun _ hx => mem_createIn.2 (.inr hx)⟩
  | _ => cases h

/-- A delete adds no object to the tables. -/
theorem exec_subset_of_not_isCreate {t : Tables} {call : Call} (h : call.isCreate = false) :
    (t.exec key call).1.routes ⊆ t.routes ∧ (t.exec key call).1.nats ⊆ t.nats ∧
      (t.exec key call).1.lbTargets ⊆ t.lbTargets := by
  cases call with
  | deleteRoute v p =>
    refine ⟨fun x hx => ?_, fun _ => id, fun _ => id⟩
    simp only [exec, deleteRouteIn] at hx
    split at hx
    · exact (List.mem_filter.1 hx).1
    · exact hx
  | deleteNeighborNat n => exact ⟨fun _ => id, fun _ hx => (mem_deleteIn.1 hx).2, fun _ => id⟩
  | deleteLoadBalancerTarget lb ip =>
    exact ⟨fun _ => id, fun _ => id, fun _ hx => (mem_deleteIn.1 hx).2⟩
  | _ => cases h

theorem settled_exec_of_isCreate (t : Tables) (call call' : Call)
    (hdir : call'.isCreate = call.isCreate) (h : settled key t call = true) :
    settled key (t.exec key call').1 call = true := by
  have grow := @subset_exec_of_isCreate key t call'
  have shrink := @exec_subset_of_not_isCreate key t call'
  have hroute {v : UInt32} {p : Prefix} (hs : (t.exec key call').1.routes ⊆ t.routes)
      (h : hasRoute t.routes v p = false) : hasRoute (t.exec key call').1.routes v p = false :=
    Bool.eq_false_iff.2 fun h' => by
      obtain ⟨r, hr, hv⟩ := hasRoute_iff.1 h'
      exact Bool.eq_false_iff.1 h (hasRoute_iff.2 ⟨r, hs hr, hv⟩)
  cases call with
  | createRoute r =>
    obtain ⟨x, hx, hs⟩ := List.any_eq_true.1 h
    exact List.any_eq_true.2 ⟨x, (grow hdir).1 hx, hs⟩
  | deleteRoute v p =>
    simpa [settled] using hroute (shrink hdir).1 (by simpa [settled] using h)
  | createNeighborNat n => simpa [settled] using (grow hdir).2.1 (by simpa [settled] using h)
  | deleteNeighborNat n =>
    simpa [settled] using fun hn => (by simpa [settled] using h : n ∉ t.nats) ((shrink hdir).2.1 hn)
  | createLoadBalancerTarget lb =>
    simpa [settled] using (grow hdir).2.2 (by simpa [settled] using h)
  | deleteLoadBalancerTarget lb ip =>
    simpa [settled] using fun hl =>
      (by simpa [settled] using h : (⟨lb, ip⟩ : LoadBalancerTarget) ∉ t.lbTargets) ((shrink hdir).2.2 hl)

/-- The tables, keyed either way, are a dataplane that keeps objects. -/
def objectStore : ObjectStore (dataplane key) where
  settled := settled key
  exec_settled _ _ h := exec_of_settled key h
  settled_exec t call _ := settled_exec key t call
  settled_exec_of_isCreate := settled_exec_of_isCreate key

end Tables

namespace MetalnetClient

theorem addRoute_removeRoute_idempotent_paired :
    (pairedClient.addRoute (Tables.dataplane .byPrefix) Tables.empty 1 net10
      (standardHop (.v4 0x0a000001))).err = none ∧
    ((pairedClient.addRoute (Tables.dataplane .byPrefix)
        (pairedClient.addRoute (Tables.dataplane .byPrefix) Tables.empty 1 net10
          (standardHop (.v4 0x0a000001))).state 1 net10 (standardHop (.v4 0x0a000001))).err = none ∧
      (pairedClient.addRoute (Tables.dataplane .byPrefix)
        (pairedClient.addRoute (Tables.dataplane .byPrefix) Tables.empty 1 net10
          (standardHop (.v4 0x0a000001))).state 1 net10 (standardHop (.v4 0x0a000001))).state =
        (pairedClient.addRoute (Tables.dataplane .byPrefix) Tables.empty 1 net10
          (standardHop (.v4 0x0a000001))).state) ∧
    (pairedClient.removeRoute (Tables.dataplane .byPrefix) Tables.empty 1 net10
      (standardHop (.v4 0x0a000001))).err = none ∧
    ((pairedClient.removeRoute (Tables.dataplane .byPrefix)
        (pairedClient.removeRoute (Tables.dataplane .byPrefix) Tables.empty 1 net10
          (standardHop (.v4 0x0a000001))).state 1 net10 (standardHop (.v4 0x0a000001))).err = none ∧
      (pairedClient.removeRoute (Tables.dataplane .byPrefix)
        (pairedClient.removeRoute (Tables.dataplane .byPrefix) Tables.empty 1 net10
          (standardHop (.v4 0x0a000001))).state 1 net10 (standardHop (.v4 0x0a000001))).state =
        (pairedClient.removeRoute (Tables.dataplane .byPrefix) Tables.empty 1 net10
          (standardHop (.v4 0x0a000001))).state) :=
  ⟨rfl, (addRoute_removeRoute_idempotent pairedClient 1 net10 _ (Tables.objectStore .byPrefix)
      Tables.empty).1 rfl, rfl,
    (addRoute_removeRoute_idempotent pairedClient 1 net10 _ (Tables.objectStore .byPrefix)
      Tables.empty).2 rfl⟩

end MetalnetClient

/-! ## On the tables only refusals fail -/

namespace Tables

variable (key : RouteKey)

/-- The tables answer every call with success or with one of its duplicate statuses. -/
theorem exec_answer (t : Tables) (call : Call) :
    (t.exec key call).2 = .ok ∨
      ∃ code text, (t.exec key call).2 = .status code text ∧ code ∈ call.duplicateCodes := by
  cases h : settled key t call
  · left
    cases call <;> simp only [settled, Bool.not_eq_false'] at h <;>
      simp only [exec, createRouteIn, deleteRouteIn, createIn, deleteIn, h, Bool.false_eq_true,
        ↓reduceIte]
  · exact .inr (exec_of_settled key h).2

theorem run_error_eq_none {e : Effect} (he : e.IgnoresDuplicates) (t : Tables) :
    (e.run (dataplane key) t).2.2 = none ↔ ∀ msg, e ≠ .fail msg := by
  cases e with
  | fail msg => simp [Effect.run, Effect.call?, Effect.error]
  | skip => simp [Effect.run, Effect.call?, Effect.error]
  | issue call ignore context =>
    simp only [Effect.IgnoresDuplicates] at he
    subst he
    rcases exec_answer key t call with h | ⟨code, text, h, hc⟩
    · simp [Effect.run, Effect.call?, Effect.error, dataplane, h, Outcome.err]
    · simp [Effect.run, Effect.call?, Effect.error, dataplane, h, Outcome.err, hc]

theorem runEffects_errors_eq_nil :
    ∀ (t : Tables) (effects : List Effect), (∀ e ∈ effects, e.IgnoresDuplicates) →
      ((MetalnetClient.runEffects (dataplane key) t effects).2.2 = [] ↔
        ∀ e ∈ effects, ∀ msg, e ≠ .fail msg)
  | _, [], _ => by simp [MetalnetClient.runEffects]
  | t, e :: es, h => by
    rw [MetalnetClient.runEffects, List.append_eq_nil,
      runEffects_errors_eq_nil _ es fun d hd => h d (.tail _ hd), List.forall_mem_cons,
      ← run_error_eq_none key (h e (.head _)) t]
    cases (e.run (dataplane key) t).2.2 <;> simp

end Tables

namespace MetalnetClient

variable (c : MetalnetClient) {vni : UInt32} {dest : Destination} {hop : NextHop}

theorem not_refuses_iff :
    ¬ c.Refuses dest ↔ c.config.ipv4Only = false ∨ dest.ipVersion = .IPV4 := by
  cases h : c.config.ipv4Only <;> simp [Refuses, h]

/-- The realizations of `AddRoute` fail before any call exactly when the destination is refused,
or when the next hop is a load-balancer target with no load balancer registered. -/
theorem addRouteEffects_ne_fail_iff :
    (∀ e ∈ c.addRouteEffects vni dest hop, ∀ msg, e ≠ .fail msg) ↔ ¬ c.Refuses dest ∧
      (hop.type = .LOADBALANCER_TARGET →
        (c.metalnetCache.loadBalancerServer vni dest.ipPrefix.addr.string).isSome) := by
  by_cases h4 : c.Refuses dest
  · exact iff_of_false (fun h => h _ (List.mem_cons_self _ _) _ (addLocalRoute_refused h4))
      fun h => h.1 h4
  cases ht : hop.type with
  | LOADBALANCER_TARGET =>
    rw [c.addRouteEffects_of_ne (by rw [ht]; decide)]
    simp only [List.mem_singleton, forall_eq, addLocalRoute, if_neg h4, ht, if_true]
    cases c.metalnetCache.loadBalancerServer vni dest.ipPrefix.addr.string <;>
      simp only [Option.isSome_none, Option.isSome_some] <;> (try split) <;> simp [h4]
  | STANDARD | NAT =>
    refine iff_of_true (fun e he msg => ?_) ⟨h4, nofun⟩
    obtain ⟨p, rfl⟩ := c.mem_addRouteEffects _ _ _ he
    first
    | rw [addLocalRoute_standard h4 ht]; exact nofun
    | rw [addLocalRoute_nat h4 ht]; exact nofun

theorem removeRouteEffects_ne_fail_iff :
    (∀ e ∈ c.removeRouteEffects vni dest hop, ∀ msg, e ≠ .fail msg) ↔ ¬ c.Refuses dest ∧
      (hop.type = .LOADBALANCER_TARGET →
        (c.metalnetCache.loadBalancerServer vni dest.ipPrefix.addr.string).isSome) := by
  by_cases h4 : c.Refuses dest
  · exact iff_of_false (fun h => h _ (List.mem_cons_self _ _) _ (removeLocalRoute_refused h4))
      fun h => h.1 h4
  cases ht : hop.type with
  | LOADBALANCER_TARGET =>
    rw [c.removeRouteEffects_of_ne (by rw [ht]; decide)]
    simp only [List.mem_singleton, forall_eq]
    cases hlb : c.metalnetCache.loadBalancerServer vni dest.ipPrefix.addr.string
    · simp [removeLocalRoute_lb_none h4 ht hlb, h4]
    · simp [removeLocalRoute_lb h4 ht hlb, h4]
  | STANDARD | NAT =>
    refine iff_of_true (fun e he msg => ?_) ⟨h4, nofun⟩
    obtain ⟨p, rfl⟩ := c.mem_removeRouteEffects _ _ _ he
    first
    | rw [removeLocalRoute_standard h4 ht]; exact nofun
    | rw [removeLocalRoute_nat h4 ht]; exact nofun

/-- On the dataplane's tables, keyed either way, from any state, `AddRoute` and `RemoveRoute` return
nil exactly when the IPv4-only mode does not refuse the destination and, for a load-balancer target,
a load balancer is registered for the VNI and the destination's address: every call they make is
answered with success or with a status they ignore. -/
theorem addRoute_removeRoute_err_tables (key : RouteKey) (t : Tables) (vni : UInt32)
    (dest : Destination) (hop : NextHop) :
    ((c.addRoute (Tables.dataplane key) t vni dest hop).err = none ↔
      (c.config.ipv4Only = false ∨ dest.ipVersion = .IPV4) ∧
        (hop.type = .LOADBALANCER_TARGET →
          (c.metalnetCache.loadBalancerServer vni dest.ipPrefix.addr.string).isSome)) ∧
    ((c.removeRoute (Tables.dataplane key) t vni dest hop).err = none ↔
      (c.config.ipv4Only = false ∨ dest.ipVersion = .IPV4) ∧
        (hop.type = .LOADBALANCER_TARGET →
          (c.metalnetCache.loadBalancerServer vni dest.ipPrefix.addr.string).isSome)) := by
  rw [← not_refuses_iff]
  exact ⟨joinErrors_eq_none_iff.trans ((Tables.runEffects_errors_eq_nil key t _
      (c.addRouteEffects_ignoresDuplicates vni dest hop)).trans (addRouteEffects_ne_fail_iff c)),
    joinErrors_eq_none_iff.trans ((Tables.runEffects_errors_eq_nil key t _
      (c.removeRouteEffects_ignoresDuplicates vni dest hop)).trans (removeRouteEffects_ne_fail_iff c))⟩

/-! ## How each realization ends -/

/-- A realization of `AddRoute` is skipped exactly when the preferred-network filter skips a
load-balancer target: a load balancer is registered for the VNI and the destination's address, and
the target lies outside the preferred network. -/
theorem skip_mem_addRouteEffects_iff :
    Effect.skip ∈ c.addRouteEffects vni dest hop ↔ ¬ c.Refuses dest ∧
      hop.type = .LOADBALANCER_TARGET ∧
      ∃ uid, c.metalnetCache.loadBalancerServer vni dest.ipPrefix.addr.string = some uid ∧
        c.config.outsidePreferredNetwork hop.targetAddress = true := by
  by_cases h4 : c.Refuses dest
  · refine iff_of_false (fun h => ?_) fun h => h.1 h4
    obtain ⟨p, hp⟩ := c.mem_addRouteEffects _ _ _ h
    exact nomatch hp.trans (addLocalRoute_refused h4)
  rw [and_iff_right h4]
  cases ht : hop.type with
  | LOADBALANCER_TARGET =>
    rw [c.addRouteEffects_of_ne (by rw [ht]; decide), List.mem_singleton]
    simp only [addLocalRoute, if_neg h4, ht, if_true, true_and]
    cases c.metalnetCache.loadBalancerServer vni dest.ipPrefix.addr.string with
    | none => simp
    | some uid =>
      by_cases hout : c.config.outsidePreferredNetwork hop.targetAddress = true <;> simp [hout]
  | STANDARD | NAT =>
    refine iff_of_false (fun h => ?_) fun h => nomatch h.1
    obtain ⟨p, hp⟩ := c.mem_addRouteEffects _ _ _ h
    first
    | exact nomatch hp.trans (addLocalRoute_standard h4 ht)
    | exact nomatch hp.trans (addLocalRoute_nat h4 ht)

/-- No realization of `RemoveRoute` is skipped. -/
theorem skip_not_mem_removeRouteEffects : Effect.skip ∉ c.removeRouteEffects vni dest hop :=
  fun h => by
    obtain ⟨p, hp⟩ := c.mem_removeRouteEffects _ _ _ h
    revert hp
    unfold removeLocalRoute
    split_ifs <;> (try split) <;> exact nofun

/-- On any dataplane, whatever it answers, `AddRoute` and `RemoveRoute` issue the calls they issue
when every call succeeds, and run every realization: they return nil exactly when each succeeded,
and otherwise the errors of exactly the failed ones, joined by newlines. A realization succeeds
when its call is answered with success or with a status on its ignore list, which is exactly its
call's duplicate statuses (`ROUTE_EXISTS`, or `ALREADY_EXISTS`, for a create; `NO_VNI` and
`ROUTE_NOT_FOUND`, `NOT_FOUND`, or `NOT_FOUND`, `NO_BACKIP` and `NO_LB`, for a delete), or when it
is skipped, which only the preferred-network filter of `AddRoute` does; a gRPC error is a failure.
A realization fails before any call exactly when the IPv4-only mode refuses the destination or no
load balancer is registered for a load-balancer target. -/
theorem addRoute_removeRoute_aggregate (dp : Dataplane σ) (s : σ) (vni : UInt32)
    (dest : Destination) (hop : NextHop) :
    Aggregates (c.addRouteEffects vni dest hop) (c.addRoute dp s vni dest hop) ∧
      (c.addRoute dp s vni dest hop).calls =
        (c.addRoute Dataplane.succeeding () vni dest hop).calls ∧
      Aggregates (c.removeRouteEffects vni dest hop) (c.removeRoute dp s vni dest hop) ∧
      (c.removeRoute dp s vni dest hop).calls =
        (c.removeRoute Dataplane.succeeding () vni dest hop).calls ∧
      (∀ e ∈ c.addRouteEffects vni dest hop, e.IgnoresDuplicates) ∧
      (∀ e ∈ c.removeRouteEffects vni dest hop, e.IgnoresDuplicates) ∧
      ((∀ e ∈ c.addRouteEffects vni dest hop, ∀ msg, e ≠ .fail msg) ↔ ¬ c.Refuses dest ∧
        (hop.type = .LOADBALANCER_TARGET →
          (c.metalnetCache.loadBalancerServer vni dest.ipPrefix.addr.string).isSome)) ∧
      ((∀ e ∈ c.removeRouteEffects vni dest hop, ∀ msg, e ≠ .fail msg) ↔ ¬ c.Refuses dest ∧
        (hop.type = .LOADBALANCER_TARGET →
          (c.metalnetCache.loadBalancerServer vni dest.ipPrefix.addr.string).isSome)) ∧
      (Effect.skip ∈ c.addRouteEffects vni dest hop ↔ ¬ c.Refuses dest ∧
        hop.type = .LOADBALANCER_TARGET ∧
        ∃ uid, c.metalnetCache.loadBalancerServer vni dest.ipPrefix.addr.string = some uid ∧
          c.config.outsidePreferredNetwork hop.targetAddress = true) ∧
      Effect.skip ∉ c.removeRouteEffects vni dest hop :=
  ⟨runAll_aggregates dp s _,
    (runAll_aggregates dp s _).calls.trans (runAll_aggregates _ () _).calls.symm,
    runAll_aggregates dp s _,
    (runAll_aggregates dp s _).calls.trans (runAll_aggregates _ () _).calls.symm,
    c.addRouteEffects_ignoresDuplicates vni dest hop,
    c.removeRouteEffects_ignoresDuplicates vni dest hop,
    addRouteEffects_ne_fail_iff c, removeRouteEffects_ne_fail_iff c,
    skip_mem_addRouteEffects_iff c, skip_not_mem_removeRouteEffects c⟩

end MetalnetClient

end Metalnet.Metalbond
