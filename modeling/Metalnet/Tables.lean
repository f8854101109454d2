import Metalnet.Metalbond

/-!
# The dataplane's tables

The dataplane service is outside the repository; this is the behaviour its RPC interface
promises to the callbacks. It holds routes, neighbor NAT entries and load-balancer targets; a
create reports an object already there (`ROUTE_EXISTS`, `ALREADY_EXISTS`) and changes nothing,
a delete reports an object not there (`ROUTE_NOT_FOUND`, `NOT_FOUND`) and changes nothing, and
`DeleteRoute` takes a VNI and a prefix and removes every route of that VNI for the prefix.

Whether a route is already there is decided by `RouteKey`: by VNI and prefix, as the RPC keys
routes, or by the whole entry, for a table that keeps a set of entries.
-/

namespace Metalnet.Metalbond

/-- How the route table tells that a route is already there. -/
inductive RouteKey where
  | byPrefix
  | byEntry

def RouteKey.same : RouteKey → Route → Route → Bool
  | byPrefix, r, r' => r.vni == r'.vni && r.ipPrefix == r'.ipPrefix
  | byEntry, r, r' => r == r'

structure Tables where
  routes : List Route
  nats : List NeighborNat
  lbTargets : List LoadBalancerTarget

namespace Tables

def empty : Tables := ⟨[], [], []⟩

/-- Whether the list holds a route of this VNI and prefix. -/
def hasRoute (routes : List Route) (vni : UInt32) (p : Prefix) : Bool :=
  routes.any fun r => r.vni == vni && r.ipPrefix == p

def holds (t : Tables) : Object → Bool
  | .route vni p => hasRoute t.routes vni p
  | .nat nat => t.nats.contains nat
  | .lbTarget lb => t.lbTargets.contains lb

/-- `CreateRoute` on the route table. -/
def createRouteIn (key : RouteKey) (routes : List Route) (route : Route) : List Route × Outcome :=
  if routes.any (key.same route) then (routes, .status .ROUTE_EXISTS "route already exists")
  else (route :: routes, .ok)

/-- `DeleteRoute` on the route table: every route of the VNI for the prefix goes. -/
def deleteRouteIn (routes : List Route) (vni : UInt32) (p : Prefix) : List Route × Outcome :=
  if hasRoute routes vni p then (routes.filter fun r => !(r.vni == vni && r.ipPrefix == p), .ok)
  else (routes, .status .ROUTE_NOT_FOUND "route not found")

/-- A create in a table of whole entries. -/
def createIn {α : Type} [DecidableEq α] (l : List α) (x : α) : List α × Outcome :=
  if l.contains x then (l, .status .ALREADY_EXISTS "already exists") else (x :: l, .ok)

/-- A delete in a table of whole entries. -/
def deleteIn {α : Type} [DecidableEq α] (l : List α) (x : α) : List α × Outcome :=
  if l.contains x then (l.filter (· != x), .ok) else (l, .status .NOT_FOUND "not found")

def exec (key : RouteKey) (t : Tables) : Call → Tables × Outcome
  | .createRoute route =>
    ({ t with routes := (createRouteIn key t.routes route).1 }, (createRouteIn key t.routes route).2)
  | .deleteRoute vni p =>
    ({ t with routes := (deleteRouteIn t.routes vni p).1 }, (deleteRouteIn t.routes vni p).2)
  | .createNeighborNat nat => ({ t with nats := (createIn t.nats nat).1 }, (createIn t.nats nat).2)
  | .deleteNeighborNat nat => ({ t with nats := (deleteIn t.nats nat).1 }, (deleteIn t.nats nat).2)
  | .createLoadBalancerTarget lb =>
    ({ t with lbTargets := (createIn t.lbTargets lb).1 }, (createIn t.lbTargets lb).2)
  | .deleteLoadBalancerTarget id ip =>
    ({ t with lbTargets := (deleteIn t.lbTargets ⟨id, ip⟩).1 }, (deleteIn t.lbTargets ⟨id, ip⟩).2)

/-- The tables as the dataplane the callbacks run on; `ListRoutes` lists a VNI's routes. -/
def dataplane (key : RouteKey) : Dataplane Tables :=
  ⟨exec key, fun t vni => .ok (t.routes.filter fun r => r.vni == vni)⟩

end Tables

/-! ## The client driven by events -/

/-- A route announcement of the route-propagation protocol. -/
structure Announcement where
  vni : UInt32
  dest : Destination
  hop : NextHop
  deriving DecidableEq

/-- The events that drive the client: announcements and withdrawals from the route-propagation
protocol, and the periodic cleanup of a VNI. -/
inductive Event where
  | addRoute (a : Announcement)
  | removeRoute (a : Announcement)
  | cleanupNotPeeredRoutes (vni : UInt32)

/-- The tables after the client handles one event. -/
def Event.apply (c : MetalnetClient) (key : RouteKey) (t : Tables) : Event → Tables
  | .addRoute a => (c.addRoute (Tables.dataplane key) t a.vni a.dest a.hop).state
  | .removeRoute a => (c.removeRoute (Tables.dataplane key) t a.vni a.dest a.hop).state
  | .cleanupNotPeeredRoutes vni => (c.cleanupNotPeeredRoutes (Tables.dataplane key) t vni).1

/-- The tables after the client handles the events in order. -/
def replay (c : MetalnetClient) (key : RouteKey) (t : Tables) (events : List Event) : Tables :=
  events.foldl (Event.apply c key) t

end Metalnet.Metalbond
