import Metalnet.Netip

/-!
# `MetalnetClient`

The callbacks of `metalbond_client.go`. `addLocalRoute` and `removeLocalRoute` realize one
announcement in one VNI with at most one call to the dataplane; they are modelled as the call
they make (an `Effect`), and running an effect on a `Dataplane` issues the call. `AddRoute` and
`RemoveRoute` run the local realization and one per peered VNI, in order, and join the errors of
all of them; `CleanupNotPeeredRoutes` lists a VNI's routes and deletes those whose next hop is
not peered, stopping at the first failed delete.
-/

namespace Metalnet.Metalbond

/-- `mbproto.NextHopType`. -/
inductive NextHopType where
  | STANDARD
  | NAT
  | LOADBALANCER_TARGET
  deriving DecidableEq

/-- `mb.IPVersion`. -/
inductive IPVersion where
  | IPV4
  | IPV6
  deriving DecidableEq

/-- `mb.Destination`. -/
structure Destination where
  ipVersion : IPVersion
  ipPrefix : Prefix
  deriving DecidableEq

/-- `mb.NextHop`, without `TargetVNI`, which the client never reads. -/
structure NextHop where
  targetAddress : Addr
  type : NextHopType
  natPortRangeFrom : UInt16
  natPortRangeTo : UInt16
  deriving DecidableEq

/-- `sets.Set[uint32]`, in the order `UnsortedList` gives. -/
structure PeerSet where
  unsortedList : List UInt32
  nodup : unsortedList.Nodup

def PeerSet.empty : PeerSet := ⟨[], List.nodup_nil⟩

def PeerSet.has (set : PeerSet) (v : UInt32) : Bool := set.unsortedList.contains v

/-- The reads of `internal.MetalnetCache` the client makes: the peer set of a VNI, its
peered-prefix allow-lists by peer, and the load balancer registered for a VNI and address. -/
structure MetalnetCache where
  peerVnis : UInt32 → Option PeerSet
  peeredPrefixes : UInt32 → Option (UInt32 → Option (List Prefix))
  loadBalancerServer : UInt32 → String → Option String

namespace MetalnetCache

/-- `GetPeerVnis`: an unknown VNI gives the empty set and `false`. -/
def getPeerVnis (m : MetalnetCache) (vni : UInt32) : PeerSet × Bool :=
  match m.peerVnis vni with
  | some set => (set, true)
  | none => (PeerSet.empty, false)

/-- `GetPeeredPrefixes`: an unknown VNI gives the empty map and `false`. -/
def getPeeredPrefixes (m : MetalnetCache) (vni : UInt32) :
    (UInt32 → Option (List Prefix)) × Bool :=
  match m.peeredPrefixes vni with
  | some peeredPrefixes => (peeredPrefixes, true)
  | none => (fun _ => none, false)

end MetalnetCache

/-- `ClientOptions`. The preferred network enters through its membership test on a target
address, `PreferredNetwork.Contains(net.ParseIP(a.String()))`. -/
structure ClientOptions where
  ipv4Only : Bool
  preferredNetwork : Option (Addr → Bool)

/-- Whether the preferred-network check of `addLocalRoute` drops a load-balancer target. -/
def ClientOptions.outsidePreferredNetwork (o : ClientOptions) (a : Addr) : Bool :=
  match o.preferredNetwork with
  | some contains => !contains a
  | none => false

/-- `MetalnetClient` with its configuration and topology cache; the dataplane client is the
`Dataplane` each operation runs on. -/
structure MetalnetClient where
  config : ClientOptions
  metalnetCache : MetalnetCache

/-! ## The dataplane calls -/

/-- `dpdk.RouteNextHop`. -/
structure RouteNextHop where
  vni : UInt32
  ip : Addr
  deriving DecidableEq

/-- `dpdk.Route`: its VNI, prefix and next hop. -/
structure Route where
  vni : UInt32
  ipPrefix : Prefix
  nextHop : RouteNextHop
  deriving DecidableEq

/-- `dpdk.NeighborNat`. -/
structure NeighborNat where
  natIP : Addr
  vni : UInt32
  minPort : UInt32
  maxPort : UInt32
  underlayRoute : Addr
  deriving DecidableEq

/-- `dpdk.LoadBalancerTarget`. -/
structure LoadBalancerTarget where
  loadbalancerID : String
  targetIP : Addr
  deriving DecidableEq

/-- The calls of `dpdkclient.Client` the callbacks make, with their arguments. -/
inductive Call where
  | createLoadBalancerTarget (lbTarget : LoadBalancerTarget)
  | createNeighborNat (nat : NeighborNat)
  | createRoute (route : Route)
  | deleteLoadBalancerTarget (loadbalancerID : String) (targetIP : Addr)
  | deleteNeighborNat (nat : NeighborNat)
  | deleteRoute (vni : UInt32) (ipPrefix : Prefix)
  deriving DecidableEq

/-- The dataplane objects the calls create and delete: a route, known by its VNI and prefix, a
NAT entry, a load-balancer target. -/
inductive Object where
  | route (vni : UInt32) (ipPrefix : Prefix)
  | nat (nat : NeighborNat)
  | lbTarget (lbTarget : LoadBalancerTarget)
  deriving DecidableEq

namespace Call

/-- The object a call creates or deletes. -/
def target : Call → Object
  | createLoadBalancerTarget lb => .lbTarget lb
  | createNeighborNat nat => .nat nat
  | createRoute route => .route route.vni route.ipPrefix
  | deleteLoadBalancerTarget id ip => .lbTarget ⟨id, ip⟩
  | deleteNeighborNat nat => .nat nat
  | deleteRoute vni p => .route vni p

def isCreate : Call → Bool
  | createLoadBalancerTarget _ | createNeighborNat _ | createRoute _ => true
  | _ => false

end Call

/-- The status codes of `dpdkerrors` the client names; `other` stands for every other code. -/
inductive ErrorCode where
  | ALREADY_EXISTS
  | NOT_FOUND
  | ROUTE_EXISTS
  | ROUTE_NOT_FOUND
  | NO_VNI
  | NO_BACKIP
  | NO_LB
  | other (code : Int)
  deriving DecidableEq

/-- What the dataplane answers a call: success, a status error with its code and text, or a
transport error with its text. -/
inductive Outcome where
  | ok
  | status (code : ErrorCode) (text : String)
  | transport (text : String)
  deriving DecidableEq

/-- The error a call returns with `dpdkerrors.Ignore(ignore...)`: status codes on the list are
absorbed, transport errors never. -/
def Outcome.err (ignore : List ErrorCode) : Outcome → Option String
  | .ok => none
  | .status code text => if code ∈ ignore then none else some text
  | .transport text => some text

/-- The dataplane behind `dpdkclient.Client`: what each call does to its state and answers, and
what `ListRoutes` lists for a VNI. -/
structure Dataplane (σ : Type) where
  exec : σ → Call → σ × Outcome
  listRoutes : σ → UInt32 → Except String (List Route)

/-- What one `addLocalRoute` or `removeLocalRoute` does: return an error before any call, return
nil without a call, or make one call whose status codes in `ignore` are absorbed and whose other
errors come back as `context: error`. -/
inductive Effect where
  | fail (msg : String)
  | skip
  | issue (call : Call) (ignore : List ErrorCode) (context : String)
  deriving DecidableEq

namespace Effect

def call? : Effect → Option Call
  | issue call _ _ => some call
  | _ => none

/-- The error a realization returns, given its call and the answer to it. -/
def error : Effect → Option (Call × Outcome) → Option String
  | fail msg, _ => some msg
  | skip, _ => none
  | issue _ ignore context, x => (x.bind fun x => x.2.err ignore).map (context ++ ": " ++ ·)

variable {σ : Type}

/-- A realization on the dataplane: the state after it, its call with the answer, and its
error. -/
def run (dp : Dataplane σ) (s : σ) (e : Effect) : σ × Option (Call × Outcome) × Option String :=
  match e.call? with
  | some call =>
    ((dp.exec s call).1, some (call, (dp.exec s call).2), e.error (some (call, (dp.exec s call).2)))
  | none => (s, none, e.error none)

end Effect

/-! ## `addLocalRoute` and `removeLocalRoute` -/

namespace MetalnetClient

variable (c : MetalnetClient)

/-- The error of both callbacks for a destination they refuse in IPv4-only mode. -/
def ipv4OnlyMsg : String :=
  "received non-IPv4 route will not be installed in kernel route table (IPv4-only mode)"

/-- The error of both callbacks for a load-balancer target with no registered load balancer. -/
def noLoadBalancerMsg (vni : UInt32) (ip : String) : String :=
  "no registered LoadBalancer on this client for vni " ++ toString vni ++ " and ip " ++ ip

def addLocalRoute (destVni vni : UInt32) (dest : Destination) (hop : NextHop) : Effect :=
  if c.config.ipv4Only ∧ dest.ipVersion ≠ .IPV4 then .fail ipv4OnlyMsg
  else if hop.type = .LOADBALANCER_TARGET then
    match c.metalnetCache.loadBalancerServer vni dest.ipPrefix.addr.string with
    | none => .fail (noLoadBalancerMsg vni dest.ipPrefix.addr.string)
    | some uid =>
      if c.config.outsidePreferredNetwork hop.targetAddress then .skip
      else .issue (.createLoadBalancerTarget ⟨uid, hop.targetAddress⟩) [.ALREADY_EXISTS]
        "error creating lb target"
  else if hop.type = .NAT then
    .issue (.createNeighborNat ⟨dest.ipPrefix.addr, vni, hop.natPortRangeFrom.toUInt32,
      hop.natPortRangeTo.toUInt32, hop.targetAddress⟩) [.ALREADY_EXISTS] "error nat route"
  else
    .issue (.createRoute ⟨vni, dest.ipPrefix, ⟨destVni, hop.targetAddress⟩⟩) [.ROUTE_EXISTS]
      "error creating route"

def removeLocalRoute (_destVni vni : UInt32) (dest : Destination) (hop : NextHop) : Effect :=
  if c.config.ipv4Only ∧ dest.ipVersion ≠ .IPV4 then .fail ipv4OnlyMsg
  else if hop.type = .LOADBALANCER_TARGET then
    match c.metalnetCache.loadBalancerServer vni dest.ipPrefix.addr.string with
    | none => .fail (noLoadBalancerMsg vni dest.ipPrefix.addr.string)
    | some uid =>
      .issue (.deleteLoadBalancerTarget uid hop.targetAddress) [.NOT_FOUND, .NO_BACKIP, .NO_LB]
        "error deleting lb target"
  else if hop.type = .NAT then
    .issue (.deleteNeighborNat ⟨dest.ipPrefix.addr, vni, hop.natPortRangeFrom.toUInt32,
      hop.natPortRangeTo.toUInt32, hop.targetAddress⟩) [.NOT_FOUND] "error deleting nat route"
  else
    .issue (.deleteRoute vni dest.ipPrefix) [.NO_VNI, .ROUTE_NOT_FOUND] "error deleting route"

/-! ## `AddRoute`, `RemoveRoute` and `CleanupNotPeeredRoutes` -/

/-- The allow-list check of `AddRoute` for one peer: with allow-lists known and one set for the
peer, some prefix on it must contain the destination's address. -/
def admits (peeredPrefixes : UInt32 → Option (List Prefix)) (ok : Bool) (peeredVNI : UInt32)
    (dest : Destination) : Bool :=
  if ok then
    match peeredPrefixes peeredVNI with
    | some allowedPeeredPrefixes => allowedPeeredPrefixes.any fun p => p.contains dest.ipPrefix.addr
    | none => true
  else true

/-- The realizations of `AddRoute`, in order: the local one, then, for a standard next hop, one
per admitted peer. -/
def addRouteEffects (vni : UInt32) (dest : Destination) (hop : NextHop) : List Effect :=
  c.addLocalRoute vni vni dest hop ::
    if hop.type = .STANDARD then
      ((c.metalnetCache.getPeerVnis vni).1.unsortedList.filter fun peeredVNI =>
        admits (c.metalnetCache.getPeeredPrefixes vni).1 (c.metalnetCache.getPeeredPrefixes vni).2
          peeredVNI dest).map fun peeredVNI => c.addLocalRoute vni peeredVNI dest hop
    else []

/-- The realizations of `RemoveRoute`, in order: the local one, then one per peer when the next
hop is standard. -/
def removeRouteEffects (vni : UInt32) (dest : Destination) (hop : NextHop) : List Effect :=
  c.removeLocalRoute vni vni dest hop ::
    (c.metalnetCache.getPeerVnis vni).1.unsortedList.filterMap fun peeredVNI =>
      if hop.type = .STANDARD then some (c.removeLocalRoute vni peeredVNI dest hop) else none

variable {σ : Type}

/-- The loop of `AddRoute` and `RemoveRoute`: every realization runs, whatever the ones before
it returned; each one's call and answer is kept, and the text of each error collected. -/
def runEffects (dp : Dataplane σ) : σ → List Effect →
    σ × List (Option (Call × Outcome)) × List String
  | s, [] => (s, [], [])
  | s, e :: es =>
    ((runEffects dp (e.run dp s).1 es).1, (e.run dp s).2.1 :: (runEffects dp (e.run dp s).1 es).2.1,
      (e.run dp s).2.2.toList ++ (runEffects dp (e.run dp s).1 es).2.2)

/-- `errors.New(strings.Join(errStrs, "\n"))`, or nil when there is no error. -/
def joinErrors (errStrs : List String) : Option String :=
  if errStrs = [] then none else some ("\n".intercalate errStrs)

/-- What `AddRoute` and `RemoveRoute` leave: the dataplane state, each realization's call and
answer, and the error returned (`none` for nil). -/
structure Run (σ : Type) where
  state : σ
  exchanges : List (Option (Call × Outcome))
  err : Option String

/-- The calls issued, in order. -/
def Run.calls (r : Run σ) : List Call := r.exchanges.filterMap fun x => x.map Prod.fst

def runAll (dp : Dataplane σ) (s : σ) (effects : List Effect) : Run σ :=
  ⟨(runEffects dp s effects).1, (runEffects dp s effects).2.1,
    joinErrors (runEffects dp s effects).2.2⟩

def addRoute (dp : Dataplane σ) (s : σ) (vni : UInt32) (dest : Destination) (hop : NextHop) :
    Run σ :=
  runAll dp s (c.addRouteEffects vni dest hop)

def removeRoute (dp : Dataplane σ) (s : σ) (vni : UInt32) (dest : Destination) (hop : NextHop) :
    Run σ :=
  runAll dp s (c.removeRouteEffects vni dest hop)

/-- Whether `CleanupNotPeeredRoutes` deletes a listed route: its next hop is not this VNI and,
with the peer set known, not a peer. -/
def stale (vni : UInt32) (set : PeerSet) (ok : Bool) (route : Route) : Bool :=
  route.nextHop.vni != vni && (ok && !set.has route.nextHop.vni)

/-- The loop of `CleanupNotPeeredRoutes` over the listed routes; the first failed delete ends
it with its error. -/
def cleanupLoop (dp : Dataplane σ) (vni : UInt32) (set : PeerSet) (ok : Bool) :
    σ → List Route → σ × List (Call × Outcome) × Option String
  | s, [] => (s, [], none)
  | s, route :: routes =>
    if stale vni set ok route then
      match ((dp.exec s (.deleteRoute vni route.ipPrefix)).2.err [.NO_VNI, .ROUTE_NOT_FOUND]) with
      | some e =>
        ((dp.exec s (.deleteRoute vni route.ipPrefix)).1,
          [(.deleteRoute vni route.ipPrefix, (dp.exec s (.deleteRoute vni route.ipPrefix)).2)],
          some ("error deleting route: " ++ e))
      | none =>
        let r := cleanupLoop dp vni set ok (dp.exec s (.deleteRoute vni route.ipPrefix)).1 routes
        (r.1, (.deleteRoute vni route.ipPrefix, (dp.exec s (.deleteRoute vni route.ipPrefix)).2) :: r.2.1,
          r.2.2)
    else cleanupLoop dp vni set ok s routes

/-- `CleanupNotPeeredRoutes`: the state after it, the deletes it issued with their answers, and
its error. -/
def cleanupNotPeeredRoutes (dp : Dataplane σ) (s : σ) (vni : UInt32) :
    σ × List (Call × Outcome) × Option String :=
  match dp.listRoutes s vni with
  | .error e => (s, [], some ("error listing dpdk routes for vni " ++ toString vni ++ ": " ++ e))
  | .ok routes =>
    cleanupLoop dp vni (c.metalnetCache.getPeerVnis vni).1 (c.metalnetCache.getPeerVnis vni).2 s
      routes

end MetalnetClient

end Metalnet.Metalbond
