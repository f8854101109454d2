import Metalnet.Netip

/-!
# `dpdk.Client`

The client of the dataplane service. Each method sends one request of the `dpdkproto` gRPC
interface and turns the answer into the client's own types: addresses go out as their text
(`Addr.String`, `Prefix.String`) with an IP version, and come back through `ParseAddr`.

The gRPC stub is one function over the requests, the answer's type depending on the request
(`Request.Resp`); each method is one call and what it makes of the answer (`invoke`). A nil
sub-message reads as its zero value, as the generated getters give it.
-/

namespace Metalnet

namespace Dpdkproto

/-- `IPVersion_IPv4` and `IPVersion_IPv6` of the `int32` enum `dpdkproto.IPVersion`. -/
def IPVersion_IPv4 : Int := 0

def IPVersion_IPv6 : Int := 1

/-- `dpdkproto.InterfaceType`, of which the client sends `InterfaceType_VirtualInterface`. -/
inductive InterfaceType where
  | VirtualInterface
  deriving DecidableEq

structure Status where
  error : Int
  message : String
  deriving DecidableEq

/-- The zero `Status`: no error. -/
def Status.ok : Status := ⟨0, ""⟩

structure IPConfig where
  ipVersion : Int
  primaryAddress : String
  deriving DecidableEq

structure CreateInterfaceRequest where
  interfaceType : InterfaceType
  interfaceID : String
  vni : UInt32
  ipv4Config : Option IPConfig
  ipv6Config : Option IPConfig
  deviceName : String
  deriving DecidableEq

structure IpAdditionResponse where
  status : Status
  underlayRoute : String
  deriving DecidableEq

structure CreateInterfaceResponse where
  response : IpAdditionResponse
  deriving DecidableEq

structure InterfaceIDMsg where
  interfaceID : String
  deriving DecidableEq

structure Interface where
  interfaceID : String
  vni : UInt32
  primaryIPv4Address : String
  primaryIPv6Address : String
  underlayRoute : String
  pciDpName : String
  deriving DecidableEq

structure GetInterfaceResponse where
  status : Status
  interface : Interface
  deriving DecidableEq

/-- `dpdkproto.InterfaceVIPIP`; as the answer of `GetInterfaceVIP` it carries a status. -/
structure InterfaceVIPIP where
  ipVersion : Int
  address : String
  status : Status
  deriving DecidableEq

structure InterfaceVIPMsg where
  interfaceID : String
  interfaceVIPIP : InterfaceVIPIP
  deriving DecidableEq

structure Prefix where
  ipVersion : Int
  address : String
  prefixLength : UInt32
  deriving DecidableEq

structure InterfacePrefixMsg where
  interfaceID : InterfaceIDMsg
  ipPrefix : Prefix
  deriving DecidableEq

structure InterfacePrefixesMsg where
  prefixes : List Prefix
  deriving DecidableEq

structure VNIMsg where
  vni : UInt32
  deriving DecidableEq

structure Route where
  ipVersion : Int
  weight : UInt32
  ipPrefix : Prefix
  nexthopVNI : UInt32
  nexthopAddress : String
  deriving DecidableEq

structure VNIRouteMsg where
  vni : VNIMsg
  route : Route
  deriving DecidableEq

/-- The calls of `DPDKonmetalClient` the client makes, with their requests. -/
inductive Request where
  | getInterface (m : InterfaceIDMsg)
  | createInterface (m : CreateInterfaceRequest)
  | deleteInterface (m : InterfaceIDMsg)
  | getInterfaceVIP (m : InterfaceIDMsg)
  | addInterfaceVIP (m : InterfaceVIPMsg)
  | deleteInterfaceVIP (m : InterfaceIDMsg)
  | listInterfacePrefixes (m : InterfaceIDMsg)
  | addInterfacePrefix (m : InterfacePrefixMsg)
  | deleteInterfacePrefix (m : InterfacePrefixMsg)
  | addRoute (m : VNIRouteMsg)
  | deleteRoute (m : VNIRouteMsg)
  deriving DecidableEq

/-- The answer of each call. -/
def Request.Resp : Request → Type
  | getInterface _ => GetInterfaceResponse
  | createInterface _ => CreateInterfaceResponse
  | deleteInterface _ => Status
  | getInterfaceVIP _ => InterfaceVIPIP
  | addInterfaceVIP _ => IpAdditionResponse
  | deleteInterfaceVIP _ => Status
  | listInterfacePrefixes _ => InterfacePrefixesMsg
  | addInterfacePrefix _ => IpAdditionResponse
  | deleteInterfacePrefix _ => Status
  | addRoute _ => Status
  | deleteRoute _ => Status

/-- `DPDKonmetalClient` over the server's state: a call is answered, or fails with a gRPC
error. -/
structure DPDKonmetalClient (σ : Type) where
  call : σ → (r : Request) → σ × Except String r.Resp

end Dpdkproto

namespace Dpdk

open Dpdkproto (Request DPDKonmetalClient)

/-- `Interface`, its metadata, spec and status in one record. -/
structure Interface where
  uid : String
  vni : UInt32
  device : String
  primaryIPv4Address : Addr
  primaryIPv6Address : Addr
  underlayRoute : Addr
  deriving DecidableEq

structure VirtualIP where
  interfaceUID : String
  address : Addr
  deriving DecidableEq

/-- `Prefix`: an alias prefix of an interface. -/
structure Prefix where
  interfaceUID : String
  ipPrefix : Metalnet.Prefix
  deriving DecidableEq

structure PrefixList where
  items : List Prefix
  deriving DecidableEq

structure RouteNextHop where
  vni : UInt32
  address : Addr
  deriving DecidableEq

structure Route where
  vni : UInt32
  ipPrefix : Metalnet.Prefix
  nextHop : RouteNextHop
  deriving DecidableEq

/-- The errors the methods return: a gRPC error as it is, a `StatusError` for a non-zero status,
and the texts of the `fmt.Errorf` errors. -/
inductive Error where
  | rpc (err : String)
  | status (errorCode : Int) (message : String)
  | text (msg : String)
  deriving DecidableEq

/-- Go's conversion `uint32(n)` of an `int`: `n` modulo `2^32`. -/
def uint32 (n : Int) : UInt32 := UInt32.ofNat (n % 4294967296).toNat

/-- `netip.ParseAddr` of a field, its error wrapped as `fmt.Errorf(context + "%w", err)`. -/
def parseField (context s : String) : Except Error Addr :=
  (parseAddr s).mapError fun e => .text (context ++ e.error)

def dpdkInterfaceToInterface (dpdkIface : Dpdkproto.Interface) : Except Error Interface := do
  let primaryIPv4Address ←
    parseField "error parsing primary ipv4 address: " dpdkIface.primaryIPv4Address
  let primaryIPv6Address ←
    parseField "error parsing primary ipv6 address: " dpdkIface.primaryIPv4Address
  let underlayRoute ← parseField "error parsing underlay route: " dpdkIface.underlayRoute
  pure ⟨dpdkIface.interfaceID, dpdkIface.vni, dpdkIface.pciDpName, primaryIPv4Address,
    primaryIPv6Address, underlayRoute⟩

/-- `netipAddrToDPDKIPVersion`: `0` for an address of neither family. -/
def netipAddrToDPDKIPVersion (addr : Addr) : Int :=
  if addr.is4 then Dpdkproto.IPVersion_IPv4
  else if addr.is6 then Dpdkproto.IPVersion_IPv6
  else 0

def netipAddrToDPDKIPConfig (addr : Addr) : Option Dpdkproto.IPConfig :=
  if !addr.isValid then none
  else some ⟨netipAddrToDPDKIPVersion addr, addr.string⟩

def dpdkVirtualIPToVirtualIP (interfaceUID : String) (dpdkVIP : Dpdkproto.InterfaceVIPIP) :
    Except Error VirtualIP := do
  let addr ← parseField "error parsing virtual ip address: " dpdkVIP.address
  pure ⟨interfaceUID, addr⟩

def dpdkPrefixToPrefix (interfaceUID : String) (dpdkPrefix : Dpdkproto.Prefix) :
    Except Error Prefix := do
  let addr ← parseField "error parsing dpdk prefix address: " dpdkPrefix.address
  match addr.toPrefix dpdkPrefix.prefixLength.toNat with
  | .error _ =>
    .error (.text ("invalid dpdk prefix length " ++ toString dpdkPrefix.prefixLength ++
      " for address " ++ addr.string))
  | .ok p => pure ⟨interfaceUID, p⟩

/-- The `dpdkproto.Prefix` that `CreatePrefix` and `DeletePrefix` send for an alias prefix. -/
def aliasPrefixMsg (p : Metalnet.Prefix) : Dpdkproto.Prefix :=
  ⟨netipAddrToDPDKIPVersion p.addr, p.addr.string, uint32 p.bits⟩

/-- The `dpdkproto.Prefix` that `CreateRoute` and `DeleteRoute` send for a route's destination:
its address is the text of the whole prefix. -/
def routePrefixMsg (p : Metalnet.Prefix) : Dpdkproto.Prefix :=
  ⟨netipAddrToDPDKIPVersion p.addr, p.string, uint32 p.bits⟩

/-- The `VNIRouteMsg` that `CreateRoute` and `DeleteRoute` send. -/
def vniRouteMsg (route : Route) : Dpdkproto.VNIRouteMsg :=
  ⟨⟨route.vni⟩, ⟨netipAddrToDPDKIPVersion route.nextHop.address, 100, routePrefixMsg route.ipPrefix,
    route.nextHop.vni, route.nextHop.address.string⟩⟩

/-- The check each method makes of the answer's status: a non-zero error is a `StatusError`. -/
def checkStatus {α : Type} (st : Dpdkproto.Status) (k : Except Error α) : Except Error α :=
  if st.error ≠ 0 then .error (.status st.error st.message) else k

/-- `client`: the client over a `DPDKonmetalClient`. -/
structure Client (σ : Type) where
  toDPDKonmetalClient : DPDKonmetalClient σ

namespace Client

variable {σ : Type} (c : Client σ)

/-- One call of the stub: the request, and what the method makes of the answer; a gRPC error is
returned as it is. -/
def invoke {α : Type} (s : σ) (r : Request) (reply : r.Resp → Except Error α) :
    σ × Except Error α :=
  match c.toDPDKonmetalClient.call s r with
  | (s', .error err) => (s', .error (.rpc err))
  | (s', .ok res) => (s', reply res)

def getInterface (s : σ) (uid : String) : σ × Except Error Interface :=
  c.invoke s (.getInterface ⟨uid⟩) fun (res : Dpdkproto.GetInterfaceResponse) =>
    checkStatus res.status (dpdkInterfaceToInterface res.interface)

def createInterface (s : σ) (iface : Interface) : σ × Except Error Interface :=
  c.invoke s (.createInterface ⟨.VirtualInterface, iface.uid, iface.vni,
      netipAddrToDPDKIPConfig iface.primaryIPv4Address,
      netipAddrToDPDKIPConfig iface.primaryIPv6Address, iface.device⟩)
    fun (res : Dpdkproto.CreateInterfaceResponse) => checkStatus res.response.status do
      let underlayRoute ← parseField "error parsing underlay route: " res.response.underlayRoute
      pure { iface with underlayRoute }

def deleteInterface (s : σ) (uid : String) : σ × Except Error Unit :=
  c.invoke s (.deleteInterface ⟨uid⟩) fun (res : Dpdkproto.Status) => checkStatus res (pure ())

def getVirtualIP (s : σ) (interfaceUID : String) : σ × Except Error VirtualIP :=
  c.invoke s (.getInterfaceVIP ⟨interfaceUID⟩) fun (res : Dpdkproto.InterfaceVIPIP) =>
    checkStatus res.status (dpdkVirtualIPToVirtualIP interfaceUID res)

/-- `CreateVirtualIP`: the request names no interface. -/
def createVirtualIP (s : σ) (virtualIP : VirtualIP) : σ × Except Error VirtualIP :=
  c.invoke s (.addInterfaceVIP ⟨"", ⟨netipAddrToDPDKIPVersion virtualIP.address,
      virtualIP.address.string, .ok⟩⟩)
    fun (res : Dpdkproto.IpAdditionResponse) => checkStatus res.status (pure virtualIP)

def deleteVirtualIP (s : σ) (interfaceUID : String) : σ × Except Error Unit :=
  c.invoke s (.deleteInterfaceVIP ⟨interfaceUID⟩) fun (res : Dpdkproto.Status) =>
    checkStatus res (pure ())

def listPrefixes (s : σ) (interfaceUID : String) : σ × Except Error PrefixList :=
  c.invoke s (.listInterfacePrefixes ⟨interfaceUID⟩) fun (res : Dpdkproto.InterfacePrefixesMsg) =>
    do
      let prefixes ← res.prefixes.mapM (dpdkPrefixToPrefix interfaceUID)
      pure ⟨prefixes⟩

def createRoute (s : σ) (route : Route) : σ × Except Error Route :=
  c.invoke s (.addRoute (vniRouteMsg route)) fun (res : Dpdkproto.Status) =>
    checkStatus res (pure route)

def deleteRoute (s : σ) (route : Route) : σ × Except Error Unit :=
  c.invoke s (.deleteRoute (vniRouteMsg route)) fun (res : Dpdkproto.Status) =>
    checkStatus res (pure ())

end Client

end Dpdk

end Metalnet
