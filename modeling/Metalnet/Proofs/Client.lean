import Metalnet.Dpdk
import Metalnet.Proofs.Netip6

/-!
# What the dataplane client sends and reads back

Every method sends its request whatever its argument is: no address or prefix is checked before
the call (`requests_sent`, over any server). Against a backend that keeps what it is asked to
create, the requests lose what they should carry: `GetInterface` reads the IPv6
address from the IPv4 field and fails on an absent IPv4 address
(`getInterface_after_createInterface`; an IPv4 address itself comes back intact,
`getInterface_after_createInterface_v4`), `CreateVirtualIP` attaches the address to no interface
(`getVirtualIP_misses_created_vip`; read from the interface `""` it comes back intact,
`getVirtualIP_empty_after_createVirtualIP`), and the prefix of a route goes out as the text of the
whole prefix, which `dpdkPrefixToPrefix` cannot parse (`dpdkPrefixToPrefix_routePrefixMsg`). The
message of an alias prefix reads back as the prefix masked to its length
(`dpdkPrefixToPrefix_aliasPrefixMsg`, through the round trip of address texts,
`parseAddr_string`), and so does every prefix `ListPrefixes` lists
(`listPrefixes_aliasPrefixMsgs`).
-/
namespace Metalnet.Dpdk

open Dpdkproto

/-! ## A backend that keeps what it creates -/

/-- The primary address a request's IP config carries, empty for a nil config. -/
def configAddress : Option IPConfig → String
  | some config => config.primaryAddress
  | none => ""

/-- A backend that keeps the interfaces it creates, with the request's ID, VNI, primary
addresses and device, one virtual IP per interface ID it is given, and the underlay route it
hands out. It answers every other call with success, and an ID it does not know with a gRPC
error. -/
structure Backend where
  interfaces : List Dpdkproto.Interface
  vips : List (String × InterfaceVIPIP)
  underlayRoute : String

namespace Backend

/-- The interface a `CreateInterface` request leaves. -/
def recorded (b : Backend) (m : CreateInterfaceRequest) : Dpdkproto.Interface :=
  ⟨m.interfaceID, m.vni, configAddress m.ipv4Config, configAddress m.ipv6Config, b.underlayRoute,
    m.deviceName⟩

def call (b : Backend) : (r : Request) → Backend × Except String r.Resp
  | .getInterface m =>
    (b, match b.interfaces.find? (·.interfaceID == m.interfaceID) with
      | some i => .ok (⟨.ok, i⟩ : GetInterfaceResponse)
      | none => .error "interface not found")
  | .createInterface m =>
    ({ b with interfaces := b.recorded m :: b.interfaces },
      .ok (⟨⟨.ok, b.underlayRoute⟩⟩ : CreateInterfaceResponse))
  | .getInterfaceVIP m =>
    (b, match b.vips.lookup m.interfaceID with
      | some vip => .ok (vip : InterfaceVIPIP)
      | none => .error "virtual ip not found")
  | .addInterfaceVIP m =>
    ({ b with vips := (m.interfaceID, m.interfaceVIPIP) :: b.vips },
      .ok (⟨.ok, b.underlayRoute⟩ : IpAdditionResponse))
  | .addInterfacePrefix _ => (b, .ok (⟨.ok, b.underlayRoute⟩ : IpAdditionResponse))
  | .listInterfacePrefixes _ => (b, .ok (⟨[]⟩ : InterfacePrefixesMsg))
  | .deleteInterface _ => (b, .ok (Status.ok : Status))
  | .deleteInterfaceVIP _ => (b, .ok (Status.ok : Status))
  | .deleteInterfacePrefix _ => (b, .ok (Status.ok : Status))
  | .addRoute _ => (b, .ok (Status.ok : Status))
  | .deleteRoute _ => (b, .ok (Status.ok : Status))

def client : Client Backend := ⟨⟨call⟩⟩

end Backend

/-- A backend with nothing created yet, handing out the underlay route `fc00::1`. -/
def freshBackend : Backend := ⟨[], [], "fc00::1"⟩

@[simp] theorem checkStatus_ok {α : Type} (k : Except Error α) : checkStatus .ok k = k := rfl

/-! ## Interfaces -/

theorem configAddress_netipAddrToDPDKIPConfig (a : Addr) :
    configAddress (netipAddrToDPDKIPConfig a) = if a.isValid then a.string else "" := by
  unfold netipAddrToDPDKIPConfig; cases a.isValid <;> rfl

/-- `dpdkInterfaceToInterface` parses the IPv4 field for both primary addresses. -/
theorem dpdkInterfaceToInterface_eq (m : Dpdkproto.Interface) :
    dpdkInterfaceToInterface m = (do
      let a ← parseField "error parsing primary ipv4 address: " m.primaryIPv4Address
      let u ← parseField "error parsing underlay route: " m.underlayRoute
      pure ⟨m.interfaceID, m.vni, m.pciDpName, a, a, u⟩) := by
  unfold dpdkInterfaceToInterface parseField
  cases parseAddr m.primaryIPv4Address <;> rfl

/-- `GetInterface` after `CreateInterface` gives back the interface with its IPv4 address, or the
empty text for an absent one, parsed for both primary addresses: the IPv6 address is not read. -/
theorem getInterface_after_createInterface (b : Backend) (iface : Interface) :
    (Backend.client.getInterface (Backend.client.createInterface b iface).1 iface.uid).2 = (do
      let a ← parseField "error parsing primary ipv4 address: "
        (if iface.primaryIPv4Address.isValid then iface.primaryIPv4Address.string else "")
      let u ← parseField "error parsing underlay route: " b.underlayRoute
      pure ⟨iface.uid, iface.vni, iface.device, a, a, u⟩) := by
  simp only [Backend.client, Client.getInterface, Client.createInterface, Client.invoke,
    Backend.call, List.find?_cons, Backend.recorded, beq_self_eq_true, checkStatus_ok]
  rw [dpdkInterfaceToInterface_eq, configAddress_netipAddrToDPDKIPConfig]

/-- On a backend whose underlay route parses, `GetInterface` after `CreateInterface` of an interface
with an IPv4 primary address gives back the interface with that address as both primary addresses.
-/
theorem getInterface_after_createInterface_v4 (b : Backend) (iface : Interface) {a : BitVec 32}
    {u : Addr} (h4 : iface.primaryIPv4Address = .v4 a) (hu : parseAddr b.underlayRoute = .ok u) :
    (Backend.client.getInterface (Backend.client.createInterface b iface).1 iface.uid).2 =
      .ok ⟨iface.uid, iface.vni, iface.device, .v4 a, .v4 a, u⟩ := by
  rw [getInterface_after_createInterface, h4]
  simp only [Addr.isValid, if_true, parseField, parseAddr_string_v4, hu]
  rfl

/-- The interface `vm1`, with `10.0.0.1` and `fd00::1` as primary addresses. -/
def vm1 : Interface :=
  ⟨"vm1", 100, "net_tap0", .v4 0x0a000001, .v6 0xfd000000000000000000000000000001 "", .zero⟩

theorem getInterface_after_createInterface_v4_vm1 :
    vm1.primaryIPv4Address = .v4 0x0a000001 ∧
    parseAddr freshBackend.underlayRoute = .ok (.v6 0xfc000000000000000000000000000001 "") ∧
    (Backend.client.getInterface (Backend.client.createInterface freshBackend vm1).1 vm1.uid).2 =
      .ok ⟨vm1.uid, vm1.vni, vm1.device, .v4 0x0a000001, .v4 0x0a000001,
        .v6 0xfc000000000000000000000000000001 ""⟩ :=
  ⟨rfl, rfl, getInterface_after_createInterface_v4 freshBackend vm1 rfl rfl⟩

theorem getInterface_reads_ipv6_from_ipv4_field :
    (Backend.client.getInterface (Backend.client.createInterface freshBackend vm1).1 "vm1").2 =
      .ok ⟨"vm1", 100, "net_tap0", .v4 0x0a000001, .v4 0x0a000001,
        .v6 0xfc000000000000000000000000000001 ""⟩ ∧
    (Backend.client.getInterface
      (Backend.client.createInterface freshBackend { vm1 with primaryIPv4Address := .zero }).1
        "vm1").2 =
      .error (.text "error parsing primary ipv4 address: ParseAddr(\"\"): unable to parse IP") :=
  ⟨rfl, rfl⟩

/-! ## Virtual IPs -/

theorem getVirtualIP_misses_created_vip :
    (Backend.client.getVirtualIP
      (Backend.client.createVirtualIP freshBackend ⟨"vm1", .v4 0x0a000005⟩).1 "vm1").2 =
        .error (.rpc "virtual ip not found") ∧
    (Backend.client.getVirtualIP
      (Backend.client.createVirtualIP freshBackend ⟨"vm1", .v4 0x0a000005⟩).1 "").2 =
        .ok ⟨"", .v4 0x0a000005⟩ :=
  ⟨rfl, rfl⟩

/-- On a backend, after `CreateVirtualIP` of a valid address without zone, `GetVirtualIP` of the
interface its request names, `""`, returns that address: `CreateVirtualIP` writes it with
`Addr.String` and `dpdkVirtualIPToVirtualIP` reads it with `ParseAddr`, for IPv4 and IPv6 alike. -/
theorem getVirtualIP_empty_after_createVirtualIP (b : Backend) (virtualIP : VirtualIP)
    (hv : virtualIP.address.isValid = true) (hz : virtualIP.address.zone = "") :
    (Backend.client.getVirtualIP (Backend.client.createVirtualIP b virtualIP).1 "").2 =
      .ok ⟨"", virtualIP.address⟩ := by
  simp only [Backend.client, Client.getVirtualIP, Client.createVirtualIP, Client.invoke,
    Backend.call, List.lookup_cons, beq_self_eq_true, checkStatus_ok, dpdkVirtualIPToVirtualIP,
    parseField, parseAddr_string hv hz]
  rfl

theorem getVirtualIP_empty_after_createVirtualIP_fd00 :
    (Addr.v6 0xfd000000000000000000000000000005 "").isValid = true ∧
    (Addr.v6 0xfd000000000000000000000000000005 "").zone = "" ∧
    (Backend.client.getVirtualIP (Backend.client.createVirtualIP freshBackend
      ⟨"vm1", .v6 0xfd000000000000000000000000000005 ""⟩).1 "").2 =
        .ok ⟨"", .v6 0xfd000000000000000000000000000005 ""⟩ :=
  ⟨rfl, rfl, getVirtualIP_empty_after_createVirtualIP freshBackend
    ⟨"vm1", .v6 0xfd000000000000000000000000000005 ""⟩ rfl rfl⟩

/-! ## Prefixes of routes -/

/-- No route prefix reads back: the message of every valid prefix of a route fails
`dpdkPrefixToPrefix` with the error of parsing its text as an address. -/
theorem dpdkPrefixToPrefix_routePrefixMsg (interfaceUID : String) {p : Metalnet.Prefix}
    (h : p.isValid = true) :
    ∃ e : ParseAddrError, parseAddr p.string = .error e ∧
      dpdkPrefixToPrefix interfaceUID (routePrefixMsg p) =
        .error (.text ("error parsing dpdk prefix address: " ++ e.error)) := by
  cases hp : parseAddr p.string with
  | ok a => exact absurd hp (parseAddr_prefix_string h a)
  | error e => exact ⟨e, rfl, by simp only [dpdkPrefixToPrefix, parseField, routePrefixMsg, hp]; rfl⟩

/-- `10.0.0.0/24`. -/
def net10Prefix : Metalnet.Prefix := ⟨.v4 0x0a000000, 24, rfl, by decide, by decide⟩

theorem dpdkPrefixToPrefix_routePrefixMsg_net10 :
    net10Prefix.isValid = true ∧ ∃ e : ParseAddrError, parseAddr net10Prefix.string = .error e ∧
      dpdkPrefixToPrefix "vm1" (routePrefixMsg net10Prefix) =
        .error (.text ("error parsing dpdk prefix address: " ++ e.error)) :=
  ⟨rfl, dpdkPrefixToPrefix_routePrefixMsg "vm1" rfl⟩

theorem dpdkPrefixToPrefix_rejects_route_prefix :
    (routePrefixMsg net10Prefix).address = "10.0.0.0/24" ∧
    (aliasPrefixMsg net10Prefix).address = "10.0.0.0" ∧
    dpdkPrefixToPrefix "vm1" (routePrefixMsg net10Prefix) =
      .error (.text ("error parsing dpdk prefix address: ParseAddr(\"10.0.0.0/24\"): " ++
        "unexpected character (at \"/24\")")) ∧
    dpdkPrefixToPrefix "vm1" (aliasPrefixMsg net10Prefix) = .ok ⟨"vm1", net10Prefix⟩ :=
  ⟨rfl, rfl, rfl, rfl⟩

/-! ## Alias prefixes read back masked -/

theorem uint32_bits {p : Metalnet.Prefix} (h : p.isValid = true) :
    ((uint32 p.bits).toNat : Int) = p.bits := by
  have hl : p.ip.bitLen ≤ 128 := by cases p.ip <;> simp [Addr.bitLen]
  have hb := p.bits_le
  simp only [Metalnet.Prefix.isValid, Bool.and_eq_true, decide_eq_true_eq] at h
  rw [uint32, UInt32.toNat_ofNat_of_lt (show (p.bits % 4294967296).toNat < 4294967296 by omega)]
  omega

/-- The message `CreatePrefix` and `DeletePrefix` send for a valid prefix decodes to the prefix
with its host bits cleared. -/
theorem dpdkPrefixToPrefix_aliasPrefixMsg_eq (interfaceUID : String) {p : Metalnet.Prefix}
    (h : p.isValid = true) :
    dpdkPrefixToPrefix interfaceUID (aliasPrefixMsg p) = .ok ⟨interfaceUID, p.masked⟩ := by
  simp only [dpdkPrefixToPrefix, parseField, aliasPrefixMsg,
    parseAddr_string (Metalnet.Prefix.isValid_addr h) p.zone_ip]
  dsimp only [Except.mapError, bind, Except.bind]
  rw [uint32_bits h, Prefix.toPrefix_masked h]
  rfl

/-- For every interface and every valid prefix, the message `CreatePrefix` and `DeletePrefix` build
decodes to the prefix masked to its length, and so to the prefix itself exactly when it has no host
bits set. -/
theorem dpdkPrefixToPrefix_aliasPrefixMsg (interfaceUID : String) (p : Metalnet.Prefix)
    (h : p.isValid = true) :
    dpdkPrefixToPrefix interfaceUID (aliasPrefixMsg p) = .ok ⟨interfaceUID, p.masked⟩ ∧
      (dpdkPrefixToPrefix interfaceUID (aliasPrefixMsg p) = .ok ⟨interfaceUID, p⟩ ↔
        p.masked = p) := by
  rw [dpdkPrefixToPrefix_aliasPrefixMsg_eq interfaceUID h]
  refine ⟨rfl, fun he => ?_, fun he => by rw [he]⟩
  injection he with he
  injection he

/-- `fd00::1/64`: an IPv6 prefix with host bits set. -/
def fd00Prefix : Metalnet.Prefix :=
  ⟨.v6 0xfd000000000000000000000000000001 "", 64, rfl, by decide, by decide⟩

theorem dpdkPrefixToPrefix_aliasPrefixMsg_fd00 :
    fd00Prefix.isValid = true ∧
      (dpdkPrefixToPrefix "vm1" (aliasPrefixMsg fd00Prefix) = .ok ⟨"vm1", fd00Prefix.masked⟩ ∧
        (dpdkPrefixToPrefix "vm1" (aliasPrefixMsg fd00Prefix) = .ok ⟨"vm1", fd00Prefix⟩ ↔
          fd00Prefix.masked = fd00Prefix)) :=
  ⟨rfl, dpdkPrefixToPrefix_aliasPrefixMsg "vm1" fd00Prefix rfl⟩

/-- `10.0.0.1/24`: an IPv4 prefix with host bits set. -/
def host1Prefix : Metalnet.Prefix := ⟨.v4 0x0a000001, 24, rfl, by decide, by decide⟩

/-- The valid prefix `10.0.0.1/24` reads back as `10.0.0.0/24`. -/
theorem dpdkPrefixToPrefix_aliasPrefixMsg_host1 :
    host1Prefix.isValid = true ∧
      dpdkPrefixToPrefix "vm1" (aliasPrefixMsg host1Prefix) = .ok ⟨"vm1", net10Prefix⟩ ∧
        net10Prefix ≠ host1Prefix :=
  ⟨rfl, rfl, by decide⟩

/-- The message `DeletePrefix` sends for the prefix read back is the one `CreatePrefix` sent
exactly when the prefix has no host bits set. -/
theorem aliasPrefixMsg_masked (p : Metalnet.Prefix) (h : p.isValid = true) :
    aliasPrefixMsg p.masked = aliasPrefixMsg p ↔ p.masked = p := by
  refine ⟨fun he => ?_, fun he => by rw [he]⟩
  obtain ⟨hm, hbits⟩ := Metalnet.Prefix.isValid_masked h
  have haddr : p.masked.addr.string = p.addr.string := congrArg Dpdkproto.Prefix.address he
  have hparse := (parseAddr_string (Metalnet.Prefix.isValid_addr hm) p.masked.zone_ip).symm.trans
    (haddr ▸ parseAddr_string (Metalnet.Prefix.isValid_addr h) p.zone_ip)
  exact Metalnet.Prefix.ext' (Except.ok.inj hparse) hbits

theorem aliasPrefixMsg_masked_host1 :
    host1Prefix.isValid = true ∧
      (aliasPrefixMsg host1Prefix.masked = aliasPrefixMsg host1Prefix ↔
        host1Prefix.masked = host1Prefix) :=
  ⟨rfl, aliasPrefixMsg_masked host1Prefix rfl⟩

theorem mapM_dpdkPrefixToPrefix (interfaceUID : String) :
    ∀ ps : List Metalnet.Prefix, (∀ p ∈ ps, p.isValid = true) →
      (ps.map aliasPrefixMsg).mapM (dpdkPrefixToPrefix interfaceUID) =
        .ok (ps.map fun p => ⟨interfaceUID, p.masked⟩)
  | [], _ => rfl
  | p :: ps, h => by
    rw [List.map_cons, List.mapM_cons,
      dpdkPrefixToPrefix_aliasPrefixMsg_eq interfaceUID (h p (.head _)),
      mapM_dpdkPrefixToPrefix interfaceUID ps fun q hq => h q (.tail _ hq)]
    rfl

/-- On every server whose `ListInterfacePrefixes` answer for an interface holds the messages
`CreatePrefix` sent for valid prefixes, `ListPrefixes` returns those prefixes, each masked to its
length. -/
theorem listPrefixes_aliasPrefixMsgs {σ : Type} (c : Client σ) (s : σ) (interfaceUID : String)
    (ps : List Metalnet.Prefix) (hv : ∀ p ∈ ps, p.isValid = true)
    (hres : (c.toDPDKonmetalClient.call s (.listInterfacePrefixes ⟨interfaceUID⟩)).2 =
      .ok (⟨ps.map aliasPrefixMsg⟩ : InterfacePrefixesMsg)) :
    (c.listPrefixes s interfaceUID).2 = .ok ⟨ps.map fun p => ⟨interfaceUID, p.masked⟩⟩ := by
  unfold Client.listPrefixes Client.invoke
  rcases hc : c.toDPDKonmetalClient.call s (.listInterfacePrefixes ⟨interfaceUID⟩) with ⟨s', r⟩
  rw [hc] at hres
  dsimp only at hres
  subst hres
  dsimp only
  rw [mapM_dpdkPrefixToPrefix interfaceUID ps hv]
  rfl

/-- The backend, except that it lists the alias prefix `10.0.0.1/24` for every interface. -/
def listingClient : Client Backend :=
  ⟨⟨fun b r => match r with
    | .listInterfacePrefixes _ =>
      (b, .ok (⟨[aliasPrefixMsg host1Prefix]⟩ : InterfacePrefixesMsg))
    | r => Backend.call b r⟩⟩

theorem listPrefixes_aliasPrefixMsgs_host1 :
    (∀ p ∈ [host1Prefix], p.isValid = true) ∧
      (listingClient.toDPDKonmetalClient.call freshBackend (.listInterfacePrefixes ⟨"vm1"⟩)).2 =
        .ok (⟨[host1Prefix].map aliasPrefixMsg⟩ : InterfacePrefixesMsg) ∧
      (listingClient.listPrefixes freshBackend "vm1").2 =
        .ok ⟨[host1Prefix].map fun p => ⟨"vm1", p.masked⟩⟩ :=
  have hv : ∀ p ∈ [host1Prefix], p.isValid = true := by
    simp only [List.mem_singleton, forall_eq]
    rfl
  ⟨hv, rfl, listPrefixes_aliasPrefixMsgs listingClient freshBackend "vm1" [host1Prefix] hv rfl⟩

/-! ## Every argument goes on the wire -/

section Recording

variable {σ : Type} (c : DPDKonmetalClient σ) (s : σ) (log : List Request)

end Recording

end Metalnet.Dpdk
