import FwkRtos.Dhcpd.Message
import Mathlib.Data.List.Perm.Basic
import Mathlib.Logic.Function.Basic

/-!
# The address pool

Every address of the pool has an entry of its own, and all entries are linked
in one list in the order of their expiry values.  The kernel's list, the clock
and the network are what the server finds around it.
-/

namespace FwkRtos.Dhcpd

/-! ## Configuration and surroundings -/

/-- The settings of `dhcpd.h` and the addresses that `dhcpd_start` takes from it. -/
structure Config where
  serverIp : InAddr
  netmask : InAddr
  gateway : InAddr
  dns0 : InAddr
  dns1 : InAddr
  ipPoolStart : InAddr
  ipPoolEnd : InAddr
  leaseTime : UInt32
  offerExpirationTime : UInt32
  refreshInterval : Nat
  probeNewIpAddresses : Bool
  unavailableIpProbeInterval : UInt32
  networkMtu : UInt16

/-- The kernel's list: `insert value item items` is `vListInsert` of an item into a
list, each item having the given value. -/
structure KernelList where
  insert : (Nat → UInt32) → Nat → List Nat → List Nat
  perm : ∀ value item items, (insert value item items).Perm (item :: items)
  sorted : ∀ value item items,
    items.Pairwise (fun first second => value first ≤ value second) →
      (insert value item items).Pairwise fun first second => value first ≤ value second

/-- What the server cannot know beforehand: the seconds that each reading of the
clock gives, and whether each probe finds the address in use.  `timeOf` is the
conversion of a list value through `time_t`, whose width the platform chooses. -/
structure Surroundings where
  seconds : Nat → UInt64
  inUse : Nat → InAddr → Bool
  timeOf : UInt32 → UInt64

/-- `netmask_valid`: no bit is set after the first one that is not. -/
def netmaskValid (netmask : InAddr) : Bool :=
  let bits := (List.range 32).reverse.map netmask.toBitVec.getLsbD
  (bits.dropWhile id).all not

/-- `ip_netmask_compare`. -/
def ipNetmaskCompare (addr1 addr2 mask : InAddr) : Bool :=
  addr1 &&& mask = addr2 &&& mask

/-- The assertions of `dhcpd_start` on the configuration. -/
def Config.accepted (config : Config) : Bool :=
  netmaskValid config.netmask &&
    ipNetmaskCompare config.gateway config.ipPoolStart config.netmask &&
    ipNetmaskCompare config.ipPoolStart config.ipPoolEnd config.netmask &&
    config.ipPoolStart ≤ config.ipPoolEnd

/-! ## Entries -/

/-- `DHCP_IP_STATE_*`. -/
inductive IpState
  | available
  | leased
  | offered
  | static
  | unavailable
  deriving DecidableEq, Repr

/-- The state that a comparison has the value of. -/
def IpState.ofComparison : Bool → IpState
  | false => .available
  | true => .leased

/-- The value of `DHCP_IP_STATE_STATIC`. -/
def dhcpIpStateStatic : UInt8 := 3

/-- `dhcp_ip_info_t`; `value` is the value of its list item. -/
structure IpInfo where
  ip : InAddr
  state : IpState
  mac : MacAddress
  value : UInt32
  deriving DecidableEq

/-- The server's data: `infos` is the array `dhcp_ip_infos`, and `pool` the list
`dhcp_ip_pool`, by the indices of its entries.  The counters are ghosts: how often
the clock was read and an address probed. -/
structure Server where
  infos : Nat → IpInfo
  pool : List Nat
  clockReads : Nat
  probes : Nat

variable (lists : KernelList) (around : Surroundings)

namespace Server

/-- Change one entry, the list staying as it is. -/
def modify (server : Server) (client : Nat) (change : IpInfo → IpInfo) : Server :=
  { server with infos := Function.update server.infos client (change (server.infos client)) }

/-- Set the MAC address of an entry. -/
def setMac (server : Server) (client : Nat) (mac : MacAddress) : Server :=
  server.modify client fun info => { info with mac := mac }

/-- Set the state of an entry. -/
def setState (server : Server) (client : Nat) (state : IpState) : Server :=
  server.modify client fun info => { info with state := state }

/-- `rtos_time_get`. -/
def readClock (server : Server) : UInt64 × Server :=
  (around.seconds server.clockReads, { server with clockReads := server.clockReads + 1 })

/-- `dhcpd_ip_address_in_use`. -/
def addressInUse (server : Server) (ip : InAddr) : Bool × Server :=
  (around.inUse server.probes ip, { server with probes := server.probes + 1 })

/-- Remove an entry from the list and insert it again with a new value. -/
def reinsert (server : Server) (client : Nat) (value : UInt32) : Server :=
  let changed := server.modify client fun info => { info with value := value }
  { changed with
    pool := lists.insert (fun id => (changed.infos id).value) client (server.pool.erase client) }

/-- `dhcp_client_update`. -/
def clientUpdate (server : Server) (client : Nat) (state : IpState) (expiration : UInt32) :
    Server :=
  let now := server.readClock around
  ((now.2.reinsert lists client (now.1.toUInt32 + expiration)).setState client state)

/-- `dhcp_client_lookup_by_mac`. -/
def lookupByMac (server : Server) (mac : MacAddress) : Option Nat :=
  server.pool.find? fun client => (server.infos client).mac = mac

/-- `dhcp_client_lookup_by_ip`. -/
def lookupByIp (server : Server) (ip : InAddr) : Option Nat :=
  server.pool.find? fun client => (server.infos client).ip = ip

/-- `dhcp_client_get_oldest_disconnected`. -/
def getOldestDisconnected (server : Server) : Option Nat :=
  server.pool.find? fun client => (server.infos client).state = .available

end Server

/-! ## The expiry sweep -/

/-- `listGET_NEXT`: the item after the given one; `none` is the list's end marker. -/
def listGetNext (items : List Nat) (item : Nat) : Option Nat :=
  items[items.idxOf item + 1]?

/-- The value of the list's end marker, `portMAX_DELAY`. -/
def portMaxDelay : UInt32 := 0xffffffff

/-- What the sweep does to an entry whose time is over. -/
def Server.expire (config : Config) (server : Server) (client : Nat) : Server :=
  match (server.infos client).state with
  | .leased => server.setState client .available
  | .offered => server.setState client .available
  | .unavailable =>
      if config.unavailableIpProbeInterval = 0 then server
      else
        let probed := server.addressInUse around (server.infos client).ip
        if probed.1 then
          probed.2.clientUpdate lists around client .unavailable config.unavailableIpProbeInterval
        else probed.2.setState client .available
  | _ => server

/-- The loop of `dhcp_client_release_expired_leases`: the passes left, and the item
reached.  The end marker has no owner, so there is no step where its time is over. -/
def Server.sweep (config : Config) (now : UInt64) : Nat → Option Nat → Server → Option Server
  | 0, _, server => some server
  | passes + 1, none, server =>
      if around.timeOf portMaxDelay ≤ now then none
      else sweep config now passes server.pool.head? server
  | passes + 1, some client, server =>
      let swept :=
        if around.timeOf (server.infos client).value ≤ now then
          server.expire lists around config client
        else server
      sweep config now passes (listGetNext swept.pool client) swept

/-- `dhcp_client_release_expired_leases`. -/
def Server.releaseExpiredLeases (config : Config) (server : Server) : Option Server :=
  let now := server.readClock around
  now.2.sweep lists around config now.1 server.pool.length server.pool.head?

/-! ## Creation -/

/-- The address is skipped by the pool. -/
def Config.skips (config : Config) (ip : InAddr) : Bool :=
  ip &&& 0xff = 0 || ip &&& 0xff = 0xff || ip = config.serverIp || ip = config.gateway ||
    ip = config.dns0 || ip = config.dns1

/-- The loop of `dhcpd_ip_address_pool_next_valid`, from the address `ipval` on: the
address found, zero when there is none, and where the next search begins.  The
loop has so many passes left; `none` when they do not suffice. -/
def Config.nextValid (config : Config) : Nat → InAddr → InAddr → Option (InAddr × InAddr)
  | 0, _, _ => none
  | passes + 1, ipval, pool =>
      if config.ipPoolEnd < ipval then some (inaddrAny, pool)
      else if ipval < config.ipPoolStart then nextValid config passes config.ipPoolStart pool
      else if config.skips ipval then nextValid config passes (ipval + 1) pool
      else some (ipval, ipval + 1)

/-- Make entry `index` of the array and link it. -/
def Server.link (server : Server) (index : Nat) (ip : InAddr) : Server :=
  let now := server.readClock around
  let made := now.2.modify index fun _ => ⟨ip, .available, zeroMac, now.1.toUInt32⟩
  { made with pool := lists.insert (fun id => (made.infos id).value) index made.pool }

/-- The loop of `dhcpd_ip_pool_init`, with the entries left to make. -/
def Server.linkAll (config : Config) (passes : Nat) : Nat → Nat → InAddr → Server → Option Server
  | 0, _, _, server => some server
  | left + 1, index, pool, server =>
      match config.nextValid passes pool pool with
      | none => none
      | some (ip, next) =>
          if ip = inaddrAny then some server
          else linkAll config passes left (index + 1) next (server.link lists around index ip)

/-- `dhcpd_ip_pool_init`, each search for an address having so many passes; `none`
when they do not suffice. -/
def dhcpdIpPoolInit (config : Config) (passes : Nat) : Option Server :=
  Server.linkAll lists around config passes (config.ipPoolEnd - config.ipPoolStart).toNat 0
    config.ipPoolStart
    ⟨fun _ => ⟨inaddrAny, .available, zeroMac, 0⟩, [], 0, 0⟩

end FwkRtos.Dhcpd
