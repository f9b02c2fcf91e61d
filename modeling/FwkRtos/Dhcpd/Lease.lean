import FwkRtos.Dhcpd.Pool

/-!
# Selecting an address

How the server selects an address for a client that discovers, requests or
informs.  An entry that already has the client's MAC address comes first, then
the address that the client asks for, and then the first available entry.
-/

namespace FwkRtos.Dhcpd

variable (lists : KernelList) (around : Surroundings) (config : Config)

namespace Server

/-- The outcome of the part for a client that is known: an address to return, or the
address to go on with as the requested one. -/
inductive Known
  | done (ip : InAddr) (server : Server)
  | goOn (requestedIp : InAddr) (server : Server)

/-- Forget the client of an entry whose address is in use elsewhere. -/
def withdraw (server : Server) (client : Nat) : Server :=
  (server.setMac client zeroMac).clientUpdate lists around client .unavailable
    config.unavailableIpProbeInterval

/-- The part of `dhcpd_client_ip_address_lease` for a client that has an entry. -/
def leaseKnown (server : Server) (client : Nat) (requestedIp : InAddr) (requestType : UInt8) :
    Known :=
  let ip := (server.infos client).ip
  if requestType = dhcpRequest ∧ ip ≠ requestedIp then .done inaddrBroadcast server
  else if requestType ≠ dhcpInform then
    let expiration :=
      if requestType = dhcpDiscover then config.offerExpirationTime else config.leaseTime
    let state := if requestType = dhcpDiscover then IpState.offered else .leased
    let probes := config.probeNewIpAddresses = true ∧ requestType = dhcpDiscover ∧
      (server.infos client).state ≠ .leased
    let probed := if probes then server.addressInUse around ip else (false, server)
    if probed.1 then
      .goOn (if requestedIp = ip then inaddrAny else requestedIp)
        (probed.2.withdraw lists around config client)
    else .done ip (probed.2.clientUpdate lists around client state expiration)
  else if ip = requestedIp then
    .done ip (server.clientUpdate lists around client .static 0)
  else
    .goOn requestedIp ((server.setMac client zeroMac).clientUpdate lists around client .available 0)

/-- Offer an entry to a client, unless a probe finds its address in use. -/
def offer (server : Server) (client : Nat) (mac : MacAddress) : Bool × Server :=
  let ip := (server.infos client).ip
  let probed :=
    if config.probeNewIpAddresses then server.addressInUse around ip else (false, server)
  if probed.1 then (false, probed.2.withdraw lists around config client)
  else
    (true, (probed.2.setMac client mac).clientUpdate lists around client .offered
      config.offerExpirationTime)

/-- The endless loop that offers the first available entry; `none` when the passes do
not suffice. -/
def offerOldest (mac : MacAddress) : Nat → Server → Option (InAddr × Server)
  | 0, _ => none
  | passes + 1, server =>
      match server.getOldestDisconnected with
      | none => some (inaddrAny, server)
      | some client =>
          let offered := server.offer lists around config client mac
          if offered.1 then some ((server.infos client).ip, offered.2)
          else offerOldest mac passes offered.2

/-- The entry of the requested address, when there is one and it is available. -/
def requestedAvailable (server : Server) (requestedIp : InAddr) : Option Nat :=
  if requestedIp = inaddrAny then none
  else (server.lookupByIp requestedIp).filter fun client => (server.infos client).state = .available

/-- The part of `dhcpd_client_ip_address_lease` for a client without an entry.  An
informing client's entry gets the value of the comparison as its state. -/
def leaseUnknown (server : Server) (mac : MacAddress) (requestedIp : InAddr)
    (requestType : UInt8) : Option (InAddr × Server) :=
  if requestType = dhcpDiscover then
    match server.requestedAvailable requestedIp with
    | some client =>
        let offered := server.offer lists around config client mac
        if offered.1 then some ((server.infos client).ip, offered.2)
        else offered.2.offerOldest lists around config mac (server.pool.length + 1)
    | none => server.offerOldest lists around config mac (server.pool.length + 1)
  else if requestType = dhcpInform then
    match server.requestedAvailable requestedIp with
    | some client =>
        some ((server.infos client).ip,
          (server.setMac client mac).clientUpdate lists around client
            (.ofComparison (requestType == dhcpIpStateStatic)) 0)
    | none => some (inaddrAny, server)
  else some (inaddrAny, server)

/-- `dhcpd_client_ip_address_lease`. -/
def clientIpAddressLease (server : Server) (mac : MacAddress) (requestedIp : InAddr)
    (requestType : UInt8) : Option (InAddr × Server) :=
  match server.lookupByMac mac with
  | some client =>
      match server.leaseKnown lists around config client requestedIp requestType with
      | .done ip after => some (ip, after)
      | .goOn requestedIp after =>
          after.leaseUnknown lists around config mac requestedIp requestType
  | none => server.leaseUnknown lists around config mac requestedIp requestType

end Server

end FwkRtos.Dhcpd
