import FwkRtos.Dhcpd.Lease
import FwkRtos.Transition.Labelled

/-!
# Answering messages

The handling of one message: what its options and `ciaddr` make of it, what it
does to the pool, and the answer, which is built in the message's own buffer.
-/

namespace FwkRtos.Dhcpd

open FwkRtos.Bytes FwkRtos.Transition

/-! ## What a message is about -/

/-- `DHCP_CLIENT_STATE_*`. -/
inductive ClientState
  | none
  | discover
  | selecting
  | initReboot
  | renewing
  | informing
  | releasing
  | declining
  | pinging
  deriving DecidableEq, Repr

/-- The local variables after the first `switch` of `dhcpd_handle_op_request`. -/
structure Classified where
  state : ClientState
  requestedIp : InAddr
  client : Option Nat
  ciaddr : InAddr

/-- The first `switch` of `dhcpd_handle_op_request`. -/
def Server.classify (config : Config) (server : Server) (message : DhcpMessage)
    (requested : Requested) : Classified :=
  let requestedIp := requested.requestedIp.getD inaddrAny
  let ipRequested := requested.requestedIp.isSome = true
  let serverIdentified := requested.serverIdentifier.isSome = true
  let invalid : Classified := ⟨.none, requestedIp, .none, message.ciaddr⟩
  if requested.dhcpMsgType = dhcpDiscover then ⟨.discover, requestedIp, .none, message.ciaddr⟩
  else if requested.dhcpMsgType = dhcpRequest then
    if ipRequested ∧ serverIdentified ∧ message.ciaddr = 0 then
      if requested.serverIdentifier = some config.serverIp then
        ⟨.selecting, requestedIp, .none, message.ciaddr⟩
      else ⟨.releasing, requestedIp, server.lookupByMac message.chaddr, message.ciaddr⟩
    else if ipRequested ∧ ¬ serverIdentified ∧ message.ciaddr = 0 then
      ⟨.initReboot, requestedIp, .none, message.ciaddr⟩
    else if ¬ ipRequested ∧ ¬ serverIdentified ∧ message.ciaddr ≠ 0 then
      ⟨.renewing, message.ciaddr, .none, message.ciaddr⟩
    else if ipRequested ∧ ¬ serverIdentified ∧ message.ciaddr ≠ 0 then
      ⟨.pinging, requestedIp, .none, message.ciaddr⟩
    else invalid
  else if requested.dhcpMsgType = dhcpInform then
    if ¬ ipRequested ∧ ¬ serverIdentified ∧ message.ciaddr ≠ 0 then
      ⟨.informing, message.ciaddr, .none, message.ciaddr⟩
    else invalid
  else if requested.dhcpMsgType = dhcpDecline then
    if ipRequested ∧ serverIdentified then
      ⟨.declining, requestedIp, server.lookupByIp requestedIp, 0⟩
    else invalid
  else if requested.dhcpMsgType = dhcpRelease then
    if ¬ ipRequested ∧ serverIdentified ∧ message.ciaddr ≠ 0 then
      ⟨.releasing, requestedIp, server.lookupByIp message.ciaddr, message.ciaddr⟩
    else invalid
  else invalid

/-! ## Answers -/

/-- An answer: its type, the buffer that it is sent from, how many bytes of options
it has, and where it is sent. -/
structure Reply where
  messageType : UInt8
  message : DhcpMessage
  optionsLength : Nat
  destination : InAddr
  deriving DecidableEq

/-- The bytes of an answer on the network. -/
def Reply.datagram (reply : Reply) : List UInt8 :=
  reply.message.bytes.take (dhcpHeaderLength + reply.optionsLength)

/-- `dhcpd_send_response`. -/
def dhcpdSendResponse (messageType : UInt8) (message : DhcpMessage) (optionsLength : Nat) :
    Reply where
  messageType := messageType
  message := message
  optionsLength := optionsLength
  destination := if message.ciaddr ≠ 0 then message.ciaddr else inaddrBroadcast

/-- The fields that every answer sets alike. -/
def DhcpMessage.asReply (message : DhcpMessage) : DhcpMessage :=
  { message with
    op := bootreply
    htype := 1
    hlen := 6
    hops := 0
    secs := 0
    siaddr := 0
    sname := List.replicate 64 0
    file := List.replicate 128 0
    magicCookie := dhcpMagicCookie }

/-- Put the options at the beginning of the option area. -/
def DhcpMessage.withOptions (message : DhcpMessage) (options : List UInt8) : DhcpMessage :=
  { message with options := splice message.options 0 options }

/-- The options of an OFFER or an ACK. -/
def replyOptions (config : Config) (messageType : UInt8) (informing : Bool)
    (params : List UInt8) : List UInt8 :=
  let included (code : UInt8) (data : List UInt8) : List UInt8 :=
    if code ∈ params then dhcpOptionAdd code data else []
  dhcpOptionAdd dhcpOptionDhcpMessageType [messageType] ++
    dhcpOptionAdd dhcpOptionServerIdentifier (beBytes 4 config.serverIp.toNat) ++
    (if informing then []
      else dhcpOptionAdd dhcpOptionIpAddressLeaseTime (beBytes 4 config.leaseTime.toNat)) ++
    included dhcpOptionSubnetMask (beBytes 4 config.netmask.toNat) ++
    included dhcpOptionRouter (beBytes 4 config.gateway.toNat) ++
    included dhcpOptionDomainNameServer
      (beBytes 4 config.dns0.toNat ++ beBytes 4 config.dns1.toNat) ++
    included dhcpOptionInterfaceMtu (beBytes 2 config.networkMtu.toNat) ++
    included dhcpOptionBroadcastAddress (beBytes 4 inaddrBroadcast.toNat) ++
    included dhcpOptionRenewalTimeValue (beBytes 4 (config.leaseTime.toNat / 2)) ++
    included dhcpOptionRebindingTimeValue (beBytes 4 (config.leaseTime.toNat * 7 / 8)) ++
    dhcpOptionAdd dhcpOptionEnd []

/-- The options of a NAK. -/
def nakOptions (config : Config) : List UInt8 :=
  dhcpOptionAdd dhcpOptionDhcpMessageType [dhcpNak] ++
    dhcpOptionAdd dhcpOptionServerIdentifier (beBytes 4 config.serverIp.toNat) ++
    dhcpOptionAdd dhcpOptionEnd []

/-- The OFFER to a client that discovers, or the ACK to any other. -/
def acceptingReply (config : Config) (message : DhcpMessage) (state : ClientState)
    (params : List UInt8) : Reply :=
  let messageType := if state = .discover then dhcpOffer else dhcpAck
  let options := replyOptions config messageType (state == .informing) params
  let addressed : DhcpMessage :=
    if state = .discover then { message with ciaddr := 0 }
    else if state = .informing then { message with yiaddr := 0 }
    else message
  dhcpdSendResponse messageType (addressed.asReply.withOptions options) options.length

/-- The NAK. -/
def refusingReply (config : Config) (message : DhcpMessage) : Reply :=
  let options := nakOptions config
  dhcpdSendResponse dhcpNak
    (({ message with ciaddr := 0, yiaddr := 0 } : DhcpMessage).asReply.withOptions options)
    options.length

/-! ## One message -/

variable (lists : KernelList) (around : Surroundings) (config : Config)

/-- What is left after a message is handled: the server, the buffer, and the answer
that was sent. -/
structure Handled where
  server : Server
  message : DhcpMessage
  reply : Option Reply

/-- Release or decline the entry found. -/
def Server.giveUp (server : Server) (classified : Classified) : Server :=
  match classified.client with
  | none => server
  | some client =>
      let forgotten := if classified.ciaddr = 0 then server.setMac client zeroMac else server
      if classified.state = .declining then
        forgotten.clientUpdate lists around client .unavailable config.unavailableIpProbeInterval
      else forgotten.clientUpdate lists around client .available 0

/-- The end of `dhcpd_handle_op_request`, with `yiaddr` set. -/
def Server.respond (server : Server) (message : DhcpMessage) (state : ClientState)
    (params : List UInt8) : Handled :=
  if message.yiaddr ≠ inaddrAny ∧ message.yiaddr ≠ inaddrBroadcast then
    let reply := acceptingReply config message state params
    ⟨server, reply.message, some reply⟩
  else if message.yiaddr = inaddrBroadcast then
    let freed :=
      match server.lookupByMac message.chaddr with
      | some client => server.clientUpdate lists around client .available 0
      | none => server
    let reply := refusingReply config message
    ⟨freed, reply.message, some reply⟩
  else ⟨server, message, none⟩

/-- `dhcpd_handle_op_request`. -/
def Server.handleOpRequest (server : Server) (message : DhcpMessage) (optionsLength : Nat) :
    Option Handled :=
  let requested := message.requested optionsLength
  let classified := server.classify config message requested
  let message := { message with ciaddr := classified.ciaddr }
  match classified.state with
  | .releasing => some ⟨server.giveUp lists around config classified, message, none⟩
  | .declining => some ⟨server.giveUp lists around config classified, message, none⟩
  | .none => some ⟨server, message, none⟩
  | .pinging =>
      some (server.respond lists around config { message with yiaddr := classified.requestedIp }
        .pinging requested.requestedParams)
  | state =>
      (server.clientIpAddressLease lists around config message.chaddr classified.requestedIp
        requested.dhcpMsgType).map fun leased =>
          leased.2.respond lists around config { message with yiaddr := leased.1 } state
            requested.requestedParams

/-! ## The server's steps -/

/-- What the server does between two looks at its socket. -/
inductive Action
  | handle (message : DhcpMessage) (optionsLength : Nat)
  | sweep
  deriving DecidableEq

/-- One step of the server: a message is handled, or expired leases are released. -/
def next : LStep Server Action
  | server, .handle message optionsLength =>
      (server.handleOpRequest lists around config message optionsLength).map Handled.server
  | server, .sweep => server.releaseExpiredLeases lists around config

end FwkRtos.Dhcpd
