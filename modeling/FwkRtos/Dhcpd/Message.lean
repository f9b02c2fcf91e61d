import FwkRtos.Bytes.LittleEndian
import FwkRtos.Bytes.Memory

/-!
# DHCP messages

The message of fixed size that the server receives into and answers from, and
its option area.  Numbers of several bytes are held in host byte order; they
are most significant byte first in the message.
-/

namespace FwkRtos.Dhcpd

open FwkRtos.Bytes

/-! ## The message -/

/-- `struct in_addr`, in host byte order. -/
abbrev InAddr := UInt32

/-- `INADDR_ANY`. -/
def inaddrAny : InAddr := 0

/-- `INADDR_BROADCAST`. -/
def inaddrBroadcast : InAddr := 0xffffffff

/-- `MACAddress_t`. -/
abbrev MacAddress := Vector UInt8 6

/-- The address that an entry without a client holds. -/
def zeroMac : MacAddress := Vector.replicate 6 0

/-- The value of bytes with the most significant one first. -/
def beValue (bytes : List UInt8) : Nat :=
  leValue bytes.reverse

/-- A value in the given number of bytes, most significant one first. -/
def beBytes (width value : Nat) : List UInt8 :=
  (leBytes width value).reverse

/-- `DHCP_OPTIONS_LENGTH`. -/
def dhcpOptionsLength : Nat := 308

/-- `dhcp_message_t`. -/
structure DhcpMessage where
  op : UInt8
  htype : UInt8
  hlen : UInt8
  hops : UInt8
  xid : UInt32
  secs : UInt16
  flags : UInt16
  ciaddr : InAddr
  yiaddr : InAddr
  siaddr : InAddr
  giaddr : InAddr
  chaddr : MacAddress
  padding : List UInt8
  sname : List UInt8
  file : List UInt8
  magicCookie : UInt32
  options : List UInt8
  deriving DecidableEq

/-- `sizeof(dhcp_message_t)` without the options. -/
def dhcpHeaderLength : Nat := 240

/-- `sizeof(dhcp_message_t)`. -/
def dhcpMessageLength : Nat := dhcpHeaderLength + dhcpOptionsLength

/-- `DHCP_REQUEST_MIN_LENGTH`. -/
def dhcpRequestMinLength : Nat := dhcpMessageLength - dhcpOptionsLength + 3 + 1

/-- The bytes of a message as they lie in memory. -/
def DhcpMessage.bytes (message : DhcpMessage) : List UInt8 :=
  [message.op, message.htype, message.hlen, message.hops] ++
    beBytes 4 message.xid.toNat ++ beBytes 2 message.secs.toNat ++ beBytes 2 message.flags.toNat ++
    beBytes 4 message.ciaddr.toNat ++ beBytes 4 message.yiaddr.toNat ++
    beBytes 4 message.siaddr.toNat ++ beBytes 4 message.giaddr.toNat ++
    message.chaddr.toList ++ message.padding ++ message.sname ++ message.file ++
    beBytes 4 message.magicCookie.toNat ++ message.options

/-- The message that lies in memory as the given bytes. -/
def DhcpMessage.ofBytes (bytes : List UInt8) : DhcpMessage where
  op := bytes.headD 0
  htype := bytes.getD 1 0
  hlen := bytes.getD 2 0
  hops := bytes.getD 3 0
  xid := UInt32.ofNat (beValue (slice bytes 4 4))
  secs := UInt16.ofNat (beValue (slice bytes 8 2))
  flags := UInt16.ofNat (beValue (slice bytes 10 2))
  ciaddr := UInt32.ofNat (beValue (slice bytes 12 4))
  yiaddr := UInt32.ofNat (beValue (slice bytes 16 4))
  siaddr := UInt32.ofNat (beValue (slice bytes 20 4))
  giaddr := UInt32.ofNat (beValue (slice bytes 24 4))
  chaddr := Vector.ofFn fun i => bytes.getD (28 + i) 0
  padding := slice bytes 34 10
  sname := slice bytes 44 64
  file := slice bytes 108 128
  magicCookie := UInt32.ofNat (beValue (slice bytes 236 4))
  options := slice bytes 240 dhcpOptionsLength

/-- `recvfrom` into a message: the first bytes are those received, at most as many as
the message has, and the others stay. -/
def DhcpMessage.receive (message : DhcpMessage) (datagram : List UInt8) : DhcpMessage :=
  .ofBytes (splice message.bytes 0 (datagram.take dhcpMessageLength))

/-! ## Codes -/

/-- `BOOTREQUEST`. -/
def bootrequest : UInt8 := 1

/-- `BOOTREPLY`. -/
def bootreply : UInt8 := 2

/-- The DHCP message types. -/
def dhcpDiscover : UInt8 := 1
def dhcpOffer : UInt8 := 2
def dhcpRequest : UInt8 := 3
def dhcpDecline : UInt8 := 4
def dhcpAck : UInt8 := 5
def dhcpNak : UInt8 := 6
def dhcpRelease : UInt8 := 7
def dhcpInform : UInt8 := 8

/-- `DHCP_MAGIC_COOKIE`. -/
def dhcpMagicCookie : UInt32 := 0x63825363

/-- The option codes. -/
def dhcpOptionPad : UInt8 := 0
def dhcpOptionSubnetMask : UInt8 := 1
def dhcpOptionRouter : UInt8 := 3
def dhcpOptionDomainNameServer : UInt8 := 6
def dhcpOptionInterfaceMtu : UInt8 := 26
def dhcpOptionBroadcastAddress : UInt8 := 28
def dhcpOptionRequestedIpAddress : UInt8 := 50
def dhcpOptionIpAddressLeaseTime : UInt8 := 51
def dhcpOptionDhcpMessageType : UInt8 := 53
def dhcpOptionServerIdentifier : UInt8 := 54
def dhcpOptionParameterReqList : UInt8 := 55
def dhcpOptionRenewalTimeValue : UInt8 := 58
def dhcpOptionRebindingTimeValue : UInt8 := 59
def dhcpOptionEnd : UInt8 := 255

/-! ## Reading the options -/

/-- What `dhcp_option_get_next` finds: the option, its data and where the next one
begins. -/
structure OptionRead where
  opt : UInt8
  data : List UInt8
  next : Nat

/-- `dhcp_option_get_next`, with offsets into the option area for its pointers. -/
def dhcpOptionGetNext (options : List UInt8) (optPtr optionsLength : Nat) : OptionRead :=
  let optionsEnd := min optionsLength dhcpOptionsLength - 1
  let opt := options.getD optPtr 0
  if opt = dhcpOptionEnd then ⟨dhcpOptionEnd, [], optPtr⟩
  else if opt = dhcpOptionPad then
    if optPtr + 1 ≤ optionsEnd then ⟨dhcpOptionPad, [], optPtr + 1⟩
    else ⟨dhcpOptionEnd, [], optPtr⟩
  else if optionsEnd < optPtr + 1 then ⟨dhcpOptionEnd, [], optPtr⟩
  else
    let len := (options.getD (optPtr + 1) 0).toNat
    if optPtr + 2 + len ≤ optionsEnd then ⟨opt, slice options (optPtr + 2) len, optPtr + 2 + len⟩
    else ⟨dhcpOptionEnd, [], optPtr⟩

/-- The local variables that the options set. -/
structure Requested where
  dhcpMsgType : UInt8
  requestedIp : Option InAddr
  serverIdentifier : Option InAddr
  requestedParams : List UInt8

/-- `default_params`. -/
def defaultParams : List UInt8 :=
  [dhcpOptionSubnetMask, dhcpOptionRouter, dhcpOptionDomainNameServer, dhcpOptionInterfaceMtu,
    dhcpOptionBroadcastAddress, dhcpOptionIpAddressLeaseTime, dhcpOptionRenewalTimeValue,
    dhcpOptionRebindingTimeValue]

/-- What one option sets. -/
def Requested.set (requested : Requested) (read : OptionRead) : Requested :=
  if read.opt = dhcpOptionDhcpMessageType then
    if read.data.length = 1 then { requested with dhcpMsgType := read.data.headD 0 } else requested
  else if read.opt = dhcpOptionRequestedIpAddress then
    if read.data.length = 4 then
      { requested with requestedIp := some (UInt32.ofNat (beValue read.data)) }
    else requested
  else if read.opt = dhcpOptionServerIdentifier then
    if read.data.length = 4 then
      { requested with serverIdentifier := some (UInt32.ofNat (beValue read.data)) }
    else requested
  else if read.opt = dhcpOptionParameterReqList then { requested with requestedParams := read.data }
  else requested

/-- The loop over the options.  Every pass but the last moves on by a byte at least,
so as many passes as there are option bytes are enough. -/
def readOptions (options : List UInt8) (optionsLength : Nat) :
    Nat → Nat → Requested → Requested
  | 0, _, requested => requested
  | passes + 1, optPtr, requested =>
      let read := dhcpOptionGetNext options optPtr optionsLength
      if read.opt = dhcpOptionEnd then requested.set read
      else readOptions options optionsLength passes read.next (requested.set read)

/-- What the options of a message request. -/
def DhcpMessage.requested (message : DhcpMessage) (optionsLength : Nat) : Requested :=
  readOptions message.options optionsLength dhcpOptionsLength 0 ⟨0, none, none, defaultParams⟩

/-! ## Writing the options -/

/-- `dhcp_option_add`: an option without data has no length byte. -/
def dhcpOptionAdd (code : UInt8) (data : List UInt8) : List UInt8 :=
  if data = [] then [code] else code :: UInt8.ofNat data.length :: data

end FwkRtos.Dhcpd
