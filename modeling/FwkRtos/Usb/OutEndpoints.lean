import FwkRtos.Transition.Labelled
import FwkRtos.Transition.StopAndWait
import FwkRtos.Usb.ControlEndpoint

/-!
# OUT endpoints

A task starts a transfer and waits for its event flag; the interrupt handler finishes the
transfer and tells by the PID of the packet whether the host only repeated the one before,
because it missed the handshake.  All endpoints share one event group.
-/

namespace FwkRtos.Usb.Endpoints

open FwkRtos.Transition
open FwkRtos.Transition.StopAndWait

/-- `RTOS_USB_ENDPOINT_COUNT_MAX` endpoints. -/
abbrev Endpoint := Fin 12

/-! ## Addresses and event flags -/

/-- `ep_address`, as `ep_cfg` makes it. -/
def epAddress (epNum : Endpoint) (dir : Bool) : BitVec 32 :=
  BitVec.ofNat 32 dir.toNat <<< 7 ||| BitVec.ofNat 32 epNum

def endpointNum (endpointAddr : BitVec 32) : Nat :=
  (endpointAddr &&& 0xf#32).toNat

def endpointDir (endpointAddr : BitVec 32) : Nat :=
  (endpointAddr >>> 7 &&& 1#32).toNat

def epEventFlag (epNum dir : Nat) : BitVec 32 :=
  1#32 <<< (epNum + if dir ≠ 0 then 12 else 0)

/-- The flag of an endpoint in one direction. -/
def flagOf (epNum : Endpoint) (dir : Bool) : BitVec 32 :=
  epEventFlag (endpointNum (epAddress epNum dir)) (endpointDir (epAddress epNum dir))

/-- The number of the bit. -/
def bitOf (epNum : Endpoint) (dir : Bool) : Nat :=
  epNum + if dir then 12 else 0

theorem flagOf_eq : ∀ (epNum : Endpoint) (dir : Bool),
    flagOf epNum dir = BitVec.twoPow 32 (bitOf epNum dir) := by
  decide

/-- No two endpoints share a bit, and all are among the 24 bits of an event group. -/
theorem bitOf_injective {epNum other : Endpoint} {dir otherDir : Bool}
    (same : bitOf epNum dir = bitOf other otherDir) : epNum = other ∧ dir = otherDir := by
  have isNum := epNum.isLt
  have isOther := other.isLt
  cases dir <;> cases otherDir <;> simp only [bitOf] at same <;>
    refine ⟨Fin.ext ?_, ?_⟩ <;> first | rfl | (simp at same; omega)

theorem bitOf_lt (epNum : Endpoint) (dir : Bool) : bitOf epNum dir < 24 := by
  have isNum := epNum.isLt
  rw [bitOf]
  split <;> omega

/-- A flag is set. -/
def isSet (events : BitVec 32) (epNum : Endpoint) (dir : Bool) : Bool :=
  events &&& flagOf epNum dir == flagOf epNum dir

theorem isSet_eq (events : BitVec 32) (epNum : Endpoint) (dir : Bool) :
    isSet events epNum dir = events.getLsbD (bitOf epNum dir) := by
  have inside : bitOf epNum dir < 32 := (bitOf_lt epNum dir).trans (by decide)
  rw [isSet, flagOf_eq, Bool.eq_iff_iff, beq_iff_eq]
  constructor
  · intro same
    have bit := congrArg (BitVec.getLsbD · (bitOf epNum dir)) same
    simpa [inside] using bit
  · intro bit
    apply BitVec.eq_of_getLsbD_eq
    intro i _
    rw [BitVec.getLsbD_and, BitVec.getLsbD_twoPow]
    by_cases same : bitOf epNum dir = i
    · subst same
      rw [bit, Bool.true_and]
    · rw [decide_eq_false same, Bool.and_false, Bool.and_false]

theorem isSet_set (events : BitVec 32) (epNum other : Endpoint) (dir otherDir : Bool) :
    isSet (events ||| flagOf epNum dir) other otherDir =
      (isSet events other otherDir || decide (epNum = other ∧ dir = otherDir)) := by
  have ownInside : bitOf epNum dir < 32 := (bitOf_lt epNum dir).trans (by decide)
  have inside : bitOf other otherDir < 32 := (bitOf_lt other otherDir).trans (by decide)
  have sameBit : bitOf epNum dir = bitOf other otherDir ↔ epNum = other ∧ dir = otherDir :=
    ⟨bitOf_injective, fun same => by rw [same.1, same.2]⟩
  simp only [isSet_eq, flagOf_eq, BitVec.getLsbD_or, BitVec.getLsbD_twoPow, decide_true,
    Bool.true_and, sameBit, ownInside]

theorem isSet_clear (events : BitVec 32) (epNum other : Endpoint) (dir otherDir : Bool) :
    isSet (events &&& ~~~flagOf epNum dir) other otherDir =
      (isSet events other otherDir && !decide (epNum = other ∧ dir = otherDir)) := by
  have ownInside : bitOf epNum dir < 32 := (bitOf_lt epNum dir).trans (by decide)
  have inside : bitOf other otherDir < 32 := (bitOf_lt other otherDir).trans (by decide)
  have sameBit : bitOf epNum dir = bitOf other otherDir ↔ epNum = other ∧ dir = otherDir :=
    ⟨bitOf_injective, fun same => by rw [same.1, same.2]⟩
  simp only [isSet_eq, flagOf_eq, BitVec.getLsbD_and, BitVec.getLsbD_not, BitVec.getLsbD_twoPow,
    inside, ownInside, decide_true, Bool.true_and, sameBit]

/-! ## A packet on its way to a task -/

/-- A packet of the host. -/
structure Packet where
  isSetup : Bool
  bytes : List UInt8
  deriving DecidableEq

/-- The PIDs of the data packets, as `USB_PIDn_DATA0` and `USB_PIDn_DATA1`. -/
structure Pids where
  data0 : UInt32
  data1 : UInt32
  toggled : data0 ^^^ 0x88 = data1

/-- What is on the channel of an endpoint. -/
inductive ChanToken
  | word (value : UInt32)
  | byte (value : UInt8)
  | control (value : UInt8)
  deriving DecidableEq

/-- An OUT endpoint. -/
structure OutEp where
  /-- Words 4, 5 and 6 of `XUD_ep_info`, and word 4 of that of the IN endpoint. -/
  pid : UInt32
  epType : UInt32
  actualPid : UInt32
  inPid : UInt32
  /-- `XUD_Main` may put a setup packet, or a data packet, into the buffer. -/
  ready : Option Bool
  buffer : List UInt8
  chan : List ChanToken
  /-- `ep_xfer_info`. -/
  len : Nat
  res : XudResult
  /-- The interrupt handler has still to call `isr_cb`. -/
  inIsr : Bool
  /-- The task has started a transfer, of a setup packet or of data, and waits. -/
  waiting : Option Bool
  deriving DecidableEq

/-- What a task has been told by `rtos_usb_simple_transfer_complete`, with the bytes in its
buffer. -/
structure Completed where
  isSetup : Bool
  res : XudResult
  bytes : List UInt8
  deriving DecidableEq

/-- The device with its host. -/
structure Device where
  ep : Endpoint → OutEp
  events : BitVec 32
  host : Endpoint → Sender Packet
  completed : Endpoint → List Completed
  trapped : Bool

/-- The 16 bits of the CRC of a data packet are counted, those of a setup packet are not. -/
def notify (packet : Packet) : List ChanToken :=
  let count := packet.bytes.length + if packet.isSetup then 0 else 2
  let tail := UInt8.ofNat (8 * (count % 4))
  [.word (UInt32.ofNat (count / 4)), if packet.isSetup then .control tail else .byte tail]

/-- `byte_len`, from the length in words and the bits behind. -/
def byteLen (wordLen : UInt32) (tailBitlen : UInt8) : Int :=
  4 * wordLen.toInt32.toInt + tailBitlen.toInt8.toInt.tdiv 8

/-- `xud_data_get_check`: the result, the length and whether it is a setup packet, with what
it leaves on the channel.  It waits for what is not there. -/
def xudDataGetCheck : List ChanToken → Option ((XudResult × Nat × Bool) × List ChanToken)
  | .control value :: chan => some ((.rst, 0, false), .control value :: chan)
  | .word wordLen :: .control tail :: chan => some (checked (byteLen wordLen tail) true, chan)
  | .word wordLen :: .byte tail :: chan =>
      some (checked (byteLen wordLen (tail - 16)) false, chan)
  | _ => none
where
  checked (byteLen : Int) (isSetup : Bool) : XudResult × Nat × Bool :=
    if 0 ≤ byteLen then (.okay, byteLen.toNat, isSetup) else (.err, 0, isSetup)

variable (pids : Pids)

/-- `xud_setup_data_get_finish`. -/
def xudSetupDataGetFinish (ep : OutEp) : XudResult × OutEp :=
  (.okay, { ep with pid := pids.data1, inPid := pids.data1 })

/-- `xud_data_get_finish`. -/
def xudDataGetFinish (ep : OutEp) : XudResult × OutEp :=
  if ep.epType = 0 then (.okay, ep)
  else if ep.pid ^^^ ep.actualPid ≠ 0 then (.err, ep)
  else (.okay, { ep with pid := ep.pid ^^^ 0x88 })

/-- `ep_transfer_complete` of an OUT endpoint, up to where the handler has stored the result:
the length may not be more than was asked for. -/
def epTransferComplete (ep : OutEp) : Option (Bool × OutEp) :=
  (xudDataGetCheck ep.chan).map fun ((res, len, isSetup), chan) =>
    let assertion := decide (len ≤ ep.len)
    let ep := { ep with len := len, chan := chan, inIsr := true }
    let finished := match res with
      | .okay => if isSetup then xudSetupDataGetFinish pids ep else xudDataGetFinish ep
      | .rst | .err => (res, ep)
    (assertion, { finished.2 with res := finished.1 })

inductive Label
  | submit (epNum : Endpoint) (packet : Packet)
  | transaction (epNum : Endpoint) (acknowledged : Bool)
  | isr (epNum : Endpoint)
  | isrCb (epNum : Endpoint)
  | start (epNum : Endpoint) (isSetup : Bool) (len : Nat)
  | complete (epNum : Endpoint)
  | inSets (epNum : Endpoint)
  | inComplete (epNum : Endpoint)

def Device.setEp (usb : Device) (epNum : Endpoint) (ep : OutEp) : Device :=
  { usb with ep := Function.update usb.ep epNum ep }

def pidOf (flag : Bool) : UInt32 :=
  if flag then pids.data1 else pids.data0

/-- The host sends the packet of an endpoint that is ready for it; its handshake may get
lost. -/
def Device.transaction (usb : Device) (epNum : Endpoint) (packet : Packet) (acknowledged : Bool) :
    Device :=
  let ep := usb.ep epNum
  let sender := usb.host epNum
  { usb with
    host := Function.update usb.host epNum
      (if acknowledged then sender.acknowledged Packet.isSetup packet else sender) }.setEp epNum
    { ep with
      ready := none
      buffer := packet.bytes
      actualPid := pidOf pids sender.flag
      chan := ep.chan ++ notify packet }

def next : LStep Device Label
  | usb, .submit epNum packet =>
      if (usb.host epNum).current = none then
        some { usb with
          host := Function.update usb.host epNum ((usb.host epNum).submit packet) }
      else none
  | usb, .transaction epNum acknowledged =>
      match (usb.host epNum).current with
      | none => none
      | some packet =>
          if (usb.ep epNum).ready = some packet.isSetup then
            some (usb.transaction pids epNum packet acknowledged)
          else none
  | usb, .isr epNum =>
      if (usb.ep epNum).inIsr = false then
        (epTransferComplete pids (usb.ep epNum)).map fun (assertion, ep) =>
          { usb with trapped := usb.trapped || !assertion }.setEp epNum ep
      else none
  | usb, .isrCb epNum =>
      if (usb.ep epNum).inIsr then
        some ({ usb with events := usb.events ||| flagOf epNum false }.setEp epNum
          { usb.ep epNum with inIsr := false })
      else none
  | usb, .start epNum isSetup len =>
      if (usb.ep epNum).waiting = none then
        some (usb.setEp epNum
          { usb.ep epNum with len := len, ready := some isSetup, waiting := some isSetup })
      else none
  | usb, .complete epNum =>
      match (usb.ep epNum).waiting with
      | none => none
      | some isSetup =>
          if isSet usb.events epNum false then
            let ep := usb.ep epNum
            some ({ usb with
              events := usb.events &&& ~~~flagOf epNum false
              completed := Function.update usb.completed epNum
                (usb.completed epNum ++ [Completed.mk isSetup ep.res (ep.buffer.take ep.len)])
              }.setEp epNum { ep with waiting := none })
          else none
  | usb, .inSets epNum => some { usb with events := usb.events ||| flagOf epNum true }
  | usb, .inComplete epNum =>
      if isSet usb.events epNum true then
        some { usb with events := usb.events &&& ~~~flagOf epNum true }
      else none

/-- After the first bus reset: all data packets begin with DATA0. -/
def start (epType : Endpoint → UInt32) : Device where
  ep epNum :=
    { pid := pids.data0
      epType := epType epNum
      actualPid := 0
      inPid := pids.data0
      ready := none
      buffer := []
      chan := []
      len := 0
      res := .okay
      inIsr := false
      waiting := none }
  events := 0
  host _ := ⟨[], [], none, false⟩
  completed _ := []
  trapped := false

/-- Packets have at most 1024 bytes, and no more than the task has room for. -/
def Right (usb : Device) : Label → Prop
  | .submit _ packet => packet.bytes.length ≤ 1024
  | .transaction epNum _ => (usb.host epNum).current.all fun packet =>
      packet.bytes.length ≤ (usb.ep epNum).len
  | .isr _ | .isrCb _ | .start _ _ _ | .complete _ | .inSets _ | .inComplete _ => True

/-! ## What the interrupt handler makes of a packet -/

theorem toInt_ofNat {count : Nat} (small : count < 0x80000000) :
    (UInt32.ofNat count).toInt32.toInt = count := by
  rw [UInt32.toInt32_ofNat', Int32.toInt_ofNat_of_lt small]

/-- The bits behind the last whole word, and those of a data packet without its CRC. -/
theorem tailBytes : ∀ rest < 4, (UInt8.ofNat (8 * rest)).toInt8.toInt.tdiv 8 = rest ∧
    (UInt8.ofNat (8 * rest) - 16).toInt8.toInt.tdiv 8 = rest - 2 := by
  decide

/-- The length of a packet comes through. -/
theorem xudDataGetCheck_notify (packet : Packet) (short : packet.bytes.length ≤ 1024) :
    xudDataGetCheck (notify packet) =
      some ((.okay, packet.bytes.length, packet.isSetup), []) := by
  obtain ⟨isSetup, bytes⟩ := packet
  simp only at short
  cases isSetup with
  | true =>
      have rest := (tailBytes (bytes.length % 4) (Nat.mod_lt _ (by decide))).1
      have length : byteLen (UInt32.ofNat (bytes.length / 4))
          (UInt8.ofNat (8 * (bytes.length % 4))) = bytes.length := by
        rw [byteLen, toInt_ofNat (by omega), rest]
        omega
      show some (xudDataGetCheck.checked (byteLen (UInt32.ofNat (bytes.length / 4))
        (UInt8.ofNat (8 * (bytes.length % 4)))) true, ([] : List ChanToken)) = _
      rw [xudDataGetCheck.checked, length, if_pos (Int.natCast_nonneg _), Int.toNat_natCast]
  | false =>
      have rest := (tailBytes ((bytes.length + 2) % 4) (Nat.mod_lt _ (by decide))).2
      have length : byteLen (UInt32.ofNat ((bytes.length + 2) / 4))
          (UInt8.ofNat (8 * ((bytes.length + 2) % 4)) - 16) = bytes.length := by
        rw [byteLen, toInt_ofNat (by omega), rest]
        omega
      show some (xudDataGetCheck.checked (byteLen (UInt32.ofNat ((bytes.length + 2) / 4))
        (UInt8.ofNat (8 * ((bytes.length + 2) % 4)) - 16)) false, ([] : List ChanToken)) = _
      rw [xudDataGetCheck.checked, length, if_pos (Int.natCast_nonneg _), Int.toNat_natCast]

/-- The packet as the endpoint takes it.  Packets of an isochronous endpoint have no PID to
compare. -/
def OutEp.hear (ep : OutEp) (packet : Packet) (flag expected : Bool) : Receiver Packet :=
  if ep.epType = 0 ∧ packet.isSetup = false then ⟨expected, [packet]⟩
  else Receiver.hear Packet.isSetup ⟨expected, []⟩ packet flag

variable {pids : Pids}

theorem pidOf_not (flag : Bool) : pidOf pids flag ^^^ 0x88 = pidOf pids (!flag) := by
  cases flag with
  | true =>
      show pids.data1 ^^^ 0x88 = pids.data0
      rw [← pids.toggled, UInt32.xor_assoc, UInt32.xor_self, UInt32.xor_zero]
  | false => exact pids.toggled

theorem pids_ne (pids : Pids) : pids.data0 ≠ pids.data1 := by
  intro same
  have toggled := pids.toggled
  rw [← same] at toggled
  have none : (0x88 : UInt32) = 0 := by
    rw [← UInt32.xor_right_inj pids.data0]
    rw [toggled, UInt32.xor_zero]
  exact absurd none (by decide)

theorem pidOf_xor_eq_zero (flag other : Bool) :
    pidOf pids flag ^^^ pidOf pids other = 0 ↔ flag = other := by
  rw [UInt32.xor_eq_zero_iff]
  have differ := pids_ne pids
  cases flag <;> cases other <;> simp [pidOf, differ, differ.symm]

/-- What the endpoint makes of a packet: only the PIDs that it expects change. -/
structure Finishes (pids : Pids) (ep : OutEp) (packet : Packet) (flag expected : Bool)
    (finished : XudResult × OutEp) : Prop where
  pid : finished.2.pid = pidOf pids (ep.hear packet flag expected).expected
  heard : (ep.hear packet flag expected).heard = if finished.1 = .okay then [packet] else []
  frame : ∃ pid inPid, finished.2 = { ep with pid := pid, inPid := inPid }

variable {ep : OutEp} {packet : Packet} {flag expected : Bool}

theorem finishes_setup (isSetup : packet.isSetup = true) :
    Finishes pids ep packet flag expected (xudSetupDataGetFinish pids ep) := by
  have hears : ep.hear packet flag expected = ⟨true, [packet]⟩ := by
    simp [OutEp.hear, Receiver.hear, accepts, nextFlag, isSetup]
  refine ⟨?_, ?_, ⟨pids.data1, pids.data1, rfl⟩⟩
  · rw [hears]
    rfl
  · rw [hears]
    rfl

/-- The PID tells a new packet from one that is repeated. -/
theorem finishes_data (isData : packet.isSetup = false)
    (actualPid : ep.actualPid = pidOf pids flag) (pid : ep.pid = pidOf pids expected) :
    Finishes pids ep packet flag expected (xudDataGetFinish ep) := by
  rw [xudDataGetFinish]
  by_cases iso : ep.epType = 0
  · have hears : ep.hear packet flag expected = ⟨expected, [packet]⟩ := by
      simp [OutEp.hear, iso, isData]
    rw [if_pos iso]
    refine ⟨?_, ?_, ⟨ep.pid, ep.inPid, rfl⟩⟩
    · rw [hears]
      exact pid
    · rw [hears]
      rfl
  · have isNew : ep.pid ^^^ ep.actualPid = 0 ↔ expected = flag := by
      rw [pid, actualPid, pidOf_xor_eq_zero]
    rw [if_neg iso]
    by_cases same : expected = flag
    · have hears : ep.hear packet flag expected = ⟨!expected, [packet]⟩ := by
        simp [OutEp.hear, Receiver.hear, accepts, nextFlag, iso, isData, same]
      rw [if_neg (not_not.mpr (isNew.mpr same))]
      refine ⟨?_, ?_, ⟨_, ep.inPid, rfl⟩⟩
      · rw [hears, pid]
        exact pidOf_not expected
      · rw [hears]
        rfl
    · have hears : ep.hear packet flag expected = ⟨expected, []⟩ := by
        have differ : (flag == expected) = false := beq_false_of_ne (Ne.symm same)
        simp [OutEp.hear, Receiver.hear, accepts, iso, isData, differ]
      rw [if_pos (isNew.not.mpr same)]
      refine ⟨?_, ?_, ⟨ep.pid, ep.inPid, rfl⟩⟩
      · rw [hears]
        exact pid
      · rw [hears]
        rfl

/-- A packet that has arrived is finished. -/
theorem epTransferComplete_arrived (chan : ep.chan = notify packet)
    (short : packet.bytes.length ≤ 1024) (fits : packet.bytes.length ≤ ep.len)
    (actualPid : ep.actualPid = pidOf pids flag) (pid : ep.pid = pidOf pids expected) :
    ∃ after res, epTransferComplete pids ep = some (true, after) ∧
      after = { ep with
        pid := pidOf pids (ep.hear packet flag expected).expected
        inPid := after.inPid
        len := packet.bytes.length
        chan := []
        inIsr := true
        res := res } ∧
      (ep.hear packet flag expected).heard = if res = .okay then [packet] else [] := by
  have checked := xudDataGetCheck_notify packet short
  rw [← chan] at checked
  have finishes : Finishes pids
      { ep with len := packet.bytes.length, chan := [], inIsr := true } packet flag expected
      (if packet.isSetup then xudSetupDataGetFinish pids
          { ep with len := packet.bytes.length, chan := [], inIsr := true }
        else
          xudDataGetFinish { ep with len := packet.bytes.length, chan := [], inIsr := true }) := by
    cases isSetup : packet.isSetup with
    | true => exact finishes_setup isSetup
    | false => exact finishes_data isSetup actualPid pid
  obtain ⟨newPid, newInPid, frame⟩ := finishes.frame
  rw [epTransferComplete, checked]
  refine ⟨_, _, congrArg some (Prod.ext (decide_eq_true fits) rfl), ?_, finishes.heard⟩
  have isPid := finishes.pid
  rw [frame] at isPid
  simp only at isPid
  simp only [frame]
  rw [isPid]
  rfl

/-! ## Where a transfer is -/

/-- The packet of a successful transfer. -/
def Completed.packet? (completed : Completed) : Option Packet :=
  if completed.res = .okay then some ⟨completed.isSetup, completed.bytes⟩ else none

/-- What the task has received. -/
def received (completed : List Completed) : List Packet :=
  completed.filterMap Completed.packet?

/-- Where the transfer of an endpoint is, with the PID that it will expect next and the packet
that its task has still to receive. -/
inductive Stage (pids : Pids) (ep : OutEp) (flagged expected : Bool) (pending : List Packet) :
    Prop
  | idle (waiting : ep.waiting = none) (ready : ep.ready = none) (chan : ep.chan = [])
      (inIsr : ep.inIsr = false) (flag : flagged = false) (pid : ep.pid = pidOf pids expected)
      (none_ : pending = [])
  | ready (isSetup : Bool) (waiting : ep.waiting = some isSetup)
      (ready : ep.ready = some isSetup) (chan : ep.chan = []) (inIsr : ep.inIsr = false)
      (flag : flagged = false) (pid : ep.pid = pidOf pids expected) (none_ : pending = [])
  | arrived (packet : Packet) (sent before : Bool) (waiting : ep.waiting = some packet.isSetup)
      (ready : ep.ready = none) (chan : ep.chan = notify packet) (inIsr : ep.inIsr = false)
      (flag : flagged = false) (buffer : ep.buffer = packet.bytes)
      (short : packet.bytes.length ≤ 1024) (fits : packet.bytes.length ≤ ep.len)
      (actualPid : ep.actualPid = pidOf pids sent) (pid : ep.pid = pidOf pids before)
      (hears : ep.hear packet sent before = ⟨expected, pending⟩)
  | finished (isSetup : Bool) (waiting : ep.waiting = some isSetup) (ready : ep.ready = none)
      (chan : ep.chan = []) (inIsr : ep.inIsr = !flagged) (pid : ep.pid = pidOf pids expected)
      (result : pending =
        (Completed.mk isSetup ep.res (ep.buffer.take ep.len)).packet?.toList)

/-! ## What holds of an endpoint -/

/-- Between the host and the task of an endpoint. -/
structure EpInv (pids : Pids) (ep : OutEp) (flagged : Bool) (host : Sender Packet)
    (completed : List Completed) (expected : Bool) (pending : List Packet) : Prop where
  stage : Stage pids ep flagged expected pending
  inStep : ep.epType ≠ 0 →
    InStep Packet.isSetup host ⟨expected, received completed ++ pending⟩
  short : ∀ packet, host.current = some packet → packet.bytes.length ≤ 1024

variable {flagged : Bool} {host : Sender Packet} {completed : List Completed}
variable {pending : List Packet}

/-- The host has another packet for the endpoint. -/
theorem EpInv.submit (inv : EpInv pids ep flagged host completed expected pending)
    (free : host.current = none) (short : packet.bytes.length ≤ 1024) :
    EpInv pids ep flagged (host.submit packet) completed expected pending where
  stage := inv.stage
  inStep notIso := (inv.inStep notIso).submit free packet
  short := by
    rintro current ⟨⟩
    exact short

/-- The host sends a packet. -/
theorem EpInv.transaction (inv : EpInv pids ep flagged host completed expected pending)
    {acknowledged : Bool} (isCurrent : host.current = some packet)
    (isReady : ep.ready = some packet.isSetup) (fits : packet.bytes.length ≤ ep.len) :
    ∃ next arrived, EpInv pids { ep with
        ready := none
        buffer := packet.bytes
        actualPid := pidOf pids host.flag
        chan := ep.chan ++ notify packet } flagged
      (if acknowledged then host.acknowledged Packet.isSetup packet else host) completed next
        arrived := by
  have short := inv.short packet isCurrent
  obtain ⟨waiting, chan, inIsr, notSet, pid, rfl⟩ : ep.waiting = some packet.isSetup ∧
      ep.chan = [] ∧ ep.inIsr = false ∧ flagged = false ∧ ep.pid = pidOf pids expected ∧
      pending = [] := by
    cases inv.stage with
    | ready isSetup waiting ready chan inIsr flag pid none_ =>
        obtain rfl : isSetup = packet.isSetup := Option.some.inj (ready.symm.trans isReady)
        exact ⟨waiting, chan, inIsr, flag, pid, none_⟩
    | idle waiting ready =>
        rw [ready] at isReady
        cases isReady
    | arrived other sent before waiting ready | finished isSetup waiting ready =>
        rw [ready] at isReady
        cases isReady
  refine ⟨(ep.hear packet host.flag expected).expected, (ep.hear packet host.flag expected).heard,
    ?_, ?_, ?_⟩
  · refine .arrived packet host.flag expected waiting rfl ?_ inIsr notSet rfl short fits rfl pid rfl
    show ep.chan ++ notify packet = notify packet
    rw [chan, List.nil_append]
  · intro notIso
    have inStep := inv.inStep notIso
    rw [List.append_nil] at inStep
    have hears : ep.hear packet host.flag expected =
        Receiver.hear Packet.isSetup ⟨expected, []⟩ packet host.flag :=
      if_neg fun iso => notIso iso.1
    rw [hears, ← Receiver.hear_append]
    cases acknowledged with
    | true => exact inStep.acknowledged isCurrent
    | false => exact inStep.unanswered isCurrent
  · cases acknowledged with
    | true => rintro current ⟨⟩
    | false => exact inv.short

/-- The interrupt handler finishes the transfer; the length is one that fits. -/
theorem EpInv.isr (inv : EpInv pids ep flagged host completed expected pending) {after : OutEp}
    {assertion : Bool}
    (completes : epTransferComplete pids ep = some (assertion, after)) :
    assertion = true ∧ after.epType = ep.epType ∧
      EpInv pids after flagged host completed expected pending := by
  have stage := inv.stage
  cases stage with
  | idle waiting ready chan | ready isSetup waiting ready chan =>
      rw [epTransferComplete, chan] at completes
      cases completes
  | finished isSetup waiting ready chan =>
      rw [epTransferComplete, chan] at completes
      cases completes
  | arrived packet sent before waiting ready chan inIsr flag buffer short fits actualPid pid
      hears =>
      obtain ⟨done, res, executed, frame, heard⟩ :=
        epTransferComplete_arrived chan short fits actualPid pid
      obtain ⟨rfl, rfl⟩ := Prod.mk.inj (Option.some.inj (executed.symm.trans completes))
      rw [hears] at frame heard
      refine ⟨rfl, by rw [frame], ?_, ?_, inv.short⟩
      · rw [frame]
        refine .finished packet.isSetup waiting ready rfl ?_ rfl ?_
        · rw [flag]
          rfl
        · show pending = _
          simp only at heard
          rw [heard, Completed.packet?]
          simp only [buffer, List.take_length]
          split <;> rfl
      · rw [frame]
        exact inv.inStep

/-- It calls the application. -/
theorem EpInv.isrCb (inv : EpInv pids ep flagged host completed expected pending)
    (inIsr : ep.inIsr = true) :
    EpInv pids { ep with inIsr := false } true host completed expected pending := by
  refine ⟨?_, inv.inStep, inv.short⟩
  cases inv.stage with
  | idle waiting ready chan notIsr | ready isSetup waiting ready chan notIsr =>
      rw [notIsr] at inIsr
      cases inIsr
  | arrived packet sent before waiting ready chan notIsr =>
      rw [notIsr] at inIsr
      cases inIsr
  | finished isSetup waiting ready chan _ pid result =>
      exact .finished isSetup waiting ready chan rfl pid result

/-- The task starts a transfer. -/
theorem EpInv.start (inv : EpInv pids ep flagged host completed expected pending)
    (free : ep.waiting = none) (isSetup : Bool) (len : Nat) :
    EpInv pids { ep with len := len, ready := some isSetup, waiting := some isSetup } flagged host
      completed expected pending := by
  refine ⟨?_, inv.inStep, inv.short⟩
  cases inv.stage with
  | idle waiting ready chan inIsr flag pid none_ =>
      exact .ready isSetup rfl rfl chan inIsr flag pid none_
  | ready isSetup waiting | arrived packet sent before waiting | finished isSetup waiting =>
      rw [waiting] at free
      cases free

theorem received_concat (completed : List Completed) (last : Completed) :
    received (completed ++ [last]) = received completed ++ last.packet?.toList := by
  rw [received, List.filterMap_append]
  cases isPacket : last.packet? <;> simp [isPacket, received]

/-- It gets the result. -/
theorem EpInv.complete (inv : EpInv pids ep true host completed expected pending)
    {isSetup : Bool} (waits : ep.waiting = some isSetup) :
    EpInv pids { ep with waiting := none } false host
      (completed ++ [⟨isSetup, ep.res, ep.buffer.take ep.len⟩]) expected [] := by
  cases inv.stage with
  | idle waiting ready chan inIsr flag | ready isSetup waiting ready chan inIsr flag =>
      cases flag
  | arrived packet sent before waiting ready chan inIsr flag => cases flag
  | finished kind waiting ready chan inIsr pid result =>
      obtain rfl : kind = isSetup := Option.some.inj (waiting.symm.trans waits)
      refine ⟨.idle rfl ready chan inIsr rfl pid rfl, ?_, inv.short⟩
      intro notIso
      rw [received_concat, List.append_nil, ← result]
      exact inv.inStep notIso

/-! ## Runs -/

variable {usb target : Device} {epNum : Endpoint} {epType : Endpoint → UInt32}

/-- The invariant of an endpoint of the device. -/
abbrev Device.EpInv (pids : Pids) (usb : Device) (epNum : Endpoint) : Prop :=
  ∃ expected pending, Endpoints.EpInv pids (usb.ep epNum) (isSet usb.events epNum false)
    (usb.host epNum) (usb.completed epNum) expected pending

/-- What the device keeps. -/
structure Inv (pids : Pids) (epType : Endpoint → UInt32) (usb : Device) : Prop where
  epType : ∀ epNum, (usb.ep epNum).epType = epType epNum
  epInv : ∀ epNum, usb.EpInv pids epNum
  noTrap : usb.trapped = false

theorem inv_start (pids : Pids) (epType : Endpoint → UInt32) :
    Inv pids epType (start pids epType) where
  epType _ := rfl
  epInv epNum := by
    refine ⟨false, [], .idle rfl rfl rfl rfl ?_ rfl rfl, fun _ => inStep_start false, ?_⟩
    · rw [isSet_eq]
      exact BitVec.getLsbD_zero
    · rintro packet ⟨⟩
  noTrap := rfl

/-- A step is about one endpoint. -/
theorem Inv.update (inv : Inv pids epType usb) (isEp : target.ep = Function.update usb.ep epNum ep)
    (isHost : target.host = Function.update usb.host epNum host)
    (isCompleted : target.completed = Function.update usb.completed epNum completed)
    (flag : isSet target.events epNum false = flagged)
    (others : ∀ other, other ≠ epNum →
      isSet target.events other false = isSet usb.events other false)
    (noTrap : target.trapped = false) (sameType : ep.epType = (usb.ep epNum).epType)
    (own : EpInv pids ep flagged host completed expected pending) : Inv pids epType target := by
  refine ⟨?_, ?_, noTrap⟩
  · intro other
    rw [isEp]
    by_cases same : other = epNum
    · subst same
      rw [Function.update_self, sameType]
      exact inv.epType other
    · rw [Function.update_of_ne same]
      exact inv.epType other
  · intro other
    rw [Device.EpInv, isEp, isHost, isCompleted]
    by_cases same : other = epNum
    · subst same
      rw [Function.update_self, Function.update_self, Function.update_self, flag]
      exact ⟨expected, pending, own⟩
    · rw [Function.update_of_ne same, Function.update_of_ne same, Function.update_of_ne same,
        others other same]
      exact inv.epInv other

/-- A step that sets or clears the flag of an IN endpoint. -/
theorem Inv.events (inv : Inv pids epType usb) {events : BitVec 32}
    (same : ∀ other, isSet events other false = isSet usb.events other false) :
    Inv pids epType { usb with events := events } := by
  refine ⟨inv.epType, ?_, inv.noTrap⟩
  intro other
  rw [Device.EpInv]
  simp only [same other]
  exact inv.epInv other

theorem Inv.next {label : Label} (inv : Inv pids epType usb) (right : Right usb label)
    (stepped : next pids usb label = some target) : Inv pids epType target := by
  cases label with
  | submit epNum packet =>
      obtain ⟨expected, pending, own⟩ := inv.epInv epNum
      rw [Endpoints.next] at stepped
      split at stepped
      · next free =>
          cases stepped
          exact inv.update (Function.update_eq_self _ _).symm rfl
            (Function.update_eq_self _ _).symm rfl (fun _ _ => rfl) inv.noTrap rfl
            (own.submit free right)
      · cases stepped
  | transaction epNum acknowledged =>
      obtain ⟨expected, pending, own⟩ := inv.epInv epNum
      rw [Endpoints.next] at stepped
      split at stepped
      · cases stepped
      · next packet isCurrent =>
          split at stepped
          · next isReady =>
              cases stepped
              have fits : packet.bytes.length ≤ (usb.ep epNum).len := by
                simpa [Right, isCurrent] using right
              obtain ⟨next, arrived, after⟩ := own.transaction isCurrent isReady fits
              exact inv.update rfl rfl (Function.update_eq_self _ _).symm rfl (fun _ _ => rfl)
                inv.noTrap rfl after
          · cases stepped
  | isr epNum =>
      obtain ⟨expected, pending, own⟩ := inv.epInv epNum
      rw [Endpoints.next] at stepped
      split at stepped
      · obtain ⟨⟨assertion, after⟩, completes, rfl⟩ := Option.map_eq_some_iff.mp stepped
        obtain ⟨rfl, sameType, handled⟩ := own.isr completes
        refine inv.update rfl (Function.update_eq_self _ _).symm
          (Function.update_eq_self _ _).symm rfl (fun _ _ => rfl) ?_ sameType handled
        show (usb.trapped || !true) = false
        rw [inv.noTrap]
        rfl
      · cases stepped
  | isrCb epNum =>
      obtain ⟨expected, pending, own⟩ := inv.epInv epNum
      rw [Endpoints.next] at stepped
      split at stepped
      · next inIsr =>
          cases stepped
          refine inv.update rfl (Function.update_eq_self _ _).symm
            (Function.update_eq_self _ _).symm ?_ ?_ inv.noTrap rfl (own.isrCb inIsr)
          · show isSet (usb.events ||| flagOf epNum false) epNum false = true
            simp [isSet_set]
          · intro other different
            show isSet (usb.events ||| flagOf epNum false) other false = _
            simp [isSet_set, different.symm]
      · cases stepped
  | start epNum isSetup len =>
      obtain ⟨expected, pending, own⟩ := inv.epInv epNum
      rw [Endpoints.next] at stepped
      split at stepped
      · next free =>
          cases stepped
          exact inv.update rfl (Function.update_eq_self _ _).symm
            (Function.update_eq_self _ _).symm rfl (fun _ _ => rfl) inv.noTrap rfl
            (own.start free isSetup len)
      · cases stepped
  | complete epNum =>
      obtain ⟨expected, pending, own⟩ := inv.epInv epNum
      rw [Endpoints.next] at stepped
      split at stepped
      · cases stepped
      · next isSetup waits =>
          split at stepped
          · next flag =>
              cases stepped
              rw [flag] at own
              refine inv.update rfl (Function.update_eq_self _ _).symm rfl ?_ ?_ inv.noTrap rfl
                (own.complete waits)
              · show isSet (usb.events &&& ~~~flagOf epNum false) epNum false = false
                simp [isSet_clear]
              · intro other different
                show isSet (usb.events &&& ~~~flagOf epNum false) other false = _
                simp [isSet_clear, different.symm]
          · cases stepped
  | inSets epNum =>
      cases stepped
      apply inv.events
      intro other
      simp [isSet_set]
  | inComplete epNum =>
      rw [Endpoints.next] at stepped
      split at stepped
      · cases stepped
        apply inv.events
        intro other
        simp [isSet_clear]
      · cases stepped

/-- One packet at most is between the host and the task, and only while a transfer is under
way. -/
theorem Stage.pending_le (stage : Stage pids ep flagged expected pending) :
    pending.length ≤ 1 ∧ (ep.waiting = none → pending = []) := by
  cases stage with
  | idle _ _ _ _ _ _ none_ | ready _ _ _ _ _ _ _ none_ =>
      rw [none_]
      exact ⟨Nat.zero_le 1, fun _ => rfl⟩
  | finished isSetup waiting _ _ _ _ result =>
      refine ⟨?_, fun free => absurd (waiting.symm.trans free) (by simp)⟩
      rw [result]
      cases (Completed.packet? _) <;> simp
  | arrived packet sent before waiting _ _ _ _ _ _ _ _ _ hears =>
      refine ⟨?_, fun free => absurd (waiting.symm.trans free) (by simp)⟩
      have heard := congrArg (List.length ∘ Receiver.heard) hears
      simp only [Function.comp] at heard
      rw [← heard, OutEp.hear, Receiver.hear]
      split <;> [skip; split] <;> simp

/-- The tasks get each data packet once and in order, although the host repeats packets
when handshakes get lost. -/
theorem received_of_reachable
    (reachable : GuardedReachable (next pids) Right (start pids epType) usb)
    (notIso : epType epNum ≠ 0) :
    usb.trapped = false ∧ ∃ sent pending,
      Heard Packet.isSetup sent (received (usb.completed epNum) ++ pending) ∧
      (received (usb.completed epNum) ++ pending).filter (fun packet => !packet.isSetup) =
        sent.filter (fun packet => !packet.isSetup) ∧
      (usb.host epNum).acked <+: sent ∧ sent <+: (usb.host epNum).asked ∧
      pending.length ≤ 1 ∧ ((usb.ep epNum).waiting = none → pending = []) := by
  have inv : Inv pids epType usb := by
    apply reachable.invariant (inv_start pids epType)
    intro source target label inv right stepped
    exact inv.next right stepped
  obtain ⟨expected, pending, own⟩ := inv.epInv epNum
  have isBulk : (usb.ep epNum).epType ≠ 0 := by
    rw [inv.epType]
    exact notIso
  obtain ⟨sent, heard, acked, asked⟩ := (own.inStep isBulk).heard
  obtain ⟨atMostOne, all⟩ := own.stage.pending_le
  exact ⟨inv.noTrap, sent, pending, heard, heard.filter_eq, acked, asked, atMostOne, all⟩

/-! ## A repeated packet -/

instance (usb : Device) : DecidablePred (Right usb)
  | .submit _ packet => inferInstanceAs (Decidable (packet.bytes.length ≤ 1024))
  | .transaction _ _ => inferInstanceAs (Decidable (_ = true))
  | .isr _ | .isrCb _ | .start _ _ _ | .complete _ | .inSets _ | .inComplete _ => .isTrue trivial

/-- The PIDs with their check bits. -/
def checkedPids : Pids where
  data0 := 0xc3
  data1 := 0x4b
  toggled := rfl

/-- An endpoint. -/
def bulkOut : Endpoint := ⟨2, by decide⟩

/-- It gets a packet twice, as its handshake gets lost, and then the next one. -/
def repeated : List Label :=
  [.submit bulkOut ⟨false, [7, 8, 9]⟩, .start bulkOut false 64, .transaction bulkOut false,
    .inSets bulkOut, .isr bulkOut, .isrCb bulkOut, .complete bulkOut, .start bulkOut false 64,
    .transaction bulkOut true, .isr bulkOut, .isrCb bulkOut, .complete bulkOut,
    .submit bulkOut ⟨false, [5]⟩, .start bulkOut false 64, .transaction bulkOut true,
    .isr bulkOut]

theorem repeated_right : StepsMeet (next checkedPids) (start checkedPids fun _ => 2) repeated
    Right := by
  decide +kernel

theorem received_of_reachable_repeated :
    ∃ usb sent pending, run (next checkedPids) (start checkedPids fun _ => 2) repeated = some usb ∧
      usb.completed bulkOut = [⟨false, .okay, [7, 8, 9]⟩, ⟨false, .err, [7, 8, 9]⟩] ∧
      Heard Packet.isSetup sent (received (usb.completed bulkOut) ++ pending) := by
  have final : (run (next checkedPids) (start checkedPids fun _ => 2) repeated).map (fun usb =>
      decide (usb.completed bulkOut = [⟨false, .okay, [7, 8, 9]⟩, ⟨false, .err, [7, 8, 9]⟩])) =
        some true := by
    decide +kernel
  obtain ⟨usb, executed, holds⟩ := Option.map_eq_some_iff.mp final
  obtain ⟨-, sent, pending, heard, -⟩ := received_of_reachable
    (repeated_right.guardedReachable (List.prefix_refl _) executed) (by decide)
  exact ⟨usb, sent, pending, executed, of_decide_eq_true holds, heard⟩

end FwkRtos.Usb.Endpoints
