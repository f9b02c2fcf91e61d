import FwkRtos.Transition.Labelled
import Mathlib.Logic.Function.Basic
import Mathlib.Algebra.Group.Nat.Defs

/-!
# The I2C slave driver

The thread of the I2C interface calls the driver for every event on the bus.  What the
application is to be told goes as a byte to an interrupt handler, which sets a flag for
the thread of the driver; that thread calls the application and sends a byte back, for
which the thread of the interface waits, at once or before its next report.
-/

namespace FwkRtos.I2cSlave

open FwkRtos.Transition

/-! ## Where everybody is -/

/-- `RX_CB_CODE`, `TX_START_CB_CODE` and `TX_DONE_CB_CODE`. -/
inductive CbCode
  | rx
  | txStart
  | txDone
  deriving DecidableEq

/-- The flags of the event group. -/
structure Flags where
  rx : Bool
  txStart : Bool
  txDone : Bool
  deriving DecidableEq

def noFlags : Flags := ⟨false, false, false⟩

def Flags.set (flags : Flags) : CbCode → Flags
  | .rx => { flags with rx := true }
  | .txStart => { flags with txStart := true }
  | .txDone => { flags with txDone := true }

/-- `i2c_slave_ack_t`; a callback may also answer with a value that is neither. -/
inductive Ack
  | ack
  | nack
  | invalid
  deriving DecidableEq

/-- The answer of a callback, or a NACK in place of an invalid one. -/
def Ack.checked : Ack → Ack
  | .ack => .ack
  | .nack | .invalid => .nack

/-- What the driver returns to the interface. -/
inductive Answer
  | none
  | ack (value : Ack)
  | byte (value : UInt8)
  deriving DecidableEq

/-- Who calls `xfer_complete_check`. -/
inductive After
  | readReq
  | writeReq
  | stop
  deriving DecidableEq

/-- The fields that `tx_state_clear` clears. -/
inductive TxField
  | data
  | len
  | index
  | sent
  deriving DecidableEq

def TxField.next : TxField → Option TxField
  | .data => some .len
  | .len => some .index
  | .index => some .sent
  | .sent => none

inductive HilPoint
  | waitStart
  | idle
  | checkWaiting (after : After)
  | checkSent (after : After)
  | checkRx (after : After)
  | clear (field : TxField) (after : After)
  | out (code : CbCode) (after : After)
  | await (code : CbCode) (after : After)
  | setTxData
  | txStartOut
  | txStartAwait
  | resetIndex
  | resetSent
  | checkLen
  | checkData
  | writeAddrReq
  | resetRx (value : Ack)
  | reqLen
  | reqData
  | fetch
  | wrap (byte : UInt8)
  | count (byte : UInt8)
  | store (byte : UInt8)
  | increment
  | respond
  deriving DecidableEq

inductive IsrPoint
  | idle
  | setBits (code : CbCode)
  deriving DecidableEq

/-- The thread of the driver, with the flags it has still to look at. -/
inductive AppPoint
  | startCallback
  | sendStart
  | getBits
  | rxCall (rest : Flags)
  | rxRuns (rest : Flags)
  | rxClear (rest : Flags)
  | rxReply (rest : Flags)
  | txStartCall (rest : Flags)
  | txStartRuns (rest : Flags)
  | txStartStore (len : UInt32) (rest : Flags)
  | txStartReply (rest : Flags)
  | txDoneData (rest : Flags)
  | txDoneCall (data : UInt32) (rest : Flags)
  | txDoneRuns (rest : Flags)
  | txDoneClear (field : TxField) (rest : Flags)
  | txDoneReply (rest : Flags)
  deriving DecidableEq

/-- A transfer is under way that the slave takes part in. -/
inductive Bus
  | idle
  | writing
  | reading
  deriving DecidableEq

/-- The address of `data_buf`, `RTOS_I2C_SLAVE_BUF_LEN`, and the optional callbacks that
are not null. -/
structure Config where
  dataBuf : UInt32
  bufLen : Nat
  bufLen_pos : 0 < bufLen
  fits : dataBuf.toNat + bufLen ≤ 2 ^ 32
  txDone : Bool
  rxByteCheck : Bool
  writeAddrReq : Bool

/-- The way of an event: the channel to the interrupt handler, the handler, the flags, the
thread of the driver, and the channel back.  The bytes back are all zero; each goes with
the event that it answers, none for the one that starts the thread of the interface. -/
structure Path where
  toIsr : List CbCode
  isr : IsrPoint
  events : Flags
  app : AppPoint
  toHil : List (Option CbCode)
  deriving DecidableEq

/-- Ghost: the writes with data and the reads that sent bytes, of those that are over; what
`rx` and `tx_done` got; how often a read was requested and `tx_start` called. -/
structure Books where
  written : List (List UInt8)
  reads : List (UInt32 × Nat)
  delivered : List (List UInt8)
  txDones : List (UInt32 × UInt32)
  readRequests : Nat
  txStarts : Nat
  deriving DecidableEq

/-- The driver.  Ghost: the event whose answer is outstanding after a stop; the transfer
under way, with the bytes written so far, or those fetched from memory and those sent; the
last answer of `tx_start`; and the books. -/
structure Slave where
  memory : UInt32 → UInt8
  rxDataI : Nat
  txData : UInt32
  txDataLen : UInt32
  txDataI : UInt32
  txDataSent : UInt32
  waitingForCompleteCb : Option CbCode
  path : Path
  answer : Answer
  hil : HilPoint
  bus : Bus
  current : List UInt8
  fetched : List (UInt32 × UInt8)
  sent : List UInt8
  answered : UInt32 × UInt32
  books : Books

/-- So many bytes from an address on. -/
def bytesAt (memory : UInt32 → UInt8) (address : UInt32) (count : Nat) : List UInt8 :=
  (List.range count).map fun i => memory (address + UInt32.ofNat i)

/-- One assignment of `tx_state_clear`. -/
def Slave.txStateClear (slave : Slave) : TxField → Slave
  | .data => { slave with txData := 0 }
  | .len => { slave with txDataLen := 0 }
  | .index => { slave with txDataI := 0 }
  | .sent => { slave with txDataSent := 0 }

/-! ## The thread of the interface -/

/-- How a request goes on after `xfer_complete_check`. -/
def After.goOn (config : Config) : After → HilPoint
  | .readReq => .setTxData
  | .writeReq => if config.writeAddrReq then .writeAddrReq else .resetRx .ack
  | .stop => .idle

/-- `xfer_complete_check`, which waits unless it is called for a stop. -/
def xferCompleteCheck (config : Config) (slave : Slave) : Option Slave :=
  match slave.hil with
  | .checkWaiting after =>
      match slave.waitingForCompleteCb with
      | none => some { slave with hil := .checkSent after }
      | some _ =>
          match slave.path.toHil with
          | _ :: toHil =>
              some { slave with
                path.toHil := toHil
                waitingForCompleteCb := none
                hil := .checkSent after }
          | [] => none
  | .checkSent after =>
      some { slave with
        hil :=
          if 0 < slave.txDataSent then
            if config.txDone then .out .txDone after else .clear .data after
          else .checkRx after }
  | .checkRx after =>
      some { slave with hil := if 0 < slave.rxDataI then .out .rx after else after.goOn config }
  | .clear field after =>
      some { slave.txStateClear field with
        hil :=
          match field.next with
          | some field => .clear field after
          | none => after.goOn config }
  | .out code after =>
      match after with
      | .stop =>
          some { slave with
            path.toIsr := slave.path.toIsr ++ [code]
            waitingForCompleteCb := some code
            hil := .idle }
      | .readReq | .writeReq =>
          some { slave with path.toIsr := slave.path.toIsr ++ [code], hil := .await code after }
  | .await _ after =>
      match slave.path.toHil with
      | _ :: toHil => some { slave with path.toHil := toHil, hil := after.goOn config }
      | [] => none
  | _ => none

/-- `i2c_ack_read_req` after `xfer_complete_check`. -/
def i2cAckReadReq (config : Config) (slave : Slave) : Option Slave :=
  match slave.hil with
  | .setTxData => some { slave with txData := config.dataBuf, hil := .txStartOut }
  | .txStartOut =>
      some { slave with path.toIsr := slave.path.toIsr ++ [.txStart], hil := .txStartAwait }
  | .txStartAwait =>
      match slave.path.toHil with
      | _ :: toHil => some { slave with path.toHil := toHil, hil := .resetIndex }
      | [] => none
  | .resetIndex => some { slave with txDataI := 0, hil := .resetSent }
  | .resetSent => some { slave with txDataSent := 0, hil := .checkLen }
  | .checkLen =>
      if 0 < slave.txDataLen then some { slave with hil := .checkData }
      else some { slave with answer := .ack .nack, hil := .idle }
  | .checkData =>
      if slave.txData ≠ 0 then
        some { slave with answer := .ack .ack, bus := .reading, hil := .idle }
      else some { slave with answer := .ack .nack, hil := .idle }
  | _ => none

/-- `i2c_ack_write_req` after `xfer_complete_check`, with the answer of
`write_addr_req`. -/
def i2cAckWriteReq (answer : Ack) (slave : Slave) : Option Slave :=
  match slave.hil with
  | .writeAddrReq => some { slave with hil := .resetRx answer.checked }
  | .resetRx retval =>
      some { slave with
        rxDataI := 0
        answer := .ack retval
        bus := if retval = .ack then .writing else .idle
        hil := .idle }
  | _ => none

/-- `i2c_master_req_data`. -/
def i2cMasterReqData (slave : Slave) : Option Slave :=
  match slave.hil with
  | .reqLen =>
      if 0 < slave.txDataLen then some { slave with hil := .reqData }
      else some { slave with sent := slave.sent ++ [0xff], answer := .byte 0xff, hil := .idle }
  | .reqData =>
      if slave.txData ≠ 0 then some { slave with hil := .fetch }
      else some { slave with sent := slave.sent ++ [0xff], answer := .byte 0xff, hil := .idle }
  | .fetch =>
      let address := slave.txData + slave.txDataI
      some { slave with
        txDataI := slave.txDataI + 1
        fetched := slave.fetched ++ [(address, slave.memory address)]
        hil := .wrap (slave.memory address) }
  | .wrap byte =>
      some { slave with
        txDataI := if slave.txDataI = slave.txDataLen then 0 else slave.txDataI
        hil := .count byte }
  | .count byte =>
      some { slave with
        txDataSent := slave.txDataSent + 1
        sent := slave.sent ++ [byte]
        answer := .byte byte
        hil := .idle }
  | _ => none

/-- `i2c_master_sent_data`, with the answer of `rx_byte_check`. -/
def i2cMasterSentData (config : Config) (answer : Ack) (slave : Slave) : Option Slave :=
  match slave.hil with
  | .store byte =>
      if slave.rxDataI < config.bufLen then
        some { slave with
          memory :=
            Function.update slave.memory (config.dataBuf + UInt32.ofNat slave.rxDataI) byte
          hil := .increment }
      else some { slave with hil := .respond }
  | .increment => some { slave with rxDataI := slave.rxDataI + 1, hil := .respond }
  | .respond =>
      let retval := if slave.rxDataI < config.bufLen then .ack else .nack
      some { slave with
        answer := .ack (if config.rxByteCheck then answer.checked else retval)
        hil := .idle }
  | _ => none

/-- The thread of the interface goes on; a callback that it calls answers so. -/
def i2cSlaveHilThread (config : Config) (answer : Ack) (slave : Slave) : Option Slave :=
  match slave.hil with
  | .waitStart =>
      match slave.path.toHil with
      | _ :: toHil => some { slave with path.toHil := toHil, hil := .idle }
      | [] => none
  | .idle => none
  | .checkWaiting _ | .checkSent _ | .checkRx _ | .clear _ _ | .out _ _ | .await _ _ =>
      xferCompleteCheck config slave
  | .setTxData | .txStartOut | .txStartAwait | .resetIndex | .resetSent | .checkLen | .checkData =>
      i2cAckReadReq config slave
  | .writeAddrReq | .resetRx _ => i2cAckWriteReq answer slave
  | .reqLen | .reqData | .fetch | .wrap _ | .count _ => i2cMasterReqData slave
  | .store _ | .increment | .respond => i2cMasterSentData config answer slave

/-! ## The bus -/

/-- What the interface reports. -/
inductive BusEvent
  | readRequest
  | writeRequest
  | byteRequest
  | byte (byte : UInt8)
  | stop
  deriving DecidableEq

/-- Ghost: a transfer is over. -/
def Slave.endTransfer (slave : Slave) : Slave :=
  match slave.bus with
  | .idle => slave
  | .writing =>
      { slave with
        bus := .idle
        current := []
        books.written := if slave.current = [] then slave.books.written
          else slave.books.written ++ [slave.current] }
  | .reading =>
      { slave with
        bus := .idle
        fetched := []
        sent := []
        books.reads := if slave.sent = [] then slave.books.reads
          else slave.books.reads ++ [(slave.answered.1, slave.sent.length)] }

/-- The interface calls the driver.  Requests and stops come at any time; bytes come after a
write request that was acknowledged, and requests for bytes after a read request. -/
def busEvent (slave : Slave) : BusEvent → Option Slave
  | .readRequest =>
      if slave.hil = .idle then
        some { slave.endTransfer with
          books.readRequests := slave.books.readRequests + 1
          hil := .checkWaiting .readReq }
      else none
  | .writeRequest =>
      if slave.hil = .idle then some { slave.endTransfer with hil := .checkWaiting .writeReq }
      else none
  | .stop =>
      if slave.hil = .idle then some { slave.endTransfer with hil := .checkWaiting .stop }
      else none
  | .byte byte =>
      if slave.hil = .idle ∧ slave.bus = .writing then
        some { slave with current := slave.current ++ [byte], hil := .store byte }
      else none
  | .byteRequest =>
      if slave.hil = .idle ∧ slave.bus = .reading then some { slave with hil := .reqLen } else none

/-! ## The interrupt handler and the thread of the driver -/

/-- `rtos_i2c_slave_isr`. -/
def rtosI2cSlaveIsr (slave : Slave) : Option Slave :=
  match slave.path.isr with
  | .idle =>
      match slave.path.toIsr with
      | code :: toIsr => some { slave with path.toIsr := toIsr, path.isr := .setBits code }
      | [] => none
  | .setBits code =>
      some { slave with path.events := slave.path.events.set code, path.isr := .idle }

/-- The application in one of its callbacks: it returns, `tx_start` with a length, or
`tx_start` sets `tx_data`.  Elsewhere the thread runs. -/
inductive AppEvent
  | run
  | returns (len : UInt32)
  | setTxData (data : UInt32)
  deriving DecidableEq

/-- Look at the flags that are left, in the order of the code. -/
def dispatch (flags : Flags) : AppPoint :=
  if flags.rx then .rxCall { flags with rx := false }
  else if flags.txStart then .txStartCall { flags with txStart := false }
  else if flags.txDone then .txDoneData { flags with txDone := false }
  else .getBits

/-- `i2c_slave_app_thread`. -/
def i2cSlaveAppThread (config : Config) (slave : Slave) : AppEvent → Option Slave
  | .setTxData data =>
      match slave.path.app with
      | .txStartRuns _ => some { slave with txData := data }
      | _ => none
  | .returns len =>
      match slave.path.app with
      | .txStartRuns rest =>
          some { slave with answered := (slave.txData, len), path.app := .txStartStore len rest }
      | _ => none
  | .run =>
      match slave.path.app with
      | .startCallback => some { slave with path.app := .sendStart }
      | .sendStart =>
          some { slave with path.toHil := slave.path.toHil ++ [none], path.app := .getBits }
      | .getBits =>
          if slave.path.events = noFlags then none
          else some { slave with path.events := noFlags, path.app := dispatch slave.path.events }
      | .rxCall rest =>
          some { slave with
            books.delivered :=
              slave.books.delivered ++ [bytesAt slave.memory config.dataBuf slave.rxDataI]
            path.app := .rxRuns rest }
      | .rxRuns rest => some { slave with path.app := .rxClear rest }
      | .rxClear rest => some { slave with rxDataI := 0, path.app := .rxReply rest }
      | .rxReply rest =>
          some { slave with
            path.toHil := slave.path.toHil ++ [some .rx]
            path.app := dispatch rest }
      | .txStartCall rest =>
          some { slave with
            books.txStarts := slave.books.txStarts + 1
            path.app := .txStartRuns rest }
      | .txStartRuns _ => none
      | .txStartStore len rest =>
          some { slave with txDataLen := len, path.app := .txStartReply rest }
      | .txStartReply rest =>
          some { slave with
            path.toHil := slave.path.toHil ++ [some .txStart]
            path.app := dispatch rest }
      | .txDoneData rest => some { slave with path.app := .txDoneCall slave.txData rest }
      | .txDoneCall data rest =>
          some { slave with
            books.txDones := slave.books.txDones ++ [(data, slave.txDataSent)]
            path.app := .txDoneRuns rest }
      | .txDoneRuns rest => some { slave with path.app := .txDoneClear .data rest }
      | .txDoneClear field rest =>
          some { slave.txStateClear field with
            path.app :=
              match field.next with
              | some field => .txDoneClear field rest
              | none => .txDoneReply rest }
      | .txDoneReply rest =>
          some { slave with
            path.toHil := slave.path.toHil ++ [some .txDone]
            path.app := dispatch rest }

/-- A callback of the application that gets the buffers runs. -/
def AppPoint.inCallback : AppPoint → Bool
  | .rxRuns _ | .txStartRuns _ | .txDoneRuns _ => true
  | _ => false

/-- The address of a byte of `data_buf`. -/
def Config.inDataBuf (config : Config) (address : UInt32) : Prop :=
  config.dataBuf.toNat ≤ address.toNat ∧ address.toNat < config.dataBuf.toNat + config.bufLen

instance (config : Config) : DecidablePred config.inDataBuf :=
  fun _ => inferInstanceAs (Decidable (_ ∧ _))

/-! ## The whole -/

/-- Who takes a step: the bus with an event, the thread of the interface, the interrupt
handler, the thread of the driver, or the application when it writes to memory. -/
inductive Label
  | bus (event : BusEvent)
  | hil (answer : Ack)
  | isr
  | app (event : AppEvent)
  | write (address : UInt32) (value : UInt8)
  deriving DecidableEq

/-- The application writes to `data_buf` only in callbacks that get it. -/
def next (config : Config) : LStep Slave Label
  | slave, .bus event => busEvent slave event
  | slave, .hil answer => i2cSlaveHilThread config answer slave
  | slave, .isr => rtosI2cSlaveIsr slave
  | slave, .app event => i2cSlaveAppThread config slave event
  | slave, .write address value =>
      if config.inDataBuf address → slave.path.app.inCallback = true then
        some { slave with memory := Function.update slave.memory address value }
      else none

/-- The driver after `rtos_i2c_slave_init` and `rtos_i2c_slave_start`. -/
def start (memory : UInt32 → UInt8) : Slave where
  memory := memory
  rxDataI := 0
  txData := 0
  txDataLen := 0
  txDataI := 0
  txDataSent := 0
  waitingForCompleteCb := none
  path := ⟨[], .idle, noFlags, .startCallback, []⟩
  answer := .none
  hil := .waitStart
  bus := .idle
  current := []
  fetched := []
  sent := []
  answered := (0, 0)
  books := ⟨[], [], [], [], 0, 0⟩

end FwkRtos.I2cSlave
