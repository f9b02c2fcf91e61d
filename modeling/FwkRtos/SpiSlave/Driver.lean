import FwkRtos.Transition.Labelled

/-!
# The SPI slave driver

The thread of the SPI slave interface calls the driver when a transaction starts and
when it has ended; an interrupt handler queues what was transferred for the
application, and a thread of the driver calls the application back.  Every access to
a field that two of them share is a step of its own.
-/

namespace FwkRtos.SpiSlave

open FwkRtos.Transition

/-! ## Buffers -/

/-- The arguments of `spi_slave_xfer_prepare`. -/
structure Buffers where
  inBuf : UInt32
  inbufLen : UInt32
  outBuf : UInt32
  outbufLen : UInt32
  deriving DecidableEq

/-- The fields that the driver has for the prepared buffers and for the default ones. -/
structure BufferFields where
  buffers : Buffers
  bytesWritten : UInt32
  bytesRead : UInt32
  deriving DecidableEq

/-- One of the four fields that describe buffers. -/
inductive Field
  | inBuf
  | inbufLen
  | outBuf
  | outbufLen
  deriving DecidableEq

/-- Copy one field. -/
def Buffers.copy (target source : Buffers) : Field → Buffers
  | .inBuf => { target with inBuf := source.inBuf }
  | .inbufLen => { target with inbufLen := source.inbufLen }
  | .outBuf => { target with outBuf := source.outBuf }
  | .outbufLen => { target with outbufLen := source.outbufLen }

/-- `xfer_done_queue_item_t`. -/
structure XferDoneQueueItem where
  outBuf : UInt32
  bytesWritten : UInt32
  inBuf : UInt32
  bytesRead : UInt32
  deriving DecidableEq

/-- Ghost: a transaction that used prepared buffers and moved bytes. -/
structure Transaction where
  number : Nat
  buffers : Buffers
  bytesWritten : UInt32
  bytesRead : UInt32
  deriving DecidableEq

/-- The item that the application is to get for it. -/
def Transaction.item (transaction : Transaction) : XferDoneQueueItem where
  outBuf := transaction.buffers.outBuf
  bytesWritten := transaction.bytesWritten
  inBuf := transaction.buffers.inBuf
  bytesRead := transaction.bytesRead

/-- `XFER_DONE_DEFAULT_BUF_CB_CODE` and `XFER_DONE_USER_BUF_CB_CODE`. -/
inductive XferDone
  | defaultBufCb
  | userBufCb
  deriving DecidableEq

/-- A byte for the interrupt handler, or ghost: what an item was made for; and ghost: the
transaction that it reports, if that used prepared buffers. -/
structure Report where
  code : XferDone
  transaction : Option Transaction
  deriving DecidableEq

/-! ## Where everybody is -/

/-- Which buffers a transaction got; ghost: for the prepared ones, the number of the
call of `spi_slave_xfer_prepare` that they are from. -/
inductive Source
  | default
  | user (number : Nat)
  deriving DecidableEq

/-- What a transaction works on. -/
structure Xfer where
  source : Source
  buffers : Buffers
  deriving DecidableEq

/-- A transaction that ended with these counts. -/
structure Ended where
  xfer : Xfer
  bytesWritten : UInt32
  bytesRead : UInt32
  deriving DecidableEq

/-- Ghost: the transaction, if it used prepared buffers. -/
def Ended.transaction (ended : Ended) : Option Transaction :=
  match ended.xfer.source with
  | .default => none
  | .user number =>
      some
        { number := number
          buffers := ended.xfer.buffers
          bytesWritten := ended.bytesWritten
          bytesRead := ended.bytesRead }

inductive HilPoint
  | waitStart
  | deselected
  | started
  | fetch (xfer : Xfer) (field : Field)
  | clearReady (number : Nat) (buffers : Buffers)
  | transfer (xfer : Xfer)
  | compareOut (ended : Ended)
  | compareIn (ended : Ended)
  | storeWritten (code : XferDone) (ended : Ended)
  | storeRead (code : XferDone) (ended : Ended)
  | dropped (ended : Ended)
  | send (code : XferDone) (ended : Ended)
  deriving DecidableEq

inductive IsrPoint
  | idle
  | outBuf (report : Report)
  | bytesWritten (report : Report) (outBuf : UInt32)
  | inBuf (report : Report) (outBuf bytesWritten : UInt32)
  | bytesRead (report : Report) (outBuf bytesWritten inBuf : UInt32)
  | queueSend (report : Report) (item : XferDoneQueueItem)
  | notifyGive
  deriving DecidableEq

/-- The application, in a call of `spi_slave_xfer_prepare` or
`spi_slave_xfer_prepare_default_buffers`. -/
inductive AppPoint
  | idle
  | store (user : Bool) (buffers : Buffers) (field : Field)
  | setReady
  deriving DecidableEq

/-- The thread of the driver; in `xfer_done` it counts the calls of
`spi_slave_xfer_complete`. -/
inductive ThreadPoint
  | absent
  | startCallback
  | enableTrigger
  | sendStart
  | notifyTake
  | xferDone (calls : Nat)
  deriving DecidableEq

/-- The callbacks of the application that are not null, and
`RTOS_SPI_SLAVE_XFER_DONE_QUEUE_SIZE`. -/
structure Config where
  start : Bool
  xferDone : Bool
  queueSize : Nat
  deriving DecidableEq

/-- The driver; an item of the queue goes with the report that it was made for. Ghost: the
calls of `spi_slave_xfer_prepare`, the numbers of those that were used by transactions in
the order of their begin, the transactions that used prepared buffers and ended, and what
the application got from `spi_slave_xfer_complete`. -/
structure Driver where
  user : BufferFields
  default : BufferFields
  userDataReady : Bool
  dropDefaultBuffers : Bool
  startByte : Bool
  codes : List Report
  trigger : Bool
  xferDoneQueue : List (XferDoneQueueItem × Report)
  notified : Nat
  hil : HilPoint
  isr : IsrPoint
  app : AppPoint
  thread : ThreadPoint
  prepared : List Buffers
  began : List Nat
  ended : List Transaction
  returned : List (XferDoneQueueItem × Report)
  deriving DecidableEq

/-- The fields that a code stands for. -/
def Driver.fields (driver : Driver) : XferDone → BufferFields
  | .defaultBufCb => driver.default
  | .userBufCb => driver.user

/-- Change the fields that a code stands for. -/
def Driver.setFields (driver : Driver) (code : XferDone) (fields : BufferFields) : Driver :=
  match code with
  | .defaultBufCb => { driver with default := fields }
  | .userBufCb => { driver with user := fields }

/-! ## The thread of the interface -/

/-- The bus: the chip select is asserted, or deasserted after so many bytes; else the
thread runs. -/
inductive HilEvent
  | run
  | select
  | deselect (bytesWritten bytesRead : UInt32)
  deriving DecidableEq

/-- The order in which `slave_transaction_started` reads the fields. -/
def Field.nextFetched : Field → Option Field
  | .outBuf => some .outbufLen
  | .outbufLen => some .inBuf
  | .inBuf => some .inbufLen
  | .inbufLen => none

def noBuffers : Buffers := ⟨0, 0, 0, 0⟩

/-- `slave_transaction_started`. -/
def slaveTransactionStarted (driver : Driver) : Option Driver :=
  match driver.hil with
  | .started =>
      if driver.userDataReady then
        let number := driver.prepared.length - 1
        some { driver with
          hil := .fetch ⟨.user number, noBuffers⟩ .outBuf
          began := driver.began ++ [number] }
      else some { driver with hil := .fetch ⟨.default, noBuffers⟩ .outBuf }
  | .fetch xfer field =>
      let source :=
        match xfer.source with
        | .user _ => driver.user.buffers
        | .default => driver.default.buffers
      let xfer := { xfer with buffers := xfer.buffers.copy source field }
      match field.nextFetched with
      | some field => some { driver with hil := .fetch xfer field }
      | none =>
          match xfer.source with
          | .user number => some { driver with hil := .clearReady number xfer.buffers }
          | .default => some { driver with hil := .transfer xfer }
  | .clearReady number buffers =>
      some { driver with userDataReady := false, hil := .transfer ⟨.user number, buffers⟩ }
  | _ => none

/-- `slave_transaction_ended`, from its first test on. -/
def slaveTransactionEnded (driver : Driver) : Option Driver :=
  match driver.hil with
  | .compareOut ended =>
      some { driver with
        hil :=
          if ended.xfer.buffers.outBuf = driver.default.buffers.outBuf then .compareIn ended
          else .storeWritten .userBufCb ended }
  | .compareIn ended =>
      some { driver with
        hil :=
          if ended.xfer.buffers.inBuf = driver.default.buffers.inBuf then
            .storeWritten .defaultBufCb ended
          else .storeWritten .userBufCb ended }
  | .storeWritten code ended =>
      let fields := { driver.fields code with bytesWritten := ended.bytesWritten }
      some { driver.setFields code fields with hil := .storeRead code ended }
  | .storeRead code ended =>
      let fields := { driver.fields code with bytesRead := ended.bytesRead }
      some { driver.setFields code fields with
        hil :=
          match code with
          | .defaultBufCb => .dropped ended
          | .userBufCb => .send .userBufCb ended }
  | .dropped ended =>
      some { driver with
        hil := if driver.dropDefaultBuffers then .deselected else .send .defaultBufCb ended }
  | .send code ended =>
      some { driver with
        codes := driver.codes ++ [⟨code, ended.transaction⟩]
        hil := .deselected }
  | _ => none

/-- `spi_slave_hil_thread`, with the calls that the interface makes. -/
def spiSlaveHilThread (driver : Driver) : HilEvent → Option Driver
  | .select =>
      match driver.hil with
      | .deselected => some { driver with hil := .started }
      | _ => none
  | .deselect bytesWritten bytesRead =>
      match driver.hil with
      | .transfer xfer =>
          if bytesWritten = 0 then some { driver with hil := .deselected }
          else
            let ended := ⟨xfer, bytesWritten, bytesRead⟩
            some { driver with
              hil := .compareOut ended
              ended := driver.ended ++ ended.transaction.toList }
      | _ => none
  | .run =>
      match driver.hil with
      | .waitStart =>
          if driver.startByte then some { driver with startByte := false, hil := .deselected }
          else none
      | .started | .fetch _ _ | .clearReady _ _ => slaveTransactionStarted driver
      | _ => slaveTransactionEnded driver

/-! ## The interrupt handler -/

/-- `rtos_spi_slave_isr`. -/
def rtosSpiSlaveIsr (config : Config) (driver : Driver) : Option Driver :=
  match driver.isr with
  | .idle =>
      if driver.trigger then
        match driver.codes with
        | report :: codes => some { driver with codes := codes, isr := .outBuf report }
        | [] => none
      else none
  | .outBuf report =>
      let outBuf := (driver.fields report.code).buffers.outBuf
      some { driver with isr := .bytesWritten report outBuf }
  | .bytesWritten report outBuf =>
      let bytesWritten := (driver.fields report.code).bytesWritten
      some { driver with isr := .inBuf report outBuf bytesWritten }
  | .inBuf report outBuf bytesWritten =>
      let inBuf := (driver.fields report.code).buffers.inBuf
      some { driver with isr := .bytesRead report outBuf bytesWritten inBuf }
  | .bytesRead report outBuf bytesWritten inBuf =>
      let bytesRead := (driver.fields report.code).bytesRead
      some { driver with isr := .queueSend report ⟨outBuf, bytesWritten, inBuf, bytesRead⟩ }
  | .queueSend report item =>
      if driver.xferDoneQueue.length < config.queueSize then
        some { driver with
          xferDoneQueue := driver.xferDoneQueue ++ [(item, report)]
          isr := if config.xferDone then .notifyGive else .idle }
      else some { driver with isr := .idle }
  | .notifyGive => some { driver with notified := driver.notified + 1, isr := .idle }

/-! ## The application and the thread that calls it back -/

/-- The order in which `spi_slave_xfer_prepare` writes the fields. -/
def Field.nextStored : Field → Option Field
  | .inBuf => some .inbufLen
  | .inbufLen => some .outBuf
  | .outBuf => some .outbufLen
  | .outbufLen => none

/-- `spi_slave_xfer_prepare` and `spi_slave_xfer_prepare_default_buffers`, after their
call. -/
def spiSlaveXferPrepare (driver : Driver) : Option Driver :=
  match driver.app with
  | .idle => none
  | .store user buffers field =>
      let next :=
        match field.nextStored with
        | some field => .store user buffers field
        | none => if user then .setReady else .idle
      if user then
        some { driver with
          user := { driver.user with buffers := driver.user.buffers.copy buffers field }
          app := next }
      else
        some { driver with
          default := { driver.default with buffers := driver.default.buffers.copy buffers field }
          app := next }
  | .setReady => some { driver with userDataReady := true, app := .idle }

/-- `spi_slave_xfer_complete`; on an empty queue it times out. -/
def spiSlaveXferComplete (driver : Driver) : Driver :=
  let thread :=
    match driver.thread with
    | .xferDone calls => .xferDone (calls + 1)
    | other => other
  match driver.xferDoneQueue with
  | entry :: queue =>
      { driver with
        xferDoneQueue := queue
        returned := driver.returned ++ [entry]
        thread := thread }
  | [] => { driver with thread := thread }

/-- `spi_slave_app_thread`. -/
def spiSlaveAppThread (config : Config) (driver : Driver) : Option Driver :=
  match driver.thread with
  | .absent => none
  | .startCallback => some { driver with thread := .enableTrigger }
  | .enableTrigger => some { driver with trigger := true, thread := .sendStart }
  | .sendStart => some { driver with startByte := true, thread := .notifyTake }
  | .notifyTake =>
      if 0 < driver.notified then
        some { driver with
          notified := 0
          thread := if config.xferDone then .xferDone 0 else .notifyTake }
      else none
  | .xferDone _ => some { driver with thread := .notifyTake }

/-! ## The whole -/

/-- Who takes a step: the thread of the interface, the interrupt handler, the thread of
the driver, or the application with a call, or going on with the last one. -/
inductive Label
  | hil (event : HilEvent)
  | isr
  | thread
  | prepare (buffers : Buffers)
  | prepareDefaultBuffers (buffers : Buffers)
  | app
  | defaultBufXferEnded (enable : Bool)
  | complete
  deriving DecidableEq

def next (config : Config) : LStep Driver Label
  | driver, .hil event => spiSlaveHilThread driver event
  | driver, .isr => rtosSpiSlaveIsr config driver
  | driver, .thread => spiSlaveAppThread config driver
  | driver, .prepare buffers =>
      if driver.app = .idle then
        some { driver with
          app := .store true buffers .inBuf
          prepared := driver.prepared ++ [buffers] }
      else none
  | driver, .prepareDefaultBuffers buffers =>
      if driver.app = .idle then some { driver with app := .store false buffers .inBuf } else none
  | driver, .app => spiSlaveXferPrepare driver
  | driver, .defaultBufXferEnded enable => some { driver with dropDefaultBuffers := !enable }
  | driver, .complete => some (spiSlaveXferComplete driver)

/-- The driver after `rtos_spi_slave_init` and `rtos_spi_slave_start`. -/
def start (config : Config) : Driver where
  user := ⟨noBuffers, 0, 0⟩
  default := ⟨noBuffers, 0, 0⟩
  userDataReady := false
  dropDefaultBuffers := false
  startByte := false
  codes := []
  trigger := false
  xferDoneQueue := []
  notified := 0
  hil := if config.start then .waitStart else .deselected
  isr := .idle
  app := .idle
  thread :=
    if config.start then .startCallback else if config.xferDone then .notifyTake else .absent
  prepared := []
  began := []
  ended := []
  returned := []

end FwkRtos.SpiSlave
