import FwkRtos.I2cSlave.Driver
import Mathlib.Tactic.Tauto

/-!
# One event at a time

An event is in one place at a time: on its way to the callback, or served, or answered;
and while there is one, the thread of the interface waits for the answer.
-/

namespace FwkRtos.I2cSlave

/-! ## Places -/

/-- The interrupt handler and the thread of the driver have nothing to do. -/
def quietPath : Path := ⟨[], .idle, noFlags, .getBits, []⟩

/-- The thread of the driver is about to call the callback. -/
inductive Calls (txData : UInt32) : CbCode → AppPoint → Prop
  | rx : Calls txData .rx (.rxCall noFlags)
  | txStart : Calls txData .txStart (.txStartCall noFlags)
  | txDoneData : Calls txData .txDone (.txDoneData noFlags)
  | txDone : Calls txData .txDone (.txDoneCall txData noFlags)

/-- The thread of the driver has called the callback. -/
inductive Serves : CbCode → AppPoint → Prop
  | rxRuns : Serves .rx (.rxRuns noFlags)
  | rxClear : Serves .rx (.rxClear noFlags)
  | rxReply : Serves .rx (.rxReply noFlags)
  | txStartRuns : Serves .txStart (.txStartRuns noFlags)
  | txStartStore {len : UInt32} : Serves .txStart (.txStartStore len noFlags)
  | txStartReply : Serves .txStart (.txStartReply noFlags)
  | txDoneRuns : Serves .txDone (.txDoneRuns noFlags)
  | txDoneClear {field : TxField} : Serves .txDone (.txDoneClear field noFlags)
  | txDoneReply : Serves .txDone (.txDoneReply noFlags)

/-- The event is on its way to its callback. -/
inductive Unread (txData : UInt32) (code : CbCode) : Path → Prop
  | toIsr : Unread txData code ⟨[code], .idle, noFlags, .getBits, []⟩
  | isr : Unread txData code ⟨[], .setBits code, noFlags, .getBits, []⟩
  | events : Unread txData code ⟨[], .idle, noFlags.set code, .getBits, []⟩
  | call {app : AppPoint} (calls : Calls txData code app) :
      Unread txData code ⟨[], .idle, noFlags, app, []⟩

/-- The callback of the event was called. -/
inductive Served (code : CbCode) : Path → Prop
  | app {app : AppPoint} (serves : Serves code app) : Served code ⟨[], .idle, noFlags, app, []⟩
  | replied : Served code ⟨[], .idle, noFlags, .getBits, [some code]⟩

/-- The thread of the driver has not yet started the other one. -/
inductive Starting : Path → Prop
  | callback : Starting ⟨[], .idle, noFlags, .startCallback, []⟩
  | send : Starting ⟨[], .idle, noFlags, .sendStart, []⟩
  | replied : Starting ⟨[], .idle, noFlags, .getBits, [none]⟩

/-- The thread of the interface waits for the answer to the event. -/
inductive Waits (code : CbCode) : Option CbCode → HilPoint → Prop
  | report {after : After} (isReport : code ≠ .txStart) (isRequest : after ≠ .stop) :
      Waits code none (.await code after)
  | txStart (isTxStart : code = .txStart) : Waits code none .txStartAwait
  | deferred (isReport : code ≠ .txStart) : Waits code (some code) .idle
  | late {after : After} (isReport : code ≠ .txStart) :
      Waits code (some code) (.checkWaiting after)

/-- A request for a read goes on, and `tx_start` has still to be reported. -/
def After.startsRead : After → Nat
  | .readReq => 1
  | .writeReq | .stop => 0

def HilPoint.startsRead : HilPoint → Nat
  | .checkWaiting after | .checkSent after | .checkRx after | .clear _ after | .out _ after
  | .await _ after => after.startsRead
  | .setTxData | .txStartOut => 1
  | _ => 0

/-! ## Books -/

/-- What the callbacks were told, and what they have still to be told. -/
structure Balance (config : Config) (books : Books) (writes : List (List UInt8))
    (reads : List (UInt32 × Nat)) (starts : Nat) : Prop where
  rx : books.written.map (List.take config.bufLen) =
    books.delivered ++ writes.map (List.take config.bufLen)
  txDone : config.txDone = true →
    books.reads = books.txDones.map (fun done => (done.1, done.2.toNat)) ++ reads
  noTxDone : config.txDone = false → books.txDones = []
  txStart : books.readRequests = books.txStarts + starts

/-- The bytes of a write are in `data_buf`, as far as they fit. -/
def Holds (config : Config) (slave : Slave) (bytes : List UInt8) : Prop :=
  slave.rxDataI = min bytes.length config.bufLen ∧
    bytesAt slave.memory config.dataBuf slave.rxDataI = bytes.take config.bufLen

/-- There is nothing to be told. -/
def Cleared (slave : Slave) : Prop :=
  slave.rxDataI = 0 ∧ slave.txDataSent = 0

/-- What the callback of an event is to be told is in the fields. -/
def Loaded (config : Config) (slave : Slave) (starts : Nat) : CbCode → Prop
  | .rx =>
      ∃ bytes, bytes ≠ [] ∧ Holds config slave bytes ∧ slave.txDataSent = 0 ∧
        Balance config slave.books [bytes] [] starts
  | .txDone =>
      ∃ count, config.txDone = true ∧ slave.rxDataI = 0 ∧ slave.txDataSent.toNat = count ∧
        0 < count ∧ Balance config slave.books [] [(slave.txData, count)] starts
  | .txStart => Cleared slave ∧ Balance config slave.books [] [] (starts + 1)

/-! ## Transfers -/

/-- The addresses of the first bytes that a read sends. -/
def readAddresses (answered : UInt32 × UInt32) (count : Nat) : List UInt32 :=
  (List.range count).map fun k => answered.1 + UInt32.ofNat (k % answered.2.toNat)

/-- `tx_start` has answered. -/
def Answered (slave : Slave) : Prop :=
  slave.txData = slave.answered.1 ∧ slave.txDataLen = slave.answered.2

/-- `tx_start` has answered with bytes to send. -/
def HasBytes (slave : Slave) : Prop :=
  Answered slave ∧ slave.answered.1 ≠ 0 ∧ 0 < slave.answered.2.toNat

/-- What a read has fetched is what it has sent, and what it is about to send. -/
def Fetched (slave : Slave) (pending : List UInt8) : Prop :=
  slave.fetched.map Prod.fst = readAddresses slave.answered slave.fetched.length ∧
    slave.fetched.map Prod.snd = slave.sent ++ pending

/-- A read that is about to send these bytes. -/
def Reads (slave : Slave) (pending : List UInt8) (index : Nat) : Prop :=
  slave.bus = .reading ∧ slave.rxDataI = 0 ∧ HasBytes slave ∧ slave.txDataI.toNat = index ∧
    slave.txDataSent.toNat = slave.sent.length ∧ Fetched slave pending ∧ slave.current = []

/-- The index in `tx_data` of a byte that a read sends. -/
def Slave.indexOf (slave : Slave) (k : Nat) : Nat :=
  k % slave.answered.2.toNat

/-- A write that has stored these bytes. -/
def Writes (config : Config) (slave : Slave) (stored : List UInt8) : Prop :=
  slave.bus = .writing ∧ slave.txDataSent = 0 ∧ Holds config slave stored ∧
    slave.fetched = [] ∧ slave.sent = []

/-- No transfer is under way. -/
def NoTransfer (slave : Slave) : Prop :=
  slave.bus = .idle ∧ slave.current = [] ∧ slave.fetched = [] ∧ slave.sent = []

/-- A transfer is over, if there was one; it is to be reported, or there is nothing to be
reported, or nobody to whom. -/
def Ended (config : Config) (slave : Slave) (starts : Nat) : Prop :=
  Cleared slave ∧ Balance config slave.books [] [] starts ∨
    Loaded config slave starts .rx ∨ Loaded config slave starts .txDone ∨
      config.txDone = false ∧ slave.rxDataI = 0 ∧ slave.txDataSent ≠ 0 ∧
        Balance config slave.books [] [] starts

/-- What is between the requests. -/
def Transfer (config : Config) (slave : Slave) : Prop :=
  NoTransfer slave ∧ Cleared slave ∨ Writes config slave slave.current ∨
    Reads slave [] (slave.indexOf slave.sent.length)

/-- What the thread of the interface works on while no event is outstanding. -/
def HilRight (config : Config) (slave : Slave) : Prop :=
  match slave.hil with
  | .waitStart | .await _ _ | .txStartAwait => False
  | .idle => Transfer config slave ∧ Balance config slave.books [] [] 0
  | .checkWaiting after | .checkSent after => NoTransfer slave ∧ Ended config slave after.startsRead
  | .checkRx after =>
      NoTransfer slave ∧ slave.txDataSent = 0 ∧ Ended config slave after.startsRead
  | .clear _ after =>
      NoTransfer slave ∧ slave.rxDataI = 0 ∧ Balance config slave.books [] [] after.startsRead
  | .out code after =>
      NoTransfer slave ∧ code ≠ .txStart ∧ Loaded config slave after.startsRead code
  | .setTxData | .txStartOut =>
      NoTransfer slave ∧ Cleared slave ∧ Balance config slave.books [] [] 1
  | .resetIndex =>
      NoTransfer slave ∧ slave.rxDataI = 0 ∧ Answered slave ∧ Balance config slave.books [] [] 0
  | .resetSent =>
      NoTransfer slave ∧ slave.rxDataI = 0 ∧ Answered slave ∧ slave.txDataI = 0 ∧
        Balance config slave.books [] [] 0
  | .checkLen =>
      NoTransfer slave ∧ Cleared slave ∧ Answered slave ∧ slave.txDataI = 0 ∧
        Balance config slave.books [] [] 0
  | .checkData =>
      NoTransfer slave ∧ Cleared slave ∧ Answered slave ∧ slave.txDataI = 0 ∧
        0 < slave.txDataLen ∧ Balance config slave.books [] [] 0
  | .writeAddrReq | .resetRx _ =>
      NoTransfer slave ∧ Cleared slave ∧ Balance config slave.books [] [] 0
  | .reqLen | .reqData | .fetch =>
      Reads slave [] (slave.indexOf slave.sent.length) ∧ Balance config slave.books [] [] 0
  | .wrap byte =>
      Reads slave [byte] (slave.indexOf slave.sent.length + 1) ∧
        Balance config slave.books [] [] 0
  | .count byte =>
      Reads slave [byte] (slave.indexOf (slave.sent.length + 1)) ∧
        Balance config slave.books [] [] 0
  | .store byte =>
      (∃ stored, slave.current = stored ++ [byte] ∧ Writes config slave stored) ∧
        Balance config slave.books [] [] 0
  | .increment =>
      (∃ stored byte, slave.current = stored ++ [byte] ∧ Writes config slave stored ∧
        stored.length < config.bufLen ∧
          slave.memory (config.dataBuf + UInt32.ofNat slave.rxDataI) = byte) ∧
        Balance config slave.books [] [] 0
  | .respond => Writes config slave slave.current ∧ Balance config slave.books [] [] 0

/-- The fields while the callback of the event runs, and after. -/
def Handled (slave : Slave) (code : CbCode) : Prop :=
  match slave.path.app with
  | .rxRuns _ | .rxClear _ => slave.txDataSent = 0
  | .txStartRuns _ | .txDoneRuns _ | .txDoneClear _ _ => slave.rxDataI = 0
  | .txStartStore len _ =>
      slave.txData = slave.answered.1 ∧ len = slave.answered.2 ∧ slave.rxDataI = 0
  | _ =>
      match code with
      | .rx | .txDone => Cleared slave
      | .txStart => Answered slave ∧ slave.rxDataI = 0

/-- What the driver keeps: nobody has anything to be told, or one event is on its way or
served while the thread of the interface waits. -/
inductive Inv (config : Config) (slave : Slave) : Prop
  | starting (starting : Starting slave.path) (hil : slave.hil = .waitStart)
      (waiting : slave.waitingForCompleteCb = none) (none_ : NoTransfer slave)
      (cleared : Cleared slave) (balance : Balance config slave.books [] [] 0)
  | quiet (quiet : slave.path = quietPath) (waiting : slave.waitingForCompleteCb = none)
      (right : HilRight config slave)
  | unread {code : CbCode} (unread : Unread slave.txData code slave.path)
      (waits : Waits code slave.waitingForCompleteCb slave.hil) (none_ : NoTransfer slave)
      (loaded : Loaded config slave slave.hil.startsRead code)
  | served {code : CbCode} (served : Served code slave.path)
      (waits : Waits code slave.waitingForCompleteCb slave.hil) (none_ : NoTransfer slave)
      (handled : Handled slave code)
      (balance : Balance config slave.books [] [] slave.hil.startsRead)

theorem inv_start (config : Config) (memory : UInt32 → UInt8) : Inv config (start memory) :=
  .starting .callback rfl rfl ⟨rfl, rfl, rfl, rfl⟩ ⟨rfl, rfl⟩ ⟨rfl, fun _ => rfl, fun _ => rfl, rfl⟩

/-! ## Bytes in memory -/

theorem bytesAt_succ (memory : UInt32 → UInt8) (address : UInt32) (count : Nat) :
    bytesAt memory address (count + 1) =
      bytesAt memory address count ++ [memory (address + UInt32.ofNat count)] := by
  simp [bytesAt, List.range_succ]

theorem Config.toNat_dataBuf {config : Config} {i : Nat} (below : i < config.bufLen) :
    (config.dataBuf + UInt32.ofNat i).toNat = config.dataBuf.toNat + i := by
  have fits := config.fits
  rw [UInt32.toNat_add, UInt32.toNat_ofNat', Nat.mod_eq_of_lt (show i < 2 ^ 32 by omega),
    Nat.mod_eq_of_lt (by omega)]

theorem Config.inDataBuf_add {config : Config} {i : Nat} (below : i < config.bufLen) :
    config.inDataBuf (config.dataBuf + UInt32.ofNat i) := by
  rw [Config.inDataBuf, config.toNat_dataBuf below]
  omega

/-- Writing elsewhere leaves the bytes alone. -/
theorem bytesAt_update {config : Config} {memory : UInt32 → UInt8} {address : UInt32}
    {value : UInt8} {count : Nat}
    (elsewhere : ∀ i < count, address ≠ config.dataBuf + UInt32.ofNat i) :
    bytesAt (Function.update memory address value) config.dataBuf count =
      bytesAt memory config.dataBuf count := by
  apply List.map_congr_left
  intro i member
  exact Function.update_of_ne (elsewhere i (List.mem_range.mp member)).symm _ _

theorem Holds.within {config : Config} {slave : Slave} {bytes : List UInt8}
    (holds : Holds config slave bytes) : slave.rxDataI ≤ config.bufLen := by
  rw [holds.1]
  exact Nat.min_le_right _ _

end FwkRtos.I2cSlave
