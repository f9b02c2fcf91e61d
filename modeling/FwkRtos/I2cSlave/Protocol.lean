import FwkRtos.I2cSlave.Told

/-!
# The event protocol of the I2C slave driver

The driver tells the callbacks of every transfer and request once, as long as no read sends
so many bytes that their count overflows.
-/

namespace FwkRtos.I2cSlave

open FwkRtos.Transition

/-- While the count of the bytes sent does not overflow, the driver keeps its promises in
every state, and what is on its way to the callbacks arrives. -/
theorem events_told (config : Config) (memory : UInt32 → UInt8) :
    (∀ labels, StepsMeet (next config) (start memory) labels CountsBytes →
      StatesSatisfy (next config) (start memory) labels (EventsRight config)) ∧
      ∀ execution : Execution (next config) (start memory),
        (∀ n, CountsBytes (execution.state n) (execution.label n)) → Fair execution →
          ∀ books, execution.LeadsTo (fun slave => slave.books = books) (fun slave =>
            books.written.map (List.take config.bufLen) <+: slave.books.delivered ∧
              (config.txDone = true → books.reads <+: slave.books.readsTold)) ∧
            execution.LeadsTo (fun slave => slave.books = books)
              (fun slave => books.readRequests ≤ slave.books.txStarts) := by
  constructor
  · intro labels counts
    refine counts.statesSatisfy (inv_start config memory) ?_ ?_
    · intro source target label inv counts step
      exact inv.next counts step
    · intro slave inv
      exact inv.right
  · intro execution counts fair books
    refine told (fun n => ?_) fair books
    exact Execution.invariant (inv_start config memory)
      (fun n inv => inv.next (counts n) (execution.step n)) n

/-! ## A write, and a read after a repeated start -/

/-- A buffer of four bytes, and all callbacks but `write_addr_req`. -/
def smallBuffer : Config where
  dataBuf := 0x1000
  bufLen := 4
  bufLen_pos := by decide
  fits := by decide
  txDone := true
  rxByteCheck := true
  writeAddrReq := false

/-- The thread of the driver starts the other one. -/
def startUp : List Label := [.app .run, .app .run, .hil .ack]

/-- The thread of the interface goes on so often. -/
def hilSteps (count : Nat) : List Label := List.replicate count (.hil .ack)

/-- The event is passed on, and the callback entered. -/
def passedOn : List Label := [.isr, .isr, .app .run, .app .run]

/-- A read is requested, and `tx_start` answers with one byte of `data_buf`. -/
def requestRead : List Label :=
  [.bus .readRequest] ++ hilSteps 5 ++ passedOn ++ [.app (.returns 1), .app .run, .app .run] ++
    hilSteps 5

/-- A byte is sent. -/
def sendByte : List Label := [.bus .byteRequest] ++ hilSteps 5

/-- Two bytes are written, and one read. -/
def writeThenRead : List Label :=
  startUp ++ [.bus .writeRequest] ++ hilSteps 4 ++ [.bus (.byte 7)] ++ hilSteps 3 ++
    [.bus (.byte 8)] ++ hilSteps 3 ++ [.bus .readRequest] ++ hilSteps 4 ++ passedOn ++
    [.app .run, .app .run, .app .run] ++ hilSteps 3 ++ passedOn ++
    [.app (.returns 1), .app .run, .app .run] ++ hilSteps 5 ++ sendByte ++
    [.bus .stop] ++ hilSteps 3 ++ passedOn ++ [.app .run] ++ List.replicate 6 (.app .run)

def zeroes : UInt32 → UInt8 := fun _ => 0

/-- The state after the run, if it is one. -/
def Rests (slave : Slave) : Bool :=
  decide (slave.hil = .idle ∧ slave.path = ⟨[], .idle, noFlags, .getBits, [some .txDone]⟩ ∧
    slave.books = ⟨[[7, 8]], [(0x1000, 1)], [[7, 8]], [(0x1000, 1)], 1, 1⟩)

theorem writeThenRead_executed : ∃ last, run (next smallBuffer) (start zeroes) writeThenRead =
    some last ∧ Rests last = true :=
  Option.map_eq_some_iff.mp
    (by decide +kernel :
      (run (next smallBuffer) (start zeroes) writeThenRead).map Rests = some true)

/-- Nobody has anything to do. -/
theorem not_enabled_of_rests {last : Slave} (rests : Rests last = true) :
    ¬ ∃ label, label.ofDriver ∧ (next smallBuffer last label).isSome := by
  obtain ⟨idle, path, _⟩ := of_decide_eq_true rests
  rintro ⟨label, ofDriver, enabled⟩
  cases label with
  | bus | write => exact ofDriver
  | hil => simp [next, i2cSlaveHilThread, idle] at enabled
  | isr => simp [next, rtosI2cSlaveIsr, path] at enabled
  | app event => cases event <;> simp [next, i2cSlaveAppThread, path] at enabled

/-- The write and the read are told once, and no more is told afterwards. -/
theorem writeThenRead_told :
    ∃ execution : Execution (next smallBuffer) (start zeroes), Fair execution ∧
      (∀ n, writeThenRead.length ≤ n → EventsRight smallBuffer (execution.state n) ∧
        (execution.state n).books = ⟨[[7, 8]], [(0x1000, 1)], [[7, 8]], [(0x1000, 1)], 1, 1⟩) ∧
        ∀ books, execution.LeadsTo (fun slave => slave.books = books)
          (fun slave => books.readRequests ≤ slave.books.txStarts) := by
  obtain ⟨last, executed, rests⟩ := writeThenRead_executed
  have met : StepsMeet (next smallBuffer) (start zeroes) writeThenRead CountsBytes := by
    decide +kernel
  have stays : next smallBuffer last (.write 0 (last.memory 0)) = some last := by
    simp only [next, Function.update_eq_self]
    exact if_pos fun inBuf => absurd inBuf (by decide)
  have fair : Fair (.ofRun _ executed stays) :=
    Execution.ofRun_weaklyFair executed stays _ (not_enabled_of_rests rests)
  have counts := Execution.ofRun_meets executed stays met trivial
  refine ⟨_, fair, ?_, fun books => ((events_told smallBuffer zeroes).2 _ counts fair books).2⟩
  intro n past
  rw [Execution.ofRun_state executed stays past]
  exact ⟨(events_told smallBuffer zeroes).1 _ met (List.prefix_refl _) executed,
    (of_decide_eq_true rests).2.2⟩

/-! ## A read of 2^32 bytes -/

/-- `tx_start` has answered with one byte, and it was sent so often. -/
def sentSoOften (count : Nat) : Slave where
  memory := zeroes
  rxDataI := 0
  txData := 0x1000
  txDataLen := 1
  txDataI := 0
  txDataSent := UInt32.ofNat count
  waitingForCompleteCb := none
  path := quietPath
  answer := if count = 0 then .ack .ack else .byte 0
  hil := .idle
  bus := .reading
  current := []
  fetched := List.replicate count (0x1000, 0)
  sent := List.replicate count 0
  answered := (0x1000, 1)
  books := ⟨[], [], [], [], 1, 1⟩

theorem run_requestRead :
    run (next smallBuffer) (start zeroes) (startUp ++ requestRead) = some (sentSoOften 0) :=
  rfl

theorem run_sendByte (count : Nat) :
    run (next smallBuffer) (sentSoOften count) sendByte = some (sentSoOften (count + 1)) := by
  have sent : UInt32.ofNat count + 1 = UInt32.ofNat (count + 1) := (UInt32.ofNat_add count 1).symm
  have step : run (next smallBuffer) (sentSoOften count) sendByte =
      some { sentSoOften count with
        txDataSent := UInt32.ofNat count + 1
        answer := .byte 0
        fetched := List.replicate count (0x1000, 0) ++ [(0x1000, 0)]
        sent := List.replicate count 0 ++ [0] } := rfl
  rw [step, sent, ← List.replicate_succ', ← List.replicate_succ']
  rfl

theorem run_sendBytes (count : Nat) :
    run (next smallBuffer) (sentSoOften 0) (List.replicate count sendByte).flatten =
      some (sentSoOften count) := by
  induction count with
  | zero => rfl
  | succ count ih =>
      rw [List.replicate_succ', List.flatten_append, run_append, ih]
      simp only [Option.bind_some, List.flatten_cons, List.flatten_nil, List.append_nil]
      exact run_sendByte count

/-- The read is over, and was not reported. -/
def notReported (count : Nat) : Slave :=
  { sentSoOften count with
    bus := .idle
    fetched := []
    sent := []
    books.reads := [(0x1000, count)] }

/-- The count has wrapped to 0, and the driver takes the read for one of no bytes. -/
theorem run_stop {count : Nat} (wraps : UInt32.ofNat count = 0) (some_ : 0 < count) :
    run (next smallBuffer) (sentSoOften count) ([.bus .stop] ++ hilSteps 3) =
      some (notReported count) := by
  have notEmpty : List.replicate count (0 : UInt8) ≠ [] :=
    List.ne_nil_of_length_pos (by rwa [List.length_replicate])
  have ended : (sentSoOften count).endTransfer = notReported count := by
    simp only [Slave.endTransfer, sentSoOften, if_neg notEmpty, List.length_replicate]
    rfl
  have begun : next smallBuffer (sentSoOften count) (.bus .stop) =
      some { (sentSoOften count).endTransfer with hil := .checkWaiting .stop } := rfl
  rw [run_append, run, begun, ended]
  simp only [notReported, sentSoOften, wraps]
  rfl

theorem longRead_not_told {count : Nat} (wraps : UInt32.ofNat count = 0) (some_ : 0 < count) :
    ¬ ∀ labels, StatesSatisfy (next smallBuffer) (start zeroes) labels
      (EventsRight smallBuffer) := by
  intro always
  have executed : run (next smallBuffer) (start zeroes)
      (startUp ++ requestRead ++ (List.replicate count sendByte).flatten ++
        ([.bus .stop] ++ hilSteps 3)) = some (notReported count) := by
    rw [run_append, run_append, run_requestRead, Option.bind_some, run_sendBytes, Option.bind_some,
      run_stop wraps some_]
  have right := always _ (List.prefix_refl _) executed
  have told := (right.settled (.inl ⟨rfl, rfl⟩)).2.1 rfl
  exact absurd told nofun

/-- A read sends 2^32 bytes, and `tx_done` is not called. -/
theorem wrappedCount_not_told :
    ¬ ∀ labels, StatesSatisfy (next smallBuffer) (start zeroes) labels
      (EventsRight smallBuffer) := by
  obtain ⟨count, isCount⟩ : ∃ count, count = 2 ^ 32 := ⟨_, rfl⟩
  have some_ : 0 < count := isCount ▸ Nat.two_pow_pos 32
  have wraps : UInt32.ofNat count = 0 := by
    rw [isCount]
    decide
  exact longRead_not_told wraps some_

end FwkRtos.I2cSlave
