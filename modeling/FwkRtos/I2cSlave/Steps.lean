import FwkRtos.I2cSlave.Phases

/-!
# Steps of the I2C slave driver

The steps of the bus, of the interrupt handler, of the thread of the driver and of the
application keep what the driver keeps.
-/

namespace FwkRtos.I2cSlave

variable {config : Config} {source target : Slave}

/-! ## Books -/

theorem Balance.request {books : Books} {writes : List (List UInt8)}
    {reads : List (UInt32 × Nat)} {starts : Nat}
    (balance : Balance config books writes reads starts) :
    Balance config { books with readRequests := books.readRequests + 1 } writes reads
      (starts + 1) where
  rx := balance.rx
  txDone := balance.txDone
  noTxDone := balance.noTxDone
  txStart := congrArg (· + 1) balance.txStart

theorem Balance.callsRx {books : Books} {bytes : List UInt8} {starts : Nat}
    (balance : Balance config books [bytes] [] starts) :
    Balance config
      { books with delivered := books.delivered ++ [bytes.take config.bufLen] } [] [] starts where
  rx := balance.rx.trans (List.append_nil _).symm
  txDone := balance.txDone
  noTxDone := balance.noTxDone
  txStart := balance.txStart

theorem Balance.callsTxDone {books : Books} {data count : UInt32} {starts : Nat}
    (registered : config.txDone = true)
    (balance : Balance config books [] [(data, count.toNat)] starts) :
    Balance config { books with txDones := books.txDones ++ [(data, count)] } [] [] starts where
  rx := balance.rx
  txDone on := by
    rw [balance.txDone on, List.map_append, List.append_nil]
    rfl
  noTxDone off := absurd (off.symm.trans registered) nofun
  txStart := balance.txStart

theorem Balance.callsTxStart {books : Books} {starts : Nat}
    (balance : Balance config books [] [] (starts + 1)) :
    Balance config { books with txStarts := books.txStarts + 1 } [] [] starts where
  rx := balance.rx
  txDone := balance.txDone
  noTxDone := balance.noTxDone
  txStart := by
    show books.readRequests = books.txStarts + 1 + starts
    rw [balance.txStart]
    omega

/-! ## The interrupt handler and the thread of the driver -/

theorem Inv.isr (inv : Inv config source) (step : rtosI2cSlaveIsr source = some target) :
    Inv config target := by
  obtain ⟨memory, rxDataI, txData, txDataLen, txDataI, txDataSent, waiting, path, answer, hil, bus,
    current, fetched, sent, answered, books⟩ := source
  cases inv with
  | starting starting =>
      obtain rfl | rfl | rfl : path = _ ∨ path = _ ∨ path = _ := by
        cases starting
        · exact .inl rfl
        · exact .inr (.inl rfl)
        · exact .inr (.inr rfl)
      all_goals cases step
  | quiet quiet =>
      obtain rfl : path = quietPath := quiet
      cases step
  | unread unread waits none_ loaded =>
      cases unread with
      | toIsr =>
          cases step
          exact .unread .isr waits none_ loaded
      | isr =>
          cases step
          exact .unread .events waits none_ loaded
      | events | call => cases step
  | served served =>
      cases served <;> cases step

/-- The flags have one event. -/
theorem dispatch_set (code : CbCode) (txData : UInt32) :
    Calls txData code (dispatch (noFlags.set code)) := by
  cases code
  · exact .rx
  · exact .txStart
  · exact .txDoneData

theorem set_ne_noFlags (code : CbCode) : noFlags.set code ≠ noFlags := by
  cases code <;> decide

theorem Inv.appRuns (inv : Inv config source)
    (step : i2cSlaveAppThread config source .run = some target) : Inv config target := by
  obtain ⟨memory, rxDataI, txData, txDataLen, txDataI, txDataSent, waiting, path, answer, hil, bus,
    current, fetched, sent, answered, books⟩ := source
  cases inv with
  | starting starting isWait waits none_ cleared balance =>
      cases starting with
      | callback =>
          cases step
          exact .starting .send isWait waits none_ cleared balance
      | send =>
          cases step
          exact .starting .replied isWait waits none_ cleared balance
      | replied => cases step
  | quiet quiet =>
      obtain rfl : path = quietPath := quiet
      cases step
  | @unread code unread waits none_ loaded =>
      have unread : Unread txData code path := unread
      cases unread with
      | toIsr | isr => cases step
      | events =>
          simp only [i2cSlaveAppThread, if_neg (set_ne_noFlags code)] at step
          cases step
          exact .unread (.call (dispatch_set code txData)) waits none_ loaded
      | call calls =>
          cases calls with
          | rx =>
              cases step
              obtain ⟨bytes, _, ⟨_, holds⟩, tx, balance⟩ := loaded
              refine .served (.app .rxRuns) waits none_ tx ?_
              rw [show bytesAt memory config.dataBuf rxDataI = bytes.take config.bufLen from holds]
              exact balance.callsRx
          | txStart =>
              cases step
              obtain ⟨⟨rx, _⟩, balance⟩ := loaded
              exact .served (.app .txStartRuns) waits none_ rx balance.callsTxStart
          | txDoneData =>
              cases step
              exact .unread (.call .txDone) waits none_ loaded
          | txDone =>
              cases step
              obtain ⟨count, registered, rx, counted, _, balance⟩ := loaded
              refine .served (.app .txDoneRuns) waits none_ rx ?_
              subst counted
              exact balance.callsTxDone registered
  | @served code served waits none_ handled balance =>
      cases served with
      | replied => cases step
      | app serves =>
          cases serves with
          | rxRuns =>
              cases step
              exact .served (.app .rxClear) waits none_ handled balance
          | rxClear =>
              cases step
              exact .served (.app .rxReply) waits none_ ⟨rfl, handled⟩ balance
          | rxReply =>
              cases step
              exact .served .replied waits none_ handled balance
          | txStartRuns => cases step
          | txStartStore =>
              cases step
              obtain ⟨data, len, rx⟩ := handled
              exact .served (.app .txStartReply) waits none_ ⟨⟨data, len⟩, rx⟩ balance
          | txStartReply =>
              cases step
              exact .served .replied waits none_ handled balance
          | txDoneRuns =>
              cases step
              exact .served (.app .txDoneClear) waits none_ handled balance
          | @txDoneClear field =>
              cases field with
              | data | len | index =>
                  cases step
                  exact .served (.app .txDoneClear) waits none_ handled balance
              | sent =>
                  cases step
                  exact .served (.app .txDoneReply) waits none_ ⟨handled, rfl⟩ balance
          | txDoneReply =>
              cases step
              exact .served .replied waits none_ handled balance

/-- While a callback of the application runs, its event is served. -/
theorem Inv.inCallback (inv : Inv config source) (runs : source.path.app.inCallback = true) :
    ∃ code, Served code source.path ∧ Waits code source.waitingForCompleteCb source.hil ∧
      NoTransfer source ∧ Handled source code ∧
        Balance config source.books [] [] source.hil.startsRead := by
  cases inv with
  | @served code served waits none_ handled balance =>
      exact ⟨code, served, waits, none_, handled, balance⟩
  | starting starting =>
      generalize source.path = path at starting runs
      cases starting <;> cases runs
  | quiet quiet =>
      rw [quiet] at runs
      cases runs
  | unread unread =>
      generalize source.path = path at unread runs
      cases unread with
      | call calls => cases calls <;> cases runs
      | _ => cases runs

/-- `tx_start` returns, or sets `tx_data`. -/
theorem Inv.appAnswers (inv : Inv config source) {rest : Flags}
    (point : source.path.app = .txStartRuns rest) (data len : UInt32) :
    Inv config { source with txData := data } ∧
      Inv config { source with
        answered := (source.txData, len)
        path.app := .txStartStore len rest } := by
  obtain ⟨code, served, waits, none_, handled, balance⟩ :=
    inv.inCallback (by rw [point]; rfl)
  obtain ⟨memory, rxDataI, txData, txDataLen, txDataI, txDataSent, waiting, path, answer, hil, bus,
    current, fetched, sent, answered, books⟩ := source
  have served : Served code path := served
  cases served with
  | replied => cases point
  | app serves =>
      cases serves <;> cases point
      constructor
      · exact .served (.app .txStartRuns) waits none_ handled balance
      · exact .served (.app .txStartStore) waits none_ ⟨rfl, rfl, handled⟩ balance

theorem Inv.app (inv : Inv config source) {event : AppEvent}
    (step : i2cSlaveAppThread config source event = some target) : Inv config target := by
  cases event with
  | run => exact inv.appRuns step
  | returns len =>
      simp only [i2cSlaveAppThread] at step
      split at step <;> cases step
      next point => exact (inv.appAnswers point 0 len).2
  | setTxData data =>
      simp only [i2cSlaveAppThread] at step
      split at step <;> cases step
      next point => exact (inv.appAnswers point data 0).1

/-! ## The application writes -/

/-- The bytes of a write stay when others are written. -/
theorem Holds.update {bytes : List UInt8} (holds : Holds config source bytes) {address : UInt32}
    {value : UInt8} (elsewhere : ¬ config.inDataBuf address) :
    Holds config { source with memory := Function.update source.memory address value } bytes := by
  refine ⟨holds.1, Eq.trans (bytesAt_update ?_) holds.2⟩
  rintro i below rfl
  exact elsewhere (config.inDataBuf_add (lt_of_lt_of_le below holds.within))

theorem Loaded.update {starts : Nat} {code : CbCode} (loaded : Loaded config source starts code)
    {address : UInt32} {value : UInt8} (elsewhere : ¬ config.inDataBuf address) :
    Loaded config { source with memory := Function.update source.memory address value } starts
      code := by
  cases code with
  | rx =>
      obtain ⟨bytes, some_, holds, tx, balance⟩ := loaded
      exact ⟨bytes, some_, holds.update elsewhere, tx, balance⟩
  | txDone | txStart => exact loaded

theorem Ended.update {starts : Nat} (ended : Ended config source starts) {address : UInt32}
    {value : UInt8} (elsewhere : ¬ config.inDataBuf address) :
    Ended config { source with memory := Function.update source.memory address value } starts := by
  rcases ended with nothing | rx | others
  · exact .inl nothing
  · exact .inr (.inl (Loaded.update rx elsewhere))
  · exact .inr (.inr others)

theorem Writes.update {stored : List UInt8} (writes : Writes config source stored)
    {address : UInt32} {value : UInt8} (elsewhere : ¬ config.inDataBuf address) :
    Writes config { source with memory := Function.update source.memory address value } stored :=
  ⟨writes.1, writes.2.1, writes.2.2.1.update elsewhere, writes.2.2.2⟩

/-- A write elsewhere leaves what the thread of the interface works on. -/
theorem HilRight.update (right : HilRight config source) {address : UInt32} {value : UInt8}
    (elsewhere : ¬ config.inDataBuf address) :
    HilRight config { source with memory := Function.update source.memory address value } := by
  unfold HilRight at right ⊢
  cases point : source.hil <;> simp only [point] at right ⊢
  case idle =>
    obtain ⟨transfer, balance⟩ := right
    refine ⟨?_, balance⟩
    rcases transfer with none_ | writes | reads
    · exact .inl none_
    · exact .inr (.inl (Writes.update writes elsewhere))
    · exact .inr (.inr reads)
  case checkWaiting | checkSent => exact ⟨right.1, right.2.update elsewhere⟩
  case checkRx => exact ⟨right.1, right.2.1, right.2.2.update elsewhere⟩
  case out => exact ⟨right.1, right.2.1, right.2.2.update elsewhere⟩
  case store =>
    obtain ⟨⟨stored, current, writes⟩, balance⟩ := right
    exact ⟨⟨stored, current, writes.update elsewhere⟩, balance⟩
  case increment =>
    obtain ⟨⟨stored, byte, current, writes, room, isStored⟩, balance⟩ := right
    have index : source.rxDataI = stored.length := by
      rw [writes.2.2.1.1, Nat.min_eq_left (Nat.le_of_lt room)]
    refine ⟨⟨stored, byte, current, writes.update elsewhere, room, ?_⟩, balance⟩
    rw [← isStored]
    apply Function.update_of_ne
    rintro rfl
    exact elsewhere (config.inDataBuf_add (index ▸ room))
  case respond => exact ⟨right.1.update elsewhere, right.2⟩
  all_goals exact right

/-- The application writes to memory, and to `data_buf` only in its callbacks. -/
theorem Inv.write (inv : Inv config source) {address : UInt32} {value : UInt8}
    (allowed : config.inDataBuf address → source.path.app.inCallback = true) :
    Inv config { source with memory := Function.update source.memory address value } := by
  by_cases runs : source.path.app.inCallback = true
  · obtain ⟨code, served, waits, none_, handled, balance⟩ := inv.inCallback runs
    exact .served served waits none_ handled balance
  · have elsewhere : ¬ config.inDataBuf address := fun inBuf => runs (allowed inBuf)
    cases inv with
    | starting starting hil waiting none_ cleared balance =>
        exact .starting starting hil waiting none_ cleared balance
    | quiet quiet waiting right => exact .quiet quiet waiting (right.update elsewhere)
    | unread unread waits none_ loaded =>
        exact .unread unread waits none_ (loaded.update elsewhere)
    | served served waits none_ handled balance =>
        exact .served served waits none_ handled balance

/-! ## The bus -/

theorem Balance.wrote {books : Books} {bytes : List UInt8} {starts : Nat}
    (balance : Balance config books [] [] starts) :
    Balance config { books with written := books.written ++ [bytes] } [bytes] [] starts where
  rx := by
    rw [List.map_append, balance.rx]
    simp
  txDone := balance.txDone
  noTxDone := balance.noTxDone
  txStart := balance.txStart

theorem Balance.read {books : Books} {read : UInt32 × Nat} {starts : Nat}
    (balance : Balance config books [] [] starts) :
    Balance config { books with reads := books.reads ++ [read] } [] [read] starts where
  rx := balance.rx
  txDone on := by
    rw [balance.txDone on]
    simp
  noTxDone := balance.noTxDone
  txStart := balance.txStart

theorem Balance.readUnregistered {books : Books} {read : UInt32 × Nat} {starts : Nat}
    (off : config.txDone = false) (balance : Balance config books [] [] starts) :
    Balance config { books with reads := books.reads ++ [read] } [] [] starts where
  rx := balance.rx
  txDone on := absurd (off.symm.trans on) nofun
  noTxDone := balance.noTxDone
  txStart := balance.txStart

/-- When a transfer is over, what is to be reported is in the fields. -/
theorem Transfer.ended (transfer : Transfer config source)
    (balance : Balance config source.books [] [] 0) :
    NoTransfer source.endTransfer ∧ Ended config source.endTransfer 0 := by
  obtain ⟨memory, rxDataI, txData, txDataLen, txDataI, txDataSent, waiting, path, answer, hil, bus,
    current, fetched, sent, answered, books⟩ := source
  rcases transfer with ⟨none_, cleared⟩ | ⟨isWriting, tx, holds, notSent⟩ |
    ⟨isReading, rx, ⟨⟨data, _⟩, _, _⟩, _, counted, fetches, notWritten⟩
  · obtain rfl : bus = .idle := none_.1
    exact ⟨none_, .inl ⟨cleared, balance⟩⟩
  · obtain rfl : bus = .writing := isWriting
    refine ⟨⟨rfl, rfl, notSent⟩, ?_⟩
    by_cases empty : current = []
    · subst empty
      obtain ⟨index, _⟩ := holds
      refine .inl ⟨⟨index.trans (Nat.zero_min _), tx⟩, ?_⟩
      exact ⟨balance.rx, balance.txDone, balance.noTxDone, balance.txStart⟩
    · refine .inr (.inl ⟨current, empty, holds, tx, ?_⟩)
      simp only [Slave.endTransfer, if_neg empty]
      exact balance.wrote
  · obtain rfl : bus = .reading := isReading
    refine ⟨⟨rfl, notWritten, rfl, rfl⟩, ?_⟩
    by_cases empty : sent = []
    · have none_ : txDataSent = 0 := UInt32.toNat_inj.mp (counted.trans (congrArg _ empty))
      refine .inl ⟨⟨rx, none_⟩, ?_⟩
      simp only [Slave.endTransfer, if_pos empty]
      exact balance
    · have positive : 0 < sent.length := List.length_pos_of_ne_nil empty
      cases registered : config.txDone with
      | true =>
          refine .inr (.inr (.inl ⟨sent.length, registered, rx, counted, positive, ?_⟩))
          simp only [Slave.endTransfer, if_neg empty]
          rw [show answered.1 = txData from data.symm]
          exact balance.read
      | false =>
          refine .inr (.inr (.inr ⟨registered, rx, ?_, ?_⟩))
          · rintro none_
            have none_ : txDataSent = 0 := none_
            rw [none_] at counted
            exact absurd counted (Nat.ne_of_lt positive)
          · simp only [Slave.endTransfer, if_neg empty]
            exact balance.readUnregistered registered

/-- A read is requested besides. -/
theorem Loaded.request {starts : Nat} {code : CbCode} (loaded : Loaded config source starts code) :
    Loaded config { source with books.readRequests := source.books.readRequests + 1 } (starts + 1)
      code := by
  cases code with
  | rx =>
      obtain ⟨bytes, some_, holds, tx, balance⟩ := loaded
      exact ⟨bytes, some_, holds, tx, balance.request⟩
  | txDone =>
      obtain ⟨count, registered, rx, counted, some_, balance⟩ := loaded
      exact ⟨count, registered, rx, counted, some_, balance.request⟩
  | txStart =>
      obtain ⟨cleared, balance⟩ := loaded
      exact ⟨cleared, balance.request⟩

theorem Ended.request {starts : Nat} (ended : Ended config source starts) :
    Ended config { source with books.readRequests := source.books.readRequests + 1 }
      (starts + 1) := by
  rcases ended with ⟨cleared, balance⟩ | rx | txDone | ⟨off, rx, tx, balance⟩
  · exact .inl ⟨cleared, balance.request⟩
  · exact .inr (.inl (Loaded.request rx))
  · exact .inr (.inr (.inl (Loaded.request txDone)))
  · exact .inr (.inr (.inr ⟨off, rx, tx, balance.request⟩))

theorem endTransfer_of_none (none_ : NoTransfer source) : source.endTransfer = source := by
  rw [Slave.endTransfer, none_.1]

theorem endTransfer_frame (slave : Slave) :
    slave.endTransfer.path = slave.path ∧
      slave.endTransfer.waitingForCompleteCb = slave.waitingForCompleteCb ∧
        slave.endTransfer.books.readRequests = slave.books.readRequests := by
  unfold Slave.endTransfer
  split <;> exact ⟨rfl, rfl, rfl⟩

/-- A request or a stop begins with `xfer_complete_check`. -/
theorem Inv.begins (inv : Inv config source) (idle : source.hil = .idle) :
    (∀ after, after ≠ .readReq →
      Inv config { source.endTransfer with hil := .checkWaiting after }) ∧
      Inv config { source.endTransfer with
        books.readRequests := source.books.readRequests + 1
        hil := .checkWaiting .readReq } := by
  rw [← (endTransfer_frame source).2.2]
  have startsRead : ∀ after : After, after ≠ .readReq → after.startsRead = 0 := by
    intro after other
    cases after
    · exact absurd rfl other
    · rfl
    · rfl
  cases inv with
  | starting _ hil =>
      rw [idle] at hil
      cases hil
  | quiet quiet waiting right =>
      rw [HilRight, idle] at right
      obtain ⟨none_, ended⟩ := right.1.ended right.2
      obtain ⟨path, waits, _⟩ := endTransfer_frame source
      constructor
      · intro after other
        refine .quiet (path.trans quiet) (waits.trans waiting) ⟨none_, ?_⟩
        rw [startsRead after other]
        exact ended
      · exact .quiet (path.trans quiet) (waits.trans waiting) ⟨none_, ended.request⟩
  | unread unread waits none_ loaded =>
      rw [endTransfer_of_none none_]
      rw [idle] at waits loaded
      generalize pending : source.waitingForCompleteCb = waiting at waits
      cases waits with
      | deferred isReport =>
          constructor
          · intro after other
            refine .unread unread (pending ▸ .late isReport) none_ ?_
            show Loaded config _ after.startsRead _
            rw [startsRead after other]
            exact loaded
          · exact .unread unread (pending ▸ .late isReport) none_ (Loaded.request loaded)
  | served served waits none_ handled balance =>
      rw [endTransfer_of_none none_]
      rw [idle] at waits balance
      generalize pending : source.waitingForCompleteCb = waiting at waits
      cases waits with
      | deferred isReport =>
          constructor
          · intro after other
            refine .served served (pending ▸ .late isReport) none_ handled ?_
            show Balance config _ _ _ after.startsRead
            rw [startsRead after other]
            exact balance
          · exact .served served (pending ▸ .late isReport) none_ handled balance.request

/-- A transfer goes on while no event is outstanding. -/
theorem Inv.transfers (inv : Inv config source) (idle : source.hil = .idle)
    (active : source.bus ≠ .idle) :
    source.path = quietPath ∧ source.waitingForCompleteCb = none ∧
      Transfer config source ∧ Balance config source.books [] [] 0 := by
  cases inv with
  | starting _ _ _ none_ | unread _ _ none_ | served _ _ none_ => exact absurd none_.1 active
  | quiet quiet waiting right =>
      rw [HilRight, idle] at right
      exact ⟨quiet, waiting, right⟩

theorem Inv.bus (inv : Inv config source) {event : BusEvent}
    (step : busEvent source event = some target) : Inv config target := by
  cases event with
  | readRequest =>
      simp only [busEvent] at step
      split at step <;> cases step
      next idle => exact (inv.begins idle).2
  | writeRequest | stop =>
      simp only [busEvent] at step
      split at step <;> cases step
      next idle => exact (inv.begins idle).1 _ nofun
  | byte byte =>
      simp only [busEvent] at step
      split at step <;> cases step
      next now =>
        obtain ⟨idle, writing⟩ := now
        obtain ⟨quiet, waiting, transfer, balance⟩ :=
          inv.transfers idle (by rw [writing]; exact nofun)
        refine .quiet quiet waiting ⟨⟨source.current, rfl, ?_⟩, balance⟩
        rcases transfer with ⟨none_, _⟩ | writes | reads
        · exact absurd (none_.1.symm.trans writing) nofun
        · exact writes
        · exact absurd (reads.1.symm.trans writing) nofun
  | byteRequest =>
      simp only [busEvent] at step
      split at step <;> cases step
      next now =>
        obtain ⟨idle, reading⟩ := now
        obtain ⟨quiet, waiting, transfer, balance⟩ :=
          inv.transfers idle (by rw [reading]; exact nofun)
        refine .quiet quiet waiting ⟨?_, balance⟩
        rcases transfer with ⟨none_, _⟩ | writes | reads
        · exact absurd (none_.1.symm.trans reading) nofun
        · exact absurd (writes.1.symm.trans reading) nofun
        · exact reads

end FwkRtos.I2cSlave
