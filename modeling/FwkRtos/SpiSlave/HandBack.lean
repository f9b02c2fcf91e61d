import FwkRtos.SpiSlave.Accounts

/-!
# Prepared buffers come back once

What the driver tells the application about a transaction is what the transaction did,
as long as the books of the driver are kept.
-/

namespace FwkRtos.SpiSlave

open FwkRtos.Transition

variable {config : Config} {source target : Driver}

/-! ## Codes -/

/-- The code tells whether the transaction used prepared buffers. -/
def Report.Right (report : Report) : Prop :=
  report.code = .userBufCb ↔ report.transaction.isSome

/-- All reports of the driver, the oldest first. -/
def Driver.reports (driver : Driver) : List Report :=
  driver.returned.map Prod.snd ++ driver.xferDoneQueue.map Prod.snd ++ driver.isr.reports ++
    driver.codes

/-- What the thread of the interface knows of a transaction that has ended. -/
def HilPoint.Told : HilPoint → Prop
  | .storeWritten code ended | .storeRead code ended | .send code ended =>
      Report.Right ⟨code, ended.transaction⟩
  | .dropped ended => ended.transaction = none
  | _ => True

structure Told (driver : Driver) : Prop where
  reports : ∀ report ∈ driver.reports, report.Right
  hil : driver.hil.Told

theorem Told.isDefault {driver : Driver} (told : Told driver) {ended : Ended}
    (point : driver.hil = .dropped ended) : ended.transaction = none := by
  have hil := told.hil
  rw [point] at hil
  exact hil

/-- The thread of the interface says what it knows, and nothing else. -/
theorem Told.hilRuns (told : Told source) (keeps : KeepsAccount config source (.hil .run))
    (step : spiSlaveHilThread source .run = some target) : Told target := by
  have reports := told.reports
  have keeps : TellsApart source.default.buffers source.hil := keeps
  cases point : source.hil with
  | waitStart =>
      simp only [spiSlaveHilThread, point] at step
      split at step <;> cases step
      exact ⟨reports, trivial⟩
  | deselected | transfer =>
      simp only [spiSlaveHilThread, slaveTransactionEnded, point] at step
      cases step
  | started =>
      simp only [spiSlaveHilThread, slaveTransactionStarted, point] at step
      split at step <;> cases step <;> exact ⟨reports, trivial⟩
  | fetch xfer field =>
      rcases xfer with ⟨_ | number, buffers⟩ <;> cases field <;>
        simp only [spiSlaveHilThread, slaveTransactionStarted, Field.nextFetched, point] at step <;>
        cases step <;> exact ⟨reports, trivial⟩
  | clearReady =>
      simp only [spiSlaveHilThread, slaveTransactionStarted, point] at step
      cases step
      exact ⟨reports, trivial⟩
  | compareOut ended =>
      simp only [spiSlaveHilThread, slaveTransactionEnded, point] at step
      rw [point] at keeps
      cases step
      refine ⟨reports, ?_⟩
      by_cases same : ended.xfer.buffers.outBuf = source.default.buffers.outBuf
      · rw [if_pos same]
        trivial
      · rw [if_neg same]
        have isUser : ended.transaction ≠ none := fun none_ => same (keeps none_)
        exact iff_of_true rfl (Option.isSome_iff_ne_none.mpr isUser)
  | compareIn ended =>
      simp only [spiSlaveHilThread, slaveTransactionEnded, point] at step
      rw [point] at keeps
      cases step
      refine ⟨reports, ?_⟩
      by_cases same : ended.xfer.buffers.inBuf = source.default.buffers.inBuf
      · rw [if_pos same]
        refine iff_of_false (by rintro ⟨⟩) ?_
        rw [keeps.mpr same]
        rintro ⟨⟩
      · rw [if_neg same]
        have isUser : ended.transaction ≠ none := fun none_ => same (keeps.mp none_)
        exact iff_of_true rfl (Option.isSome_iff_ne_none.mpr isUser)
  | storeWritten code ended =>
      have right := told.hil
      simp only [spiSlaveHilThread, slaveTransactionEnded, point] at step right
      cases code <;> cases step <;> exact ⟨reports, right⟩
  | storeRead code ended =>
      have right := told.hil
      simp only [spiSlaveHilThread, slaveTransactionEnded, point] at step right
      cases code <;> cases step
      · refine ⟨reports, ?_⟩
        have isDefault : ¬ ended.transaction.isSome := by
          intro isUser
          cases right.mpr isUser
        exact Option.not_isSome_iff_eq_none.mp isDefault
      · exact ⟨reports, right⟩
  | dropped ended =>
      have isDefault := told.isDefault point
      simp only [spiSlaveHilThread, slaveTransactionEnded, point] at step
      cases step
      refine ⟨reports, ?_⟩
      split
      · trivial
      · refine iff_of_false (by rintro ⟨⟩) ?_
        rw [isDefault]
        rintro ⟨⟩
  | send code ended =>
      have right := told.hil
      simp only [spiSlaveHilThread, slaveTransactionEnded, point] at step right
      cases step
      refine ⟨fun report member => ?_, trivial⟩
      have member : report ∈ source.reports ++ [⟨code, ended.transaction⟩] := by
        simpa [Driver.reports] using member
      rcases List.mem_append.mp member with old | new
      · exact reports report old
      · rw [List.mem_singleton.mp new]
        exact right

theorem Told.next (told : Told source) {label : Label} (keeps : KeepsAccount config source label)
    (step : next config source label = some target) : Told target := by
  have reports := told.reports
  cases label with
  | hil event =>
      cases event with
      | run => exact told.hilRuns keeps step
      | select | deselect =>
          simp only [SpiSlave.next, spiSlaveHilThread] at step
          repeat' split at step
          all_goals
            cases step
          all_goals
            exact ⟨reports, trivial⟩
  | isr =>
      have hil := told.hil
      cases point : source.isr with
      | idle =>
          simp only [SpiSlave.next, rtosSpiSlaveIsr, point] at step
          repeat' split at step
          all_goals
            cases step
          next codes =>
            refine ⟨fun report member => reports report ?_, hil⟩
            simpa [Driver.reports, IsrPoint.reports, point, codes] using member
      | outBuf | bytesWritten | inBuf | bytesRead | notifyGive =>
          simp only [SpiSlave.next, rtosSpiSlaveIsr, point] at step
          cases step
          refine ⟨fun report member => reports report ?_, hil⟩
          simpa [Driver.reports, IsrPoint.reports, point] using member
      | queueSend report item =>
          simp only [SpiSlave.next, rtosSpiSlaveIsr, point] at step
          split at step <;> cases step
          · refine ⟨fun report member => reports report ?_, hil⟩
            cases xferDone : config.xferDone <;>
              simpa [Driver.reports, IsrPoint.reports, point, xferDone] using member
          · refine ⟨fun other member => reports other ?_, hil⟩
            simp [Driver.reports, IsrPoint.reports, point] at member ⊢
            tauto
  | app =>
      have frame := appFrame_of_step step
      refine ⟨fun report member => reports report ?_, frame.hil ▸ told.hil⟩
      rw [Driver.reports, frame.returned, frame.xferDoneQueue, frame.isr, frame.codes] at member
      exact member
  | thread =>
      have hil := told.hil
      simp only [SpiSlave.next, spiSlaveAppThread] at step
      repeat' split at step
      all_goals
        cases step
      all_goals
        exact ⟨reports, hil⟩
  | prepare | prepareDefaultBuffers =>
      have hil := told.hil
      simp only [SpiSlave.next] at step
      split at step <;> cases step
      exact ⟨reports, hil⟩
  | defaultBufXferEnded =>
      cases step
      exact ⟨reports, told.hil⟩
  | complete =>
      have hil := told.hil
      cases step
      simp only [spiSlaveXferComplete]
      split
      · next entry queue items =>
          refine ⟨fun report member => reports report ?_, hil⟩
          simpa [Driver.reports, items] using member
      · exact ⟨reports, hil⟩

/-! ## Data -/

/-- The fields that `slave_transaction_started` has read before this one. -/
def FetchedBefore (got source : Buffers) : Field → Prop
  | .outBuf => True
  | .outbufLen => got.outBuf = source.outBuf
  | .inBuf => got.outBuf = source.outBuf ∧ got.outbufLen = source.outbufLen
  | .inbufLen =>
      got.outBuf = source.outBuf ∧ got.outbufLen = source.outbufLen ∧ got.inBuf = source.inBuf

/-- The fields that `spi_slave_xfer_prepare` has written before this one. -/
def StoredBefore (got source : Buffers) : Field → Prop
  | .inBuf => True
  | .inbufLen => got.inBuf = source.inBuf
  | .outBuf => got.inBuf = source.inBuf ∧ got.inbufLen = source.inbufLen
  | .outbufLen =>
      got.inBuf = source.inBuf ∧ got.inbufLen = source.inbufLen ∧ got.outBuf = source.outBuf

/-- The prepared buffers are in the fields of the driver, or on their way to them. -/
def Driver.Stored (driver : Driver) : Prop :=
  match driver.app with
  | .store true buffers field =>
      driver.prepared.getLast? = some buffers ∧ StoredBefore driver.user.buffers buffers field
  | _ => ∀ buffers, driver.prepared.getLast? = some buffers → driver.user.buffers = buffers

/-- A transaction has the buffers of its call, or has read so many of them. -/
def Driver.Fetched (driver : Driver) : Prop :=
  match driver.hil with
  | .fetch ⟨.user _, got⟩ field => FetchedBefore got driver.user.buffers field
  | .clearReady number buffers | .transfer ⟨.user number, buffers⟩ =>
      driver.prepared[number]? = some buffers
  | _ => True

/-- The counts that the thread of the interface has stored. -/
def Driver.Counted (driver : Driver) : Prop :=
  match driver.hil with
  | .storeRead .userBufCb ended => driver.user.bytesWritten = ended.bytesWritten
  | .send .userBufCb ended =>
      driver.user.bytesWritten = ended.bytesWritten ∧ driver.user.bytesRead = ended.bytesRead
  | _ => True

/-- What the interrupt handler has read for a transaction. -/
def IsrPoint.Reads : IsrPoint → Prop
  | .bytesWritten report out => ∀ transaction ∈ report.transaction, out = transaction.item.outBuf
  | .inBuf report out written =>
      ∀ transaction ∈ report.transaction,
        out = transaction.item.outBuf ∧ written = transaction.item.bytesWritten
  | .bytesRead report out written in_ =>
      ∀ transaction ∈ report.transaction,
        out = transaction.item.outBuf ∧ written = transaction.item.bytesWritten ∧
          in_ = transaction.item.inBuf
  | .queueSend report item => ∀ transaction ∈ report.transaction, item = transaction.item
  | .idle | .outBuf _ | .notifyGive => True

structure Data (driver : Driver) : Prop where
  stored : driver.Stored
  fetched : driver.Fetched
  ended : ∀ transaction ∈ driver.ended,
    driver.prepared[transaction.number]? = some transaction.buffers
  counted : driver.Counted
  counts : ∀ transaction ∈ transactions (driver.isr.reports ++ driver.codes),
    driver.user.bytesWritten = transaction.bytesWritten ∧
      driver.user.bytesRead = transaction.bytesRead
  isr : driver.isr.Reads
  items : ∀ entry ∈ driver.returned ++ driver.xferDoneQueue,
    ∀ transaction ∈ entry.2.transaction, entry.1 = transaction.item

theorem data_start (config : Config) : Data (start config) := by
  rcases config with ⟨_ | _, xferDone, queueSize⟩ <;>
    exact ⟨nofun, trivial, nofun, trivial, nofun, trivial, nofun⟩

/-- While the prepared buffers are not being written they are in the fields. -/
theorem Data.user {driver : Driver} (data : Data driver)
    (notPreparing : driver.app.preparing = false) {buffers : Buffers}
    (last : driver.prepared.getLast? = some buffers) : driver.user.buffers = buffers := by
  have stored := data.stored
  unfold Driver.Stored at stored
  split at stored
  · next point =>
      rw [point] at notPreparing
      cases notPreparing
  · exact stored buffers last

/-- The fields have the buffers of a transaction on the way. -/
theorem Data.onTheWay {driver : Driver} (data : Data driver) (accounts : Accounts driver)
    {transaction : Transaction} (onTheWay : transaction ∈ driver.onTheWay) :
    driver.user.buffers = transaction.buffers := by
  obtain ⟨_, waits, _, number⟩ := accounts.sole onTheWay
  have notPreparing : driver.app.preparing = false := (Bool.or_eq_false_iff.mp waits).1
  have ended : transaction ∈ driver.ended := by
    rw [accounts.ended]
    exact List.mem_append_right _ onTheWay
  apply data.user notPreparing
  rw [List.getLast?_eq_getElem?, ← number]
  exact data.ended transaction ended

theorem fetchedBefore_copy {got source : Buffers} (fetched : FetchedBefore got source .inbufLen) :
    got.copy source .inbufLen = source := by
  obtain ⟨outBuf, outbufLen, inBuf⟩ := fetched
  rw [Buffers.copy, outBuf, outbufLen, inBuf]

theorem storedBefore_copy {got source : Buffers} (stored : StoredBefore got source .outbufLen) :
    got.copy source .outbufLen = source := by
  obtain ⟨inBuf, inbufLen, outBuf⟩ := stored
  rw [Buffers.copy, inBuf, inbufLen, outBuf]

theorem counts_of_transaction {ended : Ended} {transaction : Transaction}
    (isUser : ended.transaction = some transaction) :
    transaction.bytesWritten = ended.bytesWritten ∧ transaction.bytesRead = ended.bytesRead := by
  rcases ended with ⟨⟨_ | number, buffers⟩, bytesWritten, bytesRead⟩ <;> cases isUser
  exact ⟨rfl, rfl⟩

/-- When a transaction on prepared buffers is to be reported, no other is on the way. -/
theorem Accounts.reporting_alone {driver : Driver} (accounts : Accounts driver)
    {transaction : Transaction} (reporting : driver.hil.reporting = [transaction])
    (other : Transaction) : other ∉ transactions (driver.isr.reports ++ driver.codes) := by
  intro member
  have onTheWay : transaction ∈ driver.onTheWay := by
    rw [Driver.onTheWay, reporting]
    exact List.mem_append_right _ (List.mem_singleton_self _)
  have alone := congrArg List.length (accounts.sole onTheWay).1
  rw [Driver.onTheWay, reporting, List.append_assoc, transactions_append] at alone
  have positive := List.length_pos_of_mem member
  simp only [List.length_append, List.length_singleton] at alone
  omega

/-- The thread of the interface runs. -/
theorem Data.hilRuns (data : Data source) (accounts : Accounts source) (told : Told source)
    (step : spiSlaveHilThread source .run = some target) : Data target := by
  have user := @Data.user source data
  obtain ⟨stored, fetched, ended, counted, counts, isr, items⟩ := data
  have toldHil := told.hil
  have running := @Accounts.running source accounts
  have sole := @Accounts.sole source accounts
  have alone := @Accounts.reporting_alone source accounts
  clear told accounts
  obtain ⟨userFields, default, userDataReady, drop, startByte, codes, trigger, queue, notified, hil,
    isrPoint, app, thread, prepared, began, endedList, returned⟩ := source
  cases hil with
  | waitStart =>
      cases startByte <;> cases step
      exact ⟨stored, trivial, ended, trivial, counts, isr, items⟩
  | deselected | transfer => cases step
  | started =>
      cases userDataReady <;> cases step <;>
        exact ⟨stored, trivial, ended, trivial, counts, isr, items⟩
  | fetch xfer field =>
      rcases xfer with ⟨_ | number, buffers⟩
      · cases field <;> cases step <;>
          exact ⟨stored, trivial, ended, trivial, counts, isr, items⟩
      · cases field with
        | outBuf =>
            cases step
            exact ⟨stored, rfl, ended, trivial, counts, isr, items⟩
        | outbufLen =>
            cases step
            exact ⟨stored, ⟨fetched, rfl⟩, ended, trivial, counts, isr, items⟩
        | inBuf =>
            cases step
            exact ⟨stored, ⟨fetched.1, fetched.2, rfl⟩, ended, trivial, counts, isr, items⟩
        | inbufLen =>
            cases step
            obtain ⟨_, waits, number_⟩ := running rfl
            refine ⟨stored, ?_, ended, trivial, counts, isr, items⟩
            obtain ⟨last, isLast⟩ : ∃ last, prepared[number]? = some last :=
              ⟨_, List.getElem?_eq_getElem (Nat.lt_of_succ_le (Nat.le_of_eq number_))⟩
            have got : userFields.buffers = last := by
              apply user (Bool.or_eq_false_iff.mp waits).1
              rw [List.getLast?_eq_getElem?, ← number_]
              exact isLast
            show prepared[number]? = some (buffers.copy userFields.buffers .inbufLen)
            rw [isLast, ← got]
            exact congrArg some (fetchedBefore_copy fetched).symm
  | clearReady number buffers =>
      cases step
      exact ⟨stored, fetched, ended, trivial, counts, isr, items⟩
  | compareOut finished =>
      cases step
      by_cases same : finished.xfer.buffers.outBuf = default.buffers.outBuf
      · rw [if_pos same]
        exact ⟨stored, trivial, ended, trivial, counts, isr, items⟩
      · rw [if_neg same]
        exact ⟨stored, trivial, ended, trivial, counts, isr, items⟩
  | compareIn finished =>
      cases step
      by_cases same : finished.xfer.buffers.inBuf = default.buffers.inBuf
      · rw [if_pos same]
        exact ⟨stored, trivial, ended, trivial, counts, isr, items⟩
      · rw [if_neg same]
        exact ⟨stored, trivial, ended, trivial, counts, isr, items⟩
  | storeWritten code finished =>
      cases code with
      | defaultBufCb =>
          cases step
          exact ⟨stored, trivial, ended, trivial, counts, isr, items⟩
      | userBufCb =>
          cases step
          obtain ⟨transaction, isUser⟩ := Option.isSome_iff_exists.mp (toldHil.mp rfl)
          refine ⟨stored, trivial, ended, rfl, fun other member => ?_, isr, items⟩
          exact absurd member (alone (congrArg Option.toList isUser) other)
  | storeRead code finished =>
      cases code with
      | defaultBufCb =>
          cases step
          exact ⟨stored, trivial, ended, trivial, counts, isr, items⟩
      | userBufCb =>
          cases step
          obtain ⟨transaction, isUser⟩ := Option.isSome_iff_exists.mp (toldHil.mp rfl)
          refine ⟨stored, trivial, ended, ⟨counted, rfl⟩, fun other member => ?_, isr, items⟩
          exact absurd member (alone (congrArg Option.toList isUser) other)
  | dropped finished =>
      cases drop <;> cases step <;> exact ⟨stored, trivial, ended, trivial, counts, isr, items⟩
  | send code finished =>
      cases step
      refine ⟨stored, trivial, ended, trivial, ?_, isr, items⟩
      intro transaction member
      rw [← List.append_assoc, transactions_append] at member
      rcases List.mem_append.mp member with old | new
      · exact counts transaction old
      · have isUser : finished.transaction = some transaction := by
          simpa [transactions] using new
        obtain rfl : code = .userBufCb := toldHil.mpr (by rw [isUser]; rfl)
        obtain ⟨written, read⟩ := counts_of_transaction isUser
        rw [written, read]
        exact counted

/-- A transaction ends. -/
theorem Data.deselected (data : Data source) {bytesWritten bytesRead : UInt32}
    (step : spiSlaveHilThread source (.deselect bytesWritten bytesRead) = some target) :
    Data target := by
  obtain ⟨stored, fetched, ended, _, counts, isr, items⟩ := data
  obtain ⟨userFields, default, userDataReady, drop, startByte, codes, trigger, queue, notified, hil,
    isrPoint, app, thread, prepared, began, endedList, returned⟩ := source
  cases hil with
  | transfer xfer =>
      simp only [spiSlaveHilThread] at step
      split at step <;> cases step
      · exact ⟨stored, trivial, ended, trivial, counts, isr, items⟩
      · refine ⟨stored, trivial, fun transaction member => ?_, trivial, counts, isr, items⟩
        rcases xfer with ⟨_ | number, buffers⟩
        · exact ended transaction (by simpa [Ended.transaction] using member)
        · rcases List.mem_append.mp member with old | new
          · exact ended transaction old
          · obtain rfl := List.mem_singleton.mp new
            exact fetched
  | _ => cases step

/-- The interrupt handler reads what the transaction did. -/
theorem Data.read (data : Data source) (accounts : Accounts source) (told : Told source)
    {report : Report} (reading : source.isr.reports = [report]) {transaction : Transaction}
    (isUser : report.transaction = some transaction) :
    (source.fields report.code).buffers = transaction.buffers ∧
      (source.fields report.code).bytesWritten = transaction.bytesWritten ∧
        (source.fields report.code).bytesRead = transaction.bytesRead := by
  have member : report ∈ source.isr.reports := by
    rw [reading]
    exact List.mem_singleton_self _
  have right : report.Right := told.reports report (by
    rw [Driver.reports]
    simp [member])
  have isUserCode : report.code = .userBufCb := right.mpr (by rw [isUser]; rfl)
  have reported : transaction ∈ transactions source.isr.reports :=
    List.mem_filterMap.mpr ⟨report, member, isUser⟩
  have onTheWay : transaction ∈ source.onTheWay := by
    rw [Driver.onTheWay, transactions_append, transactions_append]
    simp [reported]
  rw [isUserCode]
  refine ⟨data.onTheWay accounts onTheWay, data.counts transaction ?_⟩
  rw [transactions_append]
  exact List.mem_append_left _ reported

/-- The interrupt handler runs. -/
theorem Data.isrRuns (data : Data source) (accounts : Accounts source) (told : Told source)
    (step : rtosSpiSlaveIsr config source = some target) : Data target := by
  have read := @Data.read source data accounts told
  obtain ⟨stored, fetched, ended, counted, counts, isr, items⟩ := data
  clear told accounts
  obtain ⟨userFields, default, userDataReady, drop, startByte, codes, trigger, queue, notified, hil,
    isrPoint, app, thread, prepared, began, endedList, returned⟩ := source
  cases isrPoint with
  | idle =>
      cases trigger with
      | false => cases step
      | true =>
          cases codes with
          | nil => cases step
          | cons report codes =>
              cases step
              exact ⟨stored, fetched, ended, counted, counts, trivial, items⟩
  | outBuf report =>
      cases step
      refine ⟨stored, fetched, ended, counted, counts, fun transaction isUser => ?_, items⟩
      exact congrArg Buffers.outBuf (read rfl isUser).1
  | bytesWritten report out =>
      cases step
      refine ⟨stored, fetched, ended, counted, counts, fun transaction isUser => ?_, items⟩
      exact ⟨isr transaction isUser, (read rfl isUser).2.1⟩
  | inBuf report out written =>
      cases step
      refine ⟨stored, fetched, ended, counted, counts, fun transaction isUser => ?_, items⟩
      obtain ⟨outRight, writtenRight⟩ := isr transaction isUser
      exact ⟨outRight, writtenRight, congrArg Buffers.inBuf (read rfl isUser).1⟩
  | bytesRead report out written in_ =>
      cases step
      refine ⟨stored, fetched, ended, counted, counts, fun transaction isUser => ?_, items⟩
      obtain ⟨rfl, rfl, rfl⟩ := isr transaction isUser
      exact congrArg (XferDoneQueueItem.mk _ _ _) (read rfl isUser).2.2
  | queueSend report item =>
      have fewer : ∀ transaction ∈ transactions codes,
          userFields.bytesWritten = transaction.bytesWritten ∧
            userFields.bytesRead = transaction.bytesRead := by
        intro transaction member
        apply counts transaction
        rw [transactions_append]
        exact List.mem_append_right _ member
      simp only [rtosSpiSlaveIsr] at step
      split at step <;> cases step
      · have all : ∀ entry ∈ returned ++ (queue ++ [(item, report)]),
            ∀ transaction ∈ entry.2.transaction, entry.1 = transaction.item := by
          intro entry member
          rw [← List.append_assoc] at member
          rcases List.mem_append.mp member with old | new
          · exact items entry old
          · rw [List.mem_singleton.mp new]
            exact isr
        by_cases notify : config.xferDone = true
        · simp only [if_pos notify]
          exact ⟨stored, fetched, ended, counted, fewer, trivial, all⟩
        · simp only [if_neg notify]
          exact ⟨stored, fetched, ended, counted, fewer, trivial, all⟩
      · exact ⟨stored, fetched, ended, counted, fewer, trivial, items⟩
  | notifyGive =>
      cases step
      exact ⟨stored, fetched, ended, counted, counts, trivial, items⟩

/-- The application goes on with a call of `spi_slave_xfer_prepare`. -/
theorem Data.appRuns (data : Data source) (accounts : Accounts source)
    (step : spiSlaveXferPrepare source = some target) : Data target := by
  have user := @Data.user source data
  have preparing := accounts.preparing
  have ready := accounts.ready
  obtain ⟨stored, fetched, ended, counted, counts, isr, items⟩ := data
  clear accounts
  obtain ⟨userFields, default, userDataReady, drop, startByte, codes, trigger, queue, notified, hil,
    isrPoint, app, thread, prepared, began, endedList, returned⟩ := source
  cases app with
  | idle => cases step
  | setReady =>
      cases step
      exact ⟨stored, fetched, ended, counted, counts, isr, items⟩
  | store isUser buffers field =>
      cases isUser with
      | false =>
          cases field <;> cases step <;>
            exact ⟨stored, fetched, ended, counted, counts, isr, items⟩
      | true =>
          -- No transaction is reading the fields that are being written.
          have notHeld : hil.holdsReady = false := by
            obtain rfl : userDataReady = false := preparing rfl
            by_contra other
            exact absurd (ready (Bool.not_eq_false _ ▸ other)) nofun
          have unread : ∀ (fields : BufferFields) (app : AppPoint), Driver.Fetched
              ⟨fields, default, userDataReady, drop, startByte, codes, trigger,
                queue, notified, hil,
                isrPoint, app, thread, prepared, began, endedList, returned⟩ := by
            intro fields app
            cases hil with
            | fetch xfer field =>
                rcases xfer with ⟨_ | number, got⟩
                · trivial
                · cases notHeld
            | transfer xfer => rcases xfer with ⟨_ | number, got⟩ <;> exact fetched
            | _ => exact fetched
          obtain ⟨last, before⟩ := stored
          cases field with
          | inBuf =>
              cases step
              exact ⟨⟨last, rfl⟩, unread _ _, ended, counted, counts, isr, items⟩
          | inbufLen =>
              cases step
              exact ⟨⟨last, before, rfl⟩, unread _ _, ended, counted, counts, isr, items⟩
          | outBuf =>
              cases step
              exact ⟨⟨last, before.1, before.2, rfl⟩,
                unread _ _, ended, counted, counts, isr, items⟩
          | outbufLen =>
              cases step
              refine ⟨fun other isLast => ?_, unread _ _, ended, counted, counts, isr, items⟩
              rw [Option.some.inj (isLast.symm.trans last)]
              exact storedBefore_copy before

theorem Data.next (data : Data source) (accounts : Accounts source) (told : Told source)
    {label : Label} (prepares : PreparesAfterTakingBack source label)
    (step : next config source label = some target) : Data target := by
  cases label with
  | hil event =>
      cases event with
      | run => exact data.hilRuns accounts told step
      | deselect => exact data.deselected step
      | select =>
          obtain ⟨stored, _, ended, _, counts, isr, items⟩ := data
          simp only [SpiSlave.next, spiSlaveHilThread] at step
          split at step <;> cases step
          exact ⟨stored, trivial, ended, trivial, counts, isr, items⟩
  | isr => exact data.isrRuns accounts told step
  | app => exact data.appRuns accounts step
  | thread =>
      obtain ⟨stored, fetched, ended, counted, counts, isr, items⟩ := data
      simp only [SpiSlave.next, spiSlaveAppThread] at step
      repeat' split at step
      all_goals
        cases step
      all_goals
        exact ⟨stored, fetched, ended, counted, counts, isr, items⟩
  | defaultBufXferEnded =>
      obtain ⟨stored, fetched, ended, counted, counts, isr, items⟩ := data
      cases step
      exact ⟨stored, fetched, ended, counted, counts, isr, items⟩
  | complete =>
      obtain ⟨stored, fetched, ended, counted, counts, isr, items⟩ := data
      cases step
      simp only [spiSlaveXferComplete]
      split
      · next entry queue found =>
          refine ⟨stored, fetched, ended, counted, counts, isr, fun other member => items other ?_⟩
          simpa [found] using member
      · exact ⟨stored, fetched, ended, counted, counts, isr, items⟩
  | prepareDefaultBuffers buffers =>
      have user := @Data.user source data
      obtain ⟨_, fetched, ended, counted, counts, isr, items⟩ := data
      simp only [SpiSlave.next] at step
      split at step <;> cases step
      next idle =>
        have notPreparing : source.app.preparing = false := by rw [idle]; rfl
        exact ⟨fun _ last => user notPreparing last, fetched, ended, counted, counts, isr, items⟩
  | prepare buffers =>
      obtain ⟨notRunning, _⟩ := accounts.nothing prepares
      obtain ⟨_, fetched, ended, counted, counts, isr, items⟩ := data
      simp only [SpiSlave.next] at step
      split at step <;> cases step
      refine ⟨⟨List.getLast?_concat, trivial⟩, ?_, ?_, counted, counts, isr, items⟩
      · -- The transaction of the moment, if any, is on default buffers.
        unfold Driver.Fetched at fetched ⊢
        cases point : source.hil with
        | fetch xfer field =>
            rcases xfer with ⟨_ | number, got⟩
            · trivial
            · rw [point] at notRunning
              cases notRunning
        | clearReady =>
            rw [point] at notRunning
            cases notRunning
        | transfer xfer =>
            rcases xfer with ⟨_ | number, got⟩
            · trivial
            · rw [point] at notRunning
              cases notRunning
        | _ => trivial
      · intro transaction member
        have known := ended transaction member
        obtain ⟨below, _⟩ := List.getElem?_eq_some_iff.mp known
        rw [List.getElem?_append_left below]
        exact known

/-! ## The interrupt -/

/-- The interrupt is enabled before the first transaction. -/
structure Enabled (driver : Driver) : Prop where
  hil : driver.hil = .waitStart ∨ driver.trigger = true
  startByte : driver.startByte = true → driver.trigger = true
  thread : driver.thread = .startCallback ∨ driver.thread = .enableTrigger ∨ driver.trigger = true
  codes : driver.codes ≠ [] → driver.trigger = true

theorem enabled_start (hasStart : config.start = true) : Enabled (start config) where
  hil := .inl (if_pos hasStart)
  startByte := nofun
  thread := .inl (if_pos hasStart)
  codes := fun some_ => absurd rfl some_

theorem Enabled.next (enabled : Enabled source) {label : Label}
    (step : next config source label = some target) : Enabled target := by
  obtain ⟨hil, startByte, thread, codes⟩ := enabled
  cases label with
  | hil event =>
      have frame := hilFrame_of_step step
      have trigger : source.trigger = true := by
        rcases hil with waits | enabled
        · cases event with
          | run =>
              simp only [SpiSlave.next, spiSlaveHilThread, waits] at step
              split at step
              · next sent => exact startByte sent
              · cases step
          | select | deselect =>
              simp only [SpiSlave.next, spiSlaveHilThread, waits] at step
              cases step
        · exact enabled
      have after : target.trigger = true := frame.trigger.trans trigger
      exact ⟨.inr after, fun _ => after, .inr (.inr after), fun _ => after⟩
  | isr =>
      simp only [SpiSlave.next, rtosSpiSlaveIsr] at step
      split at step
      · split at step
        · next trigger =>
            split at step <;> cases step
            exact ⟨hil, startByte, thread, fun _ => trigger⟩
        · cases step
      · cases step
        exact ⟨hil, startByte, thread, codes⟩
      · cases step
        exact ⟨hil, startByte, thread, codes⟩
      · cases step
        exact ⟨hil, startByte, thread, codes⟩
      · cases step
        exact ⟨hil, startByte, thread, codes⟩
      · split at step <;> cases step <;> exact ⟨hil, startByte, thread, codes⟩
      · cases step
        exact ⟨hil, startByte, thread, codes⟩
  | app =>
      have frame := appFrame_of_step step
      constructor
      · rw [frame.hil, frame.trigger]
        exact hil
      · rw [frame.startByte, frame.trigger]
        exact startByte
      · rw [frame.thread, frame.trigger]
        exact thread
      · rw [frame.codes, frame.trigger]
        exact codes
  | thread =>
      simp only [SpiSlave.next, spiSlaveAppThread] at step
      cases point : source.thread with
      | absent =>
          simp only [point] at step
          cases step
      | startCallback =>
          simp only [point] at step
          cases step
          exact ⟨hil, startByte, .inr (.inl rfl), codes⟩
      | enableTrigger =>
          simp only [point] at step
          cases step
          exact ⟨.inr rfl, fun _ => rfl, .inr (.inr rfl), fun _ => rfl⟩
      | sendStart | notifyTake | xferDone =>
          have trigger : source.trigger = true := by simpa [point] using thread
          simp only [point] at step
          repeat' split at step
          all_goals
            cases step
          all_goals
            exact ⟨hil, fun _ => trigger, .inr (.inr trigger), codes⟩
  | prepare | prepareDefaultBuffers =>
      simp only [SpiSlave.next] at step
      split at step <;> cases step
      exact ⟨hil, startByte, thread, codes⟩
  | defaultBufXferEnded =>
      cases step
      exact ⟨hil, startByte, thread, codes⟩
  | complete =>
      cases step
      cases point : source.thread with
      | xferDone calls =>
          have trigger : source.trigger = true := by simpa [point] using thread
          simp only [spiSlaveXferComplete, point]
          split <;> exact ⟨hil, startByte, .inr (.inr trigger), codes⟩
      | _ =>
          rw [point] at thread
          simp only [spiSlaveXferComplete, point]
          split <;> exact ⟨hil, startByte, thread, codes⟩

/-! ## The contract -/

/-- Each call of `spi_slave_xfer_prepare` is used by one transaction at most; until a
transaction moves bytes the buffers are being written, or worked on, or there for the
next transaction; and each transaction that used them is reported once, with its
buffers and counts. -/
structure HandedBackOnce (driver : Driver) : Prop where
  usedOnce : driver.began.Nodup
  available : ∀ number < driver.prepared.length,
    (∃ transaction ∈ driver.ended, transaction.number = number) ∨
      driver.app.preparing = true ∨ driver.hil.running = [number] ∨
        driver.userDataReady = true ∧ driver.prepared[number]? = some driver.user.buffers
  ownBuffers : ∀ transaction ∈ driver.ended,
    driver.prepared[transaction.number]? = some transaction.buffers
  reportedOnce : driver.ended = driver.takenBack ++ driver.onTheWay
  items : ∀ entry ∈ driver.returned ++ driver.xferDoneQueue,
    ∀ transaction ∈ entry.2.transaction, entry.1 = transaction.item
  noOthers : ∀ entry ∈ driver.returned ++ driver.xferDoneQueue,
    entry.2.code = .userBufCb → entry.2.transaction.isSome
  served : driver.codes ≠ [] → driver.trigger = true

/-- What the driver keeps. -/
structure HandBackInv (driver : Driver) : Prop where
  accounts : Accounts driver
  told : Told driver
  data : Data driver
  enabled : Enabled driver

theorem handBackInv_start (hasStart : config.start = true) : HandBackInv (start config) where
  accounts := accounts_start config
  told := by
    rcases config with ⟨_ | _, xferDone, queueSize⟩ <;> exact ⟨nofun, trivial⟩
  data := data_start config
  enabled := enabled_start hasStart

theorem HandBackInv.next (inv : HandBackInv source) {label : Label}
    (prepares : PreparesAfterTakingBack source label) (keeps : KeepsAccount config source label)
    (step : next config source label = some target) : HandBackInv target where
  accounts := inv.accounts.next prepares keeps (fun _ => inv.told.isDefault) step
  told := inv.told.next keeps step
  data := inv.data.next inv.accounts inv.told prepares step
  enabled := inv.enabled.next step

theorem running_eq {hil : HilPoint} {number : Nat} (running : number ∈ hil.running) :
    hil.running = [number] := by
  cases hil with
  | fetch xfer field =>
      rcases xfer with ⟨_ | other, buffers⟩
      · cases running
      · rw [List.mem_singleton.mp running]
        rfl
  | transfer xfer =>
      rcases xfer with ⟨_ | other, buffers⟩
      · cases running
      · rw [List.mem_singleton.mp running]
        rfl
  | clearReady other buffers =>
      rw [List.mem_singleton.mp running]
      rfl
  | _ => cases running

theorem HandBackInv.handedBack {driver : Driver} (inv : HandBackInv driver) :
    HandedBackOnce driver where
  usedOnce := by
    rw [inv.accounts.numbered]
    exact List.nodup_range
  available := by
    intro number below
    by_cases began : number ∈ driver.began
    · rw [inv.accounts.began] at began
      rcases List.mem_append.mp began with ended | running
      · obtain ⟨transaction, member, same⟩ := List.mem_map.mp ended
        exact .inl ⟨transaction, member, same⟩
      · exact .inr (.inr (.inl (running_eq running)))
    · -- The buffers were not used yet.
      have count := inv.accounts.prepared
      rw [inv.accounts.numbered, List.mem_range, Nat.not_lt] at began
      have waits : driver.waits = true := by
        by_contra unused
        rw [eq_false_of_ne_true unused] at count
        exact absurd below (by rw [count]; exact Nat.not_lt.mpr began)
      have last : number + 1 = driver.prepared.length := by
        rw [waits] at count
        have one : true.toNat = 1 := rfl
        omega
      cases preparing : driver.app.preparing with
      | true => exact .inr (.inl rfl)
      | false =>
          have ready : driver.userDataReady = true := by
            rw [Driver.waits, preparing, Bool.false_or] at waits
            exact (Bool.and_eq_true_iff.mp waits).1
          refine .inr (.inr (.inr ⟨ready, ?_⟩))
          obtain ⟨buffers, isLast⟩ : ∃ buffers, driver.prepared[number]? = some buffers :=
            ⟨_, List.getElem?_eq_getElem below⟩
          rw [isLast, inv.data.user preparing]
          rw [List.getLast?_eq_getElem?, ← last]
          exact isLast
  ownBuffers := inv.data.ended
  reportedOnce := inv.accounts.ended
  items := inv.data.items
  noOthers := by
    intro entry member isUser
    refine (inv.told.reports entry.2 ?_).mp isUser
    have reported : entry.2 ∈
        driver.returned.map Prod.snd ++ driver.xferDoneQueue.map Prod.snd := by
      rw [← List.map_append]
      exact List.mem_map_of_mem member
    rw [Driver.reports, List.append_assoc _ driver.isr.reports]
    exact List.mem_append_left _ reported
  served := inv.enabled.codes

/-- In every run in which the application prepares buffers after taking back those it
had prepared and every step keeps the account, the buffers are handed back once. -/
theorem preparedBuffers_handedBackOnce {config : Config} {schedule : List Label}
    (hasStart : config.start = true)
    (prepares : StepsMeet (next config) (start config) schedule PreparesAfterTakingBack)
    (keeps : StepsMeet (next config) (start config) schedule (KeepsAccount config)) :
    StatesSatisfy (next config) (start config) schedule HandedBackOnce := by
  have both : StepsMeet (next config) (start config) schedule fun driver label =>
      PreparesAfterTakingBack driver label ∧ KeepsAccount config driver label :=
    fun _ _ isPrefix _ _ earlier step =>
      ⟨prepares isPrefix earlier step, keeps isPrefix earlier step⟩
  exact both.statesSatisfy (handBackInv_start hasStart)
    (fun _ _ _ inv met step => inv.next met.1 met.2 step) fun _ inv => inv.handedBack

instance (driver : Driver) : DecidablePred (PreparesAfterTakingBack driver)
  | .prepare _ => inferInstanceAs (Decidable (_ = _))
  | .hil _ | .isr | .thread | .prepareDefaultBuffers _ | .app | .defaultBufXferEnded _
  | .complete => .isTrue trivial

instance (bytesWritten : UInt32) : DecidablePred (MovesBytes bytesWritten)
  | .transfer ⟨.user _, _⟩ => inferInstanceAs (Decidable (bytesWritten ≠ 0))
  | .transfer ⟨.default, _⟩ | .waitStart | .deselected | .started | .fetch _ _ | .clearReady _ _
  | .compareOut _ | .compareIn _ | .storeWritten _ _ | .storeRead _ _ | .dropped _ | .send _ _ =>
      .isTrue trivial

instance (default : Buffers) : DecidablePred (TellsApart default)
  | .compareOut _ => inferInstanceAs (Decidable (_ → _))
  | .compareIn _ => inferInstanceAs (Decidable (_ ↔ _))
  | .transfer _ | .waitStart | .deselected | .started | .fetch _ _ | .clearReady _ _
  | .storeWritten _ _ | .storeRead _ _ | .dropped _ | .send _ _ => .isTrue trivial

instance (queueSize queued : Nat) : DecidablePred (HasRoom queueSize queued)
  | .queueSend _ _ => inferInstanceAs (Decidable (_ → _))
  | .idle | .outBuf _ | .bytesWritten _ _ | .inBuf _ _ _ | .bytesRead _ _ _ _ | .notifyGive =>
      .isTrue trivial

instance (config : Config) (driver : Driver) : DecidablePred (KeepsAccount config driver)
  | .hil (.deselect bytesWritten _) =>
      inferInstanceAs (Decidable (MovesBytes bytesWritten driver.hil))
  | .hil .run => inferInstanceAs (Decidable (TellsApart driver.default.buffers driver.hil))
  | .isr =>
      inferInstanceAs (Decidable (HasRoom config.queueSize driver.xferDoneQueue.length driver.isr))
  | .hil .select | .thread | .prepare _ | .prepareDefaultBuffers _ | .app
  | .defaultBufXferEnded _ | .complete => .isTrue trivial

/-! ## One transaction -/

/-- Buffers of the application, each of 8 bytes. -/
def someBuffers : Buffers := ⟨0x1000, 8, 0x2000, 8⟩

/-- The application prepares buffers. -/
def prepared : List Label :=
  .prepare someBuffers :: List.replicate 5 .app

/-- A transaction on the prepared buffers moves four bytes and is reported. -/
def handedBack : List Label :=
  started ++ prepared ++ .hil .select :: List.replicate 6 (.hil .run) ++
    .hil (.deselect 4 4) :: List.replicate 4 (.hil .run) ++ queued ++ calledBack

theorem handedBack_once :
    ((run (next bothCallbacks) (start bothCallbacks) handedBack).map fun driver =>
        driver.returned.map Prod.fst) = some [⟨0x2000, 4, 0x1000, 4⟩] ∧
      StatesSatisfy (next bothCallbacks) (start bothCallbacks) handedBack HandedBackOnce :=
  ⟨by decide, preparedBuffers_handedBackOnce rfl (by decide) (by decide)⟩

/-- A transaction on the prepared buffers moves no byte. -/
def noBytes : List Label :=
  started ++ prepared ++ .hil .select :: List.replicate 6 (.hil .run) ++ [.hil (.deselect 0 0)]

/-- The prepared buffers are not available any more, and no transaction reports them. -/
theorem noBytes_notHandedBack :
    StepsMeet (next bothCallbacks) (start bothCallbacks) noBytes PreparesAfterTakingBack ∧
      ¬ StatesSatisfy (next bothCallbacks) (start bothCallbacks) noBytes HandedBackOnce := by
  refine ⟨by decide, fun once => ?_⟩
  have final : (run (next bothCallbacks) (start bothCallbacks) noBytes).map (fun driver =>
      decide (0 < driver.prepared.length ∧ driver.ended = [] ∧ driver.app.preparing = false ∧
        driver.hil.running = [] ∧ driver.userDataReady = false)) = some true := by
    decide
  obtain ⟨driver, executed, lost⟩ := Option.map_eq_some_iff.mp final
  obtain ⟨one, ended, notPreparing, notRunning, unready⟩ := of_decide_eq_true lost
  rcases (once (List.prefix_refl _) executed).available 0 one with
    ⟨transaction, member, _⟩ | preparing | running | ⟨ready, _⟩
  · rw [ended] at member
    cases member
  · rw [notPreparing] at preparing
    cases preparing
  · rw [notRunning] at running
    cases running
  · rw [unready] at ready
    cases ready

end FwkRtos.SpiSlave
