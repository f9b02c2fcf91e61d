import FwkRtos.SpiSlave.Callbacks

/-!
# What became of the prepared buffers

Every call of `spi_slave_xfer_prepare` is accounted for: it is under way, its buffers
wait for a transaction, a transaction works on them, or the transaction that used them
is somewhere between the interface and the application.
-/

namespace FwkRtos.SpiSlave

open FwkRtos.Transition

/-! ## The condition -/

/-- The application prepares buffers when it has been given back all it had prepared. -/
def PreparesAfterTakingBack (driver : Driver) : Label → Prop
  | .prepare _ =>
      (driver.returned.filterMap fun entry => entry.2.transaction).length = driver.prepared.length
  | _ => True

/-- A transaction on prepared buffers moves bytes. -/
def MovesBytes (bytesWritten : UInt32) : HilPoint → Prop
  | .transfer ⟨.user _, _⟩ => bytesWritten ≠ 0
  | _ => True

/-- The pointers tell the buffers of a transaction from the default ones. -/
def TellsApart (default : Buffers) : HilPoint → Prop
  | .compareOut ended => ended.transaction = none → ended.xfer.buffers.outBuf = default.outBuf
  | .compareIn ended => ended.transaction = none ↔ ended.xfer.buffers.inBuf = default.inBuf
  | _ => True

/-- The queue has room for the item of a transaction on prepared buffers. -/
def HasRoom (queueSize queued : Nat) : IsrPoint → Prop
  | .queueSend report _ => report.transaction.isSome = true → queued < queueSize
  | _ => True

/-- The step loses no transaction on prepared buffers. -/
def KeepsAccount (config : Config) (driver : Driver) : Label → Prop
  | .hil (.deselect bytesWritten _) => MovesBytes bytesWritten driver.hil
  | .hil .run => TellsApart driver.default.buffers driver.hil
  | .isr => HasRoom config.queueSize driver.xferDoneQueue.length driver.isr
  | _ => True

/-! ## Places -/

/-- The call whose buffers a transaction works on. -/
def HilPoint.running : HilPoint → List Nat
  | .fetch ⟨.user number, _⟩ _ | .clearReady number _ | .transfer ⟨.user number, _⟩ => [number]
  | _ => []

/-- The transaction has its buffers, and the flag is not cleared yet. -/
def HilPoint.holdsReady : HilPoint → Bool
  | .fetch ⟨.user _, _⟩ _ | .clearReady _ _ => true
  | _ => false

/-- The transaction that has ended and is to be reported. -/
def HilPoint.reporting : HilPoint → List Transaction
  | .compareOut ended | .compareIn ended | .storeWritten _ ended | .storeRead _ ended
  | .dropped ended | .send _ ended => ended.transaction.toList
  | _ => []

def IsrPoint.reports : IsrPoint → List Report
  | .outBuf report | .bytesWritten report _ | .inBuf report _ _ | .bytesRead report _ _ _
  | .queueSend report _ => [report]
  | .idle | .notifyGive => []

/-- The prepared buffers are being written. -/
def AppPoint.preparing : AppPoint → Bool
  | .store user _ _ => user
  | .setReady => true
  | .idle => false

/-- The transactions of a list of reports. -/
def transactions (reports : List Report) : List Transaction :=
  reports.filterMap Report.transaction

theorem transactions_append (first second : List Report) :
    transactions (first ++ second) = transactions first ++ transactions second :=
  List.filterMap_append

/-- The transactions that the application has got. -/
def Driver.takenBack (driver : Driver) : List Transaction :=
  transactions (driver.returned.map Prod.snd)

/-- The transactions between the interface and the application. -/
def Driver.onTheWay (driver : Driver) : List Transaction :=
  transactions (driver.xferDoneQueue.map Prod.snd ++ driver.isr.reports ++ driver.codes) ++
    driver.hil.reporting

/-- A call of `spi_slave_xfer_prepare` is under way, or its buffers were not used yet. -/
def Driver.waits (driver : Driver) : Bool :=
  driver.app.preparing || (driver.userDataReady && !driver.hil.holdsReady)

/-- The books of the driver. -/
structure Accounts (driver : Driver) : Prop where
  ended : driver.ended = driver.takenBack ++ driver.onTheWay
  began : driver.began = driver.ended.map Transaction.number ++ driver.hil.running
  numbered : driver.began = List.range driver.began.length
  prepared : driver.prepared.length = driver.began.length + driver.waits.toNat
  takenBack : driver.prepared.length ≤ driver.takenBack.length + 1
  preparing : driver.app.preparing = true → driver.userDataReady = false
  ready : driver.hil.holdsReady = true → driver.userDataReady = true

theorem accounts_start (config : Config) : Accounts (start config) := by
  rcases config with ⟨_ | _, xferDone, queueSize⟩ <;>
    exact ⟨rfl, rfl, rfl, rfl, Nat.zero_le _, fun _ => rfl, nofun⟩

/-- A transaction on the way is the only one, and nothing else was prepared since. -/
theorem Accounts.sole {driver : Driver} (accounts : Accounts driver) {transaction : Transaction}
    (onTheWay : transaction ∈ driver.onTheWay) :
    driver.onTheWay = [transaction] ∧ driver.waits = false ∧ driver.hil.running = [] ∧
      transaction.number + 1 = driver.prepared.length := by
  have length := congrArg List.length accounts.began
  have places := congrArg List.length accounts.ended
  have prepared := accounts.prepared
  have takenBack := accounts.takenBack
  rw [List.length_append, List.length_map] at length
  rw [List.length_append] at places
  have positive : 0 < driver.onTheWay.length := List.length_pos_of_mem onTheWay
  have one : driver.onTheWay.length = 1 := by omega
  obtain ⟨other, alone⟩ := List.length_eq_one_iff.mp one
  obtain rfl : transaction = other := by simpa [alone] using onTheWay
  have idle : driver.hil.running = [] := List.length_eq_zero_iff.mp (by omega)
  refine ⟨alone, Bool.toNat_eq_zero.mp (by omega), idle, ?_⟩
  have last : driver.began = driver.takenBack.map Transaction.number ++ [transaction.number] := by
    rw [accounts.began, accounts.ended, alone, idle, List.append_nil, List.map_append]
    rfl
  have total : driver.began.length = driver.takenBack.length + 1 := by
    rw [last, List.length_append, List.length_map]
    rfl
  have number := accounts.numbered
  rw [total, List.range_succ, last] at number
  have same : [transaction.number] = [driver.takenBack.length] := List.append_inj_right' number rfl
  rw [List.singleton_inj.mp same]
  omega

/-- While a transaction works on prepared buffers, nothing is on the way. -/
theorem Accounts.running {driver : Driver} (accounts : Accounts driver) {number : Nat}
    (running : driver.hil.running = [number]) :
    driver.onTheWay = [] ∧ driver.waits = false ∧ number + 1 = driver.prepared.length := by
  have length := congrArg List.length accounts.began
  have places := congrArg List.length accounts.ended
  have prepared := accounts.prepared
  have takenBack := accounts.takenBack
  rw [List.length_append, List.length_map, running, List.length_singleton] at length
  rw [List.length_append] at places
  have none_ : driver.onTheWay = [] := List.length_eq_zero_iff.mp (by omega)
  refine ⟨none_, Bool.toNat_eq_zero.mp (by omega), ?_⟩
  have number_ := accounts.numbered
  have total : driver.began.length = driver.ended.length + 1 := length
  rw [total, List.range_succ, accounts.began, running] at number_
  have same : [number] = [driver.ended.length] := List.append_inj_right' number_ rfl
  rw [List.singleton_inj.mp same]
  omega

theorem notHeld_of_running {hil : HilPoint} (notRunning : hil.running = []) :
    hil.holdsReady = false := by
  cases hil with
  | fetch xfer field =>
      rcases xfer with ⟨_ | number, buffers⟩
      · rfl
      · cases notRunning
  | clearReady => cases notRunning
  | _ => rfl

theorem takenBack_length (driver : Driver) :
    driver.takenBack.length =
      (driver.returned.filterMap fun entry => entry.2.transaction).length := by
  rw [Driver.takenBack, transactions, List.filterMap_map]
  rfl

/-- When all was taken back, nothing is under way. -/
theorem Accounts.nothing {driver : Driver} (accounts : Accounts driver) {buffers : Buffers}
    (prepares : PreparesAfterTakingBack driver (.prepare buffers)) :
    driver.hil.running = [] ∧ driver.waits = false := by
  have length := congrArg List.length accounts.began
  have places := congrArg List.length accounts.ended
  have prepared := accounts.prepared
  have all : driver.takenBack.length = driver.prepared.length :=
    (takenBack_length driver).trans prepares
  rw [List.length_append, List.length_map] at length
  rw [List.length_append] at places
  exact ⟨List.length_eq_zero_iff.mp (by omega), Bool.toNat_eq_zero.mp (by omega)⟩

/-! ## Steps -/

/-- A step that moves what is accounted for from one place to another. -/
theorem Accounts.moved {source target : Driver} (accounts : Accounts source)
    (ended : target.ended = source.ended) (began : target.began = source.began)
    (prepared : target.prepared = source.prepared)
    (places : target.takenBack ++ target.onTheWay = source.takenBack ++ source.onTheWay)
    (takenBack : source.takenBack.length ≤ target.takenBack.length)
    (running : target.hil.running = source.hil.running) (waits : target.waits = source.waits)
    (preparing : target.app.preparing = true → target.userDataReady = false)
    (ready : target.hil.holdsReady = true → target.userDataReady = true) : Accounts target where
  ended := by rw [ended, places, accounts.ended]
  began := by rw [began, ended, running, accounts.began]
  numbered := by
    rw [began]
    exact accounts.numbered
  prepared := by rw [prepared, began, waits, accounts.prepared]
  takenBack := by
    rw [prepared]
    exact accounts.takenBack.trans (Nat.succ_le_succ takenBack)
  preparing := preparing
  ready := ready

variable {config : Config} {source target : Driver}

/-- The thread of the interface runs. -/
theorem Accounts.hilRuns (accounts : Accounts source)
    (isDefault : ∀ ended, source.hil = .dropped ended → ended.transaction = none)
    (step : spiSlaveHilThread source .run = some target) : Accounts target := by
  have ready := accounts.ready
  have preparing := accounts.preparing
  obtain ⟨user, default, userDataReady, drop, startByte, codes, trigger, queue, notified, hil, isr,
    app, thread, prepared, began, ended, returned⟩ := source
  cases hil with
  | waitStart =>
      cases startByte <;> cases step
      exact accounts.moved rfl rfl rfl rfl (Nat.le_refl _) rfl rfl preparing ready
  | deselected | transfer => cases step
  | started =>
      cases userDataReady with
      | false =>
          cases step
          exact accounts.moved rfl rfl rfl rfl (Nat.le_refl _) rfl rfl preparing ready
      | true =>
          cases step
          -- The buffers that were waiting are those of the next number.
          have idle : app.preparing = false := by
            by_contra other
            exact absurd (preparing (Bool.not_eq_false _ ▸ other)) nofun
          have count : prepared.length = began.length + 1 := by
            rw [accounts.prepared, Driver.waits]
            simp [HilPoint.holdsReady]
          have next : prepared.length - 1 = began.length := by rw [count]; rfl
          constructor
          · exact accounts.ended
          · show began ++ [prepared.length - 1] =
              ended.map Transaction.number ++ [prepared.length - 1]
            rw [show began = _ from accounts.began]
            exact congrArg (· ++ _) (List.append_nil _)
          · show began ++ [prepared.length - 1] = List.range (began ++ [prepared.length - 1]).length
            rw [List.length_append, List.length_singleton, List.range_succ, next]
            exact congrArg (· ++ _) accounts.numbered
          · show prepared.length =
              (began ++ [prepared.length - 1]).length + (app.preparing || _).toNat
            rw [idle, List.length_append, count]
            rfl
          · exact accounts.takenBack
          · exact preparing
          · exact fun _ => rfl
  | fetch xfer field =>
      rcases xfer with ⟨_ | number, buffers⟩ <;> cases field <;> cases step <;>
        exact accounts.moved rfl rfl rfl rfl (Nat.le_refl _) rfl rfl preparing ready
  | clearReady number buffers =>
      cases step
      obtain rfl : userDataReady = true := ready rfl
      have waits : (app.preparing || false) = (app.preparing || (true && !true)) := rfl
      exact accounts.moved rfl rfl rfl rfl (Nat.le_refl _) rfl waits (fun _ => rfl) nofun
  | compareOut finished =>
      cases step
      by_cases same : finished.xfer.buffers.outBuf = default.buffers.outBuf
      · rw [if_pos same]
        exact accounts.moved rfl rfl rfl rfl (Nat.le_refl _) rfl rfl preparing ready
      · rw [if_neg same]
        exact accounts.moved rfl rfl rfl rfl (Nat.le_refl _) rfl rfl preparing ready
  | compareIn finished =>
      cases step
      by_cases same : finished.xfer.buffers.inBuf = default.buffers.inBuf
      · rw [if_pos same]
        exact accounts.moved rfl rfl rfl rfl (Nat.le_refl _) rfl rfl preparing ready
      · rw [if_neg same]
        exact accounts.moved rfl rfl rfl rfl (Nat.le_refl _) rfl rfl preparing ready
  | storeWritten code finished | storeRead code finished =>
      cases code <;> cases step <;>
        exact accounts.moved rfl rfl rfl rfl (Nat.le_refl _) rfl rfl preparing ready
  | dropped finished =>
      have nothing : finished.transaction.toList = [] := by rw [isDefault finished rfl]; rfl
      cases drop <;> cases step
      · exact accounts.moved rfl rfl rfl rfl (Nat.le_refl _) rfl rfl preparing ready
      · refine accounts.moved rfl rfl rfl ?_ (Nat.le_refl _) rfl rfl preparing ready
        show _ ++ (_ ++ []) = _ ++ (_ ++ finished.transaction.toList)
        rw [nothing]
        rfl
  | send code finished =>
      cases step
      refine accounts.moved rfl rfl rfl ?_ (Nat.le_refl _) rfl rfl preparing ready
      simp only [Driver.takenBack, Driver.onTheWay, HilPoint.reporting, transactions,
        List.filterMap_append, List.append_assoc, List.append_nil]
      cases finished.transaction <;> rfl

/-- A transaction begins, or ends. -/
theorem Accounts.selected (accounts : Accounts source)
    (step : spiSlaveHilThread source .select = some target) : Accounts target := by
  have ready := accounts.ready
  have preparing := accounts.preparing
  obtain ⟨user, default, userDataReady, drop, startByte, codes, trigger, queue, notified, hil, isr,
    app, thread, prepared, began, ended, returned⟩ := source
  cases hil <;> cases step
  exact accounts.moved rfl rfl rfl rfl (Nat.le_refl _) rfl rfl preparing ready

theorem Accounts.deselected (accounts : Accounts source) {bytesWritten bytesRead : UInt32}
    (moves : MovesBytes bytesWritten source.hil)
    (step : spiSlaveHilThread source (.deselect bytesWritten bytesRead) = some target) :
    Accounts target := by
  have ready := accounts.ready
  have preparing := accounts.preparing
  obtain ⟨user, default, userDataReady, drop, startByte, codes, trigger, queue, notified, hil, isr,
    app, thread, prepared, began, ended, returned⟩ := source
  cases hil with
  | transfer xfer =>
      rcases xfer with ⟨_ | number, buffers⟩
      · simp only [spiSlaveHilThread] at step
        split at step <;> cases step
        · exact accounts.moved rfl rfl rfl rfl (Nat.le_refl _) rfl rfl preparing ready
        · exact accounts.moved (List.append_nil _) rfl rfl rfl (Nat.le_refl _) rfl rfl preparing
            ready
      · have moves : bytesWritten ≠ 0 := moves
        simp only [spiSlaveHilThread, if_neg moves] at step
        cases step
        have places := accounts.ended
        have numbers := accounts.began
        simp only [Driver.onTheWay, HilPoint.reporting, List.append_nil] at places
        constructor
        · show ended ++ _ = _ ++ (_ ++ _)
          rw [← List.append_assoc]
          exact congrArg (· ++ _) places
        · simp only [HilPoint.running, List.map_append, List.append_nil]
          exact numbers
        · exact accounts.numbered
        · exact accounts.prepared
        · exact accounts.takenBack
        · exact preparing
        · rintro ⟨⟩
  | _ => cases step

/-- The interrupt handler runs. -/
theorem Accounts.isrRuns (accounts : Accounts source)
    (room : HasRoom config.queueSize source.xferDoneQueue.length source.isr)
    (step : rtosSpiSlaveIsr config source = some target) : Accounts target := by
  have ready := accounts.ready
  have preparing := accounts.preparing
  obtain ⟨user, default, userDataReady, drop, startByte, codes, trigger, queue, notified, hil, isr,
    app, thread, prepared, began, ended, returned⟩ := source
  cases isr with
  | idle =>
      cases trigger with
      | false => cases step
      | true =>
          cases codes with
          | nil => cases step
          | cons report codes =>
              cases step
              refine accounts.moved rfl rfl rfl ?_ (Nat.le_refl _) rfl rfl preparing ready
              simp [Driver.takenBack, Driver.onTheWay, IsrPoint.reports]
  | outBuf | bytesWritten | inBuf | bytesRead | notifyGive =>
      cases step
      exact accounts.moved rfl rfl rfl rfl (Nat.le_refl _) rfl rfl preparing ready
  | queueSend report item =>
      simp only [rtosSpiSlaveIsr] at step
      split at step <;> cases step
      · refine accounts.moved rfl rfl rfl ?_ (Nat.le_refl _) rfl rfl preparing ready
        cases config.xferDone <;> simp [Driver.takenBack, Driver.onTheWay, IsrPoint.reports]
      · next full =>
          refine accounts.moved rfl rfl rfl ?_ (Nat.le_refl _) rfl rfl preparing ready
          have nothing : report.transaction = none := by
            cases found : report.transaction with
            | none => rfl
            | some => exact absurd (room (by rw [found]; rfl)) full
          simp [Driver.takenBack, Driver.onTheWay, IsrPoint.reports, transactions, nothing]

/-- The application goes on with a call of `spi_slave_xfer_prepare`. -/
theorem Accounts.appRuns (accounts : Accounts source)
    (step : spiSlaveXferPrepare source = some target) : Accounts target := by
  have ready := accounts.ready
  have preparing := accounts.preparing
  obtain ⟨user, default, userDataReady, drop, startByte, codes, trigger, queue, notified, hil, isr,
    app, thread, prepared, began, ended, returned⟩ := source
  cases app with
  | idle => cases step
  | store isUser buffers field =>
      cases isUser <;> cases field <;> cases step <;>
        exact accounts.moved rfl rfl rfl rfl (Nat.le_refl _) rfl rfl preparing ready
  | setReady =>
      cases step
      obtain rfl : userDataReady = false := preparing rfl
      have noXfer : hil.holdsReady = false := by
        by_contra other
        exact absurd (ready (Bool.not_eq_false _ ▸ other)) nofun
      refine accounts.moved rfl rfl rfl rfl (Nat.le_refl _) rfl ?_ nofun fun _ => rfl
      show (false || (true && !hil.holdsReady)) = true
      rw [noXfer]
      rfl

theorem Accounts.next (accounts : Accounts source) {label : Label}
    (prepares : PreparesAfterTakingBack source label) (keeps : KeepsAccount config source label)
    (isDefault : ∀ ended, source.hil = .dropped ended → ended.transaction = none)
    (step : next config source label = some target) : Accounts target := by
  have ready := accounts.ready
  have preparing := accounts.preparing
  cases label with
  | hil event =>
      cases event with
      | run => exact accounts.hilRuns isDefault step
      | select => exact accounts.selected step
      | deselect => exact accounts.deselected keeps step
  | isr => exact accounts.isrRuns keeps step
  | app => exact accounts.appRuns step
  | thread =>
      simp only [SpiSlave.next, spiSlaveAppThread] at step
      repeat' split at step
      all_goals
        cases step
      all_goals
        exact accounts.moved rfl rfl rfl rfl (Nat.le_refl _) rfl rfl preparing ready
  | defaultBufXferEnded =>
      cases step
      exact accounts.moved rfl rfl rfl rfl (Nat.le_refl _) rfl rfl preparing ready
  | complete =>
      cases step
      simp only [spiSlaveXferComplete]
      split
      · next entry queue items =>
          refine accounts.moved rfl rfl rfl ?_ ?_ rfl rfl preparing ready
          · have first : entry.2 :: queue.map Prod.snd = [entry.2] ++ queue.map Prod.snd := rfl
            simp only [Driver.takenBack, Driver.onTheWay, items, List.map_append, List.map_cons,
              List.map_nil, first, transactions_append, List.append_assoc]
          · simp [Driver.takenBack, transactions]
      · exact accounts.moved rfl rfl rfl rfl (Nat.le_refl _) rfl rfl preparing ready
  | prepareDefaultBuffers =>
      simp only [SpiSlave.next] at step
      split at step <;> cases step
      next idle =>
        refine accounts.moved rfl rfl rfl rfl (Nat.le_refl _) rfl ?_ (by rintro ⟨⟩) ready
        simp [Driver.waits, idle, AppPoint.preparing]
  | prepare buffers =>
      simp only [SpiSlave.next] at step
      split at step <;> cases step
      next idle =>
        obtain ⟨notRunning, waits⟩ := accounts.nothing prepares
        have notHeld := notHeld_of_running notRunning
        have unready : source.userDataReady = false := by
          simpa [Driver.waits, notHeld, idle, AppPoint.preparing] using waits
        constructor
        · exact accounts.ended
        · exact accounts.began
        · exact accounts.numbered
        · show (source.prepared ++ [buffers]).length = source.began.length + 1
          rw [List.length_append, accounts.prepared, waits]
          rfl
        · show (source.prepared ++ [buffers]).length ≤ _
          rw [List.length_append]
          exact Nat.succ_le_succ (Nat.le_of_eq ((takenBack_length source).trans prepares).symm)
        · exact fun _ => unready
        · exact ready

end FwkRtos.SpiSlave
