import FwkRtos.I2cSlave.Events
import FwkRtos.Transition.Fairness

/-!
# Everything is told

While the callbacks have still to be told of something, a thread of the driver can go on,
or the callback that runs returns; each of their steps brings the telling nearer, and
nobody else's takes it away.
-/

namespace FwkRtos.I2cSlave

open FwkRtos.Transition

variable {config : Config} {source target : Slave}

/-! ## What there is to tell only grows -/

/-- The books of what happened on the bus have been continued. -/
def Books.Continued (before after : Books) : Prop :=
  before.written <+: after.written ∧ before.reads <+: after.reads ∧
    before.readRequests ≤ after.readRequests

theorem Books.Continued.refl (books : Books) : books.Continued books :=
  ⟨List.prefix_refl _, List.prefix_refl _, Nat.le_refl _⟩

theorem Books.Continued.trans {first second third : Books} (before : first.Continued second)
    (after : second.Continued third) : first.Continued third :=
  ⟨before.1.trans after.1, before.2.1.trans after.2.1, before.2.2.trans after.2.2⟩

@[simp]
theorem txStateClear_books (slave : Slave) (field : TxField) :
    (slave.txStateClear field).books = slave.books := by
  cases field <;> rfl

theorem endTransfer_continued (slave : Slave) :
    slave.books.Continued slave.endTransfer.books := by
  unfold Slave.endTransfer
  split
  · exact .refl _
  · refine ⟨?_, List.prefix_refl _, Nat.le_refl _⟩
    show slave.books.written <+: if _ then _ else _
    split
    · exact List.prefix_refl _
    · exact List.prefix_append _ _
  · refine ⟨List.prefix_refl _, ?_, Nat.le_refl _⟩
    show slave.books.reads <+: if _ then _ else _
    split
    · exact List.prefix_refl _
    · exact List.prefix_append _ _

theorem xferCompleteCheck_books (step : xferCompleteCheck config source = some target) :
    target.books = source.books := by
  unfold xferCompleteCheck at step
  repeat' split at step
  all_goals cases step
  all_goals first | rfl | exact txStateClear_books _ _

theorem i2cAckReadReq_books (step : i2cAckReadReq config source = some target) :
    target.books = source.books := by
  unfold i2cAckReadReq at step
  repeat' split at step
  all_goals cases step
  all_goals rfl

theorem i2cAckWriteReq_books {answer : Ack} (step : i2cAckWriteReq answer source = some target) :
    target.books = source.books := by
  unfold i2cAckWriteReq at step
  split at step <;> cases step <;> rfl

theorem i2cMasterReqData_books (step : i2cMasterReqData source = some target) :
    target.books = source.books := by
  unfold i2cMasterReqData at step
  repeat' split at step
  all_goals cases step
  all_goals rfl

theorem i2cMasterSentData_books {answer : Ack}
    (step : i2cMasterSentData config answer source = some target) :
    target.books = source.books := by
  obtain ⟨memory, rxDataI, txData, txDataLen, txDataI, txDataSent, waiting, path, lastAnswer, hil,
    bus, current, fetched, sent, answered, books⟩ := source
  cases hil with
  | store byte =>
      simp only [i2cMasterSentData] at step
      split at step <;> cases step <;> rfl
  | increment | respond =>
      cases step
      rfl
  | _ => cases step

theorem hil_books {answer : Ack} (step : i2cSlaveHilThread config answer source = some target) :
    target.books = source.books := by
  unfold i2cSlaveHilThread at step
  split at step
  · split at step <;> cases step
    rfl
  · cases step
  iterate 6 exact xferCompleteCheck_books step
  iterate 7 exact i2cAckReadReq_books step
  iterate 2 exact i2cAckWriteReq_books step
  iterate 5 exact i2cMasterReqData_books step
  iterate 3 exact i2cMasterSentData_books step

theorem isr_books (step : rtosI2cSlaveIsr source = some target) : target.books = source.books := by
  unfold rtosI2cSlaveIsr at step
  repeat' split at step
  all_goals cases step
  all_goals rfl

theorem app_continued {event : AppEvent}
    (step : i2cSlaveAppThread config source event = some target) :
    source.books.Continued target.books := by
  unfold i2cSlaveAppThread at step
  repeat' split at step
  all_goals cases step
  all_goals first | exact .refl _ | exact txStateClear_books source _ ▸ .refl _

theorem next_continued {label : Label} (step : next config source label = some target) :
    source.books.Continued target.books := by
  cases label with
  | bus event =>
      cases event with
      | readRequest =>
          simp only [next, busEvent] at step
          split at step <;> cases step
          obtain ⟨written, reads, requests⟩ := endTransfer_continued source
          refine ⟨written, reads, ?_⟩
          show _ ≤ source.books.readRequests + 1
          exact Nat.le_succ _
      | writeRequest | stop =>
          simp only [next, busEvent] at step
          split at step <;> cases step
          exact endTransfer_continued source
      | byte | byteRequest =>
          simp only [next, busEvent] at step
          split at step <;> cases step
          exact .refl _
  | hil answer => exact hil_books step ▸ .refl _
  | isr => exact isr_books step ▸ .refl _
  | app event => exact app_continued step
  | write address value =>
      simp only [next] at step
      split at step <;> cases step
      exact .refl _

/-! ## The way that is left -/

def TxField.rank : TxField → Nat
  | .data => 3
  | .len => 2
  | .index => 1
  | .sent => 0

/-- How far the thread of the interface is from having reported everything. -/
def HilPoint.rank : HilPoint → Nat
  | .checkWaiting _ => 11
  | .checkSent _ => 10
  | .checkRx _ => 9
  | .clear field _ => 6 + field.rank
  | .out _ _ => 5
  | .await _ _ => 4
  | .setTxData => 3
  | .txStartOut => 2
  | .txStartAwait => 1
  | _ => 0

/-- How far the thread of the driver is from looking for the next event. -/
def AppPoint.rank : AppPoint → Nat
  | .startCallback | .sendStart | .getBits => 0
  | .txDoneData _ => 9
  | .rxCall _ | .txStartCall _ | .txDoneCall _ _ => 8
  | .rxRuns _ | .txStartRuns _ | .txDoneRuns _ => 7
  | .rxClear _ | .txStartStore _ _ => 6
  | .txDoneClear field _ => 3 + field.rank
  | .rxReply _ | .txStartReply _ | .txDoneReply _ => 2

/-- How far an event is from being answered. -/
def Path.rank (path : Path) : Nat :=
  match path.toIsr, path.isr, path.toHil with
  | _ :: _, _, _ => 12
  | [], .setBits _, _ => 11
  | [], .idle, _ :: _ => 1
  | [], .idle, [] => if path.events = noFlags then path.app.rank else 10

/-- How far a transfer that is over is from being told. -/
def Slave.reportRank (slave : Slave) : Nat :=
  if slave.path = quietPath then 13 + slave.hil.rank else slave.path.rank

/-- How far a request for a read is from being told. -/
def Slave.startRank (slave : Slave) : Nat :=
  slave.hil.rank * 13 + slave.path.rank

/-- The driver comes nearer to telling. -/
def Nearer (source target : Slave) : Prop :=
  target.reportRank < source.reportRank ∧ target.startRank < source.startRank

theorem startRank_of_hil (lower : target.hil.rank < source.hil.rank)
    (path : target.path.rank ≤ 12) : target.startRank < source.startRank := by
  unfold Slave.startRank
  omega

theorem nearer_of_path (before : source.path ≠ quietPath) (after : target.path ≠ quietPath)
    (hil : target.hil = source.hil) (lower : target.path.rank < source.path.rank) :
    Nearer source target := by
  constructor
  · rw [Slave.reportRank, Slave.reportRank, if_neg before, if_neg after]
    exact lower
  · rw [Slave.startRank, Slave.startRank, hil]
    exact Nat.add_lt_add_left lower _

theorem nearer_of_hil (before : source.path = quietPath) (after : target.path = quietPath)
    (lower : target.hil.rank < source.hil.rank) : Nearer source target := by
  constructor
  · rw [Slave.reportRank, Slave.reportRank, if_pos before, if_pos after]
    exact Nat.add_lt_add_left lower _
  · refine startRank_of_hil lower ?_
    rw [after]
    decide

theorem nearer_of_out {code : CbCode} (before : source.path = quietPath)
    (after : target.path = ⟨[code], .idle, noFlags, .getBits, []⟩)
    (lower : target.hil.rank < source.hil.rank) : Nearer source target := by
  constructor
  · rw [Slave.reportRank, Slave.reportRank, if_pos before, after, if_neg nofun]
    exact Nat.lt_of_lt_of_le (Nat.lt_succ_self 12) (Nat.le_add_right _ _)
  · refine startRank_of_hil lower ?_
    rw [after]
    exact Nat.le_refl 12

theorem After.goOn_rank (config : Config) (after : After) : (after.goOn config).rank ≤ 3 := by
  cases after with
  | readReq => exact Nat.le_refl 3
  | writeReq =>
      cases asked : config.writeAddrReq <;>
        simp only [After.goOn, asked] <;>
          exact Nat.zero_le 3
  | stop => exact Nat.zero_le 3

/-! ## Who goes on -/

/-- The thread of the interface reports while no event is outstanding. -/
theorem quiet_nearer (quiet : source.path = quietPath)
    (waiting : source.waitingForCompleteCb = none) (right : HilRight config source)
    (reports : 0 < source.hil.rank) (answer : Ack) :
    ∃ target, i2cSlaveHilThread config answer source = some target ∧ Nearer source target := by
  obtain ⟨memory, rxDataI, txData, txDataLen, txDataI, txDataSent, waits, path, lastAnswer, hil,
    bus, current, fetched, sent, answered, books⟩ := source
  obtain rfl : path = quietPath := quiet
  obtain rfl : waits = none := waiting
  cases hil with
  | checkWaiting after => exact ⟨_, rfl, nearer_of_hil rfl rfl (Nat.lt_succ_self 10)⟩
  | checkSent after =>
      refine ⟨_, rfl, nearer_of_hil rfl rfl ?_⟩
      by_cases some_ : 0 < txDataSent
      · simp only [if_pos some_]
        cases config.txDone
        · exact Nat.lt_succ_self 9
        · exact (show 5 < 10 by decide)
      · simp only [if_neg some_]
        exact Nat.lt_succ_self 9
  | checkRx after =>
      refine ⟨_, rfl, nearer_of_hil rfl rfl ?_⟩
      by_cases some_ : 0 < rxDataI
      · simp only [if_pos some_]
        exact (show 5 < 9 by decide)
      · simp only [if_neg some_]
        exact Nat.lt_of_le_of_lt (after.goOn_rank config) (show 3 < 9 by decide)
  | clear field after =>
      cases field with
      | data | len | index => exact ⟨_, rfl, nearer_of_hil rfl rfl (Nat.lt_succ_self _)⟩
      | sent =>
          have lower := Nat.lt_of_le_of_lt (after.goOn_rank config) (show 3 < 6 by decide)
          exact ⟨_, rfl, nearer_of_hil rfl rfl lower⟩
  | out code after =>
      cases after with
      | stop => exact ⟨_, rfl, nearer_of_out rfl rfl (Nat.zero_lt_succ 4)⟩
      | readReq | writeReq => exact ⟨_, rfl, nearer_of_out rfl rfl (Nat.lt_succ_self 4)⟩
  | setTxData => exact ⟨_, rfl, nearer_of_hil rfl rfl (Nat.lt_succ_self 2)⟩
  | txStartOut => exact ⟨_, rfl, nearer_of_out rfl rfl (Nat.lt_succ_self 1)⟩
  | await | txStartAwait | waitStart => exact right.elim
  | _ => exact absurd reports (Nat.lt_irrefl 0)

theorem Unread.not_quiet {code : CbCode} (unread : Unread source.txData code source.path) :
    source.path ≠ quietPath :=
  fun quiet => absurd (unread.outstanding.symm.trans (outstanding_of_quiet quiet)) nofun

theorem Served.not_quiet {code : CbCode} (served : Served code source.path) :
    source.path ≠ quietPath :=
  fun quiet => absurd (served.outstanding.symm.trans (outstanding_of_quiet quiet)) nofun

/-- A thread of the driver, or the callback that runs. -/
def Label.ofDriver : Label → Prop
  | .hil _ | .isr | .app .run | .app (.returns _) => True
  | .bus _ | .app (.setTxData _) | .write _ _ => False

/-- What the other side of the channel does with an event. -/
def Label.ofOtherSide : Label → Prop
  | .isr | .app _ => True
  | .bus _ | .hil _ | .write _ _ => False

/-- The way of an event has got shorter, or nothing was done for it. -/
def Forward (source : Slave) (label : Label) (target : Slave) : Prop :=
  Nearer source target ∨
    ¬ label.ofDriver ∧ target.path = source.path ∧ target.hil = source.hil

/-- An event on its way is passed on. -/
theorem unread_forward {code : CbCode} (unread : Unread source.txData code source.path)
    {label : Label} (otherSide : label.ofOtherSide)
    (step : next config source label = some target) : Forward source label target := by
  have notQuiet := unread.not_quiet
  obtain ⟨memory, rxDataI, txData, txDataLen, txDataI, txDataSent, waiting, path, answer, hil, bus,
    current, fetched, sent, answered, books⟩ := source
  have unread : Unread txData code path := unread
  cases label with
  | bus | hil | write => exact otherSide.elim
  | isr =>
      cases unread with
      | toIsr =>
          cases step
          exact .inl (nearer_of_path notQuiet (by rintro ⟨⟩) rfl (Nat.lt_succ_self 11))
      | isr =>
          cases step
          refine .inl (nearer_of_path notQuiet ?_ rfl ?_)
          · cases code <;> rintro ⟨⟩
          · cases code <;> exact Nat.lt_succ_self 10
      | events | call => cases step
  | app event =>
      cases unread with
      | toIsr | isr => cases event <;> cases step
      | events =>
          cases event with
          | returns | setTxData => cases step
          | run =>
              simp only [next, i2cSlaveAppThread, if_neg (set_ne_noFlags code)] at step
              cases step
              refine .inl (nearer_of_path notQuiet ?_ rfl ?_)
              · cases code <;> rintro ⟨⟩
              · cases code
                · exact (show 8 < 10 by decide)
                · exact (show 8 < 10 by decide)
                · exact (show 9 < 10 by decide)
      | call calls =>
          cases calls <;> cases event <;> cases step
          · exact .inl (nearer_of_path notQuiet (by rintro ⟨⟩) rfl (Nat.lt_succ_self 7))
          · exact .inl (nearer_of_path notQuiet (by rintro ⟨⟩) rfl (Nat.lt_succ_self 7))
          · exact .inl (nearer_of_path notQuiet (by rintro ⟨⟩) rfl (Nat.lt_succ_self 8))
          · exact .inl (nearer_of_path notQuiet (by rintro ⟨⟩) rfl (Nat.lt_succ_self 7))

/-- A served event is answered. -/
theorem served_forward {code : CbCode} (served : Served code source.path)
    {label : Label} (otherSide : label.ofOtherSide)
    (step : next config source label = some target) : Forward source label target := by
  have notQuiet := served.not_quiet
  obtain ⟨memory, rxDataI, txData, txDataLen, txDataI, txDataSent, waiting, path, answer, hil, bus,
    current, fetched, sent, answered, books⟩ := source
  have served : Served code path := served
  cases label with
  | bus | hil | write => exact otherSide.elim
  | isr => cases served <;> cases step
  | app event =>
      cases served with
      | replied => cases event <;> cases step
      | app serves =>
          cases serves with
          | txStartRuns =>
              cases event with
              | run => cases step
              | returns len =>
                  cases step
                  exact .inl (nearer_of_path notQuiet nofun rfl (Nat.lt_succ_self 6))
              | setTxData data =>
                  cases step
                  exact .inr ⟨id, rfl, rfl⟩
          | rxRuns =>
              cases event <;> cases step
              exact .inl (nearer_of_path notQuiet nofun rfl (Nat.lt_succ_self 6))
          | txDoneRuns =>
              cases event <;> cases step
              exact .inl (nearer_of_path notQuiet nofun rfl (Nat.lt_succ_self 6))
          | rxClear =>
              cases event <;> cases step
              exact .inl (nearer_of_path notQuiet nofun rfl (show 2 < 6 by decide))
          | txStartStore =>
              cases event <;> cases step
              exact .inl (nearer_of_path notQuiet nofun rfl (show 2 < 6 by decide))
          | @txDoneClear field =>
              cases event with
              | returns | setTxData => cases step
              | run =>
                  cases field <;> cases step <;>
                    exact .inl (nearer_of_path notQuiet nofun rfl (Nat.lt_succ_self _))
          | rxReply | txStartReply | txDoneReply =>
              cases event <;> cases step
              exact .inl (nearer_of_path notQuiet nofun rfl (Nat.lt_succ_self 1))

/-- The thread of the interface is the one to go on. -/
theorem quiet_forward (quiet : source.path = quietPath)
    (waiting : source.waitingForCompleteCb = none) (right : HilRight config source)
    (reports : 0 < source.hil.rank) {label : Label}
    (step : next config source label = some target) : Forward source label target := by
  have notIdle : source.hil ≠ .idle := by
    intro idle
    rw [idle] at reports
    exact absurd reports (Nat.lt_irrefl 0)
  cases label with
  | bus event => cases event <;> simp [next, busEvent, notIdle] at step
  | hil answer =>
      obtain ⟨reached, taken, nearer⟩ := quiet_nearer quiet waiting right reports answer
      cases taken.symm.trans step
      exact .inl nearer
  | isr =>
      rw [next, rtosI2cSlaveIsr, quiet] at step
      cases step
  | app event =>
      cases event <;> rw [next, i2cSlaveAppThread, quiet] at step <;> cases step
  | write address value =>
      simp only [next] at step
      split at step <;> cases step
      exact .inr ⟨id, rfl, rfl⟩

/-- The answer to an event is taken. -/
theorem replied_lowers (config : Config) {code : CbCode}
    (replied : source.path = ⟨[], .idle, noFlags, .getBits, [some code]⟩)
    (waits : Waits code source.waitingForCompleteCb source.hil) (busy : source.hil ≠ .idle)
    (answer : Ack) :
    ∃ target, i2cSlaveHilThread config answer source = some target ∧
      target.startRank < source.startRank := by
  obtain ⟨memory, rxDataI, txData, txDataLen, txDataI, txDataSent, waiting, path, lastAnswer, hil,
    bus, current, fetched, sent, answered, books⟩ := source
  obtain rfl : path = _ := replied
  have waits : Waits code waiting hil := waits
  cases waits with
  | @report after _ _ =>
      have lower := Nat.lt_of_le_of_lt (after.goOn_rank config) (show 3 < 4 by decide)
      exact ⟨_, rfl, startRank_of_hil lower (Nat.zero_le 12)⟩
  | txStart => exact ⟨_, rfl, startRank_of_hil (Nat.lt_succ_self 0) (Nat.zero_le 12)⟩
  | deferred => exact absurd rfl busy
  | late => exact ⟨_, rfl, startRank_of_hil (Nat.lt_succ_self 10) (Nat.zero_le 12)⟩

theorem unread_goesOn {code : CbCode} (unread : Unread source.txData code source.path) :
    ∃ label, label.ofDriver ∧ (next config source label).isSome := by
  obtain ⟨memory, rxDataI, txData, txDataLen, txDataI, txDataSent, waiting, path, lastAnswer, hil,
    bus, current, fetched, sent, answered, books⟩ := source
  have unread : Unread txData code path := unread
  cases unread with
  | toIsr | isr => exact ⟨.isr, trivial, rfl⟩
  | events =>
      refine ⟨.app .run, trivial, ?_⟩
      simp only [next, i2cSlaveAppThread, if_neg (set_ne_noFlags code)]
      rfl
  | call calls => cases calls <;> exact ⟨.app .run, trivial, rfl⟩

theorem served_goesOn {code : CbCode} (served : Served code source.path)
    (waits : Waits code source.waitingForCompleteCb source.hil) (busy : source.hil ≠ .idle) :
    ∃ label, label.ofDriver ∧ (next config source label).isSome := by
  generalize isPath : source.path = path at served
  cases served with
  | replied =>
      obtain ⟨target, step, _⟩ := replied_lowers config isPath waits busy .ack
      exact ⟨.hil .ack, trivial, by rw [next, step]; rfl⟩
  | app serves =>
      cases serves with
      | txStartRuns =>
          refine ⟨.app (.returns 0), trivial, ?_⟩
          simp only [next, i2cSlaveAppThread, isPath]
          rfl
      | _ =>
          refine ⟨.app .run, trivial, ?_⟩
          simp only [next, i2cSlaveAppThread, isPath]
          rfl

/-! ## Transfers are told -/

/-- The callbacks were told of all writes and reads. -/
def Books.TransfersTold (config : Config) (books : Books) : Prop :=
  books.delivered = books.written.map (List.take config.bufLen) ∧
    (config.txDone = true → books.readsTold = books.reads)

/-- `tx_start` was called for all requests. -/
def Books.RequestsTold (books : Books) : Prop :=
  books.txStarts = books.readRequests

theorem Balance.transfersTold {books : Books} {starts : Nat}
    (balance : Balance config books [] [] starts) : books.TransfersTold config :=
  ⟨(List.append_nil _).symm.trans balance.rx.symm,
    fun on => (List.append_nil _).symm.trans (balance.txDone on).symm⟩

theorem Balance.requestsTold {books : Books} {writes : List (List UInt8)}
    {reads : List (UInt32 × Nat)} (balance : Balance config books writes reads 0) :
    books.RequestsTold :=
  balance.txStart.symm

/-- What is not told is on its way, or the thread of the interface is about to report it. -/
theorem HilRight.told (right : HilRight config source) :
    source.books.TransfersTold config ∧ source.books.RequestsTold ∨ 0 < source.hil.rank := by
  have told : Balance config source.books [] [] 0 →
      source.books.TransfersTold config ∧ source.books.RequestsTold :=
    fun balance => ⟨balance.transfersTold, balance.requestsTold⟩
  cases point : source.hil with
  | waitStart | await | txStartAwait =>
      rw [HilRight, point] at right
      exact right.elim
  | checkWaiting | checkSent | checkRx | out | setTxData | txStartOut =>
      exact .inr (Nat.zero_lt_succ _)
  | clear field => exact .inr (Nat.add_pos_left (Nat.zero_lt_succ 5) _)
  | checkData =>
      rw [HilRight, point] at right
      exact .inl (told right.2.2.2.2.2)
  | resetSent | checkLen =>
      rw [HilRight, point] at right
      exact .inl (told right.2.2.2.2)
  | resetIndex =>
      rw [HilRight, point] at right
      exact .inl (told right.2.2.2)
  | writeAddrReq | resetRx =>
      rw [HilRight, point] at right
      exact .inl (told right.2.2)
  | _ =>
      rw [HilRight, point] at right
      exact .inl (told right.2)

/-- A step brings the telling nearer, or nothing was done for it. -/
def Advances (rank : Slave → Nat) (source : Slave) (label : Label) (target : Slave) : Prop :=
  rank target < rank source ∨ rank target = rank source ∧ ¬ label.ofDriver

theorem Forward.report {label : Label} (forward : Forward source label target) :
    Advances Slave.reportRank source label target := by
  rcases forward with nearer | ⟨notDriver, path, hil⟩
  · exact .inl nearer.1
  · refine .inr ⟨?_, notDriver⟩
    rw [Slave.reportRank, Slave.reportRank, path, hil]

theorem Forward.start {label : Label} (forward : Forward source label target) :
    Advances Slave.startRank source label target := by
  rcases forward with nearer | ⟨notDriver, path, hil⟩
  · exact .inl nearer.2
  · refine .inr ⟨?_, notDriver⟩
    rw [Slave.startRank, Slave.startRank, path, hil]

/-- Nobody but the other side does anything for an event on its way. -/
theorem unread_steps {code : CbCode} (unread : Unread source.txData code source.path)
    (waits : Waits code source.waitingForCompleteCb source.hil) (none_ : NoTransfer source)
    {label : Label} (step : next config source label = some target) :
    Forward source label target ∨
      ¬ label.ofDriver ∧ source.hil = .idle ∧ target.path = source.path := by
  cases label with
  | isr | app => exact .inl (unread_forward unread trivial step)
  | hil answer =>
      obtain ⟨memory, rxDataI, txData, txDataLen, txDataI, txDataSent, pending, path, lastAnswer,
        point, bus, current, fetched, sent, answered, books⟩ := source
      have unread : Unread txData code path := unread
      have waits : Waits code pending point := waits
      cases unread <;> cases waits <;> cases step
  | bus event =>
      have path := (endTransfer_frame source).1
      cases event <;> simp only [next, busEvent] at step <;> split at step <;> cases step
      · next idle => exact .inr ⟨id, idle, path⟩
      · next idle => exact .inr ⟨id, idle, path⟩
      · next now => exact absurd (none_.1.symm.trans now.2) (by rintro ⟨⟩)
      · next now => exact absurd (none_.1.symm.trans now.2) (by rintro ⟨⟩)
      · next idle => exact .inr ⟨id, idle, path⟩
  | write address value =>
      simp only [next] at step
      split at step <;> cases step
      exact .inl (.inr ⟨id, rfl, rfl⟩)

theorem Inv.transfersAdvance (inv : Inv config source)
    (untold : ¬ source.books.TransfersTold config) {label : Label}
    (step : I2cSlave.next config source label = some target) :
    Advances Slave.reportRank source label target := by
  cases inv with
  | starting _ _ _ _ _ balance => exact absurd balance.transfersTold untold
  | served _ _ _ _ balance => exact absurd balance.transfersTold untold
  | quiet quiet waiting right =>
      rcases right.told with told | reports
      · exact absurd told.1 untold
      · exact (quiet_forward quiet waiting right reports step).report
  | unread unread waits none_ =>
      rcases unread_steps unread waits none_ step with forward | ⟨notDriver, _, path⟩
      · exact forward.report
      · refine .inr ⟨?_, notDriver⟩
        rw [Slave.reportRank, Slave.reportRank, path, if_neg unread.not_quiet,
          if_neg unread.not_quiet]

theorem Inv.transfersGoOn (inv : Inv config source)
    (untold : ¬ source.books.TransfersTold config) :
    ∃ label, label.ofDriver ∧ (I2cSlave.next config source label).isSome := by
  cases inv with
  | starting _ _ _ _ _ balance => exact absurd balance.transfersTold untold
  | served _ _ _ _ balance => exact absurd balance.transfersTold untold
  | quiet quiet waiting right =>
      rcases right.told with told | reports
      · exact absurd told.1 untold
      · obtain ⟨target, step, _⟩ := quiet_nearer quiet waiting right reports .ack
        exact ⟨.hil .ack, trivial, by rw [I2cSlave.next, step]; rfl⟩
  | unread unread => exact unread_goesOn unread

/-! ## Requests are told -/

/-- A request that goes on with a read is not idle. -/
theorem not_idle_of_startsRead (starts : source.hil.startsRead ≠ 0) : source.hil ≠ .idle := by
  intro idle
  rw [idle] at starts
  exact starts rfl

/-- The thread of the interface goes on once the answer is there. -/
theorem served_replied_of_hil {code : CbCode} (served : Served code source.path)
    (waits : Waits code source.waitingForCompleteCb source.hil) (busy : source.hil ≠ .idle)
    {answer : Ack} (step : i2cSlaveHilThread config answer source = some target) :
    source.path = ⟨[], .idle, noFlags, .getBits, [some code]⟩ := by
  obtain ⟨memory, rxDataI, txData, txDataLen, txDataI, txDataSent, waiting, path, lastAnswer, hil,
    bus, current, fetched, sent, answered, books⟩ := source
  have served : Served code path := served
  have waits : Waits code waiting hil := waits
  cases served with
  | replied => rfl
  | app => cases waits <;> cases step

theorem Inv.requestsAdvance (inv : Inv config source) (untold : ¬ source.books.RequestsTold)
    {label : Label} (step : I2cSlave.next config source label = some target) :
    Advances Slave.startRank source label target := by
  cases inv with
  | starting _ _ _ _ _ balance => exact absurd balance.requestsTold untold
  | quiet quiet waiting right =>
      rcases right.told with told | reports
      · exact absurd told.2 untold
      · exact (quiet_forward quiet waiting right reports step).start
  | @unread code unread waits none_ loaded =>
      rcases unread_steps unread waits none_ step with forward | ⟨_, idle, _⟩
      · exact forward.start
      · rw [idle] at waits loaded
        cases code with
        | rx =>
            obtain ⟨_, _, _, _, balance⟩ := loaded
            exact absurd balance.requestsTold untold
        | txDone =>
            obtain ⟨_, _, _, _, _, balance⟩ := loaded
            exact absurd balance.requestsTold untold
        | txStart =>
            generalize source.waitingForCompleteCb = waiting at waits
            cases waits with
            | deferred isReport => exact absurd rfl isReport
  | @served code served waits none_ handled balance =>
      have starts : source.hil.startsRead ≠ 0 := by
        intro none_
        rw [none_] at balance
        exact untold balance.requestsTold
      have busy := not_idle_of_startsRead starts
      cases label with
      | isr | app =>
          refine (served_forward served ?_ step).start
          exact trivial
      | bus event => cases event <;> simp [I2cSlave.next, busEvent, busy] at step
      | write address value =>
          simp only [I2cSlave.next] at step
          split at step <;> cases step
          exact .inr ⟨rfl, id⟩
      | hil answer =>
          obtain ⟨reached, taken, lower⟩ :=
            replied_lowers config (served_replied_of_hil served waits busy step) waits busy answer
          cases taken.symm.trans step
          exact .inl lower

theorem Inv.requestsGoOn (inv : Inv config source) (untold : ¬ source.books.RequestsTold) :
    ∃ label, label.ofDriver ∧ (I2cSlave.next config source label).isSome := by
  cases inv with
  | starting _ _ _ _ _ balance => exact absurd balance.requestsTold untold
  | quiet quiet waiting right =>
      rcases right.told with told | reports
      · exact absurd told.2 untold
      · obtain ⟨target, step, _⟩ := quiet_nearer quiet waiting right reports .ack
        exact ⟨.hil .ack, trivial, by rw [I2cSlave.next, step]; rfl⟩
  | unread unread => exact unread_goesOn unread
  | served served waits _ _ balance =>
      refine served_goesOn served waits (not_idle_of_startsRead ?_)
      intro none_
      rw [none_] at balance
      exact untold balance.requestsTold

/-! ## Executions -/

/-- The driver does not rest for ever while one of its threads can go on, or a callback can
return. -/
def Fair {start : Slave} (execution : Execution (next config) start) : Prop :=
  execution.WeaklyFair (fun slave => ∃ label, label.ofDriver ∧ (next config slave label).isSome)
    Label.ofDriver

section
variable {start : Slave} {execution : Execution (next config) start}

theorem continued (execution : Execution (next config) start) {first later : Nat}
    (order : first ≤ later) :
    (execution.state first).books.Continued (execution.state later).books := by
  induction later, order using Nat.le_induction with
  | base => exact .refl _
  | succ later _ ih => exact ih.trans (next_continued (execution.step later))

/-- What steps bring nearer while it is missing comes. -/
theorem leadsTo_of_advances (inv : ∀ n, Inv config (execution.state n)) (fair : Fair execution)
    {Told : Slave → Prop} (rank : Slave → Nat)
    (advances : ∀ {source label target}, Inv config source → ¬ Told source →
      next config source label = some target → Advances rank source label target)
    (goesOn : ∀ {source}, Inv config source → ¬ Told source →
      ∃ label, label.ofDriver ∧ (next config source label).isSome) :
    execution.LeadsTo (fun _ => True) Told := by
  have enough : execution.LeadsTo (fun slave => Inv config slave ∧ ¬ Told slave) Told := by
    apply Execution.LeadsTo.of_rank rank (fair.mono fun slave missing => goesOn missing.1 missing.2)
    intro n missing
    by_cases told : Told (execution.state (n + 1))
    · exact .inr told
    · exact .inl ⟨⟨inv (n + 1), told⟩, advances missing.1 missing.2 (execution.step n)⟩
  intro n _
  by_cases told : Told (execution.state n)
  · exact ⟨n, Nat.le_refl n, told⟩
  · exact enough n ⟨inv n, told⟩

/-- All transfers that are over will have been told, and all requests. -/
theorem told (inv : ∀ n, Inv config (execution.state n)) (fair : Fair execution)
    (books : Books) :
    execution.LeadsTo (fun slave => slave.books = books) (fun slave =>
      books.written.map (List.take config.bufLen) <+: slave.books.delivered ∧
        (config.txDone = true → books.reads <+: slave.books.readsTold)) ∧
      execution.LeadsTo (fun slave => slave.books = books)
        (fun slave => books.readRequests ≤ slave.books.txStarts) := by
  constructor
  · rintro n rfl
    obtain ⟨m, later, told⟩ := leadsTo_of_advances inv fair Slave.reportRank
      (fun inv missing step => Inv.transfersAdvance inv missing step)
      (fun inv missing => Inv.transfersGoOn inv missing) n trivial
    obtain ⟨written, reads, _⟩ := continued execution later
    refine ⟨m, later, ?_, fun registered => ?_⟩
    · rw [told.1]
      exact written.map _
    · rw [told.2 registered]
      exact reads
  · rintro n rfl
    obtain ⟨m, later, told⟩ := leadsTo_of_advances inv fair Slave.startRank
      (fun inv missing step => Inv.requestsAdvance inv missing step)
      (fun inv missing => Inv.requestsGoOn inv missing) n trivial
    have grown := (continued execution later).2.2
    exact ⟨m, later, grown.trans (Nat.le_of_eq (Eq.symm told))⟩

end

end FwkRtos.I2cSlave
