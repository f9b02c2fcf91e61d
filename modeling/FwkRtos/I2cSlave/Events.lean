import FwkRtos.I2cSlave.Interface

/-!
# What the callbacks are told

In every state of a run the callbacks have been told of everything but the transfer or the
request that the driver is about to tell them of; no other event is outstanding meanwhile,
and nothing that a callback uses changes under it.
-/

namespace FwkRtos.I2cSlave

variable {config : Config} {source target : Slave}

/-! ## The contract -/

def Flags.codes (flags : Flags) : List CbCode :=
  (if flags.rx then [.rx] else []) ++ (if flags.txStart then [.txStart] else []) ++
    if flags.txDone then [.txDone] else []

def IsrPoint.codes : IsrPoint → List CbCode
  | .idle => []
  | .setBits code => [code]

/-- The event that the thread of the driver serves, and those it has still to look at. -/
def AppPoint.codes : AppPoint → List CbCode
  | .startCallback | .sendStart | .getBits => []
  | .rxCall rest | .rxRuns rest | .rxClear rest | .rxReply rest => .rx :: rest.codes
  | .txStartCall rest | .txStartRuns rest | .txStartStore _ rest | .txStartReply rest =>
      .txStart :: rest.codes
  | .txDoneData rest | .txDoneCall _ rest | .txDoneRuns rest | .txDoneClear _ rest
  | .txDoneReply rest => .txDone :: rest.codes

/-- The events reported whose answers are not taken. -/
def Slave.outstanding (slave : Slave) : List CbCode :=
  slave.path.toIsr ++ slave.path.isr.codes ++ slave.path.events.codes ++ slave.path.app.codes ++
    slave.path.toHil.filterMap id

/-- The reads that `tx_done` was told of. -/
def Books.readsTold (books : Books) : List (UInt32 × Nat) :=
  books.txDones.map fun done => (done.1, done.2.toNat)

/-- There is nothing that the callbacks have still to be told. -/
def Books.Settled (config : Config) (books : Books) : Prop :=
  books.delivered = books.written.map (List.take config.bufLen) ∧
    (config.txDone = true → books.readsTold = books.reads) ∧
      books.txStarts = books.readRequests

/-- The fields and the memory that the callbacks use. -/
def SameBuffers (before after : Slave) : Prop :=
  after.memory = before.memory ∧ after.rxDataI = before.rxDataI ∧
    after.txData = before.txData ∧ after.txDataLen = before.txDataLen ∧
      after.txDataI = before.txDataI ∧ after.txDataSent = before.txDataSent

/-- The bus or the thread of the interface takes the step. -/
def Label.ofInterface : Label → Prop
  | .bus _ | .hil _ => True
  | .isr | .app _ | .write _ _ => False

/-- The callbacks were told of everything but one transfer or request. -/
structure Balanced (config : Config) (books : Books) : Prop where
  rx : ∃ untold, books.written.map (List.take config.bufLen) = books.delivered ++ untold ∧
    untold.length ≤ 1
  txDone : config.txDone = true → ∃ untold,
    books.reads = books.readsTold ++ untold ∧ untold.length ≤ 1
  noTxDone : config.txDone = false → books.txDones = []
  txStart : books.txStarts ≤ books.readRequests ∧ books.readRequests ≤ books.txStarts + 1

/-- What the driver promises in every state.  The addresses that a read fetches from are
those of the bytes `tx_data[k mod L]`. -/
structure EventsRight (config : Config) (slave : Slave) : Prop where
  balanced : Balanced config slave.books
  settled : slave.hil = .idle ∧ slave.outstanding = [] ∨ slave.bus ≠ .idle →
    slave.books.Settled config
  reading : slave.bus = .reading → 0 < slave.answered.2.toNat ∧
    slave.fetched.map Prod.fst = readAddresses slave.answered slave.fetched.length ∧
      slave.sent <+: slave.fetched.map Prod.snd ∧
        (slave.hil = .idle → slave.sent = slave.fetched.map Prod.snd)
  oneOutstanding : slave.outstanding.length ≤ 1
  untouched : slave.path.app.inCallback = true → ∀ label, label.ofInterface → ∀ target,
    next config slave label = some target → SameBuffers slave target

/-! ## It is kept -/

theorem Flags.codes_set (code : CbCode) : (noFlags.set code).codes = [code] := by
  cases code <;> rfl

theorem Calls.codes {txData : UInt32} {code : CbCode} {app : AppPoint}
    (calls : Calls txData code app) : app.codes = [code] := by
  cases calls <;> rfl

theorem Serves.codes {code : CbCode} {app : AppPoint} (serves : Serves code app) :
    app.codes = [code] := by
  cases serves <;> rfl

/-- There is one event while one is on its way or served. -/
theorem Unread.outstanding {code : CbCode} (unread : Unread source.txData code source.path) :
    source.outstanding = [code] := by
  unfold Slave.outstanding
  generalize source.path = path at unread ⊢
  cases unread with
  | toIsr | isr => rfl
  | events =>
      simp only [Flags.codes_set]
      rfl
  | call calls =>
      simp only [calls.codes]
      rfl

theorem Served.outstanding {code : CbCode} (served : Served code source.path) :
    source.outstanding = [code] := by
  unfold Slave.outstanding
  generalize source.path = path at served ⊢
  cases served with
  | app serves =>
      simp only [serves.codes]
      rfl
  | replied => rfl

theorem outstanding_of_quiet (quiet : source.path = quietPath) : source.outstanding = [] := by
  unfold Slave.outstanding
  rw [quiet]
  rfl

theorem outstanding_of_starting (starting : Starting source.path) : source.outstanding = [] := by
  unfold Slave.outstanding
  generalize source.path = path at starting ⊢
  cases starting <;> rfl

theorem Balance.balanced {books : Books} {writes : List (List UInt8)}
    {reads : List (UInt32 × Nat)} {starts : Nat}
    (balance : Balance config books writes reads starts)
    (oneWrite : writes.length ≤ 1) (oneRead : reads.length ≤ 1) (oneStart : starts ≤ 1) :
    Balanced config books where
  rx := ⟨_, balance.rx, by rwa [List.length_map]⟩
  txDone on := ⟨reads, balance.txDone on, oneRead⟩
  noTxDone := balance.noTxDone
  txStart := by
    rw [balance.txStart]
    exact ⟨Nat.le_add_right _ _, Nat.add_le_add_left oneStart _⟩

theorem Balance.settled {books : Books} (balance : Balance config books [] [] 0) :
    books.Settled config :=
  ⟨(List.append_nil _).symm.trans balance.rx.symm,
    fun on => (List.append_nil _).symm.trans (balance.txDone on).symm, balance.txStart.symm⟩

theorem Loaded.balanced {starts : Nat} {code : CbCode} (loaded : Loaded config source starts code)
    (oneStart : starts ≤ 1) (notTxStart : code = .txStart → starts = 0) :
    Balanced config source.books := by
  cases code with
  | rx =>
      obtain ⟨bytes, _, _, _, balance⟩ := loaded
      exact balance.balanced (Nat.le_refl 1) (Nat.zero_le 1) oneStart
  | txDone =>
      obtain ⟨count, _, _, _, _, balance⟩ := loaded
      exact balance.balanced (Nat.zero_le 1) (Nat.le_refl 1) oneStart
  | txStart =>
      have none_ := notTxStart rfl
      subst none_
      exact loaded.2.balanced (Nat.zero_le 1) (Nat.zero_le 1) (Nat.le_refl 1)

theorem After.startsRead_le (after : After) : after.startsRead ≤ 1 := by
  cases after <;> decide

theorem Ended.balanced {after : After} (ended : Ended config source after.startsRead) :
    Balanced config source.books := by
  have oneStart := after.startsRead_le
  rcases ended with ⟨_, balance⟩ | rx | txDone | ⟨_, _, _, balance⟩
  · exact balance.balanced (Nat.zero_le 1) (Nat.zero_le 1) oneStart
  · exact Loaded.balanced rx oneStart nofun
  · exact Loaded.balanced txDone oneStart nofun
  · exact balance.balanced (Nat.zero_le 1) (Nat.zero_le 1) oneStart

theorem HilPoint.startsRead_le (point : HilPoint) : point.startsRead ≤ 1 := by
  cases point <;> first | exact After.startsRead_le _ | exact Nat.le_refl 1 | exact Nat.zero_le 1

theorem HilRight.balanced (right : HilRight config source) : Balanced config source.books := by
  have settled : Balance config source.books [] [] 0 → Balanced config source.books :=
    fun balance => balance.balanced (Nat.zero_le 1) (Nat.zero_le 1) (Nat.zero_le 1)
  unfold HilRight at right
  split at right
  · exact right.elim
  · exact right.elim
  · exact right.elim
  · exact settled right.2
  · exact right.2.balanced
  · exact right.2.balanced
  · exact right.2.2.balanced
  · next after _ =>
    exact right.2.2.balanced (Nat.zero_le 1) (Nat.zero_le 1) after.startsRead_le
  · next after _ =>
    exact right.2.2.balanced after.startsRead_le fun isStart => absurd isStart right.2.1
  · exact right.2.2.balanced (Nat.zero_le 1) (Nat.zero_le 1) (Nat.le_refl 1)
  · exact right.2.2.balanced (Nat.zero_le 1) (Nat.zero_le 1) (Nat.le_refl 1)
  · exact settled right.2.2.2
  · exact settled right.2.2.2.2
  · exact settled right.2.2.2.2
  · exact settled right.2.2.2.2.2
  · exact settled right.2.2
  · exact settled right.2.2
  all_goals exact settled right.2

theorem Waits.startsRead {waiting : Option CbCode} (waits : Waits .txStart waiting source.hil) :
    source.hil.startsRead = 0 := by
  generalize source.hil = point at waits ⊢
  cases waits with
  | report isReport | deferred isReport | late isReport => exact absurd rfl isReport
  | txStart => rfl

theorem Inv.balanced (inv : Inv config source) : Balanced config source.books := by
  cases inv with
  | starting _ _ _ _ _ balance =>
      exact balance.balanced (Nat.zero_le 1) (Nat.zero_le 1) (Nat.zero_le 1)
  | quiet _ _ right => exact right.balanced
  | unread _ waits _ loaded =>
      refine loaded.balanced (HilPoint.startsRead_le _) ?_
      rintro rfl
      exact waits.startsRead
  | served _ _ _ _ balance =>
      exact balance.balanced (Nat.zero_le 1) (Nat.zero_le 1) (HilPoint.startsRead_le _)

theorem Inv.oneOutstanding (inv : Inv config source) : source.outstanding.length ≤ 1 := by
  cases inv with
  | starting starting => rw [outstanding_of_starting starting]; exact Nat.zero_le 1
  | quiet quiet => rw [outstanding_of_quiet quiet]; exact Nat.zero_le 1
  | unread unread => rw [unread.outstanding]; exact Nat.le_refl 1
  | served served => rw [served.outstanding]; exact Nat.le_refl 1

/-- While a transfer is under way the books are settled. -/
theorem HilRight.active (right : HilRight config source) (active : source.bus ≠ .idle) :
    Balance config source.books [] [] 0 ∧
      (source.bus = .reading → ∃ pending index, Reads source pending index ∧
        (source.hil = .idle → pending = [])) := by
  have noTransfer : ∀ {P : Prop}, NoTransfer source → P := fun none_ => absurd none_.1 active
  have writing : ∀ {stored : List UInt8} {P : Prop}, Writes config source stored →
      source.bus = .reading → P :=
    fun writes isReading => absurd (writes.1.symm.trans isReading) nofun
  unfold HilRight at right
  split at right
  · exact right.elim
  · exact right.elim
  · exact right.elim
  · refine ⟨right.2, fun isReading => ?_⟩
    rcases right.1 with ⟨none_, _⟩ | writes | reads
    · exact noTransfer none_
    · exact writing writes isReading
    · exact ⟨[], _, reads, fun _ => rfl⟩
  iterate 13 exact noTransfer right.1
  · exact ⟨right.2, fun _ => ⟨[], _, right.1, fun _ => rfl⟩⟩
  · exact ⟨right.2, fun _ => ⟨[], _, right.1, fun _ => rfl⟩⟩
  · exact ⟨right.2, fun _ => ⟨[], _, right.1, fun _ => rfl⟩⟩
  · next point =>
    exact ⟨right.2, fun _ => ⟨_, _, right.1, fun idle => absurd (point.symm.trans idle) nofun⟩⟩
  · next point =>
    exact ⟨right.2, fun _ => ⟨_, _, right.1, fun idle => absurd (point.symm.trans idle) nofun⟩⟩
  · obtain ⟨⟨_, _, writes⟩, balance⟩ := right
    exact ⟨balance, writing writes⟩
  · obtain ⟨⟨_, _, _, writes, _⟩, balance⟩ := right
    exact ⟨balance, writing writes⟩
  · exact ⟨right.2, writing right.1⟩

theorem Inv.active (inv : Inv config source) (active : source.bus ≠ .idle) :
    Balance config source.books [] [] 0 ∧
      (source.bus = .reading → ∃ pending index, Reads source pending index ∧
        (source.hil = .idle → pending = [])) := by
  cases inv with
  | quiet _ _ right => exact right.active active
  | starting _ _ _ none_ | unread _ _ none_ | served _ _ none_ => exact absurd none_.1 active

theorem Inv.settled (inv : Inv config source)
    (rests : source.hil = .idle ∧ source.outstanding = [] ∨ source.bus ≠ .idle) :
    source.books.Settled config := by
  rcases rests with ⟨idle, nothing⟩ | active
  · cases inv with
    | starting _ _ _ _ _ balance => exact balance.settled
    | quiet _ _ right =>
        rw [HilRight, idle] at right
        exact right.2.settled
    | unread unread => exact absurd (unread.outstanding.symm.trans nothing) (by rintro ⟨⟩)
    | served served => exact absurd (served.outstanding.symm.trans nothing) (by rintro ⟨⟩)
  · exact (inv.active active).1.settled

theorem Inv.reading (inv : Inv config source) (isReading : source.bus = .reading) :
    0 < source.answered.2.toNat ∧
      source.fetched.map Prod.fst = readAddresses source.answered source.fetched.length ∧
        source.sent <+: source.fetched.map Prod.snd ∧
          (source.hil = .idle → source.sent = source.fetched.map Prod.snd) := by
  obtain ⟨pending, index, reads, none_⟩ := (inv.active (by rw [isReading]; nofun)).2 isReading
  obtain ⟨_, _, ⟨_, _, positive⟩, _, _, ⟨addresses, bytes⟩, _⟩ := reads
  refine ⟨positive, addresses, ⟨pending, bytes.symm⟩, fun idle => ?_⟩
  rw [bytes, none_ idle, List.append_nil]

/-- While a callback runs, the thread of the interface waits, or it has yet to wait. -/
theorem Inv.untouched (inv : Inv config source) (runs : source.path.app.inCallback = true)
    {label : Label} (ofInterface : label.ofInterface)
    (step : I2cSlave.next config source label = some target) : SameBuffers source target := by
  obtain ⟨code, served, waits, none_, _, _⟩ := inv.inCallback runs
  have same : SameBuffers source source.endTransfer := by
    rw [endTransfer_of_none none_]
    exact ⟨rfl, rfl, rfl, rfl, rfl, rfl⟩
  cases label with
  | isr | app | write => exact ofInterface.elim
  | bus event =>
      cases event with
      | readRequest | writeRequest | stop =>
          simp only [I2cSlave.next, busEvent] at step
          split at step <;> cases step
          exact same
      | byte | byteRequest =>
          simp only [I2cSlave.next, busEvent, none_.1] at step
          split at step
          · next active => exact absurd active.2 (by rintro ⟨⟩)
          · cases step
  | hil answer =>
      have noReply : source.path.toHil = [] := by
        generalize source.path = path at served runs ⊢
        cases served with
        | app => rfl
        | replied => cases runs
      simp only [I2cSlave.next, i2cSlaveHilThread] at step
      generalize point : source.hil = hil at waits step
      generalize pending : source.waitingForCompleteCb = waiting at waits
      cases waits with
      | report => simp [xferCompleteCheck, point, noReply] at step
      | txStart => simp [i2cAckReadReq, point, noReply] at step
      | deferred => cases step
      | late => simp [xferCompleteCheck, point, pending, noReply] at step

theorem Inv.right (inv : Inv config source) : EventsRight config source where
  balanced := inv.balanced
  settled := inv.settled
  reading := inv.reading
  oneOutstanding := inv.oneOutstanding
  untouched runs _ ofInterface _ step := inv.untouched runs ofInterface step

end FwkRtos.I2cSlave
