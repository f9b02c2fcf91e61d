import FwkRtos.I2cSlave.Steps

/-!
# The thread of the interface

Its steps keep what the driver keeps, as long as the count of the bytes sent does not
overflow.
-/

namespace FwkRtos.I2cSlave

variable {config : Config} {source target : Slave}

/-- The thread of the interface is about to count a byte. -/
def HilPoint.counts : HilPoint → Bool
  | .count _ => true
  | _ => false

/-- The count of the bytes sent does not overflow. -/
def CountsBytes (slave : Slave) : Label → Prop
  | .hil _ => slave.hil.counts = true → slave.txDataSent ≠ 0xffffffff
  | .bus _ | .isr | .app _ | .write _ _ => True

instance (slave : Slave) : DecidablePred (CountsBytes slave)
  | .hil _ => inferInstanceAs (Decidable (_ → _))
  | .bus _ | .isr | .app _ | .write _ _ => .isTrue trivial

/-- A request goes on when everything that was over is reported. -/
theorem HilRight.goOn {after : After} (goesOn : source.hil = after.goOn config)
    (none_ : NoTransfer source) (cleared : Cleared source)
    (balance : Balance config source.books [] [] after.startsRead) :
    HilRight config source := by
  unfold HilRight
  rw [goesOn]
  cases after with
  | readReq => exact ⟨none_, cleared, balance⟩
  | writeReq =>
      cases asked : config.writeAddrReq <;>
        simp only [After.goOn, asked] <;>
          exact ⟨none_, cleared, balance⟩
  | stop => exact ⟨.inl ⟨none_, cleared⟩, balance⟩

/-- An answer is taken. -/
theorem Inv.takesAnswer {code : CbCode} (served : Served code source.path)
    (waits : Waits code source.waitingForCompleteCb source.hil) (none_ : NoTransfer source)
    (handled : Handled source code)
    (balance : Balance config source.books [] [] source.hil.startsRead) {answer : Ack}
    (step : i2cSlaveHilThread config answer source = some target) : Inv config target := by
  obtain ⟨memory, rxDataI, txData, txDataLen, txDataI, txDataSent, waiting, path, lastAnswer, hil,
    bus, current, fetched, sent, answered, books⟩ := source
  have served : Served code path := served
  have waits : Waits code waiting hil := waits
  cases served with
  | app serves => cases waits <;> cases step
  | replied =>
      have cleared : code ≠ .txStart → Cleared
          ⟨memory, rxDataI, txData, txDataLen, txDataI, txDataSent, waiting,
            ⟨[], .idle, noFlags, .getBits, [some code]⟩, lastAnswer, hil, bus, current, fetched,
            sent, answered, books⟩ := by
        intro isReport
        cases code with
        | rx | txDone => exact handled
        | txStart => exact absurd rfl isReport
      cases waits with
      | report isReport =>
          cases step
          exact .quiet rfl rfl (.goOn rfl none_ (cleared isReport) balance)
      | txStart isTxStart =>
          cases step
          subst isTxStart
          exact .quiet rfl rfl ⟨none_, handled.2, handled.1, balance⟩
      | deferred => cases step
      | late isReport =>
          cases step
          exact .quiet rfl rfl ⟨none_, .inl ⟨cleared isReport, balance⟩⟩

theorem Holds.pos {bytes : List UInt8} (holds : Holds config source bytes) (some_ : bytes ≠ []) :
    0 < source.rxDataI := by
  rw [holds.1]
  exact lt_min (List.length_pos_of_ne_nil some_) config.bufLen_pos

/-- A read that has sent bytes is over. -/
theorem Ended.ofSent {starts : Nat} (ended : Ended config source starts)
    (some_ : 0 < source.txDataSent) :
    source.rxDataI = 0 ∧
      (config.txDone = true → Loaded config source starts .txDone) ∧
        (config.txDone = false → Balance config source.books [] [] starts) := by
  have notZero : source.txDataSent ≠ 0 := by
    intro zero
    rw [zero] at some_
    exact absurd some_ (by decide)
  rcases ended with ⟨cleared, _⟩ | ⟨_, _, _, tx, _⟩ | txDone | ⟨off, rx, _, balance⟩
  · exact absurd cleared.2 notZero
  · exact absurd tx notZero
  · obtain ⟨_, registered, rx, _⟩ := id txDone
    exact ⟨rx, fun _ => txDone, fun off => absurd (off.symm.trans registered) nofun⟩
  · exact ⟨rx, fun on => absurd (off.symm.trans on) nofun, fun _ => balance⟩

/-- No read that has sent bytes is over. -/
theorem Ended.ofNotSent {starts : Nat} (ended : Ended config source starts)
    (none_ : source.txDataSent = 0) :
    (0 < source.rxDataI → Loaded config source starts .rx) ∧
      (¬ 0 < source.rxDataI →
        Cleared source ∧ Balance config source.books [] [] starts) := by
  rcases ended with ⟨cleared, balance⟩ | rx | ⟨_, _, _, counted, some_, _⟩ | ⟨_, _, tx, _⟩
  · exact ⟨fun some_ => absurd cleared.1 (Nat.ne_of_gt some_), fun _ => ⟨cleared, balance⟩⟩
  · obtain ⟨bytes, some_, holds, _⟩ := id rx
    exact ⟨fun _ => rx, fun empty => absurd (holds.pos some_) empty⟩
  · rw [none_] at counted
    exact absurd counted (Nat.ne_of_lt some_)
  · exact absurd none_ tx

/-- `xfer_complete_check` while no event is outstanding. -/
theorem Inv.completes (quiet : source.path = quietPath)
    (waiting : source.waitingForCompleteCb = none) (right : HilRight config source)
    (step : xferCompleteCheck config source = some target) : Inv config target := by
  obtain ⟨memory, rxDataI, txData, txDataLen, txDataI, txDataSent, waits, path, answer, hil, bus,
    current, fetched, sent, answered, books⟩ := source
  obtain rfl : path = quietPath := quiet
  obtain rfl : waits = none := waiting
  cases hil with
  | checkWaiting after =>
      cases step
      exact .quiet rfl rfl right
  | checkSent after =>
      obtain ⟨none_, ended⟩ := right
      cases step
      by_cases some_ : 0 < txDataSent
      · obtain ⟨rx, registered, unregistered⟩ := ended.ofSent some_
        simp only [if_pos some_]
        cases tells : config.txDone with
        | true => exact .quiet rfl rfl ⟨none_, nofun, registered tells⟩
        | false => exact .quiet rfl rfl ⟨none_, rx, unregistered tells⟩
      · simp only [if_neg some_]
        have zero : txDataSent = 0 := by
          rw [UInt32.lt_iff_toNat_lt, UInt32.toNat_zero] at some_
          exact UInt32.toNat_inj.mp (Nat.eq_zero_of_not_pos some_)
        exact .quiet rfl rfl ⟨none_, zero, ended⟩
  | checkRx after =>
      obtain ⟨none_, zero, ended⟩ := right
      obtain ⟨rx, nothing⟩ := ended.ofNotSent zero
      cases step
      by_cases some_ : 0 < rxDataI
      · simp only [if_pos some_]
        exact .quiet rfl rfl ⟨none_, nofun, rx some_⟩
      · simp only [if_neg some_]
        exact .quiet rfl rfl (.goOn rfl none_ (nothing some_).1 (nothing some_).2)
  | clear field after =>
      obtain ⟨none_, rx, balance⟩ := right
      cases field with
      | data | len | index =>
          cases step
          exact .quiet rfl rfl ⟨none_, rx, balance⟩
      | sent =>
          cases step
          exact .quiet rfl rfl (.goOn rfl none_ ⟨rx, rfl⟩ balance)
  | out code after =>
      obtain ⟨none_, isReport, loaded⟩ := right
      cases after with
      | stop =>
          cases step
          exact .unread .toIsr (.deferred isReport) none_ loaded
      | readReq | writeReq =>
          cases step
          exact .unread .toIsr (.report isReport nofun) none_ loaded
  | await => exact right.elim
  | _ => cases step

/-- `i2c_ack_read_req` goes on while no event is outstanding. -/
theorem Inv.acksRead (quiet : source.path = quietPath)
    (waiting : source.waitingForCompleteCb = none) (right : HilRight config source)
    (step : i2cAckReadReq config source = some target) : Inv config target := by
  obtain ⟨memory, rxDataI, txData, txDataLen, txDataI, txDataSent, waits, path, answer, hil, bus,
    current, fetched, sent, answered, books⟩ := source
  obtain rfl : path = quietPath := quiet
  obtain rfl : waits = none := waiting
  cases hil with
  | setTxData =>
      cases step
      exact .quiet rfl rfl right
  | txStartOut =>
      obtain ⟨none_, cleared, balance⟩ := right
      cases step
      exact .unread .toIsr (.txStart rfl) none_ ⟨cleared, balance⟩
  | txStartAwait => exact right.elim
  | resetIndex =>
      obtain ⟨none_, rx, answers, balance⟩ := right
      cases step
      exact .quiet rfl rfl ⟨none_, rx, answers, rfl, balance⟩
  | resetSent =>
      obtain ⟨none_, rx, answers, index, balance⟩ := right
      cases step
      exact .quiet rfl rfl ⟨none_, ⟨rx, rfl⟩, answers, index, balance⟩
  | checkLen =>
      obtain ⟨none_, cleared, answers, index, balance⟩ := right
      simp only [i2cAckReadReq] at step
      split at step <;> cases step
      · next some_ => exact .quiet rfl rfl ⟨none_, cleared, answers, index, some_, balance⟩
      · exact .quiet rfl rfl ⟨.inl ⟨none_, cleared⟩, balance⟩
  | checkData =>
      obtain ⟨none_, cleared, answers, index, some_, balance⟩ := right
      simp only [i2cAckReadReq] at step
      split at step <;> cases step
      · next notNull =>
        obtain ⟨⟨rx, zero⟩, ⟨data, len⟩, ⟨_, notWritten, notFetched, notSent⟩⟩ :=
          And.intro cleared (And.intro answers none_)
        obtain rfl : fetched = [] := notFetched
        obtain rfl : sent = [] := notSent
        obtain rfl : txDataSent = 0 := zero
        obtain rfl : txDataI = 0 := index
        refine .quiet rfl rfl ⟨.inr (.inr ⟨rfl, rx, ⟨⟨data, len⟩, data ▸ notNull, ?_⟩, ?_, rfl,
          ⟨rfl, rfl⟩, notWritten⟩), balance⟩
        · exact len ▸ UInt32.lt_iff_toNat_lt.mp some_
        · exact (Nat.zero_mod _).symm
      · exact .quiet rfl rfl ⟨.inl ⟨none_, cleared⟩, balance⟩
  | _ => cases step

/-- `i2c_ack_write_req` goes on while no event is outstanding. -/
theorem Inv.acksWrite (quiet : source.path = quietPath)
    (waiting : source.waitingForCompleteCb = none) (right : HilRight config source) {answer : Ack}
    (step : i2cAckWriteReq answer source = some target) : Inv config target := by
  obtain ⟨memory, rxDataI, txData, txDataLen, txDataI, txDataSent, waits, path, lastAnswer, hil,
    bus, current, fetched, sent, answered, books⟩ := source
  cases hil with
  | writeAddrReq =>
      cases step
      exact .quiet quiet waiting right
  | resetRx retval =>
      obtain ⟨⟨_, notWritten, notRead⟩, ⟨_, zero⟩, balance⟩ := right
      obtain rfl : current = [] := notWritten
      cases step
      by_cases acked : retval = .ack
      · refine .quiet quiet waiting ⟨.inr (.inl ⟨if_pos acked, zero, ?_, notRead⟩), balance⟩
        exact ⟨(Nat.zero_min _).symm, List.take_nil.symm⟩
      · exact .quiet quiet waiting ⟨.inl ⟨⟨if_neg acked, rfl, notRead⟩, rfl, zero⟩, balance⟩
  | _ => cases step

/-- A byte that has room is stored after the others. -/
theorem Holds.store {stored : List UInt8} (holds : Holds config source stored) {byte : UInt8}
    (room : stored.length < config.bufLen)
    (isStored : source.memory (config.dataBuf + UInt32.ofNat source.rxDataI) = byte) :
    Holds config { source with rxDataI := source.rxDataI + 1 } (stored ++ [byte]) := by
  have index : source.rxDataI = stored.length :=
    holds.1.trans (Nat.min_eq_left (Nat.le_of_lt room))
  constructor
  · show source.rxDataI + 1 = min (stored ++ [byte]).length config.bufLen
    rw [index, List.length_append, List.length_singleton, Nat.min_eq_left room]
  · show bytesAt source.memory config.dataBuf (source.rxDataI + 1) = _
    rw [bytesAt_succ, holds.2, isStored, List.take_of_length_le (Nat.le_of_lt room),
      List.take_of_length_le (by rw [List.length_append]; exact room)]

/-- A byte that has no room is not stored. -/
theorem Holds.full {stored : List UInt8} (holds : Holds config source stored) {byte : UInt8}
    (full : ¬ source.rxDataI < config.bufLen) : Holds config source (stored ++ [byte]) := by
  have enough : config.bufLen ≤ stored.length := by
    rw [holds.1, Nat.min_def] at full
    split at full <;> omega
  constructor
  · rw [holds.1, List.length_append, Nat.min_eq_right enough,
      Nat.min_eq_right (enough.trans (Nat.le_add_right _ _))]
  · rw [holds.2, List.take_append_of_le_length enough]

/-- `i2c_master_sent_data` while no event is outstanding. -/
theorem Inv.receives (quiet : source.path = quietPath)
    (waiting : source.waitingForCompleteCb = none) (right : HilRight config source) {answer : Ack}
    (step : i2cMasterSentData config answer source = some target) : Inv config target := by
  obtain ⟨memory, rxDataI, txData, txDataLen, txDataI, txDataSent, waits, path, lastAnswer, hil,
    bus, current, fetched, sent, answered, books⟩ := source
  cases hil with
  | store byte =>
      obtain ⟨⟨stored, isCurrent, isWriting, zero, holds, notRead⟩, balance⟩ := right
      simp only [i2cMasterSentData] at step
      split at step <;> cases step
      · next room =>
        have fits : stored.length < config.bufLen := by
          have index : rxDataI = min stored.length config.bufLen := holds.1
          omega
        refine .quiet quiet waiting ⟨⟨stored, byte, isCurrent, ⟨isWriting, zero, ?_, notRead⟩, fits,
          Function.update_self ..⟩, balance⟩
        refine ⟨holds.1, Eq.trans (bytesAt_update ?_) holds.2⟩
        intro i below same
        have equal := congrArg UInt32.toNat same
        rw [Config.toNat_dataBuf room, Config.toNat_dataBuf (below.trans room)] at equal
        exact absurd (Nat.add_left_cancel equal) (Nat.ne_of_gt below)
      · next full =>
        refine .quiet quiet waiting ⟨⟨isWriting, zero, ?_, notRead⟩, balance⟩
        rw [show current = stored ++ [byte] from isCurrent]
        exact holds.full full
  | increment =>
      obtain ⟨⟨stored, byte, isCurrent, ⟨isWriting, zero, holds, notRead⟩, room, isStored⟩,
        balance⟩ := right
      cases step
      refine .quiet quiet waiting ⟨⟨isWriting, zero, ?_, notRead⟩, balance⟩
      rw [show current = stored ++ [byte] from isCurrent]
      exact holds.store room isStored
  | respond =>
      obtain ⟨writes, balance⟩ := right
      cases step
      exact .quiet quiet waiting ⟨.inr (.inl writes), balance⟩
  | _ => cases step

theorem readAddresses_succ (answered : UInt32 × UInt32) (count : Nat) :
    readAddresses answered (count + 1) =
      readAddresses answered count ++
        [answered.1 + UInt32.ofNat (count % answered.2.toNat)] := by
  simp [readAddresses, List.range_succ]

theorem succ_mod_of_wrap {count length : Nat} (wraps : count % length + 1 = length) :
    (count + 1) % length = 0 := by
  rw [← Nat.mod_add_mod, wraps, Nat.mod_self]

theorem succ_mod_of_not_wrap {count length : Nat} (positive : 0 < length)
    (goesOn : count % length + 1 ≠ length) : (count + 1) % length = count % length + 1 := by
  rw [← Nat.mod_add_mod]
  exact Nat.mod_eq_of_lt (lt_of_le_of_ne (Nat.mod_lt count positive) goesOn)

/-- The next byte is fetched. -/
theorem Reads.fetch (reads : Reads source [] (source.indexOf source.sent.length)) :
    Reads
      { source with
        txDataI := source.txDataI + 1
        fetched := source.fetched ++
          [(source.txData + source.txDataI, source.memory (source.txData + source.txDataI))] }
      [source.memory (source.txData + source.txDataI)]
      (source.indexOf source.sent.length + 1) := by
  obtain ⟨isReading, rx, hasBytes, index, counted, ⟨addresses, bytes⟩, notWritten⟩ := reads
  have ⟨⟨data, len⟩, notNull, positive⟩ := hasBytes
  have length : source.fetched.length = source.sent.length := by
    have lengths := congrArg List.length bytes
    rwa [List.append_nil, List.length_map] at lengths
  have small : source.indexOf source.sent.length < source.answered.2.toNat :=
    Nat.mod_lt _ positive
  have fits : source.answered.2.toNat < 2 ^ 32 := source.answered.2.toNat_lt
  refine ⟨isReading, rx, hasBytes, ?_, counted, ⟨?_, ?_⟩, notWritten⟩
  · show (source.txDataI + 1).toNat = _
    rw [UInt32.toNat_add, index, UInt32.toNat_one, Nat.mod_eq_of_lt (by omega)]
  · show (source.fetched ++ [(source.txData + source.txDataI, _)]).map Prod.fst =
      readAddresses source.answered (source.fetched ++ [(_, _)]).length
    rw [List.length_append, List.length_singleton, readAddresses_succ, List.map_append, addresses,
      length, data]
    have isIndex : source.txDataI = UInt32.ofNat (source.indexOf source.sent.length) := by
      rw [← index, UInt32.ofNat_toNat]
    rw [isIndex]
    rfl
  · show (source.fetched ++ [(_, _)]).map Prod.snd = source.sent ++ [_]
    rw [List.map_append, bytes, List.append_nil]
    rfl

/-- `i2c_master_req_data` while no event is outstanding. -/
theorem Inv.sends (quiet : source.path = quietPath)
    (waiting : source.waitingForCompleteCb = none) (right : HilRight config source)
    {lastAnswer : Ack} (counts : CountsBytes source (.hil lastAnswer))
    (step : i2cMasterReqData source = some target) : Inv config target := by
  obtain ⟨memory, rxDataI, txData, txDataLen, txDataI, txDataSent, waits, path, answer, hil, bus,
    current, fetched, sent, answered, books⟩ := source
  cases hil with
  | reqLen =>
      obtain ⟨reads, balance⟩ := right
      have ⟨_, _, ⟨⟨_, len⟩, _, positive⟩, _⟩ := reads
      obtain rfl : txDataLen = answered.2 := len
      have some_ : 0 < answered.2 := UInt32.lt_iff_toNat_lt.mpr positive
      simp only [i2cMasterReqData, if_pos some_] at step
      cases step
      exact .quiet quiet waiting ⟨reads, balance⟩
  | reqData =>
      obtain ⟨reads, balance⟩ := right
      have ⟨_, _, ⟨⟨data, _⟩, notNull, _⟩, _⟩ := reads
      obtain rfl : txData = answered.1 := data
      simp only [i2cMasterReqData, if_pos notNull] at step
      cases step
      exact .quiet quiet waiting ⟨reads, balance⟩
  | fetch =>
      obtain ⟨reads, balance⟩ := right
      cases step
      exact .quiet quiet waiting ⟨reads.fetch, balance⟩
  | wrap byte =>
      obtain ⟨⟨isReading, rx, hasBytes, index, counted, fetches, notWritten⟩, balance⟩ := right
      cases step
      refine .quiet quiet waiting
        ⟨⟨isReading, rx, hasBytes, ?_, counted, fetches, notWritten⟩, balance⟩
      have ⟨⟨_, len⟩, _, positive⟩ := hasBytes
      obtain rfl : txDataLen = answered.2 := len
      have index : txDataI.toNat = sent.length % answered.2.toNat + 1 := index
      show (if txDataI = answered.2 then 0 else txDataI).toNat =
        (sent.length + 1) % answered.2.toNat
      by_cases wraps : txDataI = answered.2
      · rw [if_pos wraps, succ_mod_of_wrap (index.symm.trans (congrArg _ wraps))]
        rfl
      · rw [if_neg wraps, index, succ_mod_of_not_wrap positive]
        intro same
        exact wraps (UInt32.toNat_inj.mp (index.trans same))
  | count byte =>
      obtain ⟨⟨isReading, rx, hasBytes, index, counted, ⟨addresses, bytes⟩, notWritten⟩,
        balance⟩ := right
      have notLast : txDataSent ≠ 0xffffffff := counts rfl
      have counted : txDataSent.toNat = sent.length := counted
      have below : txDataSent.toNat + 1 < 2 ^ 32 := by
        have atMost := txDataSent.toNat_lt
        have notLast : txDataSent.toNat ≠ 0xffffffff := fun same =>
          notLast (UInt32.toNat_inj.mp same)
        omega
      cases step
      refine .quiet quiet waiting
        ⟨.inr (.inr ⟨isReading, rx, hasBytes, ?_, ?_, ⟨addresses, ?_⟩, notWritten⟩), balance⟩
      · show txDataI.toNat = (sent ++ [byte]).length % answered.2.toNat
        rw [List.length_append]
        exact index
      · show (txDataSent + 1).toNat = (sent ++ [byte]).length
        rw [UInt32.toNat_add, UInt32.toNat_one, Nat.mod_eq_of_lt below, counted, List.length_append]
        rfl
      · exact bytes.trans (List.append_nil _).symm
  | _ => cases step

theorem Inv.hil (inv : Inv config source) {answer : Ack}
    (counts : CountsBytes source (.hil answer))
    (step : i2cSlaveHilThread config answer source = some target) : Inv config target := by
  cases inv with
  | served served waits none_ handled balance =>
      exact Inv.takesAnswer served waits none_ handled balance step
  | starting starting hil waiting none_ cleared balance =>
      obtain ⟨memory, rxDataI, txData, txDataLen, txDataI, txDataSent, waits, path, lastAnswer,
        point, bus, current, fetched, sent, answered, books⟩ := source
      obtain rfl : point = .waitStart := hil
      have starting : Starting path := starting
      cases starting with
      | callback | send => cases step
      | replied =>
          cases step
          exact .quiet rfl waiting ⟨.inl ⟨none_, cleared⟩, balance⟩
  | @unread code unread waits none_ loaded =>
      obtain ⟨memory, rxDataI, txData, txDataLen, txDataI, txDataSent, pending, path, lastAnswer,
        point, bus, current, fetched, sent, answered, books⟩ := source
      have unread : Unread txData code path := unread
      have waits : Waits code pending point := waits
      cases unread <;> cases waits <;> cases step
  | quiet quiet waiting right =>
      unfold i2cSlaveHilThread at step
      split at step
      · next point =>
        rw [HilRight, point] at right
        exact right.elim
      · cases step
      iterate 6 exact Inv.completes quiet waiting right step
      iterate 7 exact Inv.acksRead quiet waiting right step
      iterate 2 exact Inv.acksWrite quiet waiting right step
      iterate 5 exact Inv.sends quiet waiting right counts step
      iterate 3 exact Inv.receives quiet waiting right step

/-- Every step that does not overflow the count keeps what the driver keeps. -/
theorem Inv.next (inv : Inv config source) {label : Label} (counts : CountsBytes source label)
    (step : next config source label = some target) : Inv config target := by
  cases label with
  | bus event => exact inv.bus step
  | hil answer => exact inv.hil counts step
  | isr => exact inv.isr step
  | app event => exact inv.app step
  | write address value =>
      simp only [I2cSlave.next] at step
      split at step <;> cases step
      next allowed => exact inv.write allowed

end FwkRtos.I2cSlave
