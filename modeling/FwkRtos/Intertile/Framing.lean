import FwkRtos.Intertile.Sender

/-!
# The messages of an intertile link stay apart

What the tasks do on the link is one block for each message: its owner takes the mutex,
puts the message on the channel, and puts the mutex.
-/

namespace FwkRtos.Intertile

open FwkRtos.Transition
open FwkRtos.Osal (Mutex)

universe u

variable {T : Type u} [DecidableEq T]

/-! ## The contract -/

/-- The messages that a task sent, of those that were sent. -/
def ofTask (task : T) (done : List (T × Message)) : List Message :=
  (done.filter fun entry => entry.1 = task).map Prod.snd

/-- What happens on the link for a message. -/
def block (entry : T × Message) : List (TxEvent T) :=
  .get entry.1 :: (entry.2.frame.map (.out entry.1) ++ [.put entry.1])

/-- The trace is a block for each message sent, and a part of one for a message that is
being sent.  These are the messages that the tasks were asked to send, but for those of
tasks that have not returned. -/
structure Framed (sender : Sender T) : Prop where
  blocks : ∃ done current, sender.trace = done.flatMap block ++ current ∧
    (∀ task, sender.point task = .idle → sender.sent task = ofTask task done) ∧
      (∀ task, ofTask task done <+: sender.sent task ∧
        (sender.sent task).length ≤ (ofTask task done).length + 1) ∧
        (current = [] ∨ ∃ entry, current <+: block entry ∧ current ≠ block entry ∧
          sender.point entry.1 ≠ .idle ∧
            sender.sent entry.1 = ofTask entry.1 done ++ [entry.2])
  notTrapped : ∀ task, sender.point task ≠ .trap

/-- The byte that an event puts on the channel. -/
def TxEvent.byte? : TxEvent T → Option UInt8
  | .out _ byte => some byte
  | .get _ | .put _ => none

/-- What was put on the channel. -/
def Sender.channel (sender : Sender T) : List UInt8 :=
  sender.trace.filterMap TxEvent.byte?

omit [DecidableEq T] in
theorem block_bytes (entry : T × Message) :
    (block entry).filterMap TxEvent.byte? = entry.2.frame := by
  have outs : (entry.2.frame.map (TxEvent.out entry.1)).filterMap TxEvent.byte? =
      entry.2.frame := by
    rw [List.filterMap_map]
    exact List.filterMap_some
  rw [block, List.filterMap_cons_none rfl, List.filterMap_append, outs]
  exact List.append_nil _

/-! ## The condition -/

/-- The last piece is not empty, if there are any. -/
def EndsFull (pieces : List (List UInt8)) : Prop :=
  pieces.getLast? ≠ some []

instance : DecidablePred EndsFull :=
  fun _ => inferInstanceAs (Decidable (_ ≠ _))

/-- A message sent in pieces has at least one, and if there are more its last byte is in the
last one. -/
def Calls.Proper : Calls → Prop
  | .tx _ => True
  | .txPieces [] => False
  | .txPieces (_ :: pieces) => EndsFull pieces

instance : DecidablePred Calls.Proper
  | .tx _ => .isTrue trivial
  | .txPieces [] => .isFalse id
  | .txPieces (_ :: pieces) => inferInstanceAs (Decidable (EndsFull pieces))

/-- Every message is sent in proper calls. -/
def SendsProperly (_ : Sender T) : TxLabel T → Prop
  | .send _ sending => sending.calls.Proper
  | .run _ => True

instance (sender : Sender T) : DecidablePred (SendsProperly sender)
  | .send _ sending => inferInstanceAs (Decidable sending.calls.Proper)
  | .run _ => .isTrue trivial

theorem EndsFull.tail {piece : List UInt8} {pieces : List (List UInt8)}
    (full : EndsFull (piece :: pieces)) : EndsFull pieces := by
  cases pieces with
  | nil => exact nofun
  | cons second pieces =>
      rw [EndsFull, List.getLast?_cons_cons] at full
      exact full

theorem EndsFull.nil_of_flatten {pieces : List (List UInt8)} (full : EndsFull pieces)
    (nothing : pieces.flatten = []) : pieces = [] := by
  by_contra some_
  have last := List.getLast?_eq_some_getLast some_
  have empty : pieces.getLast some_ = [] :=
    List.flatten_eq_nil_iff.mp nothing _ (List.getLast_mem some_)
  rw [empty] at last
  exact full last

/-! ## What is kept -/

/-- What the task has still to put on the channel. -/
def TxPoint.left : TxPoint → List UInt8
  | .idle | .txPut | .dataPut _ | .trap => []
  | .txGet message | .txPort message => message.frame
  | .txWord message => wordBytes message.len ++ message.bytes
  | .txBytes rest => rest
  | .lenGet message _ | .lenAssert message _ | .lenStore message _ | .lenPort message _ =>
      message.frame
  | .lenWord message _ => wordBytes message.len ++ message.bytes
  | .dataLen piece pieces => (piece :: pieces).flatten
  | .dataBytes rest _ pieces => rest ++ pieces.flatten
  | .dataSub _ pieces | .dataTest pieces => pieces.flatten

/-- The task has the mutex. -/
def TxPoint.owns : TxPoint → Bool
  | .idle | .txGet _ | .lenGet _ _ | .trap => false
  | _ => true

/-- What the task finds in `tx_len`. -/
def TxPoint.txLen : TxPoint → Nat
  | .lenPort message _ | .lenWord message _ => message.bytes.length
  | .dataLen piece pieces => (piece :: pieces).flatten.length
  | .dataBytes _ txLen pieces | .dataSub txLen pieces => txLen.toNat + pieces.flatten.length
  | .dataTest pieces => pieces.flatten.length
  | _ => 0

/-- The calls that the task has still to make are proper. -/
def TxPoint.Proper : TxPoint → Prop
  | .lenGet message pieces | .lenAssert message pieces | .lenStore message pieces
  | .lenPort message pieces | .lenWord message pieces =>
      message.bytes = pieces.flatten ∧ (Calls.txPieces pieces).Proper
  | .dataLen _ pieces | .dataBytes _ _ pieces | .dataSub _ pieces | .dataTest pieces =>
      EndsFull pieces
  | .dataPut pieces => pieces = []
  | .trap => False
  | _ => True

/-- The task is idle, or waits for the mutex. -/
structure Waits (sender : Sender T) (done : List (T × Message)) (task : T) : Prop where
  owns : (sender.point task).owns = false
  proper : (sender.point task).Proper
  idle : sender.point task = .idle → sender.sent task = ofTask task done
  busy : sender.point task ≠ .idle → ∃ message,
    sender.sent task = ofTask task done ++ [message] ∧ message.frame = (sender.point task).left

/-- The task has the mutex, and has put a part of its message on the channel. -/
structure Owns (sender : Sender T) (done : List (T × Message)) (task : T) (message : Message)
    (past : List UInt8) : Prop where
  trace : sender.trace = done.flatMap block ++ .get task :: past.map (.out task)
  txLen : sender.txLen.toNat = (sender.point task).txLen
  owns : (sender.point task).owns = true
  proper : (sender.point task).Proper
  sent : sender.sent task = ofTask task done ++ [message]
  frame : message.frame = past ++ (sender.point task).left

/-- What the link keeps. -/
inductive TxInv (sender : Sender T) : Prop
  | free (done : List (T × Message)) (lock : sender.lock.holder = none)
      (trace : sender.trace = done.flatMap block) (txLen : sender.txLen = 0)
      (waits : ∀ task, Waits sender done task)
  | held (done : List (T × Message)) (owner : T) (message : Message) (past : List UInt8)
      (lock : sender.lock.holder = some owner) (owns : Owns sender done owner message past)
      (waits : ∀ task, task ≠ owner → Waits sender done task)

theorem txInv_start : TxInv (startTx : Sender T) :=
  .free [] rfl rfl rfl fun _ => ⟨rfl, trivial, fun _ => rfl, fun busy => absurd rfl busy⟩

variable {sender target : Sender T} {done : List (T × Message)}

/-- A task that waits does not mind what the others do. -/
theorem Waits.frame {task : T} (waits : Waits sender done task)
    (point : target.point task = sender.point task) (sent : target.sent task = sender.sent task) :
    Waits target done task := by
  constructor
  · rw [point]
    exact waits.owns
  · rw [point]
    exact waits.proper
  · rw [point, sent]
    exact waits.idle
  · rw [point, sent]
    exact waits.busy

/-- The owner of the mutex goes on. -/
theorem TxInv.moves {owner : T} {message : Message} {past bytes : List UInt8} {point : TxPoint}
    (lock : sender.lock.holder = some owner) (owns : Owns sender done owner message past)
    (waits : ∀ task, task ≠ owner → Waits sender done task)
    (sameLock : target.lock = sender.lock) (sameSent : target.sent = sender.sent)
    (trace : target.trace = sender.trace ++ bytes.map (.out owner))
    (goesTo : target.point = Function.update sender.point owner point)
    (txLen : target.txLen.toNat = point.txLen) (stillOwns : point.owns = true)
    (proper : point.Proper) (left : (sender.point owner).left = bytes ++ point.left) :
    TxInv target := by
  have isPoint : target.point owner = point := by rw [goesTo, Function.update_self]
  refine .held done owner message (past ++ bytes) (by rw [sameLock, lock]) ?_ ?_
  · constructor
    · rw [trace, owns.trace, List.map_append, List.append_assoc, List.cons_append]
    · rw [isPoint, txLen]
    · rw [isPoint, stillOwns]
    · rw [isPoint]
      exact proper
    · rw [sameSent]
      exact owns.sent
    · rw [isPoint, owns.frame, left, List.append_assoc]
  · intro task other
    refine (waits task other).frame ?_ (congrFun sameSent task)
    rw [goesTo, Function.update_of_ne other]

theorem ofTask_append (task : T) (done : List (T × Message)) (owner : T) (message : Message) :
    ofTask task (done ++ [(owner, message)]) =
      if owner = task then ofTask task done ++ [message] else ofTask task done := by
  simp only [ofTask, List.filter_append, List.map_append]
  by_cases isOwner : owner = task
  · simp [isOwner]
  · simp [isOwner]

/-- The owner puts the mutex, and its message is sent. -/
theorem TxInv.puts {owner : T} {message : Message} {past : List UInt8}
    (owns : Owns sender done owner message past)
    (waits : ∀ task, task ≠ owner → Waits sender done task)
    (left : (sender.point owner).left = []) (txLen : (sender.point owner).txLen = 0) :
    TxInv ((sender.put owner).goTo owner .idle) := by
  have whole : message.frame = past := by rw [owns.frame, left, List.append_nil]
  refine .free (done ++ [(owner, message)]) rfl ?_ ?_ ?_
  · show sender.trace ++ [.put owner] = _
    rw [owns.trace, List.flatMap_append, List.flatMap_singleton, block, whole, List.append_assoc,
      List.cons_append]
  · exact UInt32.toNat_inj.mp (owns.txLen.trans txLen)
  · intro task
    by_cases isOwner : task = owner
    · subst isOwner
      have idle : ((sender.put task).goTo task .idle).point task = .idle :=
        Function.update_self ..
      constructor
      · rw [idle]
        rfl
      · rw [idle]
        trivial
      · intro _
        rw [ofTask_append, if_pos rfl]
        exact owns.sent
      · intro busy
        exact absurd idle busy
    · have others : Waits ((sender.put owner).goTo owner .idle) done task :=
        (waits task isOwner).frame (Function.update_of_ne isOwner ..) rfl
      have same : ofTask task (done ++ [(owner, message)]) = ofTask task done := by
        rw [ofTask_append, if_neg (Ne.symm isOwner)]
      exact ⟨others.owns, others.proper, same ▸ others.idle, same ▸ others.busy⟩

/-- A task that waited takes the mutex. -/
theorem TxInv.gets {task : T} {point : TxPoint} (trace : sender.trace = done.flatMap block)
    (txLen : sender.txLen = 0) (waits : ∀ task, Waits sender done task)
    (busy : sender.point task ≠ .idle) (owns : point.owns = true) (proper : point.Proper)
    (left : (sender.point task).left = point.left) (none_ : point.txLen = 0) :
    TxInv ((sender.take task ⟨some task⟩).goTo task point) := by
  obtain ⟨message, sent, frame⟩ := (waits task).busy busy
  have isPoint : ((sender.take task ⟨some task⟩).goTo task point).point task = point :=
    Function.update_self ..
  refine .held done task message [] rfl ?_ ?_
  · constructor
    · show sender.trace ++ [.get task] = _
      rw [trace]
      rfl
    · rw [isPoint, none_]
      exact congrArg UInt32.toNat txLen
    · rw [isPoint, owns]
    · rw [isPoint]
      exact proper
    · exact sent
    · rw [isPoint, ← left, frame, List.nil_append]
  · intro other different
    exact (waits other).frame (Function.update_of_ne different ..) rfl

/-- A task begins to send. -/
theorem TxInv.sends (inv : TxInv sender) {task : T} {sending : Sending}
    (proper : sending.calls.Proper) (idle : sender.point task = .idle) :
    TxInv ((sender.ask task sending.message).goTo task sending.begin) := by
  have begins : sending.begin.owns = false ∧ sending.begin.Proper ∧ sending.begin ≠ .idle ∧
      sending.message.frame = sending.begin.left := by
    obtain ⟨port, calls, fits⟩ := sending
    cases calls with
    | tx msg => exact ⟨rfl, trivial, nofun, rfl⟩
    | txPieces pieces => exact ⟨rfl, ⟨rfl, proper⟩, nofun, rfl⟩
  have itself : ∀ {done}, Waits sender done task →
      Waits ((sender.ask task sending.message).goTo task sending.begin) done task := by
    intro done waits
    have isPoint : ((sender.ask task sending.message).goTo task sending.begin).point task =
        sending.begin := Function.update_self ..
    constructor
    · rw [isPoint]
      exact begins.1
    · rw [isPoint]
      exact begins.2.1
    · intro isIdle
      exact absurd (isPoint.symm.trans isIdle) begins.2.2.1
    · intro _
      refine ⟨sending.message, ?_, ?_⟩
      · rw [← waits.idle idle]
        exact Function.update_self ..
      · rw [isPoint]
        exact begins.2.2.2
  have others : ∀ {done other}, other ≠ task → Waits sender done other →
      Waits ((sender.ask task sending.message).goTo task sending.begin) done other := by
    intro done other different waits
    exact waits.frame (Function.update_of_ne different ..) (Function.update_of_ne different ..)
  cases inv with
  | free done lock trace txLen waits =>
      refine .free done lock trace txLen fun other => ?_
      by_cases same : other = task
      · subst same
        exact itself (waits other)
      · exact others same (waits other)
  | held done owner message past lock owns waits =>
      have different : task ≠ owner := by
        rintro rfl
        have isOwner := owns.owns
        rw [idle] at isOwner
        cases isOwner
      have sameOwner := different.symm
      refine .held done owner message past lock ?_ ?_
      · have isPoint : ((sender.ask task sending.message).goTo task sending.begin).point owner =
            sender.point owner := Function.update_of_ne sameOwner ..
        constructor
        · exact owns.trace
        · rw [isPoint]
          exact owns.txLen
        · rw [isPoint]
          exact owns.owns
        · rw [isPoint]
          exact owns.proper
        · exact (Function.update_of_ne sameOwner ..).trans owns.sent
        · rw [isPoint]
          exact owns.frame
      · intro other notOwner
        by_cases same : other = task
        · subst same
          exact itself (waits other notOwner)
        · exact others same (waits other notOwner)

/-- The owner of the mutex takes a step. -/
theorem TxInv.ownerRuns {owner : T} {message : Message} {past : List UInt8}
    (lock : sender.lock.holder = some owner) (owns : Owns sender done owner message past)
    (waits : ∀ task, task ≠ owner → Waits sender done task)
    (step : runTx sender owner = some target) : TxInv target := by
  have txLen := owns.txLen
  have isOwner := owns.owns
  have proper := owns.proper
  have silent : sender.trace = sender.trace ++ ([] : List UInt8).map (.out owner) :=
    (List.append_nil _).symm
  cases point : sender.point owner <;> rw [point] at txLen isOwner proper <;>
    simp only [runTx, rtosIntertileTx, rtosIntertileTxLen, rtosIntertileTxData, point] at step
  case idle | txGet | lenGet | trap => cases isOwner
  case txPort message' =>
    cases step
    exact .moves lock owns waits rfl rfl rfl rfl txLen rfl trivial (by rw [point]; rfl)
  case txWord message' =>
    cases step
    exact .moves lock owns waits rfl rfl rfl rfl txLen rfl trivial (by rw [point]; rfl)
  case txBytes rest =>
    cases rest with
    | nil =>
        cases step
        exact .moves lock owns waits rfl rfl silent rfl txLen rfl trivial (by rw [point]; rfl)
    | cons byte rest =>
        cases step
        exact .moves lock owns waits rfl rfl rfl rfl txLen rfl trivial (by rw [point]; rfl)
  case txPut =>
    cases step
    exact .puts owns waits (by rw [point]; rfl) (by rw [point]; rfl)
  case lenAssert message' pieces =>
    have none_ : sender.txLen = 0 := UInt32.toNat_inj.mp txLen
    rw [if_pos none_] at step
    cases step
    exact .moves lock owns waits rfl rfl silent rfl txLen rfl proper (by rw [point]; rfl)
  case lenStore message' pieces =>
    cases step
    exact .moves lock owns waits rfl rfl silent rfl message'.toNat_len rfl proper
      (by rw [point]; rfl)
  case lenPort message' pieces =>
    cases step
    exact .moves lock owns waits rfl rfl rfl rfl txLen rfl proper (by rw [point]; rfl)
  case lenWord message' pieces =>
    obtain ⟨bytes, proper⟩ := proper
    cases pieces with
    | nil => exact proper.elim
    | cons piece pieces =>
        cases step
        refine .moves lock owns waits rfl rfl rfl rfl ?_ rfl proper ?_
        · exact txLen.trans (congrArg List.length bytes)
        · rw [point]
          exact congrArg (wordBytes message'.len ++ ·) bytes
  case dataLen piece pieces =>
    have small : piece.length ≤ sender.txLen.toNat := by
      rw [txLen]
      show _ ≤ (piece :: pieces).flatten.length
      rw [List.flatten_cons, List.length_append]
      exact Nat.le_add_right _ _
    have fits : (UInt32.ofNat piece.length).toNat = piece.length := by
      rw [UInt32.toNat_ofNat', Nat.mod_eq_of_lt (small.trans_lt sender.txLen.toNat_lt)]
    have atMost : UInt32.ofNat piece.length ≤ sender.txLen := by
      rw [UInt32.le_iff_toNat_le, fits]
      exact small
    rw [if_pos atMost, fits, List.take_length] at step
    cases step
    refine .moves lock owns waits rfl rfl silent rfl ?_ rfl proper (by rw [point]; rfl)
    show sender.txLen.toNat = (UInt32.ofNat piece.length).toNat + pieces.flatten.length
    rw [txLen, fits]
    show (piece :: pieces).flatten.length = _
    rw [List.flatten_cons, List.length_append]
  case dataBytes rest sends pieces =>
    cases rest with
    | nil =>
        cases step
        exact .moves lock owns waits rfl rfl silent rfl txLen rfl proper (by rw [point]; rfl)
    | cons byte rest =>
        cases step
        exact .moves lock owns waits rfl rfl rfl rfl txLen rfl proper (by rw [point]; rfl)
  case dataSub sends pieces =>
    cases step
    refine .moves lock owns waits rfl rfl silent rfl ?_ rfl proper (by rw [point]; rfl)
    have enough : sends ≤ sender.txLen := by
      rw [UInt32.le_iff_toNat_le, txLen]
      exact Nat.le_add_right _ _
    show (sender.txLen - sends).toNat = pieces.flatten.length
    rw [UInt32.toNat_sub_of_le _ _ enough, txLen]
    exact Nat.add_sub_cancel_left _ _
  case dataTest pieces =>
    by_cases none_ : sender.txLen = 0
    · rw [if_pos none_] at step
      cases step
      have nothing : pieces.flatten = [] := by
        rw [none_] at txLen
        exact List.length_eq_zero_iff.mp txLen.symm
      refine .moves lock owns waits rfl rfl silent rfl (congrArg UInt32.toNat none_) rfl
        (proper.nil_of_flatten nothing) ?_
      rw [point]
      exact nothing
    · rw [if_neg none_] at step
      cases pieces with
      | nil => exact absurd (UInt32.toNat_inj.mp txLen) none_
      | cons piece pieces =>
          cases step
          exact .moves lock owns waits rfl rfl silent rfl txLen rfl proper.tail (by rw [point]; rfl)
  case dataPut pieces =>
    obtain rfl : pieces = [] := proper
    cases step
    exact .puts owns waits (by rw [point]; rfl) (by rw [point]; rfl)

/-- A task that does not own the mutex takes a step: it takes the mutex. -/
theorem TxInv.waiterRuns {task : T} (waits : Waits sender done task)
    (step : runTx sender task = some target) :
    sender.lock.holder = none ∧ sender.point task ≠ .idle ∧
      ∃ point : TxPoint, target = (sender.take task ⟨some task⟩).goTo task point ∧
        point.owns = true ∧ point.Proper ∧ (sender.point task).left = point.left ∧
          point.txLen = 0 := by
  have notOwner := waits.owns
  have proper := waits.proper
  cases point : sender.point task <;> rw [point] at notOwner proper <;>
    simp only [runTx, rtosIntertileTx, rtosIntertileTxLen, point] at step
  case txGet message =>
    simp only [Sender.get?, Option.map_map, Option.map_eq_some_iff, Mutex.get?_eq_some_iff] at step
    obtain ⟨_, ⟨free, rfl⟩, rfl⟩ := step
    exact ⟨free, by rintro ⟨⟩, _, rfl, rfl, trivial, rfl, rfl⟩
  case lenGet message pieces =>
    simp only [Sender.get?, Option.map_map, Option.map_eq_some_iff, Mutex.get?_eq_some_iff] at step
    obtain ⟨_, ⟨free, rfl⟩, rfl⟩ := step
    exact ⟨free, by rintro ⟨⟩, _, rfl, rfl, proper, rfl, rfl⟩
  case idle | trap => cases step
  all_goals cases notOwner

theorem TxInv.runs (inv : TxInv sender) {task : T} (step : runTx sender task = some target) :
    TxInv target := by
  cases inv with
  | free done lock trace txLen waits =>
      obtain ⟨_, busy, point, rfl, owns, proper, left, none_⟩ :=
        TxInv.waiterRuns (waits task) step
      exact .gets trace txLen waits busy owns proper left none_
  | held done owner message past lock owns waits =>
      by_cases isOwner : task = owner
      · subst isOwner
        exact TxInv.ownerRuns lock owns waits step
      · obtain ⟨free, _⟩ := TxInv.waiterRuns (waits task isOwner) step
        exact absurd (lock.symm.trans free) nofun

theorem TxInv.next (inv : TxInv sender) {label : TxLabel T} (proper : SendsProperly sender label)
    (step : nextTx sender label = some target) : TxInv target := by
  cases label with
  | send task sending =>
      simp only [nextTx] at step
      split at step <;> cases step
      next idle => exact inv.sends proper idle
  | run task => exact inv.runs step

/-! ## It implies the contract -/

theorem Waits.sent {task : T} (waits : Waits sender done task) :
    ofTask task done <+: sender.sent task ∧
      (sender.sent task).length ≤ (ofTask task done).length + 1 := by
  by_cases idle : sender.point task = .idle
  · rw [waits.idle idle]
    exact ⟨List.prefix_refl _, Nat.le_succ _⟩
  · obtain ⟨message, sent, _⟩ := waits.busy idle
    rw [sent, List.length_append]
    exact ⟨List.prefix_append _ _, Nat.le_refl _⟩

theorem Owns.current {owner : T} {message : Message} {past : List UInt8}
    (owns : Owns sender done owner message past) :
    .get owner :: past.map (.out owner) <+: block (owner, message) ∧
      .get owner :: past.map (.out owner) ≠ block (owner, message) := by
  have length : past.length ≤ message.frame.length := by
    rw [owns.frame, List.length_append]
    exact Nat.le_add_right _ _
  constructor
  · rw [block, owns.frame, List.map_append, List.append_assoc]
    exact List.cons_prefix_cons.mpr ⟨rfl, List.prefix_append _ _⟩
  · intro same
    have lengths := congrArg List.length same
    simp only [block, List.length_cons, List.length_append, List.length_map, List.length_nil]
      at lengths
    omega

theorem TxInv.framed (inv : TxInv sender) : Framed sender := by
  cases inv with
  | free done lock trace txLen waits =>
      constructor
      · exact ⟨done, [], trace.trans (List.append_nil _).symm, fun task => (waits task).idle,
          fun task => (waits task).sent, .inl rfl⟩
      · intro task trapped
        have proper := (waits task).proper
        rw [trapped] at proper
        exact proper
  | held done owner message past lock owns waits =>
      have busy : sender.point owner ≠ .idle := by
        intro idle
        have isOwner := owns.owns
        rw [idle] at isOwner
        cases isOwner
      constructor
      · refine ⟨done, _, owns.trace, ?_, ?_, .inr ⟨(owner, message), owns.current.1,
          owns.current.2, busy, owns.sent⟩⟩
        · intro task idle
          by_cases isOwner : task = owner
          · exact absurd (isOwner ▸ idle) busy
          · exact (waits task isOwner).idle idle
        · intro task
          by_cases isOwner : task = owner
          · subst isOwner
            rw [owns.sent, List.length_append]
            exact ⟨List.prefix_append _ _, Nat.le_refl _⟩
          · exact (waits task isOwner).sent
      · intro task trapped
        by_cases isOwner : task = owner
        · subst isOwner
          have proper := owns.proper
          rw [trapped] at proper
          exact proper
        · have proper := (waits task isOwner).proper
          rw [trapped] at proper
          exact proper

/-- In every run in which messages are sent in proper calls, they stay apart: each has a
block of its own on the link, its owner alone puts the mutex, once, and the assertion that
`tx_len` is zero never fails. -/
theorem sends_framed {labels : List (TxLabel T)}
    (proper : StepsMeet nextTx startTx labels SendsProperly) :
    StatesSatisfy nextTx (startTx : Sender T) labels Framed := by
  refine proper.statesSatisfy txInv_start ?_ ?_
  · intro source target label inv proper step
    exact inv.next proper step
  · intro sender inv
    exact inv.framed

/-! ## An empty piece at the end -/

/-- So many steps of a task. -/
def txSteps (task : T) (count : Nat) : List (TxLabel T) :=
  List.replicate count (.run task)

/-- A message of one byte, sent in an empty piece and one with the byte. -/
def emptyFirst : Sending where
  port := 3
  calls := .txPieces [[], [1]]
  fits := by decide

/-- The same message with the empty piece at the end. -/
def emptyLast : Sending where
  port := 3
  calls := .txPieces [[1], []]
  fits := by decide

/-- A message sent at once. -/
def atOnce : Sending where
  port := 4
  calls := .tx [9]
  fits := by decide

/-- Task 1 waits for the mutex while task 0 sends. -/
def twoSenders : List (TxLabel (Fin 2)) :=
  [.send 0 emptyFirst, .send 1 atOnce] ++ txSteps 0 15 ++ txSteps 1 6

theorem twoSenders_framed :
    (run nextTx (startTx : Sender (Fin 2)) twoSenders).isSome ∧
      StatesSatisfy nextTx (startTx : Sender (Fin 2)) twoSenders Framed :=
  ⟨by decide +kernel, sends_framed (by decide +kernel)⟩

/-- Before its empty piece task 0 has put the mutex, and task 1 has taken it. -/
def emptyPieceLate : List (TxLabel (Fin 2)) :=
  [.send 0 emptyLast] ++ txSteps 0 11 ++ [.send 1 atOnce] ++ txSteps 1 1 ++ txSteps 0 5

theorem count_out (event : TxEvent T) (notOut : ∀ task byte, event ≠ .out task byte) (task : T)
    (bytes : List UInt8) : (bytes.map (TxEvent.out task)).count event = 0 := by
  rw [List.count_eq_zero]
  intro member
  obtain ⟨byte, _, same⟩ := List.mem_map.mp member
  exact notOut task byte same.symm

/-- In a block the mutex is taken and put once, by the same task. -/
theorem count_block (entry : T × Message) (task : T) :
    (block entry).count (.put task) = [entry.1].count task ∧
      (block entry).count (.get task) = [entry.1].count task := by
  simp only [block, List.count_cons, List.count_append, List.count_nil,
    count_out (.put task) nofun, count_out (.get task) nofun]
  constructor
  · simp
  · simp

/-- A task puts the mutex at most as often as it takes it. -/
theorem Framed.puts_le_gets (framed : Framed sender) (task : T) :
    sender.trace.count (.put task) ≤ sender.trace.count (.get task) := by
  obtain ⟨done, current, trace, _, _, rest⟩ := framed.blocks
  have blocks : (done.flatMap block).count (.put task) =
      (done.flatMap block).count (.get task) := by
    rw [List.count_flatMap, List.count_flatMap]
    congr 1
    apply List.map_congr_left
    intro entry _
    exact (count_block entry task).1.trans (count_block entry task).2.symm
  rw [trace, List.count_append, List.count_append, blocks]
  apply Nat.add_le_add_left
  rcases rest with rfl | ⟨entry, isPrefix, _, _⟩
  · exact Nat.le_refl 0
  · cases current with
    | nil => exact Nat.le_refl 0
    | cons first current =>
        obtain ⟨rfl, _⟩ := List.cons_prefix_cons.mp isPrefix
        have atMost := isPrefix.sublist.count_le (.put task)
        rw [(count_block entry task).1] at atMost
        refine atMost.trans ?_
        by_cases same : entry.1 = task
        · simp [same]
        · simp [same]

theorem emptyPieceLate_executed :
    ∃ sender, run nextTx (startTx : Sender (Fin 2)) emptyPieceLate = some sender ∧
      sender.trace.count (.get 0) < sender.trace.count (.put 0) ∧ sender.lock.holder = none ∧
        sender.point 1 = .txPort atOnce.message := by
  have executed : (run nextTx (startTx : Sender (Fin 2)) emptyPieceLate).map (fun sender =>
      decide (sender.trace.count (.get 0) < sender.trace.count (.put 0) ∧
        sender.lock.holder = none ∧ sender.point 1 = .txPort atOnce.message)) = some true := by
    decide +kernel
  obtain ⟨sender, executed, holds⟩ := Option.map_eq_some_iff.mp executed
  exact ⟨sender, executed, of_decide_eq_true holds⟩

/-- Task 0 puts the mutex a second time, which by then is task 1's. -/
theorem emptyPieceLate_not_framed :
    ¬ StatesSatisfy nextTx (startTx : Sender (Fin 2)) emptyPieceLate Framed := by
  intro framed
  obtain ⟨sender, executed, more, _⟩ := emptyPieceLate_executed
  have atMost := (framed (List.prefix_refl _) executed).puts_le_gets 0
  exact absurd more (Nat.not_lt.mpr atMost)

end FwkRtos.Intertile
