import FwkRtos.Intertile.Framing
import FwkRtos.Intertile.Receiving

/-!
# A link between two tiles

The tasks of one tile put their messages on the channel byte by byte, while bytes that were
put there before arrive on the other tile and are read.  What the receiving side has to do
with is then the same as if each message had been sent at once when its first byte was.
-/

namespace FwkRtos.Intertile

open FwkRtos.Transition
open FwkRtos.Osal (Mutex Timeout rtosOsalPortWaitForever)

universe u v

/-- One direction of the link: the tasks that send, and those that listen. -/
structure Link (S : Type u) (T : Type v) where
  tx : Sender S
  rx : Receiver T

/-- The tasks of one tile send, those of the other receive. -/
inductive LinkLabel (S : Type u) (T : Type v)
  | tx (label : TxLabel S)
  | rx (label : RxLabel T)

section

variable {S : Type u} {T : Type v} [DecidableEq S] [DecidableEq T]

/-- What is put on the channel by the sending side goes on the wire. -/
def nextLink (listeners : Listeners T) : LStep (Link S T) (LinkLabel S T)
  | link, .tx label =>
      (nextTx link.tx label).map fun tx =>
        let output := tx.channel.drop link.tx.channel.length
        { tx := tx, rx := { link.rx with wire := link.rx.wire ++ output } }
  | _, .rx (.send _ _ _) => none
  | link, .rx label => (nextRx listeners link.rx label).map fun rx => { link with rx := rx }

def startLink : Link S T where
  tx := startTx
  rx := startRx

/-- Messages are sent in proper calls to ports on which a task listens, and the calls of
the listeners return right. -/
def LinkRight (listeners : Listeners T) (link : Link S T) : LinkLabel S T → Prop
  | .tx (.send _ sending) => sending.calls.Proper ∧ ∃ task, listeners.port task = sending.port
  | .tx (.run _) => True
  | .rx label => ListensRight link.rx label

/-! ## Messages are told apart -/

omit [DecidableEq S] [DecidableEq T]

/-- No message is a proper prefix of another. -/
theorem frame_append_inj {first second : Message} {more others : List UInt8}
    (same : first.frame ++ more = second.frame ++ others) : first = second ∧ more = others := by
  rw [Message.frame, Message.frame, List.cons_append, List.cons_append, List.append_assoc,
    List.append_assoc] at same
  obtain ⟨port, same⟩ := List.cons.inj same
  obtain ⟨words, same⟩ := List.append_inj same (by rw [length_wordBytes, length_wordBytes])
  have lens : first.len = second.len := by
    rw [← wordOfBytes_wordBytes first.len, words, wordOfBytes_wordBytes]
  have lengths : first.bytes.length = second.bytes.length := by
    rw [← first.toNat_len, lens, second.toNat_len]
  obtain ⟨bytes, rest⟩ := List.append_inj same lengths
  refine ⟨?_, rest⟩
  cases first
  cases second
  simp_all

theorem frame_ne_nil (message : Message) : message.frame ≠ [] :=
  List.cons_ne_nil _ _

/-- What is on the channel shows the messages in their order. -/
theorem frames_inj {first : List (Entry S)} {second : List (Entry T)}
    (same : frames first = frames second) : first.map Prod.snd = second.map Prod.snd := by
  induction first generalizing second with
  | nil =>
      cases second with
      | nil => rfl
      | cons entry second =>
          rw [frames_cons] at same
          exact absurd (List.append_eq_nil_iff.mp same.symm).1 (frame_ne_nil entry.2)
  | cons one first ih =>
      rw [frames_cons] at same
      cases second with
      | nil => exact absurd (List.append_eq_nil_iff.mp same).1 (frame_ne_nil one.2)
      | cons entry second =>
          rw [frames_cons] at same
          obtain ⟨isMessage, rest⟩ := frame_append_inj same
          rw [List.map_cons, List.map_cons, isMessage, ih rest]

/-- A part of a message is no message. -/
theorem frames_of_part {done : List (Entry S)} {entries : List (Entry T)}
    {past : List UInt8} {message : Message} {left : List UInt8} (some_ : left ≠ [])
    (frame : message.frame = past ++ left) (same : frames done ++ past = frames entries) :
    done.map Prod.snd = entries.map Prod.snd ∧ past = [] := by
  induction done generalizing entries with
  | nil =>
      cases entries with
      | nil => exact ⟨rfl, same⟩
      | cons entry entries =>
          -- The message would go on behind the end of another.
          have behind : entry.2.frame ++ (frames entries ++ left) = message.frame ++ [] := by
            rw [List.append_nil, frame, ← List.append_assoc, ← frames_cons]
            exact congrArg (· ++ left) same.symm
          have nothing := (frame_append_inj behind).2
          exact absurd (List.append_eq_nil_iff.mp nothing).2 some_
  | cons one done ih =>
      rw [frames_cons, List.append_assoc] at same
      cases entries with
      | nil => exact absurd (List.append_eq_nil_iff.mp same).1 (frame_ne_nil one.2)
      | cons entry entries =>
          rw [frames_cons] at same
          obtain ⟨isMessage, rest⟩ := frame_append_inj same
          obtain ⟨others, nothing⟩ := ih rest
          rw [List.map_cons, List.map_cons, isMessage, others]
          exact ⟨rfl, nothing⟩

end

/-! ## What the sending side does -/

/-- The port of the message is on the channel. -/
def TxPoint.opened : TxPoint → Bool
  | .txWord _ | .txBytes _ | .txPut | .lenWord _ _ | .dataLen _ _ | .dataBytes _ _ _
  | .dataSub _ _ | .dataTest _ | .dataPut _ => true
  | .idle | .txGet _ | .txPort _ | .lenGet _ _ | .lenAssert _ _ | .lenStore _ _ | .lenPort _ _
  | .trap => false

/-- The message of a task, while nothing of it is on the channel. -/
def TxPoint.unopened : TxPoint → Option Message
  | .txGet message | .txPort message | .lenGet message _ | .lenAssert message _
  | .lenStore message _ | .lenPort message _ => some message
  | .idle | .txWord _ | .txBytes _ | .txPut | .lenWord _ _ | .dataLen _ _ | .dataBytes _ _ _
  | .dataSub _ _ | .dataTest _ | .dataPut _ | .trap => none

section

variable {S : Type u} [DecidableEq S] {sender target : Sender S}

omit [DecidableEq S] in
/-- What is to follow of the message of which a part is on the channel. -/
def Sender.rest (sender : Sender S) : List UInt8 :=
  match sender.lock.holder with
  | some owner => if (sender.point owner).opened = true then (sender.point owner).left else []
  | none => []

omit [DecidableEq S] in
theorem Sender.rest_of_none (free : sender.lock.holder = none) : sender.rest = [] := by
  rw [Sender.rest, free]

omit [DecidableEq S] in
theorem Sender.rest_of_some {owner : S} (lock : sender.lock.holder = some owner) :
    sender.rest =
      if (sender.point owner).opened = true then (sender.point owner).left else [] := by
  rw [Sender.rest, lock]

/-- What a step of the sending side puts on the channel: more of the message of which a part
is there, or the begin of one. -/
inductive Outputs (sender target : Sender S) : Prop
  | more (bytes : List UInt8) (channel : target.channel = sender.channel ++ bytes)
      (rest : sender.rest = bytes ++ target.rest)
  | opens (bytes : List UInt8) (message : Message) (task : S)
      (unopened : (sender.point task).unopened = some message)
      (channel : target.channel = sender.channel ++ bytes) (none_ : sender.rest = [])
      (frame : message.frame = bytes ++ target.rest)

omit [DecidableEq S] in
theorem channel_append {bytes : List UInt8} {owner : S}
    (trace : target.trace = sender.trace ++ bytes.map (.out owner)) :
    target.channel = sender.channel ++ bytes := by
  rw [Sender.channel, trace, List.filterMap_append, List.filterMap_map]
  exact congrArg (sender.channel ++ ·) List.filterMap_some

/-- The owner of the mutex puts more on the channel. -/
theorem Outputs.moves {owner : S} {bytes : List UInt8} {point : TxPoint}
    (lock : sender.lock.holder = some owner) (sameLock : target.lock = sender.lock)
    (trace : target.trace = sender.trace ++ bytes.map (.out owner))
    (goesTo : target.point = Function.update sender.point owner point)
    (opened : (sender.point owner).opened = point.opened)
    (left : (sender.point owner).left = bytes ++ point.left)
    (silent : point.opened = true ∨ bytes = []) : Outputs sender target := by
  refine .more bytes (channel_append trace) ?_
  rw [Sender.rest_of_some lock, Sender.rest_of_some (sameLock ▸ lock), goesTo,
    Function.update_self, opened]
  rcases silent with isOpen | rfl
  · rw [if_pos isOpen, if_pos isOpen]
    exact left
  · rw [left]
    rfl

/-- The owner of the mutex puts the port of its message on the channel. -/
theorem Outputs.port {owner : S} {message : Message} {point : TxPoint}
    (lock : sender.lock.holder = some owner)
    (unopened : (sender.point owner).unopened = some message)
    (notOpened : (sender.point owner).opened = false) (opened : point.opened = true)
    (frame : message.frame = message.port :: point.left) :
    Outputs sender ((sender.output owner [message.port]).goTo owner point) := by
  refine .opens [message.port] message owner unopened (channel_append rfl) ?_ ?_
  · rw [Sender.rest_of_some lock, notOpened]
    rfl
  · have isPoint : ((sender.output owner [message.port]).goTo owner point).point owner = point :=
      Function.update_self ..
    have still : ((sender.output owner [message.port]).goTo owner point).lock.holder =
        some owner := lock
    rw [Sender.rest_of_some still, isPoint, if_pos opened]
    exact frame

/-- Taking the mutex puts nothing on the channel. -/
theorem Outputs.gets {task : S} {point : TxPoint} (free : sender.lock.holder = none)
    (notOpened : point.opened = false) :
    Outputs sender ((sender.take task ⟨some task⟩).goTo task point) := by
  refine .more [] ?_ ?_
  · show (sender.trace ++ [TxEvent.get task]).filterMap TxEvent.byte? = _
    rw [List.filterMap_append]
    rfl
  · have isPoint : ((sender.take task ⟨some task⟩).goTo task point).point task = point :=
      Function.update_self ..
    have lock : ((sender.take task ⟨some task⟩).goTo task point).lock.holder = some task := rfl
    rw [Sender.rest_of_none free, Sender.rest_of_some lock, isPoint, notOpened]
    rfl

/-- So does putting it, when the whole message is there. -/
theorem Outputs.puts {owner : S} (lock : sender.lock.holder = some owner)
    (nothing : (sender.point owner).left = []) :
    Outputs sender ((sender.put owner).goTo owner .idle) := by
  refine .more [] ?_ ?_
  · show (sender.trace ++ [TxEvent.put owner]).filterMap TxEvent.byte? = _
    rw [List.filterMap_append]
    rfl
  · have free : ((sender.put owner).goTo owner .idle).lock.holder = none := rfl
    rw [Sender.rest_of_some lock, Sender.rest_of_none free, nothing, ite_self]
    rfl

/-- The owner of the mutex takes a step. -/
theorem Owns.outputs {done : List (Entry S)} {owner : S} {message : Message} {past : List UInt8}
    (lock : sender.lock.holder = some owner) (owns : Owns sender done owner message past)
    (step : runTx sender owner = some target) : Outputs sender target := by
  have txLen := owns.txLen
  have isOwner := owns.owns
  have proper := owns.proper
  have silent : sender.trace = sender.trace ++ ([] : List UInt8).map (.out owner) :=
    (List.append_nil _).symm
  cases point : sender.point owner <;> rw [point] at txLen isOwner proper <;>
    simp only [runTx, rtosIntertileTx, rtosIntertileTxLen, rtosIntertileTxData, point] at step
  case idle | txGet | lenGet | trap => cases isOwner
  case txPort message' | lenPort message' pieces =>
    cases step
    exact .port lock (by rw [point]; rfl) (by rw [point]; rfl) rfl rfl
  case txWord message' =>
    cases step
    exact .moves lock rfl rfl rfl (by rw [point]; rfl) (by rw [point]; rfl) (.inl rfl)
  case txBytes rest =>
    cases rest with
    | nil =>
        cases step
        exact .moves lock rfl silent rfl (by rw [point]; rfl) (by rw [point]; rfl) (.inl rfl)
    | cons byte rest =>
        cases step
        exact .moves lock rfl rfl rfl (by rw [point]; rfl) (by rw [point]; rfl) (.inl rfl)
  case txPut =>
    cases step
    exact .puts lock (by rw [point]; rfl)
  case lenAssert message' pieces =>
    have none_ : sender.txLen = 0 := UInt32.toNat_inj.mp txLen
    rw [if_pos none_] at step
    cases step
    exact .moves lock rfl silent rfl (by rw [point]; rfl) (by rw [point]; rfl) (.inr rfl)
  case lenStore message' pieces =>
    cases step
    exact .moves lock rfl silent rfl (by rw [point]; rfl) (by rw [point]; rfl) (.inr rfl)
  case lenWord message' pieces =>
    obtain ⟨bytes, proper⟩ := proper
    cases pieces with
    | nil => exact proper.elim
    | cons piece pieces =>
        cases step
        refine .moves lock rfl rfl rfl (by rw [point]; rfl) ?_ (.inl rfl)
        rw [point]
        exact congrArg (wordBytes message'.len ++ ·) bytes
  case dataLen piece pieces =>
    have small : piece.length ≤ sender.txLen.toNat := by
      rw [txLen, TxPoint.txLen, List.flatten_cons, List.length_append]
      exact Nat.le_add_right _ _
    have fits : (UInt32.ofNat piece.length).toNat = piece.length := by
      rw [UInt32.toNat_ofNat', Nat.mod_eq_of_lt (small.trans_lt sender.txLen.toNat_lt)]
    have atMost : UInt32.ofNat piece.length ≤ sender.txLen := by
      rw [UInt32.le_iff_toNat_le, fits]
      exact small
    rw [if_pos atMost, fits, List.take_length] at step
    cases step
    exact .moves lock rfl silent rfl (by rw [point]; rfl) (by rw [point]; rfl) (.inl rfl)
  case dataBytes rest sends pieces =>
    cases rest with
    | nil =>
        cases step
        exact .moves lock rfl silent rfl (by rw [point]; rfl) (by rw [point]; rfl) (.inl rfl)
    | cons byte rest =>
        cases step
        exact .moves lock rfl rfl rfl (by rw [point]; rfl) (by rw [point]; rfl) (.inl rfl)
  case dataSub sends pieces =>
    cases step
    exact .moves lock rfl silent rfl (by rw [point]; rfl) (by rw [point]; rfl) (.inl rfl)
  case dataTest pieces =>
    by_cases none_ : sender.txLen = 0
    · rw [if_pos none_] at step
      cases step
      refine .moves lock rfl silent rfl (by rw [point]; rfl) ?_ (.inl rfl)
      rw [none_] at txLen
      rw [point]
      exact List.length_eq_zero_iff.mp txLen.symm
    · rw [if_neg none_] at step
      cases pieces with
      | nil => exact absurd (UInt32.toNat_inj.mp txLen) none_
      | cons piece pieces =>
          cases step
          exact .moves lock rfl silent rfl (by rw [point]; rfl) (by rw [point]; rfl) (.inl rfl)
  case dataPut pieces =>
    obtain rfl : pieces = [] := proper
    cases step
    exact .puts lock (by rw [point]; rfl)

theorem TxInv.outputs (inv : TxInv sender) {task : S} (step : runTx sender task = some target) :
    Outputs sender target := by
  have waiter : ∀ {done}, Waits sender done task → Outputs sender target := by
    intro done waits
    have notOwner := waits.owns
    cases point : sender.point task <;> rw [point] at notOwner <;>
      simp only [runTx, rtosIntertileTx, rtosIntertileTxLen, point] at step
    case txGet | lenGet =>
      simp only [Sender.get?, Option.map_map, Option.map_eq_some_iff, Mutex.get?_eq_some_iff]
        at step
      obtain ⟨_, ⟨free, rfl⟩, rfl⟩ := step
      exact .gets free rfl
    case idle | trap => cases step
    all_goals cases notOwner
  cases inv with
  | free done lock trace txLen waits => exact waiter (waits task)
  | held done owner message past lock owns waits =>
      by_cases isOwner : task = owner
      · subst isOwner
        exact owns.outputs lock step
      · exact waiter (waits task isOwner)

/-- A message that is not begun was not before. -/
theorem runTx_unopened {task other : S} {message : Message}
    (step : runTx sender task = some target)
    (unopened : (target.point other).unopened = some message) :
    (sender.point other).unopened = some message := by
  have moved : ∃ point, target.point = Function.update sender.point task point ∧
      (point.unopened = none ∨ point.unopened = (sender.point task).unopened) := by
    clear unopened
    cases point : sender.point task <;>
      simp only [runTx, rtosIntertileTx, rtosIntertileTxLen, rtosIntertileTxData, point] at step
    case idle | trap => cases step
    case txGet | lenGet =>
      simp only [Sender.get?, Option.map_map, Option.map_eq_some_iff] at step
      obtain ⟨_, _, rfl⟩ := step
      exact ⟨_, rfl, .inr rfl⟩
    case lenAssert =>
      split at step <;> cases step
      · exact ⟨_, rfl, .inr rfl⟩
      · exact ⟨_, rfl, .inl rfl⟩
    case txBytes rest | dataBytes rest sends pieces =>
      cases rest <;> cases step <;> exact ⟨_, rfl, .inl rfl⟩
    case dataTest pieces =>
      split at step
      · cases step
        exact ⟨_, rfl, .inl rfl⟩
      · cases pieces <;> cases step <;> exact ⟨_, rfl, .inl rfl⟩
    case lenWord message' pieces | dataPut pieces =>
      cases pieces <;> cases step <;> exact ⟨_, rfl, .inl rfl⟩
    all_goals
      cases step
      first
      | exact ⟨_, rfl, .inl rfl⟩
      | exact ⟨_, rfl, .inr rfl⟩
  obtain ⟨point, goesTo, isPoint⟩ := moved
  by_cases same : other = task
  · subst same
    rw [goesTo, Function.update_self] at unopened
    rcases isPoint with nothing | isPoint
    · rw [nothing] at unopened
      cases unopened
    · rw [← isPoint, unopened]
  · rwa [goesTo, Function.update_of_ne same] at unopened

end

/-! ## The receiving side is ahead -/

section

variable {T : Type v} [DecidableEq T] {listeners : Listeners T} {receiver target : Receiver T}

/-- The receiving side when these bytes, and with them these messages, are sent. -/
def Receiver.ahead (receiver : Receiver T) (rest : List UInt8) (sent : List (Entry T)) :
    Receiver T :=
  { receiver with wire := receiver.wire ++ rest, sent := sent }

omit [DecidableEq T] in
@[simp]
theorem ahead_point (rest : List UInt8) (sent : List (Entry T)) :
    (receiver.ahead rest sent).point = receiver.point :=
  rfl

omit [DecidableEq T] in
@[simp]
theorem ahead_channel (rest : List UInt8) (sent : List (Entry T)) :
    (receiver.ahead rest sent).channel = receiver.channel :=
  rfl

omit [DecidableEq T] in
@[simp]
theorem ahead_events (rest : List UInt8) (sent : List (Entry T)) :
    (receiver.ahead rest sent).events = receiver.events :=
  rfl

omit [DecidableEq T] in
@[simp]
theorem ahead_rxLen (rest : List UInt8) (sent : List (Entry T)) :
    (receiver.ahead rest sent).rxLen = receiver.rxLen :=
  rfl

/-- What is not yet on the wire makes no difference to a task. -/
theorem runRx_ahead {task : T} (rest : List UInt8) (sent : List (Entry T))
    (step : runRx listeners receiver task = some target) :
    runRx listeners (receiver.ahead rest sent) task = some (target.ahead rest sent) := by
  cases point : receiver.point task <;>
    simp only [runRx, rtosIntertileRx, rtosIntertileRxLen, rtosIntertileRxData,
      Receiver.getBits?, Receiver.inWord?, ahead_point, ahead_channel, ahead_events, ahead_rxLen,
      point] at step ⊢
  case idle | trap => cases step
  case rxGet | lenGet =>
    split at step <;> cases step
    next isSet => exact congrArg (Option.map _) (if_pos isSet)
  case rxWord | lenWord =>
    split at step <;> cases step
    next enough => exact congrArg (Option.map _) (if_pos enough)
  case rxBytes left msg | dataBytes left rxLen pieces data =>
    cases left with
    | zero =>
        cases step
        rfl
    | succ left =>
        dsimp only at step ⊢
        cases isChannel : receiver.channel with
        | nil => simp [isChannel] at step
        | cons byte channel =>
            simp only [isChannel] at step ⊢
            cases step
            rfl
  case lenReturn timedOut plan =>
    cases isPlan : plan receiver.rxLen <;> cases timedOut <;>
      simp only [isPlan] at step ⊢ <;> cases step <;> rfl
  case dataTest pieces data =>
    by_cases none_ : receiver.rxLen = 0
    · rw [if_pos none_] at step
      cases step
      exact if_pos none_
    · rw [if_neg none_] at step
      refine (if_neg none_).trans ?_
      cases pieces <;> cases step <;> rfl
  case dataEnable pieces data =>
    cases pieces <;> cases step <;> rfl
  all_goals
    cases step
    rfl

/-- It makes none to any step but one that sends. -/
theorem nextRx_ahead {label : RxLabel T} (rest : List UInt8) (sent : List (Entry T))
    (notSend : ∀ task bytes fits, label ≠ .send task bytes fits)
    (step : nextRx listeners receiver label = some target) :
    nextRx listeners (receiver.ahead rest sent) label = some (target.ahead rest sent) := by
  cases label with
  | send task bytes fits => exact absurd rfl (notSend task bytes fits)
  | arrive =>
      simp only [nextRx] at step
      split at step <;> cases step
      next byte wire isWire =>
        simp only [nextRx, Receiver.ahead, isWire, List.cons_append]
  | isr =>
      have isIsr : (receiver.ahead rest sent).isr = receiver.isr := rfl
      simp only [nextRx, rtosIntertileIsr, isIsr] at step ⊢
      cases point : receiver.isr <;> simp only [point, ahead_channel] at step ⊢
      case idle =>
        split at step <;> cases step
        next fires => exact if_pos fires
      case inByte =>
        cases isChannel : receiver.channel with
        | nil => simp [isChannel] at step
        | cons port channel =>
            simp only [isChannel] at step ⊢
            cases step
            rfl
      case setBits =>
        cases step
        rfl
  | listen task listens timeout =>
      cases point : receiver.point task <;> simp only [nextRx, ahead_point, point] at step ⊢ <;>
        cases listens <;> cases step <;> rfl
  | run task => exact runRx_ahead rest sent step
  | expire task =>
      simp only [nextRx, expires, ahead_events, ahead_point] at step ⊢
      split at step
      · cases step
      · next notSet =>
          refine (if_neg notSet).trans ?_
          cases point : receiver.point task <;> simp only [point] at step ⊢
          case rxGet | lenGet =>
            split at step <;> cases step
            next finite => exact if_neg finite
          all_goals cases step
  | mallocFails task =>
      cases point : receiver.point task <;> simp only [nextRx, ahead_point, point] at step ⊢ <;>
        cases step
      rfl

end

/-! ## What the link keeps -/

section

variable {S : Type u} {T : Type v} [DecidableEq S] [DecidableEq T]
variable {listeners : Listeners T} {link target : Link S T}

/-- What the link keeps.  The receiving side is as if the messages that are begun had been
sent as a whole. -/
structure LinkInv (listeners : Listeners T) (link : Link S T) : Prop where
  tx : TxInv link.tx
  heard : ∀ task message, (link.tx.point task).unopened = some message →
    ∃ listener, listeners.port listener = message.port
  rx : ∃ entries : List (Entry T), RxInv listeners (link.rx.ahead link.tx.rest entries) ∧
    link.tx.channel ++ link.tx.rest = frames entries

theorem linkInv_start (listeners : Listeners T) :
    LinkInv listeners (startLink : Link S T) where
  tx := txInv_start
  heard := by
    intro task message unopened
    cases unopened
  rx := ⟨[], rxInv_start listeners, rfl⟩

/-- A task begins to send. -/
theorem LinkInv.sends (inv : LinkInv listeners link) {task : S} {sending : Sending}
    (proper : sending.calls.Proper) (heard : ∃ listener, listeners.port listener = sending.port)
    (step : nextLink listeners link (.tx (.send task sending)) = some target) :
    LinkInv listeners target := by
  obtain ⟨tx, moved, rfl⟩ := Option.map_eq_some_iff.mp step
  have isProper : SendsProperly link.tx (.send task sending) := proper
  have txInv := inv.tx.next isProper moved
  simp only [nextTx] at moved
  split at moved <;> cases moved
  next idle =>
    obtain ⟨entries, rx, channel⟩ := inv.rx
    have sameChannel : ((link.tx.ask task sending.message).goTo task sending.begin).channel =
        link.tx.channel := rfl
    have sameRest : ((link.tx.ask task sending.message).goTo task sending.begin).rest =
        link.tx.rest := by
      cases lock : link.tx.lock.holder with
      | none => rw [Sender.rest_of_none lock, Sender.rest_of_none (by exact lock)]
      | some owner =>
          have notOwner : owner ≠ task := by
            rintro rfl
            cases inv.tx with
            | free done free => exact absurd (lock.symm.trans free) (by simp)
            | held done other message past held owns =>
                obtain rfl := Option.some.inj (lock.symm.trans held)
                have isOwner := owns.owns
                rw [idle] at isOwner
                cases isOwner
          have samePoint : ((link.tx.ask task sending.message).goTo task sending.begin).point
              owner = link.tx.point owner := Function.update_of_ne notOwner ..
          rw [Sender.rest_of_some lock, Sender.rest_of_some (by exact lock), samePoint]
    have nothing : link.tx.channel.drop link.tx.channel.length = [] := List.drop_length
    constructor
    · exact txInv
    · intro other message unopened
      by_cases same : other = task
      · subst same
        have isBegin : (Function.update link.tx.point other sending.begin) other =
            sending.begin := Function.update_self ..
        have isMessage : sending.begin.unopened = some message := by
          rw [← isBegin]
          exact unopened
        obtain ⟨port, calls, fits⟩ := sending
        cases calls <;> cases isMessage <;> exact heard
      · have samePoint : (Function.update link.tx.point task sending.begin) other =
            link.tx.point other := Function.update_of_ne same ..
        apply inv.heard other message
        rw [← samePoint]
        exact unopened
    · refine ⟨entries, ?_, ?_⟩
      · simp only [sameChannel, sameRest, nothing, List.append_nil]
        exact rx
      · rw [sameChannel, sameRest]
        exact channel

/-- A task goes on. -/
theorem LinkInv.txRuns (inv : LinkInv listeners link) {task : S}
    (step : nextLink listeners link (.tx (.run task)) = some target) :
    LinkInv listeners target := by
  obtain ⟨tx, moved, rfl⟩ := Option.map_eq_some_iff.mp step
  obtain ⟨entries, rx, isChannel⟩ := inv.rx
  constructor
  · have isProper : SendsProperly link.tx (.run task) := trivial
    exact inv.tx.next isProper moved
  · intro other message unopened
    exact inv.heard other message (runTx_unopened moved unopened)
  · cases inv.tx.outputs moved with
    | more bytes channel rest =>
        refine ⟨entries, ?_, ?_⟩
        · simp only [channel, List.drop_left]
          rw [rest] at rx
          simpa only [Receiver.ahead, List.append_assoc] using rx
        · rw [channel, List.append_assoc, ← rest]
          exact isChannel
    | opens bytes message other unopened channel none_ frame =>
        obtain ⟨listener, heard⟩ := inv.heard other message unopened
        refine ⟨entries ++ [(listener, message)], ?_, ?_⟩
        · have isSend : nextRx listeners (link.rx.ahead link.tx.rest entries)
              (.send listener message.bytes message.fits) = some _ := rfl
          have sent := rx.sends isSend
          simp only [channel, List.drop_left]
          simpa only [Receiver.ahead, none_, List.append_nil, heard, frame, List.append_assoc]
            using sent
        · rw [none_, List.append_nil] at isChannel
          rw [channel, isChannel, List.append_assoc, ← frame, frames_append, frames_cons]
          exact congrArg (frames entries ++ ·) (List.append_nil _).symm

/-- The receiving side goes on. -/
theorem LinkInv.rxRuns (inv : LinkInv listeners link) {label : RxLabel T}
    (right : ListensRight link.rx label)
    (step : nextLink listeners link (.rx label) = some target) : LinkInv listeners target := by
  have notSend : ∀ task bytes fits, label ≠ .send task bytes fits := by
    rintro task bytes fits rfl
    cases step
  have moves : ∃ rx, nextRx listeners link.rx label = some rx ∧
      { link with rx := rx } = target := by
    apply Option.map_eq_some_iff.mp
    cases label with
    | send task bytes fits => exact absurd rfl (notSend task bytes fits)
    | _ => exact step
  obtain ⟨rx, moved, rfl⟩ := moves
  obtain ⟨entries, rxInv, channel⟩ := inv.rx
  have rightAhead : ListensRight (link.rx.ahead link.tx.rest entries) label := by
    cases label with
    | run task =>
        simp only [ListensRight, ahead_point] at right ⊢
        cases point : link.rx.point task <;> rw [point] at right <;> exact right
    | _ => exact right
  exact ⟨inv.tx, inv.heard, entries,
    rxInv.next rightAhead (nextRx_ahead link.tx.rest entries notSend moved), channel⟩

theorem LinkInv.next (inv : LinkInv listeners link) {label : LinkLabel S T}
    (right : LinkRight listeners link label)
    (step : nextLink listeners link label = some target) : LinkInv listeners target := by
  cases label with
  | tx label =>
      cases label with
      | send task sending => exact inv.sends right.1 right.2 step
      | run task => exact inv.txRuns step
  | rx label => exact inv.rxRuns right step

/-! ## What arrives is what was sent -/

/-- What the listener of a port is to receive of these messages. -/
def addressedTo (port : UInt8) (messages : List Message) : List RxResult :=
  (messages.filter fun message => message.port = port).map fun message => .received message.bytes

/-- All that was sent was received. -/
structure Link.AllReceived (listeners : Listeners T) (link : Link S T) (order : List (Entry S)) :
    Prop where
  sent : ∀ task, link.tx.sent task = ofTask task order
  received : ∀ task, (link.rx.results task).filter RxResult.isReceived =
    addressedTo (listeners.port task) (order.map Prod.snd)

/-- The tasks of one tile have put their messages on the link in this order, each its own in
the order in which it was asked to send them, and each but perhaps the last one.  The tasks
of the other tile have received those for their ports in the same order, each once. -/
structure Delivered (listeners : Listeners T) (link : Link S T) (order : List (Entry S)) :
    Prop where
  sent : ∀ task, ofTask task order <+: link.tx.sent task ∧
    (link.tx.sent task).length ≤ (ofTask task order).length + 1
  returned : ∀ task, link.tx.point task = .idle → link.tx.sent task = ofTask task order
  received : ∀ task, (link.rx.results task).filter RxResult.isReceived <+:
    addressedTo (listeners.port task) (order.map Prod.snd)
  timedOut : ∀ task len, .timedOut len ∈ link.rx.results task → len = 0
  txNotTrapped : ∀ task, link.tx.point task ≠ .trap
  rxNotTrapped : ∀ task, link.rx.point task ≠ .trap

omit [DecidableEq S] in
theorem TxInv.channel_eq {sender : Sender S} {done : List (Entry S)}
    {current : List (TxEvent S)} (trace : sender.trace = done.flatMap block ++ current) :
    sender.channel = frames done ++ current.filterMap TxEvent.byte? := by
  rw [Sender.channel, trace, List.filterMap_append, List.filterMap_flatMap]
  congr 1
  exact List.flatMap_congr fun entry _ => block_bytes entry

omit [DecidableEq T] in
/-- The order in which the messages were begun. -/
theorem TxInv.order {sender : Sender S} (inv : TxInv sender) {entries : List (Entry T)}
    (channel : sender.channel ++ sender.rest = frames entries) :
    ∃ order : List (Entry S), order.map Prod.snd = entries.map Prod.snd ∧
      ∀ task, (ofTask task order <+: sender.sent task ∧
        (sender.sent task).length ≤ (ofTask task order).length + 1) ∧
          (sender.point task = .idle → sender.sent task = ofTask task order) := by
  cases inv with
  | free done lock trace txLen waits =>
      have isChannel := TxInv.channel_eq (trace.trans (List.append_nil _).symm)
      rw [isChannel, Sender.rest_of_none lock] at channel
      simp only [List.filterMap_nil, List.append_nil] at channel
      exact ⟨done, frames_inj channel, fun task => ⟨(waits task).sent, (waits task).idle⟩⟩
  | held done owner message past lock owns waits =>
      have isChannel := TxInv.channel_eq owns.trace
      have outs : (TxEvent.get owner :: past.map (.out owner)).filterMap TxEvent.byte? = past := by
        rw [List.filterMap_cons_none rfl, List.filterMap_map]
        exact List.filterMap_some
      rw [outs] at isChannel
      have notIdle : sender.point owner ≠ .idle := by
        intro idle
        have isOwner := owns.owns
        rw [idle] at isOwner
        cases isOwner
      rw [isChannel, Sender.rest_of_some lock] at channel
      by_cases opened : (sender.point owner).opened = true
      · rw [if_pos opened, List.append_assoc, ← owns.frame] at channel
        refine ⟨done ++ [(owner, message)], frames_inj ?_, ?_⟩
        · rw [← channel, frames_append, frames_cons]
          exact congrArg (frames done ++ ·) (List.append_nil _)
        · intro task
          rw [ofTask_append]
          by_cases isOwner : owner = task
          · subst isOwner
            rw [if_pos rfl, ← owns.sent]
            exact ⟨⟨List.prefix_refl _, Nat.le_succ _⟩, fun idle => absurd idle notIdle⟩
          · rw [if_neg isOwner]
            have others := waits task (Ne.symm isOwner)
            exact ⟨others.sent, others.idle⟩
      · rw [if_neg opened, List.append_nil] at channel
        have some_ : (sender.point owner).left ≠ [] := by
          have isOwner := owns.owns
          cases point : sender.point owner <;> rw [point] at isOwner opened
          case txPort | lenAssert | lenStore | lenPort => exact frame_ne_nil _
          case idle | txGet | lenGet | trap => cases isOwner
          all_goals exact absurd rfl opened
        obtain ⟨same, _⟩ := frames_of_part some_ owns.frame channel
        refine ⟨done, same, ?_⟩
        intro task
        by_cases isOwner : task = owner
        · subst isOwner
          rw [owns.sent, List.length_append]
          exact ⟨⟨List.prefix_append _ _, Nat.le_refl _⟩, fun idle => absurd idle notIdle⟩
        · exact ⟨(waits task isOwner).sent, (waits task isOwner).idle⟩

omit [DecidableEq S] in
/-- The listeners of the messages are those of their ports. -/
theorem received_eq_addressedTo {entries : List (Entry T)}
    (addressed : Addressed listeners entries) (task : T) :
    received task entries = addressedTo (listeners.port task) (entries.map Prod.snd) := by
  induction entries with
  | nil => rfl
  | cons entry entries ih =>
      have own := addressed entry List.mem_cons_self
      have others := ih fun other member => addressed other (List.mem_cons_of_mem entry member)
      simp only [received, addressedTo] at others ⊢
      rw [List.map_cons, List.filter_cons, List.filter_cons]
      by_cases isListener : entry.1 = task
      · have isPort : entry.2.port = listeners.port task := isListener ▸ own
        simp [isListener, isPort, others]
      · have notPort : entry.2.port ≠ listeners.port task := by
          rw [own]
          exact fun same => isListener (listeners.injective same)
        simp [isListener, notPort, others]

omit [DecidableEq S] in
/-- What was received is a first part of what was sent. -/
theorem RxInv.received_prefix {receiver : Receiver T} (inv : RxInv listeners receiver) (task : T) :
    (receiver.results task).filter RxResult.isReceived <+:
      addressedTo (listeners.port task) (receiver.sent.map Prod.snd) := by
  have whole : ∀ {done rest : List (Entry T)}, receiver.sent = done ++ rest →
      Settled done receiver.results → Addressed listeners receiver.sent →
      (receiver.results task).filter RxResult.isReceived <+:
        addressedTo (listeners.port task) (receiver.sent.map Prod.snd) := by
    intro done rest sent settled addressed
    rw [← received_eq_addressedTo addressed, settled.received, sent]
    simp only [Intertile.received, List.filter_append, List.map_append]
    exact List.prefix_append _ _
  cases inv with
  | free done rest sent trace wire trigger isr events rxLen outside settled addressed =>
      exact whole sent settled addressed
  | busy done entry rest past todo sent trace begun block wire trigger busy settled addressed =>
      exact whole sent settled addressed

theorem LinkInv.delivered (inv : LinkInv listeners link) {entries : List (Entry T)}
    (rx : RxInv listeners (link.rx.ahead link.tx.rest entries))
    (channel : link.tx.channel ++ link.tx.rest = frames entries) :
    ∃ order : List (Entry S), order.map Prod.snd = entries.map Prod.snd ∧
      Delivered listeners link order := by
  obtain ⟨order, same, sides⟩ := inv.tx.order channel
  have received := rx.received
  refine ⟨order, same, ?_⟩
  constructor
  · exact fun task => (sides task).1
  · exact fun task => (sides task).2
  · intro task
    rw [same]
    exact rx.received_prefix task
  · exact received.timedOut
  · exact inv.tx.framed.notTrapped
  · exact received.notTrapped

/-- In every run in which messages are sent in proper calls to ports that have a listener,
and the listeners' calls return right, the messages go from one tile to the other in one
order, each of them once, to the listener of its port, with its own bytes. -/
theorem link_delivers
    (reachable : GuardedReachable (nextLink listeners) (LinkRight listeners) startLink link) :
    ∃ order, Delivered listeners link order := by
  have inv : LinkInv listeners link :=
    reachable.invariant (linkInv_start listeners) fun _ _ _ inv right step => inv.next right step
  obtain ⟨entries, rx, channel⟩ := inv.rx
  obtain ⟨order, _, delivered⟩ := inv.delivered rx channel
  exact ⟨order, delivered⟩

/-! ## No message is stuck -/

/-- The owner of the mutex never waits. -/
theorem Owns.runs {sender : Sender S} {done : List (Entry S)} {owner : S} {message : Message}
    {past : List UInt8} (owns : Owns sender done owner message past) :
    runTx sender owner ≠ none := by
  have isOwner := owns.owns
  cases point : sender.point owner <;> rw [point] at isOwner <;>
    simp only [runTx, rtosIntertileTx, rtosIntertileTxLen, rtosIntertileTxData, point]
  case idle | txGet | lenGet | trap => cases isOwner
  case txBytes rest | dataBytes rest sends pieces => cases rest <;> simp
  case dataTest pieces => split <;> simp
  all_goals simp

/-- When no task of the sending side can go on, all have returned. -/
theorem TxInv.idle_of_stuck {sender : Sender S} (inv : TxInv sender)
    (stuck : ∀ task, runTx sender task = none) :
    sender.lock.holder = none ∧ ∀ task, sender.point task = .idle := by
  cases inv with
  | free done lock trace txLen waits =>
      refine ⟨lock, ?_⟩
      intro task
      have notOwner := (waits task).owns
      have proper := (waits task).proper
      have stuck := stuck task
      cases point : sender.point task <;> rw [point] at notOwner proper <;>
        simp only [runTx, rtosIntertileTx, rtosIntertileTxLen, point] at stuck
      case txGet | lenGet =>
        have free : sender.lock.get? task ≠ none := by
          rw [Ne, Mutex.get?, lock]
          simp
        simp [Sender.get?, free] at stuck
      case trap => exact proper.elim
      all_goals cases notOwner
  | held done owner message past lock owns waits => exact absurd (stuck owner) owns.runs

/-- A listener that reads a message does not wait for bytes that are there. -/
theorem Reads.runs {receiver : Receiver T} {message : Message} {rxLen : UInt32} {task : T}
    {left : List UInt8} (reads : Reads message rxLen (receiver.point task) left)
    (there : left <+: receiver.channel) : runRx listeners receiver task ≠ none := by
  generalize point : receiver.point task = at_ at reads
  cases reads <;>
    simp only [runRx, rtosIntertileRx, rtosIntertileRxLen, rtosIntertileRxData, point]
  case rxBytes msg _ _ =>
    cases left with
    | nil => simp
    | cons byte left =>
        obtain ⟨more, channel⟩ := there
        rw [← channel]
        simp
  case dataBytes now later count pieces data _ _ _ =>
    cases now with
    | nil => simp
    | cons byte now =>
        obtain ⟨more, channel⟩ := there
        rw [← channel]
        simp
  case lenReturn plan _ =>
    cases plan receiver.rxLen <;> simp
  case dataTest => split <;> simp
  all_goals simp

/-- Neither a task nor the link nor the interrupt handler can go on. -/
structure Link.Stuck (listeners : Listeners T) (link : Link S T) : Prop where
  tx : ∀ task, nextLink listeners link (.tx (.run task)) = none
  arrive : nextLink listeners link (.rx .arrive) = none
  isr : nextLink listeners link (.rx .isr) = none
  rx : ∀ task, nextLink listeners link (.rx (.run task)) = none

/-- What is left on the link waits for a listener that was told of it and does not listen. -/
theorem RxInv.awaited {receiver : Receiver T} (inv : RxInv listeners receiver)
    (nothing : receiver.wire = []) (isr : nextRx listeners receiver .isr = none)
    (stuck : ∀ task, runRx listeners receiver task = none) :
    (∀ task, (receiver.results task).filter RxResult.isReceived =
        addressedTo (listeners.port task) (receiver.sent.map Prod.snd)) ∨
      ∃ task, receiver.events (listeners.port task) = true ∧ receiver.point task = .idle := by
  cases inv with
  | free done rest sent trace wire trigger isIsr events rxLen outside settled addressed =>
      rw [nothing, List.append_nil] at wire
      have empty : receiver.channel = [] := by
        by_contra some_
        simp [nextRx, rtosIntertileIsr, isIsr, trigger, some_] at isr
      have noRest : rest = [] := by
        cases rest with
        | nil => rfl
        | cons entry rest =>
            rw [empty, frames_cons] at wire
            exact absurd (List.append_eq_nil_iff.mp wire.symm).1 (frame_ne_nil entry.2)
      refine .inl fun task => ?_
      rw [← received_eq_addressedTo addressed, settled.received, sent, noRest, List.append_nil]
  | busy done entry rest past todo sent trace begun block wire trigger busy settled addressed =>
      rw [nothing, List.append_nil] at wire
      have own := addressed entry (by rw [sent]; simp)
      generalize point : receiver.point = points at busy
      generalize isIsr : receiver.isr = handler at busy
      generalize isEvents : receiver.events = events at busy
      generalize isRxLen : receiver.rxLen = rxLen at busy
      cases busy with
      | fired outside =>
          rw [List.flatMap_cons] at wire
          simp [nextRx, rtosIntertileIsr, isIsr, wire, RxEvent.bytes] at isr
      | read outside => simp [nextRx, rtosIntertileIsr, isIsr] at isr
      | flagged outside =>
          have isSet : receiver.events (listeners.port entry.1) = true := by
            rw [isEvents, ← own]
            exact Function.update_self ..
          refine .inr ⟨entry.1, by rw [← isEvents]; exact isSet, ?_⟩
          have isOutside := outside entry.1
          have stuck := stuck entry.1
          rw [← point] at isOutside ⊢
          cases at_ : receiver.point entry.1 <;> rw [at_] at isOutside <;>
            simp only [runRx, rtosIntertileRx, rtosIntertileRxLen, at_] at stuck
          case rxGet | lenGet => simp [Receiver.getBits?, isSet] at stuck
          case lenReturn timedOut plan =>
            cases isPlan : plan receiver.rxLen <;> cases timedOut <;> simp [isPlan] at stuck
          all_goals cases isOutside
      | word before outside =>
          have stuck := stuck entry.1
          have enough : 4 ≤ receiver.channel.length := by
            rw [wire, afterPort_bytes, List.append_assoc, List.length_append, length_wordBytes]
            exact Nat.le_add_right _ _
          rw [← point] at before
          generalize at_ : receiver.point entry.1 = place at before
          cases before <;>
            simp [runRx, rtosIntertileRx, rtosIntertileRxLen, Receiver.inWord?, at_, enough]
              at stuck
      | reads reads outside =>
          rw [← point] at reads
          have there : _ <+: receiver.channel := ⟨frames rest, by rw [wire, bytes_bytes]⟩
          exact absurd (stuck entry.1) (reads.runs there)

/-- When nothing can go on, every message was received, or one that has arrived waits for
the listener of its port, which does not listen. -/
theorem allReceived_or_awaited
    (reachable : GuardedReachable (nextLink listeners) (LinkRight listeners) startLink link)
    (stuck : link.Stuck listeners) :
    ∃ order, Delivered listeners link order ∧
      (link.AllReceived listeners order ∨ ∃ task,
        link.rx.events (listeners.port task) = true ∧ link.rx.point task = .idle) := by
  have inv : LinkInv listeners link :=
    reachable.invariant (linkInv_start listeners) fun _ _ _ inv right step => inv.next right step
  obtain ⟨entries, rx, channel⟩ := inv.rx
  obtain ⟨order, same, delivered⟩ := inv.delivered rx channel
  have txStuck : ∀ task, runTx link.tx task = none :=
    fun task => Option.map_eq_none_iff.mp (stuck.tx task)
  obtain ⟨free, idle⟩ := inv.tx.idle_of_stuck txStuck
  rw [Sender.rest_of_none free] at rx
  -- Nothing is left to be put on the wire, so the receiving side is not ahead.
  have back : (link.rx.ahead [] entries).ahead [] link.rx.sent = link.rx := by
    simp [Receiver.ahead]
  have rxStuck : ∀ {label}, (∀ task bytes fits, label ≠ .send task bytes fits) →
      nextRx listeners link.rx label = none →
      nextRx listeners (link.rx.ahead [] entries) label = none := by
    intro label notSend stuck
    cases step : nextRx listeners (link.rx.ahead [] entries) label with
    | none => rfl
    | some target =>
        have other := nextRx_ahead [] link.rx.sent notSend step
        rw [back, stuck] at other
        cases other
  have arrived : (link.rx.ahead [] entries).wire = [] := by
    have arrive := Option.map_eq_none_iff.mp stuck.arrive
    cases wire : link.rx.wire with
    | nil => simp [Receiver.ahead, wire]
    | cons byte wire' => simp [nextRx, wire] at arrive
  have awaited := rx.awaited arrived
    (rxStuck (by simp) (Option.map_eq_none_iff.mp stuck.isr))
    fun task => rxStuck (by simp) (Option.map_eq_none_iff.mp (stuck.rx task))
  refine ⟨order, delivered, ?_⟩
  rcases awaited with received | awaited
  · refine .inl ⟨fun task => delivered.returned task (idle task), fun task => ?_⟩
    rw [same]
    exact received task
  · exact .inr awaited

end

/-! ## Two tasks on each tile -/

instance {S : Type u} {T : Type v} [DecidableEq S] [DecidableEq T] [Fintype T]
    (listeners : Listeners T) (link : Link S T) : DecidablePred (LinkRight listeners link)
  | .tx (.send _ _) => inferInstanceAs (Decidable (_ ∧ ∃ task, listeners.port task = _))
  | .tx (.run _) => .isTrue trivial
  | .rx label => inferInstanceAs (Decidable (ListensRight link.rx label))

/-- A message for task 0, in two pieces. -/
def toFirst : Sending where
  port := 0
  calls := .txPieces [[7], [8]]
  fits := by decide

/-- A message for task 1. -/
def toSecond : Sending where
  port := twoListeners.port 1
  calls := .tx [6]
  fits := by decide

/-- The first message is received while the second is still being put on the channel. -/
def exchange : List (LinkLabel (Fin 2) (Fin 2)) :=
  [.tx (.send 0 toFirst), .tx (.send 1 toSecond), .rx (.listen 0 .rx rtosOsalPortWaitForever),
    .rx (.listen 1 .rx rtosOsalPortWaitForever)] ++ (txSteps 0 5).map .tx ++
  (arrival 5).map .rx ++ (txSteps 0 11).map .tx ++ (txSteps 1 2).map .tx ++
  (rxSteps 0 2 ++ List.replicate 2 RxLabel.arrive ++ rxSteps 0 5).map .rx ++
  (txSteps 1 4).map .tx ++ (arrival 6 ++ rxSteps 1 6).map .rx

theorem exchange_right : StepsMeet (nextLink twoListeners) startLink exchange
    (LinkRight twoListeners) := by
  decide +kernel

theorem link_delivers_exchange :
    ∃ link order, run (nextLink twoListeners) startLink exchange = some link ∧
      link.rx.results 0 = [.received [7, 8]] ∧ Delivered twoListeners link order := by
  have executed : (run (nextLink twoListeners) startLink exchange).map (fun link =>
      decide (link.rx.results 0 = [.received [7, 8]])) = some true := by decide +kernel
  obtain ⟨link, executed, results⟩ := Option.map_eq_some_iff.mp executed
  obtain ⟨order, delivered⟩ :=
    link_delivers (exchange_right.guardedReachable (List.prefix_refl _) executed)
  exact ⟨link, order, executed, of_decide_eq_true results, delivered⟩

theorem allReceived_or_awaited_exchange :
    ∃ link order, run (nextLink twoListeners) startLink exchange = some link ∧
      Delivered twoListeners link order ∧ link.AllReceived twoListeners order := by
  have executed : (run (nextLink twoListeners) startLink exchange).map (fun link =>
      decide ((∀ task, (nextLink twoListeners link (.tx (.run task))).isNone) ∧
        (nextLink twoListeners link (.rx .arrive)).isNone ∧
        (nextLink twoListeners link (.rx .isr)).isNone ∧
        (∀ task, (nextLink twoListeners link (.rx (.run task))).isNone) ∧
        ∀ task, link.rx.events (twoListeners.port task) = false)) = some true := by decide +kernel
  obtain ⟨link, executed, holds⟩ := Option.map_eq_some_iff.mp executed
  obtain ⟨tx, arrive, isr, rx, notSet⟩ := of_decide_eq_true holds
  have stuck : link.Stuck twoListeners :=
    ⟨fun task => Option.isNone_iff_eq_none.mp (tx task), Option.isNone_iff_eq_none.mp arrive,
      Option.isNone_iff_eq_none.mp isr, fun task => Option.isNone_iff_eq_none.mp (rx task)⟩
  obtain ⟨order, delivered, settled⟩ := allReceived_or_awaited
    (exchange_right.guardedReachable (List.prefix_refl _) executed) stuck
  rcases settled with received | ⟨task, isSet, _⟩
  · exact ⟨link, order, executed, delivered, received⟩
  · rw [notSet task] at isSet
    cases isSet

end FwkRtos.Intertile
