import FwkRtos.Transition.Labelled

/-!
# Confirmations of commands

A command is announced by `sl_wfx_host_setup_waited_event`, sent, and waited for
by `sl_wfx_host_wait_for_confirmation`, while the host task hands every message of
the device to `sl_wfx_host_post_event`.  Between them stand the identifier that is
waited for, one payload buffer and a queue of one item.
-/

namespace FwkRtos.SlWfx.Confirmation

open FwkRtos.Transition

/-- `SL_WFX_EVENT_MAX_SIZE`. -/
def slWfxEventMaxSize : Nat := 512

/-- A message of the device.  It is the confirmation of at most one command. -/
structure Message where
  id : UInt8
  payload : List UInt8
  confirms : Option Nat
  deriving DecidableEq

/-- Where the command task is. -/
inductive CommandPoint
  | idle
  /-- The identifier is set up. -/
  | armed
  | sent
  /-- In `xQueueReceive`, with the time at which it gives up. -/
  | waiting (deadline : Nat)
  /-- An item was received and is still to be compared. -/
  | received (deadline : Nat) (postedEventId : UInt8)
  deriving DecidableEq

/-- Where the host task is in `sl_wfx_host_post_event`. -/
inductive HostPoint
  | outside
  /-- About to look at the identifier that is waited for. -/
  | called (message : Message)
  /-- About to clear that identifier. -/
  | matched (message : Message)
  /-- About to copy the message. -/
  | cleared (message : Message)
  /-- About to overwrite the item of the queue. -/
  | copied (message : Message)
  deriving DecidableEq

namespace HostPoint

/-- The message that is handed over. -/
def message : HostPoint → Option Message
  | .outside => none
  | .called message | .matched message | .cleared message | .copied message => some message

/-- The message whose identifier is about to be looked at. -/
def checked : HostPoint → List Message
  | .called message => [message]
  | _ => []

/-- The message on its way to the queue. -/
def posting : HostPoint → Option Message
  | .outside | .called _ => none
  | .matched message | .cleared message | .copied message => some message

theorem message_of_posting {point : HostPoint} {message : Message}
    (isPosting : point.posting = some message) : point.message = some message := by
  cases point with
  | outside | called => cases isPosting
  | matched | cleared | copied => exact isPosting

end HostPoint

/-- What `sl_wfx_host_wait_for_confirmation` returned for a command, and what was true
when it did. -/
structure Return where
  command : Nat
  /-- `SL_STATUS_OK`, or `SL_STATUS_TIMEOUT`. -/
  ok : Bool
  eventPayload : Option Message
  /-- The time of the timeout had come. -/
  expired : Bool
  /-- The confirmation of the command had been posted. -/
  posted : Bool
  deriving DecidableEq

/-- The payload is the confirmation of the command; it timed out only when that
confirmation was not posted in time. -/
def Return.Correct (returned : Return) : Prop :=
  if returned.ok then
    ∃ message, returned.eventPayload = some message ∧ message.confirms = some returned.command
  else
    returned.expired = true ∧ returned.posted = false

structure Host where
  now : Nat
  waitedEventId : UInt8
  eventQueue : Option UInt8
  eventPayloadBuffer : Option Message
  point : CommandPoint
  host : HostPoint
  /-- The identifiers of the commands issued so far. -/
  identifiers : List UInt8
  /-- The commands whose confirmation was handed over. -/
  posted : List Nat
  returns : List Return
  deriving DecidableEq

inductive Label
  /-- `sl_wfx_host_setup_waited_event` for the next command. -/
  | issue (eventId : UInt8)
  | send
  /-- `sl_wfx_host_wait_for_confirmation` -/
  | wait (timeoutMs : Nat)
  | receive
  | compare
  | timeout
  /-- `sl_wfx_host_post_event` -/
  | post (message : Message)
  /-- The host task goes on. -/
  | host
  | tick
  deriving DecidableEq

namespace Host

def start : Host where
  now := 0
  waitedEventId := 0
  eventQueue := none
  eventPayloadBuffer := none
  point := .idle
  host := .outside
  identifiers := []
  posted := []
  returns := []

/-- The number of the command just issued. -/
def command (host : Host) : Nat :=
  host.identifiers.length - 1

/-- How many commands were sent. -/
def sentCount (host : Host) : Nat :=
  if host.point = .armed then host.identifiers.length - 1 else host.identifiers.length

/-- The device confirms what was sent, once and with the identifier of the command. -/
def MayPost (host : Host) (message : Message) : Prop :=
  ∀ command, message.confirms = some command →
    command < host.sentCount ∧ command ∉ host.posted ∧
      host.identifiers[command]? = some message.id

instance (host : Host) (message : Message) : Decidable (host.MayPost message) :=
  match confirms : message.confirms with
  | none => .isTrue fun _ isSome => nomatch confirms.symm.trans isSome
  | some command =>
      decidable_of_iff (command < host.sentCount ∧ command ∉ host.posted ∧
        host.identifiers[command]? = some message.id)
        ⟨fun holds _ isSome => Option.some.inj (confirms.symm.trans isSome) ▸ holds,
          fun holds => holds command confirms⟩

/-- `sl_wfx_host_wait_for_confirmation` returns. -/
def finish (host : Host) (ok expired : Bool) : Host :=
  { host with
    point := .idle
    returns := host.returns ++
      [⟨host.command, ok, host.eventPayloadBuffer, expired, decide (host.command ∈ host.posted)⟩] }

/-- `sl_wfx_host_post_event` returns. -/
def handedOver (host : Host) (message : Message) : Host :=
  { host with host := .outside, posted := message.confirms.toList ++ host.posted }

/-- The host task goes on.  A message that does not fit the buffer fails an assertion. -/
def nextHost (host : Host) : Option Host :=
  match host.host with
  | .outside => none
  | .called message =>
      if host.waitedEventId ≠ 0 ∧ host.waitedEventId = message.id then
        if message.payload.length ≤ slWfxEventMaxSize then
          some { host with host := .matched message }
        else
          none
      else
        some (host.handedOver message)
  | .matched message => some { host with waitedEventId := 0, host := .cleared message }
  | .cleared message =>
      some { host with eventPayloadBuffer := some message, host := .copied message }
  | .copied message => some { host.handedOver message with eventQueue := some message.id }

/-- One step. -/
def next : LStep Host Label := fun host label =>
  match label with
  | .issue eventId =>
      if host.point = .idle then
        some
          { host with
            waitedEventId := eventId
            point := .armed
            identifiers := host.identifiers ++ [eventId] }
      else
        none
  | .send => if host.point = .armed then some { host with point := .sent } else none
  | .wait timeoutMs =>
      if host.point = .sent then
        some { host with point := .waiting (host.now + timeoutMs) } else none
  | .receive =>
      match host.point, host.eventQueue with
      | .waiting deadline, some postedEventId =>
          some { host with eventQueue := none, point := .received deadline postedEventId }
      | _, _ => none
  | .compare =>
      match host.point with
      | .received deadline postedEventId =>
          some (host.finish (host.identifiers.getLast? = some postedEventId)
            (deadline ≤ host.now))
      | _ => none
  | .timeout =>
      match host.point, host.eventQueue with
      | .waiting deadline, none =>
          if deadline ≤ host.now then some (host.finish false true) else none
      | _, _ => none
  | .post message =>
      if host.host = .outside ∧ host.MayPost message then
        some { host with host := .called message }
      else
        none
  | .host => host.nextHost
  | .tick => some { host with now := host.now + 1 }

/-! ## Commands that do not mix -/

/-- A command is issued with an identifier, nothing is left in the queue or on its way to
it, and what is posted under the identifier that is waited for is the confirmation of the
command just issued. -/
def Unmixed (host : Host) : Label → Prop
  | .issue eventId => eventId ≠ 0 ∧ host.eventQueue = none ∧ host.host.posting = none
  | .host => ∀ message ∈ host.host.checked, host.waitedEventId ≠ 0 →
      host.waitedEventId = message.id → message.confirms = some host.command
  | _ => True

instance (host : Host) : (label : Label) → Decidable (host.Unmixed label)
  | .issue _ => inferInstanceAs (Decidable (_ ∧ _ ∧ _))
  | .host => inferInstanceAs (Decidable (∀ message ∈ host.host.checked, _))
  | .send | .wait _ | .receive | .compare | .timeout | .post _ | .tick => .isTrue trivial

/-- The command is on its way to its confirmation. -/
def pending (host : Host) : Bool :=
  match host.point with
  | .armed | .sent | .waiting _ => true
  | .idle | .received _ _ => false

/-- The payload buffer holds the confirmation of the command just issued, which was
posted. -/
structure Confirmed (host : Host) (id : UInt8) : Prop where
  identifier : host.identifiers.getLast? = some id
  buffer : ∃ message, host.eventPayloadBuffer = some message ∧
    message.confirms = some host.command
  posted : host.command ∈ host.posted

structure ConfirmInv (host : Host) : Prop where
  sent : ∀ command ∈ host.posted, command < host.sentCount
  mayPost : ∀ message, host.host.message = some message → host.MayPost message
  posting : ∀ message, host.host.posting = some message → message.confirms = some host.command
  copied : ∀ message, host.host = .copied message → host.eventPayloadBuffer = some message
  queue : ∀ id, host.eventQueue = some id → host.Confirmed id
  received : ∀ deadline id, host.point = .received deadline id → host.Confirmed id
  /-- The confirmation of a pending command waits in the queue once it is posted. -/
  arrived : host.pending = true → host.command ∈ host.posted → host.eventQueue ≠ none
  /-- Before that its identifier is waited for, or it is on its way. -/
  awaited : host.pending = true → host.command ∉ host.posted →
    host.identifiers.getLast? = some host.waitedEventId ∧ host.waitedEventId ≠ 0 ∨
      host.host.posting ≠ none
  returns : ∀ returned ∈ host.returns, returned.Correct

theorem confirmInv_start : ConfirmInv start where
  sent _ member := nomatch member
  mayPost _ isMessage := nomatch isMessage
  posting _ isPosting := nomatch isPosting
  copied _ isCopied := nomatch isCopied
  queue _ isQueued := nomatch isQueued
  received _ _ isReceived := nomatch isReceived
  arrived isPending := nomatch isPending
  awaited isPending := nomatch isPending
  returns _ member := nomatch member

variable {host target : Host}

/-! ## The steps of the command task -/

theorem ConfirmInv.issue (inv : ConfirmInv host) {eventId : UInt8} (isIdle : host.point = .idle)
    (unmixed : host.Unmixed (.issue eventId)) :
    ConfirmInv
      { host with
        waitedEventId := eventId
        point := .armed
        identifiers := host.identifiers ++ [eventId] } := by
  obtain ⟨notZero, noItem, noPosting⟩ := unmixed
  have wasSent : host.sentCount = host.identifiers.length := by
    simp [sentCount, isIdle]
  have earlier : ∀ command ∈ host.posted, command < host.identifiers.length := by
    intro command member
    rw [← wasSent]
    exact inv.sent command member
  constructor
  case sent =>
    intro command member
    simpa [sentCount] using earlier command member
  case mayPost =>
    intro message isMessage command confirms
    obtain ⟨sent, notPosted, found⟩ := inv.mayPost message isMessage command confirms
    rw [wasSent] at sent
    refine ⟨by simpa [sentCount] using sent, notPosted, ?_⟩
    exact (List.getElem?_append_left sent).trans found
  case posting =>
    intro message isPosting
    exact absurd (noPosting.symm.trans isPosting) (by simp)
  case copied =>
    intro message isCopied
    exact inv.copied message isCopied
  case queue =>
    intro id isQueued
    exact absurd (noItem.symm.trans isQueued) (by simp)
  case received =>
    intro deadline id isReceived
    cases isReceived
  case arrived =>
    intro _ member
    have before := earlier _ member
    simp [Host.command] at before
  case awaited =>
    intro _ _
    exact .inl ⟨List.getLast?_concat, notZero⟩
  case returns => exact inv.returns

theorem ConfirmInv.send (inv : ConfirmInv host) (isArmed : host.point = .armed) :
    ConfirmInv { host with point := .sent } := by
  have isPending : host.pending = true := by simp [pending, isArmed]
  have grows : host.sentCount ≤ host.identifiers.length := by
    rw [sentCount, if_pos isArmed]
    exact Nat.sub_le _ _
  constructor
  case sent =>
    intro command member
    exact (inv.sent command member).trans_le grows
  case mayPost =>
    intro message isMessage command confirms
    obtain ⟨sent, rest⟩ := inv.mayPost message isMessage command confirms
    exact ⟨sent.trans_le grows, rest⟩
  case posting => exact inv.posting
  case copied => exact inv.copied
  case queue => exact fun id isQueued => ⟨(inv.queue id isQueued).1, (inv.queue id isQueued).2,
    (inv.queue id isQueued).3⟩
  case received =>
    intro deadline id isReceived
    cases isReceived
  case arrived => exact fun _ => inv.arrived isPending
  case awaited => exact fun _ => inv.awaited isPending
  case returns => exact inv.returns

theorem ConfirmInv.wait (inv : ConfirmInv host) (isSent : host.point = .sent) (deadline : Nat) :
    ConfirmInv { host with point := .waiting deadline } := by
  have isPending : host.pending = true := by simp [pending, isSent]
  have same : ({ host with point := .waiting deadline } : Host).sentCount = host.sentCount := by
    simp [sentCount, isSent]
  constructor
  case sent => exact fun command member => same ▸ inv.sent command member
  case mayPost =>
    intro message isMessage command confirms
    rw [same]
    exact inv.mayPost message isMessage command confirms
  case posting => exact inv.posting
  case copied => exact inv.copied
  case queue => exact fun id isQueued => ⟨(inv.queue id isQueued).1, (inv.queue id isQueued).2,
    (inv.queue id isQueued).3⟩
  case received =>
    intro deadline id isReceived
    cases isReceived
  case arrived => exact fun _ => inv.arrived isPending
  case awaited => exact fun _ => inv.awaited isPending
  case returns => exact inv.returns

theorem Confirmed.of_same {id : UInt8} (confirmed : host.Confirmed id)
    (identifiers : target.identifiers = host.identifiers)
    (buffer : target.eventPayloadBuffer = host.eventPayloadBuffer)
    (posted : target.posted = host.posted) : target.Confirmed id := by
  have command : target.command = host.command := by rw [command, command, identifiers]
  constructor
  case identifier => rw [identifiers]; exact confirmed.identifier
  case buffer => rw [buffer, command]; exact confirmed.buffer
  case posted => rw [command, posted]; exact confirmed.posted

theorem ConfirmInv.receive (inv : ConfirmInv host) {deadline : Nat} {id : UInt8}
    (isWaiting : host.point = .waiting deadline) (isQueued : host.eventQueue = some id) :
    ConfirmInv { host with eventQueue := none, point := .received deadline id } := by
  have same : ({ host with eventQueue := none, point := .received deadline id } : Host).sentCount =
      host.sentCount := by
    simp [sentCount, isWaiting]
  constructor
  case sent => exact fun command member => same ▸ inv.sent command member
  case mayPost =>
    intro message isMessage command confirms
    rw [same]
    exact inv.mayPost message isMessage command confirms
  case posting => exact inv.posting
  case copied => exact inv.copied
  case queue =>
    intro other isOther
    cases isOther
  case received =>
    intro _ other isReceived
    obtain ⟨rfl, rfl⟩ := CommandPoint.received.inj isReceived
    exact (inv.queue _ isQueued).of_same rfl rfl rfl
  case arrived =>
    intro isPending
    cases isPending
  case awaited =>
    intro isPending
    cases isPending
  case returns => exact inv.returns

/-- A return that is correct keeps the invariant. -/
theorem ConfirmInv.finish (inv : ConfirmInv host) (notArmed : host.point ≠ .armed)
    (ok expired : Bool)
    (correct : Return.Correct
      ⟨host.command, ok, host.eventPayloadBuffer, expired, decide (host.command ∈ host.posted)⟩) :
    ConfirmInv (host.finish ok expired) := by
  have same : (host.finish ok expired).sentCount = host.sentCount := by
    simp [sentCount, Host.finish, notArmed]
  constructor
  case sent => exact fun command member => same ▸ inv.sent command member
  case mayPost =>
    intro message isMessage command confirms
    rw [same]
    exact inv.mayPost message isMessage command confirms
  case posting => exact inv.posting
  case copied => exact inv.copied
  case queue => exact fun id isQueued => (inv.queue id isQueued).of_same rfl rfl rfl
  case received =>
    intro _ _ isReceived
    cases isReceived
  case arrived =>
    intro isPending
    cases isPending
  case awaited =>
    intro isPending
    cases isPending
  case returns =>
    intro returned member
    rcases List.mem_append.mp member with earlier | last
    · exact inv.returns returned earlier
    · rw [List.mem_singleton.mp last]
      exact correct

theorem ConfirmInv.compare (inv : ConfirmInv host) {deadline : Nat} {id : UInt8}
    (isReceived : host.point = .received deadline id) :
    ConfirmInv
      (host.finish (host.identifiers.getLast? = some id) (deadline ≤ host.now)) := by
  have confirmed := inv.received deadline id isReceived
  refine inv.finish (by simp [isReceived]) _ _ ?_
  rw [Return.Correct, if_pos (by simp [confirmed.identifier])]
  exact confirmed.buffer

theorem ConfirmInv.timeout (inv : ConfirmInv host) {deadline : Nat}
    (isWaiting : host.point = .waiting deadline) (noItem : host.eventQueue = none) :
    ConfirmInv (host.finish false true) := by
  refine inv.finish (by simp [isWaiting]) _ _ ?_
  rw [Return.Correct, if_neg (by simp)]
  refine ⟨rfl, decide_eq_false ?_⟩
  intro posted
  exact inv.arrived (by simp [pending, isWaiting]) posted noItem

/-! ## The steps of the host task -/

theorem ConfirmInv.post (inv : ConfirmInv host) {message : Message}
    (isOutside : host.host = .outside) (mayPost : host.MayPost message) :
    ConfirmInv { host with host := .called message } := by
  constructor
  case sent => exact inv.sent
  case mayPost =>
    intro other isMessage
    obtain rfl : message = other := Option.some.inj isMessage
    exact mayPost
  case posting =>
    intro other isPosting
    cases isPosting
  case copied =>
    intro other isCopied
    cases isCopied
  case queue => exact fun id isQueued => (inv.queue id isQueued).of_same rfl rfl rfl
  case received =>
    intro deadline id isReceived
    exact (inv.received deadline id isReceived).of_same rfl rfl rfl
  case arrived => exact inv.arrived
  case awaited =>
    intro isPending notPosted
    refine .inl ((inv.awaited isPending notPosted).resolve_right ?_)
    simp [isOutside, HostPoint.posting]
  case returns => exact inv.returns

/-- The step between two points at which the message is on its way. -/
theorem ConfirmInv.goOn (inv : ConfirmInv host) {message : Message} {point : HostPoint}
    (wasMessage : host.host.message = some message)
    (isConfirmation : message.confirms = some host.command)
    (isPosting : point.posting = some message) (waitedEventId : UInt8)
    (buffer : Option Message)
    (copied : ∀ other, point = .copied other → buffer = some other) :
    ConfirmInv
      { host with
        waitedEventId := waitedEventId
        eventPayloadBuffer := buffer
        host := point } := by
  have notPosted := (inv.mayPost message wasMessage _ isConfirmation).2.1
  constructor
  case sent => exact inv.sent
  case mayPost =>
    intro other isMessage
    obtain rfl : message = other :=
      Option.some.inj ((HostPoint.message_of_posting isPosting).symm.trans isMessage)
    exact inv.mayPost message wasMessage
  case posting =>
    intro other alsoPosting
    obtain rfl : message = other := Option.some.inj (isPosting.symm.trans alsoPosting)
    exact isConfirmation
  case copied => exact copied
  case queue => exact fun id isQueued => absurd (inv.queue id isQueued).posted notPosted
  case received =>
    intro deadline id isReceived
    exact absurd (inv.received deadline id isReceived).posted notPosted
  case arrived => exact fun _ posted => absurd posted notPosted
  case awaited =>
    intro _ _
    refine .inr ?_
    show point.posting ≠ none
    simp [isPosting]
  case returns => exact inv.returns

/-- The message of another command, or of none, leaves the buffer and the queue alone. -/
theorem ConfirmInv.ignore (inv : ConfirmInv host) {message : Message}
    (isCalled : host.host = .called message)
    (other : ¬ (host.waitedEventId ≠ 0 ∧ host.waitedEventId = message.id)) :
    ConfirmInv (host.handedOver message) := by
  have mayPost := inv.mayPost message (by rw [isCalled]; rfl)
  have posted : ∀ command, command ∈ (host.handedOver message).posted →
      message.confirms = some command ∨ command ∈ host.posted := by
    intro command member
    rcases List.mem_append.mp member with new | old
    · exact .inl (Option.mem_toList.mp new)
    · exact .inr old
  -- A pending command whose confirmation this is would be waited for.
  have notPending : host.pending = true → message.confirms ≠ some host.command := by
    intro isPending confirms
    obtain ⟨_, notPosted, found⟩ := mayPost _ confirms
    rcases inv.awaited isPending notPosted with ⟨awaited, notZero⟩ | isPosting
    · rw [List.getLast?_eq_getElem?] at awaited
      exact other ⟨notZero, Option.some.inj (awaited.symm.trans found)⟩
    · rw [isCalled] at isPosting
      exact isPosting rfl
  have moved : ∀ {id : UInt8}, host.Confirmed id → (host.handedOver message).Confirmed id :=
    fun confirmed => ⟨confirmed.1, confirmed.2, List.mem_append_right _ confirmed.3⟩
  constructor
  case sent =>
    intro command member
    rcases posted command member with new | old
    · exact (mayPost command new).1
    · exact inv.sent command old
  case mayPost =>
    intro _ isMessage
    cases isMessage
  case posting =>
    intro _ isPosting
    cases isPosting
  case copied =>
    intro _ isCopied
    cases isCopied
  case queue => exact fun id isQueued => moved (inv.queue id isQueued)
  case received => exact fun deadline id isReceived => moved (inv.received deadline id isReceived)
  case arrived =>
    intro isPending member
    rcases posted _ member with new | old
    · exact absurd new (notPending isPending)
    · exact inv.arrived isPending old
  case awaited =>
    intro isPending notPosted
    have notBefore : host.command ∉ host.posted :=
      fun member => notPosted (List.mem_append_right _ member)
    refine .inl ((inv.awaited isPending notBefore).resolve_right ?_)
    simp [isCalled, HostPoint.posting]
  case returns => exact inv.returns

/-- The confirmation of the command just issued arrives in the queue. -/
theorem ConfirmInv.overwrite (inv : ConfirmInv host) {message : Message}
    (isCopied : host.host = .copied message) :
    ConfirmInv { host.handedOver message with eventQueue := some message.id } := by
  have isPosting : host.host.posting = some message := by rw [isCopied]; rfl
  have confirms := inv.posting message isPosting
  obtain ⟨isSent, notPosted, found⟩ :=
    inv.mayPost message (HostPoint.message_of_posting isPosting) _ confirms
  have isPosted : host.command ∈ (host.handedOver message).posted :=
    List.mem_append_left _ (Option.mem_toList.mpr confirms)
  have confirmed : (host.handedOver message).Confirmed message.id := by
    refine ⟨?_, ⟨message, inv.copied message isCopied, confirms⟩, isPosted⟩
    exact List.getLast?_eq_getElem?.trans found
  constructor
  case sent =>
    intro command member
    rcases List.mem_append.mp member with new | old
    · have same := confirms.symm.trans (Option.mem_toList.mp new)
      exact Option.some.inj same ▸ isSent
    · exact inv.sent command old
  case mayPost =>
    intro _ isMessage
    cases isMessage
  case posting =>
    intro _ isPosting
    cases isPosting
  case copied =>
    intro _ isCopied
    cases isCopied
  case queue =>
    intro id isQueued
    obtain rfl : message.id = id := Option.some.inj isQueued
    exact confirmed.of_same rfl rfl rfl
  case received =>
    intro deadline id isReceived
    exact absurd (inv.received deadline id isReceived).posted notPosted
  case arrived =>
    intro _ _ noItem
    cases noItem
  case awaited => exact fun _ missing => absurd isPosted missing
  case returns => exact inv.returns

theorem ConfirmInv.nextHost (inv : ConfirmInv host) (unmixed : host.Unmixed .host)
    (step : host.nextHost = some target) : ConfirmInv target := by
  unfold Host.nextHost at step
  split at step
  · cases step
  · rename_i message isCalled
    by_cases isAwaited : host.waitedEventId ≠ 0 ∧ host.waitedEventId = message.id
    · rw [if_pos isAwaited] at step
      split at step
      · cases step
        exact inv.goOn (by rw [isCalled]; rfl)
          (unmixed message (by simp [isCalled, HostPoint.checked]) isAwaited.1 isAwaited.2) rfl _ _
          (by simp)
      · cases step
    · rw [if_neg isAwaited] at step
      cases step
      exact inv.ignore isCalled isAwaited
  · rename_i message isMatched
    cases step
    have isPosting : host.host.posting = some message := by rw [isMatched]; rfl
    exact inv.goOn (HostPoint.message_of_posting isPosting) (inv.posting message isPosting) rfl
      0 _ (by simp)
  · rename_i message isCleared
    cases step
    have isPosting : host.host.posting = some message := by rw [isCleared]; rfl
    exact inv.goOn (HostPoint.message_of_posting isPosting) (inv.posting message isPosting) rfl
      _ _ fun other isCopied => congrArg some (HostPoint.copied.inj isCopied)
  · rename_i message isCopied
    cases step
    exact inv.overwrite isCopied

theorem ConfirmInv.tick (inv : ConfirmInv host) :
    ConfirmInv { host with now := host.now + 1 } where
  sent := inv.sent
  mayPost := inv.mayPost
  posting := inv.posting
  copied := inv.copied
  queue := fun id isQueued => (inv.queue id isQueued).of_same rfl rfl rfl
  received := fun deadline id isReceived =>
    (inv.received deadline id isReceived).of_same rfl rfl rfl
  arrived := inv.arrived
  awaited := inv.awaited
  returns := inv.returns

theorem ConfirmInv.next {label : Label} (inv : ConfirmInv host) (unmixed : host.Unmixed label)
    (step : Host.next host label = some target) : ConfirmInv target := by
  unfold Host.next at step
  split at step
  · split at step
    · rename_i isIdle
      cases step
      exact inv.issue isIdle unmixed
    · cases step
  · split at step
    · rename_i isArmed
      cases step
      exact inv.send isArmed
    · cases step
  · split at step
    · rename_i isSent
      cases step
      exact inv.wait isSent _
    · cases step
  · split at step
    · rename_i isWaiting isQueued
      cases step
      exact inv.receive isWaiting isQueued
    · cases step
  · split at step
    · rename_i isReceived
      cases step
      exact inv.compare isReceived
    · cases step
  · split at step
    · rename_i isWaiting noItem
      split at step
      · cases step
        exact inv.timeout isWaiting noItem
      · cases step
    · cases step
  · split at step
    · rename_i called
      cases step
      exact inv.post called.1 called.2
    · cases step
  · exact inv.nextHost unmixed step
  · cases step
    exact inv.tick

/-! ## Every return is correct -/

/-- In every run whose commands do not mix, each return belongs to its own command. -/
theorem returns_correct
    (reachable : GuardedReachable Host.next Unmixed start host) :
    ∀ returned ∈ host.returns, returned.Correct :=
  (reachable.invariant confirmInv_start fun _ _ _ inv unmixed step => inv.next unmixed step).returns

/-- A confirmation is handed over, matched and put into the queue. -/
def postConfirmation (id : UInt8) (command : Nat) : List Label :=
  .post ⟨id, [], some command⟩ :: List.replicate 4 .host

/-- Two commands, of which the first is confirmed in time and the second not at all. -/
def twoCommands : List Label :=
  [.issue 9, .send] ++ postConfirmation 9 0 ++ [.wait 100, .receive, .compare] ++
    [.issue 10, .send, .wait 1, .tick, .timeout]

def afterTwoCommands : Host :=
  (run next start twoCommands).get (by decide)

theorem twoCommands_correct :
    afterTwoCommands.returns.map Return.ok = [true, false] ∧
      afterTwoCommands.returns.Forall Return.Correct := by
  have unmixed : StepsMeet next start twoCommands Unmixed := by decide
  refine ⟨by decide, List.forall_iff_forall_mem.mpr ?_⟩
  exact returns_correct (unmixed.guardedReachable (List.prefix_refl _) (Option.some_get _).symm)

/-- A command times out, its confirmation comes late, and the next command has the same
identifier. -/
def lateConfirmation : List Label :=
  [.issue 9, .send, .wait 0, .timeout] ++ postConfirmation 9 0 ++
    [.issue 9, .send, .wait 100, .receive, .compare]

/-- The second command gets the confirmation of the first. -/
theorem lateConfirmation_not_correct :
    ∃ host, Reachable next start host ∧ ¬ ∀ returned ∈ host.returns, returned.Correct := by
  refine ⟨(run next start lateConfirmation).get (by decide),
    reachable_of_run (Option.some_get _).symm, ?_⟩
  intro correct
  have wrong := correct ⟨1, true, some ⟨9, [], some 0⟩, false, false⟩ (by decide)
  obtain ⟨message, isPayload, confirms⟩ := wrong
  cases isPayload
  cases confirms

end Host

end FwkRtos.SlWfx.Confirmation
