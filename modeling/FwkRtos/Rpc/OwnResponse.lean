import FwkRtos.Rpc.Client

/-!
# Whose response a remote call returns

Nothing ties the reception of a response to the task that sent the request: the
event bit of the port goes to whichever client asks for it first, or to all that
wait.  Every call returns its own response as long as the bit only ever goes to
the client that the oldest unread response is for.
-/

namespace FwkRtos.Rpc

open FwkRtos.Bytes
open FwkRtos.Osal
open FwkRtos.Transition

universe u v

/-- The client has the event bit and has not enabled the trigger again. -/
def ClientPoint.receiving : ClientPoint → Bool
  | .inWord _ => true
  | .inBuf _ _ => true
  | .enableTrigger _ _ => true
  | _ => false

section

variable {T : Type u} {H : Type v}

/-- A response as the host sends it. -/
def response (entry : CallId T × List UInt8) : List UInt8 :=
  intBytes entry.1.fcode ++ entry.2

/-- What follows the port in the frame of a response. -/
def frameBody (entry : CallId T × List UInt8) : List UInt8 :=
  (leBytes 4 (response entry).length).reverse ++ response entry

/-- The frames of the responses that are not read yet. -/
def frames (port : UInt8) (entries : List (CallId T × List UInt8)) : List UInt8 :=
  entries.flatMap fun entry => frame port (response entry)

theorem frames_cons (port : UInt8) (entry : CallId T × List UInt8)
    (entries : List (CallId T × List UInt8)) :
    frames port (entry :: entries) = port :: (frameBody entry ++ frames port entries) :=
  rfl

theorem frames_append (port : UInt8) (first second : List (CallId T × List UInt8)) :
    frames port (first ++ second) = frames port first ++ frames port second :=
  List.flatMap_append

/-- How far the reception of the oldest response has come, and by whom: from the
trigger, the deferred `set_bits`, the event bit, the bytes under way and the
responses not read yet. -/
inductive Stage (port : UInt8) : Bool → Bool → Bool → List UInt8 →
    List (CallId T × List UInt8) → Option (T × ClientPoint) → Prop
  | ready {unread : List (CallId T × List UInt8)} :
      Stage port true false false (frames port unread) unread none
  | deferred {entry : CallId T × List UInt8} {rest : List (CallId T × List UInt8)} :
      Stage port false true false (frameBody entry ++ frames port rest) (entry :: rest) none
  | isSet {entry : CallId T × List UInt8} {rest : List (CallId T × List UInt8)} :
      Stage port false false true (frameBody entry ++ frames port rest) (entry :: rest) none
  | inWord {client : T} {call : ClientCall} {params : List UInt8}
      {rest : List (CallId T × List UInt8)} :
      Stage port false false false (frameBody (call.id client, params) ++ frames port rest)
        ((call.id client, params) :: rest) (some (client, .inWord call))
  | inBuf {client : T} {call : ClientCall} {params : List UInt8}
      {rest : List (CallId T × List UInt8)} :
      Stage port false false false (response (call.id client, params) ++ frames port rest)
        ((call.id client, params) :: rest)
        (some (client, .inBuf call (response (call.id client, params)).length))
  | enableTrigger {client : T} {call : ClientCall} {message : List UInt8}
      {unread : List (CallId T × List UInt8)} :
      Stage port false false false (frames port unread) unread
        (some (client, .enableTrigger call message))

section Stages

variable {port : UInt8} {enabled deferred isSet : Bool} {stream : List UInt8}
  {unread : List (CallId T × List UInt8)} {reader : Option (T × ClientPoint)} {client : T}
  {call : ClientCall}

/-- Sending another response does not disturb the reception. -/
theorem Stage.transmit (stage : Stage port enabled deferred isSet stream unread reader)
    (entry : CallId T × List UInt8) :
    Stage port enabled deferred isSet (stream ++ frame port (response entry)) (unread ++ [entry])
      reader := by
  have more : ∀ rest, frames port rest ++ frame port (response entry) =
      frames port (rest ++ [entry]) := by
    intro rest
    rw [frames_append]
    exact congrArg _ (List.append_nil _).symm
  cases stage with
  | ready =>
      rw [more]
      exact .ready
  | deferred =>
      rw [List.append_assoc, more]
      exact .deferred
  | isSet =>
      rw [List.append_assoc, more]
      exact .isSet
  | inWord =>
      rw [List.append_assoc, more]
      exact .inWord
  | inBuf =>
      rw [List.append_assoc, more]
      exact .inBuf
  | enableTrigger =>
      rw [more]
      exact .enableTrigger

/-- The interrupt handler takes the port of the oldest response. -/
theorem Stage.isr {byte : UInt8}
    (stage : Stage port true deferred isSet (byte :: stream) unread reader) :
    byte = port ∧ deferred = false ∧ reader = none ∧
      Stage port false true isSet stream unread reader := by
  generalize streamEq : byte :: stream = whole at stage
  cases stage with
  | @ready unread =>
      cases unread with
      | nil => cases streamEq
      | cons entry rest =>
          rw [frames_cons] at streamEq
          cases streamEq
          exact ⟨rfl, rfl, rfl, .deferred⟩

/-- The event bit is set, or goes to a client that the oldest response is for. -/
theorem Stage.setBits (stage : Stage port enabled true isSet stream unread reader) :
    reader = none ∧ Stage port enabled false true stream unread none ∧
      ∀ client call, (unread.head?.map Prod.fst) = some (call.id client) →
        Stage port enabled false false stream unread (some (client, .inWord call)) := by
  cases stage with
  | @deferred entry rest =>
      refine ⟨rfl, .isSet, fun client call addressed => ?_⟩
      obtain ⟨id, params⟩ := entry
      obtain rfl : id = call.id client := Option.some.inj addressed
      exact .inWord

/-- A client that finds the event bit set, and that the oldest response is for,
begins to read it. -/
theorem Stage.getBits (stage : Stage port enabled deferred true stream unread reader)
    (addressed : (unread.head?.map Prod.fst) = some (call.id client)) :
    reader = none ∧
      Stage port enabled deferred false stream unread (some (client, .inWord call)) := by
  cases stage with
  | @isSet entry rest =>
      obtain ⟨id, params⟩ := entry
      obtain rfl : id = call.id client := Option.some.inj addressed
      exact ⟨rfl, .inWord⟩

theorem Stage.inWord_step
    (stage : Stage port enabled deferred isSet stream unread (some (client, .inWord call)))
    (bounded : ∀ entry ∈ unread, (response entry).length < 2 ^ 32) :
    Stage port enabled deferred isSet (stream.drop 4) unread
      (some (client, .inBuf call (leValue (stream.take 4).reverse))) := by
  cases stage with
  | @inWord _ _ params rest =>
      have fits := bounded _ List.mem_cons_self
      have width : (leBytes 4 (response (call.id client, params)).length).reverse.length = 4 := by
        rw [List.length_reverse, length_leBytes]
      rw [frameBody, List.append_assoc, List.take_left' width, List.drop_left' width,
        List.reverse_reverse, leValue_leBytes fits]
      exact .inBuf

/-- The client reads the response to its own call. -/
theorem Stage.inBuf_step {length : Nat}
    (stage : Stage port enabled deferred isSet stream unread (some (client, .inBuf call length))) :
    ∃ params, (call.id client, params) ∈ unread ∧
      stream.take length = response (call.id client, params) ∧
      Stage port enabled deferred isSet (stream.drop length) unread.tail
        (some (client, .enableTrigger call (stream.take length))) := by
  cases stage with
  | @inBuf _ _ params rest =>
      refine ⟨params, List.mem_cons_self, List.take_left, ?_⟩
      rw [List.drop_left]
      exact .enableTrigger

theorem Stage.enableTrigger_step {message : List UInt8}
    (stage : Stage port enabled deferred isSet stream unread
      (some (client, .enableTrigger call message))) :
    Stage port true deferred isSet stream unread none := by
  cases stage with
  | enableTrigger => exact .ready

end Stages

/-- The client that is receiving, if any. -/
def ReadBy (task : T → ClientPoint) : Option (T × ClientPoint) → Prop
  | none => ∀ t, (task t).receiving = false
  | some (client, point) =>
      task client = point ∧ point.receiving = true ∧ ∀ t, t ≠ client → (task t).receiving = false

section Readers

variable {task : T → ClientPoint} {client : T} {own point : ClientPoint}
  {reader : Option (T × ClientPoint)}

/-- A client at a receiving point is the one that receives. -/
theorem ReadBy.eq_of_receiving (readBy : ReadBy task reader)
    (receiving : (task client).receiving = true) : reader = some (client, task client) := by
  rcases reader with _ | ⟨other, point⟩
  · rw [readBy client] at receiving
    cases receiving
  · obtain ⟨rfl, _, alone⟩ := readBy
    by_cases same : client = other
    · rw [same]
    · rw [alone client same] at receiving
      cases receiving

variable [DecidableEq T]

theorem ReadBy.quiet (readBy : ReadBy task reader) (before : (task client).receiving = false)
    (after : own.receiving = false) : ReadBy (Function.update task client own) reader := by
  rcases reader with _ | ⟨other, point⟩
  · intro t
    by_cases same : t = client
    · rw [same, Function.update_self]
      exact after
    · rw [Function.update_of_ne same]
      exact readBy t
  · obtain ⟨rfl, receiving, alone⟩ := readBy
    have different : other ≠ client := by
      rintro rfl
      rw [before] at receiving
      cases receiving
    refine ⟨Function.update_of_ne different _ _, receiving, fun t notOther => ?_⟩
    by_cases same : t = client
    · rw [same, Function.update_self]
      exact after
    · rw [Function.update_of_ne same]
      exact alone t notOther

theorem ReadBy.begin (readBy : ReadBy task none) (receiving : own.receiving = true) :
    ReadBy (Function.update task client own) (some (client, own)) := by
  refine ⟨Function.update_self _ _ _, receiving, fun t different => ?_⟩
  rw [Function.update_of_ne different]
  exact readBy t

theorem ReadBy.continue (readBy : ReadBy task (some (client, point)))
    (receiving : own.receiving = true) :
    ReadBy (Function.update task client own) (some (client, own)) := by
  refine ⟨Function.update_self _ _ _, receiving, fun t different => ?_⟩
  rw [Function.update_of_ne different]
  exact readBy.2.2 t different

theorem ReadBy.finish (readBy : ReadBy task (some (client, point)))
    (finished : own.receiving = false) : ReadBy (Function.update task client own) none := by
  intro t
  by_cases same : t = client
  · rw [same, Function.update_self]
    exact finished
  · rw [Function.update_of_ne same]
    exact readBy.2.2 t same

end Readers

/-! ## The results -/

/-- A client that has read a response has read its own, and never finds another
function code in it. -/
def ClientPoint.Right (log : List (CallId T × List UInt8)) (client : T) : ClientPoint → Prop
  | .enableTrigger call message => ∃ params, message = response (call.id client, params) ∧
      (call.id client, params) ∈ log
  | .parse call message => ∃ params, message = response (call.id client, params) ∧
      (call.id client, params) ∈ log
  | .idle (some (call, params)) => (call.id client, params) ∈ log
  | .assertionFailed _ => False
  | _ => True

theorem ClientPoint.Right.mono {log more : List (CallId T × List UInt8)} {client : T}
    {point : ClientPoint} (right : point.Right log client) :
    point.Right (log ++ more) client := by
  unfold ClientPoint.Right at *
  split
  · obtain ⟨params, message, logged⟩ := right
    exact ⟨params, message, List.mem_append_left _ logged⟩
  · obtain ⟨params, message, logged⟩ := right
    exact ⟨params, message, List.mem_append_left _ logged⟩
  · exact List.mem_append_left _ right
  · exact right
  · trivial

theorem ClientPoint.Right.wake {log : List (CallId T × List UInt8)} {client : T}
    {point : ClientPoint} (right : point.Right log client) : point.wake.Right log client := by
  unfold ClientPoint.wake
  split
  · trivial
  · exact right

/-- The client that the oldest unread response is for, with its call. -/
def Link.addressee (link : Link T H) : Option (CallId T) :=
  link.unread.head?.map Prod.fst

/-- A step that hands the event bit of the port to clients hands it only to the
one that the oldest unread response is for. -/
def RightReceiver (state : LinkState T H) : LinkLabel T → Prop
  | .task client .run => ∀ call, state.task client = .getBits call →
      state.shared.eventGroup.isSet = true → state.shared.addressee = some (call.id client)
  | .system .setBits => ∀ client call, state.task client = .blocked call →
      state.shared.addressee = some (call.id client)
  | .task _ (.call _ _) | .system .isr | .system .serve | .system .transmit => True

/-- Every call that returned copied back what the host answered to that very
call, and no assertion of a call has failed. -/
structure OwnResponses (state : LinkState T H) : Prop where
  returned : ∀ client call params, state.task client = .idle (some (call, params)) →
    (call.id client, params) ∈ state.shared.log
  noFailure : ∀ client call, state.task client ≠ .assertionFailed call

/-- What own responses rest on. -/
structure LinkInv (port : UInt8) (state : LinkState T H) : Prop where
  stage : ∃ reader, ReadBy state.task reader ∧
    Stage port state.shared.triggerEnabled state.shared.deferred state.shared.eventGroup.isSet
      state.shared.stream state.shared.unread reader
  waiters : ∀ client, client ∈ state.shared.eventGroup.waiters ↔
    ∃ call, state.task client = .blocked call
  unread : ∀ entry ∈ state.shared.unread,
    entry ∈ state.shared.log ∧ (response entry).length < 2 ^ 32
  pending : ∀ id message, state.shared.pending = some (id, message) →
    ∃ params, message = response (id, params) ∧ (id, params) ∈ state.shared.log ∧
      (response (id, params)).length < 2 ^ 32
  requests : ∀ id request, (id, request) ∈ state.shared.requests →
    intOfBytes (slice request 0 4) = id.fcode
  points : ∀ client, (state.task client).Right state.shared.log client

theorem linkInv_start (port : UInt8) (host : H) :
    LinkInv port (startLink host : LinkState T H) where
  stage := ⟨none, fun _ => rfl,
    show Stage port true false false (frames port []) [] none from .ready⟩
  waiters := fun client => by simp [startLink, EventFlag.clear]
  unread := fun _ member => by cases member
  pending := fun _ _ pending => by cases pending
  requests := fun _ _ member => by cases member
  points := fun _ => trivial

section Steps

variable {port : UInt8} {driver : HostDriver H} {source : LinkState T H} {client : T}
  {event : ClientEvent} {effect : LinkEffect T H}

/-- A client's step touches no other client and nothing of the host; it reads
responses away and adds requests of its own. -/
theorem clientStep_frame
    (step : clientStep client event source.shared (source.task client) = some effect) :
    effect.others = id ∧ effect.shared.log = source.shared.log ∧
      effect.shared.pending = source.shared.pending ∧
      (∀ entry ∈ effect.shared.unread, entry ∈ source.shared.unread) ∧
      ∀ entry ∈ effect.shared.requests, entry ∈ source.shared.requests ∨
        ∃ call : ClientCall, entry = (call.id client, call.message) := by
  have keeps : ∀ entry : CallId T × List UInt8, entry ∈ source.shared.requests →
      entry ∈ source.shared.requests ∨
        ∃ call : ClientCall, entry = (call.id client, call.message) :=
    fun _ member => .inl member
  cases event with
  | call fcode request =>
      cases point : source.task client <;> rw [point] at step <;> cases step
      exact ⟨rfl, rfl, rfl, fun _ => id, keeps⟩
  | run =>
      cases point : source.task client with
      | idle | blocked | assertionFailed => rw [point] at step; cases step
      | txLock =>
          rw [point] at step
          obtain ⟨_, _, rfl⟩ := Option.map_eq_some_iff.mp step
          exact ⟨rfl, rfl, rfl, fun _ => id, keeps⟩
      | txSend call =>
          rw [point] at step
          cases step
          refine ⟨rfl, rfl, rfl, fun _ => id, fun entry member => ?_⟩
          rcases List.mem_append.mp member with before | sent
          · exact .inl before
          · exact .inr ⟨call, List.mem_singleton.mp sent⟩
      | txUnlock | getBits | enableTrigger =>
          rw [point] at step
          cases step
          exact ⟨rfl, rfl, rfl, fun _ => id, keeps⟩
      | inWord | parse =>
          rw [point] at step
          simp only [clientStep] at step
          split at step <;> cases step <;> exact ⟨rfl, rfl, rfl, fun _ => id, keeps⟩
      | inBuf =>
          rw [point] at step
          simp only [clientStep, Option.ite_none_right_eq_some, Option.some.injEq] at step
          obtain ⟨_, rfl⟩ := step
          exact ⟨rfl, rfl, rfl, fun _ => List.mem_of_mem_tail, keeps⟩

/-- A client that reads or checks a response has its own. -/
theorem LinkInv.client_right (inv : LinkInv port source)
    (step : clientStep client event source.shared (source.task client) = some effect) :
    effect.own.Right source.shared.log client := by
  have right := inv.points client
  cases event with
  | call fcode request =>
      cases point : source.task client <;> rw [point] at step <;> cases step
      trivial
  | run =>
      cases point : source.task client with
      | idle | blocked | assertionFailed => rw [point] at step; cases step
      | txLock =>
          rw [point] at step
          obtain ⟨_, _, rfl⟩ := Option.map_eq_some_iff.mp step
          trivial
      | txSend | txUnlock =>
          rw [point] at step
          cases step
          trivial
      | getBits call =>
          rw [point] at step
          cases step
          dsimp only
          split <;> trivial
      | inWord call =>
          rw [point] at step
          simp only [clientStep, Option.ite_none_right_eq_some, Option.some.injEq] at step
          obtain ⟨_, rfl⟩ := step
          trivial
      | inBuf call length =>
          obtain ⟨reader, readBy, stage⟩ := inv.stage
          obtain rfl := readBy.eq_of_receiving (by rw [point]; rfl)
          rw [point] at step stage
          simp only [clientStep, Option.ite_none_right_eq_some, Option.some.injEq] at step
          obtain ⟨_, rfl⟩ := step
          obtain ⟨params, member, message, _⟩ := stage.inBuf_step
          exact ⟨params, message, (inv.unread _ member).1⟩
      | enableTrigger call message =>
          rw [point] at step right
          cases step
          exact right
      | parse call message =>
          rw [point] at step right
          obtain ⟨params, rfl, logged⟩ := right
          have matching :
              intOfBytes (slice (response (call.id client, params)) 0 4) = call.fcode := by
            rw [response, slice_append_left (length_intBytes _), intOfBytes_intBytes]
            rfl
          have notEmpty : (response (call.id client, params)).length ≠ 0 := by
            rw [response, List.length_append, length_intBytes]
            omega
          simp only [clientStep, if_pos (And.intro notEmpty matching), Option.some.injEq] at step
          subst step
          show (call.id client, (response (call.id client, params)).drop 4) ∈ source.shared.log
          rw [response, List.drop_left' (length_intBytes _)]
          exact logged

theorem ClientPoint.receiving_wake {point : ClientPoint}
    (notBlocked : ∀ call, point ≠ .blocked call) : point.wake = point := by
  cases point with
  | blocked call => exact (notBlocked call rfl).elim
  | _ => rfl

/-- The event bit is kept for later when no client waits, and else goes to the
one client that does. -/
theorem LinkInv.setBits_stage (inv : LinkInv port source)
    (receiver : ∀ client call, source.task client = .blocked call →
      source.shared.addressee = some (call.id client))
    (deferred : source.shared.deferred = true) :
    ∃ reader, ReadBy (fun t => (source.task t).wake) reader ∧
      Stage port source.shared.triggerEnabled false source.shared.eventGroup.setBits.isSet
        source.shared.stream source.shared.unread reader := by
  obtain ⟨reader, readBy, stage⟩ := inv.stage
  rw [deferred] at stage
  obtain ⟨rfl, unclaimed, claimed⟩ := stage.setBits
  by_cases waits : ∃ client call, source.task client = .blocked call
  · obtain ⟨client, call, point⟩ := waits
    have addressed := receiver client call point
    have waiting : source.shared.eventGroup.waiters ≠ [] :=
      List.ne_nil_of_mem ((inv.waiters client).mpr ⟨call, point⟩)
    refine ⟨some (client, .inWord call), ⟨?_, rfl, ?_⟩, ?_⟩
    · show (source.task client).wake = _
      rw [point]
      rfl
    · intro other different
      show (source.task other).wake.receiving = false
      rw [ClientPoint.receiving_wake]
      · exact readBy other
      · intro otherCall otherPoint
        have same := addressed.symm.trans (receiver other otherCall otherPoint)
        exact different (congrArg CallId.client (Option.some.inj same)).symm
    · rw [EventFlag.setBits, List.isEmpty_eq_false_iff.mpr waiting]
      exact claimed client call addressed
  · have nobody : ∀ client call, source.task client ≠ .blocked call :=
      fun client call point => waits ⟨client, call, point⟩
    have noWaiters : source.shared.eventGroup.waiters = [] := by
      apply List.eq_nil_iff_forall_not_mem.mpr
      intro client member
      obtain ⟨call, point⟩ := (inv.waiters client).mp member
      exact nobody client call point
    refine ⟨none, fun client => ?_, ?_⟩
    · show (source.task client).wake.receiving = false
      rw [ClientPoint.receiving_wake (nobody client)]
      exact readBy client
    · rw [EventFlag.setBits, noWaiters]
      exact unclaimed

/-- A response of the host, as its thread sends it. -/
theorem response_serve (driver : HostDriver H) (host : H) {id : CallId T}
    {request : List UInt8} (fcode : intOfBytes (slice request 0 4) = id.fcode) :
    intBytes (intOfBytes (slice request 0 4)) ++ (driver.serve host request).1 =
        response (id, (driver.serve host request).1) ∧
      (response (id, (driver.serve host request).1)).length < 2 ^ 32 := by
  constructor
  · rw [fcode]
    rfl
  · have bounded := driver.bounded host request
    rw [response, List.length_append, length_intBytes]
    exact bounded.trans (by decide)

theorem LinkInv.applySystem {event : SystemEvent} {effect : Link T H × (ClientPoint → ClientPoint)}
    (inv : LinkInv port source) (receiver : RightReceiver source (.system event))
    (step : systemStep driver port event source.shared = some effect) :
    LinkInv port (source.applySystem effect) := by
  cases event with
  | isr =>
      simp only [systemStep] at step
      split at step
      · next byte stream bytes =>
          split at step
          · next enabled =>
              cases step
              obtain ⟨reader, readBy, stage⟩ := inv.stage
              rw [enabled, bytes] at stage
              obtain ⟨rfl, notDeferred, _, next⟩ := stage.isr
              refine ⟨⟨reader, readBy, ?_⟩, inv.waiters, inv.unread, inv.pending, inv.requests,
                inv.points⟩
              show Stage _ false (source.shared.deferred || _) _ _ _ _
              rw [notDeferred, beq_self_eq_true, Bool.false_or]
              exact next
          · cases step
      · cases step
  | setBits =>
      simp only [systemStep, Option.ite_none_right_eq_some, Option.some.injEq] at step
      obtain ⟨deferred, rfl⟩ := step
      refine ⟨inv.setBits_stage receiver deferred, fun client => ?_, inv.unread, inv.pending,
        inv.requests, fun client => (inv.points client).wake⟩
      constructor
      · intro member
        cases member
      · rintro ⟨call, point⟩
        rw [Tasks.applySystem_task] at point
        cases before : source.task client <;> rw [before] at point <;> cases point
  | serve =>
      simp only [systemStep] at step
      split at step
      · next id request requests notPending queue =>
          cases step
          have fcode := inv.requests id request (by rw [queue]; exact List.mem_cons_self)
          obtain ⟨sent, bounded⟩ := response_serve driver source.shared.host fcode
          refine ⟨inv.stage, inv.waiters, fun entry member => ?_,
            fun pendingId message pending => ?_,
            fun otherId other member => ?_, fun client => (inv.points client).mono⟩
          · exact ⟨List.mem_append_left _ (inv.unread entry member).1, (inv.unread entry member).2⟩
          · cases pending
            exact ⟨_, sent, List.mem_append_right _ (List.mem_singleton_self _), bounded⟩
          · exact inv.requests otherId other (by rw [queue]; exact List.mem_cons_of_mem _ member)
      · cases step
  | transmit =>
      simp only [systemStep] at step
      split at step
      · next id message pending =>
          cases step
          obtain ⟨params, rfl, logged, bounded⟩ := inv.pending id message pending
          have params_eq : (response (id, params)).drop 4 = params :=
            List.drop_left' (length_intBytes _)
          obtain ⟨reader, readBy, stage⟩ := inv.stage
          refine ⟨⟨reader, readBy, ?_⟩, inv.waiters, fun entry member => ?_,
            fun _ _ other => (by cases other), inv.requests, inv.points⟩
          · rw [Tasks.applySystem_shared, params_eq]
            exact stage.transmit (id, params)
          · rw [Tasks.applySystem_shared, params_eq] at member
            rcases List.mem_append.mp member with before | sent
            · exact inv.unread entry before
            · obtain rfl := List.mem_singleton.mp sent
              exact ⟨logged, bounded⟩
      · cases step

/-- A client that looks for the event bit takes it, or begins to wait for it. -/
theorem getBits_cases {link : Link T H} {call : ClientCall}
    (step : clientStep client .run link (.getBits call) = some effect) :
    link.eventGroup.isSet = true ∧
        effect =
          { shared := { link with eventGroup := { link.eventGroup with isSet := false } }
            own := .inWord call } ∨
      link.eventGroup.isSet = false ∧
        effect =
          { shared := { link with
              eventGroup := { link.eventGroup with
                waiters := link.eventGroup.waiters ++ [client] } }
            own := .blocked call } := by
  have patient : ¬ rtosOsalPortWaitForever = rtosOsalPortNoWait := by decide
  simp only [clientStep, EventFlag.getBits, if_neg patient, Option.some.injEq] at step
  by_cases isSet : link.eventGroup.isSet = true
  · rw [if_pos isSet] at step
    exact .inl ⟨isSet, step.symm⟩
  · rw [if_neg isSet] at step
    exact .inr ⟨Bool.eq_false_of_not_eq_true isSet, step.symm⟩

variable [DecidableEq T]

/-- The reception goes on, whichever step a client takes. -/
theorem LinkInv.client_stage (inv : LinkInv port source)
    (receiver : RightReceiver source (.task client event))
    (step : clientStep client event source.shared (source.task client) = some effect) :
    ∃ reader, ReadBy (Function.update source.task client effect.own) reader ∧
      Stage port effect.shared.triggerEnabled effect.shared.deferred
        effect.shared.eventGroup.isSet effect.shared.stream effect.shared.unread reader := by
  obtain ⟨reader, readBy, stage⟩ := inv.stage
  cases event with
  | call fcode request =>
      cases point : source.task client <;> rw [point] at step <;> cases step
      exact ⟨reader, readBy.quiet (by rw [point]; rfl) rfl, stage⟩
  | run =>
      cases point : source.task client with
      | idle | blocked | assertionFailed => rw [point] at step; cases step
      | txLock =>
          rw [point] at step
          obtain ⟨_, _, rfl⟩ := Option.map_eq_some_iff.mp step
          exact ⟨reader, readBy.quiet (by rw [point]; rfl) rfl, stage⟩
      | txSend | txUnlock =>
          rw [point] at step
          cases step
          exact ⟨reader, readBy.quiet (by rw [point]; rfl) rfl, stage⟩
      | getBits call =>
          rw [point] at step
          rcases getBits_cases step with ⟨isSet, rfl⟩ | ⟨_, rfl⟩
          · rw [isSet] at stage
            obtain ⟨rfl, next⟩ := stage.getBits (receiver call point isSet)
            exact ⟨_, readBy.begin rfl, next⟩
          · exact ⟨reader, readBy.quiet (by rw [point]; rfl) rfl, stage⟩
      | inWord call =>
          obtain rfl := readBy.eq_of_receiving (by rw [point]; rfl)
          rw [point] at step stage readBy
          simp only [clientStep, Option.ite_none_right_eq_some, Option.some.injEq] at step
          obtain ⟨_, rfl⟩ := step
          exact ⟨_, readBy.continue rfl, stage.inWord_step fun entry member =>
            (inv.unread entry member).2⟩
      | inBuf call length =>
          obtain rfl := readBy.eq_of_receiving (by rw [point]; rfl)
          rw [point] at step stage readBy
          simp only [clientStep, Option.ite_none_right_eq_some, Option.some.injEq] at step
          obtain ⟨_, rfl⟩ := step
          obtain ⟨_, _, _, next⟩ := stage.inBuf_step
          exact ⟨_, readBy.continue rfl, next⟩
      | enableTrigger call message =>
          obtain rfl := readBy.eq_of_receiving (by rw [point]; rfl)
          rw [point] at step stage readBy
          cases step
          exact ⟨none, readBy.finish rfl, stage.enableTrigger_step⟩
      | parse call message =>
          rw [point] at step
          simp only [clientStep] at step
          split at step <;> cases step <;>
            exact ⟨reader, readBy.quiet (by rw [point]; rfl) rfl, stage⟩

/-- A client waits for the event bit exactly while it is blocked. -/
theorem LinkInv.client_waiters (inv : LinkInv port source)
    (step : clientStep client event source.shared (source.task client) = some effect) (any : T) :
    any ∈ effect.shared.eventGroup.waiters ↔
      ∃ call, Function.update source.task client effect.own any = .blocked call := by
  have before := inv.waiters any
  have unchanged : effect.shared.eventGroup.waiters = source.shared.eventGroup.waiters →
      (∀ call, source.task client ≠ .blocked call) → (∀ call, effect.own ≠ .blocked call) →
      (any ∈ effect.shared.eventGroup.waiters ↔
        ∃ call, Function.update source.task client effect.own any = .blocked call) := by
    intro same wasNot isNot
    rw [same, before]
    by_cases here : any = client
    · subst here
      rw [Function.update_self]
      exact ⟨fun ⟨call, point⟩ => (wasNot call point).elim,
        fun ⟨call, point⟩ => (isNot call point).elim⟩
    · rw [Function.update_of_ne here]
  cases event with
  | call fcode request =>
      cases point : source.task client <;> rw [point] at step <;> cases step
      exact unchanged rfl (by simp [point]) (by simp)
  | run =>
      cases point : source.task client with
      | idle | blocked | assertionFailed => rw [point] at step; cases step
      | txLock =>
          rw [point] at step
          obtain ⟨_, _, rfl⟩ := Option.map_eq_some_iff.mp step
          exact unchanged rfl (by simp [point]) (by simp)
      | txSend | txUnlock | enableTrigger =>
          rw [point] at step
          cases step
          exact unchanged rfl (by simp [point]) (by simp)
      | getBits call =>
          rw [point] at step
          rcases getBits_cases step with ⟨_, rfl⟩ | ⟨_, rfl⟩
          · exact unchanged rfl (by simp [point]) (by simp)
          · by_cases here : any = client
            · subst here
              simp
            · rw [Function.update_of_ne here, ← before]
              simp [here]
      | inWord | inBuf | parse =>
          rw [point] at step
          simp only [clientStep] at step
          split at step <;> cases step <;> exact unchanged rfl (by simp [point]) (by simp)

theorem LinkInv.apply (inv : LinkInv port source)
    (receiver : RightReceiver source (.task client event))
    (step : clientStep client event source.shared (source.task client) = some effect) :
    LinkInv port (source.apply client effect) := by
  obtain ⟨others, log, pending, unread, requests⟩ := clientStep_frame step
  have tasks : (source.apply client effect).task =
      Function.update source.task client effect.own := by
    rw [Tasks.apply, others]
    rfl
  constructor
  · rw [tasks]
    exact inv.client_stage receiver step
  · rw [tasks]
    exact inv.client_waiters step
  · intro entry member
    rw [Tasks.apply_shared, log]
    exact inv.unread entry (unread entry member)
  · rw [Tasks.apply_shared, log, pending]
    exact inv.pending
  · intro id request member
    rcases requests _ member with before | ⟨call, isOwn⟩
    · exact inv.requests id request before
    · cases isOwn
      rw [ClientCall.message, slice_append_left (length_intBytes _), intOfBytes_intBytes]
      rfl
  · rw [Tasks.apply_shared, log]
    apply Tasks.forall_apply (P := ClientPoint.Right source.shared.log)
    · exact inv.client_right step
    · intro other _
      rw [others]
      exact inv.points other

theorem LinkInv.next {target : LinkState T H} {label : LinkLabel T} (inv : LinkInv port source)
    (receiver : RightReceiver source label)
    (step : nextLink driver port source label = some target) : LinkInv port target := by
  cases label with
  | task client event =>
      obtain ⟨effect, local_, rfl⟩ := interleave_task_eq_some_iff.mp step
      exact inv.apply receiver local_
  | system event =>
      obtain ⟨effect, local_, rfl⟩ := interleave_system_eq_some_iff.mp step
      exact inv.applySystem receiver local_

omit [DecidableEq T] in
theorem LinkInv.ownResponses (inv : LinkInv port source) : OwnResponses source := by
  constructor
  · intro client call params point
    have right := inv.points client
    rw [point] at right
    exact right
  · intro client call point
    have right := inv.points client
    rw [point] at right
    exact right

end Steps

variable [DecidableEq T]

/-- In every run in which the event bit only goes to the client that the oldest
unread response is for, every call returns its own response. -/
theorem ownResponses_of_rightReceiver {driver : HostDriver H} {port : UInt8} {host : H}
    {schedule : List (LinkLabel T)}
    (rightly : StepsMeet (nextLink driver port) (startLink host) schedule RightReceiver) :
    StatesSatisfy (nextLink driver port) (startLink host) schedule OwnResponses :=
  rightly.statesSatisfy (linkInv_start port host)
    (fun _ _ _ inv receiver step => inv.next receiver step) fun _ inv => inv.ownResponses

end

/-! ## Two clients -/

/-- A host driver that counts the requests it has answered. -/
def countingHost : HostDriver Nat where
  serve := fun served _ => ([UInt8.ofNat served], served + 1)
  bounded := fun _ _ => show 4 + 1 < 2 ^ 31 by decide

/-- A client calls, sends its request, and puts the mutex of the link. -/
def sendRequest (client : Fin 2) : List (LinkLabel (Fin 2)) :=
  .task client (.call 1 []) :: List.replicate 3 (.task client .run)

/-- The host answers the oldest request, and the answer's port interrupts. -/
def answer : List (LinkLabel (Fin 2)) :=
  [.system .serve, .system .transmit, .system .isr, .system .setBits]

/-- A client has the event bit, reads the response and checks it. -/
def readResponse (client : Fin 2) : List (LinkLabel (Fin 2)) :=
  List.replicate 4 (.task client .run)

instance {point : ClientPoint} {P : ClientCall → Prop} [DecidablePred P] :
    Decidable (∀ call, point = .getBits call → P call) :=
  match point with
  | .getBits call => decidable_of_iff (P call) (by simp)
  | .idle _ | .txLock _ | .txSend _ | .txUnlock _ | .blocked _ | .inWord _ | .inBuf _ _
  | .enableTrigger _ _ | .parse _ _ | .assertionFailed _ => .isTrue (by simp)

instance {point : ClientPoint} {P : ClientCall → Prop} [DecidablePred P] :
    Decidable (∀ call, point = .blocked call → P call) :=
  match point with
  | .blocked call => decidable_of_iff (P call) (by simp)
  | .idle _ | .txLock _ | .txSend _ | .txUnlock _ | .getBits _ | .inWord _ | .inBuf _ _
  | .enableTrigger _ _ | .parse _ _ | .assertionFailed _ => .isTrue (by simp)

instance {T : Type u} {H : Type v} [DecidableEq T] [Fintype T] (state : LinkState T H)
    (label : LinkLabel T) : Decidable (RightReceiver state label) :=
  match label with
  | .task client .run => inferInstanceAs (Decidable (∀ call, state.task client = .getBits call →
      state.shared.eventGroup.isSet = true → state.shared.addressee = some (call.id client)))
  | .system .setBits => inferInstanceAs (Decidable (∀ client call,
      state.task client = .blocked call → state.shared.addressee = some (call.id client)))
  | .task _ (.call _ _) | .system .isr | .system .serve | .system .transmit => .isTrue trivial

/-- Client 1 calls while client 0 already waits for its response, but does not
ask for the event bit before client 0 has been woken. -/
def callsInOrder : List (LinkLabel (Fin 2)) :=
  sendRequest 0 ++ .task 0 .run :: sendRequest 1 ++ answer ++ readResponse 0 ++
    .task 1 .run :: answer ++ readResponse 1

theorem callsInOrder_ownResponses :
    (run (nextLink countingHost 5) (startLink 0) callsInOrder).isSome = true ∧
      StatesSatisfy (nextLink countingHost 5) (startLink 0) callsInOrder OwnResponses :=
  ⟨by decide, ownResponses_of_rightReceiver (by decide)⟩

/-- Client 0 sends its request first, but client 1 is the first to wait. -/
def waitsFirst : List (LinkLabel (Fin 2)) :=
  sendRequest 0 ++ sendRequest 1 ++ .task 1 .run :: answer ++ readResponse 1

/-- Client 1 returns the response to client 0. -/
theorem waitsFirst_not_ownResponses :
    ¬ ∀ state : LinkState (Fin 2) Nat,
      Reachable (nextLink countingHost 5) (startLink 0) state → OwnResponses state := by
  intro always
  obtain ⟨state, reachable, final⟩ := exists_reachable_of_run (nextLink countingHost 5)
    (startLink 0) waitsFirst
    (fun state => decide
      (state.task 1 = .idle (some ({ number := 0, fcode := 1, request := [] }, [0])) ∧
        state.shared.log = [({ client := 0, number := 0, fcode := 1 }, [0])])) (by decide)
  obtain ⟨point, log⟩ := of_decide_eq_true final
  have own := (always state reachable).returned 1 _ _ point
  rw [log] at own
  exact absurd own (by decide)

end FwkRtos.Rpc
