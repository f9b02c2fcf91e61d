import FwkRtos.SpiMaster.User

/-!
# Requests in flight

What the queue, the thread and the user of the bus have in hand, with the copies
that go with it and the transfer that is waited for.  The copies are allocated,
queued, executed and freed in one order.
-/

namespace FwkRtos.SpiMaster

open FwkRtos.Bytes
open FwkRtos.Osal
open FwkRtos.Transition

universe u v

variable {T : Type u} {D : Type v}

def ThreadPoint.finishing : ThreadPoint T D → List (SpiXferReq T D)
  | .finish request => [request]
  | _ => []

def ThreadPoint.performing : ThreadPoint T D → List (SpiXferReq T D)
  | .perform request => [request]
  | _ => []

/-- The request that the user is about to queue. -/
def sending : Option (Point T D) → List (SpiXferReq T D)
  | some (.queueSend request) => [request]
  | _ => []

/-- The requests that are queued and not yet executed. -/
def Bus.pending (bus : Bus T D) : List (SpiXferReq T D) :=
  bus.thread.performing ++ bus.xferReqQueue

/-- The requests that are queued and not yet done with. -/
def Bus.inFlight (bus : Bus T D) : List (SpiXferReq T D) :=
  bus.thread.finishing ++ bus.pending

def copies (requests : List (SpiXferReq T D)) : List Nat :=
  requests.filterMap fun request => request.op.copy

def receiving (requests : List (SpiXferReq T D)) : List (SpiXferReq T D) :=
  requests.filter fun request => request.op.receives

/-- The request is what its call asks for. -/
inductive SpiXferReq.Serves (request : SpiXferReq T D) : Prop
  | start {priority : UInt32} (op : request.op = .start priority)
      (call : request.issue.call = .transactionStart)
  | receive {dataOut : Option Nat} {dataIn : Nat} {len : UInt32}
      (op : request.op = .xfer (dataOut.elim .null .caller) (some dataIn) len)
      (call : request.issue.call = .transfer dataOut (some dataIn) len)
  | transmit {dataOut : Option Nat} {block : Nat} {len : UInt32}
      (op : request.op = .xfer (.copy block) none len)
      (call : request.issue.call = .transfer dataOut none len)
  | nothing {dataOut : Option Nat} {len : UInt32} (op : request.op = .xfer .null none len)
      (call : request.issue.call = .transfer dataOut none len) (held : request.issue.held = [])
  | delay {ticks : UInt32} (op : request.op = .delay ticks)
      (call : request.issue.call = .delayBeforeNextTransfer ticks)
  | end_ (op : request.op = .end_) (call : request.issue.call = .transactionEnd)

/-- The thread has received the data of the request, and `data_in` holds it. -/
def Delivered (bus : Bus T D) (request : SpiXferReq T D) : Prop :=
  ∃ entry ∈ bus.executed, entry.request = request ∧ entry.received = bus.dataIn request.op

/-- Where the user is and what it has in hand. -/
def UserSound (bus : Bus T D) : Option (Point T D) → Prop
  | some (.priorityGet issue) => issue.call = .transactionStart
  | some (.copy issue dataOut len) =>
      issue.call = .transfer dataOut none len ∧ issue.held = issue.call.held bus.memory
  | some (.mutexGet _) => False
  | _ => True

/-- The semaphore is given once for the transfer that the user waits for, when `data_in` holds
its data, and not otherwise. -/
def Signals (bus : Bus T D) : Option (Point T D) → Prop
  | some (.dataReady request) =>
      receiving bus.inFlight = [request] ∧ bus.dataReady.count = 0 ∧
          (bus.thread = .finish request → Delivered bus request) ∨
        receiving bus.inFlight = [] ∧ bus.dataReady.count = 1 ∧ Delivered bus request
  | _ => receiving bus.inFlight = [] ∧ bus.dataReady.count = 0

/-- What holds of an operation that was executed. -/
structure Executed.Sound (entry : Executed T D) : Prop where
  serves : entry.request.Serves
  ctx : entry.request.ctx = entry.request.issue.ctx
  copied : ∀ dataOut len, entry.request.issue.call = .transfer (some dataOut) none len →
    entry.sent = entry.request.issue.held

/-- What holds of the driver and the user of the bus. -/
structure BusInv (user : Option (Point T D)) (bus : Bus T D) : Prop where
  fifo : bus.queued = bus.executed.map Executed.request ++ bus.pending
  blocks : bus.freed ++ copies (bus.inFlight ++ sending user) = List.range bus.allocated
  contents : ∀ request ∈ bus.inFlight ++ sending user, ∀ block,
    request.op.copy = some block → bus.heap block = some request.issue.held
  serves : ∀ request ∈ bus.inFlight ++ sending user,
    request.Serves ∧ request.ctx = request.issue.ctx
  userSound : UserSound bus user
  maxCount : bus.dataReady.maxCount = 1
  signals : Signals bus user
  executed : ∀ entry ∈ bus.executed, entry.Sound
  returned : ∀ transfer ∈ bus.returned, ∃ entry ∈ bus.executed,
    entry.request = transfer.1 ∧ entry.received = transfer.2

theorem busInv_start (priority coreAffinity : UInt32) (memory : Memory) :
    BusInv (user (start priority coreAffinity memory : State T D))
      (start priority coreAffinity memory : State T D).shared where
  fifo := rfl
  blocks := rfl
  contents _ isSent := absurd isSent List.not_mem_nil
  serves _ isSent := absurd isSent List.not_mem_nil
  userSound := trivial
  maxCount := rfl
  signals := ⟨rfl, rfl⟩
  executed _ isExecuted := absurd isExecuted List.not_mem_nil
  returned _ isReturned := absurd isReturned List.not_mem_nil

/-! ## Steps of the user -/

theorem copies_append (first second : List (SpiXferReq T D)) :
    copies (first ++ second) = copies first ++ copies second :=
  List.filterMap_append

theorem receiving_append (first second : List (SpiXferReq T D)) :
    receiving (first ++ second) = receiving first ++ receiving second :=
  List.filter_append ..

theorem copy_of_not_xfer {op : SpiOp}
    (other : ∀ dataOut dataIn len, op ≠ .xfer dataOut dataIn len) :
    op.copy = none ∧ op.receives = false := by
  cases op with
  | xfer dataOut dataIn len => exact absurd rfl (other dataOut dataIn len)
  | start | delay | end_ => exact ⟨rfl, rfl⟩

theorem SpiXferReq.Serves.copy_of_receives {request : SpiXferReq T D} (serves : request.Serves)
    (receives : request.op.receives = true) : request.op.copy = none := by
  cases serves with
  | @receive dataOut dataIn len op call =>
      rw [op]
      cases dataOut <;> rfl
  | transmit op | nothing op | start op | delay op | end_ op =>
      rw [op] at receives
      cases receives

/-- The semaphore is as it is when nobody waits for it. -/
theorem Signals.quiet {bus : Bus T D} {user : Option (Point T D)} (signals : Signals bus user)
    (other : ∀ request, user ≠ some (.dataReady request)) :
    receiving bus.inFlight = [] ∧ bus.dataReady.count = 0 := by
  unfold Signals at signals
  split at signals
  · next request => exact absurd rfl (other request)
  · exact signals

theorem Signals.of_quiet {bus : Bus T D} {user : Option (Point T D)}
    (other : ∀ request, user ≠ some (.dataReady request))
    (quiet : receiving bus.inFlight = [] ∧ bus.dataReady.count = 0) : Signals bus user := by
  unfold Signals
  split
  · next request => exact absurd rfl (other request)
  · exact quiet

/-- A request that is put into the hand of the user and has no copy with it. -/
theorem BusInv.of_sending {bus : Bus T D} {point : Point T D} {request : SpiXferReq T D}
    (inv : BusInv (some point) bus) (hand : sending (some point) = [])
    (other : ∀ request, point ≠ .dataReady request) (copy : request.op.copy = none)
    (serves : request.Serves) (ctx : request.ctx = request.issue.ctx) :
    BusInv (some (.queueSend request)) bus where
  fifo := inv.fifo
  blocks := by
    rw [← inv.blocks, hand, copies_append, copies_append]
    simp [copies, sending, copy]
  contents := by
    intro other member block isCopy
    rcases List.mem_append.mp member with flying | sent
    · exact inv.contents other (List.mem_append_left _ flying) block isCopy
    · rw [List.mem_singleton.mp sent, copy] at isCopy
      cases isCopy
  serves := by
    intro other member
    rcases List.mem_append.mp member with flying | sent
    · exact inv.serves other (List.mem_append_left _ flying)
    · rw [List.mem_singleton.mp sent]
      exact ⟨serves, ctx⟩
  userSound := trivial
  maxCount := inv.maxCount
  signals := inv.signals.quiet fun request same => other request (Option.some.inj same)
  executed := inv.executed
  returned := inv.returned

/-- `rtos_osal_malloc` and `memcpy`: a new block with the bytes of the caller's buffer. -/
theorem BusInv.of_copy {bus after : Bus T D} {issue : Issue T D} {dataOut : Option Nat}
    {len : UInt32} {succeeds : Bool} {data : DataOut}
    (inv : BusInv (some (.copy issue dataOut len)) bus)
    (copied : bus.copy? dataOut len succeeds = some (data, after)) :
    BusInv (some (.queueSend ⟨issue.ctx, .xfer data none len, issue⟩)) after := by
  rcases inv.userSound with ⟨call, held⟩
  rw [call] at held
  have quiet := inv.signals.quiet nofun
  have blocks := inv.blocks
  rw [show sending (some (Point.copy issue dataOut len)) = [] from rfl, List.append_nil] at blocks
  unfold Bus.copy? at copied
  split at copied
  · next allowed =>
      split at copied
      · cases copied
        have bytes : issue.held =
            dataOut.elim [] fun address => bus.memory.read address len.toNat := by
          rw [held]
          cases dataOut <;> rfl
        exact
          { fifo := inv.fifo
            blocks := by
              rw [copies_append, ← List.append_assoc]
              change (bus.freed ++ copies bus.inFlight) ++ [bus.allocated] = _
              rw [blocks, List.range_succ]
            contents := by
              intro request member block isCopy
              rcases List.mem_append.mp member with flying | sent
              · have old : block ∈ List.range bus.allocated := by
                  rw [← blocks]
                  exact List.mem_append_right _
                    (List.mem_filterMap.mpr ⟨request, flying, isCopy⟩)
                have different : block ≠ bus.allocated := (List.mem_range.mp old).ne
                change Function.update bus.heap bus.allocated _ block = _
                rw [Function.update_of_ne different]
                exact inv.contents request (List.mem_append_left _ flying) block isCopy
              · rw [List.mem_singleton.mp sent] at isCopy ⊢
                obtain rfl : bus.allocated = block := Option.some.inj isCopy
                change Function.update bus.heap bus.allocated _ bus.allocated = _
                rw [Function.update_self, bytes]
            serves := by
              intro request member
              rcases List.mem_append.mp member with flying | sent
              · exact inv.serves request (List.mem_append_left _ flying)
              · rw [List.mem_singleton.mp sent]
                exact ⟨.transmit rfl call, rfl⟩
            userSound := trivial
            maxCount := inv.maxCount
            signals := quiet
            executed := inv.executed
            returned := inv.returned }
      · next failed =>
          cases copied
          have empty : len = 0 := allowed.resolve_left fun both => failed both.1
          apply inv.of_sending rfl nofun rfl
          · apply SpiXferReq.Serves.nothing rfl call
            rw [held, empty]
            cases dataOut <;> rfl
          · rfl
  · cases copied

/-- The user's request comes into the queue. -/
theorem BusInv.of_queueSend {bus after : Bus T D} {request : SpiXferReq T D}
    (inv : BusInv (some (.queueSend request)) bus)
    (sent : bus.queueSend? request = some after) :
    BusInv (some request.queuedPoint) after := by
  rcases queueSend?_eq_some_iff.mp sent with ⟨_, rfl⟩
  have quiet := inv.signals.quiet nofun
  have hand : sending (some request.queuedPoint) = [] := by
    unfold SpiXferReq.queuedPoint
    split <;> rfl
  have flying : ({ bus with
      xferReqQueue := bus.xferReqQueue ++ [request]
      queued := bus.queued ++ [request] } : Bus T D).inFlight = bus.inFlight ++ [request] := by
    simp [Bus.inFlight, Bus.pending]
  have same : ({ bus with
      xferReqQueue := bus.xferReqQueue ++ [request]
      queued := bus.queued ++ [request] } : Bus T D).inFlight ++
        sending (some request.queuedPoint) =
      bus.inFlight ++ sending (some (.queueSend request)) := by
    rw [flying, hand, List.append_nil]
    rfl
  exact
    { fifo := by
        change bus.queued ++ [request] = _
        rw [inv.fifo]
        simp [Bus.pending]
      blocks := by
        rw [same]
        exact inv.blocks
      contents := by
        rw [same]
        exact inv.contents
      serves := by
        rw [same]
        exact inv.serves
      userSound := by
        unfold SpiXferReq.queuedPoint
        split <;> trivial
      maxCount := inv.maxCount
      signals := by
        by_cases receives : request.op.receives = true
        · have waits : request.queuedPoint = .dataReady request := by
            unfold SpiXferReq.queuedPoint
            unfold SpiOp.receives at receives
            split at receives
            · next dataOut dataIn len op =>
                rcases Option.isSome_iff_exists.mp receives with ⟨address, rfl⟩
                rw [op]
            · cases receives
          rw [waits]
          refine .inl ⟨?_, quiet.2, ?_⟩
          · rw [flying, receiving_append, quiet.1]
            simp [receiving, receives]
          · intro finishing
            -- A receiving request is not finished yet when it is queued.
            have isFlying : request ∈ receiving bus.inFlight := by
              apply List.mem_filter.mpr
              refine ⟨List.mem_append_left _ ?_, receives⟩
              change request ∈ bus.thread.finishing
              rw [show bus.thread = .finish request from finishing]
              exact List.mem_singleton_self request
            rw [quiet.1] at isFlying
            cases isFlying
        · apply Signals.of_quiet
          · intro other same
            have waits := Option.some.inj same
            unfold SpiXferReq.queuedPoint at waits
            split at waits
            · next op =>
                rw [op] at receives
                exact receives rfl
            · cases waits
            · cases waits
          · rw [flying, receiving_append, quiet.1]
            exact ⟨by simp [receiving, receives], quiet.2⟩
      executed := inv.executed
      returned := inv.returned }

theorem BusInv.of_userMove {before after : Option (Point T D)} {source target : Bus T D}
    (inv : BusInv before source) (move : UserMove before source after target) :
    BusInv after target := by
  cases move with
  | ask => exact inv
  | enter starts =>
      exact
        { inv with
          userSound := starts
          signals := inv.signals }
  | @call _ issue inside held =>
      cases called : issue.call with
      | transactionStart => exact absurd called inside
      | transfer dataOut dataIn len =>
          cases dataIn with
          | none =>
              exact
                { inv with
                  userSound := ⟨called, held⟩
                  signals := inv.signals }
          | some address =>
              apply inv.of_sending rfl nofun
              · cases dataOut <;> rfl
              · exact .receive rfl called
              · rfl
      | delayBeforeNextTransfer ticks =>
          exact inv.of_sending rfl nofun rfl (.delay rfl called) rfl
      | transactionEnd => exact inv.of_sending rfl nofun rfl (.end_ rfl called) rfl
  | priorityGet => exact inv.of_sending rfl nofun rfl (.start rfl inv.userSound) rfl
  | copy copied => exact inv.of_copy copied
  | queueSend sent => exact inv.of_queueSend sent
  | @dataReady _ request semaphore taken =>
      rcases Semaphore.get?_eq_some_iff.mp taken with ⟨given, rfl⟩
      rcases inv.signals with ⟨_, none_, _⟩ | ⟨nothing, once, delivered⟩
      · rw [none_] at given
        cases given
      · exact
          { inv with
            userSound := trivial
            maxCount := inv.maxCount
            signals := ⟨nothing, by dsimp only; rw [once]⟩
            returned := by
              intro transfer member
              rcases List.mem_append.mp member with old | new
              · exact inv.returned transfer old
              · rw [List.mem_singleton.mp new]
                exact delivered }
  | leave =>
      exact
        { inv with
          userSound := trivial
          signals := inv.signals }

/-! ## Steps of the thread -/

/-- The thread takes a request from the queue. -/
theorem BusInv.of_receive {user : Option (Point T D)} {bus : Bus T D} {request : SpiXferReq T D}
    {queue : List (SpiXferReq T D)} (inv : BusInv user bus) (point : bus.thread = .receive)
    (first : bus.xferReqQueue = request :: queue) :
    BusInv user { bus with xferReqQueue := queue, thread := .perform request } := by
  have pending :
      ({ bus with xferReqQueue := queue, thread := .perform request } : Bus T D).pending =
        bus.pending := by
    simp [Bus.pending, ThreadPoint.performing, point, first]
  have flying :
      ({ bus with xferReqQueue := queue, thread := .perform request } : Bus T D).inFlight =
        bus.inFlight := by
    rw [Bus.inFlight, Bus.inFlight, pending, point]
    rfl
  exact
    { inv with
      fifo := by
        rw [pending]
        exact inv.fifo
      blocks := by
        rw [flying]
        exact inv.blocks
      contents := by
        rw [flying]
        exact inv.contents
      serves := by
        rw [flying]
        exact inv.serves
      userSound := inv.userSound
      signals := by
        have signals := inv.signals
        unfold Signals at signals ⊢
        rw [flying]
        split at signals
        · rcases signals with ⟨waits, none_, _⟩ | given
          · exact .inl ⟨waits, none_, nofun⟩
          · exact .inr given
        · exact signals }

/-- The thread executes an operation that takes no data. -/
theorem BusInv.of_control {user : Option (Point T D)} {bus after : Bus T D}
    {request : SpiXferReq T D} (inv : BusInv user bus) (point : bus.thread = .perform request)
    (other : ∀ dataOut dataIn len, request.op ≠ .xfer dataOut dataIn len)
    (same : after = { bus with
      coreMap := after.coreMap
      currentPriority := after.currentPriority
      threadPriority := after.threadPriority
      coreAffinity := after.coreAffinity }) :
    BusInv user (after.record bus request [] [] .receive) := by
  rcases copy_of_not_xfer other with ⟨copy, receives⟩
  rw [same]
  have flying : bus.inFlight = request :: bus.xferReqQueue := by
    rw [Bus.inFlight, Bus.pending, point]
    rfl
  have requests := inv.blocks
  have signals := inv.signals
  have serves := inv.serves request
    (List.mem_append_left _ (by rw [flying]; exact List.mem_cons_self))
  have kept (other : SpiXferReq T D) (member : other ∈ bus.xferReqQueue ++ sending user) :
      other ∈ bus.inFlight ++ sending user := by
    rw [flying]
    exact List.mem_cons_of_mem _ member
  have mono (other : SpiXferReq T D) (delivered : Delivered bus other) :
      ∃ entry ∈ bus.executed ++ [(⟨request, [], [], bus.setting, after.setting⟩ : Executed T D)],
        entry.request = other ∧ entry.received = bus.dataIn other.op := by
    rcases delivered with ⟨entry, member, isOther, received⟩
    exact ⟨entry, List.mem_append_left _ member, isOther, received⟩
  exact
    { fifo := by
        change bus.queued = (bus.executed ++ [_]).map Executed.request ++ ([] ++ bus.xferReqQueue)
        rw [inv.fifo, Bus.pending, point]
        simp [ThreadPoint.performing]
      blocks := by
        rw [flying] at requests
        change bus.freed ++ copies (bus.xferReqQueue ++ sending user) = List.range bus.allocated
        simpa [copies, copy] using requests
      contents := fun other member => inv.contents other (kept other member)
      serves := fun other member => inv.serves other (kept other member)
      userSound := inv.userSound
      maxCount := inv.maxCount
      signals := by
        have receiving_ : receiving bus.inFlight = receiving bus.xferReqQueue := by
          rw [flying]
          simp [receiving, receives]
        unfold Signals at signals ⊢
        rw [receiving_] at signals
        split at signals
        · rcases signals with ⟨waits, none_, _⟩ | ⟨nothing, once, delivered⟩
          · exact .inl ⟨waits, none_, nofun⟩
          · exact .inr ⟨nothing, once, mono _ delivered⟩
        · exact signals
      executed := by
        intro entry member
        rcases List.mem_append.mp member with old | new
        · exact inv.executed entry old
        · rw [List.mem_singleton.mp new]
          refine ⟨serves.1, serves.2, ?_⟩
          intro dataOut len call
          cases serves.1 with
          | receive op | transmit op | nothing op => exact absurd op (other _ _ _)
          | start _ called | delay _ called | end_ _ called =>
              rw [call] at called
              cases called
      returned := by
        intro transfer member
        rcases inv.returned transfer member with ⟨entry, old, both⟩
        exact ⟨entry, List.mem_append_left _ old, both⟩ }

/-- A request under way is known to the invariant. -/
theorem BusInv.known {user : Option (Point T D)} {bus : Bus T D} {request : SpiXferReq T D}
    (inv : BusInv user bus) (member : request ∈ bus.inFlight) :
    request.Serves ∧ request.ctx = request.issue.ctx :=
  inv.serves request (List.mem_append_left _ member)

/-- What a transfer takes from `data_out`, when nothing is received. -/
theorem BusInv.sent_eq {user : Option (Point T D)} {bus : Bus T D} {request : SpiXferReq T D}
    (inv : BusInv user bus) (member : request ∈ bus.inFlight) {dataOut : DataOut} {len : UInt32}
    (op : request.op = .xfer dataOut none len) :
    bus.dataOut len dataOut = request.issue.held := by
  cases (inv.known member).1 with
  | transmit copied =>
      rw [copied] at op
      cases op
      rw [Bus.dataOut, inv.contents request (List.mem_append_left _ member) _ (by rw [copied]; rfl)]
      rfl
  | nothing null _ held =>
      rw [null] at op
      cases op
      rw [held]
      rfl
  | receive other | start other | delay other | end_ other =>
      rw [other] at op
      cases op

/-- The thread executes a transfer. -/
theorem BusInv.of_xfer {user : Option (Point T D)} {bus : Bus T D} {request : SpiXferReq T D}
    {dataOut : DataOut} {dataIn : Option Nat} {len : UInt32} {bytes : List UInt8}
    (inv : BusInv user bus) (point : bus.thread = .perform request)
    (op : request.op = .xfer dataOut dataIn len) (length : bytes.length = len.toNat) :
    BusInv user ((bus.store dataIn bytes).record bus request (bus.dataOut len dataOut) bytes
      (.finish request)) := by
  have member : request ∈ bus.inFlight := by
    rw [Bus.inFlight, Bus.pending, point]
    exact List.mem_cons_self
  have serves := inv.known member
  have signals := inv.signals
  have sound : Executed.Sound
      (⟨request, bus.dataOut len dataOut, bytes, bus.setting, (bus.store dataIn bytes).setting⟩ :
        Executed T D) := by
    refine ⟨serves.1, serves.2, ?_⟩
    intro address count call
    cases serves.1 with
    | transmit copied | nothing copied =>
        rw [copied] at op
        cases op
        exact inv.sent_eq member copied
    | receive _ called | start _ called | delay _ called | end_ _ called =>
        rw [call] at called
        cases called
  have executed : ∀ entry ∈ bus.executed ++ [(⟨request, bus.dataOut len dataOut, bytes,
      bus.setting, (bus.store dataIn bytes).setting⟩ : Executed T D)], entry.Sound := by
    intro entry among
    rcases List.mem_append.mp among with old | new
    · exact inv.executed entry old
    · rw [List.mem_singleton.mp new]
      exact sound
  have returned : ∀ transfer ∈ bus.returned, ∃ entry ∈ bus.executed ++ [(⟨request,
      bus.dataOut len dataOut, bytes, bus.setting, (bus.store dataIn bytes).setting⟩ :
        Executed T D)], entry.request = transfer.1 ∧ entry.received = transfer.2 := by
    intro transfer among
    rcases inv.returned transfer among with ⟨entry, old, both⟩
    exact ⟨entry, List.mem_append_left _ old, both⟩
  have fifo : bus.queued = (bus.executed ++ [(⟨request, bus.dataOut len dataOut, bytes,
      bus.setting, (bus.store dataIn bytes).setting⟩ : Executed T D)]).map Executed.request ++
        ([] ++ bus.xferReqQueue) := by
    rw [inv.fifo, Bus.pending, point]
    simp [ThreadPoint.performing]
  have flying : bus.inFlight = [request] ++ ([] ++ bus.xferReqQueue) := by
    rw [Bus.inFlight, Bus.pending, point]
    rfl
  have blocks := inv.blocks
  have contents := inv.contents
  have known := inv.serves
  rw [flying] at blocks contents known
  cases dataIn with
  | none =>
      exact
        { fifo := fifo
          blocks := blocks
          contents := contents
          serves := known
          userSound := inv.userSound
          maxCount := inv.maxCount
          signals := by
            unfold Signals at signals ⊢
            rw [flying] at signals
            split at signals
            · rcases signals with ⟨waits, none_, _⟩ | ⟨nothing, once, entry, old, delivered⟩
              · refine .inl ⟨waits, none_, ?_⟩
                intro finishing
                obtain rfl : request = _ := ThreadPoint.finish.inj finishing
                have among := List.mem_singleton_self request
                rw [← waits] at among
                have receives := (List.mem_filter.mp among).2
                rw [op] at receives
                cases receives
              · exact .inr ⟨nothing, once, entry, List.mem_append_left _ old, delivered⟩
            · exact signals
          executed := executed
          returned := returned }
  | some address =>
      have isReceiving : request ∈ receiving bus.inFlight :=
        List.mem_filter.mpr ⟨member, by rw [op]; rfl⟩
      have read : (bus.memory.write address bytes).read address len.toNat = bytes := by
        rw [← length]
        exact Memory.read_write bus.memory address bytes
      exact
        { fifo := fifo
          blocks := blocks
          contents := contents
          serves := known
          userSound := by
            have sound := inv.userSound
            unfold UserSound at sound ⊢
            split at sound
            · exact sound
            · -- Nothing is received while the user copies a buffer.
              rw [(inv.signals.quiet nofun).1] at isReceiving
              cases isReceiving
            · exact sound
            · trivial
          maxCount := inv.maxCount
          signals := by
            unfold Signals at signals ⊢
            split at signals
            · next waiting =>
                rcases signals with ⟨waits, none_, _⟩ | ⟨nothing, _⟩
                · rw [waits] at isReceiving
                  obtain rfl := List.mem_singleton.mp isReceiving
                  rw [flying] at waits
                  refine .inl ⟨waits, none_, ?_⟩
                  intro _
                  refine ⟨_, List.mem_append_right _ (List.mem_singleton_self _), rfl, ?_⟩
                  rw [op]
                  exact read.symm
                · rw [nothing] at isReceiving
                  cases isReceiving
            · rw [signals.1] at isReceiving
              cases isReceiving
          executed := executed
          returned := returned }

/-- The thread gives the semaphore. -/
theorem BusInv.of_put {user : Option (Point T D)} {bus : Bus T D} {request : SpiXferReq T D}
    (inv : BusInv user bus) (point : bus.thread = .finish request)
    (receives : request.op.receives = true) :
    BusInv user
      { bus with dataReady := bus.dataReady.put?.getD bus.dataReady, thread := .receive } := by
  have flying : bus.inFlight = request :: bus.xferReqQueue := by
    rw [Bus.inFlight, Bus.pending, point]
    rfl
  have copy := (inv.known (by rw [flying]; exact List.mem_cons_self)).1.copy_of_receives receives
  have receiving_ : receiving bus.inFlight = request :: receiving bus.xferReqQueue := by
    rw [flying]
    exact List.filter_cons_of_pos receives
  have kept (other : SpiXferReq T D) (member : other ∈ bus.xferReqQueue ++ sending user) :
      other ∈ bus.inFlight ++ sending user := by
    rw [flying]
    exact List.mem_cons_of_mem _ member
  have signals := inv.signals
  unfold Signals at signals
  rw [receiving_] at signals
  split at signals
  · next waiting =>
      rcases signals with ⟨waits, none_, delivered⟩ | ⟨nothing, _⟩
      · rcases List.cons.inj waits with ⟨rfl, nothing⟩
        have given : bus.dataReady.put? = some { bus.dataReady with count := 1 } := by
          simp [none_, inv.maxCount]
        rw [given]
        exact
          { fifo := by
              rw [inv.fifo, Bus.pending, point]
              rfl
            blocks := by
              have blocks := inv.blocks
              rw [flying] at blocks
              change bus.freed ++ copies (bus.xferReqQueue ++ _) = List.range bus.allocated
              simpa [copies, copy] using blocks
            contents := fun other member => inv.contents other (kept other member)
            serves := fun other member => inv.serves other (kept other member)
            userSound := trivial
            maxCount := inv.maxCount
            signals := .inr ⟨nothing, rfl, delivered point⟩
            executed := inv.executed
            returned := inv.returned }
      · cases nothing
  · cases signals.1

/-- The thread frees the copy. -/
theorem BusInv.of_free {user : Option (Point T D)} {bus : Bus T D} {request : SpiXferReq T D}
    {dataOut : DataOut} {len : UInt32} (inv : BusInv user bus)
    (point : bus.thread = .finish request) (op : request.op = .xfer dataOut none len) :
    BusInv user { bus.free dataOut with thread := .receive } := by
  have flying : bus.inFlight = request :: bus.xferReqQueue := by
    rw [Bus.inFlight, Bus.pending, point]
    rfl
  have serves := (inv.known (by rw [flying]; exact List.mem_cons_self)).1
  have receiving_ : receiving bus.inFlight = receiving bus.xferReqQueue := by
    rw [flying]
    apply List.filter_cons_of_neg
    rw [op]
    exact Bool.false_ne_true
  have kept (other : SpiXferReq T D) (member : other ∈ bus.xferReqQueue ++ sending user) :
      other ∈ bus.inFlight ++ sending user := by
    rw [flying]
    exact List.mem_cons_of_mem _ member
  have fifo : bus.queued = bus.executed.map Executed.request ++ ([] ++ bus.xferReqQueue) := by
    rw [inv.fifo, Bus.pending, point]
    rfl
  have blocks := inv.blocks
  rw [flying] at blocks
  have signals := inv.signals
  have rest : Signals { bus with thread := .receive } user := by
    unfold Signals at signals ⊢
    rw [receiving_] at signals
    split at signals
    · rcases signals with ⟨waits, none_, _⟩ | given
      · exact .inl ⟨waits, none_, nofun⟩
      · exact .inr given
    · exact signals
  cases serves with
  | @transmit _ block _ copied =>
      rw [copied] at op
      cases op
      have order : bus.freed ++ block :: copies (bus.xferReqQueue ++ sending user) =
          List.range bus.allocated := by
        simpa [copies, copied, SpiOp.copy] using blocks
      have once : block ∉ copies (bus.xferReqQueue ++ sending user) := by
        have nodup := List.nodup_range (n := bus.allocated)
        rw [← order] at nodup
        exact (List.nodup_cons.mp nodup.of_append_right).1
      exact
        { inv with
          fifo := fifo
          blocks := by
            change (bus.freed ++ [block]) ++ copies (bus.xferReqQueue ++ sending user) = _
            rw [List.append_assoc]
            exact order
          contents := by
            intro other member index isCopy
            have different : index ≠ block := by
              rintro rfl
              exact once (List.mem_filterMap.mpr ⟨other, member, isCopy⟩)
            change Function.update bus.heap block none index = _
            rw [Function.update_of_ne different]
            exact inv.contents other (kept other member) index isCopy
          serves := fun other member => inv.serves other (kept other member)
          userSound := inv.userSound
          signals := rest }
  | nothing null =>
      rw [null] at op
      cases op
      exact
        { inv with
          fifo := fifo
          blocks := by
            change bus.freed ++ copies (bus.xferReqQueue ++ sending user) = List.range bus.allocated
            simpa [copies, null, SpiOp.copy] using blocks
          contents := fun other member => inv.contents other (kept other member)
          serves := fun other member => inv.serves other (kept other member)
          userSound := inv.userSound
          signals := rest }
  | receive other | start other | delay other | end_ other =>
      rw [other] at op
      cases op

theorem opStart_eq (bus : Bus T D) (priority core : UInt32) :
    opStart bus priority core = { bus with
      coreMap := (opStart bus priority core).coreMap
      currentPriority := (opStart bus priority core).currentPriority
      threadPriority := (opStart bus priority core).threadPriority
      coreAffinity := (opStart bus priority core).coreAffinity } := by
  unfold opStart
  split <;> rfl

theorem opEnd_eq (bus : Bus T D) :
    opEnd bus = { bus with
      coreMap := (opEnd bus).coreMap
      currentPriority := (opEnd bus).currentPriority
      threadPriority := (opEnd bus).threadPriority
      coreAffinity := (opEnd bus).coreAffinity } := by
  unfold opEnd
  dsimp only
  split <;> rfl

theorem BusInv.of_threadMove {user : Option (Point T D)} {bus after : Bus T D}
    {event : ThreadEvent} (inv : BusInv user bus) (move : ThreadMove bus event after) :
    BusInv user after := by
  cases move with
  | receive point first => exact inv.of_receive point first
  | start point op => exact inv.of_control point (by rw [op]; nofun) (opStart_eq _ _ _)
  | xfer point op length => exact inv.of_xfer point op length
  | delay point op => exact inv.of_control point (by rw [op]; nofun) rfl
  | end_ point op => exact inv.of_control point (by rw [op]; nofun) (opEnd_eq _)
  | put point receives => exact inv.of_put point receives
  | free point op => exact inv.of_free point op

/-! ## Writes to memory -/

/-- A write that leaves alone what the user has lent. -/
theorem BusInv.of_store {user : Option (Point T D)} {bus : Bus T D} {address : Nat}
    {bytes : List UInt8} (inv : BusInv user bus)
    (apart : ∀ point, user = some point → ∀ range ∈ point.lent,
      range.1 + range.2 ≤ address ∨ address + bytes.length ≤ range.1) :
    BusInv user { bus with memory := bus.memory.write address bytes } := by
  exact
    { inv with
      userSound := by
        have sound := inv.userSound
        unfold UserSound at sound ⊢
        split at sound
        · exact sound
        · next issue dataOut len =>
            refine ⟨sound.1, ?_⟩
            rw [sound.2, sound.1]
            cases dataOut with
            | none => rfl
            | some source =>
                have disjoint := apart _ rfl (source, len.toNat) (List.mem_singleton_self _)
                exact (Memory.read_write_of_disjoint bus.memory disjoint).symm
        · exact sound
        · trivial
      signals := by
        have signals := inv.signals
        unfold Signals at signals ⊢
        split at signals
        · next request =>
            have same : ({ bus with memory := bus.memory.write address bytes } : Bus T D).dataIn
                request.op = bus.dataIn request.op := by
              have lent := apart _ rfl
              unfold Bus.dataIn
              split
              · next dataOut target len op =>
                  simp only [Point.lent, op] at lent
                  exact Memory.read_write_of_disjoint bus.memory
                    (lent (target, len.toNat) (List.mem_singleton_self _))
              · rfl
            have kept (delivered : Delivered bus request) :
                Delivered { bus with memory := bus.memory.write address bytes } request := by
              rcases delivered with ⟨entry, member, isOther, received⟩
              exact ⟨entry, member, isOther, received.trans same.symm⟩
            rcases signals with ⟨waits, none_, delivered⟩ | ⟨nothing, once, delivered⟩
            · exact .inl ⟨waits, none_, fun finishing => kept (delivered finishing)⟩
            · exact .inr ⟨nothing, once, kept delivered⟩
        · exact signals }

end FwkRtos.SpiMaster
