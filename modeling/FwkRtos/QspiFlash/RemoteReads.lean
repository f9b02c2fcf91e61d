import FwkRtos.QspiFlash.Remote

/-!
# The result of a remote read

The pieces of a remote read are read from the flash one after the other, and the
host may change the flash between them.  As long as it leaves alone what was
already read, the client gets the contents that the flash had when the last piece
was read.
-/

namespace FwkRtos.QspiFlash

open FwkRtos.Osal
open FwkRtos.Transition

universe u

/-! ## The buffer of the client -/

/-- The whole call as an operation on the flash. -/
def RemoteRead.op (read : RemoteRead) : OpReq where
  op := .read
  data := 0
  address := read.address
  len := read.len
  priority := 0

/-- The first bytes in the buffer of the client are those of the flash. -/
def RemoteRead.Has (read : RemoteRead) (image : Image) (count : Nat) : Prop :=
  ∀ i < count, read.data i = image (read.address + UInt32.ofNat i)

/-- The bytes of a piece are those of the flash. -/
def Piece.Is (piece : Piece) (image : Image) (bytes : Nat → UInt8) : Prop :=
  ∀ i < piece.len.toNat, bytes i = image (piece.address + UInt32.ofNat i)

theorem toNat_data {read : RemoteRead} {offset : Nat}
    (place : AtOffset read.op read.cursor offset) : read.cursor.data.toNat = offset := by
  have length := place.len
  have bound := read.op.len.toNat_lt
  have data : read.cursor.data = 0 + UInt32.ofNat offset := place.data
  rw [data, zero_add, UInt32.toNat_ofNat', Nat.mod_eq_of_lt (by omega)]

/-- The client goes on behind a piece. -/
theorem RemoteRead.take_place {read : RemoteRead} {offset : Nat}
    (place : AtOffset read.op read.cursor offset) (bytes : Nat → UInt8) :
    AtOffset (read.take bytes).op (read.take bytes).cursor (offset + read.piece.len.toNat) := by
  have add : ∀ base : UInt32, base + UInt32.ofNat offset + read.piece.len =
      base + UInt32.ofNat (offset + read.piece.len.toNat) := by
    intro base
    rw [UInt32.ofNat_add, UInt32.ofNat_toNat, add_assoc]
  have below : (min read.cursor.len readChunkSize).toNat ≤ read.cursor.len.toNat :=
    UInt32.le_iff_toNat_le.mp (min_readChunkSize_le _)
  have length : read.cursor.len.toNat + offset = read.len.toNat := place.len
  constructor
  · show read.cursor.data + read.piece.len = _
    rw [place.data]
    exact add read.op.data
  · show read.cursor.address + read.piece.len = _
    rw [place.address]
    exact add read.op.address
  · show (read.cursor.len - min read.cursor.len readChunkSize).toNat +
      (offset + (min read.cursor.len readChunkSize).toNat) = read.len.toNat
    rw [UInt32.toNat_sub_of_le _ _ (min_readChunkSize_le _)]
    omega

/-- What is copied to the buffer of the client are the bytes of the piece. -/
theorem RemoteRead.Has.take {read : RemoteRead} {offset : Nat} {image : Image}
    {bytes : Nat → UInt8} (has : read.Has image offset)
    (place : AtOffset read.op read.cursor offset) (is : read.piece.Is image bytes) :
    (read.take bytes).Has image (offset + read.piece.len.toNat) := by
  intro i below
  show (if _ then _ else _) = _
  rw [toNat_data place]
  split
  · next covered =>
      have address : read.piece.address = read.address + UInt32.ofNat offset := place.address
      rw [is _ (by omega), address, add_assoc, ← UInt32.ofNat_add,
        Nat.add_sub_cancel' covered.1]
      rfl
  · next outside => exact has i (by omega)

/-- A piece of a read inside the flash is inside the flash. -/
theorem piece_inFlash {config : Config} {read : RemoteRead} {offset : Nat}
    (place : AtOffset read.op read.cursor offset) (inFlash : read.op.InFlash config) :
    read.piece.address.toNat + read.piece.len.toNat ≤ config.flashSize.toNat := by
  have below : (min read.cursor.len readChunkSize).toNat ≤ read.cursor.len.toNat :=
    UInt32.le_iff_toNat_le.mp (min_readChunkSize_le _)
  have length : read.cursor.len.toNat + offset = read.len.toNat := place.len
  have address : read.piece.address = read.address + UInt32.ofNat offset := place.address
  have inFlash : read.address.toNat + read.len.toNat ≤ config.flashSize.toNat := inFlash
  have bound := config.flashSize.toNat_lt
  show _ + (min read.cursor.len readChunkSize).toNat ≤ _
  rw [address, UInt32.toNat_add, UInt32.toNat_ofNat']
  omega

section

variable {T : Type u} [DecidableEq T]

/-! ## The host -/

/-- What the driver on the host tile keeps. -/
structure HostInv (config : Config) (flash : State T × Contents T) : Prop where
  locks : LockInv flash.1
  order : OrderInv flash.1
  readers : ReadersInv flash.1
  contents : ContentsInv config flash

theorem HostInv.next {config : Config} {library : Library T} {source target : State T × Contents T}
    {label : Label T} (inv : HostInv config source) (turn : ReadersInTurn source.1 label)
    (step : nextContents config library source label = some target) : HostInv config target := by
  have driver : QspiFlash.next config source.1 label = some target.1 :=
    (observed_eq_some_iff.mp step).1
  constructor
  · exact inv.locks.next driver
  · exact inv.order.next inv.locks driver
  · exact inv.readers.next turn driver
  · exact inv.contents.next inv.order step

/-- What a step does to the history of the operations and to what they have read:
the operations that were executed keep their bytes, or another is completed. -/
theorem contents_cases {config : Config} {library : Library T}
    {source target : State T × Contents T}
    {label : Label T} (order : OrderInv source.1)
    (step : nextContents config library source label = some target) :
    (target.1.shared.executed = source.1.shared.executed ∧
        target.2.between = source.2.between ∧
        ∀ entry ∈ source.1.shared.executed, ∀ i,
          target.2.buffers entry.task entry.number i =
            source.2.buffers entry.task entry.number i) ∨
      ∃ entry, source.1.shared.thread = .complete entry ∧
        target.1.shared.executed = source.1.shared.executed ++ [entry] ∧
        target.2 = { source.2 with between := source.2.between ++ [source.2.image] } := by
  obtain ⟨source, contents⟩ := source
  obtain ⟨target, after⟩ := target
  obtain ⟨step, seen⟩ := observed_eq_some_iff.mp step
  have step : QspiFlash.next config source label = some target := step
  have seen : observe library source label target contents = after := seen
  subst seen
  cases label with
  | task task event =>
      obtain ⟨_, _, _, same, move, shared, _⟩ | ⟨_, other, _⟩ := next_cases step
      · cases same
        refine .inl ⟨?_, rfl, fun _ _ _ => rfl⟩
        show target.shared.executed = _
        rw [shared, move.executed.1]
      · cases other
  | system event =>
      obtain ⟨effect, system, rfl⟩ := interleave_system_eq_some_iff.mp step
      obtain ⟨flash, local_, rfl⟩ := Option.map_eq_some_iff.mp system
      have move := (threadMove_of_step local_).reads.2.2
      cases point : source.shared.thread with
      | complete entry =>
          rw [point] at local_
          cases event with
          | connectFails => cases local_
          | run =>
              cases local_
              refine .inr ⟨entry, rfl, rfl, ?_⟩
              simp only [observe, point]
      | operate entry cursor pending =>
          have same : flash.executed = source.shared.executed := by
            rcases move with same | ⟨_, other, _⟩
            · exact same.1
            · rw [point] at other
              cases other
          refine .inl ⟨same, ?_⟩
          have current : source.shared.thread.current = some entry := by rw [point]; rfl
          cases event with
          | connectFails =>
              simp only [observe]
              exact ⟨trivial, fun _ _ _ => trivial⟩
          | run =>
              cases pending with
              | nil =>
                  simp only [observe, point]
                  exact ⟨trivial, fun _ _ _ => trivial⟩
              | cons call pending =>
                  simp only [observe, point, Contents.perform_between, true_and]
                  intro other executed i
                  exact Contents.perform_other _ _ _ _ (order.current_new current executed) i
      | _ =>
          have same : flash.executed = source.shared.executed := by
            rcases move with same | ⟨_, other, _⟩
            · exact same.1
            · rw [point] at other
              cases other
          refine .inl ⟨same, ?_⟩
          cases event <;> simp only [observe, point] <;> exact ⟨trivial, fun _ _ _ => trivial⟩

/-- A reader that is the first in turn and finds a completion was served. -/
theorem ReadersInv.executed_of_ready {state : State T} (inv : ReadersInv state)
    (order : OrderInv state) {entry : Entry T}
    (first : state.shared.openReads.head? = some entry)
    (ready : 0 < state.shared.dataReady.count) : entry ∈ state.shared.executed := by
  obtain ⟨rest, openReads⟩ := List.head?_eq_some_iff.mp first
  have executed : reads state.shared.executed <+: reads state.shared.sent := by
    rw [order.fifo, reads_append]
    exact List.prefix_append _ _
  have sent : state.shared.returned ++ [entry] <+: reads state.shared.sent := by
    rw [inv.reads_sent, openReads]
    exact ⟨rest, List.append_assoc _ _ _⟩
  have whole : state.shared.returned ++ [entry] <+: reads state.shared.executed := by
    apply List.prefix_of_prefix_length_le sent executed
    rw [inv.released, List.length_append]
    exact Nat.add_le_add_left ready _
  have member := whole.subset (List.mem_append_right _ (List.mem_singleton_self entry))
  exact List.mem_of_mem_filter member

/-- A number names one request of a task. -/
theorem OrderInv.eq_of_number {state : State T} (inv : OrderInv state) {first second : Entry T}
    (firstSent : first ∈ state.shared.sent) (secondSent : second ∈ state.shared.sent)
    (sameTask : first.task = second.task) (sameNumber : first.number = second.number) :
    first = second := by
  have once : (numbers second.task state.shared.sent).Nodup := by
    rw [inv.numbered]
    exact List.nodup_range
  refine List.inj_on_of_nodup_map once ?_ ?_ sameNumber
  · exact List.mem_filter.mpr ⟨firstSent, decide_eq_true sameTask⟩
  · exact List.mem_filter.mpr ⟨secondSent, decide_eq_true rfl⟩

/-- The next number of a task was not used yet. -/
theorem OrderInv.number_lt {state : State T} (inv : OrderInv state) {entry : Entry T}
    (sent : entry ∈ state.shared.sent) : entry.number < (state.task entry.task).issued := by
  have member : entry.number ∈ numbers entry.task state.shared.sent :=
    List.mem_map_of_mem (List.mem_filter.mpr ⟨sent, decide_eq_true rfl⟩)
  rw [inv.numbered] at member
  exact List.mem_range.mp member

theorem OrderInv.sent_of_executed {state : State T} (inv : OrderInv state) {entry : Entry T}
    (executed : entry ∈ state.shared.executed) : entry ∈ state.shared.sent := by
  rw [inv.fifo]
  exact List.mem_append_left _ executed

/-! ## The RPC thread -/

/-- The request of the RPC thread for a piece. -/
structure Entry.IsPiece (rpcTask : T) (number : Nat) (piece : Piece) (entry : Entry T) : Prop where
  task : entry.task = rpcTask
  number : entry.number = number
  op : entry.request.op = .read
  address : entry.request.address = piece.address
  len : entry.request.len = piece.len

/-- Where the task of the RPC thread is in its call of the driver. -/
inductive PieceStage (rpcTask : T) (state : State T) (number : Nat) (piece : Piece) : Prop
  | request {place : RequestPoint} {op : OpReq}
      (point : (state.task rpcTask).point = .request place op) (isRead : op.op = .read)
      (address : op.address = piece.address) (len : op.len = piece.len)
      (issued : (state.task rpcTask).issued = number)
  | queued {entry : Entry T}
      (point : (state.task rpcTask).point = .mutexPut entry ∨
        (state.task rpcTask).point = .dataReady entry)
      (isPiece : entry.IsPiece rpcTask number piece) (sent : entry ∈ state.shared.sent)
  | returned {entry : Entry T} {result : Option Int}
      (point : (state.task rpcTask).point = .idle result)
      (isPiece : entry.IsPiece rpcTask number piece) (executed : entry ∈ state.shared.executed)

/-- A read of the RPC thread goes on when its task runs. -/
theorem PieceStage.run {config : Config} {rpcTask : T} {number : Nat} {piece : Piece}
    {source target : State T} (stage : PieceStage rpcTask source number piece)
    (order : OrderInv source) (readers : ReadersInv source)
    (turn : ReadersInTurn source (.task rpcTask .run))
    (step : QspiFlash.next config source (.task rpcTask .run) = some target) :
    PieceStage rpcTask target number piece := by
  obtain ⟨effect, local_, rfl⟩ := interleave_task_eq_some_iff.mp step
  cases stage with
  | @request place op point isRead address len issued =>
      simp only [taskStep, point] at local_
      cases place with
      | mutexGet =>
          obtain ⟨mutex, _, rfl⟩ := Option.map_eq_some_iff.mp local_
          exact .request (congrArg TaskState.point (Tasks.apply_task_self _ _ _)) isRead address len
            ((congrArg TaskState.issued (Tasks.apply_task_self _ _ _)).trans issued)
      | priorityGet =>
          cases local_
          have point := congrArg TaskState.point (Tasks.apply_task_self source rpcTask
            (proceed source.shared (source.task rpcTask) (.request .queueSend
              { op with priority := (source.task rpcTask).priority })))
          exact .request point isRead address len
            ((congrArg TaskState.issued (Tasks.apply_task_self _ _ _)).trans issued)
      | queueSend =>
          obtain ⟨flash, _, rfl⟩ := Option.map_eq_some_iff.mp local_
          refine .queued (.inl (congrArg TaskState.point (Tasks.apply_task_self _ _ _))) ?_ ?_
          · exact ⟨rfl, issued, isRead, address, len⟩
          · exact List.mem_append_right _ (List.mem_singleton_self _)
  | @queued entry point isPiece sent =>
      rcases point with point | point
      · simp only [taskStep, point] at local_
        cases local_
        have isRead : entry.isRead = true := by
          rw [Entry.isRead, isPiece.op]
          rfl
        rw [isRead, if_pos rfl]
        exact .queued (.inr (congrArg TaskState.point (Tasks.apply_task_self _ _ _))) isPiece sent
      · simp only [taskStep, point] at local_
        obtain ⟨semaphore, got, rfl⟩ := Option.map_eq_some_iff.mp local_
        obtain ⟨ready, rfl⟩ := Semaphore.get?_eq_some_iff.mp got
        have executed := readers.executed_of_ready order (turn entry point ready) ready
        exact .returned (congrArg TaskState.point (Tasks.apply_task_self _ _ _)) isPiece executed
  | returned point =>
      simp only [taskStep, point] at local_
      cases local_

omit [DecidableEq T] in
/-- Steps of others leave it where it is. -/
theorem PieceStage.others {rpcTask : T} {number : Nat} {piece : Piece} {source target : State T}
    (stage : PieceStage rpcTask source number piece)
    (own : target.task rpcTask = source.task rpcTask)
    (sent : source.shared.sent <+: target.shared.sent)
    (executed : source.shared.executed <+: target.shared.executed) :
    PieceStage rpcTask target number piece := by
  cases stage with
  | request point isRead address len issued =>
      exact .request (own ▸ point) isRead address len (own ▸ issued)
  | queued point isPiece isSent => exact .queued (own ▸ point) isPiece (sent.subset isSent)
  | returned point isPiece isExecuted =>
      exact .returned (own ▸ point) isPiece (executed.subset isExecuted)

/-- Only its own steps move the task of the RPC thread. -/
theorem next_own {config : Config} {rpcTask : T} {source target : State T} {label : Label T}
    (notCalled : NotCalledBy rpcTask label)
    (step : QspiFlash.next config source label = some target) :
    label = .task rpcTask .run ∨ target.task rpcTask = source.task rpcTask := by
  rcases next_cases step with ⟨task, event, _, rfl, _, _, tasks⟩ | ⟨_, _, _, tasks⟩
  · by_cases same : task = rpcTask
    · cases event with
      | call => exact absurd same notCalled
      | run => exact .inl (by rw [same])
    · refine .inr ?_
      rw [tasks, Function.update_of_ne (Ne.symm same)]
  · exact .inr (by rw [tasks])

/-- Histories only grow. -/
theorem next_histories {config : Config} {source target : State T} {label : Label T}
    (step : QspiFlash.next config source label = some target) :
    source.shared.sent <+: target.shared.sent ∧
      source.shared.executed <+: target.shared.executed := by
  rcases next_cases step with ⟨_, _, _, _, move, shared, _⟩ | ⟨_, _, move, _⟩
  · rw [shared, move.executed.1]
    refine ⟨?_, List.prefix_refl _⟩
    cases move.readEffect with
    | request _ sent =>
        rw [sent]
        exact List.prefix_append _ _
    | release _ _ sent | keep sent => rw [sent]
  · obtain ⟨sent, _, same | ⟨entry, _, executed, _⟩⟩ := move.reads
    · rw [sent, same.1]
      exact ⟨List.prefix_refl _, List.prefix_refl _⟩
    · rw [sent, executed]
      exact ⟨List.prefix_refl _, List.prefix_append _ _⟩

/-! ## A piece under way -/

/-- The bytes that were read for the piece. -/
def Remote.bytes (rpcTask : T) (remote : Remote T) : Nat → UInt8 :=
  match remote.response with
  | some bytes => bytes
  | none =>
      match remote.rpcThread with
      | .read number _ => remote.flash.2.buffers rpcTask number
      | .receive => fun _ => 0

/-- The task of the RPC thread is in no call. -/
def RpcIdle (rpcTask : T) (state : State T) : Prop :=
  ∃ result, (state.task rpcTask).point = .idle result

/-- Where a piece is that the client waits for. -/
inductive Remote.Serving (rpcTask : T) (remote : Remote T) (piece : Piece) : Prop
  | requested (request : remote.request = some piece) (response : remote.response = none)
      (thread : remote.rpcThread = .receive) (idle : RpcIdle rpcTask remote.flash.1)
  | reading {number : Nat} (request : remote.request = none) (response : remote.response = none)
      (thread : remote.rpcThread = .read number piece)
      (stage : PieceStage rpcTask remote.flash.1 number piece)
  | answered {bytes : Nat → UInt8} (request : remote.request = none)
      (response : remote.response = some bytes) (thread : remote.rpcThread = .receive)
      (idle : RpcIdle rpcTask remote.flash.1)

/-- No piece is under way. -/
structure Remote.Quiet (rpcTask : T) (remote : Remote T) : Prop where
  request : remote.request = none
  response : remote.response = none
  thread : remote.rpcThread = .receive
  idle : RpcIdle rpcTask remote.flash.1

theorem RpcIdle.next {config : Config} {rpcTask : T} {source target : State T} {label : Label T}
    (idle : RpcIdle rpcTask source) (notCalled : NotCalledBy rpcTask label)
    (step : QspiFlash.next config source label = some target) : RpcIdle rpcTask target := by
  obtain ⟨result, point⟩ := idle
  rcases next_own notCalled step with rfl | same
  · obtain ⟨effect, local_, _⟩ := interleave_task_eq_some_iff.mp step
    simp only [taskStep, point] at local_
    cases local_
  · exact ⟨result, same ▸ point⟩

section

variable {config : Config} {library : Library T} {rpcTask : T} {remote : Remote T} {piece : Piece}
  {label : Label T} {after : State T × Contents T}

/-- A piece stays under way while the host goes on. -/
theorem Remote.Serving.flash (serving : remote.Serving rpcTask piece)
    (host : HostInv config remote.flash) (turn : ReadersInTurn remote.flash.1 label)
    (notCalled : NotCalledBy rpcTask label)
    (step : nextContents config library remote.flash label = some after) :
    Remote.Serving rpcTask { remote with flash := after } piece := by
  have driver : QspiFlash.next config remote.flash.1 label = some after.1 :=
    (observed_eq_some_iff.mp step).1
  cases serving with
  | requested request response thread idle =>
      exact .requested request response thread (idle.next notCalled driver)
  | answered request response thread idle =>
      exact .answered request response thread (idle.next notCalled driver)
  | reading request response thread stage =>
      refine .reading request response thread ?_
      rcases next_own notCalled driver with rfl | own
      · exact stage.run host.order host.readers turn driver
      · obtain ⟨sent, executed⟩ := next_histories driver
        exact stage.others own sent executed

theorem pieceRead_reading {number : Nat} (response : remote.response = none)
    (thread : remote.rpcThread = .read number piece) :
    remote.pieceRead rpcTask = true ↔
      ∃ entry ∈ remote.flash.1.shared.executed, entry.task = rpcTask ∧ entry.number = number := by
  simp [Remote.pieceRead, response, thread]

/-- What was read for the piece stays. -/
theorem Remote.Serving.bytes_stay (serving : remote.Serving rpcTask piece)
    (host : HostInv config remote.flash) (isRead : remote.pieceRead rpcTask = true)
    (step : nextContents config library remote.flash label = some after) :
    Remote.pieceRead rpcTask { remote with flash := after } = true ∧
      Remote.bytes rpcTask { remote with flash := after } = remote.bytes rpcTask := by
  have driver : QspiFlash.next config remote.flash.1 label = some after.1 :=
    (observed_eq_some_iff.mp step).1
  cases serving with
  | requested request response thread =>
      rw [pieceRead, response, thread] at isRead
      cases isRead
  | answered request response thread =>
      simp [pieceRead, Remote.bytes, response]
  | @reading number request response thread stage =>
      obtain ⟨entry, executed, task, isNumber⟩ := (pieceRead_reading response thread).mp isRead
      have grown : Remote.pieceRead rpcTask { remote with flash := after } = true ↔
          ∃ entry ∈ after.1.shared.executed, entry.task = rpcTask ∧ entry.number = number :=
        pieceRead_reading response thread
      refine ⟨grown.mpr
        ⟨entry, (next_histories driver).2.subset executed, task, isNumber⟩, ?_⟩
      simp only [Remote.bytes, response, thread]
      rw [← task, ← isNumber]
      rcases contents_cases host.order step with ⟨_, _, same⟩ | ⟨_, _, _, contents⟩
      · exact funext (same entry executed)
      · rw [contents]

/-- When the read of a piece is executed, its bytes are those of the flash. -/
theorem Remote.Serving.bytes_new (serving : remote.Serving rpcTask piece)
    (host : HostInv config remote.flash)
    (inFlash : piece.address.toNat + piece.len.toNat ≤ config.flashSize.toNat)
    (notRead : remote.pieceRead rpcTask = false)
    (isRead : Remote.pieceRead rpcTask { remote with flash := after } = true)
    (step : nextContents config library remote.flash label = some after) :
    after.2.image = remote.flash.2.image ∧
      after.2.between = remote.flash.2.between ++ [remote.flash.2.image] ∧
        piece.Is remote.flash.2.image (Remote.bytes rpcTask { remote with flash := after }) := by
  cases serving with
  | requested request response thread =>
      rw [pieceRead] at isRead
      simp only [response, thread] at isRead
      cases isRead
  | answered request response thread =>
      rw [pieceRead, response] at notRead
      cases notRead
  | @reading number request response thread stage =>
      have notExecuted : ¬ ∃ entry ∈ remote.flash.1.shared.executed,
          entry.task = rpcTask ∧ entry.number = number := by
        rw [← pieceRead_reading response thread, notRead]
        exact Bool.false_ne_true
      have grown : Remote.pieceRead rpcTask { remote with flash := after } = true ↔
          ∃ entry ∈ after.1.shared.executed, entry.task = rpcTask ∧ entry.number = number :=
        pieceRead_reading response thread
      obtain ⟨entry, isExecuted, task, isNumber⟩ := grown.mp isRead
      rcases contents_cases host.order step with ⟨same, _⟩ | ⟨completed, point, executed, contents⟩
      · rw [show after.1.shared.executed = _ from same] at isExecuted
        exact absurd ⟨entry, isExecuted, task, isNumber⟩ notExecuted
      · have isCompleted : entry = completed := by
          rw [show after.1.shared.executed = _ from executed] at isExecuted
          rcases List.mem_append.mp isExecuted with old | new
          · exact absurd ⟨entry, old, task, isNumber⟩ notExecuted
          · exact List.mem_singleton.mp new
        subst isCompleted
        have sent : entry ∈ remote.flash.1.shared.sent := by
          rw [host.order.fifo, point]
          exact List.mem_append_right _ (List.mem_append_left _ (List.mem_singleton_self _))
        have isPiece : entry.IsPiece rpcTask number piece := by
          cases stage with
          | request _ _ _ _ issued =>
              have below := host.order.number_lt sent
              rw [task, issued, isNumber] at below
              exact absurd below (Nat.lt_irrefl _)
          | @queued other _ isPiece otherSent =>
              rw [host.order.eq_of_number sent otherSent (task.trans isPiece.task.symm)
                (isNumber.trans isPiece.number.symm)]
              exact isPiece
          | @returned other _ _ isPiece otherExecuted =>
              exact absurd ⟨other, otherExecuted, isPiece.task, isPiece.number⟩ notExecuted
        have reads : (ThreadPoint.complete entry).Reads config remote.flash.2 :=
          point ▸ host.contents.thread
        have has := reads isPiece.op (by
          rw [OpReq.InFlash, isPiece.address, isPiece.len]
          exact inFlash)
        refine ⟨by rw [contents], by rw [contents], fun i below => ?_⟩
        simp only [Remote.bytes, response, thread]
        rw [← task, ← isNumber, ← isPiece.address]
        rw [contents]
        exact has i (isPiece.len ▸ below)

end

/-! ## A read under way -/

/-- The contents of the flash after some operation that was executed since the read
began. -/
def Remote.Since (remote : Remote T) (read : RemoteRead) (image : Image) : Prop :=
  image ∈ remote.flash.2.between.drop read.begun

/-- What the client and the RPC thread have of a read. -/
def Remote.DataRight (config : Config) (rpcTask : T) (remote : Remote T) : Prop :=
  match remote.client with
  | .idle none => True
  | .idle (some read) | .mutexPut read =>
      read.op.InFlash config → ∃ image, remote.Since read image ∧ read.Has image read.len.toNat
  | .mutexGet read => AtOffset read.op read.cursor 0
  | .request read =>
      ∃ offset, AtOffset read.op read.cursor offset ∧
        (read.op.InFlash config → read.Has remote.flash.2.image offset)
  | .response read =>
      ∃ offset, AtOffset read.op read.cursor offset ∧
        (read.op.InFlash config →
          (remote.pieceRead rpcTask = false → read.Has remote.flash.2.image offset) ∧
            (remote.pieceRead rpcTask = true → ∃ image,
              (if read.cursor.len ≤ readChunkSize then remote.Since read image
                else image = remote.flash.2.image) ∧
              read.Has image offset ∧ read.piece.Is image (remote.bytes rpcTask)))

/-- Where the piece is that the client waits for, if it does. -/
def Remote.Placed (rpcTask : T) (remote : Remote T) : Prop :=
  match remote.client with
  | .response read => remote.Serving rpcTask read.piece
  | _ => remote.Quiet rpcTask

def ClientPoint.call : ClientPoint → Option RemoteRead
  | .idle last => last
  | .mutexGet read | .request read | .response read | .mutexPut read => some read

/-- What the two tiles keep. -/
structure RemoteInv (config : Config) (rpcTask : T) (remote : Remote T) : Prop where
  host : HostInv config remote.flash
  placed : remote.Placed rpcTask
  data : remote.DataRight config rpcTask
  begun : ∀ read, remote.client.call = some read → read.begun ≤ remote.flash.2.between.length

theorem remoteInv_start (config : Config) (rpcTask : T) (image : Image)
    (buffers : T → Nat → Nat → UInt8) :
    RemoteInv config rpcTask (startRemote config image buffers) where
  host := ⟨lockInv_start config, orderInv_start config, readersInv_start config,
    contentsInv_start config image buffers⟩
  placed := ⟨rfl, rfl, rfl, none, rfl⟩
  data := trivial
  begun := nofun

section

variable {config : Config} {library : Library T} {rpcTask : T} {source target : Remote T}

/-- The client goes on. -/
theorem RemoteInv.client (inv : RemoteInv config rpcTask source)
    (step : qspiFlashRemoteRead source = some target) : RemoteInv config rpcTask target := by
  obtain ⟨host, placed, data, begun⟩ := inv
  obtain ⟨flash, client, mutex, request, response, rpcThread⟩ := source
  cases client with
  | idle => cases step
  | mutexGet read =>
      obtain ⟨mutex, _, rfl⟩ := Option.map_eq_some_iff.mp step
      obtain ⟨noRequest, noResponse, receives, idle⟩ := placed
      exact ⟨host, ⟨noRequest, noResponse, receives, idle⟩, ⟨0, data, fun _ => nofun⟩, begun⟩
  | request read =>
      cases step
      obtain ⟨offset, place, has⟩ := data
      obtain ⟨noRequest, noResponse, receives, idle⟩ := placed
      obtain rfl : response = none := noResponse
      obtain rfl : rpcThread = .receive := receives
      refine ⟨host, .requested rfl rfl rfl idle, ⟨offset, place, fun inFlash => ?_⟩, begun⟩
      exact ⟨fun _ => has inFlash, nofun⟩
  | response read =>
      obtain ⟨bytes, arrived, rfl⟩ := Option.map_eq_some_iff.mp step
      obtain rfl : response = some bytes := arrived
      obtain ⟨offset, place, right⟩ := data
      obtain ⟨noRequest, receives, idle⟩ : request = none ∧ rpcThread = .receive ∧
          RpcIdle rpcTask flash.1 := by
        cases placed with
        | requested _ response => cases response
        | reading _ response => cases response
        | answered request _ thread idle => exact ⟨request, thread, idle⟩
      have after := read.take_place place bytes
      have taken : read.op.InFlash config → ∃ image,
          (if read.cursor.len ≤ readChunkSize then image ∈ flash.2.between.drop read.begun
            else image = flash.2.image) ∧
          (read.take bytes).Has image (offset + read.piece.len.toNat) := by
        intro inFlash
        obtain ⟨image, seen, has, is⟩ := (right inFlash).2 rfl
        exact ⟨image, seen, has.take place is⟩
      by_cases last : read.cursor.len ≤ readChunkSize
      · have done : (read.take bytes).cursor.len = 0 := by
          show read.cursor.len - min read.cursor.len readChunkSize = 0
          rw [show min read.cursor.len readChunkSize = read.cursor.len from if_pos last, sub_self]
        have all : offset + read.piece.len.toNat = read.len.toNat := by
          have length := after.len
          rw [done] at length
          exact (Nat.zero_add _).symm.trans length
        rw [if_neg (by rw [done]; exact UInt32.lt_irrefl 0)]
        refine ⟨host, ⟨noRequest, rfl, receives, idle⟩, fun inFlash => ?_, ?_⟩
        · obtain ⟨image, seen, has⟩ := taken inFlash
          rw [if_pos last] at seen
          exact ⟨image, seen, all ▸ has⟩
        · intro _ same
          cases same
          exact begun read rfl
      · have more : (read.take bytes).cursor.len > 0 := by
          show 0 < read.cursor.len - min read.cursor.len readChunkSize
          have chunk : min read.cursor.len readChunkSize = readChunkSize := if_neg last
          rw [chunk, UInt32.lt_iff_toNat_lt,
            UInt32.toNat_sub_of_le _ _ (UInt32.le_of_lt (UInt32.not_le.mp last))]
          exact Nat.sub_pos_of_lt (UInt32.lt_iff_toNat_lt.mp (UInt32.not_le.mp last))
        rw [if_pos more]
        refine ⟨host, ⟨noRequest, rfl, receives, idle⟩, ⟨_, after, fun inFlash => ?_⟩, ?_⟩
        · obtain ⟨image, seen, has⟩ := taken inFlash
          rw [if_neg last] at seen
          exact seen ▸ has
        · intro _ same
          cases same
          exact begun read rfl
  | mutexPut read =>
      cases step
      obtain ⟨noRequest, noResponse, receives, idle⟩ := placed
      exact ⟨host, ⟨noRequest, noResponse, receives, idle⟩, data, begun⟩

/-- The RPC thread calls the driver. -/
theorem HostInv.call {flash after : State T × Contents T} {buffer : UInt32} {piece : Piece}
    {priority : UInt32} (host : HostInv config flash) (idle : RpcIdle rpcTask flash.1)
    (step : nextContents config library flash
      (.task rpcTask (.call (.read buffer piece.address piece.len) priority)) = some after) :
    HostInv config after ∧ after.2 = flash.2 ∧
      PieceStage rpcTask after.1 (flash.1.task rpcTask).issued piece ∧
        ∀ entry ∈ after.1.shared.executed, entry.task = rpcTask →
          entry.number ≠ (flash.1.task rpcTask).issued := by
  obtain ⟨result, point⟩ := idle
  have turn : ReadersInTurn flash.1
      (.task rpcTask (.call (.read buffer piece.address piece.len) priority)) := by
    intro entry waits
    rw [point] at waits
    cases waits
  obtain ⟨driver, seen⟩ := observed_eq_some_iff.mp step
  obtain ⟨effect, local_, own⟩ := interleave_task_eq_some_iff.mp driver
  simp only [taskStep, point] at local_
  cases local_
  have self : after.1.task rpcTask = _ := own ▸ Tasks.apply_task_self _ _ _
  have after_ := host.next turn step
  have issued : (after.1.task rpcTask).issued = (flash.1.task rpcTask).issued := by rw [self]
  refine ⟨after_, seen.symm, ?_, ?_⟩
  · exact .request (congrArg TaskState.point self) rfl rfl rfl issued
  · rintro entry executed rfl number
    have below := after_.order.number_lt (after_.order.sent_of_executed executed)
    rw [number, issued] at below
    exact Nat.lt_irrefl _ below

/-- The RPC thread takes a request. -/
theorem RemoteInv.serve (inv : RemoteInv config rpcTask source) {data priority : UInt32}
    (step : nextRemote config library rpcTask source (.serve data priority) = some target) :
    RemoteInv config rpcTask target := by
  obtain ⟨host, placed, right, begun⟩ := inv
  obtain ⟨flash, client, mutex, request, response, rpcThread⟩ := source
  cases rpcThread with
  | read => cases step
  | receive =>
      cases request with
      | none => cases step
      | some piece =>
          obtain ⟨after, called, rfl⟩ := Option.map_eq_some_iff.mp step
          cases client with
          | response read =>
              cases placed with
              | reading request => cases request
              | answered request => cases request
              | requested isPiece noResponse _ idle =>
                  obtain rfl : piece = read.piece := Option.some.inj isPiece
                  obtain rfl : response = none := noResponse
                  obtain ⟨host, contents, stage, executed⟩ := host.call idle called
                  refine ⟨host, .reading rfl rfl rfl stage, ?_, ?_⟩
                  · obtain ⟨offset, place, right⟩ := right
                    refine ⟨offset, place, fun inFlash => ⟨fun _ => ?_, fun isRead => ?_⟩⟩
                    · show read.Has after.2.image offset
                      rw [contents]
                      exact (right inFlash).1 rfl
                    · obtain ⟨entry, member, task, number⟩ :=
                        (pieceRead_reading rfl rfl).mp isRead
                      exact absurd number (executed entry member task)
                  · show ∀ other, _ → _ ≤ after.2.between.length
                    rw [contents]
                    exact begun
          | idle | mutexGet | request | mutexPut => cases placed.request

/-- The RPC thread answers. -/
theorem RemoteInv.reply (inv : RemoteInv config rpcTask source)
    (step : nextRemote config library rpcTask source .reply = some target) :
    RemoteInv config rpcTask target := by
  obtain ⟨host, placed, right, begun⟩ := inv
  obtain ⟨flash, client, mutex, request, response, rpcThread⟩ := source
  cases rpcThread with
  | receive => cases step
  | read number piece =>
      cases client with
      | response read =>
          cases placed with
          | requested _ _ thread => cases thread
          | answered _ _ thread => cases thread
          | reading noRequest noResponse thread stage =>
              obtain rfl : request = none := noRequest
              obtain rfl : response = none := noResponse
              cases thread
              cases point : (flash.1.task rpcTask).point with
              | idle result =>
                  simp only [nextRemote, point] at step
                  cases step
                  refine ⟨host, .answered rfl rfl rfl ⟨result, point⟩, ?_, begun⟩
                  obtain ⟨offset, place, right⟩ := right
                  refine ⟨offset, place, fun inFlash => ⟨nofun, fun _ => ?_⟩⟩
                  refine (right inFlash).2 ((pieceRead_reading rfl rfl).mpr ?_)
                  cases stage with
                  | request other =>
                      rw [point] at other
                      cases other
                  | queued other =>
                      rw [point] at other
                      rcases other with other | other <;> cases other
                  | returned _ isPiece executed =>
                      exact ⟨_, executed, isPiece.task, isPiece.number⟩
              | _ =>
                  simp only [nextRemote, point] at step
                  cases step
      | idle | mutexGet | request | mutexPut => cases placed.thread

/-- The host goes on. -/
theorem RemoteInv.flash (inv : RemoteInv config rpcTask source) {label : Label T}
    (undisturbed : ReadUndisturbed library rpcTask source (.flash label))
    (step : nextRemote config library rpcTask source (.flash label) = some target) :
    RemoteInv config rpcTask target := by
  obtain ⟨host, placed, right, begun⟩ := inv
  obtain ⟨notCalled, hostStep⟩ := Option.ite_none_right_eq_some.mp step
  obtain ⟨after, moves, rfl⟩ := Option.map_eq_some_iff.mp hostStep
  obtain ⟨turn, stays⟩ := undisturbed
  obtain ⟨driver, seen⟩ := observed_eq_some_iff.mp moves
  have driver : QspiFlash.next config source.flash.1 label = some after.1 := driver
  have image : after.2.image = (observe library source.flash.1 label source.flash.1
      source.flash.2).image := congrArg Contents.image seen.symm
  have grows : source.flash.2.between <+: after.2.between := by
    rcases contents_cases host.order moves with ⟨_, same, _⟩ | ⟨_, _, _, contents⟩
    · rw [same]
    · rw [contents]
      exact List.prefix_append _ _
  have since : ∀ read image, source.Since read image →
      Remote.Since { source with flash := after } read image := by
    intro read image seen
    exact (grows.drop _).subset seen
  refine ⟨host.next turn moves, ?_, ?_, fun read isCall =>
    (begun read isCall).trans grows.length_le⟩
  · unfold Remote.Placed at placed ⊢
    split
    · next read point =>
        have point : source.client = .response read := point
        rw [point] at placed
        exact placed.flash host turn notCalled moves
    · next other =>
        have quiet : source.Quiet rpcTask := by
          cases point : source.client with
          | response read => exact absurd point (other read)
          | _ =>
              rw [point] at placed
              exact placed
        exact ⟨quiet.request, quiet.response, quiet.thread, quiet.idle.next notCalled driver⟩
  · -- What was read of a read that is still to read others is the same in the new contents.
    have kept : ∀ read count, source.partRead rpcTask = some (read, count) → ∀ i < count,
        after.2.image (read.address + UInt32.ofNat i) =
          source.flash.2.image (read.address + UInt32.ofNat i) := by
      intro read count part i below
      rw [image]
      exact stays read count part i below
    unfold Remote.DataRight at right ⊢
    unfold Remote.Placed at placed
    cases point : source.client with
    | idle last =>
        cases last with
        | none => trivial
        | some read =>
            simp only [point] at right ⊢
            intro inFlash
            obtain ⟨seenImage, seen, has⟩ := right inFlash
            exact ⟨seenImage, since read seenImage seen, has⟩
    | mutexPut read =>
        simp only [point] at right ⊢
        intro inFlash
        obtain ⟨seenImage, seen, has⟩ := right inFlash
        exact ⟨seenImage, since read seenImage seen, has⟩
    | mutexGet read =>
        simp only [point] at right ⊢
        exact right
    | request read =>
        simp only [point] at right ⊢
        obtain ⟨offset, place, has⟩ := right
        have part : source.partRead rpcTask = some (read, offset) := by
          rw [Remote.partRead, point, ← toNat_data place]
        refine ⟨offset, place, fun inFlash i below => ?_⟩
        rw [kept read offset part i below]
        exact has inFlash i below
    | response read =>
        simp only [point] at right placed ⊢
        obtain ⟨offset, place, right⟩ := right
        refine ⟨offset, place, fun inFlash => ?_⟩
        obtain ⟨hasUnread, hasRead⟩ := right inFlash
        cases isRead : source.pieceRead rpcTask with
        | true =>
            have stay : Remote.pieceRead rpcTask
                  { source with flash := after, client := .response read } = true ∧
                Remote.bytes rpcTask { source with flash := after, client := .response read } =
                  source.bytes rpcTask := placed.bytes_stay host isRead moves
            rw [stay.1, stay.2]
            refine ⟨nofun, fun _ => ?_⟩
            obtain ⟨seenImage, seen, has, is⟩ := hasRead isRead
            by_cases last : read.cursor.len ≤ readChunkSize
            · rw [if_pos last] at seen
              refine ⟨seenImage, ?_, has, is⟩
              rw [if_pos last]
              exact since read seenImage seen
            · rw [if_neg last] at seen
              subst seen
              have part : source.partRead rpcTask =
                  some (read, offset + read.piece.len.toNat) := by
                rw [Remote.partRead, point]
                simp only [isRead, if_true, if_neg last]
                rw [toNat_data place]
              have address : read.piece.address = read.address + UInt32.ofNat offset :=
                place.address
              refine ⟨after.2.image, if_neg last ▸ rfl, fun i below => ?_, fun i below => ?_⟩
              · rw [kept read _ part i (by omega)]
                exact has i below
              · rw [address, add_assoc, ← UInt32.ofNat_add, kept read _ part _ (by omega),
                  UInt32.ofNat_add, ← add_assoc, ← address]
                exact is i below
        | false =>
            have part : source.partRead rpcTask = some (read, offset) := by
              rw [Remote.partRead, point]
              simp only [isRead, Bool.false_eq_true, if_false]
              rw [toNat_data place]
            have has : read.Has source.flash.2.image offset := hasUnread isRead
            refine ⟨fun _ i below => ?_, fun nowRead => ?_⟩
            · rw [kept read offset part i below]
              exact has i below
            · obtain ⟨same, between, is⟩ := placed.bytes_new host (piece_inFlash place inFlash)
                isRead nowRead moves
              refine ⟨source.flash.2.image, ?_, has, is⟩
              split
              · have begun : read.begun ≤ source.flash.2.between.length :=
                  begun read (by rw [point]; rfl)
                show _ ∈ after.2.between.drop read.begun
                rw [between, List.drop_append_of_le_length begun]
                exact List.mem_append_right _ (List.mem_singleton_self _)
              · exact same.symm

theorem RemoteInv.next (inv : RemoteInv config rpcTask source) {label : RemoteLabel T}
    (undisturbed : ReadUndisturbed library rpcTask source label)
    (step : nextRemote config library rpcTask source label = some target) :
    RemoteInv config rpcTask target := by
  cases label with
  | client => exact inv.client step
  | serve => exact inv.serve step
  | reply => exact inv.reply step
  | flash => exact inv.flash undisturbed step
  | read address len buffer =>
      obtain ⟨host, placed, right, begun⟩ := inv
      obtain ⟨flash, client, mutex, request, response, rpcThread⟩ := source
      cases client with
      | idle last =>
          cases step
          obtain ⟨noRequest, noResponse, receives, idle⟩ := placed
          refine ⟨host, ⟨noRequest, noResponse, receives, idle⟩, atOffset_zero _, ?_⟩
          intro _ same
          cases same
          exact Nat.le_refl _
      | mutexGet | request | response | mutexPut => cases step

end

/-! ## Reads as their callers see them -/

/-- A remote read that has returned has the contents that the flash had between two
operations executed since it began; so has every read of a task of the host; and
no message of a remote read is lost, and no reader left blocked. -/
structure RemoteReadsRight (config : Config) (remote : Remote T) : Prop where
  returned : ∀ read, remote.client = .idle (some read) →
    read.address.toNat + read.len.toNat ≤ config.flashSize.toNat →
      ∃ image ∈ remote.flash.2.between.drop read.begun,
        ∀ i < read.len.toNat, read.data i = image (read.address + UInt32.ofNat i)
  local_ : List.Forall₂ (WasRead config remote.flash.2) remote.flash.1.shared.executed
    remote.flash.2.between
  answered : ∀ read, remote.client = .response read →
    remote.request = some read.piece ∨ (∃ number, remote.rpcThread = .read number read.piece) ∨
      ∃ bytes, remote.response = some bytes
  notStuck : remote.flash.1.shared.executed = remote.flash.1.shared.sent → ∀ t entry,
    (remote.flash.1.task t).point = .dataReady entry → 0 < remote.flash.1.shared.dataReady.count

theorem RemoteInv.right {config : Config} {rpcTask : T} {remote : Remote T}
    (inv : RemoteInv config rpcTask remote) : RemoteReadsRight config remote where
  returned read point inFlash := by
    have data := inv.data
    rw [Remote.DataRight, point] at data
    exact data inFlash
  local_ := inv.host.contents.executed
  answered read point := by
    have placed := inv.placed
    rw [Remote.Placed, point] at placed
    cases placed with
    | requested request => exact .inl request
    | reading _ _ thread => exact .inr (.inl ⟨_, thread⟩)
    | answered _ response => exact .inr (.inr ⟨_, response⟩)
  notStuck := (inv.host.readers.served inv.host.order).notStuck

/-- In every run in which the readers of the host take their completions in turn,
and what was read for a remote read is not changed until the rest of it is read,
remote reads are atomic, as local ones are. -/
theorem remoteReads_right {config : Config} {library : Library T} {rpcTask : T} {image : Image}
    {buffers : T → Nat → Nat → UInt8} {schedule : List (RemoteLabel T)}
    (undisturbed : StepsMeet (nextRemote config library rpcTask)
      (startRemote config image buffers) schedule (ReadUndisturbed library rpcTask)) :
    StatesSatisfy (nextRemote config library rpcTask) (startRemote config image buffers) schedule
      (RemoteReadsRight config) :=
  undisturbed.statesSatisfy (remoteInv_start config rpcTask image buffers)
    (fun _ _ _ inv met step => inv.next met step) fun _ inv => inv.right

end

/-! ## Two tiles -/

/-- The call may change what the flash holds. -/
def DeviceCall.modifies : DeviceCall → Bool
  | .intWrite _ _ _ | .eraseSector _ | .sendSingleByteCommand _ => true
  | _ => false

/-- No remote read is read in part, or the thread changes nothing. -/
def Remote.partKept {T : Type u} [DecidableEq T] (rpcTask : T) (remote : Remote T) : Bool :=
  (remote.partRead rpcTask).isNone ||
    match remote.flash.1.shared.thread with
    | .operate _ _ (call :: _) => !call.modifies
    | _ => true

theorem image_observe {T : Type u} [DecidableEq T] (library : Library T) {source : State T}
    (label : Label T) (target : State T) (contents : Contents T)
    (quiet : ∀ entry cursor call pending,
      source.shared.thread = .operate entry cursor (call :: pending) → call.modifies = false) :
    (observe library source label target contents).image = contents.image := by
  unfold observe
  split
  · next entry cursor call pending thread =>
      have unmodified := quiet entry cursor call pending thread
      cases call <;> first | rfl | cases unmodified
  · rfl
  · rfl

theorem Remote.readUndisturbed_of_partKept {T : Type u} [DecidableEq T] {library : Library T}
    {rpcTask : T} {remote : Remote T} {label : Label T}
    (inTurn : ReadersInTurn remote.flash.1 label) (kept : remote.partKept rpcTask = true) :
    ReadUndisturbed library rpcTask remote (.flash label) := by
  refine ⟨inTurn, ?_⟩
  rcases Bool.or_eq_true_iff.mp kept with noPart | quiet
  · rw [PartStays, Option.isNone_iff_eq_none.mp noPart]
    nofun
  · rw [PartStays, image_observe library label _ _ fun entry cursor call pending thread => by
      rw [thread] at quiet
      exact Bool.not_eq_true' _ ▸ quiet]
    intros
    rfl

/-- The readers of the host take turns, and no part of a remote read changes. -/
def Remote.undisturbed {T : Type u} [DecidableEq T] (rpcTask : T) (remote : Remote T) :
    RemoteLabel T → Bool
  | .flash label => decide (ReadersInTurn remote.flash.1 label) && remote.partKept rpcTask
  | _ => true

/-- A flash of which only the erase of the whole chip is followed. -/
def eraseLibrary : Library (Fin 2) where
  change _ call image :=
    match call with
    | .sendSingleByteCommand .eraseChip => fun _ => 0xff
    | _ => image

/-- Task 0 is the RPC thread; the flash holds zeroes. -/
def twoTiles : Remote (Fin 2) :=
  startRemote smallFlash (fun _ => 0) fun _ _ _ => 0xaa

/-- A piece of a remote read is requested, read and answered. -/
def pieceArrives (threadSteps : Nat) : List (RemoteLabel (Fin 2)) :=
  [.client, .serve 0x1000 5] ++ List.replicate 4 (.flash (.task 0 .run)) ++
    List.replicate threadSteps (.flash (.system .run)) ++ [.flash (.task 0 .run), .reply, .client]

/-- Task 1 erases the chip. -/
def chipErased : List (RemoteLabel (Fin 2)) :=
  .flash (.task 1 (.call (.erase 0 0x10000) 5)) :: List.replicate 4 (.flash (.task 1 .run)) ++
    List.replicate 12 (.flash (.system .run))

/-- The chip is erased after the second piece of a remote read. -/
def erasedAfterwards : List (RemoteLabel (Fin 2)) :=
  [.read 0 24577 fun _ => 0, .client] ++ pieceArrives 11 ++ pieceArrives 10 ++ chipErased ++
    [.client]

/-- The result of the last call. -/
def Remote.result {T : Type u} (remote : Remote T) : Option RemoteRead :=
  match remote.client with
  | .idle last => last
  | _ => none

theorem erasedAfterwards_undisturbed :
    StepsMeet (nextRemote smallFlash eraseLibrary 0) twoTiles erasedAfterwards
      (ReadUndisturbed eraseLibrary 0) := by
  have met : StepsMeet (nextRemote smallFlash eraseLibrary 0) twoTiles erasedAfterwards
      (fun remote label => remote.undisturbed 0 label = true) := by
    decide +kernel
  intro before label isPrefix source target executed step
  have kept := met isPrefix executed step
  cases label with
  | flash label =>
      obtain ⟨inTurn, kept⟩ := Bool.and_eq_true_iff.mp kept
      exact Remote.readUndisturbed_of_partKept (of_decide_eq_true inTurn) kept
  | _ => trivial

theorem erasedAfterwards_right :
    (∃ remote ∈ run (nextRemote smallFlash eraseLibrary 0) twoTiles erasedAfterwards,
      ∃ read ∈ remote.result, read.data 24576 = 0 ∧ remote.flash.2.image 24576 = 0xff) ∧
      StatesSatisfy (nextRemote smallFlash eraseLibrary 0) twoTiles erasedAfterwards
        (RemoteReadsRight smallFlash) :=
  ⟨by decide +kernel, remoteReads_right erasedAfterwards_undisturbed⟩

/-- The chip is erased between the two pieces of a remote read. -/
def erasedBetween : List (RemoteLabel (Fin 2)) :=
  [.read 0 24577 fun _ => 0, .client] ++ pieceArrives 11 ++ chipErased ++ pieceArrives 10 ++
    [.client]

/-- The result has a byte of the old contents and one of the new ones. -/
def Remote.mixed {T : Type u} (remote : Remote T) : Bool :=
  match remote.result with
  | none => false
  | some read =>
      decide (read.address = 0) && decide (read.len = 24577) &&
        remote.flash.2.between.all fun image =>
          !(decide (read.data 0 = image 0) && decide (read.data 24576 = image 24576))

theorem Remote.exists_of_mixed {T : Type u} {remote : Remote T} (mixed : remote.mixed = true) :
    ∃ read ∈ remote.result, read.address = 0 ∧ read.len = 24577 ∧
      ∀ image ∈ remote.flash.2.between,
        ¬ (read.data 0 = image 0 ∧ read.data 24576 = image 24576) := by
  unfold Remote.mixed at mixed
  cases result : remote.result with
  | none =>
      rw [result] at mixed
      cases mixed
  | some read =>
      rw [result] at mixed
      simp only [Bool.and_eq_true, decide_eq_true_eq, List.all_eq_true, Bool.not_eq_true',
        Bool.and_eq_false_iff, decide_eq_false_iff_not] at mixed
      obtain ⟨⟨address, len⟩, differs⟩ := mixed
      refine ⟨read, rfl, address, len, ?_⟩
      rintro image member ⟨first, last⟩
      rcases differs image member with other | other
      · exact other first
      · exact other last

theorem erasedBetween_mixed :
    ∃ remote, run (nextRemote smallFlash eraseLibrary 0) twoTiles erasedBetween = some remote ∧
      remote.mixed = true :=
  Option.map_eq_some_iff.mp (by decide +kernel : (run (nextRemote smallFlash eraseLibrary 0)
    twoTiles erasedBetween).map Remote.mixed = some true)

theorem Remote.client_of_result {T : Type u} {remote : Remote T} {read : RemoteRead}
    (returned : read ∈ remote.result) : remote.client = .idle (some read) := by
  unfold Remote.result at returned
  split at returned
  · next last idle => rw [idle, returned]
  · cases returned

/-- The two pieces come from different contents of the flash. -/
theorem erasedBetween_not_right :
    ¬ StatesSatisfy (nextRemote smallFlash eraseLibrary 0) twoTiles erasedBetween
      (RemoteReadsRight smallFlash) := by
  intro right
  obtain ⟨remote, final, isMixed⟩ := erasedBetween_mixed
  obtain ⟨read, returned, address, len, mixed⟩ := Remote.exists_of_mixed isMixed
  have inFlash : read.address.toNat + read.len.toNat ≤ smallFlash.flashSize.toNat := by
    rw [address, len]
    decide
  obtain ⟨image, seen, same⟩ :=
    (right (List.prefix_refl _) final).returned read (Remote.client_of_result returned) inFlash
  have first := same 0 (by rw [len]; decide)
  have last := same 24576 (by rw [len]; decide)
  rw [address] at first last
  exact mixed image (List.mem_of_mem_drop seen) ⟨first, last⟩

end FwkRtos.QspiFlash
