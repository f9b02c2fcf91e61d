import FwkRtos.QspiFlash.Order
import FwkRtos.Transition.Observed
import Mathlib.Data.List.Forall2
import Mathlib.Data.UInt

/-!
# What is read from the flash

The operation thread executes one operation after the other, so what a read puts
in its buffer are the contents that the flash has between two operations.
-/

namespace FwkRtos.QspiFlash

open FwkRtos.Osal
open FwkRtos.Transition

universe u

/-- What is in the flash, by address. -/
abbrev Image := UInt32 → UInt8

/-- The calls of the flash libraries that change the flash.  The data of a write
is in the copy that its request names. -/
structure Library (T : Type u) where
  change : Entry T → DeviceCall → Image → Image

/-- The contents of the flash, and of the buffer of each read, by its task and its
number among the requests of the task.  Ghost: the contents of the flash after
each operation that was executed. -/
structure Contents (T : Type u) where
  image : Image
  buffers : T → Nat → Nat → UInt8
  between : List Image

section

variable {T : Type u} [DecidableEq T]

/-- Bytes are put in the buffer of an operation. -/
def Contents.transfer (contents : Contents T) (entry : Entry T) (data len : UInt32)
    (bytes : Nat → UInt8) : Contents T :=
  let offset := (data - entry.request.data).toNat
  { contents with
    buffers := fun task number i =>
      if task = entry.task ∧ number = entry.number ∧ offset ≤ i ∧ i < offset + len.toNat then
        bytes (i - offset)
      else contents.buffers task number i }

/-- A call of the operation thread.  The bytes of fast reads are not followed. -/
def Contents.perform (library : Library T) (entry : Entry T) (contents : Contents T) :
    DeviceCall → Contents T
  | .intRead address data len =>
      contents.transfer entry data len fun i => contents.image (address + UInt32.ofNat i)
  | .fill data len => contents.transfer entry data len fun _ => 0xff
  | .intWrite address data len =>
      { contents with image := library.change entry (.intWrite address data len) contents.image }
  | .eraseSector address =>
      { contents with image := library.change entry (.eraseSector address) contents.image }
  | .sendSingleByteCommand command =>
      { contents with
        image := library.change entry (.sendSingleByteCommand command) contents.image }
  | .connectToDevice | .disconnect | .fastReadSetupResources | .fastReadApplyCalibration
  | .fastReadShutdown | .fastReadModeSet _ | .fastRead _ _ _ | .whileBusy | .assert _ => contents

/-- What a step of the driver does to the contents. -/
def observe (library : Library T) (source : State T) (label : Label T) (_ : State T)
    (contents : Contents T) : Contents T :=
  match label, source.shared.thread with
  | .system .run, .operate entry _ (call :: _) => contents.perform library entry call
  | .system .run, .complete _ => { contents with between := contents.between ++ [contents.image] }
  | _, _ => contents

/-- The driver with its contents. -/
def nextContents (config : Config) (library : Library T) :
    LStep (State T × Contents T) (Label T) :=
  observed (next config) (observe library)

/-! ## A read that is executed -/

/-- The operation stays inside the flash. -/
def OpReq.InFlash (config : Config) (op : OpReq) : Prop :=
  op.address.toNat + op.len.toNat ≤ config.flashSize.toNat

omit [DecidableEq T] in
/-- The first bytes in the buffer of a read are those of the flash. -/
def Contents.Has (contents : Contents T) (entry : Entry T) (image : Image) (count : Nat) : Prop :=
  ∀ i < count, contents.buffers entry.task entry.number i =
    image (entry.request.address + UInt32.ofNat i)

/-- A cursor that has gone over some bytes of an operation. -/
structure AtOffset (op : OpReq) (cursor : Cursor) (offset : Nat) : Prop where
  data : cursor.data = op.data + UInt32.ofNat offset
  address : cursor.address = op.address + UInt32.ofNat offset
  len : cursor.len.toNat + offset = op.len.toNat

/-- How far a read is: at the start of an iteration, or about to transfer its
chunk. -/
inductive Reading (contents : Contents T) (entry : Entry T) (cursor : Cursor) :
    List DeviceCall → Prop
  | start {offset : Nat} (place : AtOffset entry.request cursor offset)
      (has : contents.Has entry contents.image offset) : Reading contents entry cursor []
  | chunk {offset : Nat} {len : UInt32}
      (place : AtOffset entry.request cursor (offset + len.toNat))
      (has : contents.Has entry contents.image offset) :
      Reading contents entry cursor
        [.intRead (entry.request.address + UInt32.ofNat offset)
          (entry.request.data + UInt32.ofNat offset) len]

/-- The operation that is executed, if it is a read inside the flash, has read what
it has gone over. -/
def ThreadPoint.Reads (config : Config) (contents : Contents T) : ThreadPoint T → Prop
  | .operate entry cursor pending =>
      entry.request.op = .read → entry.request.InFlash config →
        Reading contents entry cursor pending
  | .complete entry =>
      entry.request.op = .read → entry.request.InFlash config →
        contents.Has entry contents.image entry.request.len.toNat
  | _ => True

theorem atOffset_zero (op : OpReq) : AtOffset op op.cursor 0 where
  data := (add_zero op.data).symm
  address := (add_zero op.address).symm
  len := rfl

/-- `MIN(len, RTOS_QSPI_FLASH_READ_CHUNK_SIZE)`. -/
theorem min_readChunkSize_le (len : UInt32) : min len readChunkSize ≤ len := by
  show (if len ≤ readChunkSize then len else readChunkSize) ≤ len
  split
  · exact UInt32.le_refl len
  · next more => exact UInt32.le_of_lt (UInt32.not_le.mp more)

/-- An iteration inside the flash transfers its chunk and moves on behind it. -/
theorem readIteration_inFlash {config : Config} {op : OpReq} {cursor : Cursor} {offset : Nat}
    (transfer : UInt32 → UInt32 → UInt32 → List DeviceCall) (inFlash : op.InFlash config)
    (place : AtOffset op cursor offset) (more : cursor.len ≠ 0) :
    ∃ rest, readIteration config transfer cursor =
        (transfer (op.address + UInt32.ofNat offset) (op.data + UInt32.ofNat offset)
          (min cursor.len readChunkSize), rest) ∧
      AtOffset op rest (offset + (min cursor.len readChunkSize).toNat) := by
  have positive : 0 < cursor.len.toNat :=
    Nat.pos_of_ne_zero fun zero => more (UInt32.toNat.inj zero)
  have bound := config.flashSize.toNat_lt
  have length := place.len
  unfold OpReq.InFlash at inFlash
  have below : (min cursor.len readChunkSize).toNat ≤ cursor.len.toNat :=
    UInt32.le_iff_toNat_le.mp (min_readChunkSize_le _)
  have atAddress : cursor.address.toNat = op.address.toNat + offset := by
    rw [place.address, UInt32.toNat_add, UInt32.toNat_ofNat']
    omega
  have inside : ¬ cursor.address ≥ config.flashSize := by
    rw [ge_iff_le, UInt32.le_iff_toNat_le, atAddress]
    omega
  have whole : ¬ cursor.address + min cursor.len readChunkSize > config.flashSize := by
    rw [gt_iff_lt, UInt32.lt_iff_toNat_lt, UInt32.toNat_add, atAddress]
    omega
  have add : ∀ base : UInt32, base + UInt32.ofNat offset + min cursor.len readChunkSize =
      base + UInt32.ofNat (offset + (min cursor.len readChunkSize).toNat) := by
    intro base
    rw [UInt32.ofNat_add, UInt32.ofNat_toNat, add_assoc]
  refine ⟨{ data := op.data + UInt32.ofNat offset + min cursor.len readChunkSize
            address := op.address + UInt32.ofNat offset + min cursor.len readChunkSize
            len := cursor.len - min cursor.len readChunkSize }, ?_, ?_⟩
  · simp only [readIteration, if_neg inside, if_neg whole, List.nil_append]
    rw [place.address, place.data]
  · constructor
    · exact add op.data
    · exact add op.address
    · show (cursor.len - _).toNat + _ = _
      rw [UInt32.toNat_sub_of_le _ _ (min_readChunkSize_le _)]
      omega

theorem OpReq.begin_read (config : Config) {op : OpReq} (isRead : op.op = .read) :
    op.begin config = ([], op.cursor) := by
  rw [begin, isRead]

/-- A read transfers the next chunk, unless it has read everything. -/
theorem OpReq.iteration_read {config : Config} {op : OpReq} {cursor : Cursor} {offset : Nat}
    (isRead : op.op = .read) (inFlash : op.InFlash config) (place : AtOffset op cursor offset) :
    (op.iteration config cursor = none ∧ offset = op.len.toNat) ∨
      ∃ len rest, op.iteration config cursor =
          some ([.intRead (op.address + UInt32.ofNat offset) (op.data + UInt32.ofNat offset) len],
            rest) ∧
        AtOffset op rest (offset + len.toNat) := by
  by_cases done : cursor.len = 0
  · refine .inl ⟨if_pos done, ?_⟩
    have length := place.len
    rw [done] at length
    exact (Nat.zero_add offset).symm.trans length
  · obtain ⟨rest, iteration, after⟩ := readIteration_inFlash intTransfer inFlash place done
    refine .inr ⟨_, rest, ?_, after⟩
    rw [OpReq.iteration, if_neg done, isRead]
    exact congrArg some iteration

/-- A transfer changes only the bytes that it covers. -/
theorem Contents.transfer_buffers (contents : Contents T) (entry : Entry T) {offset : Nat}
    {len : UInt32} (bytes : Nat → UInt8) (small : offset < 2 ^ 32) (i : Nat) :
    (contents.transfer entry (entry.request.data + UInt32.ofNat offset) len bytes).buffers
        entry.task entry.number i =
      if offset ≤ i ∧ i < offset + len.toNat then bytes (i - offset)
      else contents.buffers entry.task entry.number i := by
  have start : (entry.request.data + UInt32.ofNat offset - entry.request.data).toNat = offset := by
    rw [add_sub_cancel_left, UInt32.toNat_ofNat', Nat.mod_eq_of_lt small]
  simp only [transfer, start, true_and]

/-- A chunk that is transferred has been read. -/
theorem Contents.Has.chunk {contents : Contents T} {entry : Entry T} {offset : Nat} {len : UInt32}
    (has : contents.Has entry contents.image offset) (small : offset < 2 ^ 32) :
    (contents.transfer entry (entry.request.data + UInt32.ofNat offset) len fun i =>
      contents.image (entry.request.address + UInt32.ofNat offset + UInt32.ofNat i)).Has entry
        contents.image (offset + len.toNat) := by
  intro i below
  rw [transfer_buffers _ _ _ small]
  split
  · next covered =>
      rw [add_assoc, ← UInt32.ofNat_add, Nat.add_sub_cancel' covered.1]
  · next outside => exact has i (by omega)

/-- The calls that an operation makes change no buffer but its own. -/
theorem Contents.perform_other (library : Library T) (contents : Contents T) (entry : Entry T)
    (call : DeviceCall) {task : T} {number : Nat}
    (other : ¬ (task = entry.task ∧ number = entry.number)) (i : Nat) :
    (contents.perform library entry call).buffers task number i =
      contents.buffers task number i := by
  cases call with
  | intRead | fill =>
      rw [perform, transfer]
      exact if_neg fun covered => other ⟨covered.1, covered.2.1⟩
  | _ => rfl

@[simp]
theorem Contents.perform_between (library : Library T) (contents : Contents T) (entry : Entry T)
    (call : DeviceCall) : (contents.perform library entry call).between = contents.between := by
  cases call <;> rfl

/-- An operation that was executed, if it is a read inside the flash, has the bytes
that the flash had then. -/
def WasRead (config : Config) (contents : Contents T) (entry : Entry T) (image : Image) : Prop :=
  entry.request.op = .read → entry.request.InFlash config →
    contents.Has entry image entry.request.len.toNat

/-- What the buffers hold in every run. -/
structure ContentsInv (config : Config) (state : State T × Contents T) : Prop where
  thread : state.1.shared.thread.Reads config state.2
  executed : List.Forall₂ (WasRead config state.2) state.1.shared.executed state.2.between

/-- Numbers name the requests of a task. -/
theorem OrderInv.current_new {state : State T} (inv : OrderInv state) {entry other : Entry T}
    (current : state.shared.thread.current = some entry)
    (executed : other ∈ state.shared.executed) :
    ¬ (other.task = entry.task ∧ other.number = entry.number) := by
  rintro ⟨sameTask, sameNumber⟩
  have once : (numbers entry.task state.shared.sent).Nodup := by
    rw [inv.numbered]
    exact List.nodup_range
  rw [inv.fifo, current, numbers, List.filter_append, List.map_append] at once
  have apart := (List.nodup_append.mp once).2.2
  refine apart other.number ?_ entry.number ?_ sameNumber
  · exact List.mem_map_of_mem (List.mem_filter.mpr ⟨executed, decide_eq_true sameTask⟩)
  · refine List.mem_map_of_mem (List.mem_filter.mpr ⟨?_, decide_eq_true rfl⟩)
    exact List.mem_append_left _ (List.mem_singleton_self entry)

/-- What was read stays in its buffer while another operation is executed. -/
theorem ContentsInv.executed_perform {config : Config} {state : State T × Contents T}
    (inv : ContentsInv config state) (order : OrderInv state.1) (library : Library T)
    {entry : Entry T} (call : DeviceCall)
    (current : state.1.shared.thread.current = some entry) :
    List.Forall₂ (WasRead config (state.2.perform library entry call)) state.1.shared.executed
      (state.2.perform library entry call).between := by
  have executed := inv.executed
  rw [Contents.perform_between]
  rw [List.forall₂_iff_zip] at executed ⊢
  refine ⟨executed.1, fun member isRead inFlash i below => ?_⟩
  rw [Contents.perform_other _ _ _ _ (order.current_new current (List.of_mem_zip member).1)]
  exact executed.2 member isRead inFlash i below

theorem TaskMove.thread_resumes {config : Config} {source : State T} {task : T} {event : Event}
    {effect : FlashEffect T}
    (move : TaskMove config task source.shared (source.task task) event effect) :
    effect.shared.thread = source.shared.thread ∨
      effect.shared.thread = source.shared.thread.resume := by
  cases move with
  | shutdownResume => exact .inr rfl
  | _ => exact .inl rfl

omit [DecidableEq T] in
/-- Steps of tasks leave the operation thread where it is, or resume it. -/
theorem ThreadPoint.Reads.resume {config : Config} {contents : Contents T} {thread : ThreadPoint T}
    (reads : thread.Reads config contents) : thread.resume.Reads config contents := by
  cases thread with
  | suspended => trivial
  | _ => exact reads

/-- A call in the loop of an operation. -/
theorem ThreadPoint.Reads.perform {config : Config} {contents : Contents T} {entry : Entry T}
    {cursor : Cursor} {call : DeviceCall} {pending : List DeviceCall}
    (reads : (ThreadPoint.operate entry cursor (call :: pending)).Reads config contents)
    (library : Library T) :
    (ThreadPoint.operate entry cursor pending).Reads config
      (contents.perform library entry call) := by
  intro isRead inFlash
  cases reads isRead inFlash with
  | @chunk offset len place has =>
      have length := place.len
      have bound := entry.request.len.toNat_lt
      exact .start place (has.chunk (by omega))

omit [DecidableEq T] in
/-- The start of an iteration. -/
theorem ThreadPoint.Reads.iterate {config : Config} {contents : Contents T} {entry : Entry T}
    {cursor : Cursor} (reads : (ThreadPoint.operate entry cursor []).Reads config contents) :
    ThreadPoint.Reads config contents
      (match entry.request.iteration config cursor with
        | some (calls, rest) => .operate entry rest calls
        | none => .complete entry) := by
  cases iteration : entry.request.iteration config cursor with
  | none =>
      intro isRead inFlash
      cases reads isRead inFlash with
      | start place has =>
          rcases OpReq.iteration_read isRead inFlash place with ⟨_, all⟩ | ⟨_, _, more, _⟩
          · exact all ▸ has
          · rw [iteration] at more
            cases more
  | some next =>
      obtain ⟨calls, rest⟩ := next
      intro isRead inFlash
      cases reads isRead inFlash with
      | start place has =>
          rcases OpReq.iteration_read isRead inFlash place with ⟨none_, _⟩ | ⟨len, _, more, after⟩
          · rw [iteration] at none_
            cases none_
          · rw [iteration] at more
            cases more
            exact .chunk after has

omit [DecidableEq T] in
theorem contentsInv_start (config : Config) (image : Image) (buffers : T → Nat → Nat → UInt8) :
    ContentsInv config (start config, ⟨image, buffers, []⟩) where
  thread := trivial
  executed := .nil

theorem ContentsInv.system {config : Config} {library : Library T} {source target : State T}
    {contents : Contents T} {event : ThreadEvent} {flash : Flash T}
    (inv : ContentsInv config (source, contents)) (order : OrderInv source)
    (step : qspiFlashOpThread config source.shared event source.shared.thread = some flash) :
    ContentsInv config (source.applySystem (flash, fun own => own),
      observe library source (.system event) target contents) := by
  have quiet : flash.thread.Reads config contents → flash.executed = source.shared.executed →
      (observe library source (.system event) target contents = contents) →
      ContentsInv config (source.applySystem (flash, fun own => own),
        observe library source (.system event) target contents) := by
    intro reads same unseen
    rw [unseen]
    exact ⟨reads, same ▸ inv.executed⟩
  have thread : source.shared.thread.Reads config contents := inv.thread
  cases point : source.shared.thread with
  | operate entry cursor pending =>
      rw [point] at step thread
      cases event with
      | connectFails => cases step
      | run =>
          cases pending with
          | nil =>
              cases step
              exact quiet thread.iterate rfl (by simp only [observe, point])
          | cons call pending =>
              cases step
              have current : source.shared.thread.current = some entry := by rw [point]; rfl
              have executed := inv.executed_perform order library call current
              simp only [observe, point]
              refine ⟨?_, executed⟩
              show ThreadPoint.Reads config _ (if _ then _ else _)
              split
              · trivial
              · exact thread.perform library
  | complete entry =>
      rw [point] at step thread
      cases event with
      | connectFails => cases step
      | run =>
          cases step
          simp only [observe, point]
          exact ⟨trivial, List.rel_append inv.executed (.cons thread .nil)⟩
  | receive =>
      have unseen : observe library source (.system event) target contents = contents := by
        cases event <;> simp only [observe, point]
      rw [point] at step
      cases event with
      | connectFails => cases step
      | run =>
          cases queue : source.shared.opQueue with
          | nil =>
              rw [qspiFlashOpThread, queue] at step
              cases step
          | cons entry rest =>
              rw [qspiFlashOpThread, queue] at step
              cases step
              refine quiet ?_ rfl unseen
              show ThreadPoint.Reads config _ (if _ then _ else _)
              split <;> trivial
  | ports entry pending =>
      have unseen : observe library source (.system event) target contents = contents := by
        cases event <;> simp only [observe, point]
      rw [point] at step
      cases pending with
      | nil =>
          cases event with
          | connectFails => cases step
          | run =>
              cases step
              refine quiet (fun isRead _ => ?_) rfl unseen
              rw [OpReq.begin_read config isRead]
              exact .start (atOffset_zero _) nofun
      | cons call pending =>
          cases event with
          | run =>
              cases step
              exact quiet trivial rfl unseen
          | connectFails =>
              cases call with
              | connectToDevice =>
                  cases step
                  exact quiet trivial rfl unseen
              | _ => cases step
  | connectRetry entry cnt pending =>
      have unseen : observe library source (.system event) target contents = contents := by
        cases event <;> simp only [observe, point]
      rw [point] at step
      cases event with
      | run =>
          cases step
          exact quiet trivial rfl unseen
      | connectFails =>
          cases step
          refine quiet ?_ rfl unseen
          show ThreadPoint.Reads config _ (if _ then _ else _)
          split <;> trivial
  | llClear | llSuspend | suspended | prioritySet | switch | record | priorityReset
    | assertionFailed =>
      have unseen : observe library source (.system event) target contents = contents := by
        cases event <;> simp only [observe, point]
      rw [point] at step
      cases event <;> cases step <;> exact quiet trivial rfl unseen

theorem ContentsInv.next {config : Config} {library : Library T}
    {source target : State T × Contents T} {label : Label T} (inv : ContentsInv config source)
    (order : OrderInv source.1) (step : nextContents config library source label = some target) :
    ContentsInv config target := by
  obtain ⟨source, contents⟩ := source
  obtain ⟨target, after⟩ := target
  obtain ⟨step, seen⟩ := observed_eq_some_iff.mp step
  have step : QspiFlash.next config source label = some target := step
  have seen : observe library source label target contents = after := seen
  obtain ⟨thread, executed⟩ := inv
  subst seen
  cases label with
  | task task event =>
      obtain ⟨_, _, _, same, move, shared, _⟩ | ⟨_, other, _⟩ := next_cases step
      · cases same
        constructor
        · show target.shared.thread.Reads config contents
          rw [shared]
          rcases move.thread_resumes with same | resumed
          · rw [same]
            exact thread
          · rw [resumed]
            exact thread.resume
        · show List.Forall₂ _ target.shared.executed contents.between
          rw [shared, move.executed.1]
          exact executed
      · cases other
  | system event =>
      obtain ⟨effect, system, rfl⟩ := interleave_system_eq_some_iff.mp step
      obtain ⟨flash, local_, rfl⟩ := Option.map_eq_some_iff.mp system
      exact ContentsInv.system ⟨thread, executed⟩ order local_

end

end FwkRtos.QspiFlash
