import FwkRtos.Transition.Labelled
import Mathlib.Logic.Function.Basic

/-!
# The receive task

`sl_wfx_host_task_start` creates the task that receives the frames of the device,
and `sl_wfx_host_task_stop` asks it to end through a bit of an event group that
other operations clear as a whole.  Every agent executes its operations
instruction by instruction.
-/

namespace FwkRtos.SlWfx.ReceiveTask

open FwkRtos.Transition

/-- The bits of `sl_wfx_event_group` that concern the task. -/
structure Bits where
  interrupt : Bool
  initialized : Bool
  deinitialized : Bool
  deriving DecidableEq

/-- A bit that ends the wait of the task is set. -/
def Bits.ready (bits : Bits) : Bool :=
  bits.interrupt || bits.deinitialized

/-- The bits behind a wait that cleared what it waited for. -/
def Bits.taken (bits : Bits) : Bits :=
  { bits with interrupt := false, deinitialized := false }

/-- Where a receive task is in its loop. -/
inductive Point
  | absent
  /-- About to wait. -/
  | looping
  /-- Blocked in the wait. -/
  | blocked
  /-- The wait has returned with these bits. -/
  | woken (interrupt deinitialized : Bool)
  /-- In `sl_wfx_host_receive_frames`. -/
  | receiving
  /-- In `sl_wfx_host_reset`. -/
  | resetting
  | deleted
  deriving DecidableEq

/-- A receive task, with its wait and how often it found no frame. -/
structure Task where
  point : Point
  /-- It waits for 100 ms, and not for ever. -/
  timed : Bool
  errorCount : Nat
  deriving DecidableEq

def Task.alive (task : Task) : Bool :=
  task.point ≠ .absent && task.point ≠ .deleted

inductive Agent
  | app (n : Nat)
  | receiver (task : Nat)
  deriving DecidableEq

/-- The instructions of start, stop and `WIFI_Off`. -/
inductive Instr
  /-- Take `receive_task_handle` and set it to NULL. -/
  | take
  | clearInitialized (task : Nat)
  | setDeinitialized (task : Nat)
  /-- Look whether `receive_task_handle` is NULL. -/
  | checkNull
  /-- `xEventGroupClearBits( sl_wfx_event_group, 0x00FFFFFF )` -/
  | clearAll
  | setInitialized
  /-- `xTaskCreate` -/
  | create
  deriving DecidableEq

def slWfxHostTaskStop : List Instr := [.take]

def slWfxHostTaskStart : List Instr := [.checkNull]

/-- `WIFI_Off`; the bus is de-initialised when the driver was started. -/
def wifiOff (started : Bool) : List Instr :=
  (if started then slWfxHostTaskStop else []) ++ [.clearAll]

/-- `sl_wfx_host_reset`, with so many attempts at `sl_wfx_init`. -/
def slWfxHostReset (attempts : Nat) : List Instr :=
  slWfxHostTaskStop ++ (List.replicate attempts slWfxHostTaskStart).flatten

/-- What `sl_wfx_host_receive_frames` returned. -/
inductive Outcome
  | ok
  /-- `SL_STATUS_WIFI_NO_PACKET_TO_RECEIVE` or `SL_STATUS_TIMEOUT` -/
  | noPacket (attempts : Nat)
  | error (attempts : Nat)
  deriving DecidableEq

def maxErrors : Nat := 3

/-- What has gone wrong with a stop request so far. -/
structure Faults where
  /-- The bit was cleared before the task had seen it. -/
  lost : Bool
  /-- The wait of a task returned without the bit when its handle had been taken. -/
  stray : Bool
  /-- The bit was taken by a task whose handle had not been taken. -/
  stolen : Bool
  deriving DecidableEq

structure Host where
  bits : Bits
  receiveTaskHandle : Option Nat
  tasks : Nat → Task
  /-- How many tasks were created so far. -/
  created : Nat
  programs : Agent → List Instr
  /-- The tasks whose handle was taken. -/
  requested : Nat → Bool
  faults : Faults

inductive Label
  /-- An application task calls start, stop or `WIFI_Off`. -/
  | start (n : Nat)
  | stop (n : Nat)
  | off (n : Nat) (started : Bool)
  /-- An agent executes its next instruction. -/
  | instr (agent : Agent)
  /-- A receive task waits. -/
  | wait (task : Nat)
  /-- Its wait times out. -/
  | timeout (task : Nat)
  /-- It goes on behind its wait, or behind a reset. -/
  | go (task : Nat)
  | frames (task : Nat) (outcome : Outcome)
  /-- `sl_wfx_host_task_rx_notify` -/
  | interrupt
  deriving DecidableEq

namespace Host

def begin_ : Host where
  bits := ⟨false, false, false⟩
  receiveTaskHandle := none
  tasks := fun _ => ⟨.absent, false, 0⟩
  created := 0
  programs := fun _ => []
  requested := fun _ => false
  faults := ⟨false, false, false⟩

def alive (host : Host) (task : Nat) : Bool :=
  (host.tasks task).alive

def point (host : Host) (task : Nat) : Point :=
  (host.tasks task).point

def setTask (host : Host) (task : Nat) (new : Task) : Host :=
  { host with tasks := Function.update host.tasks task new }

def move (host : Host) (task : Nat) (point : Point) : Host :=
  host.setTask task { host.tasks task with point := point }

/-- The faults when the wait of a task returns with or without the stop bit. -/
def faultsAt (host : Host) (task : Nat) (deinitialized : Bool) : Faults :=
  { host.faults with
    stray := host.faults.stray || (host.requested task && !deinitialized)
    stolen := host.faults.stolen || (!host.requested task && deinitialized) }

/-- The tasks blocked in the wait. -/
def blockedTasks (host : Host) : List Nat :=
  (List.range host.created).filter fun task => host.point task = .blocked

/-- `xEventGroupSetBits`: every task whose wait ends is woken, and then the bits are
cleared for which they waited. -/
def setBits (host : Host) (bits : Bits) : Host :=
  if bits.ready = true ∧ host.blockedTasks ≠ [] then
    { host with
      bits := bits.taken
      tasks := fun task =>
        if task ∈ host.blockedTasks then
          { host.tasks task with point := .woken bits.interrupt bits.deinitialized }
        else
          host.tasks task
      faults :=
        { host.faults with
          stray := host.faults.stray ||
            host.blockedTasks.any fun task => host.requested task && !bits.deinitialized
          stolen := host.faults.stolen ||
            host.blockedTasks.any fun task => !host.requested task && bits.deinitialized } }
  else
    { host with bits := bits }

/-- An instruction of a program whose rest is given. -/
def execute (host : Host) (agent : Agent) (rest : List Instr) : Instr → Host
  | .take =>
      match host.receiveTaskHandle with
      | some task =>
          { host with
            receiveTaskHandle := none
            requested := Function.update host.requested task true
            programs := Function.update host.programs agent
              (.clearInitialized task :: .setDeinitialized task :: rest) }
      | none => { host with programs := Function.update host.programs agent rest }
  | .clearInitialized _ =>
      { host with
        bits := { host.bits with initialized := false }
        programs := Function.update host.programs agent rest }
  | .setDeinitialized _ =>
      { host with programs := Function.update host.programs agent rest }.setBits
        { host.bits with deinitialized := true }
  | .checkNull =>
      { host with
        programs := Function.update host.programs agent
          (if host.receiveTaskHandle = none then .clearAll :: .setInitialized :: .create :: rest
            else rest) }
  | .clearAll =>
      { host with
        bits := ⟨false, false, false⟩
        faults := { host.faults with lost := host.faults.lost || host.bits.deinitialized }
        programs := Function.update host.programs agent rest }
  | .setInitialized =>
      { host with programs := Function.update host.programs agent rest }.setBits
        { host.bits with initialized := true }
  | .create =>
      { host.setTask host.created ⟨.looping, false, 0⟩ with
        receiveTaskHandle := some host.created
        created := host.created + 1
        programs := Function.update host.programs agent rest }

def nextInstr (host : Host) (agent : Agent) : Option Host :=
  match host.programs agent with
  | [] => none
  | instr :: rest => some (host.execute agent rest instr)

/-- The task waits. -/
def nextWait (host : Host) (task : Nat) : Option Host :=
  if host.point task = .looping then
    if host.bits.ready = true then
      some
        { host.move task (.woken host.bits.interrupt host.bits.deinitialized) with
          bits := host.bits.taken
          faults := host.faultsAt task host.bits.deinitialized }
    else
      some (host.move task .blocked)
  else
    none

/-- A time-out is treated as if an interrupt occurred. -/
def nextTimeout (host : Host) (task : Nat) : Option Host :=
  if host.point task = .blocked ∧ (host.tasks task).timed = true then
    some { host.move task (.woken true false) with faults := host.faultsAt task false }
  else
    none

/-- The task ends, receives frames or waits again. -/
def nextGo (host : Host) (task : Nat) : Option Host :=
  match host.point task with
  | .woken interrupt deinitialized =>
      some (host.move task
        (if deinitialized then .deleted else if interrupt then .receiving else .looping))
  | .resetting =>
      if host.programs (.receiver task) = [] then some (host.move task .looping) else none
  | _ => none

/-- The task calls `sl_wfx_host_reset`. -/
def reset (host : Host) (task : Nat) (errorCount attempts : Nat) : Host :=
  { host.setTask task ⟨.resetting, false, errorCount⟩ with
    programs := Function.update host.programs (.receiver task) (slWfxHostReset attempts) }

/-- The frames were received, or not. -/
def nextFrames (host : Host) (task : Nat) (outcome : Outcome) : Option Host :=
  let errorCount := (host.tasks task).errorCount
  if host.point task = .receiving then
    match outcome with
    | .ok => some (host.setTask task ⟨.looping, false, 0⟩)
    | .noPacket attempts =>
        if errorCount = maxErrors then
          some (host.reset task (errorCount + 1) attempts)
        else
          some (host.setTask task ⟨.looping, true, errorCount + 1⟩)
    | .error attempts => some (host.reset task errorCount attempts)
  else
    none

/-- An application task that is in no operation begins one. -/
def call (host : Host) (n : Nat) (program : List Instr) : Option Host :=
  if host.programs (.app n) = [] then
    some { host with programs := Function.update host.programs (.app n) program }
  else
    none

/-- One step. -/
def next : LStep Host Label := fun host label =>
  match label with
  | .start n => host.call n slWfxHostTaskStart
  | .stop n => host.call n slWfxHostTaskStop
  | .off n started => host.call n (wifiOff started)
  | .instr agent => host.nextInstr agent
  | .wait task => host.nextWait task
  | .timeout task => host.nextTimeout task
  | .go task => host.nextGo task
  | .frames task outcome => host.nextFrames task outcome
  | .interrupt =>
      if host.receiveTaskHandle = none then
        some host
      else
        some (host.setBits { host.bits with interrupt := true })

/-! ## Stops and starts in order -/

/-- A task whose handle was taken is still alive. -/
def stopping (host : Host) : Bool :=
  (List.range host.created).any fun task => host.requested task && host.alive task

/-- The event group is cleared and a task is created only while no task whose handle was
taken is alive, a task is created while the handle is NULL, and no wait of a task returns
between the taking of its handle and the setting of the bit. -/
def InOrder (host : Host) : Label → Prop
  | .instr agent =>
      ((host.programs agent).head? = some .clearAll ∨ (host.programs agent).head? = some .create →
        host.stopping = false) ∧
      ((host.programs agent).head? = some .create → host.receiveTaskHandle = none)
  | .wait task => host.requested task = true → host.bits.interrupt = true →
      host.bits.deinitialized = true
  | .timeout task => host.requested task = false
  | _ => True

instance (host : Host) : (label : Label) → Decidable (host.InOrder label)
  | .instr _ => inferInstanceAs (Decidable (_ ∧ _))
  | .wait _ => inferInstanceAs (Decidable (_ → _ → _))
  | .timeout task => inferInstanceAs (Decidable (host.requested task = false))
  | .start _ | .stop _ | .off _ _ | .go _ | .frames _ _ | .interrupt => .isTrue trivial

/-- An agent is between taking the handle of the task and setting the bit. -/
def Pending (host : Host) (task : Nat) : Prop :=
  ∃ agent, .setDeinitialized task ∈ host.programs agent

/-- Stop requests are seen by the tasks they are meant for, and there is one task at most
that is not asked to stop. -/
structure Good (host : Host) : Prop where
  noFaults : host.faults = ⟨false, false, false⟩
  one : ∀ first second, host.alive first = true → host.requested first = false →
    host.alive second = true → host.requested second = false → first = second
  /-- Once the bit is set the task does not stay blocked. -/
  unblocked : ∀ task, host.requested task = true → host.point task = .blocked →
    host.Pending task

end Host

end FwkRtos.SlWfx.ReceiveTask
