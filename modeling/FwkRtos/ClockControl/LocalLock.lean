import FwkRtos.MrswLock.WriterPreferred.Exclusion
import FwkRtos.MrswLock.WriterPreferred.WakeUp

/-!
# The local lock of the clock control driver

Tasks of the host tile take the lock as readers.  A task of a client tile sends a
request to the one RPC thread of its tile, and this thread takes the lock as writer
on its behalf: to the lock, the thread is the writer and not the task.
-/

namespace FwkRtos.ClockControl

open FwkRtos.Osal
open FwkRtos.Transition
open FwkRtos.MrswLock
open FwkRtos.MrswLock.WriterPreferred (Point WritePrefMrswLock)

universe u v

/-- The threads of the host tile, and which of them is the `clock_control_rpc_thread` of a
client's tile. -/
structure Deployment (T : Type u) (Client : Type v) where
  isRpcThread : T → Bool
  rpcThread : Client → T
  isRpcThread_rpcThread : ∀ client, isRpcThread (rpcThread client) = true

/-- The function codes of the two requests. -/
inductive Fcode
  | getLocalLock
  | releaseLocalLock
  deriving DecidableEq

/-- A request message; the response to it goes to `client`. -/
structure Request (Client : Type v) where
  client : Client
  fcode : Fcode
  deriving DecidableEq

/-- Where a task of a client tile is. -/
inductive ClientPoint
  | idle
  /-- The request is sent. -/
  | called (fcode : Fcode)
  /-- The response has arrived. -/
  | answered (fcode : Fcode)
  /-- `rtos_clock_control_get_local_lock` has returned. -/
  | locked
  deriving DecidableEq

/-- The lock with the threads of the host tile, the messages to the RPC threads and the
tasks of the client tiles. -/
structure System (T : Type u) (Client : Type v) where
  /-- `local_lock` with the threads that call it. -/
  localLock : WriterPreferred.State T
  /-- The requests that an RPC thread has not received yet. -/
  requests : T → List (Request Client)
  /-- The request that an RPC thread is executing. -/
  rpcMsg : T → Option (Request Client)
  client : Client → ClientPoint

inductive Label (T : Type u) (Client : Type v)
  /-- A host task calls the driver. -/
  | hostCall (thread : T) (fcode : Fcode)
  /-- A thread of the host tile runs on inside a function of the lock. -/
  | run (thread : T)
  /-- `rtos_intertile_rx` of an RPC thread returns. -/
  | rpcReceive (thread : T)
  | rpcRespond (thread : T)
  | clientCall (client : Client) (fcode : Fcode)
  | clientReturn (client : Client)
  deriving DecidableEq

/-- `clock_control_local_lock` and `clock_control_local_unlock`. -/
def clockControlLocal : Fcode → Call
  | .getLocalLock => .get .reader rtosOsalPortWaitForever
  | .releaseLocalLock => .put .reader

/-- `clock_control_get_local_lock_rpc_host` and `clock_control_release_local_lock_rpc_host`. -/
def rpcHost : Fcode → Call
  | .getLocalLock => .get .writer rtosOsalPortWaitForever
  | .releaseLocalLock => .put .writer

namespace System

variable {T : Type u} {Client : Type v} [TaskSet T] [DecidableEq Client]

/-- `rtos_clock_control_start`. -/
def start : System T Client where
  localLock := WriterPreferred.start
  requests := fun _ => []
  rpcMsg := fun _ => none
  client := fun _ => .idle

/-- A thread enters a function of the lock, whatever it was granted before. -/
def enter (system : System T Client) (thread : T) (call : Call) : System T Client :=
  { system with
    localLock := system.localLock.apply thread
      { shared := system.localLock.shared, own := WriterPreferred.Call.entry call } }

/-- A task calls `clock_control_remote_lock` when it does not hold the lock, and
`clock_control_remote_unlock` when it does. -/
def mayCall : ClientPoint → Fcode → Bool
  | .idle, .getLocalLock => true
  | .locked, .releaseLocalLock => true
  | _, _ => false

/-- Where the remote functions leave their caller. -/
def returned : Fcode → ClientPoint
  | .getLocalLock => .locked
  | .releaseLocalLock => .idle

/-- An RPC thread takes the first of its requests and calls the lock. -/
def receive (system : System T Client) (thread : T) (request : Request Client)
    (requests : List (Request Client)) : System T Client :=
  { system.enter thread (rpcHost request.fcode) with
    requests := Function.update system.requests thread requests
    rpcMsg := Function.update system.rpcMsg thread (some request) }

/-- The response goes to the task whose request it answers. -/
def respond (system : System T Client) (thread : T) (request : Request Client) :
    System T Client :=
  { system with
    rpcMsg := Function.update system.rpcMsg thread none
    client := Function.update system.client request.client (.answered request.fcode) }

/-- `rpc_client_call_generic` sends the request. -/
def send (system : System T Client) (deployment : Deployment T Client) (client : Client)
    (fcode : Fcode) : System T Client :=
  let thread := deployment.rpcThread client
  { system with
    requests := Function.update system.requests thread
      (system.requests thread ++ [⟨client, fcode⟩])
    client := Function.update system.client client (.called fcode) }

/-- One step of the system. -/
def next (deployment : Deployment T Client) : LStep (System T Client) (Label T Client)
  | system, .hostCall thread fcode =>
      if deployment.isRpcThread thread = true then none else
        (WriterPreferred.next system.localLock
          (.task thread (.call (clockControlLocal fcode)))).map
          fun localLock => { system with localLock := localLock }
  | system, .run thread =>
      (WriterPreferred.next system.localLock (.task thread .run)).map
        fun localLock => { system with localLock := localLock }
  | system, .rpcReceive thread =>
      match system.rpcMsg thread, system.requests thread with
      | none, request :: requests =>
          some (system.receive thread request requests)
      | _, _ => none
  | system, .rpcRespond thread =>
      match system.rpcMsg thread with
      | some request =>
          if (system.localLock.task thread).isIdle = true then
            some (system.respond thread request)
          else
            none
      | none => none
  | system, .clientCall client fcode =>
      if mayCall (system.client client) fcode = true then
        some (system.send deployment client fcode)
      else
        none
  | system, .clientReturn client =>
      match system.client client with
      | .answered fcode =>
          some { system with client := Function.update system.client client (returned fcode) }
      | _ => none

/-! ## What is claimed of the lock -/

/-- The task of a client tile holds the lock: from the response to its get request until
the RPC thread executes its release request. -/
def holdsLock (deployment : Deployment T Client) (system : System T Client) (client : Client) :
    Bool :=
  match system.client client with
  | .locked => true
  | .answered .getLocalLock => true
  | .called .releaseLocalLock =>
      system.rpcMsg (deployment.rpcThread client) ≠ some ⟨client, .releaseLocalLock⟩
  | _ => false

/-- A task of a client tile holds the lock alone, and the RPC thread of its tile is not
blocked on behalf of another task. -/
structure Safe (deployment : Deployment T Client) (system : System T Client) : Prop where
  oneClient : ∀ first second, system.holdsLock deployment first = true →
    system.holdsLock deployment second = true → first = second
  noHost : ∀ client thread, system.holdsLock deployment client = true →
    deployment.isRpcThread thread = false →
    (system.localLock.task thread).holds .reader = false
  notBlocked : ∀ client request, system.holdsLock deployment client = true →
    system.rpcMsg (deployment.rpcThread client) = some request → request.client ≠ client →
    (system.localLock.task (deployment.rpcThread client)).blocked = false

/-- A get request that an RPC thread receives in this step finds no task of the same tile
holding the lock. -/
def TakesUpWhenReleased (deployment : Deployment T Client) (system : System T Client) :
    Label T Client → Prop
  | .rpcReceive thread =>
      (system.requests thread).head?.map Request.fcode = some .getLocalLock →
        ∀ client, deployment.rpcThread client = thread →
          system.holdsLock deployment client = false
  | _ => True

/-- A writer that was woken finds the lock free as it takes it. -/
def TakesWhenFree (system : System T Client) : Label T Client → Prop
  | .run thread => WriterPreferred.TakesWhenFree system.localLock (.task thread .run)
  | _ => True

instance [Fintype Client] (deployment : Deployment T Client) (system : System T Client) :
    (label : Label T Client) → Decidable (TakesUpWhenReleased deployment system label)
  | .rpcReceive _ => inferInstanceAs (Decidable (_ → ∀ _ : Client, _ → _))
  | .hostCall _ _ => .isTrue trivial
  | .run _ => .isTrue trivial
  | .rpcRespond _ => .isTrue trivial
  | .clientCall _ _ => .isTrue trivial
  | .clientReturn _ => .isTrue trivial

instance (system : System T Client) :
    (label : Label T Client) → Decidable (TakesWhenFree system label)
  | .run _ =>
      inferInstanceAs (Decidable (WriterPreferred.TakesWhenFree system.localLock _))
  | .hostCall _ _ => .isTrue trivial
  | .rpcReceive _ => .isTrue trivial
  | .rpcRespond _ => .isTrue trivial
  | .clientCall _ _ => .isTrue trivial
  | .clientReturn _ => .isTrue trivial

end System

end FwkRtos.ClockControl
