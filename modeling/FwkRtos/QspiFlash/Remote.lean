import FwkRtos.QspiFlash.Contents
import FwkRtos.QspiFlash.Readers

/-!
# Reads from another tile

A task of a client tile reads the flash of the host tile.  Its call is cut into
remote calls for one chunk each, which a task of the host tile, the RPC thread,
serves by calling the driver there as any other task may.
-/

namespace FwkRtos.QspiFlash

open FwkRtos.Osal
open FwkRtos.Transition

universe u

/-! ## The client -/

/-- What a remote call asks for. -/
structure Piece where
  address : UInt32
  len : UInt32
  deriving DecidableEq

/-- A call of `qspi_flash_remote_read`: its arguments, how far it is, with `data`
counted from the start of the caller's buffer, and the buffer.  Ghost: how many
operations had been executed when it began. -/
structure RemoteRead where
  address : UInt32
  len : UInt32
  cursor : Cursor
  data : Nat → UInt8
  begun : Nat

/-- The chunk that is read next. -/
def RemoteRead.piece (read : RemoteRead) : Piece where
  address := read.cursor.address
  len := min read.cursor.len readChunkSize

/-- The response to a remote call is copied to the caller's buffer. -/
def RemoteRead.take (read : RemoteRead) (bytes : Nat → UInt8) : RemoteRead :=
  let readLen := read.piece.len
  { read with
    cursor :=
      { data := read.cursor.data + readLen
        address := read.cursor.address + readLen
        len := read.cursor.len - readLen }
    data := fun i =>
      if read.cursor.data.toNat ≤ i ∧ i < read.cursor.data.toNat + readLen.toNat then
        bytes (i - read.cursor.data.toNat)
      else read.data i }

/-- Where the client is; outside of the call it has its last result. -/
inductive ClientPoint
  | idle (last : Option RemoteRead)
  | mutexGet (read : RemoteRead)
  | request (read : RemoteRead)
  | response (read : RemoteRead)
  | mutexPut (read : RemoteRead)

/-- Where the RPC thread is: it waits for a request, or it reads the flash, with the
number of its own request to the driver. -/
inductive RpcThread
  | receive
  | read (number : Nat) (piece : Piece)
  deriving DecidableEq

/-- The two tiles. -/
structure Remote (T : Type u) where
  flash : State T × Contents T
  client : ClientPoint
  mutex : RecursiveMutex Unit
  request : Option Piece
  response : Option (Nat → UInt8)
  rpcThread : RpcThread

section

variable {T : Type u} [DecidableEq T]

omit [DecidableEq T] in
/-- `qspi_flash_remote_read`. -/
def qspiFlashRemoteRead (remote : Remote T) : Option (Remote T) :=
  match remote.client with
  | .idle _ => none
  | .mutexGet read =>
      (remote.mutex.get? ()).map fun mutex =>
        { remote with mutex := mutex, client := .request read }
  | .request read => some { remote with request := some read.piece, client := .response read }
  | .response read =>
      remote.response.map fun bytes =>
        { remote with
          response := none
          client := if (read.take bytes).cursor.len > 0 then .request (read.take bytes)
            else .mutexPut (read.take bytes) }
  | .mutexPut read =>
      some { remote with mutex := remote.mutex.put (), client := .idle (some read) }

/-- The client calls `rtos_qspi_flash_read` or goes on; the RPC thread takes a request,
with the address of the buffer that it allocates and its priority, or sends its
response; or the host tile goes on. -/
inductive RemoteLabel (T : Type u)
  | read (address len : UInt32) (buffer : Nat → UInt8)
  | client
  | serve (data priority : UInt32)
  | reply
  | flash (label : Label T)

/-- The RPC thread makes no calls of its own. -/
def NotCalledBy (rpcTask : T) : Label T → Prop
  | .task task (.call _ _) => task ≠ rpcTask
  | _ => True

instance (rpcTask : T) : DecidablePred (NotCalledBy rpcTask)
  | .task task (.call _ _) => inferInstanceAs (Decidable (task ≠ rpcTask))
  | .task _ .run | .system _ => .isTrue trivial

/-- The interleaving of the two tiles; the RPC thread is the task `rpcTask` of the
host. -/
def nextRemote (config : Config) (library : Library T) (rpcTask : T) :
    LStep (Remote T) (RemoteLabel T)
  | remote, .read address len buffer =>
      match remote.client with
      | .idle _ =>
          some { remote with
            client := .mutexGet
              { address := address
                len := len
                cursor := { data := 0, address := address, len := len }
                data := buffer
                begun := remote.flash.2.between.length } }
      | _ => none
  | remote, .client => qspiFlashRemoteRead remote
  | remote, .serve data priority =>
      -- `qspi_flash_read_rpc_host`, up to its call of the driver.
      match remote.rpcThread, remote.request with
      | .receive, some piece =>
          let buffer := if piece.len > 0 then data else 0
          (nextContents config library remote.flash
            (.task rpcTask
              (.call (.read buffer piece.address piece.len) priority))).map fun flash =>
              { remote with
                flash := flash
                request := none
                rpcThread := .read (remote.flash.1.task rpcTask).issued piece }
      | _, _ => none
  | remote, .reply =>
      match remote.rpcThread, (remote.flash.1.task rpcTask).point with
      | .read number _, .idle _ =>
          some { remote with
            response := some (remote.flash.2.buffers rpcTask number)
            rpcThread := .receive }
      | _, _ => none
  | remote, .flash label =>
      if NotCalledBy rpcTask label then
        (nextContents config library remote.flash label).map fun flash =>
          { remote with flash := flash }
      else none

/-- Both tiles before any call. -/
def startRemote (config : Config) (image : Image) (buffers : T → Nat → Nat → UInt8) : Remote T where
  flash := (start config, ⟨image, buffers, []⟩)
  client := .idle none
  mutex := .unlocked
  request := none
  response := none
  rpcThread := .receive

/-! ## The part that was read -/

/-- The read of the RPC thread was executed. -/
def Remote.pieceRead (rpcTask : T) (remote : Remote T) : Bool :=
  remote.response.isSome ||
    match remote.rpcThread with
    | .read number _ =>
        remote.flash.1.shared.executed.any fun entry =>
          decide (entry.task = rpcTask ∧ entry.number = number)
    | .receive => false

/-- How many bytes of a read were read from the flash, while there are others to be
read. -/
def Remote.partRead (rpcTask : T) (remote : Remote T) : Option (RemoteRead × Nat) :=
  match remote.client with
  | .request read => some (read, read.cursor.data.toNat)
  | .response read =>
      if remote.pieceRead rpcTask then
        if read.cursor.len ≤ readChunkSize then none
        else some (read, read.cursor.data.toNat + read.piece.len.toNat)
      else some (read, read.cursor.data.toNat)
  | .idle _ | .mutexGet _ | .mutexPut _ => none

/-- The operation thread changes no byte that was read for a read that is still to
read others. -/
def PartStays (library : Library T) (rpcTask : T) (remote : Remote T) (label : Label T) : Prop :=
  ∀ read count, remote.partRead rpcTask = some (read, count) → ∀ i < count,
    (observe library remote.flash.1 label remote.flash.1 remote.flash.2).image
        (read.address + UInt32.ofNat i) =
      remote.flash.2.image (read.address + UInt32.ofNat i)

/-- The readers of the host take the completions in turn, and what was read of a
remote read stays as it is until the rest is read. -/
def ReadUndisturbed (library : Library T) (rpcTask : T) (remote : Remote T) : RemoteLabel T → Prop
  | .flash label => ReadersInTurn remote.flash.1 label ∧ PartStays library rpcTask remote label
  | _ => True

end

end FwkRtos.QspiFlash
