import FwkRtos.Transition.Labelled
import Mathlib.Logic.Function.Basic

/-!
# Link control

`WIFI_ConnectAP`, `WIFI_StartAP`, `WIFI_Disconnect`, `WIFI_StopAP` and
`WIFI_SetMode` send commands to the device and wait for bits that the host task
sets from its indications.  The connection of the station and the soft AP are
controlled in the same way, each by three bits of `sl_wfx_event_group`; they are
the two links of this file.  `wifi_lock` admits one call at a time, whichever
task makes it.
-/

namespace FwkRtos.SlWfx.LinkControl

open FwkRtos.Transition

/-- A link, and the `WIFIDeviceMode_t` in which it is used. -/
inductive Link
  | station
  | ap
  deriving DecidableEq

def Link.other : Link → Link
  | .station => .ap
  | .ap => .station

/-- The bits of a link. -/
inductive Bit
  /-- `SL_WFX_CONNECT` or `SL_WFX_START_AP` -/
  | up
  /-- `SL_WFX_CONNECT_FAIL` or `SL_WFX_START_AP_FAIL` -/
  | fail
  /-- `SL_WFX_DISCONNECT` or `SL_WFX_STOP_AP` -/
  | down
  deriving DecidableEq

/-- An operation on the event group. -/
inductive Op
  | set (bit : Bit)
  | clear (bit : Bit)
  deriving DecidableEq

/-- An indication of the device; `answers` is the command that it answers, if any. -/
inductive Indication
  | success (answers : Option Nat)
  | failure (answers : Option Nat)
  /-- The link went down, on a command or of itself. -/
  | lost
  deriving DecidableEq

def Indication.answers : Indication → Option Nat
  | .success answers | .failure answers => answers
  | .lost => none

/-- A command to bring a link up, numbered, or to take one down. -/
inductive Command
  | bringUp (link : Link) (number : Nat)
  | takeDown (link : Link)
  deriving DecidableEq

/-- The `sl_status_t` of a command. -/
inductive Status
  | ok
  /-- `SL_STATUS_WIFI_WRONG_STATE` -/
  | wrongState
  | failed
  deriving DecidableEq

/-- What the host task receives from the device. -/
inductive Message
  | indication (link : Link) (indication : Indication)
  | confirmation (command : Command) (status : Status)
  deriving DecidableEq

/-! ## Callbacks of the host task -/

/-- The two operations of a callback on the event group. -/
structure Callback where
  link : Link
  first : Op
  second : Op
  deriving DecidableEq

def upCallback (link : Link) (success : Bool) : Callback :=
  if success then ⟨link, .set .up, .clear .down⟩ else ⟨link, .clear .up, .set .fail⟩

def downCallback (link : Link) : Callback :=
  ⟨link, .clear .up, .set .down⟩

def slWfxConnectCallback : Bool → Callback := upCallback .station

def slWfxStartApCallback : Bool → Callback := upCallback .ap

def slWfxDisconnectCallback : Callback := downCallback .station

def slWfxStopApCallback : Callback := downCallback .ap

/-- `sl_wfx_host_post_event` calls the callback of an indication. -/
def slWfxHostPostEvent : Link → Indication → Callback
  | .station, .success _ => slWfxConnectCallback true
  | .station, .failure _ => slWfxConnectCallback false
  | .station, .lost => slWfxDisconnectCallback
  | .ap, .success _ => slWfxStartApCallback true
  | .ap, .failure _ => slWfxStartApCallback false
  | .ap, .lost => slWfxStopApCallback

theorem slWfxHostPostEvent_eq (link : Link) (indication : Indication) :
    slWfxHostPostEvent link indication =
      match indication with
      | .success _ => ⟨link, .set .up, .clear .down⟩
      | .failure _ => ⟨link, .clear .up, .set .fail⟩
      | .lost => ⟨link, .clear .up, .set .down⟩ := by
  cases link <;> cases indication <;> rfl

/-! ## States -/

/-- A link: its bits, the device's view of it, and what the properties speak of. -/
structure LinkState where
  up : Bool
  fail : Bool
  down : Bool
  deviceUp : Bool
  /-- The commands to bring it up that the device has yet to answer. -/
  pending : List Nat
  /-- The command of the present call, until the handling of its answer begins. -/
  awaiting : Option Nat
  /-- A success was handled since the last command to bring the link up. -/
  successSeen : Bool
  /-- The bit `up` was clear since the link was last to be taken down. -/
  clearSeen : Bool
  deriving DecidableEq

namespace LinkState

def unused : LinkState :=
  ⟨false, false, false, false, [], none, false, false⟩

def apply (link : LinkState) : Op → LinkState
  | .set .up => { link with up := true, successSeen := true }
  | .set .fail => { link with fail := true }
  | .set .down => { link with down := true }
  | .clear .up => { link with up := false, clearSeen := true }
  | .clear .fail => { link with fail := false }
  | .clear .down => { link with down := false }

/-- The bits are cleared as a whole. -/
def clearBits (link : LinkState) : LinkState :=
  { link with up := false, fail := false, down := false, clearSeen := true }

/-- The device is reset. -/
def resetDevice (link : LinkState) : LinkState :=
  { link with deviceUp := false, pending := [], awaiting := none }

/-- A command is answered. -/
def answer (link : LinkState) (answers : Option Nat) : LinkState :=
  { link with awaiting := if link.awaiting = answers then none else link.awaiting }

@[simp]
theorem answer_none (link : LinkState) : link.answer none = link := by
  have same : (if link.awaiting = none then none else link.awaiting) = link.awaiting := by
    split
    · exact Eq.symm ‹_›
    · rfl
  simp [answer, same]

@[simp]
theorem answer_up (link : LinkState) (answers : Option Nat) :
    (link.answer answers).up = link.up :=
  rfl

@[simp]
theorem answer_fail (link : LinkState) (answers : Option Nat) :
    (link.answer answers).fail = link.fail :=
  rfl

@[simp]
theorem answer_down (link : LinkState) (answers : Option Nat) :
    (link.answer answers).down = link.down :=
  rfl

@[simp]
theorem answer_deviceUp (link : LinkState) (answers : Option Nat) :
    (link.answer answers).deviceUp = link.deviceUp :=
  rfl

@[simp]
theorem answer_pending (link : LinkState) (answers : Option Nat) :
    (link.answer answers).pending = link.pending :=
  rfl

theorem awaiting_of_answer {link : LinkState} {answers : Option Nat} {number : Nat}
    (isAwaiting : (link.answer answers).awaiting = some number) :
    link.awaiting = some number := by
  unfold answer at isAwaiting
  split at isAwaiting
  · cases isAwaiting
  · exact isAwaiting

/-- A command to bring the link up is sent. -/
def send (link : LinkState) (number : Nat) : LinkState :=
  { link with
    pending := link.pending ++ [number]
    awaiting := some number
    successSeen := false }

/-- The device indicates a change of the link.  It answers pending commands only, and a
success that answers none comes while the link is up. -/
def indicate (link : LinkState) : Indication → Option LinkState
  | .success (some number) =>
      if number ∈ link.pending then
        some { link with deviceUp := true, pending := link.pending.erase number }
      else
        none
  | .success none => if link.deviceUp then some link else none
  | .failure (some number) =>
      if number ∈ link.pending then
        some { link with deviceUp := false, pending := link.pending.erase number }
      else
        none
  | .failure none | .lost => some { link with deviceUp := false }

end LinkState

inductive Call
  | bringUp (link : Link)
  | takeDown (link : Link)
  | setMode (mode : Link)
  deriving DecidableEq

def wifiConnectAp : Call := .bringUp .station

def wifiStartAp : Call := .bringUp .ap

def wifiDisconnect : Call := .takeDown .station

def wifiStopAp : Call := .takeDown .ap

def wifiSetMode : Link → Call := .setMode

/-- `WIFIReturnCode_t` -/
inductive Result
  | success
  | failure
  | timeout
  deriving DecidableEq

/-- What a link is taken down for. -/
inductive Purpose
  /-- The call is `WIFI_Disconnect` or `WIFI_StopAP`. -/
  | itself
  /-- `WIFI_SetMode` is to change to the mode of the other link, which the call then
  brings up or not. -/
  | mode (bringsUp : Bool)
  /-- The call is to bring up the same link. -/
  | restart
  deriving DecidableEq

/-- The call that takes the link down for the purpose. -/
def Purpose.call (link : Link) : Purpose → Call
  | .itself => .takeDown link
  | .mode true => .bringUp link.other
  | .mode false => .setMode link.other
  | .restart => .bringUp link

/-- Where the call is that holds `wifi_lock`. -/
inductive Point
  | outside
  /-- `WIFI_SetMode`: about to look at `wifi_mode`. -/
  | modeCheck (mode : Link) (bringsUp : Bool)
  /-- About to set `wifi_mode`. -/
  | modeStore (mode : Link) (bringsUp : Bool)
  /-- `WIFI_Disconnect` and `WIFI_StopAP`: about to look at the bit `up`. -/
  | downCheck (link : Link) (purpose : Purpose)
  | downSend (link : Link) (purpose : Purpose)
  /-- Waiting for the confirmation of the command. -/
  | downConfirm (link : Link) (purpose : Purpose)
  /-- About to wait for the bit `down`. -/
  | downWait (link : Link) (purpose : Purpose)
  | downBlocked (link : Link) (purpose : Purpose)
  /-- The wait has returned with this bit. -/
  | downWoken (link : Link) (purpose : Purpose) (down : Bool)
  /-- `WIFI_ConnectAP` and `WIFI_StartAP`: about to look at the bit `up`. -/
  | upCheck (link : Link)
  /-- About to clear the bit `fail` and to assert that `up` is clear. -/
  | upClear (link : Link)
  | upSend (link : Link)
  | upConfirm (link : Link) (number : Nat)
  /-- About to wait for the bit `up` or `fail`. -/
  | upWait (link : Link)
  | upBlocked (link : Link)
  | upWoken (link : Link) (up fail : Bool)
  /-- The command was refused. -/
  | refused (call : Call) (wrongState : Bool)
  /-- In `WIFI_Reset`. -/
  | resetting (call : Call) (result : Result)
  | assertionFailed
  deriving DecidableEq

/-- Where the host task is. -/
inductive HostPoint
  | idle
  | handling (message : Message)
  /-- Behind the first operation of a callback. -/
  | second (link : Link) (op : Op)
  deriving DecidableEq

/-- The link whose bit `fail` the host task is about to set. -/
def HostPoint.failing : HostPoint → Option Link
  | .second link (.set .fail) => some link
  | _ => none

/-- What a call returned, with whether there had been what its success is to mean: a
success handled since the command of the call was sent, or the bit `up` clear at some
moment of the call. -/
structure Return where
  call : Call
  result : Result
  witnessed : Bool
  deriving DecidableEq

structure State where
  links : Link → LinkState
  /-- `SL_WFX_INITIALIZED` -/
  initialized : Bool
  wifiMode : Link
  point : Point
  host : HostPoint
  /-- The messages that the device has sent and the host task has not received. -/
  fifo : List Message
  /-- The command that the device has yet to confirm. -/
  command : Option Command
  /-- How many commands to bring a link up were sent so far. -/
  sent : Nat
  /-- The returns so far, the latest first. -/
  returns : List Return

/-- What came of `WIFI_Reset`. -/
inductive ResetOutcome
  /-- `WIFI_Off` failed. -/
  | notOff
  /-- `WIFI_On` failed, before or after `SL_WFX_INITIALIZED` was set. -/
  | notOn (initialized : Bool)
  | done
  deriving DecidableEq

inductive Label
  /-- A call has taken `wifi_lock`. -/
  | enter (call : Call)
  /-- A call returns before it has done anything. -/
  | refuse (call : Call) (result : Result)
  /-- The call goes on. -/
  | go
  /-- The driver fails before it has sent the command. -/
  | sendFails (wrongState : Bool)
  /-- The wait for the bits times out. -/
  | timeout
  | reset (outcome : ResetOutcome)
  /-- The host task goes on. -/
  | host
  /-- The device sends an indication. -/
  | indicate (link : Link) (indication : Indication)
  /-- The device confirms the command. -/
  | confirm (status : Status)
  deriving DecidableEq

namespace State

def start : State where
  links := fun _ => .unused
  initialized := true
  wifiMode := .station
  point := .outside
  host := .idle
  fifo := []
  command := none
  sent := 0
  returns := []

def setLink (state : State) (link : Link) (new : LinkState) : State :=
  { state with links := Function.update state.links link new }

def move (state : State) (point : Point) : State :=
  { state with point := point }

/-- A call returns. -/
def finish (state : State) (call : Call) (result : Result) (witnessed : Bool) : State :=
  { state with
    point := .outside
    returns := ⟨call, result, witnessed⟩ :: state.returns }

/-! ### The calls -/

/-- `WIFI_SetMode` succeeds. -/
def modeDone (state : State) (mode : Link) (bringsUp : Bool) : State :=
  if bringsUp then
    state.move (.upCheck mode)
  else
    state.finish (.setMode mode) .success true

/-- `WIFI_Disconnect` or `WIFI_StopAP` returns `eWiFiSuccess`. -/
def downDone (state : State) (link : Link) (purpose : Purpose) : State :=
  let returned := state.finish (.takeDown link) .success (state.links link).clearSeen
  match purpose with
  | .itself => returned
  | .mode bringsUp => returned.move (.modeStore link.other bringsUp)
  | .restart => returned.move (.upClear link)

/-- `xEventGroupWaitBits` for the bit `down`, which it clears, when it returns with the
bits as they are. -/
def downTaken (state : State) (link : Link) (purpose : Purpose) : State :=
  { state.setLink link ((state.links link).apply (.clear .down)) with
    point := .downWoken link purpose (state.links link).down }

/-- The call goes on. -/
def nextGo (state : State) : Option State :=
  match state.point with
  | .modeCheck mode bringsUp =>
      if state.wifiMode = mode then
        some (state.modeDone mode bringsUp)
      else
        some (state.move (.downCheck mode.other (.mode bringsUp)))
  | .modeStore mode bringsUp => some ({ state with wifiMode := mode }.modeDone mode bringsUp)
  | .downCheck link purpose =>
      let seen := { state.links link with clearSeen := !(state.links link).up }
      if (state.links link).up then
        some ((state.setLink link seen).move (.downSend link purpose))
      else
        some ((state.setLink link seen).downDone link purpose)
  | .downSend link purpose =>
      some { state.move (.downConfirm link purpose) with command := some (.takeDown link) }
  | .downWait link purpose =>
      if (state.links link).down then
        some (state.downTaken link purpose)
      else
        some (state.move (.downBlocked link purpose))
  | .downWoken link purpose down =>
      if down then
        some (state.downDone link purpose)
      else
        some (state.move (.resetting (purpose.call link) .timeout))
  | .upCheck link =>
      if (state.links link).up then
        some (state.move (.downCheck link .restart))
      else
        some (state.move (.upClear link))
  | .upClear link =>
      some ((state.setLink link ((state.links link).apply (.clear .fail))).move
        (if (state.links link).up then .assertionFailed else .upSend link))
  | .upSend link =>
      some
        { state.setLink link ((state.links link).send state.sent) with
          point := .upConfirm link state.sent
          command := some (.bringUp link state.sent)
          sent := state.sent + 1 }
  | .upWait link =>
      if (state.links link).up || (state.links link).fail then
        some (state.move (.upWoken link (state.links link).up (state.links link).fail))
      else
        some (state.move (.upBlocked link))
  | .upWoken link up fail =>
      if up then
        some (state.finish (.bringUp link) .success (state.links link).successSeen)
      else if fail then
        some (state.finish (.bringUp link) .timeout false)
      else
        some (state.move (.resetting (.bringUp link) .timeout))
  | .refused call wrongState =>
      if wrongState then
        some (state.move (.resetting call .failure))
      else
        some (state.finish call .failure false)
  | _ => none

def nextEnter (state : State) (call : Call) : Option State :=
  if state.point = .outside ∧ state.initialized = true then
    match call with
    | .bringUp link => some (state.move (.modeCheck link true))
    | .takeDown link => some (state.move (.downCheck link .itself))
    | .setMode mode => some (state.move (.modeCheck mode false))
  else
    none

/-- `wifi_lock` was not taken, the module is not initialized, or the arguments are not
supported. -/
def nextRefuse (state : State) (call : Call) (result : Result) : Option State :=
  if result ≠ .success then
    some { state with returns := ⟨call, result, false⟩ :: state.returns }
  else
    none

def nextSendFails (state : State) (wrongState : Bool) : Option State :=
  match state.point with
  | .downSend link purpose => some (state.move (.refused (purpose.call link) wrongState))
  | .upSend link => some (state.move (.refused (.bringUp link) wrongState))
  | _ => none

/-- A wait that times out returns with the bits as they are then. -/
def nextTimeout (state : State) : Option State :=
  match state.point with
  | .downBlocked link purpose => some (state.downTaken link purpose)
  | .upBlocked link =>
      some (state.move (.upWoken link (state.links link).up (state.links link).fail))
  | _ => none

/-- `WIFI_Off` clears all bits in any case; where it succeeds the device is reset, and
nothing that it sent before is received any more. -/
def afterReset (state : State) : ResetOutcome → State
  | .notOff =>
      { state with
        links := fun link => (state.links link).clearBits
        initialized := false }
  | .notOn initialized =>
      { state with
        links := fun link => (state.links link).clearBits.resetDevice
        initialized := initialized
        fifo := []
        command := none }
  | .done =>
      { state with
        links := fun link => (state.links link).clearBits.resetDevice
        initialized := true
        wifiMode := .station
        fifo := []
        command := none }

/-- `WIFI_Reset`, behind which the call returns. -/
def nextReset (state : State) (outcome : ResetOutcome) : Option State :=
  match state.point with
  | .resetting call result => some ((state.afterReset outcome).finish call result false)
  | _ => none

/-! ### The host task and the device -/

/-- The wait of the call returns when its bits are set. -/
def release (state : State) : State :=
  match state.point with
  | .downBlocked link purpose =>
      if (state.links link).down then state.downTaken link purpose else state
  | .upBlocked link =>
      if (state.links link).up || (state.links link).fail then
        state.move (.upWoken link (state.links link).up (state.links link).fail)
      else
        state
  | _ => state

/-- An operation of the host task on the event group. -/
def operate (state : State) (link : Link) (op : Op) : State :=
  let applied := state.setLink link ((state.links link).apply op)
  match op with
  | .set _ => applied.release
  | .clear _ => applied

/-- The call that waits for the confirmation of its command goes on. -/
def confirmed (status : Status) (point : Point) : Point :=
  match point with
  | .upConfirm link _ =>
      if status = .ok then .upWait link else .refused (.bringUp link) (status = .wrongState)
  | .downConfirm link purpose =>
      if status = .ok then
        .downWait link purpose
      else
        .refused (purpose.call link) (status = .wrongState)
  | _ => point

/-- A command that was refused needs no answer any more. -/
def settle (state : State) (command : Command) (status : Status) : State :=
  match command with
  | .bringUp link number =>
      if status = .ok then
        state
      else
        state.setLink link ((state.links link).answer (some number))
  | .takeDown _ => state

/-- The host task goes on. -/
def nextHost (state : State) : Option State :=
  match state.host with
  | .idle =>
      match state.fifo with
      | message :: rest => some { state with host := .handling message, fifo := rest }
      | [] => none
  | .handling (.indication link indication) =>
      let callback := slWfxHostPostEvent link indication
      let answered := state.setLink link ((state.links link).answer indication.answers)
      some
        ({ answered with host := .second callback.link callback.second }.operate
          callback.link callback.first)
  | .handling (.confirmation command status) =>
      some
        { state.settle command status with
          point := confirmed status state.point
          host := .idle }
  | .second link op => some ({ state with host := .idle }.operate link op)

def nextIndicate (state : State) (link : Link) (indication : Indication) : Option State :=
  ((state.links link).indicate indication).map fun new =>
    { state.setLink link new with fifo := state.fifo ++ [.indication link indication] }

/-- A command that the device refuses is not pending any more. -/
def refused (state : State) (command : Command) (status : Status) : State :=
  match command with
  | .bringUp link number =>
      if status = .ok then
        state
      else
        state.setLink link
          { state.links link with pending := (state.links link).pending.erase number }
  | .takeDown _ => state

def nextConfirm (state : State) (status : Status) : Option State :=
  state.command.map fun command =>
    { state.refused command status with
      command := none
      fifo := state.fifo ++ [.confirmation command status] }

/-- One step. -/
def next : LStep State Label := fun state label =>
  match label with
  | .enter call => state.nextEnter call
  | .refuse call result => state.nextRefuse call result
  | .go => state.nextGo
  | .sendFails wrongState => state.nextSendFails wrongState
  | .timeout => state.nextTimeout
  | .reset outcome => state.nextReset outcome
  | .host => state.nextHost
  | .indicate link indication => state.nextIndicate link indication
  | .confirm status => state.nextConfirm status

/-! ## Undisturbed runs -/

/-- No bit `fail` is set between the moment when a call clears it and the moment when the
handling of the answer to its command begins, and no reset falls into the handling of a
message. -/
def Undisturbed (state : State) : Label → Prop
  | .host => ∀ link ∈ state.host.failing,
      state.point ≠ .upSend link ∧ (state.links link).awaiting = none
  | .reset _ => state.host = .idle
  | _ => True

instance (state : State) : (label : Label) → Decidable (state.Undisturbed label)
  | .host => inferInstanceAs (Decidable (∀ link ∈ state.host.failing, _))
  | .reset _ => inferInstanceAs (Decidable (state.host = .idle))
  | .enter _ | .refuse _ _ | .go | .sendFails _ | .timeout | .indicate _ _ | .confirm _ =>
      .isTrue trivial

/-- No assertion has failed, and every success that was returned means what it is to
mean. -/
structure Good (state : State) : Prop where
  noAssertion : state.point ≠ .assertionFailed
  meant : ∀ returned ∈ state.returns, returned.result = .success → returned.witnessed = true

end State

end FwkRtos.SlWfx.LinkControl
