import FwkRtos.QspiFlash.Operations

/-!
# The set-up of the ports

The flash has two libraries that use the same ports, each with its own set-up.
The operation thread infers from the last operation which of them has the ports
and switches them over when the next operation needs the other one.
-/

namespace FwkRtos.QspiFlash

universe u

/-! ## The ports -/

/-- How often the ports were set up by `fl_connectToDevice` and by
`qspi_flash_fast_read_setup_resources` since each was last torn down, and
whether the calibration is applied. -/
structure Pins where
  connections : Nat
  resources : Nat
  calibrated : Bool
  deriving DecidableEq

namespace Pins

def free : Pins := ⟨0, 0, false⟩

/-- Only `fl_connectToDevice` has the ports. -/
def connected : Pins := ⟨1, 0, false⟩

/-- Only the fast reads have the ports. -/
def fastRead : Pins := ⟨0, 1, true⟩

/-- The ports after a call that succeeds. -/
def after (pins : Pins) : DeviceCall → Pins
  | .connectToDevice => { pins with connections := pins.connections + 1 }
  | .disconnect => { pins with connections := 0 }
  | .fastReadSetupResources =>
      { pins with resources := pins.resources + 1, calibrated := false }
  | .fastReadApplyCalibration => { pins with calibrated := true }
  | .fastReadShutdown => { pins with resources := 0, calibrated := false }
  | _ => pins

/-- Nothing is set up twice, and not both at once. -/
def Sound (pins : Pins) : Prop :=
  (pins.connections = 0 ∨ pins.resources = 0) ∧ pins.connections ≤ 1 ∧ pins.resources ≤ 1

instance (pins : Pins) : Decidable pins.Sound :=
  inferInstanceAs (Decidable (_ ∧ _))

/-- The calls lead from sound ports over sound ports to the target. -/
def Leads (target : Pins) : Pins → List DeviceCall → Prop
  | pins, [] => pins = target
  | pins, call :: rest => pins.Sound ∧ Leads target (pins.after call) rest

instance decidableLeads (target : Pins) :
    ∀ (pins : Pins) (calls : List DeviceCall), Decidable (Leads target pins calls)
  | pins, [] => inferInstanceAs (Decidable (pins = target))
  | pins, call :: rest =>
      have := decidableLeads target (pins.after call) rest
      inferInstanceAs (Decidable (pins.Sound ∧ Leads target (pins.after call) rest))

end Pins

/-- The functions that initialise the driver. -/
inductive DriverInit
  | plain
  | fastRead
  deriving DecidableEq

/-- What `rtos_qspi_flash_init` and `rtos_qspi_flash_fast_read_init` do to the
ports. -/
def DriverInit.calls : DriverInit → List DeviceCall
  | .plain => [.connectToDevice]
  | .fastRead => [.connectToDevice, .disconnect, .fastReadSetupResources, .fastReadShutdown]

def DriverInit.pins (init : DriverInit) : Pins :=
  init.calls.foldl Pins.after .free

/-- The operation is one that a task can ask for. -/
def FlashOp.isRequest : FlashOp → Bool
  | .none => false
  | .llSetup => false
  | _ => true

/-- The operation is executed by fast reads. -/
def FlashOp.isFast : FlashOp → Bool
  | .readFastRaw => true
  | .readFastNibbleSwap => true
  | _ => false

/-- What an operation needs. -/
def FlashOp.pins (op : FlashOp) : Pins :=
  if op.isFast then .fastRead else .connected

/-- How the ports are between two operations, by the last of them. -/
def restingPins (init : DriverInit) (lastOp : FlashOp) : Pins :=
  if lastOp = .none then init.pins else lastOp.pins

/-- The operation thread switches the ports over without ever setting up
anything twice. -/
theorem leads_portCalls {lastOp op : FlashOp} (notSetup : lastOp ≠ .llSetup)
    (isRequest : op.isRequest = true) :
    Pins.Leads op.pins (restingPins .fastRead lastOp) (portCalls lastOp op) := by
  cases lastOp <;> cases op <;>
    first
      | decide
      | exact absurd rfl notSetup
      | cases isRequest

/-! ## Calls that leave the ports alone -/

/-- The call neither sets up nor tears down anything. -/
def DeviceCall.KeepsPorts (call : DeviceCall) : Prop :=
  ∀ pins : Pins, pins.after call = pins

theorem eq_of_mem_ite_singleton {α : Type u} {condition : Prop} [Decidable condition] {a b : α}
    (member : a ∈ if condition then [b] else []) : a = b := by
  split at member
  · exact List.mem_singleton.mp member
  · cases member

theorem keepsPorts_of_readIteration {config : Config}
    {transfer : UInt32 → UInt32 → UInt32 → List DeviceCall} {cursor : Cursor}
    (keeps : ∀ address data len, ∀ call ∈ transfer address data len, call.KeepsPorts) :
    ∀ call ∈ (readIteration config transfer cursor).1, call.KeepsPorts := by
  intro call member
  rcases List.mem_append.mp member with fill | transferred
  · rw [eq_of_mem_ite_singleton fill]
    exact fun _ => rfl
  · exact keeps _ _ _ call transferred

theorem keepsPorts_of_modify {command call : DeviceCall} (keeps : command.KeepsPorts)
    (member : call ∈ modify command) : call.KeepsPorts := by
  simp only [modify, List.mem_cons, List.not_mem_nil, or_false] at member
  rcases member with rfl | rfl | rfl | rfl
  · exact fun _ => rfl
  · exact keeps
  · exact fun _ => rfl
  · exact fun _ => rfl

theorem keepsPorts_of_intTransfer (address data len : UInt32) :
    ∀ call ∈ intTransfer address data len, call.KeepsPorts := by
  intro call member
  rw [List.mem_singleton.mp member]
  exact fun _ => rfl

theorem keepsPorts_of_fastTransfer (address data len : UInt32) :
    ∀ call ∈ fastTransfer address data len, call.KeepsPorts := by
  intro call member
  rw [List.mem_singleton.mp member]
  exact fun _ => rfl

theorem OpReq.keepsPorts_of_begin (config : Config) (op : OpReq) :
    ∀ call ∈ (op.begin config).1, call.KeepsPorts := by
  intro call member
  rw [OpReq.begin] at member
  split at member
  · rw [List.mem_singleton.mp member]
    exact fun _ => rfl
  · rw [List.mem_singleton.mp member]
    exact fun _ => rfl
  · rw [eraseStart] at member
    split at member
    · exact keepsPorts_of_modify (fun _ => rfl) member
    · split at member <;> cases member
  all_goals cases member

theorem OpReq.keepsPorts_of_iteration {config : Config} {op : OpReq} {cursor rest : Cursor}
    {calls : List DeviceCall} (more : op.iteration config cursor = some (calls, rest)) :
    ∀ call ∈ calls, call.KeepsPorts := by
  intro call member
  rw [OpReq.iteration, Option.ite_none_left_eq_some] at more
  have iterated := more.2
  split at iterated
  · cases iterated
    exact keepsPorts_of_readIteration keepsPorts_of_intTransfer call member
  · cases iterated
    exact keepsPorts_of_readIteration keepsPorts_of_fastTransfer call member
  · cases iterated
    exact keepsPorts_of_readIteration keepsPorts_of_fastTransfer call member
  · simp only [writeIteration, Option.ite_none_left_eq_some, Option.some.injEq,
      Prod.mk.injEq] at iterated
    obtain ⟨_, rfl, _⟩ := iterated
    exact keepsPorts_of_modify (fun _ => rfl) member
  · simp only [eraseIteration, Option.ite_none_left_eq_some, Option.some.injEq,
      Prod.mk.injEq] at iterated
    obtain ⟨_, rfl, _⟩ := iterated
    rcases List.mem_cons.mp member with rfl | modifies
    · exact fun _ => rfl
    · exact keepsPorts_of_modify (fun _ => rfl) modifies
  all_goals cases iterated

theorem LowLevelRead.keepsPorts_of_iteration {config : Config} {function : LowLevelRead}
    {cursor rest : Cursor} {calls : List DeviceCall}
    (more : function.iteration config cursor = some (calls, rest)) :
    ∀ call ∈ calls, call.KeepsPorts := by
  rw [LowLevelRead.iteration, Option.ite_none_left_eq_some, Option.some.injEq] at more
  obtain ⟨_, rfl⟩ : _ ∧ calls = (readIteration config function.transfer cursor).1 :=
    ⟨more.1, (congrArg Prod.fst more.2).symm⟩
  apply keepsPorts_of_readIteration
  cases function with
  | read => exact keepsPorts_of_intTransfer
  | fastRead => exact keepsPorts_of_fastTransfer
  | fastReadMode mode =>
      intro address data len call member
      rcases List.mem_cons.mp member with rfl | transferred
      · exact fun _ => rfl
      · exact keepsPorts_of_fastTransfer address data len call transferred

end FwkRtos.QspiFlash
