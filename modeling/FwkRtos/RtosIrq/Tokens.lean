import FwkRtos.RtosIrq.Interrupts
import Mathlib.Tactic.IntervalCases
import Mathlib.Tactic.SplitIfs

/-!
# Tokens and flags

A core whose flags are not all clear owes its handler exactly one read: a token
is in flight, or it was read and the snapshot is still to be taken, or the call
that found no flag set has yet to send it.
-/

namespace FwkRtos.RtosIrq

open FwkRtos.Transition

universe u

/-- The core and the source of a call whose flag is still to be set. -/
def CallPoint.target : CallPoint → Option (Nat × Nat)
  | .acquiring core source | .locked core source => some (core, source)
  | _ => none

/-- The core to which a call is about to send a token. -/
def CallPoint.sendsTo : CallPoint → Option Nat
  | .flagged core _ true => some core
  | _ => none

/-- The flags that a handler has taken and not yet served. -/
def HandlerPoint.flags : HandlerPoint → BitVec 32
  | .snapshot pending | .taken pending | .serving pending => pending
  | _ => 0#32

/-- The handler has read the token and not yet taken the snapshot. -/
def HandlerPoint.reading : HandlerPoint → Bool
  | .tokenRead | .locked => true
  | _ => false

/-- The handler has not yet read the token. -/
def HandlerPoint.unread : HandlerPoint → Bool
  | .entered | .checked => true
  | _ => false

theorem getLsbD_flag {source bit : Nat} (isSet : (flag source).getLsbD bit = true) :
    bit = source := by
  simp only [flag, BitVec.getLsbD_twoPow, Bool.and_eq_true, decide_eq_true_eq] at isSet
  exact isSet.2.symm

/-- A source is a bit of the flags. -/
theorem Config.IsSource.lt {config : Config} {source : Nat} (isSource : config.IsSource source) :
    source < 32 := by
  have cores := config.coreCount_le
  have sources := config.registry.peripheralSourceCount_le
  unfold Config.IsSource rtosMaxCoreCount at *
  unfold maxAdditionalSources at sources
  omega

namespace Irq

variable {Thread : Type u} [DecidableEq Thread] {config : Config} {irq target : Irq Thread}

/-- The owner is inside its critical section. -/
def holdsLock (irq : Irq Thread) : Owner Thread → Bool
  | .call agent => (irq.call agent).holdsLock
  | .handler core => (irq.handler core).holdsLock

/-- The holder of the lock is a call that is about to send a token to the core. -/
def sending (irq : Irq Thread) (core : Nat) : Bool :=
  match irq.lock with
  | some (.call agent) => (irq.call agent).sendsTo = some core
  | _ => false

/-- How many reads are owed to the handler of a core. -/
def owed (irq : Irq Thread) (core : Nat) : Nat :=
  irq.tokens core + (irq.handler core).reading.toNat + (irq.sending core).toNat

structure IrqInv (config : Config) (irq : Irq Thread) : Prop where
  /-- Lock 0 is held by whoever is in its critical section. -/
  lockHeld : ∀ owner, irq.holdsLock owner = true ↔ irq.lock = some owner
  /-- Calls are made for cores and sources of the system. -/
  targets : ∀ agent core source, (irq.call agent).target = some (core, source) →
    core < config.coreCount ∧ config.IsSource source
  /-- A core is not in a call while it is in its handler. -/
  masked : ∀ core, (irq.handler core).busy = true → irq.call (.core core) = .idle
  /-- The token that interrupted a core stays until the handler reads it. -/
  token : ∀ core, (irq.handler core).unread = true → irq.tokens core ≠ 0
  owed : ∀ core, irq.owed core = (irq.irqPending core != 0#32).toNat
  pendingSources : ∀ core source, (irq.irqPending core).getLsbD source = true →
    config.IsSource source
  takenSources : ∀ core source, (irq.handler core).flags.getLsbD source = true →
    config.IsSource source
  /-- No core asks for a yield behind the yield. -/
  yielded : ∀ core pending, irq.handler core = .serving pending → ∀ source,
    pending.getLsbD source = true → rtosMaxCoreCount ≤ source
  noFailure : irq.assertionFailed = false

omit [DecidableEq Thread] in
theorem irqInv_start : IrqInv config (start : Irq Thread) where
  lockHeld owner := by
    cases owner with
    | call agent => exact iff_of_false Bool.false_ne_true (Option.some_ne_none _).symm
    | handler core => exact iff_of_false Bool.false_ne_true (Option.some_ne_none _).symm
  targets _ _ _ isTarget := nomatch isTarget
  masked _ isBusy := nomatch isBusy
  token _ isUnread := nomatch isUnread
  owed _ := rfl
  pendingSources _ _ isSet := by simp [start] at isSet
  takenSources _ _ isSet := by simp [start, HandlerPoint.flags] at isSet
  yielded _ _ isServing := nomatch isServing
  noFailure := rfl

/-! ## The lock -/

theorem holdsLock_moveCall (irq : Irq Thread) (agent : Agent Thread) (point : CallPoint) :
    (irq.moveCall agent point).holdsLock =
      Function.update irq.holdsLock (.call agent) point.holdsLock := by
  funext owner
  cases owner with
  | handler core => rfl
  | call other =>
      by_cases same : other = agent
      · subst same
        simp [holdsLock, moveCall]
      · simp [holdsLock, moveCall, same]

theorem holdsLock_moveHandler (irq : Irq Thread) (core : Nat) (point : HandlerPoint) :
    (irq.moveHandler core point).holdsLock =
      Function.update irq.holdsLock (.handler core) point.holdsLock := by
  funext owner
  cases owner with
  | call agent => rfl
  | handler other =>
      by_cases same : other = core
      · subst same
        simp [holdsLock, moveHandler]
      · simp [holdsLock, moveHandler, same]

/-- Lock 0 is held by whoever is in its critical section. -/
def LockHeld (irq : Irq Thread) : Prop :=
  ∀ owner, irq.holdsLock owner = true ↔ irq.lock = some owner

variable {owner : Owner Thread}

/-- A step that stays inside or outside of the critical section. -/
theorem LockHeld.keep (held : LockHeld irq) (owner : Owner Thread) (lock : target.lock = irq.lock)
    (holds : target.holdsLock = Function.update irq.holdsLock owner (irq.holdsLock owner)) :
    LockHeld target := by
  intro other
  rw [holds, Function.update_eq_self, lock]
  exact held other

theorem LockHeld.acquire (held : LockHeld irq) (free : irq.lock = none)
    (lock : target.lock = some owner)
    (holds : target.holdsLock = Function.update irq.holdsLock owner true) : LockHeld target := by
  intro other
  rw [holds, lock]
  by_cases same : other = owner
  · subst same
    simp
  · have outside := held other
    rw [free] at outside
    rw [Function.update_of_ne same]
    refine iff_of_false (fun inside => nomatch outside.mp inside) ?_
    rintro ⟨⟩
    exact same rfl

theorem LockHeld.release (held : LockHeld irq) (holder : irq.lock = some owner)
    (lock : target.lock = none)
    (holds : target.holdsLock = Function.update irq.holdsLock owner false) : LockHeld target := by
  intro other
  rw [holds, lock]
  by_cases same : other = owner
  · subst same
    simp
  · have outside := held other
    rw [holder] at outside
    rw [Function.update_of_ne same]
    refine iff_of_false (fun inside => same ?_) (fun none => nomatch none)
    exact (Option.some.inj (outside.mp inside)).symm

omit [DecidableEq Thread] in
/-- Nobody is about to send a token when no call holds the lock. -/
theorem sending_of_no_call (noCall : ∀ agent, irq.lock ≠ some (.call agent)) (core : Nat) :
    irq.sending core = false := by
  unfold sending
  split
  · rename_i agent held
    exact absurd held (noCall agent)
  · rfl

omit [DecidableEq Thread] in
theorem sending_of_call {agent : Agent Thread} (held : irq.lock = some (.call agent))
    (core : Nat) : irq.sending core = decide ((irq.call agent).sendsTo = some core) := by
  simp [sending, held]

/-! ## The steps of a call -/

section
variable {agent : Agent Thread} {core source : Nat}

/-- A step of a call leaves the handlers alone. -/
theorem IrqInv.of_call (inv : IrqInv config irq) {point : CallPoint}
    (handler : target.handler = irq.handler)
    (call : target.call = Function.update irq.call agent point)
    (failure : target.assertionFailed = irq.assertionFailed)
    (lockHeld : LockHeld target)
    (targets : ∀ core source, point.target = some (core, source) →
      core < config.coreCount ∧ config.IsSource source)
    (masked : ∀ core, agent = .core core → (irq.handler core).busy = false)
    (tokens : ∀ core, irq.tokens core ≤ target.tokens core)
    (owed : ∀ core, target.owed core = (target.irqPending core != 0#32).toNat)
    (pendingSources : ∀ core source, (target.irqPending core).getLsbD source = true →
      config.IsSource source) : IrqInv config target := by
  refine ⟨lockHeld, ?_, ?_, ?_, owed, pendingSources, ?_, ?_, failure.trans inv.noFailure⟩
  · intro other core source isTarget
    by_cases same : other = agent
    · subst same
      rw [call, Function.update_self] at isTarget
      exact targets core source isTarget
    · rw [call, Function.update_of_ne same] at isTarget
      exact inv.targets other core source isTarget
  · intro core isBusy
    rw [handler] at isBusy
    have different : .core core ≠ agent := by
      rintro rfl
      exact absurd ((masked core rfl).symm.trans isBusy) Bool.false_ne_true
    rw [call, Function.update_of_ne different]
    exact inv.masked core isBusy
  · intro core isUnread
    rw [handler] at isUnread
    have isThere := inv.token core isUnread
    have := tokens core
    omega
  · rw [handler]
    exact inv.takenSources
  · rw [handler]
    exact inv.yielded

omit [DecidableEq Thread] in
theorem IrqInv.notBusy (inv : IrqInv config irq) (inside : irq.call agent ≠ .idle) :
    ∀ core, agent = .core core → (irq.handler core).busy = false := by
  rintro core rfl
  by_contra isBusy
  exact inside (inv.masked core (by simpa using isBusy))

/-- A call is made. -/
theorem IrqInv.call (inv : IrqInv config irq) (isIdle : irq.call agent = .idle)
    (mayCall : irq.mayCall config agent = true) (isCore : core < config.coreCount)
    (isSource : config.IsSource source) :
    IrqInv config (irq.moveCall agent (.acquiring core source)) := by
  have outside : irq.holdsLock (.call agent) = false := by
    simp [holdsLock, isIdle, CallPoint.holdsLock]
  have notHeld : irq.lock ≠ some (.call agent) := by
    intro held
    rw [(inv.lockHeld _).mpr held] at outside
    cases outside
  have sending : ∀ target, (irq.moveCall agent (.acquiring core source)).sending target =
      irq.sending target := by
    intro target
    unfold Irq.sending moveCall
    cases held : irq.lock with
    | none => rfl
    | some owner =>
        cases owner with
        | handler _ => rfl
        | call other =>
            have different : other ≠ agent := by
              rintro rfl
              exact notHeld held
            simp only [Function.update_of_ne different]
  refine inv.of_call rfl rfl rfl (LockHeld.keep inv.lockHeld (.call agent) rfl ?_) ?_ ?_
    (fun _ => Nat.le_refl _) ?_ inv.pendingSources
  · rw [holdsLock_moveCall, outside]
    rfl
  · rintro _ _ ⟨⟩
    exact ⟨isCore, isSource⟩
  · rintro id rfl
    simp only [Irq.mayCall, Bool.and_eq_true, Bool.not_eq_true'] at mayCall
    exact mayCall.2
  · intro target
    rw [Irq.owed, sending]
    exact inv.owed target

theorem IrqInv.acquire (inv : IrqInv config irq) (at_ : irq.call agent = .acquiring core source)
    (free : irq.lock = none) :
    IrqInv config { irq.moveCall agent (.locked core source) with lock := some (.call agent) } := by
  refine inv.of_call rfl rfl rfl (LockHeld.acquire inv.lockHeld free rfl ?_) ?_
    (inv.notBusy (by rw [at_]; exact CallPoint.noConfusion)) (fun _ => Nat.le_refl _) ?_
    inv.pendingSources
  · exact holdsLock_moveCall irq agent _
  · intro _ _ isTarget
    exact inv.targets agent _ _ (by rw [at_]; exact isTarget)
  · intro target
    have before := inv.owed target
    rw [Irq.owed, sending_of_no_call (by simp [free])] at before
    rw [Irq.owed, sending_of_call rfl]
    simpa [moveCall, CallPoint.sendsTo] using before

theorem IrqInv.setFlag (inv : IrqInv config irq) (at_ : irq.call agent = .locked core source) :
    IrqInv config (irq.setFlag agent core source) := by
  have inside : irq.holdsLock (.call agent) = true := by
    simp [holdsLock, at_, CallPoint.holdsLock]
  have held := (inv.lockHeld _).mp inside
  obtain ⟨_, isSource⟩ := inv.targets agent core source (by rw [at_]; rfl)
  have isSet : (irq.irqPending core ||| flag source) ≠ 0#32 := by
    intro clear
    have bit : (irq.irqPending core ||| flag source).getLsbD source = true := by
      simp [flag, isSource.lt]
    rw [clear] at bit
    simp at bit
  refine inv.of_call rfl rfl rfl (LockHeld.keep inv.lockHeld (.call agent) rfl ?_)
    (by rintro _ _ ⟨⟩)
    (inv.notBusy (by rw [at_]; exact CallPoint.noConfusion)) (fun _ => Nat.le_refl _) ?_ ?_
  · rw [inside]
    exact holdsLock_moveCall irq agent _
  · intro target
    have before := inv.owed target
    rw [Irq.owed, sending_of_call held, at_] at before
    have now : (irq.setFlag agent core source).sending target =
        decide (irq.irqPending core = 0#32 ∧ core = target) := by
      rw [sending_of_call (show (irq.setFlag agent core source).lock = _ from held)]
      by_cases first : irq.irqPending core = 0#32
      · simp [Irq.setFlag, first, CallPoint.sendsTo]
      · simp [Irq.setFlag, first, CallPoint.sendsTo]
    rw [Irq.owed, now]
    by_cases same : target = core
    · subst same
      have isSet' : ((irq.setFlag agent target source).irqPending target != 0#32) = true := by
        simpa [Irq.setFlag] using isSet
      rw [isSet']
      by_cases first : irq.irqPending target = 0#32
      · simp only [first] at before
        simpa [first, CallPoint.sendsTo, Irq.setFlag] using before
      · have wasSet : (irq.irqPending target != 0#32) = true := by simpa using first
        rw [wasSet] at before
        simpa [first, CallPoint.sendsTo, Irq.setFlag] using before
    · simpa [Ne.symm same, same, CallPoint.sendsTo, Irq.setFlag] using before
  · intro target bit isSet
    by_cases same : target = core
    · subst same
      simp only [Irq.setFlag, Function.update_self, BitVec.getLsbD_or, Bool.or_eq_true] at isSet
      rcases isSet with before | new
      · exact inv.pendingSources target bit before
      · rw [getLsbD_flag new]
        exact isSource
    · simp only [Irq.setFlag, Function.update_of_ne same] at isSet
      exact inv.pendingSources target bit isSet

theorem IrqInv.sendToken (inv : IrqInv config irq) {first : Bool}
    (at_ : irq.call agent = .flagged core source first) :
    IrqInv config (irq.sendToken agent core first) := by
  have inside : irq.holdsLock (.call agent) = true := by
    simp [holdsLock, at_, CallPoint.holdsLock]
  have held := (inv.lockHeld _).mp inside
  have now : ∀ target, (irq.sendToken agent core first).sending target = false := by
    intro target
    rw [sending_of_call (show (irq.sendToken agent core first).lock = _ from held)]
    simp [Irq.sendToken, CallPoint.sendsTo]
  refine inv.of_call rfl rfl rfl (LockHeld.keep inv.lockHeld (.call agent) rfl ?_)
    (by rintro _ _ ⟨⟩)
    (inv.notBusy (by rw [at_]; exact CallPoint.noConfusion)) ?_ ?_ inv.pendingSources
  · rw [inside]
    exact holdsLock_moveCall irq agent _
  · intro target
    cases first with
    | false => exact Nat.le_refl _
    | true =>
        by_cases same : target = core
        · subst same
          simp [Irq.sendToken]
        · simp [Irq.sendToken, same]
  · intro target
    have before := inv.owed target
    rw [Irq.owed, sending_of_call held, at_] at before
    rw [Irq.owed, now]
    cases first with
    | false => simpa [CallPoint.sendsTo, Irq.sendToken] using before
    | true =>
        by_cases same : target = core
        · subst same
          simp only [CallPoint.sendsTo, decide_true, Bool.toNat_true] at before
          simp only [Irq.sendToken, if_true, Function.update_self, Bool.toNat_false]
          omega
        · simpa [CallPoint.sendsTo, Irq.sendToken, same, Ne.symm same] using before

theorem IrqInv.release (inv : IrqInv config irq) (at_ : irq.call agent = .sent) :
    IrqInv config { irq.moveCall agent .idle with lock := none } := by
  have inside : irq.holdsLock (.call agent) = true := by
    simp [holdsLock, at_, CallPoint.holdsLock]
  have held := (inv.lockHeld _).mp inside
  refine inv.of_call rfl rfl rfl (LockHeld.release inv.lockHeld held rfl ?_) (by rintro _ _ ⟨⟩)
    (inv.notBusy (by rw [at_]; exact CallPoint.noConfusion)) (fun _ => Nat.le_refl _) ?_
    inv.pendingSources
  · exact holdsLock_moveCall irq agent _
  · intro target
    have before := inv.owed target
    rw [Irq.owed, sending_of_call held, at_] at before
    rw [Irq.owed, sending_of_no_call fun _ => (Option.some_ne_none _).symm]
    simpa [CallPoint.sendsTo, moveCall] using before

/-- A step of a call keeps the invariant. -/
theorem IrqInv.nextCall (inv : IrqInv config irq) (step : irq.nextCall agent = some target) :
    IrqInv config target := by
  cases callStep_of_nextCall step with
  | acquire at_ free => exact inv.acquire at_ free
  | setFlag at_ => exact inv.setFlag at_
  | sendToken at_ => exact inv.sendToken at_
  | release at_ => exact inv.release at_

end

/-! ## The steps of a handler -/

section
variable {core : Nat}

omit [DecidableEq Thread] in
/-- A step of the handler of a core, which is not in a call, leaves the calls alone. -/
theorem IrqInv.of_handler (inv : IrqInv config irq) {point : HandlerPoint}
    (isIdle : irq.call (.core core) = .idle) (call : target.call = irq.call)
    (handler : target.handler = Function.update irq.handler core point)
    (lockHeld : LockHeld target)
    (token : point.unread = true → target.tokens core ≠ 0)
    (tokens : ∀ other, other ≠ core → target.tokens other = irq.tokens other)
    (owed : ∀ other, target.owed other = (target.irqPending other != 0#32).toNat)
    (pendingSources : ∀ other source, (target.irqPending other).getLsbD source = true →
      config.IsSource source)
    (takenSources : ∀ source, point.flags.getLsbD source = true → config.IsSource source)
    (yielded : ∀ pending, point = .serving pending → ∀ source, pending.getLsbD source = true →
      rtosMaxCoreCount ≤ source)
    (noFailure : target.assertionFailed = false) : IrqInv config target := by
  refine ⟨lockHeld, ?_, ?_, ?_, owed, pendingSources, ?_, ?_, noFailure⟩
  · rw [call]
    exact inv.targets
  · intro other isBusy
    by_cases same : other = core
    · rw [same, call]
      exact isIdle
    · rw [handler, Function.update_of_ne same] at isBusy
      rw [call]
      exact inv.masked other isBusy
  · intro other isUnread
    by_cases same : other = core
    · subst same
      rw [handler, Function.update_self] at isUnread
      exact token isUnread
    · rw [handler, Function.update_of_ne same] at isUnread
      rw [tokens other same]
      exact inv.token other isUnread
  · intro other source isSet
    by_cases same : other = core
    · rw [same, handler, Function.update_self] at isSet
      exact takenSources source isSet
    · rw [handler, Function.update_of_ne same] at isSet
      exact inv.takenSources other source isSet
  · intro other pending isServing
    by_cases same : other = core
    · rw [same, handler, Function.update_self] at isServing
      exact yielded pending isServing
    · rw [handler, Function.update_of_ne same] at isServing
      exact inv.yielded other pending isServing

/-- A step of a handler that only moves it, outside its critical section or inside. -/
theorem IrqInv.moveHandler (inv : IrqInv config irq) {point : HandlerPoint} {holds : Bool}
    (isIdle : irq.call (.core core) = .idle)
    (stays : point.holdsLock = (irq.handler core).holdsLock)
    (reading : point.reading = (irq.handler core).reading)
    (token : point.unread = true → irq.tokens core ≠ 0)
    (takenSources : ∀ source, point.flags.getLsbD source = true → config.IsSource source)
    (yielded : ∀ pending, point = .serving pending → ∀ source, pending.getLsbD source = true →
      rtosMaxCoreCount ≤ source)
    (succeeds : holds = true) :
    IrqInv config ((irq.moveHandler core point).assert holds) := by
  refine inv.of_handler isIdle rfl rfl (LockHeld.keep inv.lockHeld (.handler core) rfl ?_) token
    (fun _ _ => rfl)
    ?_ inv.pendingSources takenSources yielded ?_
  · have moved := holdsLock_moveHandler irq core point
    rw [stays] at moved
    exact moved
  · intro other
    have before := inv.owed other
    have same : ((irq.moveHandler core point).assert holds).owed other = irq.owed other := by
      show irq.tokens other + (Function.update irq.handler core point other).reading.toNat +
        (irq.sending other).toNat = irq.owed other
      by_cases same : other = core
      · subst same
        rw [Function.update_self, reading]
        rfl
      · rw [Function.update_of_ne same]
        rfl
    rw [same]
    exact before
  · simp [Irq.assert, Irq.moveHandler, inv.noFailure, succeeds]

omit [DecidableEq Thread] in
theorem assert_true (irq : Irq Thread) : irq.assert true = irq := by
  simp [Irq.assert]

omit [DecidableEq Thread] in
/-- A core that is owed a read has a flag set. -/
theorem IrqInv.pending_of_owed (inv : IrqInv config irq) (isOwed : 0 < irq.owed core) :
    irq.irqPending core ≠ 0#32 := by
  intro clear
  rw [inv.owed core, clear] at isOwed
  exact absurd isOwed (Nat.lt_irrefl 0)

omit [DecidableEq Thread] in
theorem IrqInv.owed_le_one (inv : IrqInv config irq) (core : Nat) : irq.owed core ≤ 1 := by
  rw [inv.owed core]
  exact Bool.toNat_le _

/-- The assertion at the entry of the handler holds. -/
theorem IrqInv.check (inv : IrqInv config irq) (isIdle : irq.call (.core core) = .idle)
    (at_ : irq.handler core = .entered) :
    IrqInv config ((irq.moveHandler core .checked).assert (irq.irqPending core ≠ 0#32)) := by
  have isThere := inv.token core (by rw [at_]; rfl)
  refine inv.moveHandler isIdle (by rw [at_]; rfl) (by rw [at_]; rfl) (fun _ => isThere)
    (fun source isSet => by simp [HandlerPoint.flags] at isSet) (by rintro _ ⟨⟩) ?_
  refine decide_eq_true (inv.pending_of_owed ?_)
  unfold Irq.owed
  omega

theorem IrqInv.readToken (inv : IrqInv config irq) (isIdle : irq.call (.core core) = .idle)
    (at_ : irq.handler core = .checked) :
    IrqInv config
      { irq.moveHandler core .tokenRead with
        tokens := Function.update irq.tokens core (irq.tokens core - 1) } := by
  refine inv.of_handler isIdle rfl rfl (LockHeld.keep inv.lockHeld (.handler core) rfl ?_)
    (by rintro ⟨⟩) (fun _ different => Function.update_of_ne different _ _) ?_ inv.pendingSources
    (fun source isSet => by simp [HandlerPoint.flags] at isSet) (by rintro _ ⟨⟩) inv.noFailure
  · have outside : irq.holdsLock (.handler core) = HandlerPoint.tokenRead.holdsLock := by
      rw [holdsLock, at_]
      rfl
    rw [outside]
    exact holdsLock_moveHandler irq core .tokenRead
  · intro other
    have before := inv.owed other
    rw [Irq.owed] at before
    show Function.update irq.tokens core (irq.tokens core - 1) other +
      (Function.update irq.handler core .tokenRead other).reading.toNat +
        (irq.sending other).toNat = (irq.irqPending other != 0#32).toNat
    by_cases same : other = core
    · subst same
      have isThere := inv.token other (by rw [at_]; rfl)
      rw [at_] at before
      simp only [Function.update_self, HandlerPoint.reading, Bool.toNat_true,
        Bool.toNat_false] at before ⊢
      omega
    · rwa [Function.update_of_ne same, Function.update_of_ne same]

theorem IrqInv.handlerAcquire (inv : IrqInv config irq)
    (isIdle : irq.call (.core core) = .idle) (at_ : irq.handler core = .tokenRead)
    (free : irq.lock = none) :
    IrqInv config { irq.moveHandler core .locked with lock := some (.handler core) } := by
  refine inv.of_handler isIdle rfl rfl (LockHeld.acquire inv.lockHeld free rfl ?_)
    (by rintro ⟨⟩) (fun _ _ => rfl) ?_ inv.pendingSources
    (fun source isSet => by simp [HandlerPoint.flags] at isSet) (by rintro _ ⟨⟩) inv.noFailure
  · exact holdsLock_moveHandler irq core .locked
  · intro other
    have before := inv.owed other
    rw [Irq.owed, sending_of_no_call (by simp [free])] at before
    rw [Irq.owed, sending_of_no_call (by simp)]
    by_cases same : other = core
    · subst same
      rw [at_] at before
      simpa [Irq.moveHandler, HandlerPoint.reading] using before
    · simpa [Irq.moveHandler, same] using before

/-- The snapshot pays the read that is owed. -/
theorem IrqInv.takeSnapshot (inv : IrqInv config irq)
    (isIdle : irq.call (.core core) = .idle) (at_ : irq.handler core = .locked) :
    IrqInv config (irq.takeSnapshot core) := by
  have inside : irq.holdsLock (.handler core) = true := by
    simp [holdsLock, at_, HandlerPoint.holdsLock]
  have held := (inv.lockHeld _).mp inside
  refine inv.of_handler isIdle rfl rfl (LockHeld.keep inv.lockHeld (.handler core) rfl ?_)
    (by rintro ⟨⟩) (fun _ _ => rfl) ?_ ?_ (inv.pendingSources core) (by rintro _ ⟨⟩) inv.noFailure
  · rw [inside]
    exact holdsLock_moveHandler irq core (.snapshot (irq.irqPending core))
  · intro other
    have before := inv.owed other
    by_cases same : other = core
    · subst same
      have atMost := inv.owed_le_one other
      simp only [Irq.owed, at_, HandlerPoint.reading, Bool.toNat_true] at atMost
      simp only [Irq.owed, Irq.takeSnapshot, Function.update_self, HandlerPoint.reading,
        bne_self_eq_false, Bool.toNat_false]
      have notSending : irq.sending other = false := sending_of_no_call (by simp [held]) other
      have after : (irq.takeSnapshot other).sending other = false :=
        sending_of_no_call (by simp [Irq.takeSnapshot, held]) other
      unfold Irq.takeSnapshot at after
      rw [after, Bool.toNat_false]
      omega
    · show irq.tokens other +
        (Function.update irq.handler core (.snapshot (irq.irqPending core)) other).reading.toNat +
          (irq.sending other).toNat =
            (Function.update irq.irqPending core 0#32 other != 0#32).toNat
      rw [Function.update_of_ne same, Function.update_of_ne same]
      exact before
  · intro other source isSet
    by_cases same : other = core
    · subst same
      simp [Irq.takeSnapshot] at isSet
    · simp only [Irq.takeSnapshot, Function.update_of_ne same] at isSet
      exact inv.pendingSources other source isSet

theorem IrqInv.handlerRelease (inv : IrqInv config irq) {pending : BitVec 32}
    (isIdle : irq.call (.core core) = .idle) (at_ : irq.handler core = .snapshot pending) :
    IrqInv config { irq.moveHandler core (.taken pending) with lock := none } := by
  have inside : irq.holdsLock (.handler core) = true := by
    simp [holdsLock, at_, HandlerPoint.holdsLock]
  have held := (inv.lockHeld _).mp inside
  refine inv.of_handler isIdle rfl rfl (LockHeld.release inv.lockHeld held rfl ?_)
    (by rintro ⟨⟩) (fun _ _ => rfl) ?_ inv.pendingSources ?_ (by rintro _ ⟨⟩) inv.noFailure
  · exact holdsLock_moveHandler irq core (.taken pending)
  · intro other
    have before := inv.owed other
    rw [Irq.owed, sending_of_no_call (by simp [held])] at before
    rw [Irq.owed, sending_of_no_call fun _ => (Option.some_ne_none _).symm]
    by_cases same : other = core
    · subst same
      rw [at_] at before
      simpa [Irq.moveHandler, HandlerPoint.reading] using before
    · simpa [Irq.moveHandler, same] using before
  · have sources := inv.takenSources core
    rw [at_] at sources
    exact sources

/-- No flag of a core is left behind the yield. -/
theorem rtosMaxCoreCount_le_of_getLsbD {pending : BitVec 32} {source : Nat}
    (isSet : (pending &&& ~~~rtosCoreSourceMask).getLsbD source = true) :
    rtosMaxCoreCount ≤ source := by
  by_contra isCore
  have inside : source < 8 := Nat.lt_of_not_le isCore
  simp only [BitVec.getLsbD_and, BitVec.getLsbD_not, Bool.and_eq_true, Bool.not_eq_true'] at isSet
  have masked : rtosCoreSourceMask.getLsbD source = true := by
    unfold rtosCoreSourceMask
    interval_cases source <;> rfl
  rw [masked] at isSet
  exact absurd isSet.2.2 (by decide)

theorem getLsbD_sourceId {pending : BitVec 32} (isSet : pending ≠ 0#32) :
    pending.getLsbD (sourceId pending) = true :=
  BitVec.getLsbD_true_clz_of_ne_zero (by decide) isSet

/-- A step of a handler keeps the invariant. -/
theorem IrqInv.nextHandler (inv : IrqInv config irq)
    (step : irq.nextHandler core = some target) : IrqInv config target := by
  obtain ⟨isIdle, took⟩ := handlerStep_of_nextHandler step
  have sources := inv.takenSources core
  cases took with
  | enter at_ isThere =>
      rw [← assert_true (irq.moveHandler core .entered)]
      exact inv.moveHandler isIdle (by rw [at_]; rfl) (by rw [at_]; rfl) (fun _ => isThere.ne')
        (fun source isSet => by simp [HandlerPoint.flags] at isSet) (by rintro _ ⟨⟩) rfl
  | check at_ => exact inv.check isIdle at_
  | readToken at_ => exact inv.readToken isIdle at_
  | acquire at_ free => exact inv.handlerAcquire isIdle at_ free
  | takeSnapshot at_ => exact inv.takeSnapshot isIdle at_
  | release at_ => exact inv.handlerRelease isIdle at_
  | yield at_ =>
      rw [at_] at sources
      rw [← assert_true (irq.moveHandler core _)]
      refine inv.moveHandler isIdle (by rw [at_]; rfl) (by rw [at_]; rfl) (by rintro ⟨⟩) ?_ ?_ rfl
      · intro source isSet
        simp only [HandlerPoint.flags, BitVec.getLsbD_and, Bool.and_eq_true] at isSet
        exact sources source isSet.1
      · rintro _ ⟨⟩ source isSet
        exact rtosMaxCoreCount_le_of_getLsbD isSet
  | return_ at_ =>
      rw [← assert_true (irq.moveHandler core _)]
      exact inv.moveHandler isIdle (by rw [at_]; rfl) (by rw [at_]; rfl) (by rintro ⟨⟩)
        (fun source isSet => by simp [HandlerPoint.flags] at isSet) (by rintro _ ⟨⟩) rfl
  | @serve pending at_ isLeft =>
      rw [at_] at sources
      have yielded := inv.yielded core pending at_
      refine inv.moveHandler isIdle (by rw [at_]; rfl) (by rw [at_]; rfl) (by rintro ⟨⟩) ?_ ?_ ?_
      · intro source isSet
        simp only [HandlerPoint.flags, BitVec.getLsbD_and, Bool.and_eq_true] at isSet
        exact sources source isSet.1
      · rintro _ ⟨⟩ source isSet
        simp only [BitVec.getLsbD_and, Bool.and_eq_true] at isSet
        exact yielded source isSet.1
      · have isSource : config.IsSource (sourceId pending) := sources _ (getLsbD_sourceId isLeft)
        have isPeripheral := yielded _ (getLsbD_sourceId isLeft)
        have within := config.registry.peripheralSourceCount_le
        have cores := config.coreCount_le
        refine decide_eq_true ⟨isPeripheral, ?_⟩
        unfold Config.IsSource at isSource
        unfold maxSourceId
        unfold rtosMaxCoreCount maxAdditionalSources at *
        omega

end

/-- Every step keeps the invariant. -/
theorem IrqInv.next {label : Label Thread} (inv : IrqInv config irq)
    (step : next config irq label = some target) : IrqInv config target := by
  unfold Irq.next at step
  split at step
  · split_ifs at step with made
    cases step
    exact inv.call made.1 made.2.1 made.2.2.1 made.2.2.2
  · exact inv.nextCall step
  · exact inv.nextHandler step
  · cases step
    exact inv

theorem irqInv_of_reachable (reachable : Reachable (Irq.next config) start irq) :
    IrqInv config irq :=
  reachable.invariant irqInv_start fun _ _ _ inv _ step => inv.next step

end Irq

end FwkRtos.RtosIrq
