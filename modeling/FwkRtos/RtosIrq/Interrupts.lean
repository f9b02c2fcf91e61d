import FwkRtos.Transition.Labelled
import Mathlib.Logic.Function.Basic
import Mathlib.Tactic.ByContra

/-!
# Interrupts between cores

`rtos_irq` sets a flag of the target core under lock 0 and sends an end token to
the channel end of the core when no flag was set before.  `rtos_irq_handler` reads
the token, takes a snapshot of the flags under the lock and serves it.  Every
access to the flags, the channels and the lock is a step of its own.
-/

namespace FwkRtos.RtosIrq

open FwkRtos.Transition

universe u

def rtosMaxCoreCount : Nat := 8

def maxAdditionalSources : Nat := 8

/-- `RTOS_CORE_SOURCE_MASK`. -/
def rtosCoreSourceMask : BitVec 32 := 0xff#32

/-- `MAX_SOURCE_ID`. -/
def maxSourceId : Nat := rtosMaxCoreCount + maxAdditionalSources - 1

/-- The peripheral sources that are registered. -/
structure Registry where
  peripheralSourceCount : Nat
  peripheralSourceCount_le : peripheralSourceCount ≤ maxAdditionalSources

/-- `rtos_irq_register` returns the id of the new source, or nothing when its assertion
fails. -/
def rtosIrqRegister (registry : Registry) : Option (Nat × Registry) :=
  if room : registry.peripheralSourceCount < maxAdditionalSources then
    some (rtosMaxCoreCount + registry.peripheralSourceCount,
      ⟨registry.peripheralSourceCount + 1, room⟩)
  else
    none

/-- The RTOS cores of a tile and the registered sources. -/
structure Config where
  coreCount : Nat
  coreCount_le : coreCount ≤ rtosMaxCoreCount
  registry : Registry

/-- A source that has a channel end: an RTOS core or a registered peripheral. -/
def Config.IsSource (config : Config) (sourceId : Nat) : Prop :=
  sourceId < config.coreCount ∨ rtosMaxCoreCount ≤ sourceId ∧
    sourceId < rtosMaxCoreCount + config.registry.peripheralSourceCount

instance (config : Config) (sourceId : Nat) : Decidable (config.IsSource sourceId) :=
  inferInstanceAs (Decidable (_ ∨ _))

/-- The id that a registration returns is a source from then on. -/
theorem isSource_of_register {registry after : Registry} {sourceId : Nat}
    (registered : rtosIrqRegister registry = some (sourceId, after)) (coreCount : Nat)
    (within : coreCount ≤ rtosMaxCoreCount) :
    Config.IsSource ⟨coreCount, within, after⟩ sourceId := by
  unfold rtosIrqRegister at registered
  split at registered
  · cases registered
    exact .inr ⟨Nat.le_add_right _ _, Nat.lt_succ_self _⟩
  · cases registered

/-! ## The state -/

/-- Who calls `rtos_irq`: an RTOS core with its interrupts masked, or a thread of a
non-RTOS core. -/
inductive Agent (Thread : Type u)
  | core (id : Nat)
  | thread (thread : Thread)
  deriving DecidableEq

/-- Who holds lock 0: a call of `rtos_irq` or the handler of a core. -/
inductive Owner (Thread : Type u)
  | call (agent : Agent Thread)
  | handler (core : Nat)
  deriving DecidableEq

/-- Where an agent is in `rtos_irq`. -/
inductive CallPoint
  /-- Outside. -/
  | idle
  /-- About to acquire the lock. -/
  | acquiring (core source : Nat)
  /-- About to set the flag. -/
  | locked (core source : Nat)
  /-- About to send the token when no flag was set before. -/
  | flagged (core source : Nat) (first : Bool)
  /-- About to release the lock. -/
  | sent
  deriving DecidableEq

/-- Where a core is in `rtos_irq_handler`. -/
inductive HandlerPoint
  /-- Outside. -/
  | returned
  /-- About to check the flags. -/
  | entered
  /-- About to read the token. -/
  | checked
  /-- About to acquire the lock. -/
  | tokenRead
  /-- About to take the snapshot. -/
  | locked
  /-- About to release the lock. -/
  | snapshot (pending : BitVec 32)
  /-- About to yield when a core asks for it. -/
  | taken (pending : BitVec 32)
  /-- Serving the sources of the snapshot that are left. -/
  | serving (pending : BitVec 32)
  deriving DecidableEq

namespace CallPoint

/-- The call holds the lock. -/
def holdsLock : CallPoint → Bool
  | .idle | .acquiring _ _ => false
  | .locked _ _ | .flagged _ _ _ | .sent => true

end CallPoint

namespace HandlerPoint

/-- The handler holds the lock. -/
def holdsLock : HandlerPoint → Bool
  | .locked | .snapshot _ => true
  | _ => false

/-- The core is inside the handler but not in an ISR that the handler calls. -/
def busy : HandlerPoint → Bool
  | .returned | .serving _ => false
  | _ => true

end HandlerPoint

/-- The flags, the end tokens that were sent and not yet read, the lock and where
everyone is. -/
structure Irq (Thread : Type u) where
  irqPending : Nat → BitVec 32
  tokens : Nat → Nat
  lock : Option (Owner Thread)
  call : Agent Thread → CallPoint
  handler : Nat → HandlerPoint
  assertionFailed : Bool

inductive Label (Thread : Type u)
  /-- `rtos_irq` is called. -/
  | call (agent : Agent Thread) (core source : Nat)
  /-- A call or a handler goes on. -/
  | step (owner : Owner Thread)
  /-- Anything else. -/
  | other
  deriving DecidableEq

/-- The source of the highest flag, found by `__builtin_clz`. -/
def sourceId (pending : BitVec 32) : Nat :=
  31 - pending.clz.toNat

/-- The flag of a source, `1 << source_id`. -/
def flag (source : Nat) : BitVec 32 :=
  BitVec.twoPow 32 source

namespace Irq

variable {Thread : Type u} [DecidableEq Thread]

/-- Nothing is pending and everyone is outside. -/
def start : Irq Thread where
  irqPending := fun _ => 0#32
  tokens := fun _ => 0
  lock := none
  call := fun _ => .idle
  handler := fun _ => .returned
  assertionFailed := false

def moveCall (irq : Irq Thread) (agent : Agent Thread) (point : CallPoint) : Irq Thread :=
  { irq with call := Function.update irq.call agent point }

def moveHandler (irq : Irq Thread) (core : Nat) (point : HandlerPoint) : Irq Thread :=
  { irq with handler := Function.update irq.handler core point }

/-- An assertion. -/
def assert (irq : Irq Thread) (holds : Bool) : Irq Thread :=
  { irq with assertionFailed := irq.assertionFailed || !holds }

/-- An RTOS core can call `rtos_irq` while it is outside the handler, or from an ISR. -/
def mayCall (config : Config) (irq : Irq Thread) : Agent Thread → Bool
  | .thread _ => true
  | .core id => id < config.coreCount && !(irq.handler id).busy

/-- `rtos_irq` sets the flag of the source. -/
def setFlag (irq : Irq Thread) (agent : Agent Thread) (core source : Nat) : Irq Thread :=
  { irq with
    irqPending := Function.update irq.irqPending core (irq.irqPending core ||| flag source)
    call := Function.update irq.call agent
      (.flagged core source (decide (irq.irqPending core = 0#32))) }

/-- `rtos_irq` sends the token when no flag was set before. -/
def sendToken (irq : Irq Thread) (agent : Agent Thread) (core : Nat) (first : Bool) :
    Irq Thread :=
  { irq with
    tokens := if first then Function.update irq.tokens core (irq.tokens core + 1) else irq.tokens
    call := Function.update irq.call agent .sent }

/-- The handler takes the flags and clears them. -/
def takeSnapshot (irq : Irq Thread) (core : Nat) : Irq Thread :=
  { irq with
    irqPending := Function.update irq.irqPending core 0#32
    handler := Function.update irq.handler core (.snapshot (irq.irqPending core)) }

/-- A step of a call of `rtos_irq`. -/
def nextCall (irq : Irq Thread) (agent : Agent Thread) : Option (Irq Thread) :=
  match irq.call agent with
  | .idle => none
  | .acquiring core source =>
      if irq.lock = none then
        some { irq.moveCall agent (.locked core source) with lock := some (.call agent) }
      else
        none
  | .locked core source => some (irq.setFlag agent core source)
  | .flagged core _ first => some (irq.sendToken agent core first)
  | .sent => some { irq.moveCall agent .idle with lock := none }

/-- A step of the handler of a core, whose interrupts are masked in a call of
`rtos_irq`. -/
def nextHandler (irq : Irq Thread) (core : Nat) : Option (Irq Thread) :=
  if irq.call (.core core) = .idle then
    match irq.handler core with
    | .returned =>
        if 0 < irq.tokens core then some (irq.moveHandler core .entered) else none
    | .entered =>
        some ((irq.moveHandler core .checked).assert (irq.irqPending core ≠ 0#32))
    | .checked =>
        some
          { irq.moveHandler core .tokenRead with
            tokens := Function.update irq.tokens core (irq.tokens core - 1) }
    | .tokenRead =>
        if irq.lock = none then
          some { irq.moveHandler core .locked with lock := some (.handler core) }
        else
          none
    | .locked => some (irq.takeSnapshot core)
    | .snapshot pending => some { irq.moveHandler core (.taken pending) with lock := none }
    | .taken pending => some (irq.moveHandler core (.serving (pending &&& ~~~rtosCoreSourceMask)))
    | .serving pending =>
        if pending = 0#32 then
          some (irq.moveHandler core .returned)
        else
          some ((irq.moveHandler core (.serving (pending &&& ~~~flag (sourceId pending)))).assert
            (rtosMaxCoreCount ≤ sourceId pending ∧ sourceId pending ≤ maxSourceId))
  else
    none

/-! ## What a step does -/

/-- The steps of a call. -/
inductive CallStep (irq : Irq Thread) (agent : Agent Thread) : Irq Thread → Prop
  | acquire {core source : Nat} (at_ : irq.call agent = .acquiring core source)
      (free : irq.lock = none) :
      CallStep irq agent
        { irq.moveCall agent (.locked core source) with lock := some (.call agent) }
  | setFlag {core source : Nat} (at_ : irq.call agent = .locked core source) :
      CallStep irq agent (irq.setFlag agent core source)
  | sendToken {core source : Nat} {first : Bool}
      (at_ : irq.call agent = .flagged core source first) :
      CallStep irq agent (irq.sendToken agent core first)
  | release (at_ : irq.call agent = .sent) :
      CallStep irq agent { irq.moveCall agent .idle with lock := none }

theorem callStep_of_nextCall {irq target : Irq Thread} {agent : Agent Thread}
    (step : irq.nextCall agent = some target) : CallStep irq agent target := by
  unfold nextCall at step
  split at step
  · cases step
  · rename_i core source at_
    split at step
    · rename_i free
      cases step
      exact .acquire at_ free
    · cases step
  · rename_i core source at_
    cases step
    exact .setFlag at_
  · rename_i core source first at_
    cases step
    exact .sendToken at_
  · rename_i at_
    cases step
    exact .release at_

/-- The steps of a handler. -/
inductive HandlerStep (irq : Irq Thread) (core : Nat) : Irq Thread → Prop
  | enter (at_ : irq.handler core = .returned) (isThere : 0 < irq.tokens core) :
      HandlerStep irq core (irq.moveHandler core .entered)
  | check (at_ : irq.handler core = .entered) :
      HandlerStep irq core
        ((irq.moveHandler core .checked).assert (irq.irqPending core ≠ 0#32))
  | readToken (at_ : irq.handler core = .checked) :
      HandlerStep irq core
        { irq.moveHandler core .tokenRead with
          tokens := Function.update irq.tokens core (irq.tokens core - 1) }
  | acquire (at_ : irq.handler core = .tokenRead) (free : irq.lock = none) :
      HandlerStep irq core { irq.moveHandler core .locked with lock := some (.handler core) }
  | takeSnapshot (at_ : irq.handler core = .locked) :
      HandlerStep irq core (irq.takeSnapshot core)
  | release {pending : BitVec 32} (at_ : irq.handler core = .snapshot pending) :
      HandlerStep irq core { irq.moveHandler core (.taken pending) with lock := none }
  | yield {pending : BitVec 32} (at_ : irq.handler core = .taken pending) :
      HandlerStep irq core (irq.moveHandler core (.serving (pending &&& ~~~rtosCoreSourceMask)))
  | return_ (at_ : irq.handler core = .serving 0#32) :
      HandlerStep irq core (irq.moveHandler core .returned)
  | serve {pending : BitVec 32} (at_ : irq.handler core = .serving pending)
      (isLeft : pending ≠ 0#32) :
      HandlerStep irq core
        ((irq.moveHandler core (.serving (pending &&& ~~~flag (sourceId pending)))).assert
          (rtosMaxCoreCount ≤ sourceId pending ∧ sourceId pending ≤ maxSourceId))

omit [DecidableEq Thread] in
/-- A handler goes on while its core is in no call. -/
theorem handlerStep_of_nextHandler {irq target : Irq Thread} {core : Nat}
    (step : irq.nextHandler core = some target) :
    irq.call (.core core) = .idle ∧ HandlerStep irq core target := by
  have isIdle : irq.call (.core core) = .idle := by
    by_contra notIdle
    rw [nextHandler, if_neg notIdle] at step
    cases step
  rw [nextHandler, if_pos isIdle] at step
  refine ⟨isIdle, ?_⟩
  split at step
  · rename_i at_
    split at step
    · rename_i isThere
      cases step
      exact .enter at_ isThere
    · cases step
  · rename_i at_
    cases step
    exact .check at_
  · rename_i at_
    cases step
    exact .readToken at_
  · rename_i at_
    split at step
    · rename_i free
      cases step
      exact .acquire at_ free
    · cases step
  · rename_i at_
    cases step
    exact .takeSnapshot at_
  · rename_i pending at_
    cases step
    exact .release at_
  · rename_i pending at_
    cases step
    exact .yield at_
  · rename_i pending at_
    split at step
    · rename_i isDone
      cases step
      exact .return_ (isDone ▸ at_)
    · rename_i isLeft
      cases step
      exact .serve at_ isLeft

/-- One step.  The arguments of a call are those that its assertions accept. -/
def next (config : Config) : LStep (Irq Thread) (Label Thread) := fun irq label =>
  match label with
  | .call agent core source =>
      if irq.call agent = .idle ∧ irq.mayCall config agent = true ∧ core < config.coreCount ∧
          config.IsSource source then
        some (irq.moveCall agent (.acquiring core source))
      else
        none
  | .step (.call agent) => irq.nextCall agent
  | .step (.handler core) => irq.nextHandler core
  | .other => some irq

end Irq

end FwkRtos.RtosIrq
