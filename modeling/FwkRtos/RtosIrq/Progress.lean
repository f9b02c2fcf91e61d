import FwkRtos.RtosIrq.Tokens
import FwkRtos.Transition.Fairness

/-!
# Calls and handlers go on

In a fair execution the lock becomes free again and again, calls end, and a
handler that has something to do comes to do it.
-/

namespace FwkRtos.RtosIrq

open FwkRtos.Transition

universe u

/-- How many steps are left of a call, with a bound. -/
def CallPoint.left : CallPoint → Nat
  | .idle => 0
  | .acquiring _ _ => 4
  | .locked _ _ => 3
  | .flagged _ _ _ => 2
  | .sent => 1

namespace Irq

variable {Thread : Type u} [DecidableEq Thread] {config : Config} {irq target : Irq Thread}
  {label : Label Thread}

/-! ## Steps of others -/

omit [DecidableEq Thread] in
/-- What a step of a handler leaves alone. -/
theorem HandlerStep.frame {core : Nat} (took : HandlerStep irq core target) :
    target.call = irq.call ∧ ∀ other, other ≠ core →
      target.handler other = irq.handler other ∧ target.tokens other = irq.tokens other ∧
        target.irqPending other = irq.irqPending other := by
  have handler : ∀ point other, other ≠ core →
      (irq.moveHandler core point).handler other = irq.handler other :=
    fun _ _ different => Function.update_of_ne different _ _
  cases took with
  | enter | check | acquire | release | yield | return_ | serve =>
      exact ⟨rfl, fun other different => ⟨handler _ other different, rfl, rfl⟩⟩
  | readToken at_ =>
      exact ⟨rfl, fun other different =>
        ⟨handler _ other different, Function.update_of_ne different _ _, rfl⟩⟩
  | takeSnapshot at_ =>
      exact ⟨rfl, fun other different =>
        ⟨handler _ other different, rfl, Function.update_of_ne different _ _⟩⟩

/-- What a step of a call leaves alone: no token is read and no flag is cleared. -/
theorem CallStep.frame {agent : Agent Thread} (took : CallStep irq agent target) :
    target.handler = irq.handler ∧ (∀ core, irq.tokens core ≤ target.tokens core) ∧
      (∀ core bit, (irq.irqPending core).getLsbD bit = true →
        (target.irqPending core).getLsbD bit = true) ∧
      ∀ other, other ≠ agent → target.call other = irq.call other := by
  have call : ∀ point other, other ≠ agent →
      (irq.moveCall agent point).call other = irq.call other :=
    fun _ _ different => Function.update_of_ne different _ _
  cases took with
  | acquire | release =>
      exact ⟨rfl, fun _ => Nat.le_refl _, fun _ _ isSet => isSet, call _⟩
  | @setFlag core source at_ =>
      refine ⟨rfl, fun _ => Nat.le_refl _, ?_, call _⟩
      intro other bit isSet
      by_cases same : other = core
      · subst same
        simp [Irq.setFlag, isSet]
      · simpa [Irq.setFlag, same] using isSet
  | @sendToken core source first at_ =>
      refine ⟨rfl, ?_, fun _ _ isSet => isSet, call _⟩
      intro other
      cases first with
      | false => exact Nat.le_refl _
      | true =>
          by_cases same : other = core
          · subst same
            simp [Irq.sendToken]
          · simp [Irq.sendToken, same]

/-- A call under way is left alone by everyone else. -/
theorem next_call_other (step : next config irq label = some target) {agent : Agent Thread}
    (inside : irq.call agent ≠ .idle) (other : label ≠ .step (.call agent)) :
    target.call agent = irq.call agent := by
  unfold next at step
  split at step
  · rename_i caller core source
    split_ifs at step with made
    cases step
    have different : agent ≠ caller := by
      rintro rfl
      exact inside made.1
    exact Function.update_of_ne different _ _
  · rename_i caller
    have different : agent ≠ caller := by
      rintro rfl
      exact other rfl
    exact (callStep_of_nextCall step).frame.2.2.2 agent different
  · exact congrFun (handlerStep_of_nextHandler step).2.frame.1 agent
  · cases step
    rfl

/-- A core and its handler are left alone by everyone else, but for tokens and flags
that come. -/
theorem next_handler_other (step : next config irq label = some target) {core : Nat}
    (other : label ≠ .step (.handler core)) :
    target.handler core = irq.handler core ∧ irq.tokens core ≤ target.tokens core ∧
      ∀ bit, (irq.irqPending core).getLsbD bit = true →
        (target.irqPending core).getLsbD bit = true := by
  unfold next at step
  split at step
  · split_ifs at step
    cases step
    exact ⟨rfl, Nat.le_refl _, fun _ isSet => isSet⟩
  · obtain ⟨handler, tokens, pending, _⟩ := (callStep_of_nextCall step).frame
    exact ⟨congrFun handler core, tokens core, pending core⟩
  · rename_i stepping
    have different : core ≠ stepping := by
      rintro rfl
      exact other rfl
    obtain ⟨handler, tokens, pending⟩ :=
      (handlerStep_of_nextHandler step).2.frame.2 core different
    exact ⟨handler, tokens.ge, fun bit isSet => by rwa [pending]⟩
  · cases step
    exact ⟨rfl, Nat.le_refl _, fun _ isSet => isSet⟩

/-! ## Progress of an owner -/

/-- How far the holder of the lock is from releasing it. -/
def ownerLeft (irq : Irq Thread) : Owner Thread → Nat
  | .call agent => (irq.call agent).left
  | .handler core =>
      match irq.handler core with
      | .locked => 1
      | _ => 0

/-- A step of a call brings it nearer to its end. -/
theorem CallStep.left_lt {agent : Agent Thread} (took : CallStep irq agent target) :
    (target.call agent).left < (irq.call agent).left := by
  cases took with
  | acquire at_ free =>
      rw [at_]
      simp [moveCall, CallPoint.left]
  | setFlag at_ =>
      rw [at_]
      simp [Irq.setFlag, CallPoint.left]
  | sendToken at_ =>
      rw [at_]
      simp [Irq.sendToken, CallPoint.left]
  | release at_ =>
      rw [at_]
      simp [moveCall, CallPoint.left]

/-- What the holder of the lock does: it goes on or releases the lock. -/
theorem next_holder {owner : Owner Thread} (inv : IrqInv config irq)
    (held : irq.lock = some owner) (step : next config irq (.step owner) = some target) :
    target.lock = none ∨
      target.lock = some owner ∧ target.ownerLeft owner < irq.ownerLeft owner := by
  have inside := (inv.lockHeld owner).mpr held
  cases owner with
  | call agent =>
      have took := callStep_of_nextCall (show irq.nextCall agent = some target from step)
      have left := took.left_lt
      cases took with
      | acquire at_ free => exact absurd (free.symm.trans held) (by simp)
      | setFlag at_ => exact .inr ⟨held, left⟩
      | sendToken at_ => exact .inr ⟨held, left⟩
      | release at_ => exact .inl rfl
  | handler core =>
      have took := (handlerStep_of_nextHandler
        (show irq.nextHandler core = some target from step)).2
      simp only [holdsLock] at inside
      cases took with
      | takeSnapshot at_ =>
          refine .inr ⟨held, ?_⟩
          simp [ownerLeft, Irq.takeSnapshot, at_]
      | release at_ => exact .inl rfl
      | enter at_ _ | check at_ | readToken at_ | acquire at_ _ | yield at_ | return_ at_
      | serve at_ _ =>
          rw [at_] at inside
          cases inside

/-- The lock stays with its holder while others take steps. -/
theorem next_lock_other {owner : Owner Thread} (inv : IrqInv config irq)
    (held : irq.lock = some owner) (step : next config irq label = some target)
    (other : label ≠ .step owner) : target.lock = some owner := by
  have notFree : irq.lock ≠ none := by simp [held]
  unfold next at step
  split at step
  · split_ifs at step
    cases step
    exact held
  · rename_i agent
    cases callStep_of_nextCall step with
    | acquire at_ free => exact absurd free notFree
    | setFlag at_ => exact held
    | sendToken at_ => exact held
    | release at_ =>
        have holder := (inv.lockHeld (.call agent)).mp
            (by simp [holdsLock, at_, CallPoint.holdsLock])
        obtain rfl : owner = .call agent := Option.some.inj (held.symm.trans holder)
        exact absurd rfl other
  · rename_i core
    cases (handlerStep_of_nextHandler step).2 with
    | acquire at_ free => exact absurd free notFree
    | release at_ =>
        have holder := (inv.lockHeld (.handler core)).mp
          (by simp [holdsLock, at_, HandlerPoint.holdsLock])
        obtain rfl : owner = .handler core := Option.some.inj (held.symm.trans holder)
        exact absurd rfl other
    | enter | check | readToken | takeSnapshot | yield | return_ | serve => exact held
  · cases step
    exact held

/-- An owner can take a step. -/
def CanStep (config : Config) (owner : Owner Thread) (irq : Irq Thread) : Prop :=
  (next config irq (.step owner)).isSome = true

theorem canStep_call {agent : Agent Thread} (inside : irq.call agent ≠ .idle)
    (free : ∀ core source, irq.call agent = .acquiring core source → irq.lock = none) :
    CanStep config (.call agent) irq := by
  show (irq.nextCall agent).isSome = true
  unfold nextCall
  split
  · rename_i isIdle
    exact absurd isIdle inside
  · rename_i core source at_
    rw [if_pos (free core source at_)]
    rfl
  · rfl
  · rfl
  · rfl

theorem canStep_handler {core : Nat} (isIdle : irq.call (.core core) = .idle)
    (isThere : irq.handler core = .returned → 0 < irq.tokens core)
    (free : irq.handler core = .tokenRead → irq.lock = none) :
    CanStep config (.handler core) irq := by
  show (irq.nextHandler core).isSome = true
  rw [nextHandler, if_pos isIdle]
  split
  · rename_i at_
    rw [if_pos (isThere at_)]
    rfl
  · rfl
  · rfl
  · rename_i at_
    rw [if_pos (free at_)]
    rfl
  · rfl
  · rfl
  · rfl
  · split_ifs
    · rfl
    · rfl

/-- The holder of the lock is never held up. -/
theorem IrqInv.canStep_holder {owner : Owner Thread} (inv : IrqInv config irq)
    (held : irq.lock = some owner) : CanStep config owner irq := by
  have inside := (inv.lockHeld owner).mpr held
  cases owner with
  | call agent =>
      simp only [holdsLock] at inside
      refine canStep_call ?_ ?_
      · intro isIdle
        rw [isIdle] at inside
        cases inside
      · intro core source at_
        rw [at_] at inside
        cases inside
  | handler core =>
      simp only [holdsLock] at inside
      refine canStep_handler (inv.masked core ?_) ?_ ?_
      · cases at_ : irq.handler core with
        | locked | snapshot pending => rfl
        | returned | entered | checked | tokenRead | taken pending | serving pending =>
            rw [at_] at inside
            cases inside
      · intro at_
        rw [at_] at inside
        cases inside
      · intro at_
        rw [at_] at inside
        cases inside

/-- The lock is released, or its holder is as near to that as before, and nearer when the
step is its own. -/
theorem IrqInv.holder_step {owner : Owner Thread} (inv : IrqInv config irq)
    (held : irq.lock = some owner) (step : Irq.next config irq label = some target) :
    target.lock = some owner ∧ (target.ownerLeft owner < irq.ownerLeft owner ∨
        target.ownerLeft owner = irq.ownerLeft owner ∧ label ≠ .step owner) ∨
      target.lock = none := by
  by_cases isOwner : label = .step owner
  · subst isOwner
    rcases next_holder inv held step with free | ⟨kept, lower⟩
    · exact .inr free
    · exact .inl ⟨kept, .inl lower⟩
  · refine .inl ⟨next_lock_other inv held step isOwner, .inr ⟨?_, isOwner⟩⟩
    have inside := (inv.lockHeld owner).mpr held
    cases owner with
    | call agent =>
        have notIdle : irq.call agent ≠ .idle := by
          intro isIdle
          simp only [holdsLock, isIdle] at inside
          cases inside
        simp only [ownerLeft, next_call_other step notIdle isOwner]
    | handler core =>
        simp only [ownerLeft, (next_handler_other step isOwner).1]

/-! ## Fair executions -/

variable {execution : Execution (next config) (start : Irq Thread)}

/-- A call or a handler that can go on again and again does. -/
def Fair (execution : Execution (next config) (start : Irq Thread)) : Prop :=
  ∀ owner, execution.StronglyFair (CanStep config owner) fun label => label = .step owner

theorem irqInv_always (execution : Execution (next config) (start : Irq Thread)) (n : Nat) :
    IrqInv config (execution.state n) :=
  execution.invariant irqInv_start (fun n inv => inv.next (execution.step n)) n

/-- The lock becomes free. -/
theorem Fair.lock_free (fair : Fair execution) (n : Nat) :
    ∃ m, n ≤ m ∧ (execution.state m).lock = none := by
  have inv := irqInv_always execution
  cases held : (execution.state n).lock with
  | none => exact ⟨n, Nat.le_refl n, held⟩
  | some owner =>
      have leads : execution.LeadsTo (fun irq => irq.lock = some owner)
          fun irq => irq.lock = none := by
        refine .of_rank (fun irq => irq.ownerLeft owner) ((fair owner).weaklyFair fun n always =>
          ⟨n, Nat.le_refl n, (inv n).canStep_holder (always n (Nat.le_refl n))⟩) ?_
        exact fun n held => (inv n).holder_step held (execution.step n)
      exact leads n held

/-- A call ends. -/
theorem Fair.call_ends (fair : Fair execution) (agent : Agent Thread) (n : Nat) :
    ∃ m, n ≤ m ∧ (execution.state m).call agent = .idle := by
  by_cases inside : (execution.state n).call agent = .idle
  · exact ⟨n, Nat.le_refl n, inside⟩
  · have leads : execution.LeadsTo (fun irq => irq.call agent ≠ .idle)
        fun irq => irq.call agent = .idle := by
      refine .of_rank (fun irq => (irq.call agent).left)
        ((fair (.call agent)).weaklyFair fun n always => ?_) fun n inside => ?_
      · obtain ⟨m, later, free⟩ := fair.lock_free n
        exact ⟨m, later, canStep_call (always m later) fun _ _ _ => free⟩
      · have step := execution.step n
        by_cases isOwner : execution.label n = .step (.call agent)
        · rw [isOwner] at step
          have lower := (callStep_of_nextCall
            (show (execution.state n).nextCall agent = some _ from step)).left_lt
          by_cases ended : (execution.state (n + 1)).call agent = .idle
          · exact .inr ended
          · exact .inl ⟨ended, .inl lower⟩
        · have same := next_call_other step inside isOwner
          exact .inl ⟨same ▸ inside, .inr ⟨congrArg CallPoint.left same, isOwner⟩⟩
    exact leads n inside

/-- A handler that has something to do comes to do it. -/
theorem Fair.handler_goes_on (fair : Fair execution) {core n : Nat}
    (always : ∀ m, n ≤ m → (execution.state m).irqPending core ≠ 0#32 ∨
      (execution.state m).handler core ≠ .returned) :
    ∃ m, n ≤ m ∧ CanStep config (.handler core) (execution.state m) := by
  have inv := irqInv_always execution
  by_contra never
  have cannot : ∀ m, n ≤ m → ¬ CanStep config (.handler core) (execution.state m) :=
    fun m later can => never ⟨m, later, can⟩
  have other : ∀ m, n ≤ m → execution.label m ≠ .step (.handler core) := by
    intro m later isOwner
    have step := execution.step m
    rw [isOwner] at step
    exact cannot m later (by rw [CanStep, step]; rfl)
  have stays : ∀ i j, n ≤ i → i ≤ j →
      (execution.state j).handler core = (execution.state i).handler core ∧
        (execution.state i).tokens core ≤ (execution.state j).tokens core := by
    intro i j afterN later
    induction j, later using Nat.le_induction with
    | base => exact ⟨rfl, Nat.le_refl _⟩
    | succ j later ih =>
        obtain ⟨handler, tokens, _⟩ :=
          next_handler_other (execution.step j) (other j (afterN.trans later))
        exact ⟨handler.trans ih.1, ih.2.trans tokens⟩
  cases at_ : (execution.state n).handler core with
  | returned =>
      obtain ⟨m, afterN, free⟩ := fair.lock_free n
      have atM := (stays n m (Nat.le_refl n) afterN).1.trans at_
      have isPending := (always m afterN).resolve_right fun notReturned => notReturned atM
      -- With the lock free nobody is about to send, so that the token is there.
      have isThere : 0 < (execution.state m).tokens core := by
        have isOwed := (inv m).owed core
        rw [owed, sending_of_no_call (by simp [free]), atM, bne_iff_ne.mpr isPending] at isOwed
        simp only [HandlerPoint.reading, Bool.toNat_false, Bool.toNat_true] at isOwed
        omega
      obtain ⟨k, afterM, isIdle⟩ := fair.call_ends (.core core) m
      obtain ⟨atK, tokens⟩ := stays m k afterN afterM
      refine cannot k (afterN.trans afterM)
        (canStep_handler isIdle (fun _ => isThere.trans_le tokens) fun atRead => ?_)
      rw [atK, atM] at atRead
      cases atRead
  | tokenRead =>
      obtain ⟨m, afterN, free⟩ := fair.lock_free n
      have atM := (stays n m (Nat.le_refl n) afterN).1.trans at_
      refine cannot m afterN (canStep_handler ((inv m).masked core ?_) ?_ fun _ => free)
      · rw [atM]
        rfl
      · intro atReturned
        rw [atM] at atReturned
        cases atReturned
  | serving pending =>
      obtain ⟨m, afterN, isIdle⟩ := fair.call_ends (.core core) n
      have atM := (stays n m (Nat.le_refl n) afterN).1.trans at_
      refine cannot m afterN (canStep_handler isIdle ?_ ?_)
      · intro atReturned
        rw [atM] at atReturned
        cases atReturned
      · intro atRead
        rw [atM] at atRead
        cases atRead
  | entered | checked | locked | snapshot pending | taken pending =>
      refine cannot n (Nat.le_refl n) (canStep_handler ((inv n).masked core ?_) ?_ ?_)
      · rw [at_]
        rfl
      · intro atReturned
        rw [at_] at atReturned
        cases atReturned
      · intro atRead
        rw [at_] at atRead
        cases atRead

end Irq

end FwkRtos.RtosIrq
