import FwkRtos.RtosIrq.Progress

/-!
# Every interrupt is delivered

A core with a flag set comes to take its snapshot and to serve it.  A flag is
cleared by the snapshot alone, so that a raised source is in the first snapshot
behind it.
-/

namespace FwkRtos.RtosIrq

open FwkRtos.Transition

universe u

/-- A bound on the steps of the handler before it takes its next snapshot. -/
def HandlerPoint.left : HandlerPoint → Nat
  | .snapshot pending => pending.toNat + 7
  | .taken pending => pending.toNat + 6
  | .serving pending => pending.toNat + 5
  | .returned => 4
  | .entered => 3
  | .checked => 2
  | .tokenRead => 1
  | .locked => 0

namespace Irq

variable {Thread : Type u} [DecidableEq Thread] {config : Config} {irq target : Irq Thread}
  {execution : Execution (Irq.next config) (start : Irq Thread)}

theorem getLsbD_clear (pending : BitVec 32) {source bit : Nat} (inside : bit < 32) :
    (pending &&& ~~~flag source).getLsbD bit = (pending.getLsbD bit && decide (bit ≠ source)) := by
  rw [BitVec.getLsbD_and, BitVec.getLsbD_not, flag, BitVec.getLsbD_twoPow]
  by_cases same : bit = source
  · subst same
    simp [inside]
  · simp [inside, same, Ne.symm same]

theorem sourceId_lt (pending : BitVec 32) : sourceId pending < 32 := by
  unfold sourceId
  omega

theorem toNat_clear_lt {pending : BitVec 32} (isLeft : pending ≠ 0#32) :
    (pending &&& ~~~flag (sourceId pending)).toNat < pending.toNat := by
  have isSet := getLsbD_sourceId isLeft
  have atMost : (pending &&& ~~~flag (sourceId pending)).toNat ≤ pending.toNat := by
    rw [BitVec.toNat_and]
    exact Nat.and_le_left
  refine Nat.lt_of_le_of_ne atMost fun same => ?_
  have cleared : (pending &&& ~~~flag (sourceId pending)).getLsbD (sourceId pending) = false := by
    rw [getLsbD_clear pending (sourceId_lt pending)]
    simp
  rw [BitVec.eq_of_toNat_eq same, isSet] at cleared
  cases cleared

omit [DecidableEq Thread] in
/-- A step of a handler brings it nearer to its next snapshot and leaves the flags, but for
the snapshot itself. -/
theorem HandlerStep.left_lt {core : Nat} (took : HandlerStep irq core target)
    (notLocked : irq.handler core ≠ .locked) :
    (target.handler core).left < (irq.handler core).left ∧
      target.irqPending core = irq.irqPending core := by
  cases took with
  | takeSnapshot at_ => exact absurd at_ notLocked
  | @yield pending at_ =>
      refine ⟨?_, rfl⟩
      have atMost : (pending &&& ~~~rtosCoreSourceMask).toNat ≤ pending.toNat := by
        rw [BitVec.toNat_and]
        exact Nat.and_le_left
      rw [at_]
      simp only [moveHandler, Function.update_self, HandlerPoint.left]
      omega
  | @serve pending at_ isLeft =>
      refine ⟨?_, rfl⟩
      have lower := toNat_clear_lt isLeft
      rw [at_]
      simp only [moveHandler, Irq.assert, Function.update_self, HandlerPoint.left]
      omega
  | enter at_ _ | check at_ | readToken at_ | acquire at_ _ | release at_ | return_ at_ =>
      refine ⟨?_, rfl⟩
      rw [at_]
      simp [moveHandler, Irq.assert, HandlerPoint.left]

variable {core source : Nat}

/-- A flag that is set comes to be cleared. -/
theorem Fair.clears (fair : Fair execution) (core source : Nat) :
    execution.LeadsTo (fun irq => (irq.irqPending core).getLsbD source = true)
      fun irq => ¬ (irq.irqPending core).getLsbD source = true := by
  refine .of_rank (fun irq => (irq.handler core).left)
    ((fair (.handler core)).weaklyFair fun n always => ?_) fun n isSet => ?_
  · refine fair.handler_goes_on fun m later => .inl fun clear => ?_
    have isSet := always m later
    rw [clear] at isSet
    simp at isSet
  · have step := execution.step n
    by_cases isOwner : execution.label n = .step (.handler core)
    · rw [isOwner] at step
      have took := (handlerStep_of_nextHandler
        (show (execution.state n).nextHandler core = some _ from step)).2
      by_cases atLocked : (execution.state n).handler core = .locked
      · right
        generalize execution.state (n + 1) = target at took
        cases took with
        | takeSnapshot => simp [Irq.takeSnapshot]
        | enter at_ _ | check at_ | readToken at_ | acquire at_ _ | release at_ | yield at_
        | return_ at_ | serve at_ _ =>
            rw [atLocked] at at_
            cases at_
      · obtain ⟨lower, pending⟩ := took.left_lt atLocked
        exact .inl ⟨by rw [pending]; exact isSet, .inl lower⟩
    · obtain ⟨handler, _, pending⟩ := next_handler_other step isOwner
      exact .inl ⟨pending source isSet, .inr ⟨by rw [handler], isOwner⟩⟩

/-- A source that a handler has taken comes to be served. -/
theorem Fair.serves (fair : Fair execution) (core source : Nat) :
    execution.LeadsTo (fun irq => (irq.handler core).flags.getLsbD source = true)
      fun irq => ¬ (irq.handler core).flags.getLsbD source = true := by
  refine .of_rank (fun irq => (irq.handler core).left)
    ((fair (.handler core)).weaklyFair fun n always => ?_) fun n isTaken => ?_
  · refine fair.handler_goes_on fun m later => .inr fun atReturned => ?_
    have isTaken := always m later
    rw [atReturned] at isTaken
    simp [HandlerPoint.flags] at isTaken
  · have step := execution.step n
    by_cases isOwner : execution.label n = .step (.handler core)
    · rw [isOwner] at step
      have took := (handlerStep_of_nextHandler
        (show (execution.state n).nextHandler core = some _ from step)).2
      have notLocked : (execution.state n).handler core ≠ .locked := by
        intro atLocked
        rw [atLocked] at isTaken
        simp [HandlerPoint.flags] at isTaken
      by_cases isLeft : ((execution.state (n + 1)).handler core).flags.getLsbD source = true
      · exact .inl ⟨isLeft, .inl (took.left_lt notLocked).1⟩
      · exact .inr isLeft
    · obtain ⟨handler, _, _⟩ := next_handler_other step isOwner
      exact .inl ⟨by rw [handler]; exact isTaken, .inr ⟨by rw [handler], isOwner⟩⟩

/-- The step sets the flag of the source for the core. -/
def Raises (execution : Execution (next config) (start : Irq Thread)) (core source n : Nat) :
    Prop :=
  ∃ agent, execution.label n = .step (.call agent) ∧
    (execution.state n).call agent = .locked core source

/-- The step is the snapshot of the core. -/
def TakesSnapshot (execution : Execution (next config) (start : Irq Thread)) (core n : Nat) :
    Prop :=
  execution.label n = .step (.handler core) ∧ (execution.state n).handler core = .locked

/-- The handler of the core serves the source: it yields for an RTOS core, or calls the
ISR of a peripheral. -/
def Serves (execution : Execution (next config) (start : Irq Thread)) (core source n : Nat) :
    Prop :=
  execution.label n = .step (.handler core) ∧
    match (execution.state n).handler core with
    | .taken pending => source < rtosMaxCoreCount ∧ pending.getLsbD source = true
    | .serving pending => pending ≠ 0#32 ∧ sourceId pending = source
    | _ => False

/-- The snapshot at `m` is the first one behind `n`, and the flag of the source is in it. -/
def Includes (execution : Execution (next config) (start : Irq Thread))
    (core source n m : Nat) : Prop :=
  n < m ∧ TakesSnapshot execution core m ∧
    ((execution.state m).irqPending core).getLsbD source = true ∧
    ∀ k, n < k → k < m → ¬ TakesSnapshot execution core k

/-- A flag is lost in a snapshot. -/
theorem takesSnapshot_of_lost {n : Nat}
    (isSet : ((execution.state n).irqPending core).getLsbD source = true)
    (lost : ¬ ((execution.state (n + 1)).irqPending core).getLsbD source = true) :
    TakesSnapshot execution core n := by
  have step := execution.step n
  by_cases isOwner : execution.label n = .step (.handler core)
  · refine ⟨isOwner, ?_⟩
    rw [isOwner] at step
    have took := (handlerStep_of_nextHandler
      (show (execution.state n).nextHandler core = some _ from step)).2
    by_contra notLocked
    rw [(took.left_lt notLocked).2] at lost
    exact lost isSet
  · exact absurd ((next_handler_other step isOwner).2.2 source isSet) lost

/-- A snapshot clears the flags and takes them. -/
theorem TakesSnapshot.taken {n : Nat} (takes : TakesSnapshot execution core n) :
    (execution.state (n + 1)).irqPending core = 0#32 ∧
      ((execution.state (n + 1)).handler core).flags = (execution.state n).irqPending core := by
  have step := execution.step n
  rw [takes.1] at step
  have took := (handlerStep_of_nextHandler
    (show (execution.state n).nextHandler core = some _ from step)).2
  have atLocked := takes.2
  generalize execution.state (n + 1) = target at took
  cases took with
  | takeSnapshot =>
      exact ⟨Function.update_self _ _ _, by simp [Irq.takeSnapshot, HandlerPoint.flags]⟩
  | enter at_ _ | check at_ | readToken at_ | acquire at_ _ | release at_ | yield at_
  | return_ at_ | serve at_ _ =>
      rw [atLocked] at at_
      cases at_

theorem getLsbD_rtosCoreSourceMask {source : Nat} (isCore : rtosMaxCoreCount ≤ source) :
    rtosCoreSourceMask.getLsbD source = false := by
  unfold rtosMaxCoreCount at isCore
  unfold rtosCoreSourceMask
  rw [BitVec.getLsbD_ofNat, show (255 : Nat) = 2 ^ 8 - 1 from rfl, Nat.testBit_two_pow_sub_one]
  simp [isCore]

/-- A source that is no longer to be served was served. -/
theorem serves_of_lost {n : Nat}
    (isTaken : ((execution.state n).handler core).flags.getLsbD source = true)
    (lost : ¬ ((execution.state (n + 1)).handler core).flags.getLsbD source = true) :
    Serves execution core source n := by
  have step := execution.step n
  have inside : source < 32 :=
    ((irqInv_always execution n).takenSources core source isTaken).lt
  by_cases isOwner : execution.label n = .step (.handler core)
  · refine ⟨isOwner, ?_⟩
    rw [isOwner] at step
    have took := (handlerStep_of_nextHandler
      (show (execution.state n).nextHandler core = some _ from step)).2
    generalize execution.state (n + 1) = target at took lost
    cases took with
    | @yield pending at_ =>
        have isPending : pending.getLsbD source = true := by
          rw [at_] at isTaken
          exact isTaken
        rw [at_]
        refine ⟨?_, isPending⟩
        by_contra isPeripheral
        refine lost ?_
        have notMasked := getLsbD_rtosCoreSourceMask (Nat.le_of_not_lt isPeripheral)
        have kept : (pending &&& ~~~rtosCoreSourceMask).getLsbD source = true := by
          rw [BitVec.getLsbD_and, BitVec.getLsbD_not, notMasked, isPending]
          simp [inside]
        simpa [moveHandler, HandlerPoint.flags] using kept
    | @serve pending at_ isLeft =>
        have isPending : pending.getLsbD source = true := by
          rw [at_] at isTaken
          exact isTaken
        rw [at_]
        refine ⟨isLeft, ?_⟩
        by_contra different
        refine lost ?_
        have kept : (pending &&& ~~~flag (sourceId pending)).getLsbD source = true := by
          rw [getLsbD_clear pending inside, isPending]
          simp [Ne.symm different]
        simpa [moveHandler, Irq.assert, HandlerPoint.flags] using kept
    | @release pending at_ =>
        rw [at_] at isTaken
        refine absurd ?_ lost
        simpa [moveHandler, HandlerPoint.flags] using isTaken
    | enter at_ _ | check at_ | readToken at_ | acquire at_ _ | takeSnapshot at_ | return_ at_ =>
        rw [at_] at isTaken
        simp [HandlerPoint.flags] at isTaken
  · rw [(next_handler_other step isOwner).1] at lost
    exact absurd isTaken lost

theorem Raises.isSet {n : Nat} (raises : Raises execution core source n) :
    ((execution.state (n + 1)).irqPending core).getLsbD source = true := by
  obtain ⟨agent, isCall, at_⟩ := raises
  have isSource := ((irqInv_always execution n).targets agent core source (by rw [at_]; rfl)).2
  have step := execution.step n
  rw [isCall] at step
  have took := callStep_of_nextCall (show (execution.state n).nextCall agent = some _ from step)
  generalize execution.state (n + 1) = target at took
  cases took with
  | setFlag same =>
      obtain ⟨rfl, rfl⟩ := CallPoint.locked.inj (at_.symm.trans same)
      simp [Irq.setFlag, flag, isSource.lt]
  | acquire same _ | sendToken same | release same =>
      rw [at_] at same
      cases same

/-- A flag is set by a raise. -/
theorem raises_of_set {n : Nat}
    (wasClear : ¬ ((execution.state n).irqPending core).getLsbD source = true)
    (isSet : ((execution.state (n + 1)).irqPending core).getLsbD source = true) :
    Raises execution core source n := by
  have step := execution.step n
  unfold next at step
  generalize execution.state (n + 1) = target at step isSet
  split at step
  · split_ifs at step
    cases step
    exact absurd isSet wasClear
  · rename_i label agent isCall
    have took := callStep_of_nextCall step
    cases took with
    | @setFlag aim bit at_ =>
        by_cases same : core = aim
        · subst same
          simp only [Irq.setFlag, Function.update_self, BitVec.getLsbD_or, Bool.or_eq_true] at isSet
          obtain rfl := getLsbD_flag (isSet.resolve_left wasClear)
          exact ⟨agent, isCall, at_⟩
        · simp only [Irq.setFlag, Function.update_of_ne same] at isSet
          exact absurd isSet wasClear
    | acquire | sendToken | release => exact absurd isSet wasClear
  · rename_i label stepping isHandler
    have took := (handlerStep_of_nextHandler step).2
    by_cases same : core = stepping
    · subst same
      by_cases atLocked : (execution.state n).handler core = .locked
      · cases took with
        | takeSnapshot => simp [Irq.takeSnapshot] at isSet
        | enter at_ _ | check at_ | readToken at_ | acquire at_ _ | release at_ | yield at_
        | return_ at_ | serve at_ _ =>
            rw [atLocked] at at_
            cases at_
      · rw [(took.left_lt atLocked).2] at isSet
        exact absurd isSet wasClear
    · rw [(took.frame.2 core same).2.2] at isSet
      exact absurd isSet wasClear
  · cases step
    exact absurd isSet wasClear

/-- A raised source is in exactly one snapshot, the first one behind, and the run of the
handler that took it serves the source. -/
theorem Fair.delivered (fair : Fair execution) {n : Nat} (raises : Raises execution core source n) :
    ∃ m, Includes execution core source n m ∧
      (∀ other, Includes execution core source n other → other = m) ∧
      ∃ j, m < j ∧ Serves execution core source j ∧
        ∀ k, m < k → k < j → ¬ TakesSnapshot execution core k := by
  obtain ⟨_, later, isClear⟩ := fair.clears core source (n + 1) raises.isSet
  obtain ⟨m, afterN, _, isSet, lost⟩ := Execution.exists_lost
    (fun irq : Irq Thread => (irq.irqPending core).getLsbD source = true) later raises.isSet isClear
  have takes := takesSnapshot_of_lost (isSet m afterN (Nat.le_refl m)) lost
  -- A snapshot in between would have cleared the flag.
  have isFirst : ∀ k, n < k → k < m → ¬ TakesSnapshot execution core k := by
    intro k afterRaise before earlier
    have stillSet := isSet (k + 1) (Nat.le_succ_of_le afterRaise) before
    rw [earlier.taken.1] at stillSet
    simp at stillSet
  have includes : Includes execution core source n m :=
    ⟨afterN, takes, isSet m afterN (Nat.le_refl m), isFirst⟩
  refine ⟨m, includes, ?_, ?_⟩
  · rintro other ⟨afterRaise, otherTakes, _, otherFirst⟩
    rcases Nat.lt_trichotomy other m with before | same | behind
    · exact absurd otherTakes (isFirst other afterRaise before)
    · exact same
    · exact absurd takes (otherFirst m afterN behind)
  · have isTaken : ((execution.state (m + 1)).handler core).flags.getLsbD source = true := by
      rw [takes.taken.2]
      exact includes.2.2.1
    obtain ⟨_, later, isServed⟩ := fair.serves core source (m + 1) isTaken
    obtain ⟨j, afterM, _, stillTaken, servedThere⟩ := Execution.exists_lost
      (fun irq : Irq Thread => (irq.handler core).flags.getLsbD source = true)
        later isTaken isServed
    refine ⟨j, afterM, serves_of_lost (stillTaken j afterM (Nat.le_refl j)) servedThere, ?_⟩
    rintro k afterTaken before ⟨_, atLocked⟩
    have there := stillTaken k afterTaken before.le
    rw [atLocked] at there
    simp [HandlerPoint.flags] at there

/-- A flag in a snapshot was raised behind the snapshot before. -/
theorem raised_of_isSet {n : Nat}
    (isSet : ((execution.state n).irqPending core).getLsbD source = true) :
    ∃ m, m < n ∧ Raises execution core source m ∧
      ∀ k, m < k → k < n → ¬ TakesSnapshot execution core k := by
  induction n with
  | zero =>
      rw [execution.first] at isSet
      simp [start] at isSet
  | succ n ih =>
      have step := execution.step n
      by_cases wasSet : ((execution.state n).irqPending core).getLsbD source = true
      · obtain ⟨m, before, raises, none_⟩ := ih wasSet
        refine ⟨m, Nat.lt_succ_of_lt before, raises, ?_⟩
        intro k afterRaise within takes
        rcases Nat.lt_or_eq_of_le (Nat.le_of_lt_succ within) with earlier | same
        · exact none_ k afterRaise earlier takes
        · subst same
          rw [takes.taken.1] at isSet
          simp at isSet
      · refine ⟨n, Nat.lt_succ_self n, raises_of_set wasSet isSet, ?_⟩
        intro k afterRaise within
        omega

/-! ## All interleavings -/

/-- The flags of a core, its tokens and its handler belong together. -/
structure TokensMatch (irq : Irq Thread) (core : Nat) : Prop where
  atMostOne : irq.tokens core ≤ 1
  /-- A call that found no flag set has yet to send its token while it holds the lock. -/
  pending_iff : irq.irqPending core ≠ 0#32 ↔
    0 < irq.tokens core ∨ (irq.handler core).reading = true ∨ irq.sending core = true
  noFailure : irq.assertionFailed = false

omit [DecidableEq Thread] in
theorem IrqInv.tokensMatch (inv : IrqInv config irq) (core : Nat) : TokensMatch irq core where
  atMostOne := by
    have atMost := inv.owed_le_one core
    unfold Irq.owed at atMost
    omega
  pending_iff := by
    have isOwed := inv.owed core
    unfold Irq.owed at isOwed
    rw [← bne_iff_ne]
    cases hasFlag : irq.irqPending core != 0#32 with
    | false =>
        simp only [hasFlag, Bool.toNat_false, Nat.add_eq_zero_iff, Bool.toNat_eq_zero] at isOwed
        simp [isOwed]
    | true =>
        simp only [true_iff]
        by_contra none_
        simp only [not_or, Nat.not_lt, Nat.le_zero, Bool.not_eq_true] at none_
        simp [hasFlag, none_] at isOwed
  noFailure := inv.noFailure

/-- A raised source is in exactly one snapshot, the first one behind the raise, and is
served before the handler takes the next one. -/
def Delivered (execution : Execution (next config) (start : Irq Thread))
    (core source n : Nat) : Prop :=
  ∃ m, Includes execution core source n m ∧
    (∀ other, Includes execution core source n other → other = m) ∧
    ∃ j, m < j ∧ Serves execution core source j ∧
      ∀ k, m < k → k < j → ¬ TakesSnapshot execution core k

/-- In every interleaving the tokens match the flags and no assertion fails; in every fair
one what is raised is delivered, and what is in a snapshot was raised for it. -/
theorem interrupts_delivered (config : Config) :
    (∀ irq, Reachable (next config) (start : Irq Thread) irq → ∀ core, TokensMatch irq core) ∧
      ∀ execution : Execution (next config) (start : Irq Thread), Fair execution →
        (∀ core source n, Raises execution core source n → Delivered execution core source n) ∧
        ∀ core source m, TakesSnapshot execution core m →
          ((execution.state m).irqPending core).getLsbD source = true →
            ∃ n, Raises execution core source n ∧ Includes execution core source n m := by
  constructor
  · intro irq reachable core
    exact (irqInv_of_reachable reachable).tokensMatch core
  · intro execution fair
    constructor
    · intro core source n raises
      exact fair.delivered raises
    · intro core source m takes isSet
      obtain ⟨n, before, raises, between⟩ := raised_of_isSet isSet
      exact ⟨n, raises, before, takes, isSet, between⟩

/-! ## One core and one peripheral -/

/-- One RTOS core and one registered source. -/
def oneSource : Config where
  coreCount := 1
  coreCount_le := by decide
  registry := ⟨1, by decide⟩

/-- A thread of another core calls `rtos_irq` up to where the flag is set. -/
def oneRaise : List (Label Unit) :=
  [.call (.thread ()) 0 8, .step (.call (.thread ())), .step (.call (.thread ()))]

/-- The call sends its token and the core runs its handler. -/
def oneInterrupt : List (Label Unit) :=
  oneRaise ++ [.step (.call (.thread ())), .step (.call (.thread ()))] ++
    List.replicate 9 (.step (.handler 0))

def afterOneRaise : Irq Unit :=
  (run (next oneSource) start oneRaise).get (by decide)

def afterOneInterrupt : Irq Unit :=
  (run (next oneSource) start oneInterrupt).get (by decide)

theorem oneRaise_executed : run (next oneSource) start oneRaise = some afterOneRaise :=
  (Option.some_get _).symm

theorem oneInterrupt_executed :
    run (next oneSource) start oneInterrupt = some afterOneInterrupt :=
  (Option.some_get _).symm

/-- The flag is set while no token is in flight and the handler has read none. -/
theorem afterOneRaise_pending :
    ∃ irq, Reachable (next oneSource) (start : Irq Unit) irq ∧
      ¬ (irq.irqPending 0 ≠ 0#32 ↔ 0 < irq.tokens 0 ∨ (irq.handler 0).reading = true) :=
  ⟨afterOneRaise, reachable_of_run oneRaise_executed, by decide⟩

def oneInterruptExecution : Execution (next oneSource) (start : Irq Unit) :=
  .ofRun .other oneInterrupt_executed rfl

theorem afterOneInterrupt_rests (owner : Owner Unit) :
    ¬ CanStep oneSource owner afterOneInterrupt := by
  have isNone : next oneSource afterOneInterrupt (.step owner) = none := by
    rcases owner with ⟨agent | _⟩ | core
    · rfl
    · rfl
    · cases core with
      | zero => rfl
      | succ core => rfl
  unfold CanStep
  rw [isNone]
  exact Bool.false_ne_true

theorem oneInterrupt_fair : Fair oneInterruptExecution :=
  fun owner => Execution.ofRun_stronglyFair _ _ _ (afterOneInterrupt_rests owner)

theorem oneInterrupt_delivered :
    TokensMatch afterOneInterrupt 0 ∧ Delivered oneInterruptExecution 0 8 2 :=
  ⟨(interrupts_delivered oneSource).1 afterOneInterrupt
      (reachable_of_run oneInterrupt_executed) 0,
    ((interrupts_delivered oneSource).2 oneInterruptExecution oneInterrupt_fair).1 0 8 2
      ⟨.thread (), rfl, rfl⟩⟩

end Irq

end FwkRtos.RtosIrq
