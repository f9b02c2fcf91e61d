import FwkRtos.SlWfx.ReceiveTask

/-!
# Stop requests

Where stops and starts are in order, one receive task is alive at a time, and the
stop bit is set for it alone from the moment its handle is taken until it has seen
the bit.
-/

namespace FwkRtos.SlWfx.ReceiveTask

open FwkRtos.Transition

namespace Host

/-- The invariant, but for a task whose stop bit is being set. -/
structure HostInvBut (setting : Option Nat) (host : Host) : Prop where
  fresh : ∀ task, host.created ≤ task → host.point task = .absent ∧ host.requested task = false
  /-- Only the task that was created last is alive. -/
  last : ∀ task, host.alive task = true → task + 1 = host.created
  handle : ∀ task, host.receiveTaskHandle = some task ↔
    host.alive task = true ∧ host.requested task = false
  pending : ∀ task, host.Pending task → host.requested task = true ∧ host.alive task = true ∧
    host.bits.deinitialized = false ∧ ∀ interrupt, host.point task ≠ .woken interrupt true
  /-- The bit is about to be set once for a task. -/
  once : ∀ first second task, .setDeinitialized task ∈ host.programs first →
    .setDeinitialized task ∈ host.programs second → first = second
  single : ∀ agent task, (host.programs agent).count (.setDeinitialized task) ≤ 1
  bit : host.bits.deinitialized = true → ∃ task, host.alive task = true ∧
    host.requested task = true ∧ ∀ interrupt, host.point task ≠ .woken interrupt true
  seen : ∀ task interrupt, host.point task = .woken interrupt true →
    host.requested task = true ∧ host.bits.deinitialized = false
  stopped : ∀ task, setting ≠ some task → host.requested task = true → host.alive task = true →
    ¬ host.Pending task →
      host.bits.deinitialized = true ∨ ∃ interrupt, host.point task = .woken interrupt true
  blocked : ∀ task, host.point task = .blocked → host.bits.ready = false
  own : ∀ task, host.point task ≠ .resetting → host.programs (.receiver task) = []
  noFaults : host.faults = ⟨false, false, false⟩

abbrev HostInv (host : Host) : Prop := HostInvBut none host

theorem hostInv_begin : HostInv begin_ where
  fresh _ _ := ⟨rfl, rfl⟩
  last _ isAlive := nomatch isAlive
  handle _ := iff_of_false (by simp [begin_]) (by simp [begin_, alive, Task.alive])
  pending _ isPending := nomatch isPending.choose_spec
  once _ _ _ isMember := nomatch isMember
  single _ _ := Nat.zero_le 1
  bit isSet := nomatch isSet
  seen _ _ isWoken := nomatch isWoken
  stopped _ _ isRequested := nomatch isRequested
  blocked _ isBlocked := nomatch isBlocked
  own _ _ := rfl
  noFaults := rfl

variable {host target : Host}

theorem HostInv.good (inv : HostInv host) : Good host where
  noFaults := inv.noFaults
  one first second firstAlive _ secondAlive _ := by
    have lastFirst := inv.last first firstAlive
    have lastSecond := inv.last second secondAlive
    omega
  unblocked task isRequested isBlocked := by
    by_contra notPending
    have isAlive : host.alive task = true := by
      have at_ : (host.tasks task).point = .blocked := isBlocked
      simp [alive, Task.alive, at_]
    rcases inv.stopped task (by simp) isRequested isAlive notPending with isSet | ⟨_, isWoken⟩
    · have notReady := inv.blocked task isBlocked
      rw [Bits.ready, isSet, Bool.or_true] at notReady
      cases notReady
    · rw [isBlocked] at isWoken
      cases isWoken

/-- Nobody is stopping: no task is alive but the one of the handle. -/
theorem requested_of_not_stopping (inv : HostInv host) (notStopping : host.stopping = false)
    {task : Nat} (isAlive : host.alive task = true) : host.requested task = false := by
  have inside : task < host.created := by
    have last := inv.last task isAlive
    omega
  simp only [stopping, List.any_eq_false, List.mem_range, Bool.and_eq_true, not_and] at notStopping
  exact Bool.eq_false_iff.mpr fun isRequested => notStopping task inside isRequested isAlive

/-! ## One task -/

section OneTask

variable {setting : Option Nat} {task : Nat}

theorem point_setTask_self (new : Task) : (host.setTask task new).point task = new.point := by
  simp [setTask, point]

theorem point_setTask_of_ne (new : Task) {other : Nat} (different : other ≠ task) :
    (host.setTask task new).point other = host.point other := by
  simp [setTask, point, different]

/-- A task that goes on stays alive, as the other ones do. -/
theorem alive_setTask (isAlive : host.alive task = true) {new : Task} (newAlive : new.alive = true)
    (other : Nat) : (host.setTask task new).alive other = host.alive other := by
  by_cases same : other = task
  · subst same
    rw [isAlive]
    simp [alive, setTask, newAlive]
  · simp [alive, setTask, same]

theorem HostInvBut.eq_of_alive (inv : HostInvBut setting host) (isAlive : host.alive task = true)
    {other : Nat} (otherAlive : host.alive other = true) : other = task := by
  have isLast := inv.last task isAlive
  have otherLast := inv.last other otherAlive
  omega

/-- What a task becomes does not matter for those that are not yet created. -/
theorem HostInvBut.fresh_setTask (inv : HostInvBut setting host) (isAlive : host.alive task = true)
    (new : Task) {other : Nat} (beyond : host.created ≤ other) :
    (host.setTask task new).point other = .absent ∧ host.requested other = false := by
  have different : other ≠ task := by
    have isLast := inv.last task isAlive
    omega
  rw [point_setTask_of_ne new different]
  exact inv.fresh other beyond

/-- Only a task that is reset has a program of its own. -/
theorem HostInvBut.own_setTask (inv : HostInvBut setting host) {new : Task}
    (own : new.point ≠ .resetting → host.programs (.receiver task) = []) {other : Nat}
    (notResetting : (host.setTask task new).point other ≠ .resetting) :
    host.programs (.receiver other) = [] := by
  by_cases same : other = task
  · subst same
    exact own fun resetting => notResetting ((point_setTask_self new).trans resetting)
  · rw [point_setTask_of_ne new same] at notResetting
    exact inv.own other notResetting

end OneTask

/-! ## Programs -/

/-- A program changes in nothing that concerns the stop bit. -/
theorem HostInv.reprogram (inv : HostInv host) {agent : Agent} {program : List Instr}
    (initialized : Bool)
    (same : ∀ task, program.count (.setDeinitialized task) =
      (host.programs agent).count (.setDeinitialized task))
    (own : ∀ task, agent = .receiver task → host.point task ≠ .resetting → program = []) :
    HostInv
      { host with
        bits := { host.bits with initialized := initialized }
        programs := Function.update host.programs agent program } := by
  have counts : ∀ other task,
      (Function.update host.programs agent program other).count (.setDeinitialized task) =
        (host.programs other).count (.setDeinitialized task) := by
    intro other task
    by_cases isAgent : other = agent
    · subst isAgent
      rw [Function.update_self, same]
    · rw [Function.update_of_ne isAgent]
  have members : ∀ other task,
      .setDeinitialized task ∈ Function.update host.programs agent program other ↔
        .setDeinitialized task ∈ host.programs other := by
    intro other task
    rw [← List.count_pos_iff, ← List.count_pos_iff, counts]
  have pendings : ∀ task, Pending
      { host with
        bits := { host.bits with initialized := initialized }
        programs := Function.update host.programs agent program } task ↔ host.Pending task :=
    fun task => exists_congr fun other => members other task
  constructor
  case fresh => exact inv.fresh
  case last => exact inv.last
  case handle => exact inv.handle
  case pending => exact fun task isPending => inv.pending task ((pendings task).mp isPending)
  case once =>
    intro first second task isFirst isSecond
    exact inv.once first second task ((members first task).mp isFirst)
      ((members second task).mp isSecond)
  case single => exact fun other task => (counts other task).trans_le (inv.single other task)
  case bit => exact inv.bit
  case seen => exact inv.seen
  case stopped =>
    intro task notSetting isRequested isAlive notPending
    exact inv.stopped task notSetting isRequested isAlive fun isPending =>
      notPending ((pendings task).mpr isPending)
  case blocked => exact inv.blocked
  case own =>
    intro task notResetting
    show Function.update host.programs agent program (.receiver task) = []
    by_cases isAgent : Agent.receiver task = agent
    · subst isAgent
      rw [Function.update_self]
      exact own task rfl notResetting
    · rw [Function.update_of_ne isAgent]
      exact inv.own task notResetting
  case noFaults => exact inv.noFaults

/-- A receiver that has instructions left is in a reset. -/
theorem HostInv.resetting_of_program (inv : HostInv host) {agent : Agent} {instr : Instr}
    {rest : List Instr} (program : host.programs agent = instr :: rest) (task : Nat)
    (isReceiver : agent = .receiver task) : host.point task = .resetting := by
  by_contra notResetting
  have none_ := inv.own task notResetting
  rw [← isReceiver, program] at none_
  cases none_

theorem HostInv.call (inv : HostInv host) {n : Nat} {program : List Instr}
    (noStop : ∀ task, program.count (.setDeinitialized task) = 0)
    (step : host.call n program = some target) : HostInv target := by
  unfold Host.call at step
  split at step
  · rename_i none_
    cases step
    refine inv.reprogram host.bits.initialized ?_ ?_
    · intro task
      rw [noStop, none_, List.count_nil]
    · intro task isReceiver
      cases isReceiver
  · cases step

/-- The handle is taken: its task is asked to stop from now on. -/
theorem HostInv.take (inv : HostInv host) {agent : Agent} {rest : List Instr} {task : Nat}
    (program : host.programs agent = .take :: rest)
    (isHandle : host.receiveTaskHandle = some task) :
    HostInv
      { host with
        receiveTaskHandle := none
        requested := Function.update host.requested task true
        programs := Function.update host.programs agent
          (.clearInitialized task :: .setDeinitialized task :: rest) } := by
  obtain ⟨isAlive, notRequested⟩ := (inv.handle task).mp isHandle
  have isLast := inv.last task isAlive
  have only : ∀ other, host.alive other = true → other = task :=
    fun _ => inv.eq_of_alive isAlive
  have notPending : ¬ host.Pending task := by
    intro isPending
    rw [(inv.pending task isPending).1] at notRequested
    cases notRequested
  have bitClear : host.bits.deinitialized = false := by
    refine Bool.eq_false_iff.mpr fun isSet => ?_
    obtain ⟨other, otherAlive, isRequested, _⟩ := inv.bit isSet
    rw [only other otherAlive, notRequested] at isRequested
    cases isRequested
  have notSeen : ∀ interrupt, host.point task ≠ .woken interrupt true := by
    intro interrupt isWoken
    rw [(inv.seen task interrupt isWoken).1] at notRequested
    cases notRequested
  have members : ∀ other stop, .setDeinitialized stop ∈ Function.update host.programs agent
      (.clearInitialized task :: .setDeinitialized task :: rest) other →
        other = agent ∧ stop = task ∨ .setDeinitialized stop ∈ host.programs other := by
    intro other stop isMember
    by_cases isAgent : other = agent
    · subst isAgent
      rw [Function.update_self] at isMember
      rw [program]
      simp only [List.mem_cons, reduceCtorEq, false_or, Instr.setDeinitialized.injEq] at isMember ⊢
      exact isMember.imp_left fun same => ⟨trivial, same⟩
    · rw [Function.update_of_ne isAgent] at isMember
      exact .inr isMember
  have nowPending : Pending
      { host with
        receiveTaskHandle := none
        requested := Function.update host.requested task true
        programs := Function.update host.programs agent
          (.clearInitialized task :: .setDeinitialized task :: rest) } task :=
    ⟨agent, by simp⟩
  constructor
  case fresh =>
    intro other beyond
    refine ⟨(inv.fresh other beyond).1, ?_⟩
    show Function.update host.requested task true other = false
    have different : other ≠ task := by
      have beyondLast : host.created ≤ other := beyond
      omega
    rw [Function.update_of_ne different]
    exact (inv.fresh other beyond).2
  case last => exact inv.last
  case handle =>
    intro other
    refine iff_of_false (by simp) ?_
    rintro ⟨otherAlive, otherNot⟩
    obtain rfl := only other otherAlive
    simp at otherNot
  case pending =>
    rintro stop ⟨other, isMember⟩
    rcases members other stop isMember with ⟨_, rfl⟩ | earlier
    · exact ⟨by simp, isAlive, bitClear, notSeen⟩
    · obtain ⟨isRequested, stopAlive, rest⟩ := inv.pending stop ⟨other, earlier⟩
      refine ⟨?_, stopAlive, rest⟩
      obtain rfl := only stop stopAlive
      simp
  case once =>
    intro first second stop isFirst isSecond
    rcases members first stop isFirst with ⟨rfl, rfl⟩ | earlierFirst
    · rcases members second stop isSecond with ⟨same, _⟩ | earlierSecond
      · exact same.symm
      · exact absurd ⟨second, earlierSecond⟩ notPending
    · rcases members second stop isSecond with ⟨_, rfl⟩ | earlierSecond
      · exact absurd ⟨first, earlierFirst⟩ notPending
      · exact inv.once first second stop earlierFirst earlierSecond
  case single =>
    intro other stop
    show (Function.update host.programs agent _ other).count _ ≤ 1
    by_cases isAgent : other = agent
    · subst isAgent
      have before := inv.single other stop
      rw [program] at before
      rw [Function.update_self]
      by_cases same : stop = task
      · subst same
        have none_ : rest.count (.setDeinitialized stop) = 0 := by
          refine List.count_eq_zero.mpr fun isMember => notPending ⟨other, ?_⟩
          rw [program]
          exact List.mem_cons_of_mem _ isMember
        simp [none_]
      · have different : Instr.setDeinitialized task ≠ .setDeinitialized stop := by
          simpa using Ne.symm same
        simpa [List.count_cons, Ne.symm same] using before
    · rw [Function.update_of_ne isAgent]
      exact inv.single other stop
  case bit =>
    intro isSet
    exact absurd (bitClear.symm.trans isSet) (by simp)
  case seen =>
    intro other interrupt isWoken
    obtain ⟨isRequested, isClear⟩ := inv.seen other interrupt isWoken
    refine ⟨?_, isClear⟩
    show Function.update host.requested task true other = true
    by_cases same : other = task
    · subst same
      simp
    · rw [Function.update_of_ne same]
      exact isRequested
  case stopped =>
    intro other _ _ otherAlive missing
    obtain rfl := only other otherAlive
    exact absurd nowPending missing
  case blocked => exact inv.blocked
  case own =>
    intro other notResetting
    show Function.update host.programs agent _ (.receiver other) = []
    have different : Agent.receiver other ≠ agent := by
      intro isAgent
      exact notResetting (inv.resetting_of_program program other isAgent.symm)
    rw [Function.update_of_ne different]
    exact inv.own other notResetting
  case noFaults => exact inv.noFaults

/-! ## Bits -/

theorem mem_blockedTasks {task : Nat} : task ∈ host.blockedTasks ↔
    task < host.created ∧ host.point task = .blocked := by
  simp [blockedTasks]

/-- The only task that can be blocked is the last one. -/
theorem alive_of_blocked {task : Nat} (isBlocked : host.point task = .blocked) :
    host.alive task = true := by
  have at_ : (host.tasks task).point = .blocked := isBlocked
  simp [alive, Task.alive, at_]

/-- Setting a bit that ends no wait, or while nobody is blocked, wakes nobody. -/
theorem setBits_eq {bits : Bits} (quiet : bits.ready = false ∨ ∀ task, host.point task ≠ .blocked) :
    host.setBits bits = { host with bits := bits } := by
  unfold setBits
  rcases quiet with notReady | nobody
  · simp [notReady]
  · have none_ : host.blockedTasks = [] := by
      refine List.eq_nil_iff_forall_not_mem.mpr fun task isMember => ?_
      exact nobody task (mem_blockedTasks.mp isMember).2
    simp [none_]

/-- The blocked task is woken. -/
theorem HostInvBut.setBits_blocked {setting : Option Nat} (inv : HostInvBut setting host)
    {task : Nat} {bits : Bits} (isBlocked : host.point task = .blocked)
    (isReady : bits.ready = true)
    (asked : host.requested task = bits.deinitialized) :
    host.setBits bits =
      { host.move task (.woken bits.interrupt bits.deinitialized) with bits := bits.taken } := by
  have isLast := inv.last task (alive_of_blocked isBlocked)
  have only : ∀ other, other ∈ host.blockedTasks ↔ other = task := by
    intro other
    rw [mem_blockedTasks]
    constructor
    · rintro ⟨_, otherBlocked⟩
      have otherLast := inv.last other (alive_of_blocked otherBlocked)
      omega
    · rintro rfl
      exact ⟨by omega, isBlocked⟩
  have someone : host.blockedTasks ≠ [] := by
    intro none_
    have isMember := (only task).mpr rfl
    rw [none_] at isMember
    cases isMember
  have noStray : (host.blockedTasks.any fun other =>
      host.requested other && !bits.deinitialized) = false := by
    rw [List.any_eq_false]
    intro other isMember
    rw [(only other).mp isMember, asked]
    simp
  have noStolen : (host.blockedTasks.any fun other =>
      !host.requested other && bits.deinitialized) = false := by
    rw [List.any_eq_false]
    intro other isMember
    rw [(only other).mp isMember, asked]
    simp
  have tasks : (fun other => if other ∈ host.blockedTasks then
      { host.tasks other with point := .woken bits.interrupt bits.deinitialized }
        else host.tasks other) =
      Function.update host.tasks task
        { host.tasks task with point := .woken bits.interrupt bits.deinitialized } := by
    funext other
    by_cases same : other = task
    · subst same
      rw [if_pos ((only other).mpr rfl), Function.update_self]
    · rw [if_neg fun isMember => same ((only other).mp isMember), Function.update_of_ne same]
  unfold setBits
  rw [if_pos ⟨isReady, someone⟩, noStray, noStolen, tasks]
  simp only [Bool.or_false]
  rfl

/-- The wait of the last task returns, with the stop bit when it was asked to stop. -/
theorem HostInvBut.wake {setting : Option Nat} (inv : HostInvBut setting host) {task : Nat}
    (isAlive : host.alive task = true)
    (notResetting : host.point task ≠ .resetting) (interrupt deinitialized : Bool) (bits : Bits)
    (notReady : bits.ready = false)
    (asked : host.requested task = deinitialized) (notPending : ¬ host.Pending task) :
    HostInv { host.move task (.woken interrupt deinitialized) with bits := bits } := by
  have bitClear : bits.deinitialized = false := by
    unfold Bits.ready at notReady
    exact (Bool.or_eq_false_iff.mp notReady).2
  have isPoint : (host.move task (.woken interrupt deinitialized)).point task =
      .woken interrupt deinitialized := point_setTask_self _
  have alives : ∀ other, (host.move task (.woken interrupt deinitialized)).alive other =
      host.alive other := alive_setTask isAlive (by simp [Task.alive])
  constructor
  case fresh => exact fun other beyond => inv.fresh_setTask isAlive _ beyond
  case last => exact fun other otherAlive => inv.last other ((alives other).symm.trans otherAlive)
  case handle =>
    intro other
    refine (inv.handle other).trans (and_congr_left fun _ => ?_)
    exact Bool.coe_iff_coe.mpr (alives other).symm
  case pending =>
    intro other isPending
    obtain rfl := inv.eq_of_alive isAlive (inv.pending other isPending).2.1
    exact absurd isPending notPending
  case once => exact inv.once
  case single => exact inv.single
  case bit =>
    intro isSet
    exact absurd (bitClear.symm.trans isSet) (by simp)
  case seen =>
    intro other i isWoken
    refine ⟨?_, bitClear⟩
    by_cases same : other = task
    · subst same
      have both := Point.woken.inj (isPoint.symm.trans isWoken)
      exact asked.trans both.2
    · exact (inv.seen other i ((point_setTask_of_ne _ same).symm.trans isWoken)).1
  case stopped =>
    intro other _ isRequested otherAlive _
    obtain rfl := inv.eq_of_alive isAlive ((alives other).symm.trans otherAlive)
    refine .inr ⟨interrupt, isPoint.trans ?_⟩
    rw [← asked, show host.requested other = true from isRequested]
  case blocked => exact fun _ _ => notReady
  case own => exact fun other => inv.own_setTask fun _ => inv.own task notResetting
  case noFaults => exact inv.noFaults

/-- The instruction that sets the stop bit is fetched. -/
theorem HostInv.fetch (inv : HostInv host) {agent : Agent} {rest : List Instr} {task : Nat}
    (program : host.programs agent = .setDeinitialized task :: rest) :
    HostInvBut (some task) { host with programs := Function.update host.programs agent rest } ∧
      ¬ Pending { host with programs := Function.update host.programs agent rest } task := by
  have members : ∀ other stop,
      .setDeinitialized stop ∈ Function.update host.programs agent rest other →
      .setDeinitialized stop ∈ host.programs other := by
    intro other stop isMember
    by_cases isAgent : other = agent
    · subst isAgent
      rw [Function.update_self] at isMember
      rw [program]
      exact List.mem_cons_of_mem _ isMember
    · rwa [Function.update_of_ne isAgent] at isMember
  have isPending : .setDeinitialized task ∈ host.programs agent := by
    rw [program]
    exact List.mem_cons_self
  have notLeft : ¬ Pending
      { host with programs := Function.update host.programs agent rest } task := by
    rintro ⟨other, isMember⟩
    obtain rfl := inv.once other agent task (members other task isMember) isPending
    have isLeft : .setDeinitialized task ∈ Function.update host.programs other rest other :=
      isMember
    rw [Function.update_self] at isLeft
    have single := inv.single other task
    rw [program, List.count_cons_self] at single
    have positive := List.count_pos_iff.mpr isLeft
    omega
  refine ⟨?_, notLeft⟩
  constructor
  case fresh => exact inv.fresh
  case last => exact inv.last
  case handle => exact inv.handle
  case pending =>
    rintro stop ⟨other, isMember⟩
    exact inv.pending stop ⟨other, members other stop isMember⟩
  case once =>
    intro first second stop isFirst isSecond
    exact inv.once first second stop (members first stop isFirst) (members second stop isSecond)
  case single =>
    intro other stop
    show (Function.update host.programs agent rest other).count _ ≤ 1
    by_cases isAgent : other = agent
    · subst isAgent
      have before := inv.single other stop
      rw [program] at before
      rw [Function.update_self]
      exact List.count_le_count_cons.trans before
    · rw [Function.update_of_ne isAgent]
      exact inv.single other stop
  case bit => exact inv.bit
  case seen => exact inv.seen
  case stopped =>
    intro stop different isRequested isAlive _
    have lastStop := inv.last stop isAlive
    have lastTask := inv.last task (inv.pending task ⟨agent, isPending⟩).2.1
    exact absurd (congrArg some (by omega)) different
  case blocked => exact inv.blocked
  case own =>
    intro other notResetting
    show Function.update host.programs agent rest (.receiver other) = []
    have different : Agent.receiver other ≠ agent := by
      intro isAgent
      exact notResetting (inv.resetting_of_program program other isAgent.symm)
    rw [Function.update_of_ne different]
    exact inv.own other notResetting
  case noFaults => exact inv.noFaults

/-- The stop bit is set for a task that was asked to stop. -/
theorem HostInvBut.setDeinitialized {task : Nat} (inv : HostInvBut (some task) host)
    (isRequested : host.requested task = true) (isAlive : host.alive task = true)
    (notSeen : ∀ interrupt, host.point task ≠ .woken interrupt true)
    (notPending : ¬ host.Pending task) :
    HostInv (host.setBits { host.bits with deinitialized := true }) := by
  by_cases isBlocked : host.point task = .blocked
  · rw [inv.setBits_blocked isBlocked (by simp [Bits.ready]) isRequested]
    refine inv.wake isAlive ?_ _ _ _ rfl isRequested notPending
    simp [isBlocked]
  · have nobody : ∀ other, host.point other ≠ .blocked := by
      intro other otherBlocked
      obtain rfl := inv.eq_of_alive isAlive (alive_of_blocked otherBlocked)
      exact isBlocked otherBlocked
    rw [setBits_eq (.inr nobody)]
    constructor
    case fresh => exact inv.fresh
    case last => exact inv.last
    case handle => exact inv.handle
    case pending =>
      intro other isPending
      obtain rfl := inv.eq_of_alive isAlive (inv.pending other isPending).2.1
      exact absurd isPending notPending
    case once => exact inv.once
    case single => exact inv.single
    case bit => exact fun _ => ⟨task, isAlive, isRequested, notSeen⟩
    case seen =>
      intro other interrupt isWoken
      have otherAlive : host.alive other = true := by
        have at_ : (host.tasks other).point = .woken interrupt true := isWoken
        simp [alive, Task.alive, at_]
      obtain rfl := inv.eq_of_alive isAlive otherAlive
      exact absurd isWoken (notSeen interrupt)
    case stopped => exact fun _ _ _ _ _ => .inl rfl
    case blocked => exact fun other otherBlocked => absurd otherBlocked (nobody other)
    case own => exact inv.own
    case noFaults => exact inv.noFaults

theorem HostInv.clearAll (inv : HostInv host) (notStopping : host.stopping = false) :
    HostInv
      { host with
        bits := ⟨false, false, false⟩
        faults := { host.faults with lost := host.faults.lost || host.bits.deinitialized } } := by
  have nobody : ∀ task, host.alive task = true → host.requested task = true → False := by
    intro task isAlive isRequested
    rw [requested_of_not_stopping inv notStopping isAlive] at isRequested
    cases isRequested
  have isClear : host.bits.deinitialized = false := by
    refine Bool.eq_false_iff.mpr fun isSet => ?_
    obtain ⟨task, isAlive, isRequested, _⟩ := inv.bit isSet
    exact nobody task isAlive isRequested
  constructor
  case fresh => exact inv.fresh
  case last => exact inv.last
  case handle => exact inv.handle
  case pending =>
    intro task isPending
    obtain ⟨isRequested, isAlive, _⟩ := inv.pending task isPending
    exact absurd isRequested fun _ => nobody task isAlive isRequested
  case once => exact inv.once
  case single => exact inv.single
  case bit =>
    intro isSet
    cases isSet
  case seen => exact fun task interrupt isWoken => ⟨(inv.seen task interrupt isWoken).1, rfl⟩
  case stopped => exact fun task _ isRequested isAlive _ => (nobody task isAlive isRequested).elim
  case blocked => exact fun _ _ => rfl
  case own => exact inv.own
  case noFaults =>
    show { host.faults with lost := host.faults.lost || host.bits.deinitialized } = _
    rw [isClear, inv.noFaults]
    rfl

theorem HostInv.create (inv : HostInv host) (notStopping : host.stopping = false)
    (noHandle : host.receiveTaskHandle = none) :
    HostInv
      { host.setTask host.created ⟨.looping, false, 0⟩ with
        receiveTaskHandle := some host.created
        created := host.created + 1 } := by
  have nobody : ∀ task, host.alive task ≠ true := by
    intro task isAlive
    have isHandle := (inv.handle task).mpr
      ⟨isAlive, requested_of_not_stopping inv notStopping isAlive⟩
    rw [noHandle] at isHandle
    cases isHandle
  have isClear : host.bits.deinitialized = false := by
    refine Bool.eq_false_iff.mpr fun isSet => ?_
    obtain ⟨task, isAlive, _⟩ := inv.bit isSet
    exact nobody task isAlive
  obtain ⟨wasAbsent, notRequested⟩ := inv.fresh host.created (Nat.le_refl _)
  have points : ∀ task, (host.setTask host.created ⟨.looping, false, 0⟩).point task =
      if task = host.created then .looping else host.point task := by
    intro task
    by_cases same : task = host.created
    · simp [point, setTask, same]
    · simp [point, setTask, same]
  have alives : ∀ task, (host.setTask host.created ⟨.looping, false, 0⟩).alive task = true ↔
      task = host.created := by
    intro task
    by_cases same : task = host.created
    · simp [alive, setTask, same, Task.alive]
    · have dead : (host.tasks task).alive = false := Bool.eq_false_iff.mpr (nobody task)
      simp [alive, setTask, same, dead]
  constructor
  case fresh =>
    intro task beyond
    have different : task ≠ host.created := Nat.ne_of_gt beyond
    refine ⟨?_, (inv.fresh task (Nat.le_of_lt beyond)).2⟩
    exact (points task).trans ((if_neg different).trans (inv.fresh task (Nat.le_of_lt beyond)).1)
  case last =>
    intro task isAlive
    rw [(alives task).mp isAlive]
  case handle =>
    intro task
    constructor
    · intro isHandle
      obtain rfl := Option.some.inj isHandle
      exact ⟨(alives _).mpr rfl, notRequested⟩
    · rintro ⟨isAlive, _⟩
      exact congrArg some ((alives task).mp isAlive).symm
  case pending =>
    intro task isPending
    exact absurd (inv.pending task isPending).2.1 (nobody task)
  case once => exact inv.once
  case single => exact inv.single
  case bit =>
    intro isSet
    exact absurd (isClear.symm.trans isSet) (by simp)
  case seen =>
    intro task interrupt isWoken
    have isPoint := (points task).symm.trans isWoken
    by_cases same : task = host.created
    · rw [if_pos same] at isPoint
      cases isPoint
    · rw [if_neg same] at isPoint
      exact inv.seen task interrupt isPoint
  case stopped =>
    intro task _ isRequested isAlive _
    obtain rfl := (alives task).mp isAlive
    exact absurd (notRequested.symm.trans isRequested) (by simp)
  case blocked =>
    intro task isBlocked
    have isPoint := (points task).symm.trans isBlocked
    by_cases same : task = host.created
    · rw [if_pos same] at isPoint
      cases isPoint
    · rw [if_neg same] at isPoint
      exact absurd (alive_of_blocked isPoint) (nobody task)
  case own =>
    intro task notResetting
    by_cases same : task = host.created
    · subst same
      exact inv.own _ (by rw [wasAbsent]; simp)
    · refine inv.own task fun resetting => notResetting ?_
      exact (points task).trans ((if_neg same).trans resetting)
  case noFaults => exact inv.noFaults

theorem HostInv.instr (inv : HostInv host) {agent : Agent} (inOrder : host.InOrder (.instr agent))
    (step : host.nextInstr agent = some target) : HostInv target := by
  unfold nextInstr at step
  split at step
  · cases step
  · rename_i instr rest program
    cases step
    have isHead : (host.programs agent).head? = some instr := by rw [program]; rfl
    have own : ∀ task, agent = .receiver task → host.point task ≠ .resetting → rest = [] := by
      intro task isReceiver notResetting
      exact absurd (inv.resetting_of_program program task isReceiver) notResetting
    -- An instruction that concerns no stop bit is fetched.
    have fetched : (∀ task, instr ≠ .setDeinitialized task) → ∀ initialized, HostInv
        { host with
          bits := { host.bits with initialized := initialized }
          programs := Function.update host.programs agent rest } := by
      intro noStop initialized
      refine inv.reprogram initialized ?_ own
      intro task
      rw [program, List.count_cons_of_ne (noStop task)]
    cases instr with
    | take =>
        cases isHandle : host.receiveTaskHandle with
        | none =>
            simp only [execute, isHandle]
            simpa [isHandle] using fetched (by simp) host.bits.initialized
        | some task =>
            simp only [execute, isHandle]
            exact inv.take program isHandle
    | clearInitialized task => exact fetched (by simp) false
    | setDeinitialized task =>
        obtain ⟨isRequested, isAlive, _, notSeen⟩ :=
          inv.pending task ⟨agent, by rw [program]; exact List.mem_cons_self⟩
        obtain ⟨but, notPending⟩ := inv.fetch program
        exact but.setDeinitialized isRequested isAlive notSeen notPending
    | checkNull =>
        refine inv.reprogram host.bits.initialized ?_ ?_
        · intro task
          rw [program]
          split
          · simp
          · simp
        · intro task isReceiver notResetting
          exact absurd (inv.resetting_of_program program task isReceiver) notResetting
    | clearAll =>
        have cleared := (fetched (by simp) host.bits.initialized).clearAll
          (inOrder.1 (.inl isHead))
        exact cleared
    | setInitialized =>
        have set := fetched (by simp) true
        have quiet : ({ host.bits with initialized := true } : Bits).ready = false ∨
            ∀ task, host.point task ≠ .blocked := by
          by_cases isReady : host.bits.ready = false
          · exact .inl isReady
          · exact .inr fun task isBlocked => isReady (inv.blocked task isBlocked)
        have unwoken := @setBits_eq
            { host with programs := Function.update host.programs agent rest }
          _ quiet
        show HostInv (setBits _ _)
        rw [unwoken]
        exact set
    | create =>
        have created := (fetched (by simp) host.bits.initialized).create
          (inOrder.1 (.inr isHead)) (inOrder.2 isHead)
        exact created

/-! ## The loop of the task -/

/-- The last task goes on to a point behind no wait. -/
theorem HostInv.moveTask (inv : HostInv host) {task : Nat} {new : Task}
    (isAlive : host.alive task = true)
    (notWoken : ∀ interrupt, host.point task ≠ .woken interrupt true)
    (newAlive : new.alive = true) (newWoken : ∀ interrupt, new.point ≠ .woken interrupt true)
    (newBlocked : new.point = .blocked → host.bits.ready = false)
    (own : new.point ≠ .resetting → host.programs (.receiver task) = []) :
    HostInv (host.setTask task new) := by
  have isPoint : (host.setTask task new).point task = new.point := point_setTask_self new
  have alives : ∀ other, (host.setTask task new).alive other = host.alive other :=
    alive_setTask isAlive newAlive
  constructor
  case fresh => exact fun other beyond => inv.fresh_setTask isAlive new beyond
  case last => exact fun other otherAlive => inv.last other ((alives other).symm.trans otherAlive)
  case handle =>
    intro other
    refine (inv.handle other).trans (and_congr_left fun _ => ?_)
    exact Bool.coe_iff_coe.mpr (alives other).symm
  case pending =>
    intro other isPending
    obtain ⟨isRequested, otherAlive, isClear, notSeen⟩ := inv.pending other isPending
    refine ⟨isRequested, (alives other).trans otherAlive, isClear, ?_⟩
    obtain rfl := inv.eq_of_alive isAlive otherAlive
    intro interrupt
    rw [isPoint]
    exact newWoken interrupt
  case once => exact inv.once
  case single => exact inv.single
  case bit =>
    intro isSet
    obtain ⟨other, otherAlive, isRequested, _⟩ := inv.bit isSet
    refine ⟨other, (alives other).trans otherAlive, isRequested, ?_⟩
    obtain rfl := inv.eq_of_alive isAlive otherAlive
    intro interrupt
    rw [isPoint]
    exact newWoken interrupt
  case seen =>
    intro other interrupt isWoken
    by_cases same : other = task
    · subst same
      exact absurd (isPoint.symm.trans isWoken) (newWoken interrupt)
    · exact inv.seen other interrupt ((point_setTask_of_ne new same).symm.trans isWoken)
  case stopped =>
    intro other _ isRequested otherAlive notPending
    have wasAlive := (alives other).symm.trans otherAlive
    obtain rfl := inv.eq_of_alive isAlive wasAlive
    rcases inv.stopped other (by simp) isRequested wasAlive notPending with isSet | ⟨i, isWoken⟩
    · exact .inl isSet
    · exact absurd isWoken (notWoken i)
  case blocked =>
    intro other isBlocked
    by_cases same : other = task
    · subst same
      exact newBlocked (isPoint.symm.trans isBlocked)
    · exact inv.blocked other ((point_setTask_of_ne new same).symm.trans isBlocked)
  case own => exact fun other => inv.own_setTask own
  case noFaults => exact inv.noFaults

theorem alive_of_point {task : Nat} {point : Point} (at_ : host.point task = point)
    (notAbsent : point ≠ .absent) (notDeleted : point ≠ .deleted) : host.alive task = true := by
  have same : (host.tasks task).point = point := at_
  simp [alive, Task.alive, same, notAbsent, notDeleted]

theorem HostInv.wait (inv : HostInv host) {task : Nat} (inOrder : host.InOrder (.wait task))
    (step : host.nextWait task = some target) : HostInv target := by
  unfold nextWait at step
  split at step
  · rename_i isLooping
    have isAlive := alive_of_point isLooping (by simp) (by simp)
    split at step
    · rename_i isReady
      cases step
      have asked : host.requested task = host.bits.deinitialized := by
        cases isSet : host.bits.deinitialized with
        | true =>
            obtain ⟨other, otherAlive, isRequested, _⟩ := inv.bit isSet
            obtain rfl := inv.eq_of_alive isAlive otherAlive
            exact isRequested
        | false =>
            rw [Bits.ready, isSet, Bool.or_false] at isReady
            refine Bool.eq_false_iff.mpr fun isRequested => ?_
            rw [inOrder isRequested isReady] at isSet
            cases isSet
      have notPending : ¬ host.Pending task := by
        intro isPending
        obtain ⟨isRequested, _, isClear, _⟩ := inv.pending task isPending
        rw [← asked, isRequested] at isClear
        cases isClear
      have noFault : host.faultsAt task host.bits.deinitialized = host.faults := by
        simp [faultsAt, asked]
      rw [noFault]
      exact inv.wake isAlive (by simp [isLooping]) _ _ _ rfl asked notPending
    · rename_i notReady
      cases step
      refine inv.moveTask isAlive (by simp [isLooping]) rfl (by simp) ?_ ?_
      · exact fun _ => Bool.eq_false_iff.mpr notReady
      · exact fun _ => inv.own task (by simp [isLooping])
  · cases step

theorem HostInv.timeout (inv : HostInv host) {task : Nat} (inOrder : host.InOrder (.timeout task))
    (step : host.nextTimeout task = some target) : HostInv target := by
  have notRequested : host.requested task = false := inOrder
  unfold nextTimeout at step
  split at step
  · rename_i gaveUp
    cases step
    have notPending : ¬ host.Pending task := by
      intro isPending
      rw [(inv.pending task isPending).1] at notRequested
      cases notRequested
    have noFault : host.faultsAt task false = host.faults := by
      simp [faultsAt, notRequested]
    rw [noFault]
    exact inv.wake (alive_of_blocked gaveUp.1) (by simp [gaveUp.1]) true false host.bits
      (inv.blocked task gaveUp.1) notRequested notPending
  · cases step

/-- The task that has seen its stop bit ends. -/
theorem HostInv.delete (inv : HostInv host) {task : Nat} {interrupt : Bool}
    (isWoken : host.point task = .woken interrupt true) : HostInv (host.move task .deleted) := by
  obtain ⟨isRequested, isClear⟩ := inv.seen task interrupt isWoken
  have isAlive := alive_of_point isWoken (by simp) (by simp)
  have dead : ∀ other, (host.move task .deleted).alive other ≠ true := by
    intro other otherAlive
    by_cases same : other = task
    · subst same
      simp [alive, move, setTask, Task.alive] at otherAlive
    · have wasAlive : host.alive other = true := by
        simpa [alive, move, setTask, same] using otherAlive
      exact same (inv.eq_of_alive isAlive wasAlive)
  have notPending : ∀ other, ¬ host.Pending other := by
    intro other isPending
    obtain ⟨_, otherAlive, _, notSeen⟩ := inv.pending other isPending
    obtain rfl := inv.eq_of_alive isAlive otherAlive
    exact notSeen interrupt isWoken
  constructor
  case fresh => exact fun other beyond => inv.fresh_setTask isAlive _ beyond
  case last => exact fun other otherAlive => absurd otherAlive (dead other)
  case handle =>
    intro other
    refine iff_of_false ?_ fun isHandle => dead other isHandle.1
    intro isHandle
    obtain ⟨otherAlive, notRequested⟩ := (inv.handle other).mp isHandle
    obtain rfl := inv.eq_of_alive isAlive otherAlive
    exact absurd (isRequested.symm.trans notRequested) (by simp)
  case pending => exact fun other isPending => absurd isPending (notPending other)
  case once => exact inv.once
  case single => exact inv.single
  case bit =>
    intro isSet
    exact absurd (isClear.symm.trans isSet) (by simp)
  case seen =>
    intro other i otherWoken
    exact absurd (alive_of_point otherWoken (by simp) (by simp)) (dead other)
  case stopped => exact fun other _ _ otherAlive _ => absurd otherAlive (dead other)
  case blocked => exact fun other isBlocked => absurd (alive_of_blocked isBlocked) (dead other)
  case own => exact fun other => inv.own_setTask fun _ => inv.own task (by simp [isWoken])
  case noFaults => exact inv.noFaults

theorem HostInv.go (inv : HostInv host) {task : Nat} (step : host.nextGo task = some target) :
    HostInv target := by
  unfold nextGo at step
  split at step
  · rename_i interrupt deinitialized isWoken
    cases step
    have isAlive := alive_of_point isWoken (by simp) (by simp)
    have none_ := inv.own task (by simp [isWoken])
    cases deinitialized with
    | true => exact inv.delete isWoken
    | false =>
        cases interrupt with
        | true =>
            exact inv.moveTask isAlive (by simp [isWoken]) rfl (by simp) (by simp) fun _ => none_
        | false =>
            exact inv.moveTask isAlive (by simp [isWoken]) rfl (by simp) (by simp) fun _ => none_
  · rename_i isResetting
    split at step
    · rename_i none_
      cases step
      exact inv.moveTask (alive_of_point isResetting (by simp) (by simp))
        (by simp [isResetting]) rfl
        (by simp) (by simp) fun _ => none_
    · cases step
  · cases step

theorem count_slWfxHostReset (attempts task : Nat) :
    (slWfxHostReset attempts).count (.setDeinitialized task) = 0 := by
  simp [slWfxHostReset, slWfxHostTaskStop, slWfxHostTaskStart, List.count_eq_zero]

theorem HostInv.reset (inv : HostInv host) {task : Nat} (isReceiving : host.point task = .receiving)
    (errorCount attempts : Nat) : HostInv (host.reset task errorCount attempts) := by
  have none_ := inv.own task (by simp [isReceiving])
  have moved : HostInv (host.setTask task ⟨.resetting, false, errorCount⟩) :=
    inv.moveTask (alive_of_point isReceiving (by simp) (by simp)) (by simp [isReceiving]) rfl
      (by simp) (by simp) fun _ => none_
  refine moved.reprogram host.bits.initialized ?_ ?_
  · intro stop
    rw [count_slWfxHostReset]
    show 0 = (host.programs (.receiver task)).count _
    rw [none_, List.count_nil]
  · intro other isReceiver notResetting
    obtain rfl := Agent.receiver.inj isReceiver
    simp [setTask, point] at notResetting

theorem HostInv.frames (inv : HostInv host) {task : Nat} {outcome : Outcome}
    (step : host.nextFrames task outcome = some target) : HostInv target := by
  simp only [nextFrames] at step
  split at step
  · rename_i isReceiving
    have isAlive := alive_of_point isReceiving (by simp) (by simp)
    have none_ := inv.own task (by simp [isReceiving])
    have looping : ∀ timed errorCount, HostInv (host.setTask task ⟨.looping, timed, errorCount⟩) :=
      fun _ _ => inv.moveTask isAlive (by simp [isReceiving]) rfl (by simp) (by simp) fun _ => none_
    split at step
    · cases step
      exact looping false 0
    · split at step
      · cases step
        exact inv.reset isReceiving _ _
      · cases step
        exact looping true _
    · cases step
      exact inv.reset isReceiving _ _
  · cases step

theorem HostInv.interrupt (inv : HostInv host) {task : Nat}
    (isHandle : host.receiveTaskHandle = some task) :
    HostInv (host.setBits { host.bits with interrupt := true }) := by
  obtain ⟨isAlive, notRequested⟩ := (inv.handle task).mp isHandle
  have isClear : host.bits.deinitialized = false := by
    refine Bool.eq_false_iff.mpr fun isSet => ?_
    obtain ⟨other, otherAlive, isRequested, _⟩ := inv.bit isSet
    obtain rfl := inv.eq_of_alive isAlive otherAlive
    exact absurd (isRequested.symm.trans notRequested) (by simp)
  by_cases isBlocked : host.point task = .blocked
  · have woken := @HostInvBut.setBits_blocked host none inv task
      { host.bits with interrupt := true }
      isBlocked rfl (notRequested.trans isClear.symm)
    rw [woken]
    refine inv.wake isAlive (by simp [isBlocked]) _ _ _ rfl (notRequested.trans isClear.symm) ?_
    intro isPending
    exact absurd ((inv.pending task isPending).1.symm.trans notRequested) (by simp)
  · have nobody : ∀ other, host.point other ≠ .blocked := by
      intro other otherBlocked
      obtain rfl := inv.eq_of_alive isAlive (alive_of_blocked otherBlocked)
      exact isBlocked otherBlocked
    rw [setBits_eq (.inr nobody)]
    constructor
    case fresh => exact inv.fresh
    case last => exact inv.last
    case handle => exact inv.handle
    case pending => exact inv.pending
    case once => exact inv.once
    case single => exact inv.single
    case bit => exact inv.bit
    case seen => exact inv.seen
    case stopped => exact inv.stopped
    case blocked => exact fun other otherBlocked => absurd otherBlocked (nobody other)
    case own => exact inv.own
    case noFaults => exact inv.noFaults

theorem HostInv.next {label : Label} (inv : HostInv host) (inOrder : host.InOrder label)
    (step : Host.next host label = some target) : HostInv target := by
  unfold Host.next at step
  split at step
  · exact inv.call (fun _ => rfl) step
  · exact inv.call (fun _ => rfl) step
  · rename_i started
    refine inv.call (fun task => ?_) step
    cases started with
    | false => rfl
    | true => rfl
  · exact inv.instr inOrder step
  · exact inv.wait inOrder step
  · exact inv.timeout inOrder step
  · exact inv.go step
  · exact inv.frames step
  · split at step
    · cases step
      exact inv
    · rename_i hasHandle
      cases step
      obtain ⟨task, isHandle⟩ := Option.ne_none_iff_exists'.mp hasHandle
      exact inv.interrupt isHandle

/-- In every run in which the stops and starts are in order, every stop request is seen by
its task and by no other, and there is one receive task at most that is not asked to stop. -/
theorem good_of_inOrder (reachable : GuardedReachable Host.next InOrder begin_ host) : Good host :=
  (reachable.invariant hostInv_begin fun _ _ _ inv inOrder step => inv.next inOrder step).good

/-- The task is started and waits, is stopped, ends, and another one is started. -/
def startStopStart : List Label :=
  .start 0 :: List.replicate 4 (.instr (.app 0)) ++ [.wait 0, .stop 0] ++
    List.replicate 3 (.instr (.app 0)) ++ .go 0 :: .start 1 :: List.replicate 4 (.instr (.app 1))

def afterStartStopStart : Host :=
  (run next begin_ startStopStart).get (by decide)

theorem startStopStart_good : Good afterStartStopStart := by
  have inOrder : StepsMeet next begin_ startStopStart InOrder := by decide
  exact good_of_inOrder (inOrder.guardedReachable (List.prefix_refl _) (Option.some_get _).symm)

/-- The task is started and receives a frame while `WIFI_Off` runs. -/
def offWhileReceiving : List Label :=
  .start 0 :: List.replicate 4 (.instr (.app 0)) ++ [.interrupt, .wait 0, .go 0, .off 0 true] ++
    List.replicate 4 (.instr (.app 0)) ++ [.frames 0 .ok, .wait 0]

/-- The stop bit is gone when the task waits again. -/
theorem offWhileReceiving_lost :
    ∃ host, Reachable next begin_ host ∧ host.faults.lost = true ∧
      host.requested 0 = true ∧ host.point 0 = .blocked ∧ ¬ Good host := by
  refine ⟨(run next begin_ offWhileReceiving).get (by decide),
    reachable_of_run (Option.some_get _).symm, by decide, by decide, by decide, ?_⟩
  intro good
  have noFaults := congrArg Faults.lost good.noFaults
  revert noFaults
  decide

end Host

end FwkRtos.SlWfx.ReceiveTask
