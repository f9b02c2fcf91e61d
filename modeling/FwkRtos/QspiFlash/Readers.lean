import FwkRtos.QspiFlash.Order

/-!
# Concurrent readers of the flash

Every read waits for the same binary semaphore, outside the mutex, and takes
whatever completion it finds there.  The readers get their own data as long as
the completions are taken one at a time, each by the reader that asked first.
-/

namespace FwkRtos.QspiFlash

open FwkRtos.Osal
open FwkRtos.Transition

universe u

section

variable {T : Type u}

/-- The reads of a history. -/
def reads (history : List (Entry T)) : List (Entry T) :=
  history.filter Entry.isRead

/-- The reads that were requested and have not returned, the oldest first, as
long as the reads return in the order of their requests. -/
def Flash.openReads (flash : Flash T) : List (Entry T) :=
  (reads flash.sent).drop flash.returned.length

/-- A reader that is released in this step is the one that asked first, and a
read that is completed in this step finds the last completion taken. -/
def ReadersInTurn (state : State T) : Label T → Prop
  | .task t _ => ∀ entry, (state.task t).point = .dataReady entry →
      0 < state.shared.dataReady.count → state.shared.openReads.head? = some entry
  | .system _ => ∀ entry, state.shared.thread = .complete entry → entry.isRead = true →
      state.shared.dataReady.count = 0

/-- A read that has returned was executed, each completion releases one reader,
and once all requests are executed no reader is blocked. -/
structure Served (state : State T) : Prop where
  executed : ∀ entry ∈ state.shared.returned, entry ∈ state.shared.executed
  released : (reads state.shared.executed).length =
    state.shared.returned.length + state.shared.dataReady.count
  once : state.shared.returned.Nodup
  notStuck : state.shared.executed = state.shared.sent → ∀ t entry,
    (state.task t).point = .dataReady entry → 0 < state.shared.dataReady.count

/-- The read that a task waits for or is about to wait for. -/
def Point.awaits : Point T → Option (Entry T)
  | .mutexPut entry => if entry.isRead then some entry else none
  | .dataReady entry => some entry
  | _ => none

theorem Call.awaits_entry (call : Call) : (call.entry : Point T).awaits = none := by
  cases call <;> rfl

/-- What serving the readers rests on. -/
structure ReadersInv (state : State T) : Prop where
  inTurn : state.shared.returned <+: reads state.shared.sent
  released : (reads state.shared.executed).length =
    state.shared.returned.length + state.shared.dataReady.count
  binary : state.shared.dataReady.maxCount = 1 ∧ state.shared.dataReady.count ≤ 1
  awaited : ∀ t entry, (state.task t).point.awaits = some entry →
    entry.task = t ∧ entry ∈ state.shared.openReads

theorem readersInv_start (config : Config) : ReadersInv (start config : State T) where
  inTurn := List.nil_prefix
  released := rfl
  binary := ⟨rfl, Nat.zero_le _⟩
  awaited := nofun

theorem reads_append (first second : List (Entry T)) :
    reads (first ++ second) = reads first ++ reads second :=
  List.filter_append _ _

theorem reads_singleton (entry : Entry T) :
    reads [entry] = if entry.isRead then [entry] else [] := by
  rw [reads, List.filter_singleton, Bool.cond_eq_ite]

/-- The reads that were requested are those that returned and the open ones. -/
theorem ReadersInv.reads_sent {state : State T} (inv : ReadersInv state) :
    reads state.shared.sent = state.shared.returned ++ state.shared.openReads := by
  rw [Flash.openReads, ← List.prefix_iff_eq_append.mp inv.inTurn]
  simp

/-- Requesting a read adds it to the open ones. -/
theorem ReadersInv.openReads_request {source : State T} (inv : ReadersInv source) {entry : Entry T}
    {after : Flash T}
    (sent : after.sent = source.shared.sent ++ [entry])
    (returned : after.returned = source.shared.returned) :
    after.openReads = source.shared.openReads ++ reads [entry] := by
  rw [Flash.openReads, sent, returned, reads_append,
    List.drop_append_of_le_length inv.inTurn.length_le]
  rfl

variable [DecidableEq T] {config : Config} {source : State T} {task : T} {event : Event}
  {effect : FlashEffect T}

/-- What a step of a task does to the reads: it requests one, and is to wait for
it; or it is released; or it does neither. -/
inductive ReadEffect (task : T) (flash : Flash T) (own : TaskState T) (effect : FlashEffect T) :
    Prop
  | request {entry : Entry T} (isOwn : entry.task = task)
      (sent : effect.shared.sent = flash.sent ++ [entry])
      (returned : effect.shared.returned = flash.returned)
      (dataReady : effect.shared.dataReady = flash.dataReady)
      (awaits : effect.own.point.awaits = if entry.isRead then some entry else none)
  | release {entry : Entry T} (point : own.point = .dataReady entry)
      (ready : 0 < flash.dataReady.count)
      (sent : effect.shared.sent = flash.sent)
      (returned : effect.shared.returned = flash.returned ++ [entry])
      (dataReady : effect.shared.dataReady =
        { flash.dataReady with count := flash.dataReady.count - 1 })
      (awaits : effect.own.point.awaits = none)
  | keep (sent : effect.shared.sent = flash.sent)
      (returned : effect.shared.returned = flash.returned)
      (dataReady : effect.shared.dataReady = flash.dataReady)
      (awaits : ∀ entry, effect.own.point.awaits = some entry → own.point.awaits = some entry)

theorem TaskMove.readEffect
    (move : TaskMove config task source.shared (source.task task) event effect) :
    ReadEffect task source.shared (source.task task) effect := by
  cases move with
  | requestQueueSend point room => exact .request rfl rfl rfl rfl rfl
  | dataReady point ready => exact .release point ready rfl rfl rfl rfl
  | @mutexPut entry point =>
      refine .keep rfl rfl rfl fun awaited => ?_
      rw [point, proceed, Point.awaits]
      cases entry.isRead with
      | true => exact id
      | false => rintro ⟨⟩
  | call point proper =>
      refine .keep rfl rfl rfl fun awaited => ?_
      rw [Call.awaits_entry]
      rintro ⟨⟩
  | _ => exact .keep rfl rfl rfl (by rintro _ ⟨⟩)

theorem ReadersInv.apply (inv : ReadersInv source) {target : State T}
    (turn : ∀ entry, (source.task task).point = .dataReady entry →
      0 < source.shared.dataReady.count → source.shared.openReads.head? = some entry)
    (move : TaskMove config task source.shared (source.task task) event effect)
    (shared : target.shared = effect.shared)
    (tasks : target.task = Function.update source.task task effect.own) : ReadersInv target := by
  have executed := move.executed.1
  rw [← shared] at executed
  have effects := move.readEffect
  have taskOf : ∀ t, t ≠ task → target.task t = source.task t := by
    intro t different
    rw [tasks, Function.update_of_ne different]
  have self : target.task task = effect.own := by rw [tasks, Function.update_self]
  cases effects with
  | @request entry isOwn sent returned dataReady awaits =>
      rw [← shared] at sent returned dataReady
      have openReads := inv.openReads_request sent returned
      constructor
      · rw [returned, sent, reads_append]
        exact inv.inTurn.trans (List.prefix_append _ _)
      · rw [executed, returned, dataReady]
        exact inv.released
      · rw [dataReady]
        exact inv.binary
      · intro t other awaited
        rw [openReads]
        by_cases same : t = task
        · subst same
          rw [self, awaits] at awaited
          rw [reads_singleton]
          split at awaited
          · next isRead =>
              obtain rfl := Option.some.inj awaited
              rw [if_pos isRead]
              exact ⟨isOwn, List.mem_append_right _ (List.mem_singleton_self _)⟩
          · cases awaited
        · rw [taskOf t same] at awaited
          obtain ⟨own, isOpen⟩ := inv.awaited t other awaited
          exact ⟨own, List.mem_append_left _ isOpen⟩
  | @release entry point ready sent returned dataReady awaits =>
      rw [← shared] at sent returned dataReady
      -- The reader that is released asked first.
      obtain ⟨rest, openReads⟩ := List.head?_eq_some_iff.mp (turn entry point ready)
      have whole : reads source.shared.sent = source.shared.returned ++ [entry] ++ rest := by
        rw [inv.reads_sent, openReads, List.append_cons]
      have left : target.shared.openReads = rest := by
        rw [Flash.openReads, sent, returned, whole]
        exact List.drop_left
      have own : entry.task = task :=
        (inv.awaited task entry (by rw [point]; rfl)).1
      constructor
      · rw [returned, sent, whole]
        exact List.prefix_append _ _
      · rw [executed, returned, dataReady, inv.released, List.length_append, List.length_singleton]
        simp only
        omega
      · rw [dataReady]
        exact ⟨inv.binary.1, (Nat.sub_le _ _).trans inv.binary.2⟩
      · intro t other awaited
        by_cases same : t = task
        · rw [same, self, awaits] at awaited
          cases awaited
        · rw [taskOf t same] at awaited
          obtain ⟨otherOwn, isOpen⟩ := inv.awaited t other awaited
          rw [openReads] at isOpen
          rw [left]
          rcases List.mem_cons.mp isOpen with rfl | remains
          · exact absurd (otherOwn.symm.trans own) same
          · exact ⟨otherOwn, remains⟩
  | keep sent returned dataReady awaits =>
      rw [← shared] at sent returned dataReady
      have openReads : target.shared.openReads = source.shared.openReads := by
        rw [Flash.openReads, sent, returned]
        rfl
      constructor
      · rw [returned, sent]
        exact inv.inTurn
      · rw [executed, returned, dataReady]
        exact inv.released
      · rw [dataReady]
        exact inv.binary
      · intro t other awaited
        rw [openReads]
        by_cases same : t = task
        · subst same
          rw [self] at awaited
          exact inv.awaited t other (awaits other awaited)
        · rw [taskOf t same] at awaited
          exact inv.awaited t other awaited

omit [DecidableEq T] in
/-- What a step of the thread does to the reads: it completes an operation, or
leaves them alone. -/
theorem ThreadMove.reads {flash after : Flash T} (move : ThreadMove flash after) :
    after.sent = flash.sent ∧ after.returned = flash.returned ∧
      ((after.executed = flash.executed ∧ after.dataReady = flash.dataReady) ∨
        ∃ entry, flash.thread = .complete entry ∧ after.executed = flash.executed ++ [entry] ∧
          after.dataReady = if entry.isRead then flash.dataReady.put?.getD flash.dataReady
            else flash.dataReady) := by
  cases move with
  | complete point => exact ⟨rfl, rfl, .inr ⟨_, point, rfl, rfl⟩⟩
  | _ => exact ⟨rfl, rfl, .inl ⟨rfl, rfl⟩⟩

theorem ReadersInv.next {target : State T} {label : Label T} (inv : ReadersInv source)
    (turn : ReadersInTurn source label)
    (step : QspiFlash.next config source label = some target) : ReadersInv target := by
  rcases next_cases step with ⟨task, event, effect, rfl, move, shared, tasks⟩ |
    ⟨event, rfl, move, tasks⟩
  · exact inv.apply turn move shared tasks
  · obtain ⟨sent, returned, ⟨executed, dataReady⟩ | ⟨entry, point, executed, dataReady⟩⟩ :=
      move.reads
    · refine ⟨?_, ?_, ?_, ?_⟩
      · rw [sent, returned]
        exact inv.inTurn
      · rw [executed, returned, dataReady]
        exact inv.released
      · rw [dataReady]
        exact inv.binary
      · rw [tasks, Flash.openReads, sent, returned]
        exact inv.awaited
    · have released := inv.released
      refine ⟨?_, ?_, ?_, ?_⟩
      · rw [sent, returned]
        exact inv.inTurn
      · rw [executed, returned, dataReady, reads_append, reads_singleton, List.length_append,
          released]
        split
        · next isRead =>
            -- The semaphore is empty, so the put counts.
            have taken := turn entry point isRead
            have room : source.shared.dataReady.count < source.shared.dataReady.maxCount := by
              rw [taken, inv.binary.1]
              exact Nat.one_pos
            rw [Semaphore.put?, if_pos room]
            rfl
        · rfl
      · rw [dataReady]
        split
        · next isRead =>
            have taken := turn entry point isRead
            have room : source.shared.dataReady.count < source.shared.dataReady.maxCount := by
              rw [taken, inv.binary.1]
              exact Nat.one_pos
            rw [Semaphore.put?, if_pos room]
            exact ⟨inv.binary.1, by rw [Option.getD_some, taken]⟩
        · exact inv.binary
      · rw [tasks, Flash.openReads, sent, returned]
        exact inv.awaited

/-- No operation is queued twice. -/
theorem OrderInv.nodup {state : State T} (inv : OrderInv state) : state.shared.sent.Nodup := by
  rw [List.nodup_iff_count_le_one]
  intro entry
  have once : (numbers entry.task state.shared.sent).Nodup := by
    rw [inv.numbered]
    exact List.nodup_range
  calc
    state.shared.sent.count entry =
        (state.shared.sent.filter fun other => decide (other.task = entry.task)).count entry := by
      rw [List.count_filter]
      exact decide_eq_true rfl
    _ ≤ (numbers entry.task state.shared.sent).count entry.number := List.count_le_count_map
    _ ≤ 1 := List.nodup_iff_count_le_one.mp once _

theorem ReadersInv.served {state : State T} (inv : ReadersInv state) (order : OrderInv state) :
    Served state := by
  have executed : reads state.shared.executed <+: reads state.shared.sent := by
    rw [order.fifo, reads_append]
    exact List.prefix_append _ _
  have returned : state.shared.returned <+: reads state.shared.executed := by
    apply List.prefix_of_prefix_length_le inv.inTurn executed
    rw [inv.released]
    exact Nat.le_add_right _ _
  constructor
  · intro entry member
    exact List.mem_of_mem_filter (returned.subset member)
  · exact inv.released
  · exact (order.nodup.filter _).sublist inv.inTurn.sublist
  · intro all t entry point
    by_contra empty
    have released := inv.released
    rw [Nat.eq_zero_of_not_pos empty, all, inv.reads_sent, List.length_append] at released
    have isOpen := (inv.awaited t entry (by rw [point]; rfl)).2
    have positive := List.length_pos_of_mem isOpen
    omega

/-- In every run in which the completions are taken one at a time, each by the
reader that asked first, every read gets its own data. -/
theorem served_of_readersInTurn {schedule : List (Label T)}
    (inTurn : StepsMeet (next config) (start config) schedule ReadersInTurn) :
    StatesSatisfy (next config) (start config) schedule Served := by
  have both : StatesSatisfy (next config) (start config) schedule
      ReadersInv :=
    inTurn.statesSatisfy (readersInv_start config)
      (fun _ _ _ inv turn step => inv.next turn step) fun _ inv => inv
  intro before isPrefix state executed
  exact (both isPrefix executed).served (orderInv_of_reachable (reachable_of_run executed))

end

/-! ## Two readers -/

instance {T : Type u} {point : Point T} {P : Entry T → Prop} [DecidablePred P] :
    Decidable (∀ entry, point = .dataReady entry → P entry) :=
  match point with
  | .dataReady entry => decidable_of_iff (P entry) (by simp)
  | .idle _ | .lock _ | .unlock _ | .request _ _ | .mutexPut _ | .lowLevelRead _ _ | .setup _
  | .shutdown _ => .isTrue (by simp)

instance {T : Type u} {thread : ThreadPoint T} {P : Entry T → Prop} [DecidablePred P] :
    Decidable (∀ entry, thread = .complete entry → P entry) :=
  match thread with
  | .complete entry => decidable_of_iff (P entry) (by simp)
  | .receive | .llClear | .llSuspend | .suspended | .prioritySet _ | .switch _ | .ports _ _
  | .connectRetry _ _ _ | .operate _ _ _ | .record _ | .priorityReset | .assertionFailed _ =>
      .isTrue (by simp)

instance {T : Type u} [DecidableEq T] (state : State T) :
    (label : Label T) → Decidable (ReadersInTurn state label)
  | .task t _ => inferInstanceAs (Decidable (∀ entry, (state.task t).point = .dataReady entry →
      0 < state.shared.dataReady.count → state.shared.openReads.head? = some entry))
  | .system _ => inferInstanceAs (Decidable (∀ entry, state.shared.thread = .complete entry →
      entry.isRead = true → state.shared.dataReady.count = 0))

/-- A task asks for four bytes and is about to wait for them. -/
def askForData (reader : Fin 2) : List (Label (Fin 2)) :=
  moves ((reader, .call (.read 0 0x100 4) 1) :: List.replicate 4 (reader, .run))

/-- The thread reads them with the ports connected anew, up to its completion. -/
def threadReads : List (Label (Fin 2)) :=
  List.replicate 9 (.system .run)

/-- Both tasks wait before the thread begins; the first to have asked is the
first to be released. -/
def firstReaderFirst : List (Label (Fin 2)) :=
  askForData 0 ++ askForData 1 ++ threadReads ++ moves [(0, .run)] ++
    List.replicate 10 (.system .run) ++ moves [(1, .run)]

theorem firstReaderFirst_served :
    (run (next smallFlash) (start smallFlash) firstReaderFirst).map
        (fun state => state.shared.returned.map Entry.task) = some [0, 1] ∧
      StatesSatisfy (next smallFlash) (start smallFlash) firstReaderFirst Served :=
  ⟨by decide, served_of_readersInTurn (by decide)⟩

/-- The completion of the first read goes to the second reader. -/
def secondReaderFirst : List (Label (Fin 2)) :=
  askForData 0 ++ askForData 1 ++ threadReads ++ moves [(1, .run)]

/-- Task 1 returns from its read before that was executed. -/
theorem secondReaderFirst_not_served :
    ¬ ∀ state : State (Fin 2), Reachable (next smallFlash) (start smallFlash) state →
      Served state := by
  intro always
  obtain ⟨state, reachable, final⟩ := exists_reachable_of_run (next smallFlash) (start smallFlash)
    secondReaderFirst (fun state => decide (state.shared.returned.map Entry.task = [1] ∧
      state.shared.executed.map Entry.task = [0])) (by decide)
  obtain ⟨returned, executed⟩ := of_decide_eq_true final
  have member : (1 : Fin 2) ∈ state.shared.returned.map Entry.task := by
    rw [returned]
    exact List.mem_singleton_self _
  obtain ⟨entry, isReturned, task⟩ := List.mem_map.mp member
  have isExecuted := List.mem_map_of_mem (f := Entry.task)
    ((always state reachable).executed entry isReturned)
  rw [executed, task] at isExecuted
  exact absurd isExecuted (by decide)

end FwkRtos.QspiFlash
