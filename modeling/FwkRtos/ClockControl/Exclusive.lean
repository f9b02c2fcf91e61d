import FwkRtos.ClockControl.LocalLock

/-!
# Who holds the local lock

While an RPC thread executes no request, it holds the lock as writer exactly for one
task of its tile.  A request that it receives is then a proper call of the lock, so
what is known of the writer-preferred lock carries over to the tasks of the client
tiles.
-/

namespace FwkRtos.ClockControl

open FwkRtos.Osal
open FwkRtos.Transition
open FwkRtos.MrswLock
open FwkRtos.MrswLock.WriterPreferred

universe u v

/-- Where an RPC thread is while it executes a request. -/
inductive Executes : Fcode → Point → Prop
  | get {timeout : Timeout} {point : WriterGetPoint} :
      Executes .getLocalLock (.writerGet timeout point)
  | granted {last : Option (ApiFunction × RtosOsalStatus)} :
      Executes .getLocalLock (.idle (some .writer) last)
  | put {point : WriterPutPoint} : Executes .releaseLocalLock (.writerPut point)
  | released {last : Option (ApiFunction × RtosOsalStatus)} :
      Executes .releaseLocalLock (.idle none last)

theorem Executes.wake {fcode : Fcode} {point : Point} (executes : Executes fcode point) :
    Executes fcode point.wake := by
  cases executes with
  | get =>
      unfold Point.wake
      split
      case h_1 impossible => cases impossible
      all_goals exact .get
  | granted => exact .granted
  | put => exact .put
  | released => exact .released

theorem Executes.entry (fcode : Fcode) :
    Executes fcode (WriterPreferred.Call.entry (rpcHost fcode)) := by
  cases fcode with
  | getLocalLock => exact .get
  | releaseLocalLock => exact .put

/-- The thread runs on: with unbounded timeouts a get ends only when it is granted. -/
theorem Executes.run {T : Type u} [DecidableEq T] {thread : T} {lock : WritePrefMrswLock T}
    {effect : LockEffect T} {fcode : Fcode} {point : Point} (executes : Executes fcode point)
    (patient : point.Patient) (step : taskStep thread .run lock point = some effect) :
    Executes fcode effect.own := by
  cases executes with
  | granted => cases step
  | released => cases step
  | @get timeout point =>
      cases point with
      | giveUpUnlock => exact absurd rfl patient.2.2.2.2
      | grantedUnlock | takeUnlock =>
          cases step
          exact .granted
      | blocked => cases step
      | lock | takeLock | giveUpLock =>
          rcases Option.map_eq_some_iff.mp step with ⟨mutex, -, rfl⟩
          exact .get
      | check =>
          simp only [taskStep, mrswLockWriterGet] at step
          split at step <;> cases step <;> exact .get
      | wait =>
          simp only [taskStep, mrswLockWriterGet, Option.some.injEq] at step
          subst step
          dsimp only
          split <;> exact .get
      | expired => exact absurd rfl patient.2.1
      | unlock | take | giveUp =>
          cases step
          exact .get
  | @put point =>
      cases point with
      | lock =>
          rcases Option.map_eq_some_iff.mp step with ⟨mutex, -, rfl⟩
          exact .put
      | release | setBits =>
          cases step
          exact .put
      | unlock =>
          cases step
          exact .released

namespace System

variable {T : Type u} {Client : Type v} [TaskSet T] [DecidableEq Client]
  {deployment : Deployment T Client} {system : System T Client}

/-- The requests that were sent to an RPC thread and are not answered. -/
def pending (system : System T Client) (thread : T) : List (Request Client) :=
  (system.rpcMsg thread).toList ++ system.requests thread

/-- No task of the tile holds the lock. -/
def Unheld (deployment : Deployment T Client) (system : System T Client) (thread : T) : Prop :=
  ∀ client, deployment.rpcThread client = thread → system.holdsLock deployment client = false

/-- An RPC thread that executes no request holds the lock for a task, or not at all. -/
inductive Waits (deployment : Deployment T Client) (system : System T Client) (thread : T) : Prop
  | holding {client : Client} {last : Option (ApiFunction × RtosOsalStatus)}
      (served : deployment.rpcThread client = thread)
      (holds : system.holdsLock deployment client = true)
      (point : system.localLock.task thread = .idle (some .writer) last)
  | free {last : Option (ApiFunction × RtosOsalStatus)}
      (unheld : Unheld deployment system thread)
      (point : system.localLock.task thread = .idle none last)

/-- What the RPC threads and their requests mean for the lock. -/
structure Inv (deployment : Deployment T Client) (system : System T Client) : Prop where
  exclusion : ExclusionInv system.localLock
  patient : ∀ thread, (system.localLock.task thread).Patient
  distinct : ∀ thread, ((system.pending thread).map Request.client).Nodup
  called : ∀ thread, ∀ request ∈ system.pending thread,
    deployment.rpcThread request.client = thread ∧
      system.client request.client = .called request.fcode
  waits : ∀ thread, deployment.isRpcThread thread = true → system.rpcMsg thread = none →
    Waits deployment system thread
  executes : ∀ thread request, system.rpcMsg thread = some request →
    Executes request.fcode (system.localLock.task thread) ∧ Unheld deployment system thread
  oneOfTile : ∀ first second, deployment.rpcThread first = deployment.rpcThread second →
    system.holdsLock deployment first = true → system.holdsLock deployment second = true →
    first = second

omit [TaskSet T] [DecidableEq Client] in
theorem mem_pending_of_rpcMsg {thread : T} {request : Request Client}
    (executing : system.rpcMsg thread = some request) : request ∈ system.pending thread := by
  simp [pending, executing]

theorem inv_start : Inv deployment (start : System T Client) where
  exclusion := exclusionInv_start
  patient := fun _ => trivial
  distinct := fun _ => List.nodup_nil
  called := fun _ _ isMember => by cases isMember
  waits := fun _ _ _ => .free (fun _ _ => rfl) rfl
  executes := fun _ _ executing => by cases executing
  oneOfTile := fun _ _ _ holds => by cases holds

/-- The task that holds the lock has it through its RPC thread. -/
theorem Inv.writes (inv : Inv deployment system) {client : Client}
    (holds : system.holdsLock deployment client = true) :
    system.rpcMsg (deployment.rpcThread client) = none ∧
      (system.localLock.task (deployment.rpcThread client)).holds .writer = true := by
  have idle : system.rpcMsg (deployment.rpcThread client) = none := by
    by_contra busy
    rcases Option.ne_none_iff_exists'.mp busy with ⟨request, executing⟩
    have unheld := (inv.executes _ request executing).2 client rfl
    rw [holds] at unheld
    cases unheld
  refine ⟨idle, ?_⟩
  cases inv.waits _ (deployment.isRpcThread_rpcThread client) idle with
  | holding _ _ point =>
      rw [point]
      rfl
  | free unheld =>
      have none_ := unheld client rfl
      rw [holds] at none_
      cases none_

theorem Inv.safe (inv : Inv deployment system) : Safe deployment system where
  oneClient := by
    intro first second holdsFirst holdsSecond
    have exclusive : MutuallyExclusive system.localLock :=
      mutuallyExclusive_iff.mpr ⟨inv.exclusion.oneWriter, inv.exclusion.alone⟩
    have same := exclusive.oneWriter _ _ (inv.writes holdsFirst).2 (inv.writes holdsSecond).2
    exact inv.oneOfTile first second same holdsFirst holdsSecond
  noHost := by
    intro client thread holds _
    have exclusive : MutuallyExclusive system.localLock :=
      mutuallyExclusive_iff.mpr ⟨inv.exclusion.oneWriter, inv.exclusion.alone⟩
    exact exclusive.noReader _ thread (inv.writes holds).2
  notBlocked := by
    intro client request holds executing
    rw [(inv.writes holds).1] at executing
    cases executing

/-! ## Steps of the lock -/

omit [TaskSet T] [DecidableEq Client] in
/-- No reader gives up, as all gets wait forever. -/
theorem noReaderGivesUp (patient : ∀ thread, (system.localLock.task thread).Patient)
    (label : WriterPreferred.Label T) : NoReaderGivesUp system.localLock label := by
  rintro thread -
  by_contra decrements
  rcases Point.readerGivesUp_iff.mp (by simpa using decrements) with ⟨timeout, here⟩
  have waiting := patient thread
  rw [here] at waiting
  exact waiting.2.2.2.1 rfl

omit [DecidableEq Client] in
/-- A step of a thread in the lock leaves the lock's own invariants. -/
theorem lock_step (exclusion : ExclusionInv system.localLock)
    (patient : ∀ thread, (system.localLock.task thread).Patient) {thread : T} {event : Event}
    {localLock : WriterPreferred.State T}
    (forever : ∀ role timeout, event = .call (.get role timeout) →
      timeout = rtosOsalPortWaitForever)
    (free : WriterPreferred.TakesWhenFree system.localLock (.task thread event))
    (step : WriterPreferred.next system.localLock (.task thread event) = some localLock) :
    ExclusionInv localLock ∧ ∀ thread, (localLock.task thread).Patient := by
  refine ⟨exclusion.next (noReaderGivesUp patient _) free step, ?_⟩
  rcases next_eq_some_iff.mp step with ⟨_, _, effect, same, local_, rfl⟩
  cases same
  intro any
  by_cases isThread : any = thread
  · subst any
    rw [Tasks.apply_task_self]
    exact (patient thread).own forever local_
  · rw [Tasks.apply_task_of_ne _ isThread]
    rcases taskStep_others local_ with others | others
    · rw [others]
      exact patient any
    · rw [others]
      exact (patient any).wake

/-- A host task calls the lock, or any thread runs on inside it. -/
theorem Inv.lockStep (inv : Inv deployment system) {thread : T} {event : Event}
    {localLock : WriterPreferred.State T}
    (runs : deployment.isRpcThread thread = true → event = .run)
    (forever : ∀ role timeout, event = .call (.get role timeout) →
      timeout = rtosOsalPortWaitForever)
    (free : WriterPreferred.TakesWhenFree system.localLock (.task thread event))
    (step : WriterPreferred.next system.localLock (.task thread event) = some localLock) :
    Inv deployment { system with localLock := localLock } := by
  rcases lock_step inv.exclusion inv.patient forever free step with ⟨exclusion, patient⟩
  rcases next_eq_some_iff.mp step with ⟨_, _, effect, same, local_, rfl⟩
  cases same
  have idleStays : ∀ other held last, deployment.isRpcThread other = true →
      system.localLock.task other = .idle held last →
      (system.localLock.apply thread effect).task other = .idle held last := by
    intro other held last isRpc point
    by_cases isThread : other = thread
    · subst other
      rw [runs isRpc, point] at local_
      cases local_
    · rw [Tasks.apply_task_of_ne _ isThread, point]
      rcases taskStep_others local_ with others | others <;> rw [others] <;> rfl
  constructor
  case exclusion => exact exclusion
  case patient => exact patient
  case distinct => exact inv.distinct
  case called => exact inv.called
  case waits =>
    intro other isRpc idle
    cases inv.waits other isRpc idle with
    | holding served holds point => exact .holding served holds (idleStays _ _ _ isRpc point)
    | free unheld point => exact .free unheld (idleStays _ _ _ isRpc point)
  case executes =>
    intro other request executing
    rcases inv.executes other request executing with ⟨executes, unheld⟩
    refine ⟨?_, unheld⟩
    by_cases isThread : other = thread
    · subst other
      have isRpc : deployment.isRpcThread thread = true := by
        rw [← (inv.called thread request (mem_pending_of_rpcMsg executing)).1]
        exact deployment.isRpcThread_rpcThread _
      rw [runs isRpc] at local_
      show Executes _ ((system.localLock.apply thread effect).task thread)
      rw [Tasks.apply_task_self]
      exact executes.run (inv.patient thread) local_
    · show Executes _ ((system.localLock.apply thread effect).task other)
      rw [Tasks.apply_task_of_ne _ isThread]
      rcases taskStep_others local_ with others | others
      · rw [others]
        exact executes
      · rw [others]
        exact executes.wake
  case oneOfTile => exact inv.oneOfTile

/-! ## Steps of the tasks of the client tiles -/

omit [TaskSet T] in
theorem holdsLock_congr {after : System T Client} {client : Client}
    (sameClient : after.client client = system.client client)
    (sameMsg : after.rpcMsg (deployment.rpcThread client) =
      system.rpcMsg (deployment.rpcThread client)) :
    after.holdsLock deployment client = system.holdsLock deployment client := by
  simp only [holdsLock, sameClient, sameMsg]

/-- A step that leaves the lock, the RPC threads and the holders alone. -/
theorem Inv.sameHolders (inv : Inv deployment system) {after : System T Client}
    (lock : after.localLock = system.localLock) (msgs : after.rpcMsg = system.rpcMsg)
    (holders : ∀ client, after.holdsLock deployment client = system.holdsLock deployment client)
    (distinct : ∀ thread, ((after.pending thread).map Request.client).Nodup)
    (called : ∀ thread, ∀ request ∈ after.pending thread,
      deployment.rpcThread request.client = thread ∧
        after.client request.client = .called request.fcode) :
    Inv deployment after := by
  have unheld : ∀ thread, Unheld deployment system thread → Unheld deployment after thread := by
    intro thread unheld client served
    rw [holders]
    exact unheld client served
  constructor
  case exclusion =>
    rw [lock]
    exact inv.exclusion
  case patient =>
    rw [lock]
    exact inv.patient
  case distinct => exact distinct
  case called => exact called
  case waits =>
    intro thread isRpc idle
    rw [msgs] at idle
    cases inv.waits thread isRpc idle with
    | holding served holds point =>
        exact .holding served ((holders _).trans holds) (by rw [lock]; exact point)
    | free none_ point => exact .free (unheld thread none_) (by rw [lock]; exact point)
  case executes =>
    intro thread request executing
    rw [msgs] at executing
    rcases inv.executes thread request executing with ⟨executes, none_⟩
    rw [lock]
    exact ⟨executes, unheld thread none_⟩
  case oneOfTile =>
    intro first second
    rw [holders, holders]
    exact inv.oneOfTile first second

/-- A task without an unanswered request is in no queue. -/
theorem Inv.ne_of_mem_pending (inv : Inv deployment system) {client : Client}
    (notCalled : ∀ fcode, system.client client ≠ .called fcode) {thread : T}
    {request : Request Client} (isPending : request ∈ system.pending thread) :
    request.client ≠ client := by
  rintro rfl
  exact notCalled _ (inv.called thread request isPending).2

theorem not_called_of_mayCall {point : ClientPoint} {fcode : Fcode}
    (may : mayCall point fcode = true) (other : Fcode) : point ≠ .called other := by
  rintro rfl
  cases fcode <;> cases may

theorem Inv.clientCall (inv : Inv deployment system) {client : Client} {fcode : Fcode}
    (may : mayCall (system.client client) fcode = true) :
    Inv deployment (system.send deployment client fcode) := by
  have fresh : ∀ thread, ∀ request ∈ system.pending thread, request.client ≠ client :=
    fun _ _ isPending => inv.ne_of_mem_pending (not_called_of_mayCall may) isPending
  have queued : ∀ thread, (system.send deployment client fcode).pending thread =
      system.pending thread ++
        if thread = deployment.rpcThread client then [⟨client, fcode⟩] else [] := by
    intro thread
    by_cases mine : thread = deployment.rpcThread client
    · subst mine
      simp [System.pending, send]
    · simp [System.pending, send, mine]
  refine inv.sameHolders rfl rfl ?holders ?distinct ?called
  case holders =>
    intro other
    by_cases isCaller : other = client
    · subst isCaller
      cases fcode with
      | getLocalLock =>
          have idle : system.client other = .idle := by
            unfold mayCall at may
            split at may <;> simp_all
          simp [holdsLock, send, idle]
      | releaseLocalLock =>
          have isLocked : system.client other = .locked := by
            unfold mayCall at may
            split at may <;> simp_all
          have notExecuting : system.rpcMsg (deployment.rpcThread other) ≠
              some ⟨other, .releaseLocalLock⟩ := by
            intro executing
            exact fresh _ _ (mem_pending_of_rpcMsg executing) rfl
          simp [holdsLock, send, isLocked, notExecuting]
    · exact holdsLock_congr (Function.update_of_ne isCaller _ _) rfl
  case distinct =>
    intro thread
    rw [queued]
    split
    · rw [List.map_append]
      refine List.Nodup.append (inv.distinct thread) (List.nodup_singleton _) ?_
      intro other isMember isCaller
      rcases List.mem_map.mp isMember with ⟨request, isPending, rfl⟩
      exact fresh thread request isPending (List.mem_singleton.mp isCaller)
    · rw [List.append_nil]
      exact inv.distinct thread
  case called =>
    intro thread request isPending
    rw [queued] at isPending
    rcases List.mem_append.mp isPending with old | new
    · rcases inv.called thread request old with ⟨served, called⟩
      refine ⟨served, ?_⟩
      show Function.update system.client client _ request.client = _
      rw [Function.update_of_ne (fresh thread request old)]
      exact called
    · split at new
      · rename_i mine
        cases List.mem_singleton.mp new
        exact ⟨mine.symm, Function.update_self _ _ _⟩
      · cases new

theorem Inv.clientReturn (inv : Inv deployment system) {client : Client} {fcode : Fcode}
    (answered : system.client client = .answered fcode) :
    Inv deployment
      { system with client := Function.update system.client client (returned fcode) } := by
  have notCalled : ∀ other, system.client client ≠ .called other := by
    rw [answered]
    exact fun _ => nofun
  refine inv.sameHolders rfl rfl ?holders inv.distinct ?called
  case holders =>
    intro other
    by_cases isCaller : other = client
    · subst isCaller
      cases fcode <;> simp [holdsLock, answered, returned]
    · exact holdsLock_congr (Function.update_of_ne isCaller _ _) rfl
  case called =>
    intro thread request isPending
    rcases inv.called thread request isPending with ⟨served, called⟩
    refine ⟨served, ?_⟩
    show Function.update system.client client _ request.client = _
    rw [Function.update_of_ne (inv.ne_of_mem_pending notCalled isPending)]
    exact called

/-! ## Steps of an RPC thread -/

omit [DecidableEq Client] in
/-- A proper call of the lock. -/
theorem enter_step {thread : T} {held : Option Role}
    {last : Option (ApiFunction × RtosOsalStatus)} {call : Call}
    (point : system.localLock.task thread = .idle held last) (proper : call.Proper held) :
    WriterPreferred.next system.localLock (.task thread (.call call)) =
      some (system.enter thread call).localLock := by
  rw [next_eq_some_iff]
  refine ⟨thread, .call call, _, rfl, ?_, rfl⟩
  rw [point]
  exact if_pos proper

theorem Inv.rpcReceive (inv : Inv deployment system) {thread : T} {request : Request Client}
    {requests : List (Request Client)} (idle : system.rpcMsg thread = none)
    (queue : system.requests thread = request :: requests)
    (released : request.fcode = .getLocalLock → Unheld deployment system thread) :
    Inv deployment (system.receive thread request requests) := by
  have isPending : request ∈ system.pending thread := by
    simp [System.pending, idle, queue]
  rcases inv.called thread request isPending with ⟨served, called⟩
  have isRpc : deployment.isRpcThread thread = true := by
    rw [← served]
    exact deployment.isRpcThread_rpcThread _
  -- The thread holds the lock exactly when the request is to release it.
  have proper : ∃ held last, system.localLock.task thread = .idle held last ∧
      (rpcHost request.fcode).Proper held ∧
      (request.fcode = .releaseLocalLock → ∀ other, deployment.rpcThread other = thread →
        system.holdsLock deployment other = true → other = request.client) := by
    cases fcode : request.fcode with
    | getLocalLock =>
        cases inv.waits thread isRpc idle with
        | holding mine holds point =>
            have none_ := released fcode _ mine
            rw [holds] at none_
            cases none_
        | free _ point => exact ⟨none, _, point, rfl, nofun⟩
    | releaseLocalLock =>
        have holds : system.holdsLock deployment request.client = true := by
          simp [holdsLock, called, fcode, served, idle]
        cases inv.waits thread isRpc idle with
        | holding mine _ point =>
            refine ⟨some .writer, _, point, rfl, ?_⟩
            rintro - other isMine also
            exact inv.oneOfTile other request.client (isMine.trans served.symm) also holds
        | free unheld =>
            have none_ := unheld _ served
            rw [holds] at none_
            cases none_
  rcases proper with ⟨held, last, point, isProper, onlyHolder⟩
  have forever : ∀ role timeout, Event.call (rpcHost request.fcode) = .call (.get role timeout) →
      timeout = rtosOsalPortWaitForever := by
    intro role timeout same
    cases fcode : request.fcode <;> rw [fcode] at same <;> cases same
    rfl
  have locked := lock_step inv.exclusion inv.patient forever
    (by rintro task same; cases same) (enter_step point isProper)
  have executing : (system.receive thread request requests).rpcMsg thread = some request :=
    Function.update_self _ _ _
  have notExecuting : ∀ other, other ≠ thread →
      (system.receive thread request requests).rpcMsg other = system.rpcMsg other :=
    fun other different => Function.update_of_ne different _ _
  have others : ∀ other, other ≠ thread →
      (system.enter thread (rpcHost request.fcode)).localLock.task other =
        system.localLock.task other :=
    fun other different => Tasks.apply_task_of_ne _ different _
  have same : ∀ client, deployment.rpcThread client ≠ thread →
      (system.receive thread request requests).holdsLock deployment client =
        system.holdsLock deployment client :=
    fun client different => holdsLock_congr rfl (Function.update_of_ne different _ _)
  have unheld : Unheld deployment (system.receive thread request requests) thread := by
    intro client mine
    have before : system.holdsLock deployment client = true →
        request.fcode = .releaseLocalLock ∧ client = request.client := by
      intro holds
      cases fcode : request.fcode with
      | getLocalLock =>
          have none_ := released fcode client mine
          rw [holds] at none_
          cases none_
      | releaseLocalLock => exact ⟨rfl, onlyHolder fcode client mine holds⟩
    by_contra holds
    rw [Bool.not_eq_false] at holds
    have point : (system.receive thread request requests).client client =
        system.client client := rfl
    simp only [holdsLock, mine, point, executing] at holds
    have held : system.holdsLock deployment client = true := by
      unfold holdsLock
      split at holds <;> simp_all
    rcases before held with ⟨isRelease, rfl⟩
    rw [called, isRelease] at holds
    rcases request with ⟨client, fcode⟩
    cases isRelease
    simp at holds
  have pendingSame : ∀ other,
      (system.receive thread request requests).pending other = system.pending other := by
    intro other
    by_cases mine : other = thread
    · subst mine
      simp [System.pending, receive, idle, queue]
    · simp [System.pending, receive, mine, enter]
  constructor
  case exclusion => exact locked.1
  case patient => exact locked.2
  case distinct =>
    intro other
    rw [pendingSame]
    exact inv.distinct other
  case called =>
    intro other any isMember
    rw [pendingSame] at isMember
    exact inv.called other any isMember
  case waits =>
    intro other otherRpc none_
    by_cases mine : other = thread
    · subst mine
      rw [executing] at none_
      cases none_
    · rw [notExecuting other mine] at none_
      cases inv.waits other otherRpc none_ with
      | holding serves holds point =>
          exact .holding serves ((same _ (by rw [serves]; exact mine)).trans holds)
            ((others other mine).trans point)
      | free unheldThere point =>
          refine .free ?_ ((others other mine).trans point)
          intro client serves
          rw [same client (by rw [serves]; exact mine)]
          exact unheldThere client serves
  case executes =>
    intro other any executes
    by_cases mine : other = thread
    · subst mine
      rw [executing] at executes
      cases executes
      refine ⟨?_, unheld⟩
      simp only [receive, enter, Tasks.apply_task_self]
      exact Executes.entry _
    · rw [notExecuting other mine] at executes
      rcases inv.executes other any executes with ⟨executes, unheldThere⟩
      refine ⟨?_, ?_⟩
      · show Executes _ ((system.enter thread (rpcHost request.fcode)).localLock.task other)
        rw [others other mine]
        exact executes
      · intro client serves
        rw [same client (by rw [serves]; exact mine)]
        exact unheldThere client serves
  case oneOfTile =>
    intro first second tile holdsFirst holdsSecond
    by_cases mine : deployment.rpcThread first = thread
    · rw [unheld first mine] at holdsFirst
      cases holdsFirst
    · rw [same first mine] at holdsFirst
      rw [same second (by rw [← tile]; exact mine)] at holdsSecond
      exact inv.oneOfTile first second tile holdsFirst holdsSecond

/-- A request that is behind the executed one, or goes to another thread, is of another
task. -/
theorem Inv.other_client (inv : Inv deployment system) {thread other : T}
    {request any : Request Client} (executing : system.rpcMsg thread = some request)
    (isPending : any ∈ system.pending other)
    (behind : other = thread → any ∈ system.requests thread) : any.client ≠ request.client := by
  intro same
  by_cases mine : other = thread
  · have distinct := inv.distinct thread
    rw [System.pending, executing, Option.toList_some, List.singleton_append, List.map_cons,
      List.nodup_cons] at distinct
    exact distinct.1 (same ▸ List.mem_map_of_mem (behind mine))
  · have here := (inv.called thread request (mem_pending_of_rpcMsg executing)).1
    have there := (inv.called other any isPending).1
    rw [same, here] at there
    exact mine there.symm

theorem Inv.rpcRespond (inv : Inv deployment system) {thread : T} {request : Request Client}
    (executing : system.rpcMsg thread = some request)
    (isIdle : (system.localLock.task thread).isIdle = true) :
    Inv deployment (system.respond thread request) := by
  have served := (inv.called thread request (mem_pending_of_rpcMsg executing)).1
  rcases inv.executes thread request executing with ⟨executes, unheld⟩
  have notExecuting : ∀ other, other ≠ thread →
      (system.respond thread request).rpcMsg other = system.rpcMsg other :=
    fun other different => Function.update_of_ne different _ _
  have same : ∀ client, client ≠ request.client →
      (system.respond thread request).holdsLock deployment client =
        system.holdsLock deployment client := by
    intro client different
    have sameClient : (system.respond thread request).client client = system.client client :=
      Function.update_of_ne different _ _
    by_cases mine : deployment.rpcThread client = thread
    · have forOther : some request ≠ some ⟨client, .releaseLocalLock⟩ := by
        rintro equal
        cases equal
        exact different rfl
      have none_ : (system.respond thread request).rpcMsg thread = none :=
        Function.update_self _ _ _
      simp [holdsLock, sameClient, mine, executing, none_, forOther]
    · exact holdsLock_congr sameClient (notExecuting _ mine)
  have answered : (system.respond thread request).client request.client =
      .answered request.fcode :=
    Function.update_self _ _ _
  have onlyCaller : ∀ client, deployment.rpcThread client = thread →
      (system.respond thread request).holdsLock deployment client = true →
      client = request.client := by
    intro client mine holds
    by_contra different
    rw [same client different, unheld client mine] at holds
    cases holds
  have pendingAfter : ∀ other, (system.respond thread request).pending other =
      if other = thread then system.requests thread else system.pending other := by
    intro other
    by_cases mine : other = thread
    · subst mine
      simp [System.pending, respond]
    · simp [System.pending, respond, mine]
  have isPending : ∀ other, ∀ any ∈ (system.respond thread request).pending other,
      any ∈ system.pending other ∧ (other = thread → any ∈ system.requests thread) := by
    intro other any isMember
    rw [pendingAfter] at isMember
    split at isMember
    · rename_i mine
      subst mine
      exact ⟨List.mem_append_right _ isMember, fun _ => isMember⟩
    · rename_i mine
      exact ⟨isMember, fun isThread => absurd isThread mine⟩
  constructor
  case exclusion => exact inv.exclusion
  case patient => exact inv.patient
  case distinct =>
    intro other
    rw [pendingAfter]
    split
    · have distinct := inv.distinct thread
      rw [System.pending, List.map_append] at distinct
      exact distinct.of_append_right
    · exact inv.distinct other
  case called =>
    intro other any isMember
    rcases isPending other any isMember with ⟨before, behind⟩
    rcases inv.called other any before with ⟨mine, called⟩
    refine ⟨mine, ?_⟩
    show Function.update system.client request.client _ any.client = _
    rw [Function.update_of_ne (inv.other_client executing before behind)]
    exact called
  case waits =>
    intro other otherRpc none_
    by_cases mine : other = thread
    · subst mine
      generalize isPoint : system.localLock.task other = point at executes isIdle
      generalize isFcode : request.fcode = fcode at executes
      cases executes with
      | get => cases isIdle
      | put => cases isIdle
      | granted =>
          refine .holding served ?_ isPoint
          simp only [holdsLock, answered, isFcode]
      | released =>
          refine .free ?_ isPoint
          intro client mine
          by_contra holds
          rw [Bool.not_eq_false] at holds
          rw [onlyCaller client mine holds] at holds
          simp [holdsLock, answered, isFcode] at holds
    · rw [notExecuting other mine] at none_
      have different : ∀ client, deployment.rpcThread client = other →
          client ≠ request.client := by
        rintro client serves rfl
        exact mine (serves.symm.trans served)
      cases inv.waits other otherRpc none_ with
      | holding serves holds point =>
          exact .holding serves ((same _ (different _ serves)).trans holds) point
      | free unheldThere point =>
          refine .free ?_ point
          intro client serves
          rw [same client (different client serves)]
          exact unheldThere client serves
  case executes =>
    intro other any executesAny
    by_cases mine : other = thread
    · subst mine
      have none_ : (system.respond other request).rpcMsg other = none := Function.update_self _ _ _
      rw [none_] at executesAny
      cases executesAny
    · rw [notExecuting other mine] at executesAny
      rcases inv.executes other any executesAny with ⟨executesThere, unheldThere⟩
      refine ⟨executesThere, ?_⟩
      intro client serves
      have different : client ≠ request.client := by
        rintro rfl
        exact mine (serves.symm.trans served)
      rw [same client different]
      exact unheldThere client serves
  case oneOfTile =>
    intro first second tile holdsFirst holdsSecond
    by_cases mine : deployment.rpcThread first = thread
    · rw [onlyCaller first mine holdsFirst, onlyCaller second (tile ▸ mine) holdsSecond]
    · have different : ∀ client,
        deployment.rpcThread client ≠ thread → client ≠ request.client := by
        rintro client notMine rfl
        exact notMine served
      rw [same first (different first mine)] at holdsFirst
      rw [same second (different second (tile ▸ mine))] at holdsSecond
      exact inv.oneOfTile first second tile holdsFirst holdsSecond

/-! ## Every run -/

theorem Inv.next (inv : Inv deployment system) {label : Label T Client} {target : System T Client}
    (released : TakesUpWhenReleased deployment system label) (free : TakesWhenFree system label)
    (step : next deployment system label = some target) : Inv deployment target := by
  cases label with
  | hostCall thread fcode =>
      simp only [System.next, Option.ite_none_left_eq_some, Option.map_eq_some_iff] at step
      rcases step with ⟨isHost, localLock, step, rfl⟩
      refine inv.lockStep (fun isRpc => absurd isRpc isHost) ?_ ?_ step
      · intro role timeout same
        cases fcode <;> cases same
        rfl
      · rintro task same
        cases same
  | run thread =>
      rcases Option.map_eq_some_iff.mp step with ⟨localLock, runs, rfl⟩
      exact inv.lockStep (fun _ => rfl) (by rintro _ _ ⟨⟩) free runs
  | rpcReceive thread =>
      simp only [System.next] at step
      split at step
      · rename_i request requests idle queue
        cases step
        refine inv.rpcReceive idle queue ?_
        intro isGet
        exact released (by rw [queue, List.head?_cons, Option.map_some, isGet])
      · cases step
  | rpcRespond thread =>
      simp only [System.next] at step
      split at step
      · rename_i request executing
        simp only [Option.ite_none_right_eq_some, Option.some.injEq] at step
        rcases step with ⟨isIdle, rfl⟩
        exact inv.rpcRespond executing isIdle
      · cases step
  | clientCall client fcode =>
      simp only [System.next, Option.ite_none_right_eq_some, Option.some.injEq] at step
      rcases step with ⟨may, rfl⟩
      exact inv.clientCall may
  | clientReturn client =>
      simp only [System.next] at step
      split at step
      · rename_i fcode answered
        cases step
        exact inv.clientReturn answered
      · cases step

/-- In every run in which an RPC thread takes up a get request only when no task of its
tile holds the lock, and in which woken writers find the lock free, the tasks of the client
tiles hold it alone and no holder is stuck behind its own RPC thread. -/
theorem safe_of_takesUpWhenReleased {schedule : List (Label T Client)}
    (released : StepsMeet (next deployment) start schedule (TakesUpWhenReleased deployment))
    (free : StepsMeet (next deployment) start schedule TakesWhenFree) :
    StatesSatisfy (next deployment) start schedule (Safe deployment) := by
  have both : StepsMeet (next deployment) start schedule fun system label =>
      TakesUpWhenReleased deployment system label ∧ TakesWhenFree system label :=
    fun _ _ isPrefix _ _ executed step =>
      ⟨released isPrefix executed step, free isPrefix executed step⟩
  exact both.statesSatisfy inv_start
    (fun _ _ _ inv conditions step => inv.next conditions.1 conditions.2 step)
    fun _ inv => inv.safe

/-- Thread 0 is a host task, thread 1 the RPC thread of a tile with two tasks. -/
def oneTile : Deployment (Fin 2) (Fin 2) where
  isRpcThread thread := thread = 1
  rpcThread := fun _ => 1
  isRpcThread_rpcThread := fun _ => rfl

/-- The RPC thread executes its next request. -/
def serveGet : List (Label (Fin 2) (Fin 2)) :=
  .rpcReceive 1 :: List.replicate 3 (.run 1) ++ [.rpcRespond 1]

/-- The tasks of the tile take the lock one after the other, and the host task reads in
between. -/
def inTurn : List (Label (Fin 2) (Fin 2)) :=
  .clientCall 0 .getLocalLock :: serveGet ++ .clientReturn 0 ::
    .clientCall 0 .releaseLocalLock :: .rpcReceive 1 :: List.replicate 4 (.run 1) ++
    [.rpcRespond 1, .clientReturn 0, .hostCall 0 .getLocalLock] ++ List.replicate 3 (.run 0) ++
    .hostCall 0 .releaseLocalLock :: List.replicate 4 (.run 0) ++
    .clientCall 1 .getLocalLock :: serveGet ++ [.clientReturn 1]

theorem inTurn_safe :
    (run (next oneTile) start inTurn).isSome = true ∧
      StatesSatisfy (next oneTile) start inTurn (Safe oneTile) :=
  ⟨by decide, safe_of_takesUpWhenReleased (by decide) (by decide)⟩

/-- Task 0 of the tile holds the lock when task 1 of the same tile asks for it. -/
def whileHeld : List (Label (Fin 2) (Fin 2)) :=
  .clientCall 0 .getLocalLock :: serveGet ++
    .clientReturn 0 :: .clientCall 1 .getLocalLock :: .rpcReceive 1 :: List.replicate 4 (.run 1)

/-- The RPC thread is blocked for task 1, so it never receives the release request of
task 0. -/
theorem whileHeld_not_safe :
    ¬ ∀ system, Reachable (next oneTile) start system → Safe oneTile system := by
  intro always
  rcases exists_reachable_of_run (next oneTile) start whileHeld
    (fun system => decide (system.holdsLock oneTile 0 = true ∧
      system.rpcMsg 1 = some ⟨1, .getLocalLock⟩ ∧
      (system.localLock.task 1).blocked = true)) (by decide) with ⟨system, reachable, final⟩
  rcases of_decide_eq_true final with ⟨holds, executing, blocked⟩
  have running := (always system reachable).notBlocked 0 _ holds executing (by decide)
  rw [show oneTile.rpcThread 0 = 1 from rfl, blocked] at running
  cases running

end System

end FwkRtos.ClockControl
