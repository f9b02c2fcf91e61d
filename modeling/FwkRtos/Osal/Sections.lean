import FwkRtos.Osal
import FwkRtos.Transition.AtomicCalls
import FwkRtos.Transition.Labelled

/-!
# Calls in a section of a recursive mutex

Tasks call functions that use one device.  A function that takes a recursive mutex first, does
everything with the device while it has it, and puts it last, takes effect as if it ran
alone, whatever sections it nests inside.
-/

namespace FwkRtos.Osal.Sections

open FwkRtos.Transition

universe u v w

/-- What is left of a function: its result, or a step and what comes behind. -/
inductive Prog (op : Type u) (resp : Type v) (res : Type w)
  | ret (result : res)
  | get (next : Prog op resp res)
  | put (next : Prog op resp res)
  | act (operation : op) (next : resp → Prog op resp res)

section

variable {op : Type u} {resp : Type v} {res : Type w} {σ : Type*}

namespace Prog

/-- The function when no other task does anything. -/
def alone (device : Object σ op resp) : Prog op resp res → σ → res × σ
  | .ret result, state => (result, state)
  | .get next, state | .put next, state => alone device next state
  | .act operation next, state =>
      alone device (next (device state operation).1) (device state operation).2

/-- What is left of a function, and the device, after a part of it was run alone. -/
inductive Reaches (device : Object σ op resp) (whole : Prog op resp res) (state : σ) :
    Prog op resp res → σ → Prop
  | refl : Reaches device whole state whole state
  | get {next : Prog op resp res} {now : σ} :
      Reaches device whole state (.get next) now → Reaches device whole state next now
  | put {next : Prog op resp res} {now : σ} :
      Reaches device whole state (.put next) now → Reaches device whole state next now
  | act {operation : op} {next : resp → Prog op resp res} {now : σ} :
      Reaches device whole state (.act operation next) now →
      Reaches device whole state (next (device now operation).1) (device now operation).2

theorem Reaches.alone_eq {device : Object σ op resp} {whole rest : Prog op resp res}
    {state now : σ} (reaches : Reaches device whole state rest now) :
    rest.alone device now = whole.alone device state := by
  induction reaches with
  | refl => rfl
  | get _ ih | put _ ih | act _ ih => exact ih

/-- The rest of a function that has the mutex so many times: it puts the mutex last. -/
def Inside : Nat → Prog op resp res → Prop
  | 0, .ret _ => True
  | depth + 1, .get next => Inside (depth + 2) next
  | depth + 1, .put next => Inside depth next
  | depth + 1, .act _ next => ∀ response, Inside (depth + 1) (next response)
  | _, _ => False

/-- The function takes the mutex first. -/
def Bracketed : Prog op resp res → Prop
  | .get next => Inside 1 next
  | .ret _ | .put _ | .act _ _ => False

end Prog

end

/-- Tasks that call functions of a device.  Ghost: the calls that took effect, those that each
task made, and what it got back. -/
structure Shared (T σ call op resp res : Type*) where
  device : σ
  lock : RecursiveMutex T
  running : T → Option (call × Prog op resp res)
  log : List (CallEffect T call res)
  called : T → List call
  returned : T → List res

inductive Label (T call : Type*)
  | call (task : T) (call : call)
  | run (task : T)

section

variable {T σ call op resp res : Type*} [DecidableEq T]
variable (device : Object σ op resp) (prog : call → Prog op resp res)

def Shared.goTo (shared : Shared T σ call op resp res) (task : T)
    (point : Option (call × Prog op resp res)) : Shared T σ call op resp res :=
  { shared with running := Function.update shared.running task point }

/-- Ghost: a function that puts the mutex for the last time takes effect. -/
def effectOf (task : T) (made : call) : Prog op resp res → List (CallEffect T call res)
  | .ret result => [⟨task, made, result⟩]
  | .get _ | .put _ | .act _ _ => []

/-- A step of the function that a task has called. -/
def runTask (shared : Shared T σ call op resp res) (task : T) :
    Option (Shared T σ call op resp res) :=
  match shared.running task with
  | none => none
  | some (_, .ret result) =>
      some ({ shared with
        returned := Function.update shared.returned task (shared.returned task ++ [result]) }.goTo
          task none)
  | some (made, .get next) =>
      (shared.lock.get? task).map fun lock =>
        { shared with lock := lock }.goTo task (some (made, next))
  | some (made, .put next) =>
      some ({ shared with
        lock := shared.lock.put task
        log := shared.log ++ effectOf task made next }.goTo task (some (made, next)))
  | some (made, .act operation next) =>
      let (response, state) := device shared.device operation
      some ({ shared with device := state }.goTo task (some (made, next response)))

def nextShared : LStep (Shared T σ call op resp res) (Label T call)
  | shared, .call task made =>
      match shared.running task with
      | some _ => none
      | none =>
          some ({ shared with
            called := Function.update shared.called task (shared.called task ++ [made]) }.goTo
              task (some (made, prog made)))
  | shared, .run task => runTask device shared task

def startShared (state : σ) : Shared T σ call op resp res where
  device := state
  lock := .unlocked
  running _ := none
  log := []
  called _ := []
  returned _ := []

/-- The functions as operations that take effect at once. -/
def calls : Object σ call res := fun state made => (prog made).alone device state

/-- Where a task is, with its call that has not taken effect and what it has to return. -/
inductive Stage (lock : RecursiveMutex T) (task : T) (point : Option (call × Prog op resp res)) :
    Option call → Option res → Prop
  | idle (isPoint : point = none) (notHolder : lock.holder ≠ some task) :
      Stage lock task point none none
  | waits (made : call) (isPoint : point = some (made, prog made))
      (notHolder : lock.holder ≠ some task) : Stage lock task point (some made) none
  | inside (made : call) (rest : Prog op resp res) (depth : Nat)
      (isPoint : point = some (made, rest)) (isHolder : lock.holder = some task)
      (count : lock.count = depth + 1) (inside : rest.Inside (depth + 1)) :
      Stage lock task point (some made) none
  | returns (made : call) (result : res) (isPoint : point = some (made, .ret result))
      (notHolder : lock.holder ≠ some task) : Stage lock task point none (some result)

/-- What the device is without the call of the holder, which has led from there to what it is. -/
structure Before (shared : Shared T σ call op resp res) (state : σ) : Prop where
  free : shared.lock.holder = none → shared.device = state
  held : ∀ task made rest, shared.lock.holder = some task →
    shared.running task = some (made, rest) →
      (prog made).Reaches device state rest shared.device

/-- What is kept. -/
structure Inv (initial : σ) (shared : Shared T σ call op resp res) (state : σ) : Prop where
  sequential : Sequential (calls device prog) initial shared.log state
  before : Before device prog shared state
  tasks : ∀ task, ∃ before after,
    Stage prog shared.lock task (shared.running task) before after ∧
      Accounted shared.log task (shared.called task) before after (shared.returned task)

variable {device prog}
variable {initial state : σ} {shared target : Shared T σ call op resp res} {task : T}

theorem inv_start (device : Object σ op resp) (prog : call → Prog op resp res) (initial : σ) :
    Inv device prog initial (startShared initial : Shared T σ call op resp res) initial where
  sequential := sequential_nil
  before := ⟨fun _ => rfl, by rintro task made rest ⟨⟩⟩
  tasks task := ⟨none, none, .idle rfl (by rintro ⟨⟩), accounted_nil⟩

/-- What a task is when it does nothing. -/
abbrev TaskInv (prog : call → Prog op resp res) (shared : Shared T σ call op resp res) (task : T)
    (point : Option (call × Prog op resp res)) : Prop :=
  ∃ before after, Stage prog shared.lock task point before after ∧
    Accounted shared.log task (shared.called task) before after (shared.returned task)

/-- A task that does nothing stays where it is while another one has the mutex, or takes or
puts it. -/
theorem TaskInv.frame {other : T} {point : Option (call × Prog op resp res)}
    (kept : TaskInv prog shared other point) (different : other ≠ task)
    (called : target.called other = shared.called other)
    (returned : target.returned other = shared.returned other)
    (log : target.log = shared.log ∨
      ∃ made result, target.log = shared.log ++ [⟨task, made, result⟩])
    (lock : target.lock = shared.lock ∨
      shared.lock.holder ≠ some other ∧ target.lock.holder ≠ some other) :
    TaskInv prog target other point := by
  obtain ⟨before, after, stage, accounted⟩ := kept
  refine ⟨before, after, ?_, ?_⟩
  · rcases lock with same | ⟨notBefore, notAfter⟩
    · rw [same]
      exact stage
    · cases stage with
      | idle isPoint => exact .idle isPoint notAfter
      | waits made isPoint => exact .waits made isPoint notAfter
      | inside made rest depth isPoint isHolder => exact absurd isHolder notBefore
      | returns made result isPoint => exact .returns made result isPoint notAfter
  · rw [called, returned]
    rcases log with same | ⟨made, result, more⟩
    · rw [same]
      exact accounted
    · rw [more]
      exact accounted.frame different.symm

/-- A step of one task. -/
theorem Inv.steps (inv : Inv device prog initial shared state) {next : σ}
    {point : Option (call × Prog op resp res)}
    (running : target.running = Function.update shared.running task point)
    (sequential : Sequential (calls device prog) initial target.log next)
    (before : Before device prog target next) (own : TaskInv prog target task point)
    (called : ∀ other, other ≠ task → target.called other = shared.called other)
    (returned : ∀ other, other ≠ task → target.returned other = shared.returned other)
    (log : target.log = shared.log ∨
      ∃ made result, target.log = shared.log ++ [⟨task, made, result⟩])
    (lock : target.lock = shared.lock ∨ ∀ other, other ≠ task →
      shared.lock.holder ≠ some other ∧ target.lock.holder ≠ some other) :
    Inv device prog initial target next := by
  refine ⟨sequential, before, ?_⟩
  intro other
  rw [running]
  by_cases same : other = task
  · subst same
    rw [Function.update_self]
    exact own
  · rw [Function.update_of_ne same]
    refine TaskInv.frame (inv.tasks other) same (called other same) (returned other same) log ?_
    rcases lock with unchanged | others
    · exact .inl unchanged
    · exact .inr (others other same)

/-- The point of a task that has not the mutex does not matter for what the device is. -/
theorem Before.goTo (before : Before device prog shared state)
    (notHolder : shared.lock.holder ≠ some task) {point : Option (call × Prog op resp res)}
    (running : target.running = Function.update shared.running task point)
    (lock : target.lock = shared.lock) (same : target.device = shared.device) :
    Before device prog target state where
  free := by
    rw [lock, same]
    exact before.free
  held := by
    intro holder made rest isHolder isRunning
    rw [lock] at isHolder
    have other : holder ≠ task := by
      rintro rfl
      exact notHolder isHolder
    rw [running, Function.update_of_ne other] at isRunning
    rw [same]
    exact before.held holder made rest isHolder isRunning

/-- A task calls a function. -/
theorem Inv.begins (inv : Inv device prog initial shared state) {made : call}
    (free : shared.running task = none) :
    Inv device prog initial ({ shared with
      called := Function.update shared.called task (shared.called task ++ [made]) }.goTo task
        (some (made, prog made))) state := by
  obtain ⟨before, after, stage, accounted⟩ := inv.tasks task
  cases stage with
  | idle _ notHolder =>
      refine inv.steps rfl inv.sequential (inv.before.goTo notHolder rfl rfl rfl) ?_
        (fun other different => Function.update_of_ne different ..) (fun _ _ => rfl) (.inl rfl)
        (.inl rfl)
      refine ⟨some made, none, .waits made rfl notHolder, ?_⟩
      have isCalled : Function.update shared.called task (shared.called task ++ [made]) task =
          shared.called task ++ [made] := Function.update_self ..
      show Accounted shared.log task (Function.update shared.called task _ task) _ _ _
      rw [isCalled]
      exact accounted.begins made
  | waits _ isPoint | inside _ _ _ isPoint | returns _ _ isPoint =>
      rw [isPoint] at free
      cases free

/-- A function returns. -/
theorem Inv.returns (inv : Inv device prog initial shared state) {made : call} {result : res}
    (bracketed : ∀ made, (prog made).Bracketed)
    (point : shared.running task = some (made, .ret result)) :
    Inv device prog initial ({ shared with
      returned := Function.update shared.returned task (shared.returned task ++ [result]) }.goTo
        task none) state := by
  obtain ⟨before, after, stage, accounted⟩ := inv.tasks task
  cases stage with
  | returns other last isPoint notHolder =>
      obtain ⟨rfl, rest⟩ := Prod.mk.inj (Option.some.inj (isPoint.symm.trans point))
      obtain rfl : last = result := Prog.ret.inj rest
      refine inv.steps rfl inv.sequential (inv.before.goTo notHolder rfl rfl rfl) ?_
        (fun _ _ => rfl) (fun other different => Function.update_of_ne different ..) (.inl rfl)
        (.inl rfl)
      refine ⟨none, none, .idle rfl notHolder, ?_⟩
      have isReturned : Function.update shared.returned task (shared.returned task ++ [last]) task =
          shared.returned task ++ [last] := Function.update_self ..
      show Accounted shared.log task _ _ _ (Function.update shared.returned task _ task)
      rw [isReturned]
      exact accounted.returns
  | idle isPoint =>
      rw [isPoint] at point
      cases point
  | waits other isPoint =>
      obtain ⟨rfl, rest⟩ := Prod.mk.inj (Option.some.inj (isPoint.symm.trans point))
      have takes := bracketed other
      rw [rest] at takes
      exact takes.elim
  | inside other rest depth isPoint _ _ inside =>
      obtain ⟨rfl, rfl⟩ := Prod.mk.inj (Option.some.inj (isPoint.symm.trans point))
      exact inside.elim

/-- The holder of the mutex is somewhere inside its function. -/
theorem Inv.inside (inv : Inv device prog initial shared state) {made : call}
    {rest : Prog op resp res} (isHolder : shared.lock.holder = some task)
    (point : shared.running task = some (made, rest)) :
    ∃ depth, shared.lock.count = depth + 1 ∧ rest.Inside (depth + 1) ∧
      Accounted shared.log task (shared.called task) (some made) none (shared.returned task) := by
  obtain ⟨before, after, stage, accounted⟩ := inv.tasks task
  cases stage with
  | idle _ notHolder | waits _ _ notHolder | returns _ _ _ notHolder =>
      exact absurd isHolder notHolder
  | inside other rest' depth isPoint _ count inside =>
      obtain ⟨rfl, rfl⟩ := Prod.mk.inj (Option.some.inj (isPoint.symm.trans point))
      exact ⟨depth, count, inside, accounted⟩

/-- The holder goes on inside its function. -/
theorem Inv.goesOn (inv : Inv device prog initial shared state) {made : call}
    {rest next : Prog op resp res} (isHolder : shared.lock.holder = some task)
    (point : shared.running task = some (made, rest)) {lock : RecursiveMutex T} {after : σ}
    {depth : Nat} (stillHolder : lock.holder = some task) (count : lock.count = depth + 1)
    (inside : next.Inside (depth + 1))
    (goesOn : ∀ whole state, Prog.Reaches device whole state rest shared.device →
      Prog.Reaches device whole state next after) :
    Inv device prog initial ({ shared with device := after, lock := lock }.goTo task
      (some (made, next))) state := by
  obtain ⟨_, _, _, accounted⟩ := inv.inside isHolder point
  refine inv.steps rfl inv.sequential ?_
    ⟨_, _, .inside made next depth rfl stillHolder count inside, accounted⟩ (fun _ _ => rfl)
    (fun _ _ => rfl) (.inl rfl) (.inr ?_)
  · constructor
    · intro free
      have held : lock.holder = none := free
      rw [stillHolder] at held
      cases held
    · intro other otherMade otherRest isOther isRunning
      obtain rfl : task = other := Option.some.inj (stillHolder.symm.trans isOther)
      have isNext : Function.update shared.running task (some (made, next)) task =
          some (otherMade, otherRest) := isRunning
      rw [Function.update_self] at isNext
      obtain ⟨rfl, rfl⟩ := Prod.mk.inj (Option.some.inj isNext)
      exact goesOn _ _ (inv.before.held task made rest isHolder point)
  · intro other different
    have notOther : some task ≠ some other := fun same => different (Option.some.inj same).symm
    refine ⟨?_, ?_⟩
    · rwa [isHolder]
    · show lock.holder ≠ some other
      rwa [stillHolder]

/-- A task takes the mutex, again or for the first time. -/
theorem Inv.gets (inv : Inv device prog initial shared state) {made : call}
    {next : Prog op resp res} {lock : RecursiveMutex T}
    (bracketed : ∀ made, (prog made).Bracketed)
    (point : shared.running task = some (made, .get next))
    (taken : shared.lock.get? task = some lock) :
    Inv device prog initial ({ shared with lock := lock }.goTo task (some (made, next))) state := by
  by_cases isHolder : shared.lock.holder = some task
  · obtain ⟨depth, count, inside, _⟩ := inv.inside isHolder point
    have isLock : lock = ⟨some task, shared.lock.count + 1⟩ := by
      rw [RecursiveMutex.get?, if_neg (by rw [isHolder]; simp), if_pos isHolder] at taken
      exact (Option.some.inj taken).symm
    have more : lock.count = depth + 1 + 1 := by rw [isLock, count]
    exact inv.goesOn isHolder point (by rw [isLock]) more inside fun _ _ => .get
  · have free : shared.lock.holder = none := by
      by_contra held
      rw [RecursiveMutex.get?, if_neg held, if_neg isHolder] at taken
      cases taken
    obtain rfl : ⟨some task, 1⟩ = lock := by
      rw [RecursiveMutex.get?, if_pos free] at taken
      exact Option.some.inj taken
    obtain ⟨before, after, stage, accounted⟩ := inv.tasks task
    cases stage with
    | waits other isPoint _ =>
        obtain ⟨rfl, rest⟩ := Prod.mk.inj (Option.some.inj (isPoint.symm.trans point))
        have inside := bracketed other
        rw [rest] at inside
        refine inv.steps rfl inv.sequential ?_
          ⟨_, _, .inside other next 0 rfl rfl rfl inside, accounted⟩ (fun _ _ => rfl)
          (fun _ _ => rfl) (.inl rfl) (.inr ?_)
        · constructor
          · rintro ⟨⟩
          · rintro holder made otherRest ⟨⟩ isRunning
            have isNext : Function.update shared.running task (some (other, next)) task =
                some (made, otherRest) := isRunning
            rw [Function.update_self] at isNext
            obtain ⟨rfl, rfl⟩ := Prod.mk.inj (Option.some.inj isNext)
            show (prog other).Reaches device state next shared.device
            rw [rest, inv.before.free free]
            exact .get .refl
        · intro holder different
          refine ⟨by rw [free]; simp, ?_⟩
          exact fun same => different (Option.some.inj same).symm
    | idle isPoint =>
        rw [isPoint] at point
        cases point
    | inside _ _ _ _ isOther => exact absurd isOther isHolder
    | returns other result isPoint =>
        rw [isPoint] at point
        cases point

/-- Only the holder puts the mutex or uses the device. -/
theorem Inv.holds (inv : Inv device prog initial shared state) {made : call}
    {rest : Prog op resp res} (bracketed : ∀ made, (prog made).Bracketed)
    (point : shared.running task = some (made, rest))
    (notGet : ∀ next, rest ≠ .get next) (notRet : ∀ result, rest ≠ .ret result) :
    shared.lock.holder = some task := by
  obtain ⟨before, after, stage, accounted⟩ := inv.tasks task
  cases stage with
  | inside _ _ _ _ isHolder => exact isHolder
  | idle isPoint =>
      rw [isPoint] at point
      cases point
  | returns other result isPoint =>
      obtain ⟨_, isRest⟩ := Prod.mk.inj (Option.some.inj (isPoint.symm.trans point))
      exact absurd isRest.symm (notRet result)
  | waits other isPoint =>
      obtain ⟨rfl, rfl⟩ := Prod.mk.inj (Option.some.inj (isPoint.symm.trans point))
      have takes := bracketed other
      cases isRest : prog other with
      | get next => exact absurd isRest (notGet next)
      | ret result => exact absurd isRest (notRet result)
      | put next | act operation next =>
          rw [isRest] at takes
          exact takes.elim

/-- The last put of a function is its effect. -/
theorem Inv.leaves (inv : Inv device prog initial shared state) {made : call} {result : res}
    (isHolder : shared.lock.holder = some task) (count : shared.lock.count = 1)
    (point : shared.running task = some (made, .put (.ret result))) :
    Inv device prog initial ({ shared with
      lock := shared.lock.put task
      log := shared.log ++ [CallEffect.mk task made result] }.goTo task
        (some (made, .ret result)))
        (calls device prog state made).2 := by
  obtain ⟨_, _, _, accounted⟩ := inv.inside isHolder point
  have leads : (result, shared.device) = calls device prog state made :=
    (inv.before.held task made _ isHolder point).alone_eq
  have unlocked : shared.lock.put task = .unlocked := by
    rw [RecursiveMutex.put, if_pos isHolder, if_pos count]
  have sequential := inv.sequential.concat task made
  rw [← leads] at sequential ⊢
  refine inv.steps rfl sequential ?_
    ⟨_, _, .returns made result rfl ?_, accounted.takesEffect result⟩ (fun _ _ => rfl)
    (fun _ _ => rfl) (.inr ⟨made, result, rfl⟩) (.inr ?_)
  · constructor
    · intro _
      rfl
    · intro other otherMade rest isOther
      have held : (shared.lock.put task).holder = some other := isOther
      rw [unlocked] at held
      cases held
  · show (shared.lock.put task).holder ≠ some task
    rw [unlocked]
    simp [RecursiveMutex.unlocked]
  · intro other different
    refine ⟨?_, ?_⟩
    · rw [isHolder]
      exact fun same => different (Option.some.inj same).symm
    · show (shared.lock.put task).holder ≠ some other
      rw [unlocked]
      simp [RecursiveMutex.unlocked]

/-- A task puts the mutex. -/
theorem Inv.puts (inv : Inv device prog initial shared state) {made : call}
    {next : Prog op resp res} (bracketed : ∀ made, (prog made).Bracketed)
    (point : shared.running task = some (made, .put next)) :
    ∃ after, Inv device prog initial ({ shared with
      lock := shared.lock.put task
      log := shared.log ++ effectOf task made next }.goTo task (some (made, next))) after := by
  have isHolder := inv.holds bracketed point (by simp) (by simp)
  obtain ⟨depth, count, inside, _⟩ := inv.inside isHolder point
  cases depth with
  | zero =>
      cases next with
      | ret result => exact ⟨_, inv.leaves isHolder count point⟩
      | get next | put next | act operation next => exact inside.elim
  | succ depth =>
      have noEffect : effectOf task made next = ([] : List (CallEffect T call res)) := by
        cases next with
        | ret result => exact inside.elim
        | get next | put next | act operation next => rfl
      have isLock : shared.lock.put task = ⟨some task, shared.lock.count - 1⟩ := by
        rw [RecursiveMutex.put, if_pos isHolder, if_neg (by omega)]
      have fewer : (shared.lock.put task).count = depth + 1 := by
        rw [isLock, count]
        rfl
      rw [noEffect, List.append_nil]
      exact ⟨state, inv.goesOn isHolder point (by rw [isLock]) fewer inside fun _ _ => .put⟩

/-- A task uses the device. -/
theorem Inv.acts (inv : Inv device prog initial shared state) {made : call} {operation : op}
    {next : resp → Prog op resp res} (bracketed : ∀ made, (prog made).Bracketed)
    (point : shared.running task = some (made, .act operation next)) :
    Inv device prog initial ({ shared with device := (device shared.device operation).2 }.goTo task
      (some (made, next (device shared.device operation).1))) state := by
  have isHolder := inv.holds bracketed point (by simp) (by simp)
  obtain ⟨depth, count, inside, _⟩ := inv.inside isHolder point
  exact inv.goesOn isHolder point isHolder count (inside _) fun _ _ => .act

/-- What is kept holds after each step. -/
theorem Inv.next {label : Label T call} (inv : Inv device prog initial shared state)
    (bracketed : ∀ made, (prog made).Bracketed)
    (stepped : nextShared device prog shared label = some target) :
    ∃ after, Inv device prog initial target after := by
  cases label with
  | call task made =>
      rw [nextShared] at stepped
      split at stepped
      · cases stepped
      · next free =>
          cases stepped
          exact ⟨state, inv.begins free⟩
  | run task =>
      rw [nextShared, runTask] at stepped
      split at stepped
      · cases stepped
      · next made result point =>
          cases stepped
          exact ⟨state, inv.returns bracketed point⟩
      · next made next point =>
          obtain ⟨lock, taken, rfl⟩ := Option.map_eq_some_iff.mp stepped
          exact ⟨state, inv.gets bracketed point taken⟩
      · next made next point =>
          cases stepped
          exact inv.puts bracketed point
      · next made operation next point =>
          cases stepped
          exact ⟨state, inv.acts bracketed point⟩

/-! ## Runs -/

/-- The functions took effect one after the other, as if each ran alone. -/
structure Atomic (device : Object σ op resp) (prog : call → Prog op resp res) (initial : σ)
    (shared : Shared T σ call op resp res) (state : σ) : Prop where
  sequential : Sequential (calls device prog) initial shared.log state
  /-- Between functions, the device is what they have made of it. -/
  free : shared.lock.holder = none → shared.device = state
  /-- The function of the holder has led from there to what it is. -/
  held : ∀ task, shared.lock.holder = some task → ∃ made rest,
    shared.running task = some (made, rest) ∧
      (prog made).Reaches device state rest shared.device
  accounted : ∀ task, ∃ before after,
    Accounted shared.log task (shared.called task) before after (shared.returned task) ∧
      (shared.running task = none → before = none ∧ after = none)

theorem Inv.atomic (inv : Inv device prog initial shared state) :
    Atomic device prog initial shared state where
  sequential := inv.sequential
  free := inv.before.free
  held := by
    intro task isHolder
    obtain ⟨_, _, stage, _⟩ := inv.tasks task
    cases stage with
    | idle _ notHolder | waits _ _ notHolder | returns _ _ _ notHolder =>
        exact absurd isHolder notHolder
    | inside made rest _ isPoint =>
        exact ⟨made, rest, isPoint, inv.before.held task made rest isHolder isPoint⟩
  accounted := by
    intro task
    obtain ⟨before, after, stage, accounted⟩ := inv.tasks task
    refine ⟨before, after, accounted, ?_⟩
    intro free
    cases stage with
    | idle => exact ⟨rfl, rfl⟩
    | waits _ isPoint | inside _ _ _ isPoint | returns _ _ isPoint =>
        rw [isPoint] at free
        cases free

variable (bracketed : ∀ made, (prog made).Bracketed)

include bracketed

theorem inv_of_reachable
    (reachable : Reachable (nextShared device prog) (startShared initial) shared) :
    ∃ state, Inv device prog initial shared state := by
  apply reachable.invariant ⟨initial, inv_start device prog initial⟩
  rintro source target label ⟨state, inv⟩ _ stepped
  exact inv.next bracketed stepped

theorem atomic_of_reachable
    (reachable : Reachable (nextShared device prog) (startShared initial) shared) :
    ∃ state, Atomic device prog initial shared state := by
  obtain ⟨state, inv⟩ := inv_of_reachable bracketed reachable
  exact ⟨state, inv.atomic⟩

/-- As long as a function is under way, one of the tasks can go on. -/
theorem runs_of_running
    (reachable : Reachable (nextShared device prog) (startShared initial) shared)
    (isRunning : shared.running task ≠ none) :
    ∃ other, (nextShared device prog shared (.run other)).isSome := by
  obtain ⟨state, inv⟩ := inv_of_reachable bracketed reachable
  cases held : shared.lock.holder with
  | none =>
      refine ⟨task, ?_⟩
      obtain ⟨_, _, stage, _⟩ := inv.tasks task
      cases stage with
      | idle isPoint => exact absurd isPoint isRunning
      | inside _ _ _ _ isHolder =>
          rw [held] at isHolder
          cases isHolder
      | returns made result isPoint => simp [nextShared, runTask, isPoint]
      | waits made isPoint =>
          have takes := bracketed made
          cases isProg : prog made with
          | get next =>
              simp [nextShared, runTask, isPoint, isProg, RecursiveMutex.get?, held]
          | ret | put | act =>
              rw [isProg] at takes
              exact takes.elim
  | some holder =>
      refine ⟨holder, ?_⟩
      obtain ⟨_, _, stage, _⟩ := inv.tasks holder
      cases stage with
      | idle _ notHolder | waits _ _ notHolder | returns _ _ _ notHolder =>
          exact absurd held notHolder
      | inside made rest depth isPoint _ _ inside =>
          cases rest with
          | ret => exact inside.elim
          | get next => simp [nextShared, runTask, isPoint, RecursiveMutex.get?, held]
          | put next => simp [nextShared, runTask, isPoint]
          | act operation next => simp [nextShared, runTask, isPoint]

end

end FwkRtos.Osal.Sections
