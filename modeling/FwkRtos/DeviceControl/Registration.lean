import FwkRtos.DeviceControl.Core
import FwkRtos.Transition.Labelled

/-!
# Registering the servicers

`device_control_resources_register` polls the gateway queue and the links to
the other tiles until all servicers are registered, one of them is rejected or
the time is over.  The servicer's slot is written first, and then its resource
IDs are entered.
-/

namespace FwkRtos.DeviceControl

open FwkRtos.Transition

universe u v

variable {Queue : Type u} {Link : Type v}

/-- `servicer_init_data_t`. -/
structure ServicerInitData (Queue : Type u) where
  queue : Queue
  resources : List ControlResid
  deriving DecidableEq

/-- `servicer_register`: the returned code and the instance.  The servicer's number
is stored in one byte. -/
def servicerRegister (ctx : Context Queue Link) (initCmd : ServicerInitData Queue)
    (intertileCtx : Option Link) (servicerIndex : Nat) : Nat × Context Queue Link :=
  let added := resourceTableAdd ctx.resourceTable initCmd.resources (UInt8.ofNat servicerIndex)
  (added.1,
    { ctx with
      servicerTable :=
        Function.update ctx.servicerTable servicerIndex (some ⟨intertileCtx, initCmd.queue⟩)
      resourceTable := added.2 })

/-- The local variables of `device_control_resources_register` beside the instance.
`registered` and `rejected` are ghosts: the servicers that were registered, in
order, and the one that was not. -/
structure Registering (Queue : Type u) (Link : Type v) where
  ctx : Context Queue Link
  registeredCount : Nat
  ret : Nat
  registered : List (ServicerInitData Queue × Option Link)
  rejected : Option (ServicerInitData Queue × Option Link)

/-- The loops go on. -/
def Registering.goesOn (state : Registering Queue Link) : Bool :=
  decide (state.registeredCount < state.ctx.servicerCount) && decide (state.ret = 0)

/-- Register the servicer that asks for it. -/
def Registering.register (state : Registering Queue Link) (initCmd : ServicerInitData Queue)
    (intertileCtx : Option Link) : Registering Queue Link :=
  let result := servicerRegister state.ctx initCmd intertileCtx state.registeredCount
  if result.1 = 0 then
    { ctx := result.2
      registeredCount := state.registeredCount + 1
      ret := result.1
      registered := state.registered ++ [(initCmd, intertileCtx)]
      rejected := state.rejected }
  else
    { ctx := result.2
      registeredCount := state.registeredCount
      ret := result.1
      registered := state.registered
      rejected := some (initCmd, intertileCtx) }

/-- One poll, of the gateway queue or of a link, and what it receives. -/
structure Poll (Queue : Type u) (Link : Type v) where
  intertileCtx : Option Link
  received : Option (ServicerInitData Queue)

/-- What is polled in one pass of the outer loop: the gateway queue, and every link
by its index. -/
structure Round (Queue : Type u) where
  gateway : Option (ServicerInitData Queue)
  client : Nat → Option (ServicerInitData Queue)

/-- What follows the reception of one poll. -/
def Registering.poll (state : Registering Queue Link) (poll : Poll Queue Link) :
    Registering Queue Link :=
  match poll.received with
  | none => state
  | some initCmd => state.register initCmd poll.intertileCtx

/-- The inner loop, from link `i` on. -/
def Registering.pollClients (round : Round Queue) :
    Nat → List Link → Registering Queue Link → Registering Queue Link
  | _, [], state => state
  | i, link :: links, state =>
      if state.goesOn then
        pollClients round (i + 1) links (state.poll ⟨some link, round.client i⟩)
      else state

/-- The outer loop; the time is over when there are no more rounds. -/
def Registering.loop : List (Round Queue) → Registering Queue Link → Registering Queue Link
  | [], state => state
  | round :: rounds, state =>
      if state.goesOn then
        loop rounds
          (pollClients round 0 state.ctx.clientIntertile (state.poll ⟨none, round.gateway⟩))
      else state

/-- Before the loops. -/
def Registering.start (ctx : Context Queue Link) : Registering Queue Link where
  ctx := { ctx with servicerTable := fun _ => none }
  registeredCount := 0
  ret := 0
  registered := []
  rejected := none

/-- `device_control_resources_register`: the returned code and the local state. -/
def deviceControlResourcesRegister (ctx : Context Queue Link) (rounds : List (Round Queue)) :
    ControlRet × Registering Queue Link :=
  let state := Registering.loop rounds (.start ctx)
  if state.registeredCount = state.ctx.servicerCount then (.success, state)
  else (.registrationFailed, state)

/-! ## The loops as a run of polls -/

/-- One poll, which is not made when the loops are over. -/
def pollStep : LStep (Registering Queue Link) (Poll Queue Link)
  | state, poll => some (if state.goesOn then state.poll poll else state)

/-- The polls of one round from link `i` on. -/
def clientPolls (round : Round Queue) : Nat → List Link → List (Poll Queue Link)
  | _, [] => []
  | i, link :: links => ⟨some link, round.client i⟩ :: clientPolls round (i + 1) links

/-- The polls of all rounds, in order. -/
def polls (links : List Link) (rounds : List (Round Queue)) : List (Poll Queue Link) :=
  rounds.flatMap fun round => ⟨none, round.gateway⟩ :: clientPolls round 0 links

section
variable {state : Registering Queue Link} {initCmd : ServicerInitData Queue}
  {intertileCtx : Option Link}

theorem register_of_success
    (success : (servicerRegister state.ctx initCmd intertileCtx state.registeredCount).1 = 0) :
    state.register initCmd intertileCtx =
      { ctx := (servicerRegister state.ctx initCmd intertileCtx state.registeredCount).2
        registeredCount := state.registeredCount + 1
        ret := 0
        registered := state.registered ++ [(initCmd, intertileCtx)]
        rejected := state.rejected } := by
  simp only [Registering.register, success, if_true]

theorem register_of_failure (intertileCtx : Option Link)
    (failed : (servicerRegister state.ctx initCmd intertileCtx state.registeredCount).1 ≠ 0) :
    state.register initCmd intertileCtx =
      { ctx := (servicerRegister state.ctx initCmd intertileCtx state.registeredCount).2
        registeredCount := state.registeredCount
        ret := (servicerRegister state.ctx initCmd intertileCtx state.registeredCount).1
        registered := state.registered
        rejected := some (initCmd, intertileCtx) } := by
  simp only [Registering.register, if_neg failed]

end

theorem register_links (state : Registering Queue Link) (initCmd : ServicerInitData Queue)
    (intertileCtx : Option Link) :
    (state.register initCmd intertileCtx).ctx.clientIntertile = state.ctx.clientIntertile := by
  by_cases success :
      (servicerRegister state.ctx initCmd intertileCtx state.registeredCount).1 = 0
  · rw [register_of_success success]
    rfl
  · rw [register_of_failure _ success]
    rfl

theorem poll_links (state : Registering Queue Link) (poll : Poll Queue Link) :
    (state.poll poll).ctx.clientIntertile = state.ctx.clientIntertile := by
  rcases poll with ⟨link, _ | initCmd⟩
  · rfl
  · exact register_links state initCmd link

theorem pollStep_of_not_goesOn {state : Registering Queue Link} (over_ : ¬ state.goesOn = true)
    (schedule : List (Poll Queue Link)) : run pollStep state schedule = some state := by
  induction schedule with
  | nil => rfl
  | cons poll rest ih =>
      simp only [run, pollStep, if_neg over_, Option.bind_some]
      exact ih

theorem run_clientPolls (round : Round Queue) (links : List Link) (i : Nat)
    (state : Registering Queue Link) :
    run pollStep state (clientPolls round i links) = some (state.pollClients round i links) ∧
      (state.pollClients round i links).ctx.clientIntertile = state.ctx.clientIntertile := by
  induction links generalizing i state with
  | nil => exact ⟨rfl, rfl⟩
  | cons link links ih =>
      rw [Registering.pollClients]
      by_cases goesOn : state.goesOn = true
      · rw [if_pos goesOn]
        obtain ⟨executed, kept⟩ := ih (i + 1) (state.poll ⟨some link, round.client i⟩)
        constructor
        · simpa only [clientPolls, run, pollStep, if_pos goesOn, Option.bind_some] using executed
        · exact kept.trans (poll_links state _)
      · rw [if_neg goesOn]
        exact ⟨pollStep_of_not_goesOn goesOn _, rfl⟩

/-- The loops make the polls of their rounds one after the other. -/
theorem run_polls (rounds : List (Round Queue)) (state : Registering Queue Link) :
    run pollStep state (polls state.ctx.clientIntertile rounds) = some (state.loop rounds) := by
  induction rounds generalizing state with
  | nil => rfl
  | cons round rounds ih =>
      rw [Registering.loop]
      by_cases goesOn : state.goesOn = true
      · rw [if_pos goesOn]
        obtain ⟨executed, kept⟩ := run_clientPolls round state.ctx.clientIntertile 0
          (state.poll ⟨none, round.gateway⟩)
        have sameLinks := kept.trans (poll_links state ⟨none, round.gateway⟩)
        have rest := ih ((state.poll ⟨none, round.gateway⟩).pollClients round 0
          state.ctx.clientIntertile)
        rw [sameLinks] at rest
        simp only [polls, List.flatMap_cons, List.cons_append, run, pollStep, if_pos goesOn,
          Option.bind_some, run_append]
        rw [executed]
        exact rest
      · rw [if_neg goesOn]
        exact pollStep_of_not_goesOn goesOn _

/-! ## Routing -/

/-- Every registered ID has the number of a registered servicer that lists it, and
that number's slot holds the servicer's own queue and link. -/
def RoutesRegistered (state : Registering Queue Link) : Prop :=
  ∀ resid, state.ctx.resourceTable resid ≠ noServicer →
    ∃ initCmd intertileCtx,
      state.registered[(state.ctx.resourceTable resid).toNat]? = some (initCmd, intertileCtx) ∧
        resid ∈ initCmd.resources ∧
        state.ctx.servicerTable (state.ctx.resourceTable resid).toNat =
          some ⟨intertileCtx, initCmd.queue⟩

/-- No resource ID of the rejected servicer is routed to it. -/
def RejectedNotRouted (state : Registering Queue Link) : Prop :=
  ∀ rejected ∈ state.rejected, ∀ resid ∈ rejected.1.resources,
    state.ctx.resourceTable resid ≠ noServicer →
      (state.ctx.resourceTable resid).toNat ≠ state.registeredCount

/-- The poll receives no servicer whose list would fill the table partly. -/
def FillsWhole (state : Registering Queue Link) (poll : Poll Queue Link) : Prop :=
  state.goesOn = true → ∀ initCmd ∈ poll.received,
    ¬ FillsPartly state.ctx.resourceTable initCmd.resources (UInt8.ofNat state.registeredCount)

/-- What holds between the polls. -/
structure RegisteringInv (state : Registering Queue Link) : Prop where
  counted : state.registeredCount = state.registered.length
  numbered : state.registeredCount ≤ 255
  noneRejected : state.goesOn = true → state.rejected = none
  notRouted : RejectedNotRouted state
  routes : RoutesRegistered state

theorem registeringInv_start (servicerCount : Nat) (links : List Link) :
    RegisteringInv (.start (.host servicerCount links : Context Queue Link)) where
  counted := rfl
  numbered := Nat.zero_le 255
  noneRejected := fun _ => rfl
  notRouted := fun _ none => nomatch none
  routes := fun _ registered => absurd rfl registered

/-- A servicer number below 255 is stored as it is. -/
theorem toNat_ofNat_of_numbered {count : Nat} (numbered : count ≤ 255) :
    (UInt8.ofNat count).toNat = count := by
  simp only [UInt8.toNat_ofNat']
  omega

/-- The slots below the count are not written again. -/
theorem RoutesRegistered.keeps {state target : Registering Queue Link}
    (inv : RegisteringInv state) {slot : Option (Slot Queue Link)}
    (table : target.ctx.resourceTable = state.ctx.resourceTable)
    (slots : target.ctx.servicerTable =
      Function.update state.ctx.servicerTable state.registeredCount slot)
    (registered : target.registered = state.registered) : RoutesRegistered target := by
  intro resid isRegistered
  rw [table] at isRegistered ⊢
  obtain ⟨initCmd, intertileCtx, found, listed, stored⟩ := inv.routes resid isRegistered
  have below : (state.ctx.resourceTable resid).toNat ≠ state.registeredCount := by
    rw [inv.counted]
    exact Nat.ne_of_lt (List.getElem?_eq_some_iff.mp found).1
  refine ⟨initCmd, intertileCtx, by rw [registered]; exact found, listed, ?_⟩
  rw [slots, Function.update_of_ne below]
  exact stored

section
variable {state : Registering Queue Link} {initCmd : ServicerInitData Queue}
  {intertileCtx : Option Link}

/-- A successful registration routes the servicer's IDs to it, and no others. -/
theorem RegisteringInv.register_success (inv : RegisteringInv state)
    (goesOn : state.goesOn = true)
    (success : (servicerRegister state.ctx initCmd intertileCtx state.registeredCount).1 = 0) :
    RegisteringInv (state.register initCmd intertileCtx) := by
  obtain ⟨registers, allFree⟩ := resourceTableAdd_eq_zero_iff.mp success
  have number := toNat_ofNat_of_numbered inv.numbered
  have below : state.registeredCount ≠ 255 := by
    rintro isLast
    rw [isLast] at registers
    exact registers rfl
  rw [register_of_success success]
  refine ⟨?_, ?_, fun _ => inv.noneRejected goesOn, ?_, ?_⟩
  · simp [inv.counted]
  · exact Nat.lt_of_le_of_ne inv.numbered below
  · rintro rejected isRejected
    rw [show state.rejected = none from inv.noneRejected goesOn] at isRejected
    cases isRejected
  · intro resid isRegistered
    have entry : (servicerRegister state.ctx initCmd intertileCtx
        state.registeredCount).2.resourceTable =
          (resourceTableFill (UInt8.ofNat state.registeredCount) initCmd.resources
            state.ctx.resourceTable).2 :=
      congrArg Prod.snd (resourceTableAdd_of_ne registers)
    simp only [entry] at isRegistered ⊢
    by_cases listed : resid ∈ initCmd.resources
    · rw [resourceTableFill_of_allFree registers allFree listed, number]
      refine ⟨initCmd, intertileCtx, ?_, listed, ?_⟩
      · rw [inv.counted]
        simp
      · exact Function.update_self _ _ _
    · have kept : (resourceTableFill (UInt8.ofNat state.registeredCount) initCmd.resources
          state.ctx.resourceTable).2 resid = state.ctx.resourceTable resid := by
        rcases resourceTableFill_entry registers with kept | ⟨_, inList, _⟩
        · exact kept
        · exact absurd inList listed
      rw [kept] at isRegistered ⊢
      obtain ⟨other, link, found, otherListed, stored⟩ := inv.routes resid isRegistered
      have inside := (List.getElem?_eq_some_iff.mp found).1
      refine ⟨other, link, ?_, otherListed, ?_⟩
      · rw [List.getElem?_append_left inside]
        exact found
      · refine (Function.update_of_ne ?_ _ _).trans stored
        rw [inv.counted]
        exact Nat.ne_of_lt inside

/-- A rejected servicer whose list does not fill the table partly leaves no trace in
it. -/
theorem RegisteringInv.register_failure (inv : RegisteringInv state)
    (whole : ¬ FillsPartly state.ctx.resourceTable initCmd.resources
      (UInt8.ofNat state.registeredCount))
    (failed : (servicerRegister state.ctx initCmd intertileCtx state.registeredCount).1 ≠ 0) :
    RegisteringInv (state.register initCmd intertileCtx) := by
  have unchanged : (servicerRegister state.ctx initCmd intertileCtx
      state.registeredCount).2.resourceTable = state.ctx.resourceTable :=
    resourceTableAdd_failed failed whole
  rw [register_of_failure _ failed]
  refine ⟨inv.counted, inv.numbered, ?_, ?_, ?_⟩
  · intro goesOn
    simp [Registering.goesOn, failed] at goesOn
  · rintro rejected isRejected resid listed isRegistered
    simp only [unchanged] at isRegistered ⊢
    obtain ⟨_, _, found, _⟩ := inv.routes resid isRegistered
    rw [inv.counted]
    exact Nat.ne_of_lt (List.getElem?_eq_some_iff.mp found).1
  · exact RoutesRegistered.keeps inv unchanged rfl rfl

end

theorem RegisteringInv.step {state target : Registering Queue Link} {poll : Poll Queue Link}
    (inv : RegisteringInv state) (whole : FillsWhole state poll)
    (step : pollStep state poll = some target) : RegisteringInv target := by
  cases step
  by_cases goesOn : state.goesOn = true
  · rw [if_pos goesOn]
    rcases poll with ⟨link, _ | initCmd⟩
    · exact inv
    · by_cases success : (servicerRegister state.ctx initCmd link state.registeredCount).1 = 0
      · exact inv.register_success goesOn success
      · exact inv.register_failure (whole goesOn initCmd rfl) success
  · rw [if_neg goesOn]
    exact inv

/-- A list that fills the table partly leaves an ID routed to a servicer that is not
registered. -/
theorem RegisteringInv.step_partly {state target : Registering Queue Link}
    {poll : Poll Queue Link} (inv : RegisteringInv state) (partly : ¬ FillsWhole state poll)
    (step : pollStep state poll = some target) : ¬ RoutesRegistered target := by
  rcases poll with ⟨link, received⟩
  simp only [FillsWhole, Classical.not_imp, not_forall, not_not] at partly
  obtain ⟨goesOn, initCmd, rfl, partly⟩ := partly
  obtain ⟨failed, first, listed, free, entered⟩ := partly.entered
  cases step
  rw [if_pos goesOn]
  intro routes
  have routed := routes first
  rw [show state.poll ⟨link, some initCmd⟩ = state.register initCmd link from rfl,
    register_of_failure link failed] at routed
  have isCount : ((servicerRegister state.ctx initCmd link
      state.registeredCount).2.resourceTable first).toNat = state.registeredCount :=
    (congrArg UInt8.toNat entered).trans (toNat_ofNat_of_numbered inv.numbered)
  obtain ⟨_, _, found, _⟩ := routed fun isFree => partly.1 (entered.symm.trans isFree)
  have inside := (List.getElem?_eq_some_iff.mp found).1
  rw [isCount, ← inv.counted] at inside
  exact Nat.lt_irrefl _ inside

/-- A registration call leaves no partial routing: a rejected servicer has no ID
routed to it when the call fails, and after every poll each registered ID is routed
to the registered servicer that lists it. -/
def RegistersAtomically (ctx : Context Queue Link) (rounds : List (Round Queue)) : Prop :=
  ((deviceControlResourcesRegister ctx rounds).1 = .registrationFailed →
      RejectedNotRouted (deviceControlResourcesRegister ctx rounds).2) ∧
    StatesSatisfy pollStep (.start ctx) (polls ctx.clientIntertile rounds) RoutesRegistered

/-- A call of `resource_table_add` that fails leaves the table unchanged exactly when
it does not fill the table partly; and registration leaves no partial routing
exactly when no list that it receives fills the table partly. -/
theorem registration_atomic_iff :
    (∀ (table : ResourceTable) (resources : List ControlResid) (servicer : UInt8),
      ((resourceTableAdd table resources servicer).1 ≠ 0 →
          (resourceTableAdd table resources servicer).2 = table) ↔
        ¬ FillsPartly table resources servicer) ∧
    ∀ (servicerCount : Nat) (links : List Link) (rounds : List (Round Queue)),
      RegistersAtomically (.host servicerCount links) rounds ↔
        StepsMeet pollStep (.start (.host servicerCount links)) (polls links rounds)
          FillsWhole := by
  constructor
  · intro table resources servicer
    exact resourceTableAdd_unchanged_iff
  intro servicerCount links rounds
  have exact_ : StatesSatisfy pollStep (.start (.host servicerCount links)) (polls links rounds)
      RoutesRegistered ↔ StepsMeet pollStep (.start (.host servicerCount links))
        (polls links rounds) FillsWhole :=
    statesSatisfy_iff_stepsMeet
      (registeringInv_start servicerCount links)
      (fun _ _ _ inv whole step => inv.step whole step) (fun _ inv => inv.routes)
      (fun _ _ _ inv partly step => inv.step_partly partly step) _
  constructor
  · rintro ⟨_, routes⟩
    exact exact_.mp routes
  · intro met
    refine ⟨fun _ => ?_, exact_.mpr met⟩
    have executed := run_polls rounds (.start (.host servicerCount links : Context Queue Link))
    have reached := met.guardedReachable (List.prefix_refl _) executed
    have inv := reached.invariant (registeringInv_start servicerCount links)
      fun _ _ _ inv whole step => inv.step whole step
    have final : (deviceControlResourcesRegister (.host servicerCount links) rounds).2 =
        Registering.loop rounds (.start (.host servicerCount links)) := by
      unfold deviceControlResourcesRegister
      exact (apply_ite Prod.snd _ _ _).trans (ite_self _)
    rw [final]
    exact inv.notRouted

/-- A servicer that lists a reserved ID after an ordinary one is rejected, and the
ordinary one stays routed to it. -/
theorem reservedSecond_partly :
    ¬ ((resourceTableAdd resourceTableInit [1, controlSpecialResid] 0).1 ≠ 0 →
        (resourceTableAdd resourceTableInit [1, controlSpecialResid] 0).2 = resourceTableInit) ∧
      ¬ RegistersAtomically (.host 1 [] : Context Unit Unit)
        [⟨some ⟨(), [1, controlSpecialResid]⟩, fun _ => none⟩] := by
  constructor
  · intro unchanged
    exact absurd (congrFun (unchanged (by decide)) 1) (by decide)
  · rintro ⟨notRouted, _⟩
    exact notRouted (by decide) (⟨(), [1, controlSpecialResid]⟩, none) (by decide) 1 (by decide)
      (by decide) (by decide)

end FwkRtos.DeviceControl
