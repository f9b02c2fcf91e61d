import FwkRtos.DeviceControl.Commands
import FwkRtos.DeviceControl.Registration

/-!
# Routing

After a successful registration the entry of a resource ID leads to the slot of the one
servicer that lists it, and a command for that ID comes to one call of that servicer's
callback, wherever the servicer is.  Only a read command that asks a servicer on another
tile for nothing does not get there.
-/

namespace FwkRtos.DeviceControl

open FwkRtos.Transition

/-! ## Where the table leads after a successful registration -/

section
universe u v
variable {Queue : Type u} {Link : Type v} {state target : Registering Queue Link}

/-- The slot that the table leads to. -/
def Context.servicerOf (ctx : Context Queue Link) (resid : ControlResid) :
    Option (Slot Queue Link) :=
  if ctx.resourceTable resid = noServicer then none
  else ctx.servicerTable (ctx.resourceTable resid).toNat

/-- The registered servicer at the slot lists the ID. -/
def Registering.Lists (state : Registering Queue Link) (servicer : Slot Queue Link)
    (resid : ControlResid) : Prop :=
  ∃ initCmd, (initCmd, servicer.intertileCtx) ∈ state.registered ∧ resid ∈ initCmd.resources ∧
    servicer.queue = initCmd.queue

/-- Every ID that a registered servicer lists has the number of that servicer. -/
def ListedEntered (state : Registering Queue Link) : Prop :=
  ∀ number registered, state.registered[number]? = some registered →
    ∀ resid ∈ registered.1.resources, state.ctx.resourceTable resid = UInt8.ofNat number

/-- What holds while no servicer is rejected. -/
structure AllRegistered (state : Registering Queue Link) : Prop where
  inv : RegisteringInv state
  entered : ListedEntered state
  ordinary : state.ctx.resourceTable controlSpecialResid = noServicer
  fresh : state.ctx.requestedPayloadLen = 0

/-- A servicer is rejected before all are registered. -/
def Failed (state : Registering Queue Link) : Prop :=
  state.ret ≠ 0 ∧ state.registeredCount < state.ctx.servicerCount

theorem Registering.goesOn_iff :
    state.goesOn = true ↔ state.registeredCount < state.ctx.servicerCount ∧ state.ret = 0 := by
  simp [Registering.goesOn]

/-- The number of a registered servicer is stored as it is, and is not the reserved one. -/
theorem RegisteringInv.number (inv : RegisteringInv state) {number : Nat}
    (inside : number < state.registered.length) :
    (UInt8.ofNat number).toNat = number ∧ UInt8.ofNat number ≠ noServicer := by
  have below : number < 255 := by
    rw [← inv.counted] at inside
    exact inside.trans_le inv.numbered
  have stored := toNat_ofNat_of_numbered below.le
  constructor
  · exact stored
  · intro isNone
    rw [isNone] at stored
    exact below.ne stored.symm

theorem AllRegistered.register {initCmd : ServicerInitData Queue} {link : Option Link}
    (all : AllRegistered state) (goesOn : state.goesOn = true)
    (success : (servicerRegister state.ctx initCmd link state.registeredCount).1 = 0) :
    AllRegistered (state.register initCmd link) := by
  have inv := all.inv.register_success goesOn success
  rcases resourceTableAdd_eq_zero_iff.mp success with ⟨registers, allFree⟩
  have table : (state.register initCmd link).ctx.resourceTable =
      (resourceTableFill (UInt8.ofNat state.registeredCount) initCmd.resources
        state.ctx.resourceTable).2 := by
    rw [register_of_success success]
    exact congrArg Prod.snd (resourceTableAdd_of_ne registers)
  have registered : (state.register initCmd link).registered =
      state.registered ++ [(initCmd, link)] := by
    rw [register_of_success success]
  constructor
  case inv => exact inv
  case entered =>
    intro number servicer found resid listed
    rw [registered, List.getElem?_append] at found
    rw [table]
    by_cases inside : number < state.registered.length
    · rw [if_pos inside] at found
      have before := all.entered number servicer found resid listed
      rw [resourceTableFill_of_registered registers, before]
      rw [before]
      exact (all.inv.number inside).2
    · rw [if_neg inside] at found
      have isLast : number = state.registered.length := by
        by_contra other
        rw [List.getElem?_eq_none (by simp; omega)] at found
        cases found
      subst isLast
      simp only [Nat.sub_self, List.getElem?_cons_zero, Option.some_inj] at found
      subst found
      rw [resourceTableFill_of_allFree registers allFree listed, all.inv.counted]
  case ordinary =>
    rw [table]
    rcases resourceTableFill_entry registers with kept | ⟨_, listed, _⟩
    · exact kept.trans all.ordinary
    · exact absurd rfl (allFree.2 _ listed).1
  case fresh =>
    rw [register_of_success success]
    exact all.fresh

theorem register_failed {initCmd : ServicerInitData Queue} {link : Option Link}
    (goesOn : state.goesOn = true)
    (failed : (servicerRegister state.ctx initCmd link state.registeredCount).1 ≠ 0) :
    Failed (state.register initCmd link) := by
  rw [register_of_failure link failed]
  exact ⟨failed, (Registering.goesOn_iff.mp goesOn).1⟩

theorem allRegistered_or_failed_step {poll : Poll Queue Link}
    (before : AllRegistered state ∨ Failed state) (step : pollStep state poll = some target) :
    AllRegistered target ∨ Failed target := by
  cases step
  by_cases goesOn : state.goesOn = true
  · rw [if_pos goesOn]
    rcases before with all | failed
    · rcases poll with ⟨link, _ | initCmd⟩
      · exact .inl all
      · by_cases success : (servicerRegister state.ctx initCmd link state.registeredCount).1 = 0
        · exact .inl (all.register goesOn success)
        · exact .inr (register_failed goesOn success)
    · exact absurd (Registering.goesOn_iff.mp goesOn).2 failed.1
  · rw [if_neg goesOn]
    exact before

theorem allRegistered_start (servicerCount : Nat) (links : List Link) :
    AllRegistered (.start (.host servicerCount links : Context Queue Link)) where
  inv := registeringInv_start servicerCount links
  entered := by
    intro number registered found
    cases found
  ordinary := rfl
  fresh := rfl

/-- A successful registration registered every servicer it counted. -/
theorem allRegistered_of_success {servicerCount : Nat} {links : List Link}
    {rounds : List (Round Queue)}
    (success : (deviceControlResourcesRegister (.host servicerCount links) rounds).1 = .success) :
    AllRegistered (deviceControlResourcesRegister (.host servicerCount links) rounds).2 := by
  have executed := run_polls rounds (.start (.host servicerCount links : Context Queue Link))
  have reached := (reachable_of_run executed).invariant
    (.inl (allRegistered_start servicerCount links))
    fun _ _ _ before _ step => allRegistered_or_failed_step before step
  unfold deviceControlResourcesRegister at success ⊢
  by_cases counted :
      (Registering.loop rounds (.start (.host servicerCount links))).registeredCount =
        (Registering.loop rounds (.start
          (.host servicerCount links : Context Queue Link))).ctx.servicerCount
  · simp only [counted, if_true]
    rcases reached with all | failed
    · exact all
    · exact absurd counted (Nat.ne_of_lt failed.2)
  · simp [counted] at success

/-- The table leads from an ID to the servicer that lists it, and from any other ID
nowhere. -/
theorem AllRegistered.servicerOf_eq_some_iff (all : AllRegistered state) {resid : ControlResid}
    {servicer : Slot Queue Link} :
    state.ctx.servicerOf resid = some servicer ↔ state.Lists servicer resid := by
  unfold Context.servicerOf
  constructor
  · intro found
    by_cases registered : state.ctx.resourceTable resid = noServicer
    · simp [registered] at found
    · rw [if_neg registered] at found
      rcases all.inv.routes resid registered with ⟨initCmd, link, isRegistered, listed, stored⟩
      rw [stored, Option.some_inj] at found
      subst found
      exact ⟨initCmd, List.mem_of_getElem? isRegistered, listed, rfl⟩
  · rintro ⟨initCmd, isRegistered, listed, sameQueue⟩
    rcases List.getElem?_of_mem isRegistered with ⟨number, found⟩
    have entered := all.entered number _ found resid listed
    rcases all.inv.number (List.getElem?_eq_some_iff.mp found).1 with ⟨isNumber, notNone⟩
    have registered : state.ctx.resourceTable resid ≠ noServicer := entered.trans_ne notNone
    rcases all.inv.routes resid registered with ⟨other, link, otherFound, _, stored⟩
    rw [entered, isNumber, found, Option.some_inj, Prod.mk.injEq] at otherFound
    rcases otherFound with ⟨rfl, rfl⟩
    rw [if_neg registered, stored, ← sameQueue]

/-- No two registered servicers list one ID. -/
theorem AllRegistered.lists_unique (all : AllRegistered state) {resid : ControlResid}
    {servicer other : Slot Queue Link} (lists : state.Lists servicer resid)
    (otherLists : state.Lists other resid) : other = servicer := by
  have found := all.servicerOf_eq_some_iff.mpr otherLists
  rwa [all.servicerOf_eq_some_iff.mpr lists, Option.some_inj, eq_comm] at found

end

/-! ## Requests for registered resources -/

section
variable {Queue Link App : Type}

/-- The device once its servicers are registered. -/
def Registering.device (state : Registering Queue Link) (app : Slot Queue Link → App) :
    Device Queue Link App where
  ctx := state.ctx
  gatewayQueue := none
  app := app
  calls := []

/-- Tables and queue are as the registration left them. -/
structure Device.Follows (device : Device Queue Link App) (state : Registering Queue Link) :
    Prop where
  resourceTable : device.ctx.resourceTable = state.ctx.resourceTable
  servicerTable : device.ctx.servicerTable = state.ctx.servicerTable
  gatewayQueue : device.gatewayQueue = none

/-- A command and the buffer for its payload, which has as many bytes as it announces. -/
structure Request where
  resid : ControlResid
  cmd : ControlCmd
  payload : List UInt8

variable [DecidableEq Queue] [DecidableEq Link] (callbacks : Slot Queue Link → Callbacks App)

/-- `do_command` for the servicer that the table has for the resource. -/
def Device.request (device : Device Queue Link App) (request : Request) :
    Except Fault (Outcome Queue Link App) :=
  doCommand callbacks device (resourceTableSearch device.ctx.resourceTable request.resid).2
    request.resid request.cmd request.payload request.payload.length

/-- One request after the other. -/
def Device.requests : List Request → Device Queue Link App →
    Except Fault (Device Queue Link App)
  | [], device => .ok device
  | request :: rest, device => do
      let outcome ← device.request callbacks request
      requests rest outcome.device

/-- The request came to one call of the servicer's callback, with what was requested, and
returned what that call returned. -/
def CalledOnce (servicer : Slot Queue Link) (before : Device Queue Link App) (request : Request)
    (outcome : Outcome Queue Link App) : Prop :=
  if isControlCmdRead request.cmd then
    let result := (callbacks servicer).readCmdCb request.resid request.cmd request.payload.length
      (before.app servicer)
    outcome.ret = result.1 ∧ outcome.payload = result.2.1.toList ∧
      outcome.device.calls = before.calls ++ [.read servicer request.resid request.cmd
        request.payload.length result.1 result.2.1.toList]
  else
    let result := (callbacks servicer).writeCmdCb request.resid request.cmd request.payload
      (before.app servicer)
    outcome.ret = result.1 ∧
      outcome.device.calls = before.calls ++ [.write servicer request.resid request.cmd
        request.payload result.1]

/-- Every one of the requests comes to one call of the callback of the servicer that lists
its resource, and no assertion fails. -/
def RoutesOnce (state : Registering Queue Link) (start : Device Queue Link App)
    (requests : List Request) : Prop :=
  ∀ earlier request, earlier ++ [request] <+: requests →
    ∃ before outcome, start.requests callbacks earlier = .ok before ∧
      before.request callbacks request = .ok outcome ∧
        ∀ servicer, state.Lists servicer request.resid →
          CalledOnce callbacks servicer before request outcome

/-- The request does not ask a servicer on another tile to read nothing. -/
def Request.Accepted (state : Registering Queue Link) (request : Request) : Prop :=
  ∀ servicer, state.Lists servicer request.resid →
    servicer.Accepts request.cmd request.payload.length

variable {callbacks} {state : Registering Queue Link} {device : Device Queue Link App}
  {request : Request} {servicer : Slot Queue Link}

omit [DecidableEq Queue] [DecidableEq Link] in
theorem Registering.device_follows (app : Slot Queue Link → App) :
    (state.device app).Follows state :=
  ⟨rfl, rfl, rfl⟩

omit [DecidableEq Queue] [DecidableEq Link] in
/-- The search finds the number of the slot of the servicer that lists the ID. -/
theorem Device.Follows.routed (follows : device.Follows state) (all : AllRegistered state)
    {resid : ControlResid} (lists : state.Lists servicer resid) :
    resid ≠ controlSpecialResid ∧
      resourceTableSearch device.ctx.resourceTable resid =
        (0, state.ctx.resourceTable resid) ∧
      device.ctx.servicerTable (state.ctx.resourceTable resid).toNat = some servicer := by
  have found := all.servicerOf_eq_some_iff.mpr lists
  unfold Context.servicerOf at found
  by_cases registered : state.ctx.resourceTable resid = noServicer
  · simp [registered] at found
  · rw [if_neg registered] at found
    constructor
    · rintro rfl
      exact registered all.ordinary
    · rw [follows.resourceTable, follows.servicerTable]
      exact ⟨if_pos (.inr registered), found⟩

theorem Device.request_eq (follows : device.Follows state) (all : AllRegistered state)
    (lists : state.Lists servicer request.resid)
    (accepts : servicer.Accepts request.cmd request.payload.length) :
    device.request callbacks request = .ok (directCall callbacks servicer device request.resid
      request.cmd request.payload request.payload.length) := by
  rcases follows.routed all lists with ⟨ordinary, found, stored⟩
  unfold Device.request
  rw [found]
  exact doCommand_eq ordinary stored follows.gatewayQueue le_rfl accepts

theorem Device.request_not_accepted (follows : device.Follows state) (all : AllRegistered state)
    (lists : state.Lists servicer request.resid)
    (refuses : ¬ servicer.Accepts request.cmd request.payload.length) :
    device.request callbacks request = .error .assertion := by
  rcases follows.routed all lists with ⟨ordinary, found, stored⟩
  unfold Device.request
  rw [found]
  exact doCommand_not_accepted ordinary stored refuses

theorem directCall_calledOnce : CalledOnce callbacks servicer device request
    (directCall callbacks servicer device request.resid request.cmd request.payload
      request.payload.length) := by
  unfold CalledOnce directCall
  by_cases isRead : isControlCmdRead request.cmd = true
  · simp [isRead, Device.afterRead]
  · simp [isRead, Device.afterWrite]

theorem Device.Follows.directCall (follows : device.Follows state) {resid : ControlResid}
    {cmd : ControlCmd} {payload : List UInt8} {payloadLen : Nat} :
    (directCall callbacks servicer device resid cmd payload payloadLen).device.Follows state := by
  constructor
  case resourceTable => rw [directCall_ctx, follows.resourceTable]
  case servicerTable => rw [directCall_ctx, follows.servicerTable]
  case gatewayQueue => rw [directCall_gatewayQueue, follows.gatewayQueue]

/-- Accepted requests are all executed. -/
theorem Device.requests_of_accepted (all : AllRegistered state) {requests : List Request}
    (registered : ∀ request ∈ requests, ∃ servicer, state.Lists servicer request.resid)
    (accepted : ∀ request ∈ requests, request.Accepted state)
    (follows : device.Follows state) :
    ∃ after, device.requests callbacks requests = .ok after ∧ after.Follows state := by
  induction requests generalizing device with
  | nil => exact ⟨device, rfl, follows⟩
  | cons request rest ih =>
      rcases registered request List.mem_cons_self with ⟨servicer, lists⟩
      have executed := @Device.request_eq _ _ _ _ _ callbacks _ _ _ _ follows all lists
        (accepted request List.mem_cons_self servicer lists)
      rcases ih (fun other inRest => registered other (List.mem_cons_of_mem _ inRest))
        (fun other inRest => accepted other (List.mem_cons_of_mem _ inRest))
        follows.directCall with ⟨after, rest_, afterFollows⟩
      refine ⟨after, ?_, afterFollows⟩
      unfold Device.requests
      rw [executed]
      exact rest_

theorem Device.requests_follows (all : AllRegistered state) {requests : List Request}
    (registered : ∀ request ∈ requests, ∃ servicer, state.Lists servicer request.resid)
    {after : Device Queue Link App} (follows : device.Follows state)
    (executed : device.requests callbacks requests = .ok after) : after.Follows state := by
  induction requests generalizing device with
  | nil =>
      cases executed
      exact follows
  | cons request rest ih =>
      rcases registered request List.mem_cons_self with ⟨servicer, lists⟩
      unfold Device.requests at executed
      by_cases accepts : servicer.Accepts request.cmd request.payload.length
      · rw [Device.request_eq follows all lists accepts] at executed
        exact ih (fun other inRest => registered other (List.mem_cons_of_mem _ inRest))
          follows.directCall executed
      · rw [Device.request_not_accepted follows all lists accepts] at executed
        cases executed

/-- After a successful registration, every request comes to one call of the callback of
the servicer that lists its resource, with its payload and its result, and no assertion
fails, exactly when no read command asks a servicer on another tile for nothing. -/
theorem routesOnce_iff (callbacks : Slot Queue Link → Callbacks App)
    (servicerCount : Nat) (links : List Link) (rounds : List (Round Queue))
    (success : (deviceControlResourcesRegister (.host servicerCount links) rounds).1 = .success)
    (app : Slot Queue Link → App) (requests : List Request)
    (registered : ∀ request ∈ requests, ∃ servicer,
      (deviceControlResourcesRegister (.host servicerCount links) rounds).2.Lists servicer
        request.resid) :
    RoutesOnce callbacks (deviceControlResourcesRegister (.host servicerCount links) rounds).2
        ((deviceControlResourcesRegister (.host servicerCount links) rounds).2.device app)
        requests ↔
      ∀ request ∈ requests, request.Accepted
        (deviceControlResourcesRegister (.host servicerCount links) rounds).2 := by
  have all := allRegistered_of_success success
  constructor
  · intro routes request inRequests servicer lists
    rcases List.append_of_mem inRequests with ⟨earlier, later, rfl⟩
    rcases routes earlier request ⟨later, by simp⟩ with ⟨before, outcome, executed, called, _⟩
    have follows := Device.requests_follows all
      (fun other inEarlier => registered other (List.mem_append_left _ inEarlier))
      (Registering.device_follows app) executed
    by_contra refuses
    rw [Device.request_not_accepted follows all lists refuses] at called
    cases called
  · rintro accepted earlier request ⟨later, rfl⟩
    have inRequests : ∀ other ∈ earlier ++ [request], other ∈ earlier ++ [request] ++ later :=
      fun _ inPrefix => List.mem_append_left _ inPrefix
    rcases @Device.requests_of_accepted _ _ _ _ _ callbacks _ _ all _
      (fun other inEarlier =>
        registered other (inRequests other (List.mem_append_left _ inEarlier)))
      (fun other inEarlier => accepted other (inRequests other (List.mem_append_left _ inEarlier)))
      (Registering.device_follows app) with ⟨before, executed, follows⟩
    have isRequest := inRequests request (List.mem_append_right _ List.mem_cons_self)
    rcases registered request isRequest with ⟨servicer, lists⟩
    have called := @Device.request_eq _ _ _ _ _ callbacks _ _ _ _ follows all lists
      (accepted request isRequest servicer lists)
    refine ⟨before, _, executed, called, ?_⟩
    intro other otherLists
    have again := @Device.request_eq _ _ _ _ _ callbacks _ _ _ _ follows all otherLists
      (accepted request isRequest other otherLists)
    rw [called, Except.ok.injEq] at again
    rw [again]
    exact directCall_calledOnce

end

/-- A servicer that answers with zeros. -/
def zeroes : Callbacks Unit where
  readCmdCb := fun _ _ payloadLen _ => (.success, List.Vector.replicate payloadLen 0, ())
  writeCmdCb := fun _ _ _ _ => (.success, ())

/-- One servicer on another tile, which lists the resource ID 1. -/
def oneOffTile : Registering Unit Unit :=
  (deviceControlResourcesRegister (.host 1 [()]) [⟨none, fun _ => some ⟨(), [1]⟩⟩]).2

theorem oneOffTile_allRegistered : AllRegistered oneOffTile :=
  allRegistered_of_success (by decide)

theorem oneOffTile_lists : oneOffTile.Lists ⟨some (), ()⟩ 1 :=
  ⟨⟨(), [1]⟩, by decide, by decide, rfl⟩

theorem oneOffTile_routesOnce :
    RoutesOnce (fun _ => zeroes) oneOffTile (oneOffTile.device fun _ => ())
      [⟨1, 0x80, [0]⟩, ⟨1, 0x00, []⟩] := by
  have registered : ∀ request ∈ ([⟨1, 0x80, [0]⟩, ⟨1, 0x00, []⟩] : List Request),
      ∃ servicer, oneOffTile.Lists servicer request.resid := by
    intro request isRequest
    rcases List.mem_pair.mp isRequest with rfl | rfl <;> exact ⟨_, oneOffTile_lists⟩
  apply (routesOnce_iff (fun _ => zeroes) 1 [()] [⟨none, fun _ => some ⟨(), [1]⟩⟩] (by decide)
    (fun _ => ()) _ registered).mpr
  intro request isRequest servicer _ _ isRead
  rcases List.mem_pair.mp isRequest with rfl | rfl
  · exact Nat.one_pos
  · cases isRead

/-- A read command for nothing makes the thread on the servicer's tile fail. -/
theorem readNothing_not_routesOnce :
    oneOffTile.Lists ⟨some (), ()⟩ 1 ∧
      ¬ RoutesOnce (fun _ => zeroes) oneOffTile (oneOffTile.device fun _ => ())
        [⟨1, 0x80, []⟩] := by
  refine ⟨oneOffTile_lists, ?_⟩
  intro routes
  rcases routes [] ⟨1, 0x80, []⟩ (List.prefix_refl _) with ⟨before, outcome, executed, called, _⟩
  cases executed
  cases called

end FwkRtos.DeviceControl
