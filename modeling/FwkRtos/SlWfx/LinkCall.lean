import FwkRtos.SlWfx.LinkInvariant

/-!
# The steps of the call

The call that controls a link keeps the invariant while it sends its commands, waits for their
answers and looks at the bits.
-/

namespace FwkRtos.SlWfx.LinkControl

open FwkRtos.Transition

namespace State

variable {state target : State}

/-- The call goes on to a point where its link may be a little different: bits `fail`
and `down` may be cleared, and what was seen is noted. -/
theorem LiveInv.goOn (inv : LiveInv state) {link : Link} {new : LinkState}
    (links : target.links = Function.update state.links link new)
    (host : target.host = state.host) (fifo : target.fifo = state.fifo)
    (command : target.command = state.command)
    (initialized : target.initialized = state.initialized)
    (up : new.up = (state.links link).up) (deviceUp : new.deviceUp = (state.links link).deviceUp)
    (pending : new.pending = (state.links link).pending)
    (awaiting : new.awaiting = (state.links link).awaiting)
    (fail : new.fail = true → (state.links link).fail = true)
    (down : new.down = true → (state.links link).down = true)
    (confirming : target.point.confirming = state.point.confirming)
    (awaits : ∀ other number, (state.links other).awaiting = some number →
      target.point.Awaits other number)
    (knows : target.point.Knows target.links) :
    LiveInv target := by
  have inFlight : target.inFlight = state.inFlight := by
    rw [State.inFlight, State.inFlight, host, fifo]
  constructor
  case link =>
    intro other
    have linkInv := inv.link other
    have same : (target.links other).up = (state.links other).up ∧
        (target.links other).deviceUp = (state.links other).deviceUp ∧
        (target.links other).pending = (state.links other).pending ∧
        (target.links other).awaiting = (state.links other).awaiting ∧
        ((target.links other).fail = true → (state.links other).fail = true) ∧
        ((target.links other).down = true → (state.links other).down = true) := by
      rw [links]
      by_cases isLink : other = link
      · subst isLink
        rw [Function.update_self]
        exact ⟨up, deviceUp, pending, awaiting, fail, down⟩
      · rw [Function.update_of_ne isLink]
        exact ⟨rfl, rfl, rfl, rfl, id, id⟩
    rcases same with ⟨sameUp, sameDevice, samePending, sameAwaiting, lessFail, lessDown⟩
    constructor
    case foreseen =>
      rw [sameUp, sameAwaiting, sameDevice, samePending, inFlight]
      exact linkInv.foreseen
    case awaits =>
      intro number isAwaiting
      rw [sameAwaiting] at isAwaiting
      rcases linkInv.awaits number isAwaiting with ⟨notUp, notFail, _⟩
      rw [sameUp]
      exact ⟨notUp, Bool.eq_false_iff.mpr fun isFail => by simp [lessFail isFail] at notFail,
        awaits other number isAwaiting⟩
    case exclusive =>
      intro isUp
      rw [sameUp] at isUp
      rw [host]
      rcases linkInv.exclusive isUp with notDown | clearing
      · exact .inl (Bool.eq_false_iff.mpr fun isDown => by simp [lessDown isDown] at notDown)
      · exact .inr clearing
    case second =>
      intro op isSecond
      rw [host] at isSecond
      rw [sameUp]
      exact linkInv.second op isSecond
  case knows => exact knows
  case confirming => rw [inFlight, command, confirming, inv.confirming]
  case initialized => exact initialized.trans inv.initialized

/-- The call goes on to another point. -/
theorem LiveInv.moveOn (inv : LiveInv state) (links : target.links = state.links)
    (host : target.host = state.host) (fifo : target.fifo = state.fifo)
    (command : target.command = state.command)
    (initialized : target.initialized = state.initialized)
    (confirming : target.point.confirming = state.point.confirming)
    (awaits : ∀ other number, (state.links other).awaiting = some number →
      target.point.Awaits other number)
    (knows : target.point.Knows target.links) :
    LiveInv target :=
  inv.goOn (links.trans (Function.update_eq_self .station state.links).symm) host fifo command
    initialized rfl rfl rfl rfl id id confirming awaits knows

/-- No answer is awaited where a call needs none. -/
theorem LiveInv.noneAwaited (inv : LiveInv state) (free : state.point.Free) (link : Link) :
    (state.links link).awaiting = none := by
  rcases isAwaiting : (state.links link).awaiting with _ | number
  · rfl
  · exact absurd ((inv.link link).awaits number isAwaiting).2.2 (free.2 link number)

/-- Nothing on its way confirms a command where no call waits for it. -/
theorem LiveInv.noneConfirms (inv : LiveInv state) (free : state.point.Free) :
    state.inFlight.filterMap Message.confirms = [] := by
  have confirming := inv.confirming
  rw [free.1] at confirming
  exact (List.append_eq_nil_iff.mp confirming).1

/-- A call that needs nothing from the device moves on. -/
theorem LiveInv.pass (inv : LiveInv state) (free : state.point.Free)
    (links : target.links = state.links) (host : target.host = state.host)
    (fifo : target.fifo = state.fifo) (command : target.command = state.command)
    (initialized : target.initialized = state.initialized)
    (confirming : target.point.confirming = none)
    (knows : target.point.Knows target.links) :
    LiveInv target := by
  refine inv.moveOn links host fifo command initialized (confirming.trans free.1.symm) ?_ knows
  intro other number isAwaiting
  rw [inv.noneAwaited free other] at isAwaiting
  cases isAwaiting

theorem Meant.finish (meant : Meant state) (call : Call) {result : Result} {witnessed : Bool}
    (isMeant : result = .success → witnessed = true) :
    Meant (state.finish call result witnessed) := by
  intro returned isMember
  rcases List.mem_cons.mp isMember with rfl | isOld
  · exact isMeant
  · exact meant returned isOld

/-- `WIFI_SetMode` succeeds. -/
theorem LiveInv.modeDone (inv : LiveInv state)
    (free : state.point.Free) (mode : Link) (bringsUp : Bool) :
    LiveInv (state.modeDone mode bringsUp) := by
  cases bringsUp with
  | true => exact inv.pass free rfl rfl rfl rfl rfl rfl trivial
  | false => exact inv.pass free rfl rfl rfl rfl rfl rfl trivial

theorem Meant.modeDone (meant : Meant state) (mode : Link) (bringsUp : Bool) :
    Meant (state.modeDone mode bringsUp) := by
  cases bringsUp with
  | true => exact meant
  | false => exact meant.finish _ fun _ => rfl

/-- A link is down. -/
theorem LiveInv.downDone (inv : LiveInv state)
    (free : state.point.Free) {link : Link}
    (notUp : (state.links link).up = false) (purpose : Purpose) :
    LiveInv (state.downDone link purpose) := by
  cases purpose with
  | itself => exact inv.pass free rfl rfl rfl rfl rfl rfl trivial
  | mode bringsUp => exact inv.pass free rfl rfl rfl rfl rfl rfl trivial
  | restart => exact inv.pass free rfl rfl rfl rfl rfl rfl notUp

theorem Meant.downDone (meant : Meant state) {link : Link}
    (clearSeen : (state.links link).clearSeen = true) (purpose : Purpose) :
    Meant (state.downDone link purpose) := by
  have finished : Meant (state.finish (.takeDown link) .success (state.links link).clearSeen) :=
    meant.finish _ fun _ => clearSeen
  cases purpose with
  | itself => exact finished
  | mode bringsUp => exact finished
  | restart => exact finished

/-- The wait for the bit `down` returns. -/
theorem LiveInv.downTaken (inv : LiveInv state) {link : Link} {purpose : Purpose}
    (at_ : state.point = .downWait link purpose ∨ state.point = .downBlocked link purpose) :
    LiveInv (state.downTaken link purpose) := by
  have free : state.point.Free := by
    rcases at_ with at_ | at_ <;> simp [at_, Point.Free, Point.confirming, Point.Awaits]
  have knows : (state.links link).clearSeen = (!(state.links link).up) ∧
      ((state.links link).down = true → (state.links link).up = false) := by
    have known := inv.knows
    rcases at_ with at_ | at_ <;> rw [at_] at known <;> exact known
  refine inv.goOn rfl rfl rfl rfl rfl rfl rfl rfl rfl id (by rintro ⟨⟩) free.1.symm ?_ ?_
  · intro other number isAwaiting
    rw [inv.noneAwaited free other] at isAwaiting
    cases isAwaiting
  · simpa [State.downTaken, Point.Knows, setLink, LinkState.apply] using knows

/-- The wait for the bit `up` or `fail` returns. -/
theorem LiveInv.upTaken (inv : LiveInv state) {link : Link}
    (at_ : state.point = .upWait link ∨ state.point = .upBlocked link) :
    LiveInv (state.move (.upWoken link (state.links link).up (state.links link).fail)) := by
  have notConfirming : state.point.confirming = none := by
    rcases at_ with at_ | at_ <;> simp [at_, Point.confirming]
  have knows : (state.links link).up = true → (state.links link).successSeen = true := by
    have known := inv.knows
    rcases at_ with at_ | at_ <;> rw [at_] at known <;> exact known
  refine inv.moveOn rfl rfl rfl rfl rfl notConfirming.symm ?_ knows
  -- A command that is still awaited has left both bits clear.
  intro other number isAwaiting
  rcases (inv.link other).awaits number isAwaiting with ⟨notUp, notFail, awaits⟩
  have isLink : link = other := by
    rcases at_ with at_ | at_ <;> rw [at_] at awaits <;> exact awaits
  subst isLink
  exact ⟨rfl, notUp, notFail⟩

/-- A command is sent to bring the link up. -/
theorem LiveInv.send (inv : LiveInv state) {link : Link} (at_ : state.point = .upSend link) :
    LiveInv
      { state.setLink link ((state.links link).send state.sent) with
        point := .upConfirm link state.sent
        command := some (.bringUp link state.sent)
        sent := state.sent + 1 } := by
  have free : state.point.Free := by simp [at_, Point.Free, Point.confirming, Point.Awaits]
  have knows := inv.knows
  rw [at_] at knows
  rcases knows with ⟨notUp, notFail⟩
  constructor
  case link =>
    intro other
    have linkInv := inv.link other
    by_cases isLink : other = link
    · subst isLink
      constructor
      case foreseen =>
        rcases linkInv.foreseen with ⟨own, foreseen, pending⟩
        rw [inv.noneAwaited free] at foreseen
        rcases foresee_sent state.sent (inv.noneConfirms free) foreseen with ⟨rfl, after⟩
        refine ⟨some state.sent, ?_, ?_⟩
        · simpa [setLink, LinkState.send, inFlight] using after
        · simp [setLink, LinkState.send, pending]
      case awaits =>
        intro number isAwaiting
        have isSent : state.sent = number := by
          simpa [setLink, LinkState.send] using isAwaiting
        simp [setLink, LinkState.send, notUp, notFail, Point.Awaits, isSent]
      case exclusive =>
        intro isUp
        simp [setLink, LinkState.send, notUp] at isUp
      case second =>
        intro op isSecond
        simpa [setLink, LinkState.send] using linkInv.second op isSecond
    · constructor
      case foreseen => simpa [setLink, isLink, inFlight] using linkInv.foreseen
      case awaits =>
        intro number isAwaiting
        have wasAwaiting : (state.links other).awaiting = some number := by
          simpa [setLink, isLink] using isAwaiting
        rw [inv.noneAwaited free other] at wasAwaiting
        cases wasAwaiting
      case exclusive => simpa [setLink, isLink] using linkInv.exclusive
      case second => simpa [setLink, isLink] using linkInv.second
  case knows => simp [Point.Knows, setLink, LinkState.send, notUp]
  case confirming =>
    change state.inFlight.filterMap Message.confirms ++ _ = _
    rw [inv.noneConfirms free]
    rfl
  case initialized => exact inv.initialized

/-- A command is sent to take the link down. -/
theorem LiveInv.sendDown (inv : LiveInv state) {link : Link} {purpose : Purpose}
    (at_ : state.point = .downSend link purpose) :
    LiveInv { state.move (.downConfirm link purpose) with command := some (.takeDown link) } := by
  have free : state.point.Free := by simp [at_, Point.Free, Point.confirming, Point.Awaits]
  have knows := inv.knows
  rw [at_] at knows
  constructor
  case link =>
    intro other
    have linkInv := inv.link other
    refine ⟨linkInv.foreseen, ?_, linkInv.exclusive, linkInv.second⟩
    intro number isAwaiting
    have awaits := (linkInv.awaits number isAwaiting).2.2
    simp [at_, Point.Awaits] at awaits
  case knows => exact knows
  case confirming =>
    change state.inFlight.filterMap Message.confirms ++ _ = _
    rw [inv.noneConfirms free]
    rfl
  case initialized => exact inv.initialized

/-- The call looks whether the link is up that it is to take down. -/
theorem LiveInv.downCheck (inv : LiveInv state) (meant : Meant state) {link : Link}
    {purpose : Purpose} (at_ : state.point = .downCheck link purpose)
    (step : state.nextGo = some target) : LiveInv target ∧ Meant target := by
  have free : state.point.Free := by simp [at_, Point.Free, Point.confirming, Point.Awaits]
  have seen : LiveInv (state.setLink link
      { state.links link with clearSeen := !(state.links link).up }) := by
    refine inv.goOn rfl rfl rfl rfl rfl rfl rfl rfl rfl id id rfl ?_ ?_
    · intro other number isAwaiting
      rw [inv.noneAwaited free other] at isAwaiting
      cases isAwaiting
    · simp [setLink, at_, Point.Knows]
  have meantSeen : Meant (state.setLink link
      { state.links link with clearSeen := !(state.links link).up }) := meant
  simp only [State.nextGo, at_] at step
  by_cases isUp : (state.links link).up = true
  · rw [if_pos isUp] at step
    cases step
    refine ⟨seen.pass free rfl rfl rfl rfl rfl rfl ?_, meant⟩
    simp [State.move, setLink, Point.Knows]
  · rw [if_neg isUp] at step
    cases step
    rw [Bool.not_eq_true] at isUp
    refine ⟨seen.downDone free ?_ purpose, meantSeen.downDone ?_ purpose⟩
    · simpa [setLink] using isUp
    · simpa [setLink] using isUp

/-- The call looks at the bits that ended its wait. -/
theorem LiveInv.upWoken (inv : LiveInv state) (meant : Meant state) {link : Link}
    {up fail : Bool} (at_ : state.point = .upWoken link up fail)
    (step : state.nextGo = some target) : LiveInv target ∧ Meant target := by
  have knows := inv.knows
  have awaits : ∀ other number, (state.links other).awaiting = some number →
      link = other ∧ up = false ∧ fail = false := by
    intro other number isAwaiting
    have awaits := ((inv.link other).awaits number isAwaiting).2.2
    rw [at_] at awaits
    exact awaits
  have notConfirming : state.point.confirming = none := by simp [at_, Point.confirming]
  simp only [State.nextGo, at_] at step
  rw [at_] at knows
  by_cases isUp : up = true
  · rw [if_pos isUp] at step
    cases step
    refine ⟨inv.moveOn rfl rfl rfl rfl rfl notConfirming.symm ?_ trivial,
      meant.finish _ fun _ => knows isUp⟩
    intro other number isAwaiting
    simp [(awaits other number isAwaiting).2.1] at isUp
  · rw [if_neg isUp] at step
    by_cases isFail : fail = true
    · rw [if_pos isFail] at step
      cases step
      refine ⟨inv.moveOn rfl rfl rfl rfl rfl notConfirming.symm ?_ trivial, meant.finish _ nofun⟩
      intro other number isAwaiting
      simp [(awaits other number isAwaiting).2.2] at isFail
    · rw [if_neg isFail] at step
      cases step
      refine ⟨inv.moveOn rfl rfl rfl rfl rfl notConfirming.symm ?_ nofun, meant⟩
      intro other number isAwaiting
      rw [(awaits other number isAwaiting).1]
      rfl

/-- The call goes on. -/
theorem LiveInv.nextGo (inv : LiveInv state) (meant : Meant state)
    (step : state.nextGo = some target) : LiveInv target ∧ Meant target := by
  have knows := inv.knows
  cases at_ : state.point with
  | outside | downConfirm _ _ | downBlocked _ _ | upConfirm _ _ | upBlocked _ | resetting _ _ =>
      simp [State.nextGo, at_] at step
  | assertionFailed => simp [State.nextGo, at_] at step
  | modeCheck mode bringsUp =>
      have free : state.point.Free := by simp [at_, Point.Free, Point.confirming, Point.Awaits]
      simp only [State.nextGo, at_] at step
      split at step
      · cases step
        exact ⟨inv.modeDone free mode bringsUp, meant.modeDone mode bringsUp⟩
      · cases step
        exact ⟨inv.pass free rfl rfl rfl rfl rfl rfl trivial, meant⟩
  | modeStore mode bringsUp =>
      have free : state.point.Free := by simp [at_, Point.Free, Point.confirming, Point.Awaits]
      simp only [State.nextGo, at_, Option.some.injEq] at step
      subst step
      have stored : LiveInv { state with wifiMode := mode } :=
        inv.pass free rfl rfl rfl rfl rfl free.1 knows
      have meantStored : Meant { state with wifiMode := mode } := meant
      exact ⟨stored.modeDone free mode bringsUp, meantStored.modeDone mode bringsUp⟩
  | downCheck link purpose => exact inv.downCheck meant at_ step
  | downSend link purpose =>
      simp only [State.nextGo, at_, Option.some.injEq] at step
      subst step
      exact ⟨inv.sendDown at_, meant⟩
  | downWait link purpose =>
      simp only [State.nextGo, at_] at step
      split at step
      · cases step
        exact ⟨inv.downTaken (.inl at_), meant⟩
      · cases step
        have free : state.point.Free := by simp [at_, Point.Free, Point.confirming, Point.Awaits]
        rw [at_] at knows
        exact ⟨inv.pass free rfl rfl rfl rfl rfl rfl knows, meant⟩
  | downWoken link purpose down =>
      have free : state.point.Free := by simp [at_, Point.Free, Point.confirming, Point.Awaits]
      simp only [State.nextGo, at_] at step
      rw [at_] at knows
      rcases knows with ⟨clearSeen, notUp⟩
      by_cases isDown : down = true
      · rw [if_pos isDown] at step
        cases step
        have notUp := notUp isDown
        rw [notUp] at clearSeen
        exact ⟨inv.downDone free notUp purpose, meant.downDone clearSeen purpose⟩
      · rw [if_neg isDown] at step
        cases step
        exact ⟨inv.pass free rfl rfl rfl rfl rfl rfl (by rintro ⟨⟩), meant⟩
  | upCheck link =>
      have free : state.point.Free := by simp [at_, Point.Free, Point.confirming, Point.Awaits]
      simp only [State.nextGo, at_] at step
      by_cases isUp : (state.links link).up = true
      · rw [if_pos isUp] at step
        cases step
        exact ⟨inv.pass free rfl rfl rfl rfl rfl rfl trivial, meant⟩
      · rw [if_neg isUp] at step
        cases step
        rw [Bool.not_eq_true] at isUp
        exact ⟨inv.pass free rfl rfl rfl rfl rfl rfl isUp, meant⟩
  | upClear link =>
      have free : state.point.Free := by simp [at_, Point.Free, Point.confirming, Point.Awaits]
      rw [at_] at knows
      have notUp : (state.links link).up = false := knows
      simp only [State.nextGo, at_, notUp, Option.some.injEq] at step
      subst step
      refine ⟨inv.goOn rfl rfl rfl rfl rfl rfl rfl rfl rfl (by rintro ⟨⟩) id free.1.symm ?_ ?_,
        meant⟩
      · intro other number isAwaiting
        rw [inv.noneAwaited free other] at isAwaiting
        cases isAwaiting
      · simp [State.move, setLink, Point.Knows, LinkState.apply, notUp]
  | upSend link =>
      simp only [State.nextGo, at_, Option.some.injEq] at step
      subst step
      exact ⟨inv.send at_, meant⟩
  | upWait link =>
      simp only [State.nextGo, at_] at step
      split at step
      · cases step
        exact ⟨inv.upTaken (.inl at_), meant⟩
      · cases step
        rw [at_] at knows
        refine ⟨inv.moveOn rfl rfl rfl rfl rfl ?_ ?_ knows, meant⟩
        · simp [at_, State.move, Point.confirming]
        · intro other number isAwaiting
          have awaits := ((inv.link other).awaits number isAwaiting).2.2
          rw [at_] at awaits
          exact awaits
  | upWoken link up fail => exact inv.upWoken meant at_ step
  | refused call wrongState =>
      have free : state.point.Free := by simp [at_, Point.Free, Point.confirming, Point.Awaits]
      simp only [State.nextGo, at_] at step
      split at step
      · cases step
        exact ⟨inv.pass free rfl rfl rfl rfl rfl rfl (by rintro ⟨⟩), meant⟩
      · cases step
        exact ⟨inv.pass free rfl rfl rfl rfl rfl rfl trivial, meant.finish _ (by rintro ⟨⟩)⟩

/-- The driver fails before it has sent the command. -/
theorem LiveInv.nextSendFails (inv : LiveInv state) (meant : Meant state) {wrongState : Bool}
    (step : state.nextSendFails wrongState = some target) : LiveInv target ∧ Meant target := by
  unfold State.nextSendFails at step
  split at step
  case h_1 link purpose at_ =>
    have free : state.point.Free := by simp [at_, Point.Free, Point.confirming, Point.Awaits]
    cases step
    exact ⟨inv.pass free rfl rfl rfl rfl rfl rfl trivial, meant⟩
  case h_2 link at_ =>
    have free : state.point.Free := by simp [at_, Point.Free, Point.confirming, Point.Awaits]
    cases step
    exact ⟨inv.pass free rfl rfl rfl rfl rfl rfl trivial, meant⟩
  case h_3 => cases step

theorem LiveInv.nextTimeout (inv : LiveInv state) (meant : Meant state)
    (step : state.nextTimeout = some target) : LiveInv target ∧ Meant target := by
  unfold State.nextTimeout at step
  split at step
  case h_1 link purpose at_ =>
    cases step
    exact ⟨inv.downTaken (.inr at_), meant⟩
  case h_2 link at_ =>
    cases step
    exact ⟨inv.upTaken (.inr at_), meant⟩
  case h_3 => cases step

/-- A device that was reset, with the host task between two messages. -/
theorem LiveInv.restarted {wifiMode : Link} (call : Call) (result : Result)
    (idle : state.host = .idle) :
    LiveInv
      ({ state with
          links := fun link => (state.links link).clearBits.resetDevice
          initialized := true
          wifiMode := wifiMode
          fifo := []
          command := none }.finish call result false) := by
  constructor
  case link =>
    intro link
    constructor
    case foreseen =>
      refine ⟨none, ?_, rfl⟩
      simp [finish, inFlight, idle, LinkState.resetDevice, LinkState.clearBits]
    case awaits => exact nofun
    case exclusive => exact nofun
    case second =>
      intro op isSecond
      change state.host = _ at isSecond
      rw [idle] at isSecond
      cases isSecond
  case knows => trivial
  case confirming => simp [finish, inFlight, idle, Point.confirming]
  case initialized => rfl

end State

end FwkRtos.SlWfx.LinkControl
