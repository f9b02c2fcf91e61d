import FwkRtos.SlWfx.LinkCall

/-!
# The steps of the host task and of the device

The host task receives a message and sets or clears the bits of its link; the device sends an
indication or confirms a command.
-/

namespace FwkRtos.SlWfx.LinkControl

open FwkRtos.Transition

namespace State

variable {state target : State}

/-- The wait of the call returns when its bits are set. -/
theorem LiveInv.release (inv : LiveInv state) : LiveInv state.release := by
  unfold State.release
  split
  case h_1 link purpose at_ =>
    split
    · exact inv.downTaken (.inr at_)
    · exact inv
  case h_2 link at_ =>
    split
    · exact inv.upTaken (.inr at_)
    · exact inv
  case h_3 => exact inv

theorem release_frame (state : State) :
    state.release.returns = state.returns ∧ state.release.initialized = state.initialized ∧
      (state.point = .outside → state.release.point = .outside) := by
  unfold State.release
  split
  case h_1 link purpose at_ =>
    split
    · exact ⟨rfl, rfl, by simp [at_]⟩
    · exact ⟨rfl, rfl, id⟩
  case h_2 link at_ =>
    split
    · exact ⟨rfl, rfl, by simp [at_]⟩
    · exact ⟨rfl, rfl, id⟩
  case h_3 => exact ⟨rfl, rfl, id⟩

theorem inFlight_handling {message : Message} (at_ : state.host = .handling message) :
    state.inFlight = message :: state.fifo := by
  simp [inFlight, at_]

theorem inFlight_of_not_handling (at_ : ∀ message, state.host ≠ .handling message) :
    state.inFlight = state.fifo := by
  unfold inFlight
  split
  · exact absurd ‹_› (at_ _)
  · rfl

/-- What the first operation of a callback does to its link. -/
theorem foresee_first {link : Link} {indication : Indication} {before : LinkState}
    {up : Bool} {own : Option Nat}
    (foreseen : foresee link (before.up, before.awaiting) (.indication link indication) =
      some (up, own)) :
    let after := (before.answer indication.answers).apply
      (slWfxHostPostEvent link indication).first
    after.up = up ∧ after.awaiting = own ∧
      (up = true → before.up = true ∨ before.awaiting ≠ none ∧ own = none) := by
  rw [slWfxHostPostEvent_eq]
  rcases indication with answers | answers | _
  · rcases answers with _ | number
    · cases isUp : before.up with
      | false => simp [foresee, isUp] at foreseen
      | true =>
          have same : up = true ∧ own = before.awaiting := by
            simpa [foresee, isUp, eq_comm] using foreseen
          rcases same with ⟨rfl, rfl⟩
          simp [LinkState.apply, Indication.answers]
    · by_cases isOwn : before.awaiting = some number
      · have same : up = true ∧ own = none := by
          simpa [foresee, isOwn, eq_comm] using foreseen
        rcases same with ⟨rfl, rfl⟩
        simp [LinkState.apply, LinkState.answer, Indication.answers, isOwn]
      · simp [foresee, isOwn] at foreseen
  · rcases answers with _ | number
    · have same : up = false ∧ own = before.awaiting := by
        simpa [foresee, eq_comm] using foreseen
      rcases same with ⟨rfl, rfl⟩
      simp [LinkState.apply, Indication.answers]
    · by_cases isOwn : before.awaiting = some number
      · have same : up = false ∧ own = none := by
          simpa [foresee, isOwn, eq_comm] using foreseen
        rcases same with ⟨rfl, rfl⟩
        simp [LinkState.apply, LinkState.answer, Indication.answers, isOwn]
      · simp [foresee, isOwn] at foreseen
  · have same : up = false ∧ own = before.awaiting := by
      simpa [foresee, eq_comm] using foreseen
    rcases same with ⟨rfl, rfl⟩
    simp [LinkState.apply, Indication.answers]

/-- A callback sets the bit `up` at first, or clears it at first. -/
theorem slWfxHostPostEvent_cases (link : Link) (indication : Indication) :
    (slWfxHostPostEvent link indication).first = .set .up ∧
        (slWfxHostPostEvent link indication).second = .clear .down ∨
      (slWfxHostPostEvent link indication).first = .clear .up ∧
        ((slWfxHostPostEvent link indication).second = .set .fail ∨
          (slWfxHostPostEvent link indication).second = .set .down) := by
  rw [slWfxHostPostEvent_eq]
  cases indication with
  | success answers => exact .inl ⟨rfl, rfl⟩
  | failure answers => exact .inr ⟨rfl, .inl rfl⟩
  | lost => exact .inr ⟨rfl, .inr rfl⟩

/-- The second operation of a callback. -/
theorem LiveInv.second (inv : LiveInv state) {link : Link} {op : Op}
    (at_ : state.host = .second link op)
    (undisturbed : op = .set .fail →
      state.point ≠ .upSend link ∧ (state.links link).awaiting = none) :
    LiveInv
      { state.setLink link ((state.links link).apply op) with host := .idle } := by
  have isSecond := (inv.link link).second op at_
  have inFlight : state.inFlight = state.fifo :=
    inFlight_of_not_handling fun message => by simp [at_]
  have same : ((state.links link).apply op).up = (state.links link).up ∧
      ((state.links link).apply op).awaiting = (state.links link).awaiting ∧
      ((state.links link).apply op).deviceUp = (state.links link).deviceUp ∧
      ((state.links link).apply op).pending = (state.links link).pending := by
    rcases isSecond with rfl | ⟨rfl | rfl, _⟩ <;> exact ⟨rfl, rfl, rfl, rfl⟩
  rcases same with ⟨sameUp, sameAwaiting, sameDevice, samePending⟩
  constructor
  case link =>
    intro other
    have linkInv := inv.link other
    by_cases isLink : other = link
    · subst isLink
      constructor
      case foreseen =>
        simpa [setLink, sameUp, sameAwaiting, sameDevice, samePending, State.inFlight, at_]
          using linkInv.foreseen
      case awaits =>
        intro number isAwaiting
        have wasAwaiting : (state.links other).awaiting = some number := by
          simpa [setLink, sameAwaiting] using isAwaiting
        rcases linkInv.awaits number wasAwaiting with ⟨notUp, notFail, awaits⟩
        have stillNotFail : ((state.links other).apply op).fail = false := by
          rcases isSecond with rfl | ⟨rfl | rfl, _⟩
          · exact notFail
          · have noneAwaited := (undisturbed rfl).2
            rw [noneAwaited] at wasAwaiting
            cases wasAwaiting
          · exact notFail
        exact ⟨by simpa [setLink, sameUp] using notUp, by simpa [setLink] using stillNotFail,
          awaits⟩
      case exclusive =>
        intro isUp
        rcases isSecond with rfl | ⟨_, notUp⟩
        · exact .inl (by simp [setLink, LinkState.apply])
        · simp [setLink, sameUp, notUp] at isUp
      case second => rintro op ⟨⟩
    · constructor
      case foreseen => simpa [setLink, isLink, State.inFlight, at_] using linkInv.foreseen
      case awaits => simpa [setLink, isLink] using linkInv.awaits
      case exclusive =>
        intro isUp
        have wasUp : (state.links other).up = true := by simpa [setLink, isLink] using isUp
        rcases linkInv.exclusive wasUp with notDown | clearing
        · exact .inl (by simpa [setLink, isLink] using notDown)
        · rw [at_] at clearing
          cases clearing
          exact absurd rfl isLink
      case second => rintro op ⟨⟩
  case knows =>
    have allows : state.point.Allows link (state.links link) op := by
      rcases isSecond with rfl | ⟨rfl | rfl, notUp⟩
      · trivial
      · exact (undisturbed rfl).1
      · exact notUp
    have knows := inv.knows.apply none allows
    rw [LinkState.answer_none] at knows
    exact knows
  case confirming =>
    have confirming := inv.confirming
    rw [inFlight] at confirming
    exact confirming
  case initialized => exact inv.initialized

/-- The first operation of a callback. -/
theorem LiveInv.first (inv : LiveInv state) {link : Link} {indication : Indication}
    (at_ : state.host = .handling (.indication link indication)) :
    LiveInv
      { state.setLink link (((state.links link).answer indication.answers).apply
          (slWfxHostPostEvent link indication).first) with
        host := .second link (slWfxHostPostEvent link indication).second } := by
  have inFlight := inFlight_handling at_
  have linkInv := inv.link link
  rcases linkInv.foreseen with ⟨last, foreseen, pending⟩
  rw [inFlight] at foreseen
  rcases Option.bind_eq_some_iff.mp foreseen with ⟨⟨up, own⟩, first, rest⟩
  rcases foresee_first first with ⟨isUp, isOwn, raised⟩
  have callback := slWfxHostPostEvent_cases link indication
  generalize (slWfxHostPostEvent link indication).first = firstOp at *
  generalize (slWfxHostPostEvent link indication).second = secondOp at *
  have same : (((state.links link).answer indication.answers).apply firstOp).deviceUp =
        (state.links link).deviceUp ∧
      (((state.links link).answer indication.answers).apply firstOp).pending =
        (state.links link).pending ∧
      (((state.links link).answer indication.answers).apply firstOp).fail =
        (state.links link).fail ∧
      (((state.links link).answer indication.answers).apply firstOp).down =
        (state.links link).down := by
    rcases callback with ⟨rfl, _⟩ | ⟨rfl, _⟩ <;> exact ⟨rfl, rfl, rfl, rfl⟩
  rcases same with ⟨sameDevice, samePending, sameFail, sameDown⟩
  have notSecond : ∀ link op, state.host ≠ .second link op := fun _ _ => by simp [at_]
  constructor
  case link =>
    intro other
    by_cases isLink : other = link
    · subst isLink
      constructor
      case foreseen =>
        refine ⟨last, ?_, by simpa [setLink, samePending] using pending⟩
        simpa [setLink, isUp, isOwn, sameDevice, State.inFlight] using rest
      case awaits =>
        intro number isAwaiting
        have stillAwaiting : own = some number := by simpa [setLink, isOwn] using isAwaiting
        have wasAwaiting : (state.links other).awaiting = some number := by
          rw [← isOwn] at stillAwaiting
          rcases callback with ⟨rfl, _⟩ | ⟨rfl, _⟩ <;>
            exact LinkState.awaiting_of_answer stillAwaiting
        rcases linkInv.awaits number wasAwaiting with ⟨notUp, notFail, awaits⟩
        have stillNotUp : up = false := by
          refine Bool.eq_false_iff.mpr fun isRaised => ?_
          rcases raised isRaised with wasUp | ⟨_, answered⟩
          · simp [notUp] at wasUp
          · simp [answered] at stillAwaiting
        exact ⟨by simpa [setLink, isUp] using stillNotUp,
          by simpa [setLink, sameFail] using notFail, awaits⟩
      case exclusive =>
        intro isRaised
        rcases callback with ⟨_, rfl⟩ | ⟨rfl, _⟩
        · exact .inr rfl
        · simp [setLink, LinkState.apply] at isRaised
      case second =>
        intro op isOp
        cases isOp
        rcases callback with ⟨_, rfl⟩ | ⟨rfl, isSecond⟩
        · exact .inl rfl
        · exact .inr ⟨isSecond, by simp [setLink, LinkState.apply]⟩
    · have otherInv := inv.link other
      constructor
      case foreseen =>
        have foreseen := otherInv.foreseen
        rw [inFlight] at foreseen
        simpa [run, foresee, setLink, isLink, Ne.symm isLink, State.inFlight] using foreseen
      case awaits => simpa [setLink, isLink] using otherInv.awaits
      case exclusive =>
        intro isRaised
        have wasUp : (state.links other).up = true := by simpa [setLink, isLink] using isRaised
        rcases otherInv.exclusive wasUp with notDown | clearing
        · exact .inl (by simpa [setLink, isLink] using notDown)
        · exact absurd clearing (notSecond _ _)
      case second =>
        intro op isOp
        cases isOp
        exact absurd rfl isLink
  case knows =>
    refine inv.knows.apply _ ?_
    rcases callback with ⟨rfl, _⟩ | ⟨rfl, _⟩
    · have isRaised : up = true := by rw [← isUp]; rfl
      rcases raised isRaised with wasUp | ⟨isAwaited, _⟩
      · exact .inl wasUp
      · rcases Option.ne_none_iff_exists'.mp isAwaited with ⟨number, awaiting⟩
        exact .inr ⟨number, (linkInv.awaits number awaiting).2.2⟩
    · trivial
  case confirming =>
    have confirming := inv.confirming
    rw [inFlight] at confirming
    exact confirming
  case initialized => exact inv.initialized

/-- The host task receives a message. -/
theorem LiveInv.receive (inv : LiveInv state) {message : Message} {rest : List Message}
    (at_ : state.host = .idle) (fifo : state.fifo = message :: rest) :
    LiveInv { state with host := .handling message, fifo := rest } := by
  have inFlight : state.inFlight = message :: rest := by simp [State.inFlight, at_, fifo]
  constructor
  case link =>
    intro link
    have linkInv := inv.link link
    constructor
    case foreseen =>
      have foreseen := linkInv.foreseen
      rw [inFlight] at foreseen
      exact foreseen
    case awaits => exact linkInv.awaits
    case exclusive =>
      intro isUp
      rcases linkInv.exclusive isUp with notDown | clearing
      · exact .inl notDown
      · rw [at_] at clearing
        cases clearing
    case second => rintro op ⟨⟩
  case knows => exact inv.knows
  case confirming =>
    have confirming := inv.confirming
    rw [inFlight] at confirming
    exact confirming
  case initialized => exact inv.initialized

theorem settle_links (state : State) (command : Command) (status : Status) (link : Link) :
    ∃ answers, (state.settle command status).links link = (state.links link).answer answers := by
  cases command with
  | takeDown _ => exact ⟨none, (LinkState.answer_none _).symm⟩
  | bringUp about number =>
      by_cases isOk : status = .ok
      · exact ⟨none, by simp [settle, isOk]⟩
      · by_cases isAbout : link = about
        · subst isAbout
          exact ⟨some number, by simp [settle, isOk, setLink]⟩
        · exact ⟨none, by simp [settle, isOk, setLink, isAbout]⟩

theorem settle_frame (state : State) (command : Command) (status : Status) :
    (state.settle command status).fifo = state.fifo ∧
      (state.settle command status).command = state.command ∧
      (state.settle command status).returns = state.returns ∧
      (state.settle command status).initialized = state.initialized := by
  unfold settle
  split
  · split
    · exact ⟨rfl, rfl, rfl, rfl⟩
    · exact ⟨rfl, rfl, rfl, rfl⟩
  · exact ⟨rfl, rfl, rfl, rfl⟩

theorem foresee_settle (state : State) (command : Command) (status : Status) (link : Link) :
    foresee link ((state.links link).up, (state.links link).awaiting)
        (.confirmation command status) =
      some (((state.settle command status).links link).up,
        ((state.settle command status).links link).awaiting) := by
  cases command with
  | takeDown _ => rfl
  | bringUp about number =>
      by_cases isOk : status = .ok
      · simp [foresee, settle, isOk]
      · by_cases isAbout : link = about
        · subst isAbout
          by_cases isOwn : (state.links link).awaiting = some number <;>
            simp [foresee, settle, isOk, setLink, LinkState.answer, isOwn]
        · simp [foresee, settle, isOk, setLink, isAbout, Ne.symm isAbout]

/-- A call that waits for a confirmation has sent the command. -/
theorem Point.cases_of_confirming {point : Point} {command : Command}
    (confirming : point.confirming = some command) :
    (∃ link number, point = .upConfirm link number ∧ command = .bringUp link number) ∨
      ∃ link purpose, point = .downConfirm link purpose ∧ command = .takeDown link := by
  unfold Point.confirming at confirming
  split at confirming
  · cases confirming
    exact .inl ⟨_, _, rfl, rfl⟩
  · cases confirming
    exact .inr ⟨_, _, rfl, rfl⟩
  · cases confirming

/-- The host task passes a confirmation on to the call. -/
theorem LiveInv.confirmed (inv : LiveInv state) {command : Command} {status : Status}
    (at_ : state.host = .handling (.confirmation command status)) :
    LiveInv
      { state.settle command status with
        point := confirmed status state.point
        host := .idle } := by
  have inFlight := inFlight_handling at_
  rcases settle_frame state command status with ⟨sameFifo, sameCommand, _, sameInitialized⟩
  have confirming := inv.confirming
  rw [inFlight] at confirming
  have isConfirming : state.point.confirming = some command ∧
      state.fifo.filterMap Message.confirms = [] ∧ state.command = none := by
    rcases isCommand : state.point.confirming with _ | other
    · simp [isCommand, Message.confirms] at confirming
    · have parts : command = other ∧ state.fifo.filterMap Message.confirms = [] ∧
          state.command = none := by
        simpa [isCommand, Message.confirms] using confirming
      exact ⟨by rw [parts.1], parts.2⟩
  rcases isConfirming with ⟨isConfirming, noOther, noneToConfirm⟩
  have notClearing : ∀ link, (state.links link).up = true → (state.links link).down = false := by
    intro link isUp
    rcases (inv.link link).exclusive isUp with notDown | clearing
    · exact notDown
    · rw [at_] at clearing
      cases clearing
  have knows := inv.knows
  constructor
  case link =>
    intro link
    have linkInv := inv.link link
    rcases settle_links state command status link with ⟨answers, settled⟩
    constructor
    case foreseen =>
      rcases linkInv.foreseen with ⟨last, foreseen, pending⟩
      rw [inFlight, run, foresee_settle, Option.bind_some] at foreseen
      refine ⟨last, ?_, ?_⟩
      · rw [settled] at foreseen
        simpa [State.inFlight, sameFifo, settled] using foreseen
      · simpa [settled] using pending
    case awaits =>
      intro number isAwaiting
      change ((state.settle command status).links link).awaiting = some number at isAwaiting
      have wasAwaiting : (state.links link).awaiting = some number := by
        rw [settled] at isAwaiting
        exact LinkState.awaiting_of_answer isAwaiting
      rcases linkInv.awaits number wasAwaiting with ⟨notUp, notFail, awaits⟩
      refine ⟨by simpa [settled] using notUp, by simpa [settled] using notFail, ?_⟩
      rcases Point.cases_of_confirming isConfirming with
        ⟨about, sent, isPoint, rfl⟩ | ⟨about, purpose, isPoint, rfl⟩
      · rw [isPoint] at awaits
        rcases awaits with ⟨rfl, rfl⟩
        -- A command that was refused is not awaited any more.
        have isOk : status = .ok := by
          by_contra notOk
          simp [settle, notOk, setLink, LinkState.answer, wasAwaiting] at isAwaiting
        simp [isPoint, State.confirmed, isOk, Point.Awaits]
      · rw [isPoint] at awaits
        cases awaits
    case exclusive =>
      intro isUp
      have wasUp : (state.links link).up = true := by simpa [settled] using isUp
      exact .inl (by simpa [settled] using notClearing link wasUp)
    case second => rintro _ ⟨⟩
  case knows =>
    rcases Point.cases_of_confirming isConfirming with
      ⟨about, sent, isPoint, rfl⟩ | ⟨about, purpose, isPoint, rfl⟩
    · rcases settle_links state (.bringUp about sent) status about with ⟨answers, settled⟩
      rw [isPoint] at knows
      by_cases isOk : status = .ok
      · simpa [isPoint, State.confirmed, isOk, settle, Point.Knows] using knows
      · simp [isPoint, State.confirmed, isOk, Point.Knows]
    · rw [isPoint] at knows
      by_cases isOk : status = .ok
      · have clearSeen : (state.links about).clearSeen = !(state.links about).up := knows
        have exclusive : (state.links about).down = true → (state.links about).up = false :=
          fun isDown => Bool.eq_false_iff.mpr fun isUp => by simp [notClearing about isUp] at isDown
        simpa [isPoint, State.confirmed, isOk, settle, Point.Knows]
          using And.intro clearSeen exclusive
      · simp [isPoint, State.confirmed, isOk, Point.Knows]
  case confirming =>
    have none_ : (State.confirmed status state.point).confirming = none := by
      rcases Point.cases_of_confirming isConfirming with
        ⟨about, sent, isPoint, _⟩ | ⟨about, purpose, isPoint, _⟩ <;>
      · by_cases isOk : status = .ok <;>
          simp [isPoint, State.confirmed, isOk, Point.confirming]
    simp [State.inFlight, sameFifo, sameCommand, noOther, noneToConfirm, none_]
  case initialized => exact sameInitialized.trans inv.initialized

theorem inFlight_append (state : State) (message : Message) :
    { state with fifo := state.fifo ++ [message] }.inFlight = state.inFlight ++ [message] := by
  unfold inFlight
  split <;> simp_all

/-- What the device indicates is foreseen by its view. -/
theorem foresee_indicate {link : Link} {indication : Indication} {before after : LinkState}
    {own : Option Nat} (pending : before.pending = own.toList)
    (indicated : before.indicate indication = some after) :
    ∃ last, foresee link (before.deviceUp, own) (.indication link indication) =
        some (after.deviceUp, last) ∧ after.pending = last.toList := by
  rcases indication with answers | answers | _
  · rcases answers with _ | number
    · cases isUp : before.deviceUp with
      | false => simp [LinkState.indicate, isUp] at indicated
      | true =>
          simp only [LinkState.indicate, isUp, if_true, Option.some.injEq] at indicated
          subst indicated
          exact ⟨own, by simp [foresee, isUp], pending⟩
    · simp only [LinkState.indicate, pending, Option.mem_toList] at indicated
      split at indicated
      · next isOwn =>
          cases indicated
          obtain rfl := isOwn
          exact ⟨none, by simp [foresee], by simp⟩
      · cases indicated
  · rcases answers with _ | number
    · cases indicated
      exact ⟨own, by simp [foresee], pending⟩
    · simp only [LinkState.indicate, pending, Option.mem_toList] at indicated
      split at indicated
      · next isOwn =>
          cases indicated
          obtain rfl := isOwn
          exact ⟨none, by simp [foresee], by simp⟩
      · cases indicated
  · cases indicated
    exact ⟨own, by simp [foresee], pending⟩

theorem indicate_frame {before after : LinkState} {indication : Indication}
    (indicated : before.indicate indication = some after) :
    after =
      { before with deviceUp := after.deviceUp, pending := after.pending } := by
  rcases indication with (_ | number) | (_ | number) | _ <;>
    simp only [LinkState.indicate] at indicated
  · split at indicated <;> cases indicated
    rfl
  · split at indicated <;> cases indicated
    rfl
  · cases indicated
    rfl
  · split at indicated <;> cases indicated
    rfl
  · cases indicated
    rfl

/-- The device sends a message, whereby only its own view of a link changes. -/
theorem LiveInv.sent (inv : LiveInv state) {message : Message} {links : Link → LinkState}
    {command : Option Command}
    (frame : ∀ link, links link =
      { state.links link with
        deviceUp := (links link).deviceUp
        pending := (links link).pending })
    (foreseen : ∀ link own, (state.links link).pending = own.toList →
      ∃ last, foresee link ((state.links link).deviceUp, own) message =
          some ((links link).deviceUp, last) ∧ (links link).pending = last.toList)
    (confirms : message.confirms.toList ++ command.toList = state.command.toList) :
    LiveInv
      { state with
        links := links
        command := command
        fifo := state.fifo ++ [message] } := by
  have inFlight : State.inFlight
      { state with
        links := links
        command := command
        fifo := state.fifo ++ [message] } = state.inFlight ++ [message] :=
    inFlight_append state message
  constructor
  case link =>
    intro link
    have linkInv := inv.link link
    have same := frame link
    constructor
    case foreseen =>
      rcases linkInv.foreseen with ⟨own, before, pending⟩
      rcases foreseen link own pending with ⟨last, step, stillPending⟩
      refine ⟨last, ?_, stillPending⟩
      rw [inFlight, run_concat_eq_some_iff]
      refine ⟨_, ?_, step⟩
      change run (foresee link) ((links link).up, (links link).awaiting) _ = _
      rw [same]
      exact before
    case awaits =>
      change ∀ number, (links link).awaiting = some number →
        (links link).up = false ∧ (links link).fail = false ∧ _
      rw [same]
      exact linkInv.awaits
    case exclusive =>
      change (links link).up = true → (links link).down = false ∨ _
      rw [same]
      exact linkInv.exclusive
    case second =>
      intro op isSecond
      have sameUp : (links link).up = (state.links link).up := by rw [same]
      change op = Op.clear .down ∨ (op = Op.set .fail ∨ op = Op.set .down) ∧
        (links link).up = false
      rw [sameUp]
      exact linkInv.second op isSecond
  case knows =>
    refine inv.knows.of_view ?_
    intro link
    exact frame link
  case confirming =>
    rw [inFlight, List.filterMap_append, List.append_assoc]
    have one : [message].filterMap Message.confirms = message.confirms.toList := by
      cases isConfirming : message.confirms <;> simp [isConfirming]
    rw [one, confirms]
    exact inv.confirming
  case initialized => exact inv.initialized

theorem LiveInv.nextIndicate (inv : LiveInv state) {link : Link} {indication : Indication}
    (step : state.nextIndicate link indication = some target) : LiveInv target := by
  rcases Option.map_eq_some_iff.mp step with ⟨new, indicated, rfl⟩
  refine inv.sent ?_ ?_ rfl
  · intro other
    by_cases isLink : other = link
    · subst isLink
      simpa [setLink] using indicate_frame indicated
    · simp [setLink, isLink]
  · intro other own pending
    by_cases isLink : other = link
    · subst isLink
      simpa [setLink] using foresee_indicate pending indicated
    · exact ⟨own, by simp [foresee, setLink, isLink, Ne.symm isLink],
        by simpa [setLink, isLink] using pending⟩

/-- A command that is refused is no longer pending. -/
theorem foresee_refused (state : State) (command : Command) (status : Status) (link : Link)
    {own : Option Nat} (pending : (state.links link).pending = own.toList) :
    ∃ last, foresee link ((state.links link).deviceUp, own) (.confirmation command status) =
        some (((state.refused command status).links link).deviceUp, last) ∧
      ((state.refused command status).links link).pending = last.toList := by
  cases command with
  | takeDown _ => exact ⟨own, rfl, pending⟩
  | bringUp about number =>
      by_cases isOk : status = .ok
      · exact ⟨own, by simp [foresee, State.refused, isOk],
          by simpa [State.refused, isOk] using pending⟩
      · by_cases isAbout : link = about
        · subst isAbout
          by_cases isOwn : own = some number
          · subst isOwn
            exact ⟨none, by simp [foresee, State.refused, isOk, setLink],
              by simp [State.refused, isOk, setLink, pending]⟩
          · refine ⟨own, by simp [foresee, State.refused, isOk, isOwn, setLink], ?_⟩
            have notMember : number ∉ own.toList := by simpa [eq_comm] using isOwn
            simp [State.refused, isOk, setLink, pending, List.erase_of_not_mem notMember]
        · exact ⟨own, by simp [foresee, State.refused, isOk, setLink, isAbout, Ne.symm isAbout],
            by simpa [State.refused, isOk, setLink, isAbout] using pending⟩

theorem refused_frame (state : State) (command : Command) (status : Status) :
    state.refused command status =
        { state with links := (state.refused command status).links } ∧
      ∀ link, (state.refused command status).links link =
        { state.links link with
          pending := ((state.refused command status).links link).pending } := by
  unfold State.refused
  split
  case h_1 about number =>
    split
    · exact ⟨rfl, fun _ => rfl⟩
    · refine ⟨rfl, fun link => ?_⟩
      by_cases isAbout : link = about
      · subst isAbout
        simp [setLink]
      · simp [setLink, isAbout]
  case h_2 => exact ⟨rfl, fun _ => rfl⟩

theorem LiveInv.nextConfirm (inv : LiveInv state) {status : Status}
    (step : state.nextConfirm status = some target) : LiveInv target := by
  rcases Option.map_eq_some_iff.mp step with ⟨command, isCommand, rfl⟩
  rcases refused_frame state command status with ⟨same, frame⟩
  rw [same]
  refine inv.sent ?_ ?_ ?_
  · intro link
    rw [frame link]
  · exact fun link own pending => foresee_refused state command status link pending
  · simp [Message.confirms, isCommand]

/-- An operation of the host task on a link behind an answer. -/
theorem operate_answered (state : State) (link : Link) (answers : Option Nat) (host : HostPoint)
    (op : Op) :
    ({ state.setLink link ((state.links link).answer answers) with host := host } : State).operate
        link op =
      match op with
      | .set _ =>
          State.release
            { state.setLink link (((state.links link).answer answers).apply op) with host := host }
      | .clear _ =>
          { state.setLink link (((state.links link).answer answers).apply op) with
            host := host } := by
  cases op <;> simp [operate, setLink]

/-- The host task goes on. -/
theorem LiveInv.nextHost (inv : LiveInv state) (undisturbed : state.Undisturbed .host)
    (step : state.nextHost = some target) : LiveInv target := by
  unfold State.nextHost at step
  split at step
  case h_1 at_ =>
    split at step
    case h_1 message rest isFifo =>
      cases step
      exact inv.receive at_ isFifo
    case h_2 => cases step
  case h_2 link indication at_ =>
    have applied := inv.first at_
    rcases callback : slWfxHostPostEvent link indication with ⟨about, firstOp, secondOp⟩
    have isAbout : about = link := by
      have same := slWfxHostPostEvent_eq link indication
      rw [callback] at same
      cases indication <;> cases same <;> rfl
    subst isAbout
    rw [callback] at applied
    simp only [callback, operate_answered, Option.some.injEq] at step
    subst step
    cases firstOp with
    | set bit => exact applied.release
    | clear bit => exact applied
  case h_3 command status at_ =>
    cases step
    exact inv.confirmed at_
  case h_4 link op at_ =>
    have applied := inv.second at_ (by
      rintro rfl
      exact undisturbed link (by simp [HostPoint.failing, at_]))
    cases step
    cases op with
    | set bit => exact applied.release
    | clear bit => exact applied

end State

end FwkRtos.SlWfx.LinkControl
