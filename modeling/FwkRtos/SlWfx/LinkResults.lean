import FwkRtos.SlWfx.LinkDevice

/-!
# Results of the calls

In an undisturbed run a call that brings a link up returns only when its command
was answered, or resets the device.  So nothing that is still to be received sets
the bit `up` outside the waits for an answer, unless it is set already.
-/

namespace FwkRtos.SlWfx.LinkControl

open FwkRtos.Transition

namespace State

variable {state target : State}

/-! ## Frames -/

/-- Neither returned results nor the initialization change, and where no call is under way
none comes to be. -/
structure Keeps (state target : State) : Prop where
  returns : target.returns = state.returns
  initialized : target.initialized = state.initialized
  outside : state.point = .outside → target.point = .outside

theorem keeps_operate (state : State) (link : Link) (op : Op) :
    Keeps state (state.operate link op) := by
  cases op with
  | set bit =>
      rcases release_frame (state.setLink link ((state.links link).apply (.set bit))) with
        ⟨returns, initialized, outside⟩
      exact ⟨returns, initialized, outside⟩
  | clear bit => exact ⟨rfl, rfl, id⟩

theorem keeps_nextHost (step : state.nextHost = some target) : Keeps state target := by
  unfold State.nextHost at step
  split at step
  case h_1 =>
    split at step
    · cases step
      exact ⟨rfl, rfl, id⟩
    · cases step
  case h_2 link indication _ =>
    cases step
    rcases keeps_operate
        { state.setLink link ((state.links link).answer indication.answers) with
          host := .second (slWfxHostPostEvent link indication).link
            (slWfxHostPostEvent link indication).second }
        (slWfxHostPostEvent link indication).link (slWfxHostPostEvent link indication).first with
      ⟨returns, initialized, outside⟩
    exact ⟨returns, initialized, outside⟩
  case h_3 command status _ =>
    rcases settle_frame state command status with ⟨_, _, returns, initialized⟩
    cases step
    refine ⟨returns, initialized, ?_⟩
    intro isOutside
    simp [State.confirmed, isOutside]
  case h_4 link op _ =>
    cases step
    rcases keeps_operate { state with host := .idle } link op with ⟨returns, initialized, outside⟩
    exact ⟨returns, initialized, outside⟩

theorem keeps_nextIndicate {link : Link} {indication : Indication}
    (step : state.nextIndicate link indication = some target) : Keeps state target := by
  rcases Option.map_eq_some_iff.mp step with ⟨new, _, rfl⟩
  exact ⟨rfl, rfl, id⟩

theorem keeps_nextConfirm {status : Status} (step : state.nextConfirm status = some target) :
    Keeps state target := by
  rcases Option.map_eq_some_iff.mp step with ⟨command, _, rfl⟩
  rw [(refused_frame state command status).1]
  exact ⟨rfl, rfl, id⟩

/-! ## Undisturbed runs -/

theorem Inv.good (inv : Inv state) : Good state := by
  refine ⟨?_, inv.meant⟩
  intro failed
  rcases inv.live with live | ⟨_, outside⟩
  · have knows := live.knows
    rw [failed] at knows
    exact knows
  · rw [outside] at failed
    cases failed

/-- A call is under way only while the module is initialized. -/
theorem Inv.live_of_point (inv : Inv state) (inside : state.point ≠ .outside) : LiveInv state := by
  rcases inv.live with live | ⟨_, outside⟩
  · exact live
  · exact absurd outside inside

theorem Inv.of_live (both : LiveInv target ∧ Meant target) : Inv target :=
  ⟨both.2, .inl both.1⟩

/-- A step of the host task or of the device. -/
theorem Inv.keep (inv : Inv state) (keeps : Keeps state target)
    (live : LiveInv state → LiveInv target) : Inv target := by
  constructor
  case meant =>
    unfold Meant
    rw [keeps.returns]
    exact inv.meant
  case live =>
    rcases inv.live with isLive | ⟨notInitialized, outside⟩
    · exact .inl (live isLive)
    · exact .inr ⟨keeps.initialized.trans notInitialized, keeps.outside outside⟩

theorem Inv.nextEnter (inv : Inv state) {call : Call}
    (step : state.nextEnter call = some target) : Inv target := by
  unfold State.nextEnter at step
  split at step
  case isFalse => cases step
  case isTrue entered =>
    rcases entered with ⟨outside, initialized⟩
    have live : LiveInv state := by
      rcases inv.live with live | ⟨notInitialized, _⟩
      · exact live
      · rw [initialized] at notInitialized
        cases notInitialized
    have free : state.point.Free := by simp [outside, Point.Free, Point.confirming, Point.Awaits]
    cases call <;> cases step <;>
      exact Inv.of_live ⟨live.pass free rfl rfl rfl rfl rfl rfl trivial, inv.meant⟩

theorem Inv.nextRefuse (inv : Inv state) {call : Call} {result : Result}
    (step : state.nextRefuse call result = some target) : Inv target := by
  unfold State.nextRefuse at step
  split at step
  case isFalse => cases step
  case isTrue notSuccess =>
    cases step
    constructor
    case meant =>
      intro returned isMember
      rcases List.mem_cons.mp isMember with rfl | isOld
      · exact fun isSuccess => absurd isSuccess notSuccess
      · exact inv.meant returned isOld
    case live =>
      rcases inv.live with live | dead
      · exact .inl (live.moveOn rfl rfl rfl rfl rfl rfl
          (fun other number isAwaiting => ((live.link other).awaits number isAwaiting).2.2)
          live.knows)
      · exact .inr dead

theorem Inv.nextReset (inv : Inv state) {outcome : ResetOutcome} (idle : state.host = .idle)
    (step : state.nextReset outcome = some target) : Inv target := by
  unfold State.nextReset at step
  split at step
  case h_1 call result at_ =>
    cases step
    have meant : Meant ((state.afterReset outcome).finish call result false) := by
      have notSuccess : result ≠ .success := by
        have knows := (inv.live_of_point (by simp [at_])).knows
        rw [at_] at knows
        exact knows
      have same : Meant (state.afterReset outcome) := by
        cases outcome <;> exact inv.meant
      exact same.finish call fun isSuccess => absurd isSuccess notSuccess
    refine ⟨meant, ?_⟩
    cases outcome with
    | notOff => exact .inr ⟨rfl, rfl⟩
    | notOn initialized =>
        cases initialized with
        | true => exact .inl (LiveInv.restarted call result idle)
        | false => exact .inr ⟨rfl, rfl⟩
    | done => exact .inl (LiveInv.restarted call result idle)
  case h_2 => cases step

theorem Inv.next (inv : Inv state) {label : Label} (undisturbed : state.Undisturbed label)
    (step : State.next state label = some target) : Inv target := by
  cases label with
  | enter call => exact inv.nextEnter step
  | refuse call result => exact inv.nextRefuse step
  | go =>
      have live := inv.live_of_point (by
        intro outside
        simp [State.next, State.nextGo, outside] at step)
      exact .of_live (live.nextGo inv.meant step)
  | sendFails wrongState =>
      have live := inv.live_of_point (by
        intro outside
        simp [State.next, State.nextSendFails, outside] at step)
      exact .of_live (live.nextSendFails inv.meant step)
  | timeout =>
      have live := inv.live_of_point (by
        intro outside
        simp [State.next, State.nextTimeout, outside] at step)
      exact .of_live (live.nextTimeout inv.meant step)
  | reset outcome => exact inv.nextReset undisturbed step
  | host => exact inv.keep (keeps_nextHost step) fun live => live.nextHost undisturbed step
  | indicate link indication =>
      exact inv.keep (keeps_nextIndicate step) fun live => live.nextIndicate step
  | confirm status =>
      exact inv.keep (keeps_nextConfirm step) fun live => live.nextConfirm step

/-- In an undisturbed run no assertion fails, a call that brings a link up returns
`eWiFiSuccess` only if a success was handled since its command was sent, and a call that
takes a link down returns it only if the link's bit was clear at some moment of the call. -/
theorem results_meant (schedule : List Label)
    (undisturbed : StepsMeet next start schedule Undisturbed) :
    StatesSatisfy next start schedule Good :=
  undisturbed.statesSatisfy inv_start (fun _ _ _ inv met step => inv.next met step)
    fun _ inv => inv.good

/-! ## A stray failure -/

/-- A connection is made. -/
def joined : List Label :=
  [.enter wifiConnectAp, .go, .go, .go, .go, .confirm .ok, .host, .host, .go,
    .indicate .station (.success (some 0)), .host, .host, .host, .go]

/-- `WIFI_ConnectAP` takes an old connection down; the failure of an attempt to roam is
handled when the call has cleared the bit `fail`, and ends its wait for a new connection.
The answer comes when the next call is about to assert that the bit `up` is clear. -/
def strayFailure : List Label :=
  joined ++
    [.enter wifiConnectAp, .go, .go, .go, .go, .confirm .ok, .host, .host, .go,
      .indicate .station .lost, .indicate .station (.failure none), .host, .host, .host,
      .go, .go, .host, .host, .host, .go, .confirm .ok, .host, .host, .go, .go,
      .enter wifiConnectAp, .go, .go, .indicate .station (.success (some 1)), .host, .host, .go]

theorem joined_meant :
    StepsMeet next start joined Undisturbed ∧ StatesSatisfy next start joined Good :=
  have undisturbed : StepsMeet next start joined Undisturbed := by decide
  ⟨undisturbed, results_meant joined undisturbed⟩

theorem strayFailure_fails : ¬ ∀ schedule, StatesSatisfy next start schedule Good := by
  intro always
  have failed : (run next start strayFailure).map (fun state => state.point) =
      some .assertionFailed := by decide
  rcases Option.map_eq_some_iff.mp failed with ⟨state, executed, isFailed⟩
  exact (always strayFailure (List.prefix_refl _) executed).noAssertion isFailed

end State

end FwkRtos.SlWfx.LinkControl
