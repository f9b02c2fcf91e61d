import FwkRtos.SlWfx.LinkControl

/-!
# The invariant of the links

The host task will set or clear the bits of a link as the messages in flight say.  The invariant
holds what they will make of it together with what the call knows of the link at its point.
-/

namespace FwkRtos.SlWfx.LinkControl

open FwkRtos.Transition

/-! ## Messages in flight -/

/-- The bit `up` of a link and the command that is awaited, behind the handling of a
message.  A success that neither answers the command nor finds the bit set has no result. -/
def foresee (link : Link) : LStep (Bool × Option Nat) Message
  | (up, own), .indication about indication =>
      if about = link then
        match indication with
        | .success (some number) => if own = some number then some (true, none) else none
        | .success none => if up then some (true, own) else none
        | .failure (some number) => if own = some number then some (false, none) else none
        | .failure none | .lost => some (false, own)
      else
        some (up, own)
  | (up, own), .confirmation (.bringUp about number) status =>
      if about = link ∧ status ≠ .ok ∧ own = some number then some (up, none) else some (up, own)
  | (up, own), .confirmation (.takeDown _) _ => some (up, own)

/-- The command that the message confirms. -/
def Message.confirms : Message → Option Command
  | .confirmation command _ => some command
  | .indication _ _ => none

/-- Where no command is awaited, the messages do not answer one that is sent now. -/
theorem foresee_sent {link : Link} {messages : List Message} {up deviceUp : Bool}
    {own : Option Nat} (number : Nat) (noneConfirms : messages.filterMap Message.confirms = [])
    (foreseen : run (foresee link) (up, none) messages = some (deviceUp, own)) :
    own = none ∧
      run (foresee link) (up, some number) messages = some (deviceUp, some number) := by
  induction messages generalizing up with
  | nil =>
      cases foreseen
      exact ⟨rfl, rfl⟩
  | cons message rest ih =>
      rcases message with ⟨about, indication⟩ | ⟨command, status⟩
      · have restConfirms : rest.filterMap Message.confirms = [] := noneConfirms
        rcases Option.bind_eq_some_iff.mp foreseen with ⟨⟨upAfter, ownAfter⟩, first, others⟩
        by_cases isAbout : about = link
        · subst isAbout
          rcases indication with answers | answers | _
          · rcases answers with _ | answered
            · cases up with
              | false => simp [foresee] at first
              | true =>
                  have same : upAfter = true ∧ ownAfter = none := by
                    simpa [foresee, eq_comm] using first
                  rcases same with ⟨rfl, rfl⟩
                  simpa [run, foresee] using ih restConfirms others
            · simp [foresee] at first
          · rcases answers with _ | answered
            · have same : upAfter = false ∧ ownAfter = none := by
                simpa [foresee, eq_comm] using first
              rcases same with ⟨rfl, rfl⟩
              simpa [run, foresee] using ih restConfirms others
            · simp [foresee] at first
          · have same : upAfter = false ∧ ownAfter = none := by
              simpa [foresee, eq_comm] using first
            rcases same with ⟨rfl, rfl⟩
            simpa [run, foresee] using ih restConfirms others
        · have same : upAfter = up ∧ ownAfter = none := by
            simpa [foresee, isAbout, eq_comm] using first
          rcases same with ⟨rfl, rfl⟩
          simpa [run, foresee, isAbout] using ih restConfirms others
      · cases noneConfirms

namespace Point

/-- The call waits for the confirmation of the command. -/
def confirming : Point → Option Command
  | .upConfirm link number => some (.bringUp link number)
  | .downConfirm link _ => some (.takeDown link)
  | _ => none

/-- The answer to the command may still be missing. -/
def Awaits (link : Link) (number : Nat) : Point → Prop
  | .upConfirm other sent => other = link ∧ sent = number
  | .upWait other | .upBlocked other => other = link
  | .upWoken other up fail => other = link ∧ up = false ∧ fail = false
  | .resetting call _ => call = .bringUp link
  | _ => False

/-- A call at the point needs nothing from the device. -/
def Free (point : Point) : Prop :=
  point.confirming = none ∧ ∀ link number, ¬ point.Awaits link number

/-- What a call knows of its link. -/
def Knows (links : Link → LinkState) : Point → Prop
  | .downSend link _ | .downConfirm link _ => (links link).clearSeen = !(links link).up
  | .downWait link _ | .downBlocked link _ =>
      (links link).clearSeen = (!(links link).up) ∧
        ((links link).down = true → (links link).up = false)
  | .downWoken link _ down =>
      (links link).clearSeen = (!(links link).up) ∧ (down = true → (links link).up = false)
  | .upClear link => (links link).up = false
  | .upSend link => (links link).up = false ∧ (links link).fail = false
  | .upConfirm link _ | .upWait link | .upBlocked link =>
      (links link).up = true → (links link).successSeen = true
  | .upWoken link up _ => up = true → (links link).successSeen = true
  | .resetting _ result => result ≠ .success
  | .assertionFailed => False
  | _ => True

/-- The link that a call knows something of. -/
def about : Point → Option Link
  | .downSend link _ | .downConfirm link _ | .downWait link _ | .downBlocked link _
  | .downWoken link _ _ | .upClear link | .upSend link | .upConfirm link _ | .upWait link
  | .upBlocked link | .upWoken link _ _ => some link
  | _ => none

theorem Knows.of_about {point : Point} {links others : Link → LinkState} (knows : point.Knows links)
    (same : ∀ link, point.about = some link → others link = links link) : point.Knows others := by
  cases point <;> simp_all [Point.Knows, Point.about]

/-- A call knows nothing of the device's view. -/
theorem Knows.of_view {point : Point} {links others : Link → LinkState}
    (knows : point.Knows links)
    (same : ∀ link, others link =
      { links link with deviceUp := (others link).deviceUp, pending := (others link).pending }) :
    point.Knows others := by
  have bits : ∀ link, (others link).up = (links link).up ∧ (others link).fail = (links link).fail ∧
      (others link).down = (links link).down ∧
      (others link).successSeen = (links link).successSeen ∧
      (others link).clearSeen = (links link).clearSeen := by
    intro link
    rw [same link]
    exact ⟨rfl, rfl, rfl, rfl, rfl⟩
  cases point <;> simp only [Point.Knows, bits] at knows ⊢ <;> exact knows

/-- The operation of the host task leaves what a call knows of the link. -/
def Allows (point : Point) (link : Link) (before : LinkState) : Op → Prop
  | .set .up => before.up = true ∨ ∃ number, point.Awaits link number
  | .set .fail => point ≠ .upSend link
  | .set .down => before.up = false
  | .clear _ => True

theorem Knows.apply {point : Point} {links : Link → LinkState} (knows : point.Knows links)
    {link : Link} (answers : Option Nat) {op : Op} (allows : point.Allows link (links link) op) :
    point.Knows (Function.update links link (((links link).answer answers).apply op)) := by
  by_cases isAbout : point.about = some link
  · rcases op with (_ | _ | _) | (_ | _ | _) <;> cases point <;>
      simp_all [Point.Knows, Point.about, Point.Allows, Point.Awaits, LinkState.apply,
        LinkState.answer]
  · refine knows.of_about fun other isOther => Function.update_of_ne ?_ _ _
    rintro rfl
    exact isAbout isOther
end Point

namespace State

/-- The message that the host task handles, and those that it has not received. -/
def inFlight (state : State) : List Message :=
  match state.host with
  | .handling message => message :: state.fifo
  | _ => state.fifo

/-- The invariant of a link. -/
structure LinkInv (state : State) (link : Link) : Prop where
  /-- The messages in flight lead from the bits to the device. -/
  foreseen : ∃ own,
    run (foresee link) ((state.links link).up, (state.links link).awaiting) state.inFlight =
        some ((state.links link).deviceUp, own) ∧
      (state.links link).pending = own.toList
  awaits : ∀ number, (state.links link).awaiting = some number →
    (state.links link).up = false ∧ (state.links link).fail = false ∧
      state.point.Awaits link number
  /-- The bits `up` and `down` are not both set, but within the callback of a success. -/
  exclusive : (state.links link).up = true →
    (state.links link).down = false ∨ state.host = .second link (.clear .down)
  second : ∀ op, state.host = .second link op →
    op = .clear .down ∨ (op = .set .fail ∨ op = .set .down) ∧ (state.links link).up = false

/-- The invariant while the module is initialized. -/
structure LiveInv (state : State) : Prop where
  link : ∀ link, state.LinkInv link
  knows : state.point.Knows state.links
  confirming : state.inFlight.filterMap Message.confirms ++ state.command.toList =
    state.point.confirming.toList
  initialized : state.initialized = true

/-- Every success that was returned means what it is to mean. -/
def Meant (state : State) : Prop :=
  ∀ returned ∈ state.returns, returned.result = .success → returned.witnessed = true

/-- The invariant: behind a reset that failed no call goes on. -/
structure Inv (state : State) : Prop where
  meant : Meant state
  live : LiveInv state ∨ state.initialized = false ∧ state.point = .outside

theorem inv_start : Inv start where
  meant := nofun
  live := .inl
    { link := fun _ =>
        { foreseen := ⟨none, rfl, rfl⟩
          awaits := nofun
          exclusive := nofun
          second := nofun }
      knows := trivial
      confirming := rfl
      initialized := rfl }

end State

end FwkRtos.SlWfx.LinkControl
