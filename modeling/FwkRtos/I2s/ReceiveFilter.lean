import FwkRtos.I2s.Receive

/-!
# The words of a receive filter

The receive stream is advanced by a frame whenever a receive filter has written anything, so
that the buffer carries what the filter wrote exactly if the filter writes whole frames.
-/

namespace FwkRtos.I2s

open FwkRtos.Osal FwkRtos.SampleStream FwkRtos.Transition

universe u

variable {S : Type u}

instance (direction : Direction) (driver : Driver S) :
    DecidablePred (direction.GrantCovers driver)
  | .task other => inferInstanceAs
      (Decidable (other = direction → (driver.stream other).GrantCovers other.side))
  | .receive _ | .sendFrame | .hil | .isr | .rx _ _ | .tx _ _ _ | .timeOut _ | .share _ =>
      .isTrue trivial

/-- The words that `i2s_receive` is about to add to `total_written`. -/
def HilPoint.adding (config : Config S) : HilPoint → UInt32
  | .addWritten _ => config.frameWords .recv
  | _ => 0

/-- The index and the counter of the receive stream are as far as the words that the filter
has written, and what was returned are these words, in order. -/
structure FilterCounted (config : Config S) (driver : Driver S) : Prop where
  writeIndex : driver.recv.buffer.writeIndex.toNat =
    driver.accepted.flatten.length % driver.recv.buffer.bufSize.toNat
  totalWritten : driver.recv.buffer.totalWritten + driver.hil.adding config =
    UInt32.ofNat driver.accepted.flatten.length
  returned : driver.recv.read <+: driver.accepted.flatten

variable {config : Config S}

theorem Driver.Receives.filterCounted {driver : Driver S} (receives : driver.Receives config)
    (filtered : config.receiveFilterCb ≠ none) : FilterCounted config driver := by
  have index := receives.carries.writeIndex
  have total := receives.carries.totalWritten
  have accepted := congrArg List.length receives.accepted
  rw [List.length_append] at accepted
  have sized := receives.sized
  constructor
  case returned => exact receives.inOrder
  case writeIndex =>
    rw [index, accepted]
    congr 2
    cases point : driver.hil with
    | store frame =>
        rw [point] at sized
        exact absurd sized.2 filtered
    | _ => rfl
  case totalWritten =>
    rw [total, accepted]
    cases point : driver.hil with
    | store frame =>
        rw [point] at sized
        exact absurd sized.2 filtered
    | addWritten stored =>
        rw [point] at sized
        change stored.length = (config.frameWords .recv).toNat at sized
        change _ + config.frameWords .recv = UInt32.ofNat (_ + stored.length)
        rw [sized, UInt32.ofNat_add, UInt32.ofNat_toNat]
    | _ => exact UInt32.add_zero _

/-- A filter that has written another number of words than a frame has leaves the counter
behind or takes it too far. -/
theorem FilterCounted.reported {source : Driver S}
    {cb : S → List Sample → UInt32 → S × List Sample × UInt32} {frame : List Sample}
    {wordsFree : UInt32} (before : FilterCounted config source)
    (point : source.hil = .receiveFilter frame wordsFree)
    (after : FilterCounted config (source.receiveFiltered config cb frame wordsFree))
    (counted : (cb source.sendFilterAppData frame
        (source.filterArguments frame wordsFree).2.2).2.1.length =
      (cb source.sendFilterAppData frame
        (source.filterArguments frame wordsFree).2.2).2.2.toNat) :
    (cb source.sendFilterAppData frame (source.filterArguments frame wordsFree).2.2).2.2 = 0 ∨
      (cb source.sendFilterAppData frame (source.filterArguments frame wordsFree).2.2).2.2 =
        config.frameWords .recv := by
  have total := before.totalWritten
  have later := after.totalWritten
  rw [point] at total
  change _ + 0 = _ at total
  rw [Driver.receiveFiltered] at later
  dsimp only [Driver.filterArguments] at counted later ⊢
  generalize cb source.sendFilterAppData frame
    (chunk wordsFree source.recv.buffer.writeIndex source.recv.buffer.bufSize) = result
    at counted later ⊢
  rcases result with ⟨appData, stored, count⟩
  by_cases positive : 0 < count
  · right
    simp only [Driver.received, if_pos positive] at later
    change source.recv.buffer.totalWritten + config.frameWords .recv =
      UInt32.ofNat (source.accepted ++ [stored]).flatten.length at later
    rw [List.flatten_append, List.length_append, UInt32.ofNat_add, ← total, UInt32.add_zero,
      add_right_inj] at later
    rw [later]
    change count = UInt32.ofNat (stored ++ []).length
    rw [List.append_nil, counted, UInt32.ofNat_toNat]
  · left
    exact not_not.mp (mt UInt32.pos_iff_ne_zero.mpr positive)

/-- With a receive filter, in a run in which wake-ups are taken only by calls whose words are
there, the receive stream follows the words of the filter exactly if each call of the filter
reports a whole frame or nothing. -/
theorem filterCounted_iff_reportsFrame (safe : config.RecvSafe)
    (filtered : config.receiveFilterCb ≠ none) {schedule : List (Label S)}
    (covers : StepsMeet (next config) (start config) schedule Direction.recv.GrantCovers) :
    StatesSatisfy (next config) (start config) schedule (FilterCounted config) ↔
      StepsMeet (next config) (start config) schedule (ReportsFrame config) := by
  constructor
  · intro counted before label isPrefix source target executed step isHil frame wordsFree point
      cb filter
    subst isHil
    have earlier := counted ((List.prefix_append _ _).trans isPrefix) executed
    have later := counted isPrefix
      ((run_concat_eq_some_iff _ _ _ _ _).mpr ⟨source, executed, step⟩)
    have moved : target = source.receiveFiltered config cb frame wordsFree := by
      rw [next, point, hilThread, filter] at step
      exact (Option.some.inj step).symm
    rw [moved] at later
    exact earlier.reported point later (safe.filter cb filter _ _ _).1
  · intro reports
    have both : StepsMeet (next config) (start config) schedule fun driver label =>
        Direction.recv.GrantCovers driver label ∧ ReportsFrame config driver label :=
      fun _ _ isPrefix _ _ executed step =>
        ⟨covers isPrefix executed step, reports isPrefix executed step⟩
    refine both.statesSatisfy (receives_start safe) ?_ ?_
    · intro source target label receives met step
      exact receives.next safe met.2 met.1 step
    · intro driver receives
      exact receives.filterCounted filtered

/-- One input line and a buffer of two frames; the filter writes the words of a frame that
have room, if there is room for as many as it wants. -/
def filteredIn (wanted : UInt32) : Config Unit where
  numIn := 1
  numOut := 0
  recvBufferSize := 2
  sendBufferSize := 0
  sendFilterCb := none
  receiveFilterCb := some fun _ frame spaces =>
    if wanted ≤ spaces ∧ frame.length = 2 ∧ wanted ≤ 2 then
      ((), frame.take wanted.toNat, wanted)
    else ((), [], 0)
  appData := ()
  memory _ _ := 0

theorem filteredIn_recvSafe (wanted : UInt32) : (filteredIn wanted).RecvSafe where
  small := by
    change (2 * (2 * 1) : UInt32).toNat < 2 ^ 30
    decide
  frames none_ := by cases none_
  filter cb filter appData frame spaces := by
    cases filter
    dsimp only
    split
    · next fits =>
        refine ⟨?_, fits.1⟩
        have most := UInt32.le_iff_toNat_le.mp fits.2.2
        change wanted.toNat ≤ 2 at most
        rw [List.length_take, fits.2.1]
        exact Nat.min_eq_left most
    · exact ⟨rfl, UInt32.zero_le⟩

/-- Two frames are received and one is returned. -/
def filterTwice : List (Label Unit) :=
  receiveAll [1, 2] ++ receiveAll [3, 4] ++ rxAll 1 3

theorem filterTwice_counted :
    StatesSatisfy (next (filteredIn 2)) (start (filteredIn 2)) filterTwice
      (FilterCounted (filteredIn 2)) := by
  rw [filterCounted_iff_reportsFrame (filteredIn_recvSafe 2) nofun (by decide)]
  intro before label isPrefix source target _ _ _ frame wordsFree _ cb filter
  cases filter
  dsimp only
  split
  · exact .inr rfl
  · exact .inl rfl

/-- A filter that writes one word of each frame: the word that is returned after the first is
not one that it wrote. -/
theorem filterTwice_not_counted :
    ¬ StatesSatisfy (next (filteredIn 1)) (start (filteredIn 1)) filterTwice
      (FilterCounted (filteredIn 1)) := by
  intro counted
  have executed : (run (next (filteredIn 1)) (start (filteredIn 1)) filterTwice).map
      (fun driver => decide (driver.recv.read <+: driver.accepted.flatten)) = some false := by
    decide
  rcases Option.map_eq_some_iff.mp executed with ⟨driver, final, mixed⟩
  exact of_decide_eq_false mixed (counted (List.prefix_refl _) final).returned

end FwkRtos.I2s
