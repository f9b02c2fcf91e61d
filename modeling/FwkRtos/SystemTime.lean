import FwkRtos.Transition.Labelled
import Mathlib.Algebra.Group.Nat.Defs

/-!
# The system time

The time is kept in seconds and in microseconds with 12 fractional bits.  A second of these
has almost 32 bits, so a sum of two of them may have more.  The lock around every call makes
the calls follow each other.
-/

namespace FwkRtos.SystemTime

open FwkRtos.Transition

/-! ## The calls -/

/-- `rtos_time_t`. -/
structure RtosTime where
  seconds : UInt64
  microseconds : UInt32
  deriving DecidableEq

/-- `US_FRACTIONAL_BITS`. -/
def usFractionalBits : UInt32 := 12

/-- `ONE_SECOND_US`. -/
def oneSecondUs : UInt32 := 4096000000

/-- `RTOS_TICK_PERIOD`. -/
def rtosTickPeriod (hz : UInt64) : UInt32 :=
  (((1000000 : UInt64) <<< 12) / hz).toUInt32

def rtosTimeIncrement (currentTime : RtosTime) (tickPeriod : UInt32) : RtosTime :=
  let microseconds := currentTime.microseconds + tickPeriod
  if oneSecondUs ≤ microseconds then
    { seconds := currentTime.seconds + 1, microseconds := microseconds - oneSecondUs }
  else { currentTime with microseconds := microseconds }

def rtosTimeSet (newTime : RtosTime) : RtosTime :=
  { newTime with microseconds := newTime.microseconds <<< usFractionalBits }

def rtosTimeGet (currentTime : RtosTime) : RtosTime :=
  { currentTime with microseconds := currentTime.microseconds >>> usFractionalBits }

/-- The calls that change the time; a read may come after any of them. -/
inductive TimeCall
  | set (newTime : RtosTime)
  | increment (tickPeriod : UInt32)
  deriving DecidableEq

/-- `current_time` before the first call. -/
def initialTime : RtosTime := ⟨0, 0⟩

def nextTime : LStep RtosTime TimeCall
  | _, .set newTime => some (rtosTimeSet newTime)
  | currentTime, .increment tickPeriod => some (rtosTimeIncrement currentTime tickPeriod)

/-! ## What the time has to be -/

/-- Microseconds are less than a second, and a tick period is at most one. -/
def TimeCall.Allowed : TimeCall → Prop
  | .set newTime => newTime.microseconds.toNat < 1000000
  | .increment tickPeriod => tickPeriod ≤ oneSecondUs

/-- The last time that was set and the sum of the increments since, in microseconds with the
fractional bits. -/
def exactTime (calls : List TimeCall) : Nat :=
  calls.foldl (fun time call =>
    match call with
    | .set newTime =>
        (newTime.seconds.toNat * 1000000 + newTime.microseconds.toNat) * 2 ^ usFractionalBits.toNat
    | .increment tickPeriod => time + tickPeriod.toNat) 0

/-- The first time is not after the second one. -/
def RtosTime.NotAfter (first second : RtosTime) : Prop :=
  first.seconds < second.seconds ∨
    first.seconds = second.seconds ∧ first.microseconds ≤ second.microseconds

/-- Reads are exact up to the rounding, and between two settings do not go backwards. -/
structure Keeps (calls : List TimeCall) : Prop where
  exact : ∀ before currentTime, before <+: calls →
    run nextTime initialTime before = some currentTime →
      (rtosTimeGet currentTime).seconds.toNat % 2 ^ 32 =
          exactTime before / 2 ^ usFractionalBits.toNat / 1000000 % 2 ^ 32 ∧
        (rtosTimeGet currentTime).microseconds.toNat =
          exactTime before / 2 ^ usFractionalBits.toNat % 1000000
  below : ∀ before currentTime, before <+: calls →
    run nextTime initialTime before = some currentTime →
      (rtosTimeGet currentTime).microseconds.toNat < 1000000
  forward : ∀ before between earlier later, before ++ between <+: calls →
    (∀ call ∈ between, ∃ tickPeriod, call = .increment tickPeriod) →
      run nextTime initialTime before = some earlier →
        run nextTime initialTime (before ++ between) = some later →
          (rtosTimeGet earlier).NotAfter (rtosTimeGet later)

/-- The sum of the microseconds has 32 bits, and the seconds are not at their end. -/
def Fits (currentTime : RtosTime) : TimeCall → Prop
  | .set _ => True
  | .increment tickPeriod =>
      currentTime.microseconds.toNat + tickPeriod.toNat < 2 ^ 32 ∧
        (oneSecondUs.toNat ≤ currentTime.microseconds.toNat + tickPeriod.toNat →
          currentTime.seconds.toNat + 1 < 2 ^ 64)

instance (currentTime : RtosTime) (call : TimeCall) : Decidable (Fits currentTime call) :=
  match call with
  | .set _ => .isTrue trivial
  | .increment _ => inferInstanceAs (Decidable (_ ∧ (_ → _)))

/-! ## One call -/

/-- The period of any rate is at most a second. -/
theorem rtosTickPeriod_le (hz : UInt64) : rtosTickPeriod hz ≤ oneSecondUs := by
  have second : ((1000000 : UInt64) <<< 12).toNat = oneSecondUs.toNat := by decide
  rw [rtosTickPeriod, UInt32.le_iff_toNat_le, UInt64.toNat_toUInt32, UInt64.toNat_div, second]
  exact (Nat.mod_le _ _).trans (Nat.div_le_self _ _)

/-- The time is the exact time. -/
structure IsExact (time : Nat) (currentTime : RtosTime) : Prop where
  seconds : currentTime.seconds.toNat = time / 4096000000
  microseconds : currentTime.microseconds.toNat = time % 4096000000

namespace IsExact

variable {time : Nat} {currentTime : RtosTime}

theorem set (newTime : RtosTime) (allowed : newTime.microseconds.toNat < 1000000) :
    IsExact ((newTime.seconds.toNat * 1000000 + newTime.microseconds.toNat) *
      2 ^ usFractionalBits.toNat) (rtosTimeSet newTime) := by
  have shifted : (newTime.microseconds <<< usFractionalBits).toNat =
      newTime.microseconds.toNat * 2 ^ 12 := by
    rw [UInt32.toNat_shiftLeft, Nat.shiftLeft_eq]
    change newTime.microseconds.toNat * 2 ^ 12 % 2 ^ 32 = _
    exact Nat.mod_eq_of_lt (by omega)
  constructor
  · change newTime.seconds.toNat =
      (newTime.seconds.toNat * 1000000 + newTime.microseconds.toNat) * 2 ^ 12 / 4096000000
    omega
  · change (newTime.microseconds <<< usFractionalBits).toNat =
      (newTime.seconds.toNat * 1000000 + newTime.microseconds.toNat) * 2 ^ 12 % 4096000000
    rw [shifted]
    omega

/-- What is read. -/
theorem get (isExact : IsExact time currentTime) :
    (rtosTimeGet currentTime).seconds.toNat =
        time / 2 ^ usFractionalBits.toNat / 1000000 ∧
      (rtosTimeGet currentTime).microseconds.toNat =
        time / 2 ^ usFractionalBits.toNat % 1000000 := by
  have shifted : (currentTime.microseconds >>> usFractionalBits).toNat =
      currentTime.microseconds.toNat / 2 ^ 12 := by
    rw [UInt32.toNat_shiftRight, Nat.shiftRight_eq_div_pow]
    rfl
  constructor
  · change currentTime.seconds.toNat = time / 2 ^ 12 / 1000000
    rw [isExact.seconds]
    omega
  · change (currentTime.microseconds >>> usFractionalBits).toNat = time / 2 ^ 12 % 1000000
    rw [shifted, isExact.microseconds]
    omega

section
variable {tickPeriod : UInt32}

theorem increment (isExact : IsExact time currentTime) (allowed : tickPeriod ≤ oneSecondUs)
    (fits : Fits currentTime (.increment tickPeriod)) :
    IsExact (time + tickPeriod.toNat) (rtosTimeIncrement currentTime tickPeriod) := by
  rcases fits with ⟨small, more⟩
  have least : tickPeriod.toNat ≤ 4096000000 := UInt32.le_iff_toNat_le.mp allowed
  have seconds := isExact.seconds
  have microseconds := isExact.microseconds
  have sum : (currentTime.microseconds + tickPeriod).toNat =
      currentTime.microseconds.toNat + tickPeriod.toNat := by
    rw [UInt32.toNat_add, Nat.mod_eq_of_lt small]
  have second : oneSecondUs.toNat = 4096000000 := rfl
  rw [second] at more
  rw [rtosTimeIncrement]
  by_cases full : oneSecondUs ≤ currentTime.microseconds + tickPeriod
  · have reached : 4096000000 ≤ currentTime.microseconds.toNat + tickPeriod.toNat := by
      rw [← sum]
      exact UInt32.le_iff_toNat_le.mp full
    have next : (currentTime.seconds + 1).toNat = currentTime.seconds.toNat + 1 := by
      rw [UInt64.toNat_add]
      exact Nat.mod_eq_of_lt (more reached)
    rw [if_pos full]
    constructor
    · change (currentTime.seconds + 1).toNat = _
      rw [next]
      omega
    · change (currentTime.microseconds + tickPeriod - oneSecondUs).toNat = _
      rw [UInt32.toNat_sub_of_le _ _ full, sum, second]
      omega
  · have notReached : currentTime.microseconds.toNat + tickPeriod.toNat < 4096000000 := by
      rw [← sum]
      exact Nat.lt_of_not_le fun reached => full (UInt32.le_iff_toNat_le.mpr reached)
    rw [if_neg full]
    constructor
    · change currentTime.seconds.toNat = _
      omega
    · change (currentTime.microseconds + tickPeriod).toNat = _
      rw [sum]
      omega

/-- A sum of more than 32 bits is taken for less than a second. -/
theorem increment_overflow (isExact : IsExact time currentTime)
    (allowed : tickPeriod ≤ oneSecondUs)
    (large : 2 ^ 32 ≤ currentTime.microseconds.toNat + tickPeriod.toNat) :
    (rtosTimeIncrement currentTime tickPeriod).seconds.toNat + 1 =
      (time + tickPeriod.toNat) / 4096000000 := by
  have least : tickPeriod.toNat ≤ 4096000000 := UInt32.le_iff_toNat_le.mp allowed
  have seconds := isExact.seconds
  have microseconds := isExact.microseconds
  have notFull : ¬ oneSecondUs ≤ currentTime.microseconds + tickPeriod := by
    intro full
    have reached : 4096000000 ≤ (currentTime.microseconds + tickPeriod).toNat :=
      UInt32.le_iff_toNat_le.mp full
    rw [UInt32.toNat_add] at reached
    omega
  rw [rtosTimeIncrement, if_neg notFull]
  change currentTime.seconds.toNat + 1 = _
  omega

/-- Behind the last second there is the first one. -/
theorem increment_wraps (small : currentTime.microseconds.toNat + tickPeriod.toNat < 2 ^ 32)
    (full : oneSecondUs.toNat ≤ currentTime.microseconds.toNat + tickPeriod.toNat)
    (last : 2 ^ 64 ≤ currentTime.seconds.toNat + 1) :
    ¬ (rtosTimeGet currentTime).NotAfter
      (rtosTimeGet (rtosTimeIncrement currentTime tickPeriod)) := by
  have sum : (currentTime.microseconds + tickPeriod).toNat =
      currentTime.microseconds.toNat + tickPeriod.toNat := by
    rw [UInt32.toNat_add, Nat.mod_eq_of_lt small]
  have reached : oneSecondUs ≤ currentTime.microseconds + tickPeriod := by
    rw [UInt32.le_iff_toNat_le, sum]
    exact full
  have bound := currentTime.seconds.toNat_lt
  have next : (currentTime.seconds + 1).toNat = 0 := by
    rw [UInt64.toNat_add]
    change (currentTime.seconds.toNat + 1) % 2 ^ 64 = 0
    omega
  rw [rtosTimeIncrement, if_pos reached, RtosTime.NotAfter]
  change ¬ (currentTime.seconds < currentTime.seconds + 1 ∨
    currentTime.seconds = currentTime.seconds + 1 ∧ _)
  rintro (before | ⟨same, _⟩)
  · have order := UInt64.lt_iff_toNat_lt.mp before
    rw [next] at order
    exact Nat.not_lt_zero _ order
  · have equal := congrArg UInt64.toNat same
    rw [next] at equal
    omega

end

/-- Exact times are read in their order. -/
theorem notAfter {later : Nat} {laterTime : RtosTime} (isExact : IsExact time currentTime)
    (laterExact : IsExact later laterTime) (order : time ≤ later) :
    (rtosTimeGet currentTime).NotAfter (rtosTimeGet laterTime) := by
  rcases isExact.get with ⟨seconds, microseconds⟩
  rcases laterExact.get with ⟨laterSeconds, laterMicroseconds⟩
  have bits : usFractionalBits.toNat = 12 := rfl
  rw [bits] at seconds microseconds laterSeconds laterMicroseconds
  rw [RtosTime.NotAfter, UInt64.lt_iff_toNat_lt, ← UInt64.toNat_inj, UInt32.le_iff_toNat_le]
  omega

end IsExact

/-! ## All calls -/

theorem exactTime_concat_set (calls : List TimeCall) (newTime : RtosTime) :
    exactTime (calls ++ [.set newTime]) =
      (newTime.seconds.toNat * 1000000 + newTime.microseconds.toNat) *
        2 ^ usFractionalBits.toNat := by
  rw [exactTime, List.foldl_append, List.foldl_cons, List.foldl_nil]

theorem exactTime_concat_increment (calls : List TimeCall) (tickPeriod : UInt32) :
    exactTime (calls ++ [.increment tickPeriod]) = exactTime calls + tickPeriod.toNat := by
  rw [exactTime, List.foldl_append, List.foldl_cons, List.foldl_nil]
  rfl

/-- Increments add to the exact time. -/
theorem exactTime_le_append (before : List TimeCall) {between : List TimeCall}
    (increments : ∀ call ∈ between, ∃ tickPeriod, call = .increment tickPeriod) :
    exactTime before ≤ exactTime (before ++ between) := by
  induction between using List.reverseRecOn with
  | nil => rw [List.append_nil]
  | append_singleton between call ih =>
      rcases increments call (List.mem_append_right _ List.mem_cons_self) with ⟨tickPeriod, rfl⟩
      have earlier := ih fun other isMember => increments other (List.mem_append_left _ isMember)
      rw [← List.append_assoc, exactTime_concat_increment]
      exact earlier.trans (Nat.le_add_right _ _)

/-- As long as all sums fit, the time is exact. -/
theorem isExact_of_stepsMeet {calls : List TimeCall} (allowed : ∀ call ∈ calls, call.Allowed)
    (met : StepsMeet nextTime initialTime calls Fits) {currentTime : RtosTime}
    (executed : run nextTime initialTime calls = some currentTime) :
    IsExact (exactTime calls) currentTime := by
  induction calls using List.reverseRecOn generalizing currentTime with
  | nil =>
      cases executed
      exact ⟨rfl, rfl⟩
  | append_singleton calls call ih =>
      rcases (run_concat_eq_some_iff _ _ _ _ _).mp executed with ⟨source, earlier, step⟩
      rcases stepsMeet_concat_iff.mp met with ⟨metBefore, last⟩
      have allowedHere := allowed call (List.mem_append_right _ List.mem_cons_self)
      have before := ih (fun other isMember => allowed other (List.mem_append_left _ isMember))
        metBefore earlier
      cases call with
      | set newTime =>
          cases step
          rw [exactTime_concat_set]
          exact .set newTime allowedHere
      | increment tickPeriod =>
          have fits := last source currentTime earlier step
          cases step
          rw [exactTime_concat_increment]
          exact before.increment allowedHere fits

theorem Keeps.of_prefix {before calls : List TimeCall} (keeps : Keeps calls)
    (isPrefix : before <+: calls) : Keeps before where
  exact first currentTime shorter := keeps.exact first currentTime (shorter.trans isPrefix)
  below first currentTime shorter := keeps.below first currentTime (shorter.trans isPrefix)
  forward first between earlier later shorter :=
    keeps.forward first between earlier later (shorter.trans isPrefix)

/-- An increment that does not fit is seen in the next read. -/
theorem Keeps.fits {calls : List TimeCall} {call : TimeCall} {currentTime target : RtosTime}
    (keeps : Keeps (calls ++ [call])) (allowed : call.Allowed)
    (isExact : IsExact (exactTime calls) currentTime)
    (executed : run nextTime initialTime calls = some currentTime)
    (step : nextTime currentTime call = some target) : Fits currentTime call := by
  have all : run nextTime initialTime (calls ++ [call]) = some target :=
    (run_concat_eq_some_iff _ _ _ _ _).mpr ⟨currentTime, executed, step⟩
  cases call with
  | set newTime => trivial
  | increment tickPeriod =>
      cases step
      have small : currentTime.microseconds.toNat + tickPeriod.toNat < 2 ^ 32 := by
        by_contra large
        have read := (keeps.exact _ _ (List.prefix_refl _) all).1
        have lost := isExact.increment_overflow allowed (Nat.le_of_not_lt large)
        change (rtosTimeIncrement currentTime tickPeriod).seconds.toNat % 2 ^ 32 =
          exactTime (calls ++ [.increment tickPeriod]) / 2 ^ 12 / 1000000 % 2 ^ 32 at read
        rw [exactTime_concat_increment] at read
        omega
      refine ⟨small, fun full => ?_⟩
      by_contra last
      have increments : ∀ call ∈ [TimeCall.increment tickPeriod],
          ∃ tickPeriod, call = .increment tickPeriod := by
        intro call isMember
        exact ⟨tickPeriod, List.mem_singleton.mp isMember⟩
      have order := keeps.forward calls [.increment tickPeriod] _ _ (List.prefix_refl _) increments
        executed all
      exact IsExact.increment_wraps small full (Nat.le_of_not_lt last) order

/-- Reads are exact and do not go backwards just when no sum has more than 32 bits and the
seconds do not wrap. -/
theorem keeps_iff (calls : List TimeCall) (allowed : ∀ call ∈ calls, call.Allowed) :
    Keeps calls ↔ StepsMeet nextTime initialTime calls Fits := by
  constructor
  · intro keeps
    induction calls using List.reverseRecOn with
    | nil => exact stepsMeet_nil nextTime initialTime Fits
    | append_singleton calls call ih =>
        have allowedBefore := fun other isMember =>
          allowed other (List.mem_append_left [call] isMember)
        have allowedHere := allowed call (List.mem_append_right _ List.mem_cons_self)
        have met := ih allowedBefore (keeps.of_prefix (List.prefix_append _ _))
        refine stepsMeet_concat_iff.mpr ⟨met, fun source target executed step => ?_⟩
        have isExact := isExact_of_stepsMeet allowedBefore met executed
        exact keeps.fits allowedHere isExact executed step
  · intro met
    have isExact : ∀ before currentTime, before <+: calls →
        run nextTime initialTime before = some currentTime →
          IsExact (exactTime before) currentTime := by
      intro before currentTime isPrefix executed
      exact isExact_of_stepsMeet (fun call isMember => allowed call (isPrefix.subset isMember))
        (met.of_prefix isPrefix) executed
    constructor
    · intro before currentTime isPrefix executed
      rcases (isExact before currentTime isPrefix executed).get with ⟨seconds, microseconds⟩
      exact ⟨congrArg (· % 2 ^ 32) seconds, microseconds⟩
    · intro before currentTime isPrefix executed
      rw [(isExact before currentTime isPrefix executed).get.2]
      exact Nat.mod_lt _ (by decide)
    · intro before between earlier later isPrefix increments executed executedLater
      have first := isExact before earlier ((List.prefix_append _ _).trans isPrefix) executed
      have second := isExact (before ++ between) later isPrefix executedLater
      exact first.notAfter second (exactTime_le_append before increments)

/-- The time is set and a tick of 100 Hz comes. -/
theorem oneTick_keeps_iff :
    Keeps [.set ⟨5, 999999⟩, .increment (rtosTickPeriod 100)] ↔
      StepsMeet nextTime initialTime [.set ⟨5, 999999⟩, .increment (rtosTickPeriod 100)] Fits := by
  refine keeps_iff [.set ⟨5, 999999⟩, .increment (rtosTickPeriod 100)] ?_
  intro call isMember
  rcases List.mem_pair.mp isMember with rfl | rfl
  · change (999999 : UInt32).toNat < 1000000
    decide
  · exact rtosTickPeriod_le 100

/-- A tick of 1 Hz in the last 48576 microseconds of a second does not reach the next one. -/
theorem slowTick_not_keeps :
    (∀ call ∈ [TimeCall.set ⟨5, 999999⟩, .increment (rtosTickPeriod 1)], call.Allowed) ∧
      ¬ Keeps [.set ⟨5, 999999⟩, .increment (rtosTickPeriod 1)] := by
  constructor
  · intro call isMember
    rcases List.mem_pair.mp isMember with rfl | rfl
    · change (999999 : UInt32).toNat < 1000000
      decide
    · exact rtosTickPeriod_le 1
  · intro keeps
    have executed : run nextTime initialTime
        [.set ⟨5, 999999⟩, .increment (rtosTickPeriod 1)] = some ⟨5, 3897028608⟩ := by
      decide
    exact absurd (keeps.exact _ _ (List.prefix_refl _) executed).1 (by decide)

end FwkRtos.SystemTime
