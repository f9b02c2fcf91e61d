import FwkRtos.Bytes.LittleEndian
import FwkRtos.SystemTime

/-!
# The SNTP client

The task sends a request, waits for a reply and looks at its length, its time and its stratum in
this order.  The length is compared with that of a pointer, the fraction is divided by the
greatest `unsigned int`, and the stratum is looked at when the clock has been set.
-/

namespace FwkRtos.Sntpd

open FwkRtos.Bytes FwkRtos.SystemTime FwkRtos.Transition

/-! ## The packet -/

/-- `sntp_timestamp_t`, in the byte order of the network. -/
structure SntpTimestamp where
  seconds : UInt32
  fraction : UInt32
  deriving DecidableEq

/-- The fields of `sntp_packet_t` that are read. -/
structure SntpPacket where
  stratum : UInt8
  receiveTimestamp : SntpTimestamp

/-- `sizeof(sntp_packet_t)`. -/
def sizeofPacket : Int := 48

/-- `sizeof(rxpacket)`, which is a pointer. -/
def sizeofPointer : Int := 4

/-- What is behind a pointer that a datagram is received through.  The network buffer goes on
behind the end of the datagram. -/
abbrev Payload := Nat → UInt8

/-- Four bytes as the processor loads them. -/
def load (payload : Payload) (offset : Nat) : UInt32 :=
  UInt32.ofNat (leValue
    [payload offset, payload (offset + 1), payload (offset + 2), payload (offset + 3)])

def sntpPacket (payload : Payload) : SntpPacket where
  stratum := payload 1
  receiveTimestamp := ⟨load payload 32, load payload 36⟩

/-- `FreeRTOS_htonl`. -/
def htonl (value : UInt32) : UInt32 :=
  UInt32.ofNat (leValue (leBytes 4 value.toNat).reverse)

/-- `EPOCH`; an `unsigned long` has 32 bits. -/
def epoch : UInt32 := 2208988800

/-- `UINT_MAX`. -/
def uintMax : UInt32 := 4294967295

/-- `SNTPD_STRATUM_KISS_OF_DEATH`. -/
def stratumKissOfDeath : UInt8 := 0

/-- The time in the packet as the task computes it. -/
def SntpPacket.now (packet : SntpPacket) : RtosTime where
  seconds := (htonl packet.receiveTimestamp.seconds - epoch).toUInt64
  microseconds := htonl packet.receiveTimestamp.fraction / uintMax

/-! ## The task -/

/-- `SNTPD_RESET_AFTER_X_FAILURES` and the list of the servers. -/
structure Config where
  resetAfterXFailures : Int
  timeServers : List String

/-- `default_time_servers` and the default of the limit. -/
def defaultConfig : Config where
  resetAfterXFailures := 10
  timeServers := ["0.pool.ntp.org", "1.pool.ntp.org", "2.pool.ntp.org", "3.pool.ntp.org"]

/-- Where the task is: in the outer loop, or in the inner one before its request or before the
reply. -/
inductive Control
  | connecting
  | sending
  | receiving
  deriving DecidableEq

/-- What the task does on its way: the calls whose effects are seen outside, and the assignment
to `time_synced`. -/
inductive Action
  | sendto (address : UInt32) (transmitTimestamp : SntpTimestamp)
  | rtosTimeSet (now : RtosTime)
  | setTimeSynced
  | releaseBuffer
  | closesocket
  deriving DecidableEq

/-- The variables of the task, `time_synced`, the clock, and what the last step did. -/
structure Task where
  control : Control
  ip : UInt32
  ntpAddr : UInt32
  failedAttempts : Int
  timeSynced : Bool
  currentTime : RtosTime
  actions : List Action

/-- What happens: the network is down, a socket is asked for, a request is sent, `recvfrom`
returns, or a tick increments the clock. -/
inductive Label
  | networkDown
  | connect (gethostbyname : String → UInt32) (validSocket : Bool)
  | send
  | receive (rxLen : Int) (payload : Payload) (sender : UInt32)
  | tick (tickPeriod : UInt32)

/-- The search for a server that is resolved. -/
def resolve (gethostbyname : String → UInt32) (ip : UInt32) : List String → UInt32
  | [] => ip
  | server :: rest =>
      let ip := gethostbyname server
      if 0 < ip then ip else resolve gethostbyname ip rest

namespace Task

def initial (currentTime : RtosTime) : Task where
  control := .connecting
  ip := 0
  ntpAddr := 0
  failedAttempts := 0
  timeSynced := false
  currentTime := currentTime
  actions := []

def act (task : Task) (action : Action) : Task :=
  { task with actions := task.actions ++ [action] }

variable (config : Config)

/-- A socket is asked for. -/
def connect (task : Task) (gethostbyname : String → UInt32) (validSocket : Bool) : Task :=
  let ip := resolve gethostbyname task.ip config.timeServers
  { task with
    ip := ip
    ntpAddr := ip
    control := if validSocket then .sending else .connecting }

/-- The request. -/
def send (task : Task) : Task :=
  let cur := rtosTimeGet task.currentTime
  let task := { task with control := .receiving }
  task.act (.sendto task.ntpAddr ⟨htonl (cur.seconds + epoch.toUInt64).toUInt32, htonl 0⟩)

/-- The clock is set. -/
def setTime (task : Task) (now : RtosTime) : Task :=
  let task := { task with currentTime := rtosTimeSet now }
  let task := task.act (.rtosTimeSet now)
  { task with timeSynced := true }.act .setTimeSynced

/-- A reply that is taken for one. -/
def takeReply (task : Task) (packet : SntpPacket) : Task :=
  let task := task.setTime packet.now
  if packet.stratum = stratumKissOfDeath then
    { task with failedAttempts := config.resetAfterXFailures }
  else task

/-- What is made of the result of `recvfrom`. -/
def handle (task : Task) (rxLen : Int) (payload : Payload) : Task :=
  if rxLen < 0 then { task with failedAttempts := task.failedAttempts + 1 }
  else if rxLen < sizeofPointer then
    { task with failedAttempts := task.failedAttempts + 1 }.act .releaseBuffer
  else (task.takeReply config (sntpPacket payload)).act .releaseBuffer

/-- The end of a round of the inner loop. -/
def endRound (task : Task) : Task :=
  if config.resetAfterXFailures ≤ task.failedAttempts then
    { task with failedAttempts := 0, control := .connecting }.act .closesocket
  else { task with control := .sending }

end Task

/-- The task before its next step. -/
def Task.quiet (task : Task) : Task :=
  { task with actions := [] }

/-- One step of the task or of the clock. -/
def nextTask (config : Config) : LStep Task Label
  | task, .networkDown => if task.control = .connecting then some task.quiet else none
  | task, .connect gethostbyname validSocket =>
      if task.control = .connecting then
        some (task.quiet.connect config gethostbyname validSocket)
      else none
  | task, .send => if task.control = .sending then some task.quiet.send else none
  | task, .receive rxLen payload sender =>
      if task.control = .receiving then
        let task := if rxLen < 0 then task.quiet else { task.quiet with ntpAddr := sender }
        some ((task.handle config rxLen payload).endRound config)
      else none
  | task, .tick tickPeriod =>
      some { task.quiet with currentTime := rtosTimeIncrement task.currentTime tickPeriod }

/-! ## What the task has to do -/

/-- The seconds of the receive timestamp of a packet, most significant byte first. -/
def ntpSeconds (payload : Payload) : Nat :=
  leValue [payload 35, payload 34, payload 33, payload 32]

/-- The fraction of the receive timestamp of a packet. -/
def ntpFraction (payload : Payload) : Nat :=
  leValue [payload 39, payload 38, payload 37, payload 36]

/-- A time differs from the receive timestamp by less than a microsecond; both are compared in
units of `2 ^ -32` microseconds, and the seconds of the timestamp wrap after each era. -/
def Near (payload : Payload) (time : RtosTime) : Prop :=
  ∃ era : Int,
    let set : Int :=
      ((time.seconds.toNat + epoch.toNat) * 1000000 + time.microseconds.toNat) * 2 ^ 32
    let stamp : Int :=
      ((ntpSeconds payload + era * 2 ^ 32) * 2 ^ 32 + ntpFraction payload) * 1000000
    set - stamp < 2 ^ 32 ∧ stamp - set < 2 ^ 32

/-- A reply: a whole packet. -/
def Label.IsPacket : Label → Prop
  | .receive rxLen _ _ => sizeofPacket ≤ rxLen
  | _ => False

def Label.IsKissOfDeath : Label → Prop
  | .receive _ payload _ => (sntpPacket payload).stratum = stratumKissOfDeath
  | _ => False

/-- The time that a step sets is that of its reply, and is read so. -/
def SetsNear (label : Label) (now : RtosTime) (target : Task) : Prop :=
  match label with
  | .receive _ payload _ =>
      Near payload now ∧ now.microseconds.toNat < 1000000 ∧ rtosTimeGet target.currentTime = now
  | _ => False

/-- What one step has to keep to. -/
structure StepRight (source : Task) (label : Label) (target : Task) : Prop where
  setsTime : ∀ now, .rtosTimeSet now ∈ target.actions →
    label.IsPacket ∧ ¬ label.IsKissOfDeath ∧ SetsNear label now target
  setsSynced : .setTimeSynced ∈ target.actions ∨ target.timeSynced ≠ source.timeSynced →
    label.IsPacket ∧ ¬ label.IsKissOfDeath
  kissOfDeath : label.IsPacket → label.IsKissOfDeath →
    .closesocket ∈ target.actions ∧ target.control = .connecting ∧
      target.currentTime = source.currentTime

/-- Every step of the run is right. -/
def Keeps (config : Config) (start : RtosTime) (labels : List Label) : Prop :=
  ∀ before label source target, before ++ [label] <+: labels →
    run (nextTask config) (Task.initial start) before = some source →
      nextTask config source label = some target → StepRight source label target

/-- A reply that is as long as a pointer is a whole packet, no kiss-of-death, and less than a
microsecond behind its second. -/
def Label.Sound : Label → Prop
  | .receive rxLen payload _ =>
      sizeofPointer ≤ rxLen →
        sizeofPacket ≤ rxLen ∧ (sntpPacket payload).stratum ≠ stratumKissOfDeath ∧
          ntpFraction payload ≤ 4294
  | _ => True

/-! ## The time of a reply -/

theorem leValue_four_lt (first second third fourth : UInt8) :
    leValue [first, second, third, fourth] < 2 ^ 32 := by
  have bound := leValue_lt [first, second, third, fourth]
  have size : 256 ^ [first, second, third, fourth].length = 2 ^ 32 := by
    rw [List.length_cons, List.length_cons, List.length_cons, List.length_singleton]
    decide
  rwa [size] at bound

section
variable (payload : Payload)

theorem toNat_load (offset : Nat) : (load payload offset).toNat =
    leValue [payload offset, payload (offset + 1), payload (offset + 2), payload (offset + 3)] := by
  rw [load, UInt32.toNat_ofNat', Nat.mod_eq_of_lt (leValue_four_lt _ _ _ _)]

/-- The bytes of the network, most significant byte first. -/
theorem toNat_htonl_load (offset : Nat) : (htonl (load payload offset)).toNat =
    leValue [payload (offset + 3), payload (offset + 2), payload (offset + 1), payload offset] := by
  have bytes : leBytes 4 (load payload offset).toNat =
      [payload offset, payload (offset + 1), payload (offset + 2), payload (offset + 3)] := by
    rw [toNat_load]
    exact leBytes_leValue
      [payload offset, payload (offset + 1), payload (offset + 2), payload (offset + 3)]
  rw [htonl, bytes, UInt32.toNat_ofNat']
  exact Nat.mod_eq_of_lt (leValue_four_lt _ _ _ _)

theorem ntpSeconds_lt : ntpSeconds payload < 2 ^ 32 :=
  leValue_four_lt _ _ _ _

theorem ntpFraction_lt : ntpFraction payload < 2 ^ 32 :=
  leValue_four_lt _ _ _ _

theorem toNat_now_seconds : (sntpPacket payload).now.seconds.toNat =
    (2 ^ 32 - epoch.toNat + ntpSeconds payload) % 2 ^ 32 := by
  change (htonl (load payload 32) - epoch).toUInt64.toNat = _
  rw [UInt32.toNat_toUInt64, UInt32.toNat_sub, toNat_htonl_load]
  rfl

theorem toNat_now_microseconds : (sntpPacket payload).now.microseconds.toNat =
    ntpFraction payload / 4294967295 := by
  change (htonl (load payload 36) / uintMax).toNat = _
  rw [UInt32.toNat_div, toNat_htonl_load]
  rfl

/-- The quotient is 0, or 1 for the greatest fraction. -/
theorem toNat_now_microseconds_le : (sntpPacket payload).now.microseconds.toNat ≤ 1 := by
  have bound := ntpFraction_lt payload
  rw [toNat_now_microseconds]
  omega

theorem near_now_iff : Near payload (sntpPacket payload).now ↔ ntpFraction payload ≤ 4294 := by
  have seconds := toNat_now_seconds payload
  have microseconds := toNat_now_microseconds payload
  have fractionBound := ntpFraction_lt payload
  have secondsBound := ntpSeconds_lt payload
  have offset : epoch.toNat = 2208988800 := rfl
  rw [offset] at seconds
  unfold Near
  rw [offset]
  generalize (sntpPacket payload).now.seconds.toNat = setSeconds at *
  generalize (sntpPacket payload).now.microseconds.toNat = setMicroseconds at *
  generalize ntpFraction payload = fraction at *
  generalize ntpSeconds payload = stampSeconds at *
  -- The seconds that are set are in the era of the timestamp, or in the next one.
  have inEra : ∃ present : Int, 0 ≤ present ∧ present ≤ 1 ∧
      (setSeconds : Int) + 2208988800 = stampSeconds + present * 2 ^ 32 := by
    by_cases wraps : stampSeconds < 2208988800
    · exact ⟨1, by omega, by omega, by omega⟩
    · exact ⟨0, by omega, by omega, by omega⟩
  rcases inEra with ⟨present, _, _, sum⟩
  constructor
  · rintro ⟨era, before, behind⟩
    have same : era = present := by omega
    omega
  · intro early
    refine ⟨present, ?_, ?_⟩ <;> omega

/-- The clock is read as it was set. -/
theorem rtosTimeGet_set_now :
    rtosTimeGet (rtosTimeSet (sntpPacket payload).now) = (sntpPacket payload).now := by
  have small := toNat_now_microseconds_le payload
  generalize (sntpPacket payload).now = now at *
  have shifted : (now.microseconds <<< usFractionalBits >>> usFractionalBits) =
      now.microseconds := by
    apply UInt32.toNat_inj.mp
    rw [UInt32.toNat_shiftRight, UInt32.toNat_shiftLeft, Nat.shiftRight_eq_div_pow,
      Nat.shiftLeft_eq]
    change now.microseconds.toNat * 2 ^ 12 % 2 ^ 32 / 2 ^ 12 = now.microseconds.toNat
    omega
  unfold rtosTimeGet rtosTimeSet
  rw [shifted]

end

/-! ## One step -/

theorem Task.mem_act {task : Task} {action other : Action} :
    other ∈ (task.act action).actions ↔ other ∈ task.actions ∨ other = action := by
  rw [Task.act, List.mem_append, List.mem_singleton]

/-- The end of a round closes the socket at most. -/
theorem Task.endRound_keeps (config : Config) (task : Task) :
    (task.endRound config).currentTime = task.currentTime ∧
      (task.endRound config).timeSynced = task.timeSynced ∧
      ∀ action, action ≠ .closesocket →
        (action ∈ (task.endRound config).actions ↔ action ∈ task.actions) := by
  rw [endRound]
  by_cases full : config.resetAfterXFailures ≤ task.failedAttempts
  · rw [if_pos full]
    refine ⟨rfl, rfl, fun action other => ?_⟩
    rw [mem_act, or_iff_left other]
  · rw [if_neg full]
    exact ⟨rfl, rfl, fun _ _ => Iff.rfl⟩

/-- A reply that is taken sets the clock first. -/
theorem Task.takeReply_sets (config : Config) (task : Task) (packet : SntpPacket) :
    (task.takeReply config packet).currentTime = rtosTimeSet packet.now ∧
      (task.takeReply config packet).actions =
        task.actions ++ [.rtosTimeSet packet.now] ++ [.setTimeSynced] := by
  rw [takeReply]
  by_cases kiss : packet.stratum = stratumKissOfDeath
  · rw [if_pos kiss]
    exact ⟨rfl, rfl⟩
  · rw [if_neg kiss]
    exact ⟨rfl, rfl⟩

/-- A step that sets nothing is right unless it should close the socket. -/
theorem StepRight.of_quiet {source target : Task} {label : Label}
    (noSet : ∀ now, .rtosTimeSet now ∉ target.actions) (noSync : .setTimeSynced ∉ target.actions)
    (same : target.timeSynced = source.timeSynced) (noPacket : ¬ label.IsPacket) :
    StepRight source label target where
  setsTime now isAction := absurd isAction (noSet now)
  setsSynced set := absurd same (set.resolve_left noSync)
  kissOfDeath isPacket := absurd isPacket noPacket

/-- A round without a reply sets nothing. -/
theorem stepRight_failed {config : Config} {source task : Task} {rxLen : Int} {payload : Payload}
    {sender : UInt32} (noActions : task.actions = [])
    (synced : task.timeSynced = source.timeSynced) (short : rxLen < sizeofPointer) :
    StepRight source (.receive rxLen payload sender)
      ((task.handle config rxLen payload).endRound config) := by
  have failed : (task.handle config rxLen payload).timeSynced = source.timeSynced ∧
      ∀ action ∈ (task.handle config rxLen payload).actions, action = .releaseBuffer := by
    rw [Task.handle]
    by_cases negative : rxLen < 0
    · rw [if_pos negative]
      refine ⟨synced, fun action isAction => ?_⟩
      change action ∈ task.actions at isAction
      rw [noActions] at isAction
      cases isAction
    · rw [if_neg negative, if_pos short]
      refine ⟨synced, fun action isAction => ?_⟩
      change action ∈ task.actions ++ [.releaseBuffer] at isAction
      rw [noActions] at isAction
      exact List.mem_singleton.mp isAction
  have ends := Task.endRound_keeps config (task.handle config rxLen payload)
  refine .of_quiet (fun now isAction => ?_) (fun isAction => ?_) (ends.2.1.trans failed.1) ?_
  · cases failed.2 _ ((ends.2.2 _ Action.noConfusion).mp isAction)
  · cases failed.2 _ ((ends.2.2 _ Action.noConfusion).mp isAction)
  · exact Int.not_le.mpr (Int.lt_trans short (by decide))

/-- A round with a reply that is as long as a pointer. -/
theorem stepRight_taken_iff {config : Config} {source task : Task} {rxLen : Int}
    {payload : Payload} {sender : UInt32} (noActions : task.actions = [])
    (long : sizeofPointer ≤ rxLen) :
    StepRight source (.receive rxLen payload sender)
        ((task.handle config rxLen payload).endRound config) ↔
      (Label.receive rxLen payload sender).Sound := by
  have notNegative : ¬ rxLen < 0 := Int.not_lt.mpr (Int.le_trans (by decide) long)
  have handled : task.handle config rxLen payload =
      (task.takeReply config (sntpPacket payload)).act .releaseBuffer := by
    rw [Task.handle, if_neg notNegative, if_neg (Int.not_lt.mpr long)]
  have sets := Task.takeReply_sets config task (sntpPacket payload)
  have ends := Task.endRound_keeps config (task.handle config rxLen payload)
  have isSet : .rtosTimeSet (sntpPacket payload).now ∈
      ((task.handle config rxLen payload).endRound config).actions := by
    rw [ends.2.2 _ Action.noConfusion, handled, Task.mem_act, sets.2]
    simp
  have onlySet : ∀ now, .rtosTimeSet now ∈
      ((task.handle config rxLen payload).endRound config).actions →
        now = (sntpPacket payload).now := by
    intro now isAction
    rw [ends.2.2 _ Action.noConfusion, handled, Task.mem_act, sets.2, noActions] at isAction
    simpa using isAction
  have clock : ((task.handle config rxLen payload).endRound config).currentTime =
      rtosTimeSet (sntpPacket payload).now := by
    rw [ends.1, handled]
    exact sets.1
  constructor
  · intro right _
    rcases right.setsTime _ isSet with ⟨isPacket, notKiss, near, _, _⟩
    exact ⟨isPacket, notKiss, (near_now_iff payload).mp near⟩
  · intro sound
    rcases sound long with ⟨isPacket, notKiss, early⟩
    constructor
    · intro now isAction
      rw [onlySet now isAction]
      refine ⟨isPacket, notKiss, (near_now_iff payload).mpr early, ?_, ?_⟩
      · exact Nat.lt_of_le_of_lt (toNat_now_microseconds_le payload) (by decide)
      · rw [clock]
        exact rtosTimeGet_set_now payload
    · intro _
      exact ⟨isPacket, notKiss⟩
    · intro _ isKiss
      exact absurd isKiss notKiss

/-- A step is right just when its label is sound. -/
theorem stepRight_iff {config : Config} {source target : Task} {label : Label}
    (step : nextTask config source label = some target) :
    StepRight source label target ↔ label.Sound := by
  cases label with
  | networkDown =>
      rcases Option.ite_none_right_eq_some.mp step with ⟨_, same⟩
      cases same
      refine iff_of_true (.of_quiet (fun _ => ?_) ?_ rfl id) trivial
      · exact List.not_mem_nil
      · exact List.not_mem_nil
  | connect gethostbyname validSocket =>
      rcases Option.ite_none_right_eq_some.mp step with ⟨_, same⟩
      cases same
      refine iff_of_true (.of_quiet (fun _ => ?_) ?_ rfl id) trivial
      · exact List.not_mem_nil
      · exact List.not_mem_nil
  | send =>
      rcases Option.ite_none_right_eq_some.mp step with ⟨_, same⟩
      cases same
      refine iff_of_true (.of_quiet (fun _ isAction => ?_) (fun isAction => ?_) rfl id) trivial
      · cases List.mem_singleton.mp isAction
      · cases List.mem_singleton.mp isAction
  | receive rxLen payload sender =>
      rcases Option.ite_none_right_eq_some.mp step with ⟨_, same⟩
      cases same
      by_cases negative : rxLen < 0
      · have short : rxLen < sizeofPointer := Int.lt_trans negative (by decide)
        rw [if_pos negative]
        exact iff_of_true (stepRight_failed rfl rfl short)
          fun long => absurd short (Int.not_lt.mpr long)
      · rw [if_neg negative]
        by_cases short : rxLen < sizeofPointer
        · exact iff_of_true (stepRight_failed rfl rfl short)
            fun long => absurd short (Int.not_lt.mpr long)
        · exact stepRight_taken_iff rfl (Int.not_lt.mp short)
  | tick tickPeriod =>
      cases step
      refine iff_of_true (.of_quiet (fun _ => ?_) ?_ rfl id) trivial
      · exact List.not_mem_nil
      · exact List.not_mem_nil

/-! ## Every run -/

/-- Every step of a run is right just when the replies that it takes are sound. -/
theorem keepsTime_iff (config : Config) (start : RtosTime) (labels : List Label) :
    Keeps config start labels ↔
      StepsMeet (nextTask config) (Task.initial start) labels fun _ label => label.Sound := by
  constructor
  · intro keeps before label isPrefix source target executed step
    exact (stepRight_iff step).mp (keeps before label source target isPrefix executed step)
  · intro met before label source target isPrefix executed step
    exact (stepRight_iff step).mpr (met isPrefix executed step)

theorem not_keeps_of_step {config : Config} {start : RtosTime} (before : List Label)
    {label : Label} {source target : Task}
    (executed : run (nextTask config) (Task.initial start) before = some source)
    (step : nextTask config source label = some target) (unsound : ¬ label.Sound) :
    ¬ Keeps config start (before ++ [label]) := by
  intro keeps
  exact unsound ((stepRight_iff step).mp
    (keeps before label source target (List.prefix_refl _) executed step))

/-- A packet with a stratum and a fraction. -/
def packetWith (stratum fraction : UInt8) : Payload := fun place =>
  if place = 1 then stratum else if place = 36 then fraction else 0

/-- A datagram of 4 bytes, a fraction of half a second and a kiss-of-death set the clock. -/
theorem threeReplies_not_keep :
    ¬ Keeps defaultConfig ⟨0, 0⟩
        [.connect (fun _ => 1) true, .send, .receive 4 (packetWith 1 0) 1] ∧
      ¬ Keeps defaultConfig ⟨0, 0⟩
        [.connect (fun _ => 1) true, .send, .receive 48 (packetWith 1 128) 1] ∧
      ¬ Keeps defaultConfig ⟨0, 0⟩
        [.connect (fun _ => 1) true, .send, .receive 48 (packetWith 0 0) 1] := by
  refine ⟨?_, ?_, ?_⟩
  · apply not_keeps_of_step [.connect (fun _ => 1) true, .send] rfl rfl
    intro sound
    exact absurd (sound (by decide)).1 (by decide)
  · apply not_keeps_of_step [.connect (fun _ => 1) true, .send] rfl rfl
    intro sound
    have early := (sound (by decide)).2.2
    simp [ntpFraction, packetWith] at early
  · apply not_keeps_of_step [.connect (fun _ => 1) true, .send] rfl rfl
    intro sound
    exact (sound (by decide)).2.1 rfl

end FwkRtos.Sntpd
