import FwkRtos.Dhcpd.Exclusive

/-!
# Addresses that clients inform about

A client that informs the server of the address that the server knows it by
makes its entry static.  A static entry is never selected for another client
and its time is never over, so it stays until its own client sends a message or
somebody gives up its address.
-/

namespace FwkRtos.Dhcpd

open FwkRtos.Transition

variable {lists : KernelList} {around : Surroundings} {config : Config}

/-- The message is an INFORM in the form in which the server takes it. -/
def Informs (message : DhcpMessage) (optionsLength : Nat) : Prop :=
  (message.requested optionsLength).dhcpMsgType = dhcpInform ∧
    (message.requested optionsLength).requestedIp = none ∧
      (message.requested optionsLength).serverIdentifier = none

instance (message : DhcpMessage) (optionsLength : Nat) :
    Decidable (Informs message optionsLength) :=
  inferInstanceAs (Decidable (_ ∧ _ ∧ _))

/-- The action is neither a message of the client nor one that gives up the address. -/
def Action.LeavesAlone (mac : MacAddress) (ip : InAddr) : Action → Prop
  | .handle message optionsLength =>
      message.chaddr ≠ mac ∧ ¬ GivesUp message (message.requested optionsLength) ip
  | .sweep => True

instance (mac : MacAddress) (ip : InAddr) : ∀ action : Action, Decidable (action.LeavesAlone mac ip)
  | .handle _ _ => inferInstanceAs (Decidable (_ ∧ _))
  | .sweep => .isTrue trivial

section
variable {count : Nat} {address : Nat → InAddr} {server : Server} {client : Nat}
  {message : DhcpMessage} {optionsLength : Nat}

/-! ## The message itself -/

theorem classify_informs (server : Server) (config : Config)
    (informs : Informs message optionsLength) (some_ : message.ciaddr ≠ 0) :
    server.classify config message (message.requested optionsLength) =
      ⟨.informing, message.ciaddr, none, message.ciaddr⟩ := by
  rcases informs with ⟨isInform, noIp, noServer⟩
  have notDiscover : dhcpInform ≠ dhcpDiscover := by decide
  have notRequest : dhcpInform ≠ dhcpRequest := by decide
  simp only [Server.classify, isInform, noIp, noServer, if_neg notDiscover, if_neg notRequest,
    if_true, Option.isSome_none, Bool.false_eq_true, not_false_eq_true, true_and, ne_eq, some_]

/-- The entry that holds a client is the one that its MAC address leads to. -/
theorem PoolInv.lookupByMac_eq (inv : PoolInv count address server) (inside : client < count)
    (some_ : (server.infos client).mac ≠ zeroMac) :
    server.lookupByMac (server.infos client).mac = some client := by
  cases found : server.lookupByMac (server.infos client).mac with
  | none => exact absurd rfl (inv.lookupByMac_none found client inside)
  | some other =>
      rcases inv.lookupByMac found with ⟨otherInside, holds⟩
      rw [inv.macs client other inside otherInside some_ holds.symm]

/-- An INFORM of the address that the client is known by makes its entry static. -/
theorem PoolInv.handle_inform (lists : KernelList) (around : Surroundings) (config : Config)
    (inv : PoolInv count address server) (inside : client < count)
    (valid : config.Valid (server.infos client).ip) (informs : Informs message optionsLength)
    (isIp : (server.infos client).ip = message.ciaddr)
    (known : (server.infos client).mac = message.chaddr) (some_ : message.chaddr ≠ zeroMac) :
    next lists around config server (.handle message optionsLength) =
      some (server.clientUpdate lists around client .static 0) := by
  have notAny : message.ciaddr ≠ inaddrAny := isIp ▸ valid.ne_any
  have notBroadcast : message.ciaddr ≠ inaddrBroadcast := by
    intro broadcast
    have skipped := skips_broadcast config
    rw [← broadcast, ← isIp, valid.2.2] at skipped
    cases skipped
  have found : server.lookupByMac message.chaddr = some client := by
    rw [← known] at some_ ⊢
    exact inv.lookupByMac_eq inside some_
  have notRequest : dhcpInform ≠ dhcpRequest := by decide
  have leased : server.clientIpAddressLease lists around config message.chaddr message.ciaddr
      dhcpInform = some (message.ciaddr, server.clientUpdate lists around client .static 0) := by
    simp only [Server.clientIpAddressLease, found, Server.leaseKnown, notRequest, false_and,
      if_false, ne_eq, not_true_eq_false, isIp, if_true]
  have classified := classify_informs server config informs notAny
  simp only [next, Server.handleOpRequest, classified, informs.1, leased, Option.map_some,
    Server.respond, ne_eq, notAny, notBroadcast, not_false_eq_true, and_self, if_true]

/-! ## What a static entry withstands -/

/-- An entry whose time is over is changed alone, and a static one not at all. -/
theorem expire_static {other : Nat} (isStatic : (server.infos client).state = .static) :
    (server.expire lists around config other).infos client = server.infos client := by
  by_cases same : client = other
  · subst same
    simp only [Server.expire, isStatic]
  · exact expire_other same

theorem sweep_static {now : UInt64} {passes : Nat} {item : Option Nat} {after : Server}
    (isStatic : (server.infos client).state = .static)
    (swept : server.sweep lists around config now passes item = some after) :
    after.infos client = server.infos client := by
  induction passes generalizing server item with
  | zero =>
      cases swept
      rfl
  | succ passes ih =>
      cases item with
      | none =>
          rw [Server.sweep] at swept
          by_cases over_ : around.timeOf portMaxDelay ≤ now
          · rw [if_pos over_] at swept
            cases swept
          · rw [if_neg over_] at swept
            exact ih isStatic swept
      | some other =>
          rw [Server.sweep] at swept
          by_cases over_ : around.timeOf (server.infos other).value ≤ now
          · simp only [over_, if_true] at swept
            have kept : (server.expire lists around config other).infos client =
                server.infos client := expire_static isStatic
            rw [← kept] at isStatic ⊢
            exact ih isStatic swept
          · simp only [over_, if_false] at swept
            exact ih isStatic swept

/-- The entry is the client's and static, and the others are free of the client. -/
structure Pinned (count : Nat) (client : Nat) (mac : MacAddress) (server : Server) : Prop where
  isStatic : (server.infos client).state = .static
  holds : (server.infos client).mac = mac
  others : ∀ other, other < count → other ≠ client → (server.infos other).mac ≠ mac

instance (mac : MacAddress) : Decidable (Pinned count client mac server) :=
  decidable_of_iff
    ((server.infos client).state = .static ∧ (server.infos client).mac = mac ∧
      ∀ other, other < count → other ≠ client → (server.infos other).mac ≠ mac)
    ⟨fun ⟨isStatic, holds, others⟩ => ⟨isStatic, holds, others⟩,
      fun ⟨isStatic, holds, others⟩ => ⟨isStatic, holds, others⟩⟩

theorem Pinned.notAvailable {mac : MacAddress} (pinned : Pinned count client mac server) :
    (server.infos client).state ≠ .available := by
  rw [pinned.isStatic]
  decide

/-- No action that leaves it alone changes the entry. -/
theorem Pinned.step {mac : MacAddress} {ip : InAddr} {action : Action} {after : Server}
    (inv : PoolInv count address server) (isIp : (server.infos client).ip = ip)
    (pinned : Pinned count client mac server) (leaves : action.LeavesAlone mac ip)
    (step : next lists around config server action = some after) :
    after.infos client = server.infos client := by
  cases action with
  | sweep =>
      have swept : (server.readClock around).2.sweep lists around config
          (server.readClock around).1 server.pool.length server.pool.head? = some after := step
      have isStatic : ((server.readClock around).2.infos client).state = .static :=
        pinned.isStatic
      have kept := sweep_static isStatic swept
      exact kept
  | handle message optionsLength =>
      rcases Option.map_eq_some_iff.mp step with ⟨handled, isHandled, rfl⟩
      exact held_unchanged inv isIp pinned.notAvailable pinned.holds leaves.1 leaves.2 isHandled

end

/-- When a client informs the server of the address that it is known by, and no other
entry has that address, then its entry becomes static, no other entry has the
client, and as long as neither the client sends a message nor somebody gives up the
address, the entry does not change and no OFFER or ACK outside the ping state
carries its address. -/
theorem inform_pins (passes : Nat) (created : Server)
    (init : dhcpdIpPoolInit lists around config passes = some created) (server : Server)
    (reachable : Reachable (next lists around config) created server) (message : DhcpMessage)
    (optionsLength : Nat) (informs : Informs message optionsLength)
    (some_ : message.chaddr ≠ zeroMac) (client : Nat) (inside : client < created.pool.length)
    (isIp : (server.infos client).ip = message.ciaddr)
    (only : ∀ other, other < created.pool.length →
      (server.infos other).ip = message.ciaddr → other = client)
    (known : (server.infos client).mac = message.chaddr) :
    ∃ handled, server.handleOpRequest lists around config message optionsLength = some handled ∧
      Pinned created.pool.length client message.chaddr handled.server ∧
      (handled.server.infos client).ip = message.ciaddr ∧
      ∀ schedule : List Action,
        (∀ action ∈ schedule, action.LeavesAlone message.chaddr message.ciaddr) →
        StatesSatisfy (next lists around config) handled.server schedule
            (fun later => later.infos client = handled.server.infos client) ∧
          ∀ before other otherLength, before ++ [.handle other otherLength] <+: schedule →
            ∀ source answered, run (next lists around config) handled.server before = some source →
              source.handleOpRequest lists around config other otherLength = some answered →
              (source.classify config other (other.requested otherLength)).state ≠ .pinging →
                ∀ answer ∈ answered.reply, answer.messageType ≠ dhcpNak →
                  answer.message.yiaddr ≠ message.ciaddr := by
  have inv := poolInv_of_reachable init reachable
  have valid : config.Valid (server.infos client).ip := by
    rw [inv.addresses client inside]
    exact (created_init init).valid client inside
  have informed := inv.handle_inform lists around config inside valid informs isIp known some_
  rcases Option.map_eq_some_iff.mp informed with ⟨handled, isHandled, isAfter⟩
  have afterInv := inv.step informed
  rw [← isAfter] at afterInv
  rcases Server.clientUpdate_self lists around server client .static 0 with ⟨isStatic, ip, mac⟩
  rw [← isAfter] at isStatic ip mac
  have afterIp : (handled.server.infos client).ip = message.ciaddr := ip.trans isIp
  have holds : (handled.server.infos client).mac = message.chaddr := mac.trans known
  have pinned : Pinned created.pool.length client message.chaddr handled.server := by
    refine ⟨isStatic, holds, fun other otherInside different otherHolds => different ?_⟩
    refine afterInv.macs other client otherInside inside ?_ (otherHolds.trans holds.symm)
    rw [otherHolds]
    exact some_
  refine ⟨handled, isHandled, pinned, afterIp, fun schedule leaves => ?_⟩
  -- The invariant and the entry are kept together.
  let Both (state : Server) : Prop :=
    PoolInv created.pool.length (fun client => (created.infos client).ip) state ∧
      state.infos client = handled.server.infos client
  have pinnedOf : ∀ ⦃state⦄, Both state →
      Pinned created.pool.length client message.chaddr state ∧
        (state.infos client).ip = message.ciaddr := by
    rintro state ⟨stateInv, same⟩
    have stateHolds : (state.infos client).mac = message.chaddr := by rw [same, holds]
    refine ⟨⟨by rw [same, isStatic], stateHolds, ?_⟩, by rw [same, afterIp]⟩
    intro other otherInside different otherHolds
    refine different (stateInv.macs other client otherInside inside ?_
      (otherHolds.trans stateHolds.symm))
    rw [otherHolds]
    exact some_
  have alone : StepsMeet (next lists around config) handled.server schedule
      fun _ action => action.LeavesAlone message.chaddr message.ciaddr :=
    fun before _ isPrefix _ _ _ _ =>
      leaves _ (isPrefix.subset (List.mem_append_right before (List.mem_singleton_self _)))
  have kept : ∀ ⦃source after action⦄, Both source →
      action.LeavesAlone message.chaddr message.ciaddr →
      next lists around config source action = some after → Both after := by
    rintro source after action both leaves step
    rcases pinnedOf both with ⟨sourcePinned, sourceIp⟩
    exact ⟨both.1.step step, (sourcePinned.step both.1 sourceIp leaves step).trans both.2⟩
  have along : ∀ before, before <+: schedule → ∀ source,
      run (next lists around config) handled.server before = some source → Both source :=
    fun before isPrefix source executed =>
      (alone.guardedReachable isPrefix executed).invariant ⟨afterInv, rfl⟩ kept
  constructor
  · exact fun before isPrefix source executed => (along before isPrefix source executed).2
  · intro before other otherLength isPrefix source answered executed step notPing
    have both := along before ((List.prefix_append _ _).trans isPrefix) source executed
    rcases pinnedOf both with ⟨sourcePinned, sourceIp⟩
    have left := leaves (.handle other otherLength)
      (isPrefix.subset (List.mem_append_right before (List.mem_singleton_self _)))
    have onlyClient : ∀ third, third < created.pool.length →
        (created.infos third).ip = (created.infos client).ip → third = client := by
      intro third thirdInside same
      rw [← inv.addresses client inside, isIp, ← inv.addresses third thirdInside] at same
      exact only third thirdInside same
    exact answer_ne_held both.1 inside onlyClient (isIp ▸ valid.ne_any) sourceIp
      sourcePinned.notAvailable sourcePinned.holds left.1 left.2 step notPing

/-! ## A client with a lease, and one without -/

/-- The first client, which leases 10.0.0.2, informs the server of it. -/
def firstInform : DhcpMessage :=
  clientMessage firstClient 0x0a000002 [53, 1, 8, 255]

theorem firstRequest_handled :
    next .stable quiet defaultConfig afterDiscover (.handle firstRequest 16) =
      some afterRequest.server := by
  have isHandled : afterDiscover.handleOpRequest .stable quiet defaultConfig firstRequest 16 =
      some afterRequest := (Option.some_get _).symm
  rw [next, isHandled]
  rfl

theorem firstInform_pins :
    ∃ handled, afterRequest.server.handleOpRequest .stable quiet defaultConfig firstInform 4 =
        some handled ∧ Pinned defaultPool.pool.length 0 firstClient handled.server := by
  rcases inform_pins 16 defaultPool (Option.some_get _).symm afterRequest.server
    (.tail (.tail .refl trivial (Option.some_get _).symm) trivial firstRequest_handled)
    firstInform 4 (by decide +kernel) (by decide +kernel) 0 (by decide +kernel)
    (by decide +kernel) (by decide +kernel) (by decide +kernel) with
    ⟨handled, isHandled, pinned, _⟩
  exact ⟨handled, isHandled, pinned⟩

/-- The INFORM of a client that has no entry leaves the entry of its address available;
and a ping of another client is answered with an address that an INFORM has made
static. -/
theorem unknownInform_not_pins :
    (∃ handled, defaultPool.handleOpRequest .stable quiet defaultConfig firstInform 4 =
        some handled ∧ (handled.server.infos 0).ip = 0x0a000002 ∧
          (handled.server.infos 0).mac = firstClient ∧
            (handled.server.infos 0).state = .available) ∧
      ∃ handled, run (next .stable quiet defaultConfig) afterRequest.server
          [.handle firstInform 4] = some handled ∧
        ∃ answered, handled.handleOpRequest .stable quiet defaultConfig
            (clientMessage secondClient 0x0a000003 [53, 1, 3, 50, 4, 10, 0, 0, 2, 255]) 10 =
              some answered ∧
          ∃ reply ∈ answered.reply, reply.messageType = dhcpAck ∧
            reply.message.yiaddr = 0x0a000002 ∧ reply.message.chaddr = secondClient := by
  have informed : (defaultPool.handleOpRequest .stable quiet defaultConfig firstInform 4).map
      (fun handled => decide ((handled.server.infos 0).ip = 0x0a000002 ∧
        (handled.server.infos 0).mac = firstClient ∧
          (handled.server.infos 0).state = .available)) = some true := by decide +kernel
  have pinged : (run (next .stable quiet defaultConfig) afterRequest.server
      [.handle firstInform 4]).map (fun pinned =>
        ((pinned.handleOpRequest .stable quiet defaultConfig
          (clientMessage secondClient 0x0a000003 [53, 1, 3, 50, 4, 10, 0, 0, 2, 255]) 10).bind
            Handled.reply).map fun reply => decide (reply.messageType = dhcpAck ∧
              reply.message.yiaddr = 0x0a000002 ∧ reply.message.chaddr = secondClient)) =
        some (some true) := by decide +kernel
  rcases Option.map_eq_some_iff.mp informed with ⟨handled, isHandled, available⟩
  rcases Option.map_eq_some_iff.mp pinged with ⟨pinned, executed, pinged⟩
  rcases Option.map_eq_some_iff.mp pinged with ⟨reply, isReply, carries⟩
  rcases Option.bind_eq_some_iff.mp isReply with ⟨answered, isAnswered, isReply⟩
  exact ⟨⟨handled, isHandled, of_decide_eq_true available⟩, pinned, executed, answered,
    isAnswered, reply, isReply, of_decide_eq_true carries⟩

end FwkRtos.Dhcpd
