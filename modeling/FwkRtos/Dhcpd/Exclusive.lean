import FwkRtos.Dhcpd.Consistency

/-!
# Leases are exclusive

A leased entry is only changed by messages of its own client, by the sweep, and
by a RELEASE or DECLINE that names its address: these two look the entry up by
the address and do not compare the sender with its client.
-/

namespace FwkRtos.Dhcpd

open FwkRtos.Transition

/-- The address is leased to the client. -/
def LeasedTo (count : Nat) (ip : InAddr) (mac : MacAddress) (server : Server) : Prop :=
  ∃ client, client < count ∧ (server.infos client).ip = ip ∧
    (server.infos client).state = .leased ∧ (server.infos client).mac = mac

instance (count : Nat) (ip : InAddr) (mac : MacAddress) (server : Server) :
    Decidable (LeasedTo count ip mac server) :=
  inferInstanceAs (Decidable (∃ client, client < count ∧ _))

variable {lists : KernelList} {around : Surroundings} {config : Config}

/-- Until now the lease has ended neither by its own client nor by a sweep, and no other
client has given up the address. -/
def Lasts (lists : KernelList) (around : Surroundings) (config : Config) (count : Nat)
    (ip : InAddr) (mac : MacAddress) (server : Server) : Action → Prop
  | .handle message optionsLength =>
      if message.chaddr = mac then
        ∀ after, next lists around config server (.handle message optionsLength) = some after →
          LeasedTo count ip mac after
      else ¬ GivesUp message (message.requested optionsLength) ip
  | .sweep => ∀ after, next lists around config server .sweep = some after →
      LeasedTo count ip mac after

section
variable {count : Nat} {address : Nat → InAddr} {server : Server} {ip : InAddr}
  {mac : MacAddress} {message : DhcpMessage} {optionsLength : Nat} {handled : Handled}

/-- A message of another client leaves an entry that is not available as it is. -/
theorem held_unchanged {client : Nat} (inv : PoolInv count address server)
    (isIp : (server.infos client).ip = ip)
    (notAvailable : (server.infos client).state ≠ .available)
    (holds : (server.infos client).mac = mac) (other : message.chaddr ≠ mac)
    (keeps : ¬ GivesUp message (message.requested optionsLength) ip)
    (step : server.handleOpRequest lists around config message optionsLength = some handled) :
    handled.server.infos client = server.infos client := by
  refine (inv.handleOpRequest step).others client ?_ notAvailable ?_
  · rw [holds]
    exact Ne.symm other
  · intro found
    rcases (inv.classify_inside found).2 with isSender | givesUp
    · exact other (isSender.symm.trans holds)
    · rw [isIp] at givesUp
      exact keeps givesUp

/-- An answer to another client does not carry the address of such an entry, when no
other entry has it. -/
theorem answer_ne_held {client : Nat} (inv : PoolInv count address server)
    (inside : client < count)
    (only : ∀ other, other < count → address other = address client → other = client)
    (notAny : ip ≠ inaddrAny) (isIp : (server.infos client).ip = ip)
    (notAvailable : (server.infos client).state ≠ .available)
    (holds : (server.infos client).mac = mac) (other : message.chaddr ≠ mac)
    (keeps : ¬ GivesUp message (message.requested optionsLength) ip)
    (step : server.handleOpRequest lists around config message optionsLength = some handled)
    (notPing : (server.classify config message (message.requested optionsLength)).state ≠
      .pinging) :
    ∀ reply ∈ handled.reply, reply.messageType ≠ dhcpNak → reply.message.yiaddr ≠ ip := by
  have unchanged := held_unchanged inv isIp notAvailable holds other keeps step
  have handles := inv.handleOpRequest step
  intro reply isReply notNak same
  rcases handles.answer reply isReply notNak with isPing | ⟨_, isZero⟩ |
    ⟨answered, answeredInside, answeredIp, answeredMac, _⟩
  · exact notPing isPing
  · exact notAny (same.symm.trans isZero)
  · -- The answer's entry would be the one with the address, which holds another client.
    have sameAddress : address answered = address client := by
      rw [← handles.inv.addresses answered answeredInside, ← inv.addresses client inside, isIp,
        answeredIp, same]
    rw [only answered answeredInside sameAddress, unchanged, holds] at answeredMac
    exact other answeredMac.symm

/-- While it lasts, a lease stays. -/
theorem LeasedTo.step {action : Action} {after : Server} (inv : PoolInv count address server)
    (leased : LeasedTo count ip mac server)
    (lasts : Lasts lists around config count ip mac server action)
    (step : next lists around config server action = some after) :
    LeasedTo count ip mac after := by
  cases action with
  | sweep => exact lasts after step
  | handle message optionsLength =>
      by_cases own : message.chaddr = mac
      · simp only [Lasts, if_pos own] at lasts
        exact lasts after step
      · simp only [Lasts, if_neg own] at lasts
        obtain ⟨handled, isHandled, rfl⟩ := Option.map_eq_some_iff.mp step
        obtain ⟨client, inside, isIp, isLeased, holds⟩ := leased
        have notAvailable : (server.infos client).state ≠ .available := by
          rw [isLeased]
          decide
        have unchanged := held_unchanged inv isIp notAvailable holds own lasts isHandled
        refine ⟨client, inside, ?_, ?_, ?_⟩
        · rw [unchanged, isIp]
        · rw [unchanged, isLeased]
        · rw [unchanged, holds]

end

/-- After an ACK that leases an address to a client, and while neither a sweep nor a
message of that client ends the lease and no other client gives the address up,
messages of other clients leave it leased to that client, and no OFFER or ACK
outside the ping state carries it to another client. -/
theorem lease_exclusive (passes : Nat) (created : Server)
    (init : dhcpdIpPoolInit lists around config passes = some created)
    (distinct : DistinctAddresses created.pool.length created) (server : Server)
    (reachable : Reachable (next lists around config) created server) (message : DhcpMessage)
    (optionsLength : Nat) (handled : Handled)
    (acknowledged : server.handleOpRequest lists around config message optionsLength =
      some handled)
    (reply : Reply) (isReply : reply ∈ handled.reply) (isAck : reply.messageType = dhcpAck)
    (leases : (server.classify config message (message.requested optionsLength)).state ≠ .pinging ∧
      (server.classify config message (message.requested optionsLength)).state ≠ .informing)
    (schedule : List Action)
    (lasts : StepsMeet (next lists around config) handled.server schedule
      (Lasts lists around config created.pool.length reply.message.yiaddr message.chaddr)) :
    StatesSatisfy (next lists around config) handled.server schedule
        (LeasedTo created.pool.length reply.message.yiaddr message.chaddr) ∧
      ∀ before other otherLength, before ++ [.handle other otherLength] <+: schedule →
        other.chaddr ≠ message.chaddr → ∀ source answered,
          run (next lists around config) handled.server before = some source →
          source.handleOpRequest lists around config other otherLength = some answered →
          (source.classify config other (other.requested otherLength)).state ≠ .pinging →
            ∀ answer ∈ answered.reply, answer.messageType ≠ dhcpNak →
              answer.message.yiaddr ≠ reply.message.yiaddr := by
  have inv := poolInv_of_reachable init reachable
  have handles := inv.handleOpRequest acknowledged
  have isLeased : LeasedTo created.pool.length reply.message.yiaddr message.chaddr
      handled.server := by
    have notNak : reply.messageType ≠ dhcpNak := by
      rw [isAck]
      decide
    rcases handles.answer reply isReply notNak with isPing | ⟨informs, _⟩ |
      ⟨client, inside, isIp, holds, ⟨isOffer, _⟩ | ⟨_, isLeased⟩⟩
    · exact absurd isPing leases.1
    · exact absurd informs leases.2
    · rw [isAck] at isOffer
      exact absurd isOffer (by decide)
    · exact ⟨client, inside, isIp, isLeased, holds⟩
  -- The invariant and the lease are kept together.
  let Both (state : Server) : Prop :=
    PoolInv created.pool.length (fun client => (created.infos client).ip) state ∧
      LeasedTo created.pool.length reply.message.yiaddr message.chaddr state
  have kept : ∀ ⦃source after action⦄, Both source →
      Lasts lists around config created.pool.length reply.message.yiaddr message.chaddr source
        action → next lists around config source action = some after → Both after := by
    rintro source after action ⟨inv, leased⟩ lasts step
    exact ⟨inv.step step, leased.step inv lasts step⟩
  have along : ∀ before, before <+: schedule → ∀ source,
      run (next lists around config) handled.server before = some source → Both source :=
    fun before isPrefix source executed =>
      (lasts.guardedReachable isPrefix executed).invariant ⟨handles.inv, isLeased⟩ kept
  refine ⟨fun before isPrefix source executed => (along before isPrefix source executed).2, ?_⟩
  intro before other otherLength isPrefix isOther source answered executed step notPing
  obtain ⟨sourceInv, client, inside, isIp, isLeased, holds⟩ := along before
    ((List.prefix_append _ _).trans isPrefix) source executed
  have keeps : ¬ GivesUp other (other.requested otherLength) reply.message.yiaddr := by
    have met := lasts isPrefix executed (show next lists around config source
      (.handle other otherLength) = some answered.server by
        show (source.handleOpRequest lists around config other otherLength).map _ = _
        rw [step]
        rfl)
    simpa only [Lasts, if_neg isOther] using met
  have notAvailable : (source.infos client).state ≠ .available := by
    rw [isLeased]
    decide
  have notAny : reply.message.yiaddr ≠ inaddrAny := by
    rw [← isIp, sourceInv.addresses client inside]
    exact ((created_init init).valid client inside).ne_any
  exact answer_ne_held sourceInv inside
    (fun other otherInside => distinct other client otherInside inside) notAny isIp notAvailable
    holds isOther keeps step notPing

/-! ## Two clients -/

def firstClient : MacAddress := #v[2, 0, 0, 0, 0, 1]

def secondClient : MacAddress := #v[2, 0, 0, 0, 0, 2]

/-- A message with the given options, the rest of the option area being padding. -/
def clientMessage (chaddr : MacAddress) (ciaddr : InAddr) (options : List UInt8) :
    DhcpMessage where
  op := bootrequest
  htype := 1
  hlen := 6
  hops := 0
  xid := 7
  secs := 0
  flags := 0
  ciaddr := ciaddr
  yiaddr := 0
  siaddr := 0
  giaddr := 0
  chaddr := chaddr
  padding := List.replicate 10 0
  sname := List.replicate 64 0
  file := List.replicate 128 0
  magicCookie := dhcpMagicCookie
  options := options ++ List.replicate (dhcpOptionsLength - options.length) 0

/-- The server once the first client has discovered and was offered 10.0.0.2. -/
def afterDiscover : Server :=
  (next .stable quiet defaultConfig defaultPool
    (.handle (clientMessage firstClient 0 [53, 1, 1, 255]) 4)).get (by decide +kernel)

/-- The first client requests what it was offered. -/
def firstRequest : DhcpMessage :=
  clientMessage firstClient 0 [53, 1, 3, 50, 4, 10, 0, 0, 2, 54, 4, 10, 0, 0, 1, 255]

def afterRequest : Handled :=
  (afterDiscover.handleOpRequest .stable quiet defaultConfig firstRequest 16).get
    (by decide +kernel)

/-- The ACK that leases 10.0.0.2 to it. -/
def firstAck : Reply :=
  afterRequest.reply.get (by decide +kernel)

/-- Then the second client asks for the same address. -/
def secondDiscover : DhcpMessage :=
  clientMessage secondClient 0 [53, 1, 1, 50, 4, 10, 0, 0, 2, 255]

theorem secondDiscover_lasts :
    StepsMeet (next .stable quiet defaultConfig) afterRequest.server [.handle secondDiscover 10]
      (Lasts .stable quiet defaultConfig defaultPool.pool.length firstAck.message.yiaddr
        firstRequest.chaddr) := by
  rw [stepsMeet_cons_iff]
  intro after _
  have other : secondDiscover.chaddr ≠ firstRequest.chaddr := by decide +kernel
  refine ⟨?_, stepsMeet_nil _ _ _⟩
  simp only [Lasts, if_neg other]
  decide +kernel

theorem firstLease_exclusive :
    StatesSatisfy (next .stable quiet defaultConfig) afterRequest.server
      [.handle secondDiscover 10]
      (LeasedTo defaultPool.pool.length firstAck.message.yiaddr firstRequest.chaddr) :=
  (lease_exclusive 16 defaultPool (Option.some_get _).symm
    ((distinct_init_iff (Option.some_get _).symm).mpr fun isLast => absurd isLast (by decide))
    afterDiscover (.tail .refl trivial (Option.some_get _).symm) firstRequest 16 afterRequest
    (Option.some_get _).symm firstAck (Option.get_mem _) (by decide +kernel) (by decide +kernel)
    [.handle secondDiscover 10] secondDiscover_lasts).1

/-- A RELEASE of the second client ends the first one's lease, and a ping of the second
client is answered with an ACK that carries the leased address. -/
theorem secondRelease_ends_lease :
    LeasedTo defaultPool.pool.length 0x0a000002 firstClient afterRequest.server ∧
      (∃ after, next .stable quiet defaultConfig afterRequest.server
          (.handle (clientMessage secondClient 0x0a000002 [53, 1, 7, 54, 4, 10, 0, 0, 1, 255]) 10) =
            some after ∧ ¬ LeasedTo defaultPool.pool.length 0x0a000002 firstClient after) ∧
      ∃ handled, afterRequest.server.handleOpRequest .stable quiet defaultConfig
          (clientMessage secondClient 0x0a000003 [53, 1, 3, 50, 4, 10, 0, 0, 2, 255]) 10 =
            some handled ∧
        ∃ reply ∈ handled.reply, reply.messageType = dhcpAck ∧
          reply.message.yiaddr = 0x0a000002 ∧ reply.message.chaddr = secondClient := by
  have released : (next .stable quiet defaultConfig afterRequest.server
      (.handle (clientMessage secondClient 0x0a000002 [53, 1, 7, 54, 4, 10, 0, 0, 1, 255])
        10)).map (fun after =>
          decide (¬ LeasedTo defaultPool.pool.length 0x0a000002 firstClient after)) =
        some true := by decide +kernel
  have pinged : ((afterRequest.server.handleOpRequest .stable quiet defaultConfig
      (clientMessage secondClient 0x0a000003 [53, 1, 3, 50, 4, 10, 0, 0, 2, 255]) 10).bind
        Handled.reply).map (fun reply => decide (reply.messageType = dhcpAck ∧
          reply.message.yiaddr = 0x0a000002 ∧ reply.message.chaddr = secondClient)) =
        some true := by decide +kernel
  obtain ⟨after, step, ended⟩ := Option.map_eq_some_iff.mp released
  obtain ⟨reply, isReply, carries⟩ := Option.map_eq_some_iff.mp pinged
  obtain ⟨handled, isHandled, isReply⟩ := Option.bind_eq_some_iff.mp isReply
  exact ⟨by decide +kernel, ⟨after, step, of_decide_eq_true ended⟩, handled, isHandled, reply,
    isReply, of_decide_eq_true carries⟩

end FwkRtos.Dhcpd
